import WindowPlacement.Proofs.Expr.Printing
import WindowPlacement.Proofs.Inquiry.Stateless

/-!
# The value of an expression

Where each name has one value, the value of a tree can be read off the tree, and the order of
the lookups is of no account. The code of the tree then has this value if all of its names
are known. Otherwise it fails with one of those that are not.
-/

namespace WindowPlacement

namespace Expr

/-- The value of a tree whose names have the values given. The four operations are those of
floating-point numbers, with their rounding and their infinities. -/
def value (values : String → Float) : Expr → Float
  | .symbol name => values name
  | .number constant => constant
  | .binary .add left right => left.value values + right.value values
  | .binary .subtract left right => left.value values - right.value values
  | .binary .multiply left right => left.value values * right.value values
  | .binary .divide left right => left.value values / right.value values

/-- The value of a node is what the machine makes of the values of its operands. -/
theorem value_binary (values : String → Float) (operator : Operator) (left right : Expr) :
    (Expr.binary operator left right).value values =
      operator.apply (left.value values) (right.value values) := by
  cases operator <;> rfl

/-- The names that an operand needs before any leaf is looked up. A node is carried out as soon
as the instruction of its operator is reached. -/
def nodeSymbols (operand : Expr) : Set String :=
  match operand with
  | .binary _ _ _ => {name | name ∈ operand.symbols}
  | .symbol _ | .number _ => ∅

/-- The name that an operand needs if it is a leaf. A leaf is looked up when the operator next
to it is carried out. -/
def leafSymbols (operand : Expr) : Set String :=
  match operand with
  | .binary _ _ _ => ∅
  | .symbol _ | .number _ => {name | name ∈ operand.symbols}

/-- An operand needs its names either as a node or as a leaf. No operand has names of both
sorts. -/
theorem mem_symbols_iff (operand : Expr) (name : String) :
    name ∈ operand.symbols ↔ name ∈ operand.nodeSymbols ∨ name ∈ operand.leafSymbols := by
  cases operand <;> simp [nodeSymbols, leafSymbols]

/-- What is known of an operand once the nodes have been carried out. A leaf has not been looked
up by then, even if it is a constant. -/
def nodeValue (values : String → Float) (operand : Expr) : Option Float :=
  match operand with
  | .binary _ _ _ => some (operand.value values)
  | .symbol _ | .number _ => none

section Lookup

variable {lookup : String → Option Float} {values : String → Float}

/-- Carrying out an operand that is a node needs the names of the node. Nothing is needed for a
leaf, as nothing is done. -/
theorem whenNode_needs (operand : Expr) {run : Run Float}
    (needs : run.Needs lookup {name | name ∈ operand.symbols} (· = operand.value values)) :
    (operand.whenNode run).Needs lookup operand.nodeSymbols (· = operand.nodeValue values) := by
  cases operand with
  | symbol name => exact .pure rfl
  | number constant => exact .pure rfl
  | binary operator left right => exact needs.map some fun result same => congrArg some same

/-- Looking up an operand that is a leaf needs its name. Nothing is needed for a node, whose
value is already known. -/
theorem orLeaf_needs (operand : Expr) {run : Run Float}
    (needs : run.Needs lookup {name | name ∈ operand.symbols} (· = operand.value values)) :
    (orLeaf (operand.nodeValue values) run).Needs lookup operand.leafSymbols
      (· = operand.value values) := by
  cases operand with
  | symbol name => exact needs
  | number constant => exact needs
  | binary operator left right => exact .pure rfl

/-- The value of a tree needs all of its names. Where several names are unknown it does not say
which of them is reported; `outcome_binary` does.

Proof: induction on the tree. The four parts of an inner node together need the names of both
operands, whichever of them are leaves. -/
theorem interpret_needs
    (agrees : ∀ name value, lookup name = some value → values name = value) (expr : Expr) :
    (expr.interpret Machine.valueOf).Needs lookup {name | name ∈ expr.symbols}
      (· = expr.value values) := by
  induction expr with
  | symbol name =>
    have single : {other | other ∈ (Expr.symbol name).symbols} = {name} := by
      simp [symbols]
    rw [single]
    exact .valueOf agrees name
  | number constant =>
    have none : {name | name ∈ (Expr.number constant).symbols} = ∅ := by
      simp [symbols]
    rw [none]
    exact .pure rfl
  | binary operator left right leftHypothesis rightHypothesis =>
    have all : {name | name ∈ (Expr.binary operator left right).symbols} =
        left.nodeSymbols ∪ (right.nodeSymbols ∪ (right.leafSymbols ∪ (left.leafSymbols ∪ ∅))) := by
      ext name
      simp only [symbols, Set.mem_ofPred_eq, List.mem_append, mem_symbols_iff, Set.mem_union,
        Set.mem_empty_iff_false]
      tauto
    rw [all, interpret_binary, value_binary]
    refine (whenNode_needs left leftHypothesis).bind ?_
    rintro _ rfl
    refine (whenNode_needs right rightHypothesis).bind ?_
    rintro _ rfl
    refine (orLeaf_needs right rightHypothesis).bind ?_
    rintro _ rfl
    refine (orLeaf_needs left leftHypothesis).bind ?_
    rintro _ rfl
    exact .pure rfl

end Lookup

/-- The names that the code of a tree pushes are those of the tree, in the same order. A name
that occurs twice is pushed twice. -/
theorem filterMap_pushedName_operations (expr : Expr) :
    expr.operations.filterMap Operation.pushedName? = expr.symbols := by
  induction expr with
  | symbol name => rfl
  | number constant => rfl
  | binary operator left right leftHypothesis rightHypothesis =>
    simp [operations, symbols, leftHypothesis, rightHypothesis, Operation.pushedName?]

end Expr

namespace Code

/-- A text has a code exactly if it is that of an expression, whose code it is. So all that is
known of parsed trees holds of compiled texts. -/
theorem compile_eq_ok_iff (source : String) (code : Code) :
    Code.compile source = .ok code ↔
      ∃ tokens expr, Lexer.tokenize source = .ok tokens ∧ Grammar.parse tokens = .ok expr ∧
        code = .ofExpr expr := by
  constructor
  · intro compiled
    unfold Code.compile at compiled
    cases tokenized : Lexer.tokenize source with
    | error reason =>
      rw [tokenized] at compiled
      cases compiled
    | ok tokens =>
      cases parsed : Grammar.parse tokens with
      | error reason =>
        simp [tokenized, parsed, Except.mapError, bind, Except.bind] at compiled
      | ok expr =>
        simp only [tokenized, parsed, Except.mapError, bind, Except.bind, pure, Except.pure,
          Except.ok.injEq] at compiled
        exact ⟨tokens, expr, rfl, parsed, compiled.symm⟩
  · rintro ⟨tokens, expr, tokenized, parsed, rfl⟩
    exact Grammar.compile_eq_ok tokenized parsed

/-- The code of a tree needs the names that it pushes, and has the value of the tree. The values
are those of a function on all names, so that a name without one may be given any. -/
theorem ofExpr_run_needs {lookup : String → Option Float} {values : String → Float}
    (agrees : ∀ name value, lookup name = some value → values name = value) (expr : Expr) :
    (Code.ofExpr expr).run.Needs lookup {name | name ∈ (Code.ofExpr expr).variableNames}
      (· = some (expr.value values)) := by
  have names : (Code.ofExpr expr).variableNames = expr.symbols :=
    expr.filterMap_pushedName_operations
  rw [names, Code.run, Code.ofExpr, Machine.evaluate_operations]
  exact (Expr.interpret_needs agrees expr).map some fun result same => congrArg some same

end Code

end WindowPlacement
