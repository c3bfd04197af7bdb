import WindowPlacement.Proofs.Code.Postfix
import WindowPlacement.Proofs.Inquiry.Stateless

/-!
# Expressions with a gap

A context is an expression in which one part is missing. Any expression can be put into the
gap; the leaves on either side of it stay what they are, and so does the code in front of the
gap and behind it. The code of the part stands between the two, as one piece.

Where replies depend on the name alone, two parts are interchangeable if they come to the same
value, although the names around the gap are not asked for at the same time: a leaf in the gap
is looked up after the nodes around it, and a node is carried out before some of them. This
cannot be seen, because a part with a value does not fail, and the failures of the others keep
their order.
-/

namespace WindowPlacement

/-- The operand that an instruction pushes, if it pushes one. An instruction that applies an
operator takes its operands from the stack and has none of its own. -/
def Operation.pushedOperand? : Operation → Option Operand
  | .push operand => some operand
  | .apply _ => none

/-- The name that an operand is, as long as it has not been resolved. A value needs no lookup
and has no name. -/
def Operand.name? : Operand → Option String
  | .variable name => some name
  | .value _ => none

/-- The names that instructions push are the names among the operands that they push. A push of
a value has neither, and is passed over on both sides. -/
theorem Operation.filterMap_pushedName (operations : List Operation) :
    operations.filterMap pushedName? =
      (operations.filterMap pushedOperand?).filterMap Operand.name? := by
  rw [List.filterMap_filterMap]
  congr 1
  funext operation
  match operation with
  | .push (.variable _) | .push (.value _) | .apply _ => rfl

namespace Expr

/-- The leaves of an expression, from the left to the right. The inner nodes leave no trace in
it, so trees of different shapes may have the same leaves. -/
def leaves : Expr → List Operand
  | .symbol name => [.variable name]
  | .number value => [.value value]
  | .binary _ left right => left.leaves ++ right.leaves

/-- The code of a leaf pushes it and does nothing else. No other expression has a code of one
instruction. -/
theorem operations_ofOperand (operand : Operand) :
    (ofOperand operand).operations = [.push operand] := by
  cases operand <;> rfl

/-- A leaf is its own only leaf. Together with `operations_ofOperand` it is what an operand in a
gap amounts to. -/
theorem leaves_ofOperand (operand : Operand) : (ofOperand operand).leaves = [operand] := by
  cases operand <;> rfl

/-- The code of an expression pushes its leaves in order. Only the operators move in the code;
the operands stand as they do in the text. -/
theorem filterMap_pushedOperand_operations (expr : Expr) :
    expr.operations.filterMap Operation.pushedOperand? = expr.leaves := by
  induction expr with
  | symbol name => rfl
  | number value => rfl
  | binary operator left right leftHypothesis rightHypothesis =>
    simp [operations, leaves, leftHypothesis, rightHypothesis, Operation.pushedOperand?]

/-- An expression in which one part is missing. It has exactly one gap, so what is put in is
neither copied nor dropped. -/
inductive Context where
  /-- Everything is missing. -/
  | gap
  /-- The gap is in the left operand. -/
  | inLeft (operator : Operator) (context : Context) (right : Expr)
  /-- The gap is in the right operand. -/
  | inRight (operator : Operator) (left : Expr) (context : Context)

namespace Context

/-- Puts an expression into the gap. Nothing is renamed on the way: the language binds no
names. -/
def plug : Context → Expr → Expr
  | .gap, part => part
  | .inLeft operator context right, part => .binary operator (context.plug part) right
  | .inRight operator left context, part => .binary operator left (context.plug part)

/-- The leaves in front of the gap. A gap in a right operand has the whole left operand in front
of it. -/
def leavesBefore : Context → List Operand
  | .gap => []
  | .inLeft _ context _ => context.leavesBefore
  | .inRight _ left context => left.leaves ++ context.leavesBefore

/-- The leaves behind the gap. A gap in a left operand has the whole right operand behind it. -/
def leavesAfter : Context → List Operand
  | .gap => []
  | .inLeft _ context right => context.leavesAfter ++ right.leaves
  | .inRight _ _ context => context.leavesAfter

/-- The code in front of that of the gap. No operator that the gap is an operand of is among it,
because an operator stands behind its operands. -/
def codeBefore : Context → List Operation
  | .gap => []
  | .inLeft _ context _ => context.codeBefore
  | .inRight _ left context => left.operations ++ context.codeBefore

/-- The code behind that of the gap. The operators on the path to the gap are all here, the
innermost one first. -/
def codeAfter : Context → List Operation
  | .gap => []
  | .inLeft operator context right => context.codeAfter ++ right.operations ++ [.apply operator]
  | .inRight operator _ context => context.codeAfter ++ [.apply operator]

/-- The leaves of the part in the gap stand between the others. This holds of every part, so the
leaves around the gap are a property of the context alone. -/
theorem leaves_plug (context : Context) (part : Expr) :
    (context.plug part).leaves = context.leavesBefore ++ part.leaves ++ context.leavesAfter := by
  induction context with
  | gap => simp [plug, leavesBefore, leavesAfter]
  | inLeft operator context right inductionHypothesis =>
    simp [plug, leaves, leavesBefore, leavesAfter, inductionHypothesis]
  | inRight operator left context inductionHypothesis =>
    simp [plug, leaves, leavesBefore, leavesAfter, inductionHypothesis]

/-- The code of the part in the gap is one piece of the code of the whole. In particular two
parts change the code only where they themselves stand. -/
theorem operations_plug (context : Context) (part : Expr) :
    (context.plug part).operations =
      context.codeBefore ++ part.operations ++ context.codeAfter := by
  induction context with
  | gap => simp [plug, codeBefore, codeAfter]
  | inLeft operator context right inductionHypothesis =>
    simp [plug, operations, codeBefore, codeAfter, inductionHypothesis]
  | inRight operator left context inductionHypothesis =>
    simp [plug, operations, codeBefore, codeAfter, inductionHypothesis]

/-- The code in front of the gap pushes the leaves in front of it. So the values that wait on
the stack when the gap is reached belong to leaves in front of it. -/
theorem filterMap_pushedOperand_codeBefore (context : Context) :
    context.codeBefore.filterMap Operation.pushedOperand? = context.leavesBefore := by
  induction context with
  | gap => rfl
  | inLeft operator context right inductionHypothesis => exact inductionHypothesis
  | inRight operator left context inductionHypothesis =>
    rw [codeBefore, List.filterMap_append, filterMap_pushedOperand_operations, inductionHypothesis,
      leavesBefore]

end Context

/-! ## Values without a state -/

/-- An expression is a node with two operands. The machine looks a leaf up only when it is
needed, and carries a node out at once, so the two differ in when they fail. -/
def isNode : Expr → Bool
  | .binary _ _ _ => true
  | .symbol _ | .number _ => false

/-- What comes of an expression where each name always gets the same reply. There is no state
here that could change, so the order of the lookups shows only in which failure comes first. -/
def outcome (lookup : String → Option Float) (expr : Expr) : Except RunError Float :=
  (expr.interpret Machine.valueOf).outcome lookup

variable {lookup : String → Option Float}

/-- An operand is run ahead of the leaves if it is a node. A leaf is not looked up here, and
cannot fail yet. -/
theorem outcome_whenNode (operand : Expr) (run : Run Float) :
    (operand.whenNode run).outcome lookup =
      if operand.isNode then some <$> run.outcome lookup else .ok none := by
  cases operand with
  | symbol name => rfl
  | number value => rfl
  | binary operator left right =>
    rw [whenNode, map_eq_pure_bind, Run.outcome_bind]
    cases run.outcome lookup <;> rfl

/-- The operands of a node are run one after the other: the left one first if it is a node
itself, and the right one first if the left one is a leaf. This is the order in which the
machine gets to know them, and it decides which unknown name is reported where both operands
have one. -/
theorem outcome_binary (operator : Operator) (left right : Expr) :
    outcome lookup (.binary operator left right) =
      (if left.isNode then do
        let leftValue ← left.outcome lookup
        let rightValue ← right.outcome lookup
        return operator.apply leftValue rightValue
      else do
        let rightValue ← right.outcome lookup
        let leftValue ← left.outcome lookup
        return operator.apply leftValue rightValue) := by
  have leaf (node : Option Float) (run : Run Float) :
      (orLeaf node run).outcome lookup = node.elim (run.outcome lookup) .ok := by
    cases node <;> rfl
  have returned (value : Float) : (pure value : Run Float).outcome lookup = .ok value := rfl
  unfold outcome
  simp only [interpret_binary, Run.outcome_bind, outcome_whenNode, leaf, returned]
  cases left.isNode <;> cases right.isNode <;>
    cases (left.interpret Machine.valueOf).outcome lookup <;>
    cases (right.interpret Machine.valueOf).outcome lookup <;> rfl

/-- Two expressions are interchangeable as operands: they come to the same, and if they fail,
both are nodes or both are leaves. The second part is needed for failures only: a leaf and a
node that fail alike do so at different times, and another name around them might be reported
instead. -/
def Interchangeable (lookup : String → Option Float) (one other : Expr) : Prop :=
  one.outcome lookup = other.outcome lookup ∧
    (one.isNode = other.isNode ∨ ∃ value, other.outcome lookup = .ok value)

/-- Nodes are interchangeable if their left operands are and their right operands come to the
same. The results are nodes, so they are interchangeable in what surrounds them, whatever the
right operands are. -/
theorem Interchangeable.binary {one other right another : Expr} (operator : Operator)
    (left : Interchangeable lookup one other)
    (same : right.outcome lookup = another.outcome lookup) :
    Interchangeable lookup (.binary operator one right) (.binary operator other another) := by
  obtain ⟨agree, kind⟩ := left
  refine ⟨?_, Or.inl rfl⟩
  rw [outcome_binary, outcome_binary, agree, same]
  rcases kind with alike | ⟨value, ended⟩
  · rw [alike]
  · -- The left operand has a value, so that it does not matter when it is run.
    have anyTime (combine : Float → Float → Float) (reply : Except RunError Float) :
        (do
          let rightValue ← reply
          let leftValue ← (.ok value : Except RunError Float)
          return combine leftValue rightValue) = do
          let leftValue ← (.ok value : Except RunError Float)
          let rightValue ← reply
          return combine leftValue rightValue := by
      cases reply <;> rfl
    simp only [ended, anyTime, ite_self]

/-- What is interchangeable stays so in every context. The context may have names without a
value; the failure is then the same on both sides.

Proof: induction on the context, from the gap outwards. -/
theorem Interchangeable.plug {one other : Expr} (same : Interchangeable lookup one other)
    (context : Context) : Interchangeable lookup (context.plug one) (context.plug other) := by
  induction context with
  | gap => exact same
  | inLeft operator context right inductionHypothesis =>
    exact inductionHypothesis.binary operator rfl
  | inRight operator left context inductionHypothesis =>
    exact .binary operator ⟨rfl, Or.inl rfl⟩ inductionHypothesis.1

end Expr

/-- The code of an operand alone resolves it. A name is looked up although no operator asks for
it: the last value on the stack is resolved in the end. -/
theorem Machine.evaluate_push (operand : Operand) :
    evaluate [.push operand] = some <$> resolve operand := by
  simp only [evaluate, steps, step, pure_bind, top]

/-! ## Environments without a state -/

/-- The replies of an environment depend on the name alone. The state may change with each name,
but no reply shows it. A screen that is read once is such an environment; one that counts its
lookups, and answers accordingly, is not. -/
def Environment.IsStateless {σ : Type} (environment : Environment σ) : Prop :=
  ∀ state other name, (environment.reply state name).1 = (environment.reply other name).1

/-- The replies of an environment in a state. In a stateless environment it is the same function
in each state. -/
def Environment.lookupIn {σ : Type} (environment : Environment σ) (state : σ) (name : String) :
    Option Float :=
  (environment.reply state name).1

/-- In a stateless environment the answer is that of the replies in any one state. Nothing is
said about the state in which the run ends, which may well differ. -/
theorem Environment.IsStateless.run_answer {σ α : Type} {environment : Environment σ}
    (stateless : environment.IsStateless) (inquiry : Inquiry α) (state other : σ) :
    (inquiry.run environment state).answer = inquiry.answerWith (environment.lookupIn other) := by
  induction inquiry generalizing state with
  | answer value => rfl
  | ask name next inductionHypothesis =>
    rw [Inquiry.answerWith, lookupIn, stateless other state name]
    exact inductionHypothesis _ _

/-- In a stateless environment the code of an expression comes to what the expression does. The
result is never missing, because the code of an expression is not empty. -/
theorem Environment.IsStateless.ofExpr_run_answer {σ : Type} {environment : Environment σ}
    (stateless : environment.IsStateless) (expr : Expr) (state : σ) :
    ((Code.ofExpr expr).run.transcript environment state).answer =
      (expr.outcome (environment.lookupIn state)).map some := by
  rw [Code.run, Code.ofExpr, Machine.evaluate_operations, Run.transcript_map]
  exact congrArg (Except.map some) (stateless.run_answer _ state state)

/-- Parts that come to the same value may be exchanged in the code of an expression, if the
environment is stateless: the whole has the same value or the same failure. Both parts are asked
to have a value in the state in which the whole is run; a part without one could be reported in
place of another name. -/
theorem Environment.IsStateless.run_plug {σ : Type} {environment : Environment σ}
    (stateless : environment.IsStateless) {part other : Expr} {state : σ} {value : Float}
    (partEnds : ((Code.ofExpr part).run.transcript environment state).answer = .ok (some value))
    (otherEnds : ((Code.ofExpr other).run.transcript environment state).answer = .ok (some value))
    (context : Expr.Context) :
    ((Code.ofExpr (context.plug part)).run.transcript environment state).answer =
      ((Code.ofExpr (context.plug other)).run.transcript environment state).answer := by
  have hasValue {expr : Expr} (ended : ((Code.ofExpr expr).run.transcript environment state).answer
      = .ok (some value)) : expr.outcome (environment.lookupIn state) = .ok value := by
    rw [stateless.ofExpr_run_answer] at ended
    cases reached : expr.outcome (environment.lookupIn state) with
    | error reason =>
      rw [reached] at ended
      cases ended
    | ok result =>
      rw [reached] at ended
      cases ended
      rfl
  have same : Expr.Interchangeable (environment.lookupIn state) part other :=
    ⟨(hasValue partEnds).trans (hasValue otherEnds).symm, Or.inr ⟨value, hasValue otherEnds⟩⟩
  rw [stateless.ofExpr_run_answer, stateless.ofExpr_run_answer, (same.plug context).1]

end WindowPlacement
