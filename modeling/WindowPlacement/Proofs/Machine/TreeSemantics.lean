import WindowPlacement.Proofs.Inquiry.Transcript

/-!
# The value of an expression tree

The tree semantics says in which order a tree asks for its names. An inner node first
carries out the operands that are nodes themselves, the left one before the right one;
only then are the operands that are leaves looked up, the right one before the left
one. A tree that is a single symbol is looked up, and a number is its own value.

The code of an expression, run on the stack machine, has this value in every
environment, and asks the environment exactly the names of the tree semantics in the
same order, up to and including the first name without a value. An environment may be
stateful: a reply may depend on all names that were asked for before.
-/

namespace WindowPlacement

namespace Expr

section Interpretation

variable {m : Type → Type} [Monad m]

/-- The value of an operand that is an inner node. A leaf is not looked up yet. It does not
matter here what the value of a leaf would be. -/
def whenNode (operand : Expr) (value : m Float) : m (Option Float) :=
  match operand with
  | .binary _ _ _ => some <$> value
  | .symbol _ | .number _ => pure none

/-- The value of an operand that was an inner node, or else that of the leaf. If there is a
value, the leaf is not looked up. -/
def orLeaf (node : Option Float) (leaf : m Float) : m Float :=
  match node with
  | some value => pure value
  | none => leaf

/-- The value of a tree, where `lookUp` gives values to names. The four operations are those of
doubles, written out here, so that the tree semantics owes nothing to the machine. It is a
reference for what an expression means: it has no stack, and it serves for any way of looking
names up. -/
def interpret (lookUp : String → m Float) : Expr → m Float
  | .number value => pure value
  | .symbol name => lookUp name
  | .binary operator left right => do
    let leftNode ← whenNode left (left.interpret lookUp)
    let rightNode ← whenNode right (right.interpret lookUp)
    let rightValue ← orLeaf rightNode (right.interpret lookUp)
    let leftValue ← orLeaf leftNode (left.interpret lookUp)
    match operator with
    | .add => pure (leftValue + rightValue)
    | .subtract => pure (leftValue - rightValue)
    | .multiply => pure (leftValue * rightValue)
    | .divide => pure (leftValue / rightValue)

/-- The machine applies to the operands of a node the operation that the tree semantics writes
out. The four operations are compared here and in `value_binary`, and nowhere else. -/
theorem interpret_binary (lookUp : String → m Float) (operator : Operator) (left right : Expr) :
    (Expr.binary operator left right).interpret lookUp = (do
      let leftNode ← whenNode left (left.interpret lookUp)
      let rightNode ← whenNode right (right.interpret lookUp)
      let rightValue ← orLeaf rightNode (right.interpret lookUp)
      let leftValue ← orLeaf leftNode (left.interpret lookUp)
      pure (operator.apply leftValue rightValue)) := by
  cases operator <;> rfl

end Interpretation

/-- What the code of a tree leaves on the stack. A leaf is left as it stands, so that a symbol
has not been looked up; an inner node has been carried out. This is what lets the induction go
through: code in the middle of other code leaves symbols for later. -/
def leftover : Expr → Run Operand
  | .symbol name => pure (.variable name)
  | .number value => pure (.value value)
  | .binary operator left right =>
    Operand.value <$> (Expr.binary operator left right).interpret Machine.valueOf

/-- Resolving what the code of a tree leaves yields the value of the tree. The value of a node
is resolved without a lookup. -/
theorem leftover_resolve (expr : Expr) :
    expr.leftover >>= Machine.resolve = expr.interpret Machine.valueOf := by
  cases expr with
  | symbol name => simp only [leftover, pure_bind, Machine.resolve, interpret]
  | number value => simp only [leftover, pure_bind, Machine.resolve, interpret]
  | binary operator left right =>
    simp only [leftover, map_eq_pure_bind, bind_assoc, pure_bind, Machine.resolve, bind_pure]

/-- The operator of a node finds two operands on the stack and resolves the right one first.
Operands that are nodes are values by then, so this is the order of the tree. This is the only
place where the order of the lookups on the stack and that in the tree are compared. -/
theorem leftover_binary (operator : Operator) (left right : Expr) :
    (do
      let leftOperand ← left.leftover
      let rightOperand ← right.leftover
      let rightValue ← Machine.resolve rightOperand
      let leftValue ← Machine.resolve leftOperand
      pure (Operand.value (operator.apply leftValue rightValue))) =
    (Expr.binary operator left right).leftover := by
  change _ = Operand.value <$> (Expr.binary operator left right).interpret Machine.valueOf
  rw [interpret_binary]
  cases left <;> cases right <;>
    simp only [leftover, interpret, whenNode, orLeaf, Machine.resolve, map_eq_pure_bind,
      bind_assoc, pure_bind]

end Expr

namespace Machine

/-- The code of a tree, with any operations after it and on any stack, leaves exactly one
operand on that stack and asks for what the tree asks for. The rest may be any code at all, even
code that runs out of operands.

Proof: induction on the tree. The code of the left operand is followed by that of the right one
and the operator, and the code of the right operand finds what the left one left on the
stack. -/
theorem steps_operations (expr : Expr) (stack : List Operand) (rest : List Operation) :
    steps stack (expr.operations ++ rest) =
      expr.leftover >>= fun operand => steps (operand :: stack) rest := by
  induction expr generalizing stack rest with
  | symbol name => simp only [Expr.operations, Expr.leftover, List.cons_append, List.nil_append,
      steps, step, pure_bind]
  | number value => simp only [Expr.operations, Expr.leftover, List.cons_append, List.nil_append,
      steps, step, pure_bind]
  | binary operator left right leftHypothesis rightHypothesis =>
    rw [← Expr.leftover_binary]
    simp only [Expr.operations, List.append_assoc, leftHypothesis, rightHypothesis,
      List.cons_append, List.nil_append, steps, step, bind_assoc, pure_bind]

/-- Running the code of a tree yields the value of the tree, never nothing. Both sides are runs,
so they agree on what they ask for as well as on the value. -/
theorem evaluate_operations (expr : Expr) :
    evaluate expr.operations = some <$> expr.interpret valueOf := by
  have whole : steps [] expr.operations =
      expr.leftover >>= fun operand => pure [operand] := by
    simpa only [List.append_nil, steps] using steps_operations expr [] []
  rw [evaluate, whole, ← Expr.leftover_resolve]
  simp only [bind_assoc, pure_bind, top, map_eq_pure_bind]

end Machine

/-- Computations that look up names one after another. They fail with a name that has no value;
beside the state of the environment they keep the names asked for so far. It is ordinary
stateful computation with a failure, built without inquiries or runs. -/
abbrev Lookups (σ α : Type) : Type := ExceptT String (StateM (List String × σ)) α

/-- Looks up one name. The name is recorded before the reply is looked at, so a name that fails
is among those asked for. -/
def Environment.lookUp {σ : Type} (environment : Environment σ) (name : String) :
    Lookups σ Float := do
  let (asked, state) ← get
  let (reply, later) := environment.reply state name
  set (asked ++ [name], later)
  match reply with
  | some value => return value
  | none => throw name

/-- A lookup puts its name behind those asked for before, whatever the reply is. The state
afterwards is that of the environment, even if the lookup fails. -/
theorem Environment.lookUp_run {σ : Type} (environment : Environment σ) (name : String)
    (asked : List String) (state : σ) :
    (environment.lookUp name).run.run (asked, state) =
      (match (environment.reply state name).1 with
        | some value => .ok value
        | none => .error name, asked ++ [name], (environment.reply state name).2) := by
  unfold Environment.lookUp
  change StateT.run (ExceptT.run (match (environment.reply state name).1 with
    | some value => (pure value : Lookups σ Float)
    | none => throw name)) (asked ++ [name], (environment.reply state name).2) = _
  cases (environment.reply state name).1 <;> rfl

namespace Run

variable {σ α β : Type}

/-- In every state a run and a computation by lookups have the same outcome, ask for the same
names and leave the same state. The names asked for before are arbitrary. Failures correspond
too: a run fails for an unknown name where the computation throws that name. -/
def Follows (environment : Environment σ) (run : Run α) (lookups : Lookups σ α) : Prop :=
  ∀ (asked : List String) (state : σ), ∃ outcome : Except String α,
    lookups.run.run (asked, state) =
      (outcome, asked ++ (transcript environment run state).asked,
        (transcript environment run state).state) ∧
    (transcript environment run state).answer = outcome.mapError .unknownVariable

/-- A value without lookups is followed by a value without lookups. Neither changes the
state. -/
theorem Follows.pure (environment : Environment σ) (value : α) :
    Follows environment (pure value) (pure value) := by
  intro asked state
  refine ⟨.ok value, ?_, rfl⟩
  rw [transcript_pure, List.append_nil]
  rfl

/-- The machine looks up a name as the environment does. Either side asks for that name and for
nothing else. -/
theorem Follows.valueOf (environment : Environment σ) (name : String) :
    Follows environment (Machine.valueOf name) (environment.lookUp name) := by
  intro asked state
  rw [transcript_valueOf]
  cases replied : (environment.reply state name).1 with
  | none => exact ⟨.error name, by rw [Environment.lookUp_run, replied], rfl⟩
  | some value => exact ⟨.ok value, by rw [Environment.lookUp_run, replied], rfl⟩

/-- Computations that follow each other part by part follow each other as a whole. After a
failure neither side asks for anything more. The second part has to follow for every value,
although only one value comes up. -/
theorem Follows.bind (environment : Environment σ) (first : Run α) (next : α → Run β)
    (firstLookups : Lookups σ α) (nextLookups : α → Lookups σ β)
    (begins : Follows environment first firstLookups)
    (continues : ∀ value, Follows environment (next value) (nextLookups value)) :
    Follows environment (first >>= next) (firstLookups >>= nextLookups) := by
  intro asked state
  obtain ⟨outcome, ran, same⟩ := begins asked state
  cases outcome with
  | error name =>
    refine ⟨.error name, ?_, ?_⟩
    · rw [transcript_bind_error environment first next state _ same]
      rw [ExceptT.run_bind, StateT.run_bind, ran]
      rfl
    · rw [transcript_bind_error environment first next state _ same]
      rfl
  | ok value =>
    obtain ⟨final, finished, agreed⟩ := continues value
      (asked ++ (transcript environment first state).asked)
      (transcript environment first state).state
    refine ⟨final, ?_, ?_⟩
    · rw [transcript_bind_ok environment first next state value same]
      rw [ExceptT.run_bind, StateT.run_bind, ran]
      exact finished.trans (by simp only [Transcript.behind, List.append_assoc])
    · rw [transcript_bind_ok environment first next state value same]
      exact agreed

/-- The value of a tree is looked up alike by the machine and by the environment. Both sides are
the same tree semantics with different ways of looking up a name.

Proof: induction on the tree. Each of the four parts of an inner node either has a value without
lookups or is the value of an operand. -/
theorem Follows.interpret (environment : Environment σ) (expr : Expr) :
    Follows environment (expr.interpret Machine.valueOf)
      (expr.interpret environment.lookUp) := by
  have whenNode (operand : Expr) (run : Run Float) (lookups : Lookups σ Float)
      (follows : Follows environment run lookups) :
      Follows environment (operand.whenNode run) (operand.whenNode lookups) := by
    cases operand with
    | symbol name => exact Follows.pure environment none
    | number value => exact Follows.pure environment none
    | binary operator left right =>
      simp only [Expr.whenNode, map_eq_pure_bind]
      exact Follows.bind environment _ _ _ _ follows fun value =>
        Follows.pure environment (some value)
  have orLeaf (node : Option Float) (run : Run Float) (lookups : Lookups σ Float)
      (follows : Follows environment run lookups) :
      Follows environment (Expr.orLeaf node run) (Expr.orLeaf node lookups) := by
    cases node with
    | none => exact follows
    | some value => exact Follows.pure environment value
  induction expr with
  | symbol name => exact Follows.valueOf environment name
  | number value => exact Follows.pure environment value
  | binary operator left right leftHypothesis rightHypothesis =>
    rw [Expr.interpret_binary, Expr.interpret_binary]
    refine Follows.bind environment _ _ _ _ (whenNode left _ _ leftHypothesis) fun leftNode => ?_
    refine Follows.bind environment _ _ _ _ (whenNode right _ _ rightHypothesis) fun rightNode => ?_
    refine Follows.bind environment _ _ _ _ (orLeaf rightNode _ _ rightHypothesis)
      fun rightValue => ?_
    refine Follows.bind environment _ _ _ _ (orLeaf leftNode _ _ leftHypothesis) fun leftValue => ?_
    exact Follows.pure environment _

end Run

/-- Compiled code has the value of its tree in every environment, asks for the names of the tree
in the order of the tree, and leaves the environment in the state in which the lookups of the
tree leave it. A run of compiled code fails only with the first name that has no value; it never
runs out of operands and always has a result. The arithmetic on the right-hand side is the one
of the tree semantics, in which an operator has its left operand first. -/
theorem Machine.evaluate_operations_interpret {σ : Type} (environment : Environment σ)
    (state : σ) (expr : Expr) :
    let transcript := (Machine.evaluate expr.operations).run.run environment state
    let reference := (expr.interpret environment.lookUp).run.run ([], state)
    transcript.answer =
        (match reference.1 with
        | .ok value => .ok (some value)
        | .error name => .error (.unknownVariable name)) ∧
      transcript.asked = reference.2.1 ∧ transcript.state = reference.2.2 := by
  obtain ⟨outcome, looked, same⟩ := Run.Follows.interpret environment expr [] state
  have ran : (Machine.evaluate expr.operations).run.run environment state =
      ⟨(outcome.mapError .unknownVariable).map some,
        (Run.transcript environment (expr.interpret Machine.valueOf) state).asked,
        (Run.transcript environment (expr.interpret Machine.valueOf) state).state⟩ := by
    rw [Machine.evaluate_operations, ← same]
    exact Run.transcript_map environment some _ state
  simp only [ran, looked, List.nil_append, and_self, and_true]
  cases outcome <;> rfl

end WindowPlacement
