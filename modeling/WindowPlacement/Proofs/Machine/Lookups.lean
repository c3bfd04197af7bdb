import Mathlib.Algebra.Order.Group.Multiset
import Mathlib.Data.Multiset.Count
import WindowPlacement.Proofs.Expr.Context

/-!
# Which names a run asks for

A name that is pushed is owed a lookup. It stays on the stack until an operator takes it, or
until it is the result, and then it is asked for once; what is not taken is not asked for. So the
names that a run of unchecked code asks for, counted with repeats, are some of those that the code
pushes. If the run succeeds, the others are still on the stack, below the result.

What a run asks for is all that it learns of its environment. Where no reply depends on the state,
two environments that agree on these names cannot be told apart by the run.
-/

namespace WindowPlacement

variable {σ τ α β : Type}

/-- The names of the operands on a stack that have not been resolved. Their order on the stack
is dropped, because names are counted and not arranged here. -/
def pendingNames (stack : List Operand) : Multiset String := stack.filterMap Operand.name?

/-- The names that instructions push. A name that is pushed twice is owed two lookups. -/
def pushedNames (operations : List Operation) : Multiset String :=
  operations.filterMap Operation.pushedName?

/-- Nothing is pending on the empty stack. A run begins like this, so it owes only what its code
pushes. -/
@[simp] theorem pendingNames_nil : pendingNames [] = 0 := rfl

/-- A name on top of the stack is pending. It has to be looked up again even if the same name
has been looked up before. -/
@[simp] theorem pendingNames_variable (name : String) (below : List Operand) :
    pendingNames (.variable name :: below) = name ::ₘ pendingNames below := rfl

/-- A value is not pending. Constants and results that have been computed are alike in this. -/
@[simp] theorem pendingNames_value (value : Float) (below : List Operand) :
    pendingNames (.value value :: below) = pendingNames below := rfl

/-- A variable is pushed as its name. The stack on which it is pushed does not matter. -/
@[simp] theorem pushedNames_variable (name : String) (rest : List Operation) :
    pushedNames (.push (.variable name) :: rest) = name ::ₘ pushedNames rest := rfl

/-- A value is pushed without a name. It can never be reported as unknown. -/
@[simp] theorem pushedNames_value (value : Float) (rest : List Operation) :
    pushedNames (.push (.value value) :: rest) = pushedNames rest := rfl

/-- An operator pushes no name. It resolves names that have been pushed before. -/
@[simp] theorem pushedNames_apply (operator : Operator) (rest : List Operation) :
    pushedNames (.apply operator :: rest) = pushedNames rest := rfl

namespace Run

/-- In every state a run asks for some of the names that it owes. A value leaves all the others
owed. After a failure, what remains owed is not said: it is still on the stack, which a failure
does not show. -/
structure Pays (environment : Environment σ) (owed : Multiset String)
    (remaining : α → Multiset String) (run : Run α) : Prop where
  value : ∀ state result, (transcript environment run state).answer = .ok result →
    owed = (transcript environment run state).asked + remaining result
  failure : ∀ state reason, (transcript environment run state).answer = .error reason →
    ((transcript environment run state).asked : Multiset String) ≤ owed

namespace Pays

variable {environment : Environment σ}

/-- Whatever the outcome, nothing is asked for but what is owed. A name is asked for at most as
often as it is owed. -/
theorem asked_le {owed : Multiset String} {remaining : α → Multiset String} {run : Run α}
    (pays : Pays environment owed remaining run) (state : σ) :
    ((transcript environment run state).asked : Multiset String) ≤ owed := by
  cases ended : (transcript environment run state).answer with
  | error reason => exact pays.failure state reason ended
  | ok result =>
    rw [pays.value state result ended]
    exact Multiset.le_add_right _ _

/-- A value asks for nothing. All that was owed remains so. -/
theorem pure {owed : Multiset String} {remaining : α → Multiset String} {result : α}
    (same : owed = remaining result) : Pays environment owed remaining (pure result) where
  value := by
    intro state other answered
    cases answered
    exact same.trans (zero_add _).symm
  failure := by
    intro state reason impossible
    cases impossible

/-- A failure without lookups asks for nothing. This is how a run ends that finds too few
operands. -/
theorem throw {owed : Multiset String} {remaining : α → Multiset String} (reason : RunError) :
    Pays environment owed remaining (throw reason) where
  value := by
    intro state result impossible
    cases impossible
  failure := fun _ _ _ => Multiset.zero_le owed

/-- A second part pays from what the first part leaves owed. What the first part leaves may
depend on its value, and the stack is part of it. -/
theorem bind {owed : Multiset String} {remaining : α → Multiset String}
    {left : β → Multiset String} {first : Run α} {next : α → Run β}
    (begins : Pays environment owed remaining first)
    (continues : ∀ result, Pays environment (remaining result) left (next result)) :
    Pays environment owed left (first >>= next) := by
  constructor
  · intro state result answered
    cases reached : (transcript environment first state).answer with
    | error reason =>
      rw [transcript_bind_error environment first next state reason reached] at answered
      cases answered
    | ok middle =>
      rw [transcript_bind_ok environment first next state middle reached] at answered ⊢
      rw [begins.value state middle reached, (continues middle).value _ result answered,
        Transcript.behind, ← Multiset.coe_add, add_assoc]
  · intro state reason failed
    cases reached : (transcript environment first state).answer with
    | error earlier =>
      rw [transcript_bind_error environment first next state earlier reached]
      exact begins.asked_le state
    | ok middle =>
      rw [transcript_bind_ok environment first next state middle reached,
        begins.value state middle reached, Transcript.behind, ← Multiset.coe_add]
      exact add_le_add_right ((continues middle).asked_le _) _

/-- Looking up a name asks for it, once. It is asked for whether it has a value or not. -/
theorem valueOf (name : String) (others : Multiset String) :
    Pays environment (name ::ₘ others) (fun _ => others) (Machine.valueOf name) where
  value := by
    intro state result _
    rw [transcript_valueOf]
    exact (Multiset.singleton_add name others).symm
  failure := by
    intro state reason _
    rw [transcript_valueOf]
    exact Multiset.singleton_le.mpr (Multiset.mem_cons_self name others)

/-- Resolving the operand on top asks for it if it is a name. `later` is what the instructions
behind will push, which is owed already. -/
theorem resolve (operand : Operand) (below : List Operand) (later : Multiset String) :
    Pays environment (pendingNames (operand :: below) + later)
      (fun _ => pendingNames below + later) (Machine.resolve operand) := by
  match operand with
  | .variable name =>
    rw [pendingNames_variable, Multiset.cons_add]
    exact valueOf name _
  | .value value =>
    rw [pendingNames_value]
    exact pure rfl

/-- One instruction: a push makes a name pending, and an operator asks for what it takes. An
operator takes both operands before it resolves either; if there are fewer than two, it fails
and asks for nothing. -/
theorem step (stack : List Operand) (operation : Operation) (rest : List Operation) :
    Pays environment (pendingNames stack + pushedNames (operation :: rest))
      (fun next => pendingNames next + pushedNames rest) (Machine.step stack operation) := by
  match operation with
  | .push (.variable name) =>
    refine pure ?_
    rw [pushedNames_variable, pendingNames_variable, Multiset.add_cons, Multiset.cons_add]
  | .push (.value value) =>
    refine pure ?_
    rw [pushedNames_value, pendingNames_value]
  | .apply operator =>
    rw [pushedNames_apply]
    match stack with
    | right :: left :: below =>
      refine bind (resolve right (left :: below) (pushedNames rest)) fun rightValue => ?_
      refine bind (resolve left below (pushedNames rest)) fun leftValue => ?_
      refine pure ?_
      rw [pendingNames_value]
    | [_] | [] => exact throw .stackUnderflow

/-- Instructions in a row ask for names that were pending or that they push. All the others are
pending afterwards. There may be too few operands at any point, and the code need not be that of
an expression.

Proof: induction on the instructions. Those that follow pay from what the first one leaves. -/
theorem steps (stack : List Operand) (operations : List Operation) :
    Pays environment (pendingNames stack + pushedNames operations) pendingNames
      (Machine.steps stack operations) := by
  induction operations generalizing stack with
  | nil => exact pure (add_zero _)
  | cons operation rest inductionHypothesis =>
    exact bind (step stack operation rest) inductionHypothesis

/-- At the end only the last operand is asked for. What lies below it is dropped, with the names
in it. -/
theorem top (stack : List Operand) :
    Pays environment (pendingNames stack) (fun _ => pendingNames stack.tail)
      (Machine.top stack) := by
  match stack with
  | [] => exact pure rfl
  | operand :: below =>
    rw [Machine.top, map_eq_pure_bind, ← add_zero (pendingNames (operand :: below))]
    refine bind (resolve operand below 0) fun value => ?_
    exact pure (add_zero _)

end Pays

end Run

/-- Where no reply depends on the state, an inquiry has the same answer in two environments if
they agree on the names that it asks for in one of them, and it asks for the same names. The two
environments may have states of different types.

Proof: induction on the inquiry. A name that is asked for has the same reply in both, so that
the inquiry goes on alike. -/
theorem Inquiry.run_congr {one : Environment σ} {other : Environment τ}
    (oneStateless : one.IsStateless) (otherStateless : other.IsStateless) {state : σ} {start : τ}
    {inquiry : Inquiry α} (agree : ∀ name ∈ (inquiry.run one state).asked,
      other.lookupIn start name = one.lookupIn state name) :
    (inquiry.run other start).answer = (inquiry.run one state).answer ∧
      (inquiry.run other start).asked = (inquiry.run one state).asked := by
  induction inquiry generalizing state start with
  | answer value => exact ⟨rfl, rfl⟩
  | ask name next inductionHypothesis =>
    have same : (other.reply start name).1 = (one.reply state name).1 :=
      agree name List.mem_cons_self
    have later : ∀ asked ∈ ((next (one.reply state name).1).run one
        (one.reply state name).2).asked, other.lookupIn (other.reply start name).2 asked =
          one.lookupIn (one.reply state name).2 asked := by
      intro asked member
      have before := agree asked (List.mem_cons_of_mem name member)
      exact (otherStateless _ start asked).trans (before.trans (oneStateless state _ asked))
    obtain ⟨answers, names⟩ := inductionHypothesis _ later
    simp only [run, same]
    exact ⟨answers, congrArg (name :: ·) names⟩

namespace Machine

/-- A run asks for names that the code pushes. If it succeeds, the instructions have left a
stack whose last operand is the result, and all the other names that the code pushes are below
that operand. `evaluate_asks_each_once` says the same of the variable names as the code lists
them. -/
theorem evaluate_pays (environment : Environment σ) (state : σ) (operations : List Operation) :
    let run := Run.transcript environment (evaluate operations) state
    let loop := Run.transcript environment (steps [] operations) state
    (run.asked : Multiset String) ≤ pushedNames operations ∧
      ∀ result, run.answer = .ok result → ∃ stack, loop.answer = .ok stack ∧
        (Run.transcript environment (top stack) loop.state).answer = .ok result ∧
        pushedNames operations = run.asked + pendingNames stack.tail := by
  intro run loop
  have pays : Run.Pays environment (pushedNames operations) pendingNames (steps [] operations) := by
    rw [← zero_add (pushedNames operations), ← pendingNames_nil]
    exact Run.Pays.steps [] operations
  cases ended : loop.answer with
  | error reason =>
    have runEnds : run = ⟨.error reason, loop.asked, loop.state⟩ :=
      Run.transcript_bind_error environment _ top state reason ended
    rw [runEnds]
    refine ⟨pays.asked_le state, fun result impossible => ?_⟩
    cases impossible
  | ok stack =>
    have runEnds : run = (Run.transcript environment (top stack) loop.state).behind loop.asked :=
      Run.transcript_bind_ok environment _ top state stack ended
    have last : Run.Pays environment (pendingNames stack) (fun _ => pendingNames stack.tail)
        (top stack) := Run.Pays.top stack
    rw [runEnds, pays.value state stack ended, Transcript.behind, ← Multiset.coe_add]
    refine ⟨add_le_add_right (last.asked_le loop.state) _, fun result answered => ?_⟩
    refine ⟨stack, rfl, answered, ?_⟩
    rw [add_assoc, ← last.value loop.state result answered]

/-- Each variable that is pushed is asked for at most once, and nothing else is asked for,
counted with repeats and whether or not the run succeeds.

If it succeeds, the variables that are not asked for are the names on the stack below the
operand that is the result. Where that operand is the only one, each variable is asked for
once. -/
theorem evaluate_asks_each_once (environment : Environment σ) (state : σ)
    (operations : List Operation) :
    let run := Run.transcript environment (evaluate operations) state
    let loop := Run.transcript environment (steps [] operations) state
    let pushed : Multiset String := (Code.mk operations).variableNames
    (run.asked : Multiset String) ≤ pushed ∧
      ∀ result, run.answer = .ok result → ∃ stack, loop.answer = .ok stack ∧
        (Run.transcript environment (top stack) loop.state).answer = .ok result ∧
        pushed = run.asked + pendingNames stack.tail ∧
        (stack.length = 1 → (run.asked : Multiset String) = pushed) := by
  intro run loop pushed
  obtain ⟨within, paid⟩ := evaluate_pays environment state operations
  refine ⟨within, fun result answered => ?_⟩
  obtain ⟨stack, left, last, others⟩ := paid result answered
  refine ⟨stack, left, last, others, fun single => ?_⟩
  obtain ⟨operand, rfl⟩ := List.length_eq_one_iff.mp single
  exact (others.trans (add_zero _)).symm

/-- The replies come in a fixed order, and the difference asks for its right operand first. The
name below it is never asked for. The operator takes the two operands on top, and the end of the
code takes the result. -/
theorem buried_name_left :
    let operations : List Operation := [.push (.variable "dog"), .push (.variable "a"),
      .push (.variable "b"), .apply .subtract]
    let run := Run.transcript .inSequence (evaluate operations) [some 1, some 2]
    run.answer = .ok (some (Operator.subtract.apply 2 1)) ∧
      ((Code.mk operations).variableNames : Multiset String) = run.asked + {"dog"} := by
  intro operations run
  have answered : run.answer = .ok (some (Operator.subtract.apply 2 1)) := rfl
  refine ⟨answered, ?_⟩
  obtain ⟨stack, left, -, others, -⟩ :=
    (evaluate_asks_each_once .inSequence [some 1, some 2] operations).2 _ answered
  cases left
  exact others

/-- A run depends on the names that it asks for and on nothing else.

Let two environments be given in which no reply depends on the state. If they agree on the names
that a run asks for in the first one, then the code comes to the same in both, be it a value,
nothing or a failure, and asks for the same names in the same order. In particular this is so if
the run succeeds and they disagree only about names that are still on the stack, below the
result, as often as the code pushes them. -/
theorem evaluate_decided_by_asked {one : Environment σ} {other : Environment τ}
    (oneStateless : one.IsStateless) (otherStateless : other.IsStateless) (state : σ) (start : τ)
    (operations : List Operation) :
    let run := Run.transcript one (evaluate operations) state
    let loop := Run.transcript one (steps [] operations) state
    let another := Run.transcript other (evaluate operations) start
    ((∀ name ∈ run.asked, other.lookupIn start name = one.lookupIn state name) →
      another.answer = run.answer ∧ another.asked = run.asked) ∧
    ∀ result stack, run.answer = .ok result → loop.answer = .ok stack →
      (∀ name, other.lookupIn start name ≠ one.lookupIn state name →
        (pushedNames operations).count name = (pendingNames stack.tail).count name) →
      another.answer = run.answer ∧ another.asked = run.asked := by
  intro run loop another
  have decided : (∀ name ∈ run.asked, other.lookupIn start name = one.lookupIn state name) →
      another.answer = run.answer ∧ another.asked = run.asked :=
    Inquiry.run_congr oneStateless otherStateless
  refine ⟨decided, fun result stack answered left buried => decided fun name member => ?_⟩
  obtain ⟨_, same, -, others⟩ := (evaluate_pays one state operations).2 result answered
  cases left.symm.trans same
  by_contra differ
  have counted := buried name differ
  rw [others, Multiset.count_add] at counted
  have never : name ∉ (run.asked : Multiset String) :=
    Multiset.count_eq_zero.mp (Nat.add_eq_right.mp counted)
  exact never (Multiset.mem_coe.mpr member)

/-- Nobody asks for the name below the sum, so it may have a value or none. Both environments
come to the same sum, and are asked for the same names. -/
theorem buried_name_changed :
    let operations : List Operation := [.push (.variable "dog"), .push (.variable "a"),
      .push (.value 1), .apply .add]
    let one : Environment Unit := .ofLookup fun name => [("a", 2)].lookup name
    let other : Environment Unit := .ofLookup fun name => [("a", 2), ("dog", 3)].lookup name
    (Run.transcript other (evaluate operations) ()).answer =
        (Run.transcript one (evaluate operations) ()).answer ∧
      (Run.transcript other (evaluate operations) ()).asked = ["a"] := by
  intro operations one other
  have agree : ∀ name ∈ (Run.transcript one (evaluate operations) ()).asked,
      other.lookupIn () name = one.lookupIn () name := by
    intro name member
    cases List.mem_singleton.mp member
    rfl
  exact (evaluate_decided_by_asked (fun _ _ _ => rfl) (fun _ _ _ => rfl) () () operations).1 agree

end Machine

end WindowPlacement
