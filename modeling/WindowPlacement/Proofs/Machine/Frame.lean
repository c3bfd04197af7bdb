import WindowPlacement.Proofs.Expr.Value
import WindowPlacement.Proofs.Machine.Underflow

/-!
# Operands below the stack

Code that comes to its end on the empty stack does the same on any other one, and what lies there
stays below the operands that the code leaves. Code that fails with a name fails with that name
there too. Both ask for the same names, in any environment. Nothing follows for code that runs out
of operands, because it may take some of those that lie below.

A run on one stack is compared with a run on another one question by question, and not only by
what the two leave in the end. So one comparison serves for every environment.
-/

namespace WindowPlacement

variable {σ α β : Type}

/-- Two runs ask for the same names, whatever the replies are, until the first one has come to
its end. If it has a value, the second one has that value changed. If it fails with a name, so
does the second one. If it has run out of operands, the second one may go on in any way. It
relates the inquiries and not their transcripts, so no environment is mentioned. -/
inductive Run.Reproduces (change : α → β) :
    Inquiry (Except RunError α) → Inquiry (Except RunError β) → Prop where
  | value (result : α) :
    Reproduces change (.answer (.ok result)) (.answer (.ok (change result)))
  | unknown (name : String) :
    Reproduces change (.answer (.error (.unknownVariable name)))
      (.answer (.error (.unknownVariable name)))
  | underflow (other : Inquiry (Except RunError β)) :
    Reproduces change (.answer (.error .stackUnderflow)) other
  | ask (name : String) {next : Option Float → Inquiry (Except RunError α)}
    {following : Option Float → Inquiry (Except RunError β)}
    (each : ∀ reply, Reproduces change (next reply) (following reply)) :
    Reproduces change (.ask name next) (.ask name following)

namespace Run.Reproduces

/-- A run does what it does itself. It needs an induction, since it holds of all replies. -/
theorem refl (run : Run α) : Reproduces id run.run run.run := by
  generalize run.run = inquiry
  induction inquiry with
  | answer ended =>
    match ended with
    | .ok result => exact .value result
    | .error (.unknownVariable name) => exact .unknown name
    | .error .stackUnderflow => exact .underflow _
  | ask name next inductionHypothesis => exact .ask name inductionHypothesis

/-- Runs in two parts are compared part by part. A first part that runs out of operands relieves
the second one of everything. -/
theorem bind {γ δ : Type} {change : α → β} {ends : γ → δ} {first : Run α} {second : Run β}
    {next : α → Run γ} {following : β → Run δ}
    (begins : Reproduces change first.run second.run)
    (continues : ∀ result, Reproduces ends (next result).run (following (change result)).run) :
    Reproduces ends (first >>= next).run (second >>= following).run := by
  rw [ExceptT.run_bind, ExceptT.run_bind]
  generalize first.run = one, second.run = other at begins
  induction begins with
  | value result => exact continues result
  | unknown name => exact .unknown name
  | underflow other => exact .underflow _
  | ask name _ inductionHypothesis => exact .ask name inductionHypothesis

/-- In every environment, a run that is reproduced leaves what the other one leaves, apart from
the change of its value. A run that has run out of operands is left out, as nothing follows for
it. -/
theorem transcript {change : α → β} {first : Run α} {second : Run β}
    (reproduces : Reproduces change first.run second.run) (environment : Environment σ)
    (state : σ) :
    let one := Run.transcript environment first state
    let other := Run.transcript environment second state
    (∀ result, one.answer = .ok result → other = ⟨.ok (change result), one.asked, one.state⟩) ∧
      ∀ name, one.answer = .error (.unknownVariable name) →
        other = ⟨.error (.unknownVariable name), one.asked, one.state⟩ := by
  unfold Run.transcript
  generalize first.run = one, second.run = other at reproduces
  induction reproduces generalizing state with
  | value result =>
    refine ⟨fun other same => ?_, fun name impossible => (by cases impossible)⟩
    cases same
    rfl
  | unknown name =>
    refine ⟨fun other impossible => (by cases impossible), fun other same => ?_⟩
    cases same
    rfl
  | underflow other =>
    exact ⟨fun result impossible => (by cases impossible),
      fun name impossible => (by cases impossible)⟩
  | ask name _ inductionHypothesis =>
    obtain ⟨value, unknown⟩ :=
      inductionHypothesis (environment.reply state name).1 (environment.reply state name).2
    simp only [Inquiry.run]
    refine ⟨fun result answered => ?_, fun other failed => ?_⟩
    · rw [value result answered]
    · rw [unknown other failed]

end Run.Reproduces

namespace Machine

/-- One instruction takes nothing from below its operands, unless it runs out of these. Three
operands and more are alike here: an operator takes two, whatever lies below. -/
theorem step_reproduces (stack base : List Operand) (operation : Operation) :
    Run.Reproduces (· ++ base) (step stack operation).run (step (stack ++ base) operation).run := by
  cases operation with
  | push operand => exact .value (operand :: stack)
  | apply operator =>
    match stack with
    | [] => exact .underflow _
    | [_] => exact .underflow _
    | right :: left :: below =>
      refine .bind (.refl (resolve right)) fun rightValue => ?_
      refine .bind (.refl (resolve left)) fun leftValue => ?_
      exact .value (.value (operator.apply leftValue rightValue) :: below)

/-- Instructions that do not run out of operands leave alone what lies below these. The operands
below may be names without a value; nobody asks for them.

Proof: induction on the code. What one instruction leaves is above the same operands, and so the
others find it. -/
theorem steps_reproduces (stack base : List Operand) (operations : List Operation) :
    Run.Reproduces (· ++ base) (steps stack operations).run
      (steps (stack ++ base) operations).run := by
  induction operations generalizing stack with
  | nil => exact .value stack
  | cons operation rest inductionHypothesis =>
    exact .bind (step_reproduces stack base operation) inductionHypothesis

/-! ## Code of constants -/

/-- The code of a tree without symbols leaves the value of the tree on any stack and asks for
nothing. The values given to names do not matter, because the tree has none.

Proof: induction on the tree. The code of the right operand finds the value of the left one on
the stack and leaves it there. -/
theorem steps_constant (values : String → Float) {expr : Expr} (constant : expr.symbols = [])
    (stack : List Operand) :
    steps stack expr.operations = pure (.value (expr.value values) :: stack) := by
  induction expr generalizing stack with
  | symbol name => cases constant
  | number value => rfl
  | binary operator left right leftHypothesis rightHypothesis =>
    obtain ⟨leftConstant, rightConstant⟩ := List.append_eq_nil_iff.mp constant
    rw [Expr.operations, steps_append, steps_append, leftHypothesis leftConstant, pure_bind,
      rightHypothesis rightConstant, pure_bind, Expr.value_binary]
    rfl

/-- The code of a tree without symbols may be replaced by a push of the value of the tree,
whatever stands before it and behind it. Neither need be the code of an expression, nor
succeed. -/
theorem evaluate_folded (values : String → Float) {expr : Expr} (constant : expr.symbols = [])
    (before after : List Operation) :
    evaluate (before ++ expr.operations ++ after) =
      evaluate (before ++ [.push (.value (expr.value values))] ++ after) := by
  have pushed (stack : List Operand) :
      steps stack [.push (.value (expr.value values))] =
        pure (.value (expr.value values) :: stack) := rfl
  simp only [evaluate, steps_append, steps_constant values constant, pushed]

/-- What lies below the operands of some code is neither used nor changed, unless the code runs
out of operands.

Code that comes to its end on the empty stack comes to its end on any other one, whose operands
are below those that it leaves then. Code that fails with a name on the empty stack fails with
that name on any other one. In both cases the names that it asks for are the same, and so is the
state in which it leaves the environment.

A tree without symbols has a value, which its code yields without asking for anything. In any
place of any other code a push of this value comes to the same as the code of the tree. -/
theorem steps_above (environment : Environment σ) (state : σ) :
    (∀ (operations : List Operation) (base : List Operand),
      let loop := Run.transcript environment (steps [] operations) state
      let above := Run.transcript environment (steps base operations) state
      (∀ stack, loop.answer = .ok stack → above = ⟨.ok (stack ++ base), loop.asked, loop.state⟩) ∧
        ∀ name, loop.answer = .error (.unknownVariable name) →
          above = ⟨.error (.unknownVariable name), loop.asked, loop.state⟩) ∧
    ∀ (expr : Expr) (values : String → Float), expr.symbols = [] →
      Run.transcript environment (evaluate expr.operations) state =
          ⟨.ok (some (expr.value values)), [], state⟩ ∧
        ∀ before after : List Operation,
          Run.transcript environment (evaluate (before ++ expr.operations ++ after)) state =
            Run.transcript environment
              (evaluate (before ++ [.push (.value (expr.value values))] ++ after)) state := by
  constructor
  · intro operations base
    exact (steps_reproduces [] base operations).transcript environment state
  · intro expr values constant
    refine ⟨?_, fun before after => by rw [evaluate_folded values constant before after]⟩
    rw [evaluate, steps_constant values constant, pure_bind]
    rfl

/-- Nothing follows from a run that finds too few operands: one more below is enough here. -/
example : Run.transcript (Environment.ofLookup fun _ => none)
      (steps [] [.push (.value 1), .apply .add]) () = ⟨.error .stackUnderflow, [], ()⟩ ∧
    Run.transcript (Environment.ofLookup fun _ => none)
      (steps [.value 2] [.push (.value 1), .apply .add]) () =
        ⟨.ok [.value (Operator.add.apply 2 1)], [], ()⟩ := ⟨rfl, rfl⟩

/-- Code that leaves two operands, one of them a name that has not been looked up, leaves them
on top of a third one. Where the name in front of its operator has no value, it fails on either
stack. A quotient of constants may be pushed instead of being computed between the two. -/
theorem two_above_another :
    let operations : List Operation :=
      [.push (.value 1), .push (.variable "x"), .apply .add, .push (.variable "w")]
    let quotient : Expr := .binary .divide (.number 1) (.number 0)
    Run.transcript .inSequence (steps [.value 7] operations) [some 2] =
        ⟨.ok [.variable "w", .value (Operator.add.apply 1 2), .value 7], ["x"], []⟩ ∧
      Run.transcript .inSequence (steps [.value 7] operations) [] =
        ⟨.error (.unknownVariable "x"), ["x"], []⟩ ∧
      Run.transcript .inSequence
          (evaluate ([.push (.variable "x")] ++ quotient.operations ++ [.apply .add])) [] =
        Run.transcript .inSequence (evaluate ([.push (.variable "x")] ++
          [.push (.value (Operator.divide.apply 1 0))] ++ [.apply .add])) [] := by
  intro operations quotient
  refine ⟨?_, ?_, ?_⟩
  · exact ((steps_above .inSequence [some 2]).1 operations [.value 7]).1 _ rfl
  · exact ((steps_above .inSequence []).1 operations [.value 7]).2 "x" rfl
  · exact ((steps_above .inSequence []).2 quotient (fun _ => 0) rfl).2 _ _

end Machine

end WindowPlacement
