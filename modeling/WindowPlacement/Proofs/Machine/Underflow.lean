import WindowPlacement.Proofs.Code.Height
import WindowPlacement.Proofs.Inquiry.Transcript

/-!
# Runs of unchecked code

Code that was not made from an expression may run out of operands. Whether it does is
decided by the heights in front of its operators, and not by the environment: the stack
is always as high as the instructions say.

The environment decides something else. A name without a value ends the run where it is
looked up, which may be before the operator that finds too few operands is reached. That
operator itself looks nothing up, because both operands are taken before either is
resolved.
-/

namespace WindowPlacement

variable {σ α β : Type}

/-- The last name that was asked for is the one given, and it had no value in the state that the
names before it left. The same name may have had a value at an earlier point, when the state was
another. -/
def Environment.LeavesUnknown (environment : Environment σ) (state : σ) (asked : List String)
    (name : String) : Prop :=
  ∃ earlier, asked = earlier ++ [name] ∧
    (environment.reply (environment.after state earlier) name).1 = none

namespace Run

/-- In every state a run ends with a value that fits, or it fails with the last name that it
asked for. It does not run out of operands. It is what remains to be said of code once its
heights are known to be sufficient. -/
structure FailsByLookup (environment : Environment σ) (fits : α → Prop) (run : Run α) : Prop where
  value : ∀ state result, (transcript environment run state).answer = .ok result → fits result
  failure : ∀ state reason, (transcript environment run state).answer = .error reason →
    ∃ name, reason = .unknownVariable name ∧
      environment.LeavesUnknown state (transcript environment run state).asked name

namespace FailsByLookup

variable {environment : Environment σ}

/-- A value without lookups does not fail. Nor does it ask for anything. -/
theorem pure {fits : α → Prop} {result : α} (good : fits result) :
    FailsByLookup environment fits (pure result) where
  value := by
    intro state other same
    cases same
    exact good
  failure := by
    intro state reason impossible
    cases impossible

/-- A part that is run on a value that fits may rely on it. The value may be a stack, and what
fits is then its height.

Proof: the names of the second part stand behind those of the first, and the second part begins
in the state that those have left. -/
theorem bind {fits : α → Prop} {ends : β → Prop} {first : Run α} {next : α → Run β}
    (begins : FailsByLookup environment fits first)
    (continues : ∀ result, fits result → FailsByLookup environment ends (next result)) :
    FailsByLookup environment ends (first >>= next) := by
  constructor
  · intro state result answered
    cases reached : (transcript environment first state).answer with
    | error reason =>
      rw [transcript_bind_error environment first next state reason reached] at answered
      cases answered
    | ok middle =>
      rw [transcript_bind_ok environment first next state middle reached] at answered
      exact (continues middle (begins.value state middle reached)).value _ result answered
  · intro state reason failed
    cases reached : (transcript environment first state).answer with
    | error earlier =>
      rw [transcript_bind_error environment first next state earlier reached] at failed ⊢
      cases failed
      exact begins.failure state reason reached
    | ok middle =>
      rw [transcript_bind_ok environment first next state middle reached] at failed ⊢
      obtain ⟨name, same, earlier, asked, unknown⟩ :=
        (continues middle (begins.value state middle reached)).failure _ reason failed
      refine ⟨name, same, (transcript environment first state).asked ++ earlier, ?_, ?_⟩
      · simp only [Transcript.behind, asked, List.append_assoc]
      · have left : (transcript environment first state).state =
            environment.after state (transcript environment first state).asked :=
          Inquiry.run_state environment first.run state
        rw [left] at unknown
        simpa only [Environment.after, List.foldl_append] using unknown

/-- Looking up a name fails by that lookup. That it has a value is not needed, and nothing is
said of which. -/
theorem valueOf (name : String) :
    FailsByLookup environment (fun _ => True) (Machine.valueOf name) where
  value := fun _ _ _ => trivial
  failure := by
    intro state reason failed
    rw [transcript_valueOf] at failed ⊢
    cases replied : (environment.reply state name).1 with
    | some value =>
      rw [replied] at failed
      cases failed
    | none =>
      rw [replied] at failed
      cases failed
      exact ⟨name, rfl, [], rfl, replied⟩

/-- Resolving an operand fails by a lookup, which is made for a name only. The failure is the
one of the lookup, with the name of the operand. -/
theorem resolve (operand : Operand) :
    FailsByLookup environment (fun _ => True) (Machine.resolve operand) := by
  match operand with
  | .variable name => exact valueOf name
  | .value value => exact pure trivial

/-- One instruction changes the height of the stack as it says, provided that an operator finds
two operands. A push has no condition. -/
theorem step {stack : List Operand} {operation : Operation}
    (enough : ∀ operator, operation = .apply operator → 2 ≤ stack.length) :
    FailsByLookup environment
      (fun next => (next.length : Int) = stack.length + Postfix.height [operation])
      (Machine.step stack operation) := by
  cases operation with
  | push operand => exact pure (by simp)
  | apply operator =>
    match stack, enough operator rfl with
    | right :: left :: below, _ =>
      refine bind (resolve right) fun rightValue _ => ?_
      refine bind (resolve left) fun leftValue _ => ?_
      refine pure ?_
      simp only [List.length_cons, Postfix.height_apply]
      omega

end FailsByLookup

end Run

namespace Machine

/-- Two rows of instructions are carried out one after the other. The stack in between need not
be empty, nor have any certain height. -/
theorem steps_append (stack : List Operand) (first second : List Operation) :
    steps stack (first ++ second) = steps stack first >>= fun next => steps next second := by
  induction first generalizing stack with
  | nil => simp only [List.nil_append, steps, pure_bind]
  | cons operation first inductionHypothesis =>
    simp only [List.cons_append, steps, inductionHypothesis, bind_assoc]

/-- An operator that finds fewer than two operands fails without asking for anything. It does
not even take the one operand that there may be. -/
theorem step_short {stack : List Operand} (operator : Operator) (short : stack.length < 2) :
    step stack (.apply operator) = throw .stackUnderflow := by
  match stack, short with
  | [], _ => rfl
  | [_], _ => rfl

/-- Supplied code makes the stack as high as it says, or fails by a lookup. Every stack in
between is as high as the instructions so far say.

Proof: induction on the code, from its last instruction on. The height in front of an operator
is that of the stack it finds. -/
theorem steps_supplied (environment : Environment σ) {operations : List Operation}
    (supplied : Postfix.Supplied operations) :
    Run.FailsByLookup environment
      (fun stack => (stack.length : Int) = Postfix.height operations) (steps [] operations) := by
  induction operations using List.reverseRecOn with
  | nil => exact Run.FailsByLookup.pure rfl
  | append_singleton operations last inductionHypothesis =>
    obtain ⟨before, enough⟩ := (Postfix.supplied_concat operations last).mp supplied
    rw [steps_append]
    refine Run.FailsByLookup.bind (inductionHypothesis before) fun stack counted => ?_
    have two : ∀ operator, last = .apply operator → 2 ≤ stack.length := by
      intro operator same
      have high := enough operator same
      omega
    refine Run.FailsByLookup.bind (Run.FailsByLookup.step two) fun next grown => ?_
    refine Run.FailsByLookup.pure ?_
    rw [Postfix.height_append, ← counted, grown]

/-- Supplied code has a result unless it is empty, or fails by a lookup. No other reason for a
failure is left. -/
theorem evaluate_supplied (environment : Environment σ) {operations : List Operation}
    (supplied : Postfix.Supplied operations) :
    Run.FailsByLookup environment (fun result => result = none ↔ operations = [])
      (evaluate operations) := by
  refine Run.FailsByLookup.bind (steps_supplied environment supplied) fun stack counted => ?_
  cases stack with
  | nil =>
    refine Run.FailsByLookup.pure (iff_of_true rfl ?_)
    by_contra present
    have high := supplied.height_pos present
    simp only [List.length_nil] at counted
    omega
  | cons operand below =>
    have present : operations ≠ [] := by
      rintro rfl
      simp only [List.length_cons, Postfix.height_nil] at counted
      omega
    rw [top, map_eq_pure_bind]
    refine Run.FailsByLookup.bind (Run.FailsByLookup.resolve operand) fun value _ => ?_
    exact Run.FailsByLookup.pure (iff_of_false (by simp) present)

/-- Where an operator starves, what stands in front of it has been carried out on a stack that
is too low for the operator. Nothing that stands behind is reached. That it is reached is a
hypothesis here, because a lookup in front of it may fail. -/
theorem steps_starves (environment : Environment σ) {operations : List Operation} {index : Nat}
    (starves : Postfix.Starves operations index) (state : σ) (stack : List Operand)
    (reached : (Run.transcript environment (steps [] (operations.take index)) state).answer =
      .ok stack) :
    Run.transcript environment (steps [] operations) state =
      ⟨.error .stackUnderflow,
        (Run.transcript environment (steps [] (operations.take index)) state).asked,
        (Run.transcript environment (steps [] (operations.take index)) state).state⟩ := by
  obtain ⟨operator, here, low⟩ := starves.short
  have counted : (stack.length : Int) = Postfix.height (operations.take index) :=
    (steps_supplied environment starves.supplied_take).value state stack reached
  have short : stack.length < 2 := by omega
  obtain ⟨inside, last⟩ := List.getElem?_eq_some_iff.mp here
  have parts : operations =
      operations.take index ++ .apply operator :: operations.drop (index + 1) := by
    rw [← last, List.getElem_cons_drop, List.take_append_drop]
  have stops : steps stack (.apply operator :: operations.drop (index + 1)) =
      throw .stackUnderflow := by
    rw [steps, step_short operator short]
    rfl
  conv_lhs => rw [parts]
  rw [steps_append, Run.transcript_bind_ok environment _ _ state stack reached, stops,
    Run.transcript_throw]
  simp only [Transcript.behind, List.append_nil]

/-- Where an operator starves, a run ends in front of it with a name that has no value, or it
ends at the operator, which finds too few operands and asks for nothing. Which of the two it is
depends on the environment and on the state in which the run begins. -/
theorem evaluate_starves (environment : Environment σ) {operations : List Operation}
    {index : Nat} (starves : Postfix.Starves operations index) (state : σ) :
    let run := Run.transcript environment (evaluate operations) state
    let before := Run.transcript environment (steps [] (operations.take index)) state
    (∃ name, before.answer = .error (.unknownVariable name) ∧
        environment.LeavesUnknown state before.asked name ∧
        run = ⟨.error (.unknownVariable name), before.asked, before.state⟩) ∨
      ∃ stack, before.answer = .ok stack ∧
        run = ⟨.error .stackUnderflow, before.asked, before.state⟩ := by
  intro run before
  have safe := steps_supplied environment starves.supplied_take
  cases ended : before.answer with
  | error reason =>
    obtain ⟨name, rfl, unknown⟩ := safe.failure state reason ended
    refine Or.inl ⟨name, rfl, unknown, ?_⟩
    have parts : steps [] operations = steps [] (operations.take index) >>= fun next =>
        steps next (operations.drop index) := by
      rw [← steps_append, List.take_append_drop]
    simp only [run, evaluate, parts, bind_assoc]
    exact Run.transcript_bind_error environment _ _ state _ ended
  | ok stack =>
    refine Or.inr ⟨stack, rfl, ?_⟩
    have stopped := steps_starves environment starves state stack ended
    simp only [run, evaluate]
    rw [Run.transcript_bind_error environment _ top state .stackUnderflow (by rw [stopped]),
      stopped]

/-- Code that is not supplied has no result, and fails. There is no environment in which such
code succeeds. -/
theorem evaluate_unsupplied (environment : Environment σ) {operations : List Operation}
    (unsupplied : ¬ Postfix.Supplied operations) (state : σ) :
    ∃ reason, (Run.transcript environment (evaluate operations) state).answer =
      .error reason := by
  obtain ⟨index, starves⟩ := Postfix.exists_starves unsupplied
  rcases evaluate_starves environment starves state with ⟨name, _, _, ended⟩ | ⟨stack, _, ended⟩
  · exact ⟨_, congrArg Transcript.answer ended⟩
  · exact ⟨_, congrArg Transcript.answer ended⟩

/-- Only the empty code ends without a result and without a failure. So whether a result is
missing can be told without running the code. -/
theorem evaluate_eq_none_iff (environment : Environment σ) (state : σ)
    (operations : List Operation) :
    (Run.transcript environment (evaluate operations) state).answer = .ok none ↔
      operations = [] := by
  constructor
  · intro nothing
    by_cases supplied : Postfix.Supplied operations
    · exact ((evaluate_supplied environment supplied).value state none nothing).mp rfl
    · obtain ⟨reason, failed⟩ := evaluate_unsupplied environment supplied state
      rw [nothing] at failed
      cases failed
  · rintro rfl
    rfl

/-- What becomes of code that is not checked, in any environment.

Only the empty code has no result. Code whose operators all find two operands never runs out of
them and fails only with a name without a value that it asked for last; its stack is as high as
the instructions say. Other code has a first operator that finds too few, and it never has a
result: either a name without a value is looked up in front of that operator, or the run ends at
the operator, which looks nothing up. Where every name has a value, it ends at the operator. -/
theorem evaluate_outcome (environment : Environment σ) (state : σ)
    (operations : List Operation) :
    let run := Run.transcript environment (evaluate operations) state
    (run.answer = .ok none ↔ operations = []) ∧
    (Postfix.Supplied operations → run.answer ≠ .error .stackUnderflow ∧
      (∀ name, run.answer = .error (.unknownVariable name) →
        environment.LeavesUnknown state run.asked name) ∧
      ∀ stack, (Run.transcript environment (steps [] operations) state).answer = .ok stack →
        (stack.length : Int) = Postfix.height operations) ∧
    (¬ Postfix.Supplied operations → ∃ index, Postfix.Starves operations index ∧
      let before := Run.transcript environment (steps [] (operations.take index)) state
      ((∃ name, before.answer = .error (.unknownVariable name) ∧
          environment.LeavesUnknown state before.asked name ∧
          run = ⟨.error (.unknownVariable name), before.asked, before.state⟩) ∨
        ∃ stack, before.answer = .ok stack ∧
          run = ⟨.error .stackUnderflow, before.asked, before.state⟩) ∧
      ((∀ earlier name, (environment.reply earlier name).1 ≠ none) →
        run.answer = .error .stackUnderflow)) := by
  intro run
  refine ⟨evaluate_eq_none_iff environment state operations, ?_, ?_⟩
  · intro supplied
    have safe := evaluate_supplied environment supplied
    refine ⟨?_, ?_, ?_⟩
    · intro failed
      obtain ⟨name, impossible, _⟩ := safe.failure state _ failed
      cases impossible
    · intro name failed
      obtain ⟨other, same, unknown⟩ := safe.failure state _ failed
      cases same
      exact unknown
    · intro stack reached
      exact (steps_supplied environment supplied).value state stack reached
  · intro unsupplied
    obtain ⟨index, starves⟩ := Postfix.exists_starves unsupplied
    have ends := evaluate_starves environment starves state
    refine ⟨index, starves, ends, ?_⟩
    intro known
    rcases ends with ⟨name, _, ⟨earlier, _, unknown⟩, _⟩ | ⟨stack, _, ended⟩
    · exact absurd unknown (known _ name)
    · exact congrArg Transcript.answer ended

/-- An operator with one operand runs out of operands, although the environment does not know
the name of that operand: it is not asked. The environment would not have had a value for it
either. -/
theorem single_operand_not_asked :
    ¬ Postfix.Supplied [.push (.variable "dog"), .apply .add] ∧
      Run.transcript (Environment.ofLookup fun _ => none)
        (evaluate [.push (.variable "dog"), .apply .add]) () =
        ⟨.error .stackUnderflow, [], ()⟩ := by
  have unsupplied : ¬ Postfix.Supplied [.push (.variable "dog"), .apply .add] := by
    intro supplied
    have enough := supplied 1 .add rfl
    revert enough
    decide
  refine ⟨unsupplied, ?_⟩
  obtain ⟨index, starves, ends, _⟩ :=
    (evaluate_outcome (Environment.ofLookup fun _ => none) ()
      [.push (.variable "dog"), .apply .add]).2.2 unsupplied
  obtain ⟨operator, here, _⟩ := starves.short
  -- Only the second instruction is an operator.
  match index, here with
  | 1, _ =>
    rcases ends with ⟨name, impossible, _⟩ | ⟨stack, _, ended⟩
    · cases impossible
    · exact ended

end Machine

end WindowPlacement
