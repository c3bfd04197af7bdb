import WindowPlacement.Proofs.Machine.Underflow

/-!
# Code that goes on

A run of the first part of some code says how a run of the whole begins, in the same environment
and from the same state. Both carry out the instructions of the first part alike. At the end of
these the first part resolves its last operand, whereas the whole goes on with the operand as it
stands: it may look it up later, when the environment has another reply, or not at all. So the
two runs agree on what the instructions have asked for, and the final lookup is the only one that
the first part may make by itself.
-/

namespace WindowPlacement

namespace Machine

variable {σ : Type}

/-- The whole goes on from the stack that the instructions of the first part leave. The last
operand of the first part is not resolved in between. -/
theorem evaluate_append (first second : List Operation) :
    evaluate (first ++ second) =
      steps [] first >>= fun stack => steps stack second >>= top := by
  simp only [evaluate, steps_append, bind_assoc]

/-- The last operand is a value already, if there is one, or it is a name that is looked up and
has a value or none. An empty stack has no last operand, and no result. -/
theorem top_cases (environment : Environment σ) (stack : List Operand) (state : σ) :
    (∃ result, Run.transcript environment (top stack) state = ⟨.ok result, [], state⟩) ∨
    ∃ name below, stack = .variable name :: below ∧
      ((∃ value, Run.transcript environment (top stack) state =
          ⟨.ok (some value), [name], (environment.reply state name).2⟩) ∨
        (environment.reply state name).1 = none ∧
          Run.transcript environment (top stack) state =
            ⟨.error (.unknownVariable name), [name], (environment.reply state name).2⟩) := by
  match stack with
  | [] => exact Or.inl ⟨none, rfl⟩
  | .value value :: below => exact Or.inl ⟨some value, rfl⟩
  | .variable name :: below =>
    refine Or.inr ⟨name, below, rfl, ?_⟩
    rw [top, resolve, Run.transcript_map, Run.transcript_valueOf]
    cases (environment.reply state name).1 with
    | some value => exact Or.inl ⟨value, rfl⟩
    | none => exact Or.inr ⟨rfl, rfl⟩

/-- What a run of the first part of some code says about a run of the whole. What the second
part is makes no difference to any of this.

If the first part runs out of operands, then so does the whole, and it asks for the same names.
The names that the instructions of the first part ask for come first in the whole; beside them
the first part asks at most for its last operand, if that is still a name. If the whole has a
result or ends without one, then the first part does too, unless that last operand is a name
without a value at this point. -/
theorem evaluate_append_begins (environment : Environment σ) (state : σ)
    (first second : List Operation) :
    let loop := Run.transcript environment (steps [] first) state
    let front := Run.transcript environment (evaluate first) state
    let whole := Run.transcript environment (evaluate (first ++ second)) state
    (front.answer = .error .stackUnderflow →
      whole.answer = .error .stackUnderflow ∧ whole.asked = front.asked) ∧
    (loop.asked <+: whole.asked ∧
      (front.asked = loop.asked ∨
        ∃ name below, loop.answer = .ok (.variable name :: below) ∧
          front.asked = loop.asked ++ [name])) ∧
    ∀ result, whole.answer = .ok result →
      (∃ earlier, front.answer = .ok earlier) ∨
        ∃ name below, loop.answer = .ok (.variable name :: below) ∧
          (environment.reply loop.state name).1 = none ∧
          front.answer = .error (.unknownVariable name) ∧ front.asked = loop.asked ++ [name] := by
  intro loop front whole
  cases ended : loop.answer with
  | error reason =>
    -- Neither run gets beyond the instruction that fails.
    have frontEnds : front = ⟨.error reason, loop.asked, loop.state⟩ :=
      Run.transcript_bind_error environment _ top state reason ended
    have wholeEnds : whole = ⟨.error reason, loop.asked, loop.state⟩ := by
      simp only [whole, evaluate_append]
      exact Run.transcript_bind_error environment _ _ state reason ended
    rw [frontEnds, wholeEnds]
    refine ⟨fun underflow => ⟨underflow, rfl⟩, ⟨List.prefix_rfl, Or.inl rfl⟩, ?_⟩
    intro result impossible
    cases impossible
  | ok stack =>
    have frontEnds : front =
        (Run.transcript environment (top stack) loop.state).behind loop.asked :=
      Run.transcript_bind_ok environment _ top state stack ended
    have wholeEnds : whole = (Run.transcript environment (steps stack second >>= top)
        loop.state).behind loop.asked := by
      simp only [whole, evaluate_append]
      exact Run.transcript_bind_ok environment _ _ state stack ended
    have begins : loop.asked <+: whole.asked := by
      rw [wholeEnds]
      exact List.prefix_append _ _
    rcases top_cases environment stack loop.state with
      ⟨result, resolved⟩ | ⟨name, below, rfl, ⟨value, known⟩ | ⟨unknown, failed⟩⟩
    · -- There is nothing to look up.
      rw [frontEnds, resolved]
      refine ⟨fun impossible => (by cases impossible), ⟨begins, Or.inl ?_⟩, ?_⟩
      · exact List.append_nil _
      · intro _ _
        exact Or.inl ⟨result, rfl⟩
    · -- The last operand is a name that has a value.
      rw [frontEnds, known]
      refine ⟨fun impossible => (by cases impossible), ⟨begins, Or.inr ?_⟩, ?_⟩
      · exact ⟨name, below, rfl, rfl⟩
      · intro _ _
        exact Or.inl ⟨some value, rfl⟩
    · -- The last operand is a name that has none, and only the first part has to know.
      rw [frontEnds, failed]
      refine ⟨fun impossible => (by cases impossible), ⟨begins, Or.inr ?_⟩, ?_⟩
      · exact ⟨name, below, rfl, rfl⟩
      · intro _ _
        exact Or.inr ⟨name, below, rfl, unknown, rfl, rfl⟩

/-- The name that one instruction pushes is looked up if the code ends there. With a second push
it is buried, and it does not matter that it has no value. So code that succeeds may have a
first part that fails. -/
theorem lone_name_asked :
    let environment : Environment Unit := .ofLookup fun _ => none
    (Run.transcript environment (evaluate [.push (.variable "w"), .push (.value 1)]) ()).answer =
        .ok (some 1) ∧
      (Run.transcript environment (evaluate [.push (.variable "w")]) ()).answer =
        .error (.unknownVariable "w") := by
  intro environment
  refine ⟨rfl, ?_⟩
  rcases (evaluate_append_begins environment () [.push (.variable "w")]
    [.push (.value 1)]).2.2 (some 1) rfl with ⟨_, impossible⟩ | ⟨name, below, left, _, failed, _⟩
  · cases impossible
  · cases left
    exact failed

end Machine

end WindowPlacement
