import WindowPlacement.Machine

/-!
# Transcripts of runs

A run that is made of two parts leaves the transcript of the first part and, where that
part has a value, the transcript of the second one behind it. The second part begins in
the state in which the first one left the environment; after a failure nothing more is
asked.
-/

namespace WindowPlacement

variable {σ α β : Type}

/-- What is left where a second transcript stands behind the names of a first one. The answer
and the state are those of the second transcript. -/
def Transcript.behind (asked : List String) (transcript : Transcript σ α) : Transcript σ α :=
  { transcript with asked := asked ++ transcript.asked }

/-- The names that two parts ask for stand one after the other, and the state carries over from
the first part to the second. If the first part answers with a failure, `next` decides what that
means; `transcript_bind_error` is about this. -/
theorem Inquiry.run_bind (environment : Environment σ) (first : Inquiry α)
    (next : α → Inquiry β) (state : σ) :
    (first >>= next).run environment state =
      ((next (first.run environment state).answer).run environment
        (first.run environment state).state).behind (first.run environment state).asked := by
  induction first generalizing state with
  | answer value => rfl
  | ask name following inductionHypothesis =>
    have tail := inductionHypothesis (environment.reply state name).1
      (environment.reply state name).2
    change (Inquiry.ask name fun reply => following reply >>= next).run environment state = _
    simp only [run, tail, Transcript.behind, List.cons_append]

/-- The state in which names leave an environment when they are asked for one after another. The
replies themselves are dropped. -/
def Environment.after (environment : Environment σ) (state : σ) (asked : List String) : σ :=
  asked.foldl (fun earlier name => (environment.reply earlier name).2) state

/-- Nothing but the names that are asked for changes the state of the environment. So a run that
asks for nothing leaves the state as it was. -/
theorem Inquiry.run_state (environment : Environment σ) (inquiry : Inquiry α) (state : σ) :
    (inquiry.run environment state).state =
      environment.after state (inquiry.run environment state).asked := by
  induction inquiry generalizing state with
  | answer value => rfl
  | ask name next inductionHypothesis =>
    exact inductionHypothesis (environment.reply state name).1 (environment.reply state name).2

namespace Run

/-- What a run leaves in an environment: a value or the reason for having none, the names that
were asked for, and the state afterwards. It is all that can be observed of a run from
outside. -/
def transcript (environment : Environment σ) (run : Run α) (state : σ) :
    Transcript σ (Except RunError α) :=
  run.run.run environment state

/-- A run without questions leaves its value and nothing else. The value need not be known to
the environment. -/
theorem transcript_pure (environment : Environment σ) (value : α) (state : σ) :
    transcript environment (pure value) state = ⟨.ok value, [], state⟩ := rfl

/-- A run that fails at once asks for nothing. The state is that in which it begins, not one in
which something has been undone. -/
theorem transcript_throw (environment : Environment σ) (reason : RunError) (state : σ) :
    transcript environment (throw reason : Run α) state = ⟨.error reason, [], state⟩ := rfl

/-- After a first part with a value, the second part is run in the state that is left. The names
stand in the order in which they are asked for. -/
theorem transcript_bind_ok (environment : Environment σ) (first : Run α) (next : α → Run β)
    (state : σ) (value : α)
    (succeeded : (transcript environment first state).answer = .ok value) :
    transcript environment (first >>= next) state =
      (transcript environment (next value) (transcript environment first state).state).behind
        (transcript environment first state).asked := by
  unfold transcript at succeeded ⊢
  simp only [ExceptT.run_bind, Inquiry.run_bind, succeeded]

/-- After a first part that fails, nothing is run any more. What has been asked for before the
failure has been asked for, and the state shows it. -/
theorem transcript_bind_error (environment : Environment σ) (first : Run α) (next : α → Run β)
    (state : σ) (reason : RunError)
    (failed : (transcript environment first state).answer = .error reason) :
    transcript environment (first >>= next) state =
      ⟨.error reason, (transcript environment first state).asked,
        (transcript environment first state).state⟩ := by
  unfold transcript at failed ⊢
  simp only [ExceptT.run_bind, Inquiry.run_bind, failed]
  change Transcript.mk _ (_ ++ []) _ = _
  rw [List.append_nil]
  rfl

/-- A function applied to the value of a run changes nothing but the value. A failure stays the
same failure. -/
theorem transcript_map (environment : Environment σ) (change : α → β) (run : Run α) (state : σ) :
    transcript environment (change <$> run) state =
      ⟨(transcript environment run state).answer.map change,
        (transcript environment run state).asked,
        (transcript environment run state).state⟩ := by
  rw [map_eq_pure_bind]
  cases ended : (transcript environment run state).answer with
  | error reason => exact transcript_bind_error environment run _ state reason ended
  | ok value =>
    rw [transcript_bind_ok environment run _ state value ended, transcript_pure]
    simp only [Transcript.behind, List.append_nil, Except.map]

/-- A question has the reply of the environment for its value, and never fails. That there may
be no value is part of the reply. -/
theorem transcript_askFor (environment : Environment σ) (name : String) (state : σ) :
    transcript environment (liftM (Inquiry.askFor name)) state =
      ⟨.ok (environment.reply state name).1, [name], (environment.reply state name).2⟩ := rfl

/-- Looking up a name asks for it once, and fails with it where it has no value. The state moves
on in both cases, because the environment has been asked. -/
theorem transcript_valueOf (environment : Environment σ) (name : String) (state : σ) :
    transcript environment (Machine.valueOf name) state =
      ⟨match (environment.reply state name).1 with
        | some value => .ok value
        | none => .error (.unknownVariable name), [name], (environment.reply state name).2⟩ := by
  rw [Machine.valueOf,
    transcript_bind_ok environment _ _ state (environment.reply state name).1 rfl,
    transcript_askFor]
  cases (environment.reply state name).1 <;> rfl

end Run

end WindowPlacement
