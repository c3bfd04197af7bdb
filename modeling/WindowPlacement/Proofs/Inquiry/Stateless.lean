import Mathlib.Data.Set.Basic
import WindowPlacement.Proofs.Machine.TreeSemantics

/-!
# Environments without a state

Where a reply depends on the name alone, the state can be left out: what comes of a run is a
function of the replies, and the outcome of two parts in a row is the outcome of the first
one and then that of the second.

The order of the lookups still decides which name a failure reports, but no longer whether
there is one. A run that has to look up certain names succeeds exactly if all of them have
values.
-/

namespace WindowPlacement

variable {σ α β : Type}

/-- The answer of an inquiry where each name always gets the same reply. The recursion is on the
inquiry, which knows its next question only from the reply before. -/
def Inquiry.answerWith (lookup : String → Option Float) : Inquiry α → α
  | .answer value => value
  | .ask name next => (next (lookup name)).answerWith lookup

/-- The state of an environment whose replies depend on the name alone does not matter. The
environment made from a lookup hands its state on unchanged. -/
theorem Inquiry.run_ofLookup (lookup : String → Option Float) (inquiry : Inquiry α) (state : σ) :
    (inquiry.run (.ofLookup lookup) state).answer = inquiry.answerWith lookup := by
  induction inquiry with
  | answer value => rfl
  | ask name next inductionHypothesis => exact inductionHypothesis (lookup name)

/-- What follows is answered after what comes first. Which names the first part asks for is of
no account for the second one. -/
theorem Inquiry.answerWith_bind (lookup : String → Option Float) (first : Inquiry α)
    (next : α → Inquiry β) :
    (first >>= next).answerWith lookup = (next (first.answerWith lookup)).answerWith lookup := by
  induction first with
  | answer value => rfl
  | ask name following inductionHypothesis => exact inductionHypothesis (lookup name)

namespace Run

/-- What comes of a run where each name always gets the same reply. The names that were asked
for and the state afterwards are left out. -/
def outcome (lookup : String → Option Float) (run : Run α) : Except RunError α :=
  run.run.answerWith lookup

variable (lookup : String → Option Float)

/-- A run with a first part that fails, fails alike; otherwise the second part decides. It is
this that lets a run be followed without a state. -/
theorem outcome_bind (first : Run α) (next : α → Run β) :
    outcome lookup (first >>= next) =
      outcome lookup first >>= fun value => outcome lookup (next value) := by
  unfold outcome
  rw [ExceptT.run_bind, Inquiry.answerWith_bind]
  cases first.run.answerWith lookup <;> rfl

/-- A name without a value is the reason for the failure. It is the only place where the replies
enter into an outcome. -/
theorem outcome_valueOf (name : String) :
    outcome lookup (Machine.valueOf name) =
      match lookup name with
      | some value => .ok value
      | none => .error (.unknownVariable name) := by
  have looked : outcome lookup (liftM (Inquiry.askFor name)) = .ok (lookup name) := rfl
  rw [Machine.valueOf, outcome_bind, looked]
  change outcome lookup (match lookup name with
    | some value => (pure value : Run Float)
    | none => throw (.unknownVariable name)) = _
  cases lookup name <;> rfl

/-- Which names a run has to look up. It has a value that fits if all of them have values;
otherwise it fails with one of them that has none. Where several names have no value, which of
them is reported is left open, because it depends on the order of the lookups. -/
structure Needs (names : Set String) (fits : α → Prop) (run : Run α) : Prop where
  success : ∀ result, outcome lookup run = .ok result →
    (∀ name ∈ names, (lookup name).isSome) ∧ fits result
  failure : ∀ reason, outcome lookup run = .error reason →
    ∃ name ∈ names, lookup name = none ∧ reason = .unknownVariable name

namespace Needs

variable {lookup}

/-- A value needs no names. So it has to fit whatever the replies would have been. -/
theorem pure {fits : α → Prop} {result : α} (good : fits result) :
    Needs lookup ∅ fits (pure result) where
  success := by
    intro other same
    cases same
    exact ⟨fun name impossible => False.elim impossible, good⟩
  failure := by
    intro reason impossible
    cases impossible

/-- A second part that relies on the value of the first one needs its names besides. The names
of the second part may not depend on the value of the first one, as long as it fits. -/
theorem bind {names others : Set String} {fits : α → Prop} {ends : β → Prop} {first : Run α}
    {next : α → Run β} (begins : Needs lookup names fits first)
    (continues : ∀ value, fits value → Needs lookup others ends (next value)) :
    Needs lookup (names ∪ others) ends (first >>= next) := by
  cases reached : outcome lookup first with
  | error earlier =>
    have failed : outcome lookup (first >>= next) = .error earlier := by
      rw [outcome_bind, reached]
      rfl
    obtain ⟨name, member, unknown, same⟩ := begins.failure earlier reached
    refine ⟨fun result impossible => ?_, fun reason also => ?_⟩
    · rw [failed] at impossible
      cases impossible
    · rw [failed] at also
      cases also
      exact ⟨name, Or.inl member, unknown, same⟩
  | ok middle =>
    have passed : outcome lookup (first >>= next) = outcome lookup (next middle) := by
      rw [outcome_bind, reached]
      rfl
    obtain ⟨known, good⟩ := begins.success middle reached
    refine ⟨fun result ended => ?_, fun reason failed => ?_⟩
    · obtain ⟨alsoKnown, fine⟩ := (continues middle good).success result (passed ▸ ended)
      refine ⟨fun name member => ?_, fine⟩
      exact member.elim (known name) (alsoKnown name)
    · obtain ⟨name, member, unknown, same⟩ :=
        (continues middle good).failure reason (passed ▸ failed)
      exact ⟨name, Or.inr member, unknown, same⟩

/-- A function applied to the value needs no further names. The function itself cannot fail. -/
theorem map {names : Set String} {fits : α → Prop} {ends : β → Prop} {run : Run α}
    (change : α → β) (begins : Needs lookup names fits run)
    (continues : ∀ value, fits value → ends (change value)) :
    Needs lookup names ends (change <$> run) := by
  rw [map_eq_pure_bind, ← Set.union_empty names]
  exact begins.bind fun value good => pure (continues value good)

/-- A value that fits one way may fit another way, and the names may be given otherwise. In most
uses the two sets of names are equal only after some calculation. -/
theorem weaken {names others : Set String} {fits ends : α → Prop} {run : Run α}
    (needs : Needs lookup names fits run) (same : names = others)
    (continues : ∀ value, fits value → ends value) : Needs lookup others ends run where
  success result answered := same ▸
    ⟨(needs.success result answered).1, continues result (needs.success result answered).2⟩
  failure := same ▸ needs.failure

/-- Looking up a name needs it, and has its value. Names that are not known to `lookup` may have
any values, because no result depends on them. -/
theorem valueOf {values : String → Float}
    (agrees : ∀ name value, lookup name = some value → values name = value) (name : String) :
    Needs lookup {name} (· = values name) (Machine.valueOf name) := by
  constructor
  · intro result answered
    rw [outcome_valueOf] at answered
    cases replied : lookup name with
    | none =>
      rw [replied] at answered
      cases answered
    | some value =>
      rw [replied] at answered
      cases answered
      refine ⟨?_, (agrees name result replied).symm⟩
      rintro _ rfl
      rw [replied]
      rfl
  · intro reason failed
    rw [outcome_valueOf] at failed
    cases replied : lookup name with
    | none =>
      rw [replied] at failed
      cases failed
      exact ⟨name, rfl, replied, rfl⟩
    | some value =>
      rw [replied] at failed
      cases failed

/-- There is a value exactly if all names that are needed have values. Whether a run succeeds is
therefore decided before it is begun. -/
theorem exists_ok_iff {names : Set String} {fits : α → Prop} {run : Run α}
    (needs : Needs lookup names fits run) :
    (∃ result, outcome lookup run = .ok result) ↔ ∀ name ∈ names, (lookup name).isSome := by
  constructor
  · rintro ⟨result, answered⟩
    exact (needs.success result answered).1
  · intro known
    cases ended : outcome lookup run with
    | ok result => exact ⟨result, rfl⟩
    | error reason =>
      obtain ⟨name, member, unknown, -⟩ := needs.failure reason ended
      have isKnown := known name member
      rw [unknown] at isKnown
      cases isKnown

end Needs

end Run

end WindowPlacement
