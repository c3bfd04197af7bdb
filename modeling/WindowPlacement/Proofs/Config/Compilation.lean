import Mathlib.Data.List.Forall2
import WindowPlacement.Placement

/-!
# Compiling a configuration

A configuration is compiled as a whole or not at all. Its source texts stand in a fixed
order: that of the actions, and within an action the coordinates of the move before the
measures of the resizing. If all of them are valid, every field that is there gets the code
of its own text. Otherwise the first text that is not valid gives the fault, which names its
place and holds its own cause.
-/

namespace WindowPlacement

/-- A source text of a configuration and where it stands. The text alone does not determine the
fault, which also says where the text stands. -/
structure FieldText where
  /-- The position of its action. -/
  index : Nat
  field : Field
  source : String

namespace FieldText

/-- The source text has a code. What the code does when it is run is of no account here. -/
def Accepted (text : FieldText) : Prop := ∃ code, Code.compile text.source = .ok code

/-- The source text has none, and the fault says where it stands and why. The cause is the one
that the text has on its own, wherever it stands. -/
def Refused (text : FieldText) (fault : Fault) : Prop :=
  ∃ cause, Code.compile text.source = .error cause ∧
    fault = .action text.index text.field cause

/-- The fault is that of the first text without a code. Texts behind it are not looked at, and
may be valid or not. -/
def FirstRefused (texts : List FieldText) (fault : Fault) : Prop :=
  ∃ before text after, texts = before ++ text :: after ∧
    (∀ earlier ∈ before, earlier.Accepted) ∧ text.Refused fault

/-- A text that has a code is not refused. Compiling is a function, so that a text cannot come
to both ends. -/
theorem Accepted.not_refused {text : FieldText} {fault : Fault} (accepted : text.Accepted) :
    ¬ text.Refused fault := by
  obtain ⟨code, compiled⟩ := accepted
  rintro ⟨cause, failed, -⟩
  rw [compiled] at failed
  cases failed

/-- Without texts nothing is refused. An action that neither moves nor resizes has no texts, and
compiles. -/
theorem firstRefused_nil (fault : Fault) : ¬ FirstRefused [] fault := by
  rintro ⟨before, text, after, split, -⟩
  cases before <;> cases split

/-- The first text is refused, or it has a code and what follows is refused. This is how a list
of texts is checked from its front. -/
theorem firstRefused_cons (first : FieldText) (others : List FieldText) (fault : Fault) :
    FirstRefused (first :: others) fault ↔
      first.Refused fault ∨ first.Accepted ∧ FirstRefused others fault := by
  constructor
  · rintro ⟨before, text, after, split, accepted, refused⟩
    cases before with
    | nil =>
      cases split
      exact Or.inl refused
    | cons head before =>
      cases split
      obtain ⟨valid, accepted⟩ := List.forall_mem_cons.mp accepted
      exact Or.inr ⟨valid, before, text, after, rfl, accepted, refused⟩
  · rintro (refused | ⟨valid, before, text, after, rfl, accepted, refused⟩)
    · exact ⟨[], first, others, rfl, List.forall_mem_nil _, refused⟩
    · exact ⟨first :: before, text, after, rfl, List.forall_mem_cons.mpr ⟨valid, accepted⟩,
        refused⟩

/-- Entries that stand behind others are refused once those have been accepted. -/
theorem firstRefused_append (first second : List FieldText) (fault : Fault) :
    FirstRefused (first ++ second) fault ↔
      FirstRefused first fault ∨ (∀ text ∈ first, text.Accepted) ∧ FirstRefused second fault := by
  induction first with
  | nil => simp [firstRefused_nil]
  | cons head others inductionHypothesis =>
    rw [List.cons_append, firstRefused_cons, firstRefused_cons, inductionHypothesis,
      List.forall_mem_cons]
    tauto

/-- Entries that are all accepted are not refused. So a configuration compiles or is refused,
and not both. -/
theorem FirstRefused.not_accepted {texts : List FieldText} {fault : Fault}
    (refused : FirstRefused texts fault) : ¬ ∀ text ∈ texts, text.Accepted := by
  obtain ⟨before, text, after, rfl, -, refused⟩ := refused
  intro accepted
  exact (accepted text (by simp)).not_refused refused

/-- There is one first text that is refused, and one reason for it. A configuration cannot be
refused in two ways. -/
theorem FirstRefused.unique {texts : List FieldText} {fault other : Fault}
    (refused : FirstRefused texts fault) (also : FirstRefused texts other) :
    fault = other := by
  induction texts with
  | nil => exact absurd refused (firstRefused_nil fault)
  | cons head others inductionHypothesis =>
    rw [firstRefused_cons] at refused also
    rcases refused with here | ⟨accepted, later⟩
    · rcases also with alsoHere | ⟨accepted, -⟩
      · obtain ⟨cause, failed, rfl⟩ := here
        obtain ⟨same, alsoFailed, rfl⟩ := alsoHere
        rw [failed] at alsoFailed
        cases alsoFailed
        rfl
      · exact absurd here accepted.not_refused
    · rcases also with alsoHere | ⟨-, alsoLater⟩
      · exact absurd alsoHere accepted.not_refused
      · exact inductionHypothesis later alsoLater

end FieldText

/-! ## Checking texts in a row -/

/-- The outcome of a step that checks texts in a row: where there is a value, all of the texts
have codes and the value fits them; otherwise the first text without a code gives the fault. The
texts are those that the step looks at, in the order in which it does. What it makes of their
codes is left to the property that fits. -/
structure Checks {α : Type} (texts : List FieldText) (fits : α → Prop)
    (outcome : Except Fault α) : Prop where
  accepted : ∀ value, outcome = .ok value → (∀ text ∈ texts, text.Accepted) ∧ fits value
  refused : ∀ fault, outcome = .error fault → FieldText.FirstRefused texts fault

namespace Checks

variable {α β : Type}

/-- A value that needs no check. No text is looked at. -/
theorem ok {fits : α → Prop} {value : α} (good : fits value) :
    Checks [] fits (.ok value) where
  accepted := by
    intro other same
    cases same
    exact ⟨List.forall_mem_nil _, good⟩
  refused := by
    intro fault impossible
    cases impossible

/-- A step that relies on the value of an earlier one checks its texts behind those of the
earlier one. If the earlier step is refused, the later one is not begun, and its texts are not
looked at. -/
theorem bind {texts others : List FieldText} {fits : α → Prop} {ends : β → Prop}
    {first : Except Fault α} {next : α → Except Fault β} (begins : Checks texts fits first)
    (continues : ∀ value, fits value → Checks others ends (next value)) :
    Checks (texts ++ others) ends (first >>= next) := by
  cases first with
  | error reason =>
    refine ⟨fun value impossible => (by cases impossible), fun fault failed => ?_⟩
    cases failed
    exact (FieldText.firstRefused_append _ _ _).mpr (Or.inl (begins.refused reason rfl))
  | ok value =>
    obtain ⟨accepted, good⟩ := begins.accepted value rfl
    refine ⟨fun result reached => ?_, fun fault failed => ?_⟩
    · obtain ⟨alsoAccepted, ended⟩ := (continues value good).accepted result reached
      exact ⟨List.forall_mem_append.mpr ⟨accepted, alsoAccepted⟩, ended⟩
    · exact (FieldText.firstRefused_append _ _ _).mpr
        (Or.inr ⟨accepted, (continues value good).refused fault failed⟩)

/-- A step after which nothing more is checked. What the value is turned into is decided without
any text. -/
theorem map {texts : List FieldText} {fits : α → Prop} {ends : β → Prop} {first : Except Fault α}
    (change : α → β) (begins : Checks texts fits first)
    (continues : ∀ value, fits value → ends (change value)) :
    Checks texts ends (first >>= fun value => pure (change value)) := by
  have ended := begins.bind fun value good => Checks.ok (continues value good)
  rwa [List.append_nil] at ended

/-- There is a value exactly if all texts have codes. That texts have codes can be tested one by
one, in any order. -/
theorem exists_ok_iff {texts : List FieldText} {fits : α → Prop} {outcome : Except Fault α}
    (checks : Checks texts fits outcome) :
    (∃ value, outcome = .ok value) ↔ ∀ text ∈ texts, text.Accepted := by
  constructor
  · rintro ⟨value, reached⟩
    exact (checks.accepted value reached).1
  · intro accepted
    cases outcome with
    | ok value => exact ⟨value, rfl⟩
    | error fault => exact absurd accepted (checks.refused fault rfl).not_accepted

/-- The fault is exactly that of the first text without a code. Of several texts without a code
only the first one is reported. -/
theorem eq_error_iff {texts : List FieldText} {fits : α → Prop} {outcome : Except Fault α}
    (checks : Checks texts fits outcome) (fault : Fault) :
    outcome = .error fault ↔ FieldText.FirstRefused texts fault := by
  constructor
  · exact checks.refused fault
  · intro refused
    cases outcome with
    | ok value => exact absurd (checks.accepted value rfl).1 refused.not_accepted
    | error other => rw [refused.unique (checks.refused other rfl)]

end Checks

/-! ## Actions -/

namespace Action

/-- The source texts of an action in order. A part that is not there has no texts. The position
of the action stands with each of them. -/
def texts (index : Nat) (action : Action String) : List FieldText :=
  (action.move.elim [] fun move => [⟨index, .moveX, move.x⟩, ⟨index, .moveY, move.y⟩]) ++
    action.resize.elim [] fun resize =>
      [⟨index, .resizeWidth, resize.width⟩, ⟨index, .resizeHeight, resize.height⟩]

/-- A compiled action keeps the hot key, has a move and a resizing exactly where there is one in
its source, and holds the code of each source text in the place of that text. Nothing else is
kept of the source, and the texts are not needed any more. -/
structure CompiledInto (action : Action String) (compiled : Action Code) : Prop where
  hotKey : compiled.hotKey = action.hotKey
  move : Option.Rel (fun source code => Code.compile source.x = .ok code.x ∧
    Code.compile source.y = .ok code.y) action.move compiled.move
  resize : Option.Rel (fun source code => Code.compile source.width = .ok code.width ∧
    Code.compile source.height = .ok code.height) action.resize compiled.resize

/-- Compiling a field checks its own text. The fault of a field is the fault of its text, with
the place of the field around it. -/
theorem compileField_checks (index : Nat) (field : Field) (source : String) :
    Checks [⟨index, field, source⟩] (fun code => Code.compile source = .ok code)
      (compileField index field source) := by
  unfold compileField
  cases compiled : Code.compile source with
  | ok code =>
    refine ⟨fun value same => ?_, fun fault impossible => (by cases impossible)⟩
    cases same
    exact ⟨List.forall_mem_singleton.mpr ⟨code, compiled⟩, rfl⟩
  | error cause =>
    refine ⟨fun value impossible => (by cases impossible), fun fault same => ?_⟩
    cases same
    exact (FieldText.firstRefused_cons _ _ _).mpr (Or.inl ⟨cause, compiled, rfl⟩)

/-- The text of the first coordinate is checked before that of the second one. -/
theorem compileMove_checks (index : Nat) (move : Point String) :
    Checks [⟨index, .moveX, move.x⟩, ⟨index, .moveY, move.y⟩]
      (fun code => Code.compile move.x = .ok code.x ∧ Code.compile move.y = .ok code.y)
      (compileMove index move) := by
  refine (compileField_checks index .moveX move.x).bind fun x xCompiled => ?_
  exact (compileField_checks index .moveY move.y).map (Point.mk x) fun y yCompiled =>
    ⟨xCompiled, yCompiled⟩

/-- The text of the width is checked before that of the height. -/
theorem compileResize_checks (index : Nat) (resize : Size String) :
    Checks [⟨index, .resizeWidth, resize.width⟩, ⟨index, .resizeHeight, resize.height⟩]
      (fun code => Code.compile resize.width = .ok code.width ∧
        Code.compile resize.height = .ok code.height)
      (compileResize index resize) := by
  refine (compileField_checks index .resizeWidth resize.width).bind fun width widthCompiled => ?_
  exact (compileField_checks index .resizeHeight resize.height).map (Size.mk width)
    fun height heightCompiled => ⟨widthCompiled, heightCompiled⟩

/-- A part that is not there needs no check. A part that is there is checked as it would be
alone. -/
theorem whenPresent_checks {α β : Type} {check : α → Except Fault β} {texts : α → List FieldText}
    {fits : α → β → Prop} (checks : ∀ value, Checks (texts value) (fits value) (check value))
    (present : Option α) :
    Checks (present.elim [] texts) (Option.Rel fits present) (whenPresent check present) := by
  cases present with
  | none => exact Checks.ok .none
  | some value =>
    have mapped : whenPresent check (some value) = check value >>= fun result =>
        pure (some result) := by
      rw [whenPresent]
      cases check value <;> rfl
    rw [mapped]
    exact (checks value).map some fun result good => .some good

/-- Compiling an action checks the texts of its move before those of its resizing. The hot key
is not checked: every key code and every set of modifiers is valid. -/
theorem compile_checks (index : Nat) (action : Action String) :
    Checks (action.texts index) (CompiledInto action) (action.compile index) := by
  refine (whenPresent_checks (compileMove_checks index) action.move).bind fun move moveFits => ?_
  exact (whenPresent_checks (compileResize_checks index) action.resize).map
    (Action.mk action.hotKey move) fun resize resizeFits => ⟨rfl, moveFits, resizeFits⟩

end Action

/-! ## Configurations -/

namespace Config

/-- The source texts of a configuration in order. -/
def texts (config : Config) : List FieldText :=
  config.actions.zipIdx.flatMap fun (action, index) => action.texts index

/-- Compiling actions checks the texts of one action after those of another.

Proof: induction on the actions. The position of an action is that of the one before it, and one
more. -/
theorem compileFrom_checks (index : Nat) (actions : List (Action String)) :
    Checks ((actions.zipIdx index).flatMap fun (action, index) => action.texts index)
      (List.Forall₂ Action.CompiledInto actions) (compileFrom index actions) := by
  induction actions generalizing index with
  | nil => exact Checks.ok .nil
  | cons action others inductionHypothesis =>
    rw [List.zipIdx_cons, List.flatMap_cons]
    refine (action.compile_checks index).bind fun compiled fits => ?_
    exact (inductionHypothesis (index + 1)).map (compiled :: ·) fun rest restFits =>
      .cons fits restFits

/-- Compiling a configuration checks its texts in order. Positions count from zero. -/
theorem compileActions_checks (config : Config) :
    Checks config.texts (List.Forall₂ Action.CompiledInto config.actions)
      config.compileActions :=
  compileFrom_checks 0 config.actions

/-- A configuration is compiled exactly if all of its source texts have codes. Then there is one
compiled action for each action, in the same order, with the code of each source text in its
place. Otherwise the fault is that of the first source text without a code. -/
theorem compileActions_all_or_nothing (config : Config) :
    ((∃ actions, config.compileActions = .ok actions) ↔
      ∀ text ∈ config.texts, text.Accepted) ∧
    (∀ actions, config.compileActions = .ok actions →
      List.Forall₂ Action.CompiledInto config.actions actions) ∧
    ∀ fault, config.compileActions = .error fault ↔ FieldText.FirstRefused config.texts fault := by
  have checks := compileActions_checks config
  exact ⟨checks.exists_ok_iff, fun actions reached => (checks.accepted actions reached).2,
    checks.eq_error_iff⟩

end Config

end WindowPlacement
