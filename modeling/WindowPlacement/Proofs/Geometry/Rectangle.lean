import Mathlib.Data.List.Forall2
import WindowPlacement.Fault
import WindowPlacement.Proofs.Text.Pieces

/-!
# Texts of rectangles

A text of a rectangle has four numbers with commas between them and any blanks around each. Every
text has entries in this sense, although there may be too few or too many, and some of them may be
empty. The entries decide what becomes of the text: the first one that is no number gives the
reason for refusing it, and their count matters only if all of them are numbers.
-/

namespace WindowPlacement.Rect

/-- The entries of a text: what stands between its commas, without the blanks around it. A text
without a comma has one entry, which may be empty; there is no text without entries. -/
def Entries (text : List Char) (entries : List (List Char)) : Prop :=
  ∃ parts, Text.Divides ',' text parts ∧ List.Forall₂ Text.Trims parts entries

/-- The entries are numbers, and these are their values in order. There are as many numbers as
entries, and nothing is said of how many that is. -/
def ReadAs (entries : List (List Char)) (numbers : List Float) : Prop :=
  List.Forall₂ (fun entry number => Decimal.read entry = .ok number) entries numbers

/-- The first entry that is no number is refused for the reason given. What the entries behind
it are does not matter. -/
def FirstRefused (entries : List (List Char)) (reason : Decimal.LiteralError) : Prop :=
  ∃ before entry after, entries = before ++ entry :: after ∧
    (∀ earlier ∈ before, ∃ number, Decimal.read earlier = .ok number) ∧
    Decimal.read entry = .error reason

/-- A text has the entries that are found in it, and no others. So the relation, which says what
entries are, and the function, which finds them, may replace each other. -/
theorem entries_iff (text : List Char) (entries : List (List Char)) :
    Entries text entries ↔ (Text.pieces ',' text).map Text.trim = entries := by
  have trims : Text.Trims = fun part core => Text.trim part = core :=
    funext fun part => funext fun core => propext (Text.trims_iff part core)
  simp only [Entries, Text.divides_iff, exists_eq_left', trims]
  rw [← List.forall₂_map_left_iff, List.forall₂_eq_eq_eq]

/-! ## Reading the entries -/

/-- The first entry is refused, or it is a number and one behind it is refused. It is the step
by which a row of entries is searched. -/
theorem firstRefused_cons (entry : List Char) (others : List (List Char))
    (reason : Decimal.LiteralError) :
    FirstRefused (entry :: others) reason ↔ Decimal.read entry = .error reason ∨
      (∃ number, Decimal.read entry = .ok number) ∧ FirstRefused others reason := by
  constructor
  · rintro ⟨before, refused, after, split, accepted, failed⟩
    cases before with
    | nil =>
      cases split
      exact Or.inl failed
    | cons head before =>
      cases split
      obtain ⟨valid, accepted⟩ := List.forall_mem_cons.mp accepted
      exact Or.inr ⟨valid, before, refused, after, rfl, accepted, failed⟩
  · rintro (failed | ⟨valid, before, refused, after, rfl, accepted, failed⟩)
    · exact ⟨[], entry, others, rfl, List.forall_mem_nil _, failed⟩
    · exact ⟨entry :: before, refused, after, rfl, List.forall_mem_cons.mpr ⟨valid, accepted⟩,
        failed⟩

/-- The entries behind the first one are read if that one is a number. If it is none, the others
are not read. -/
theorem mapM_read_cons (entry : List Char) (others : List (List Char)) :
    (entry :: others).mapM Decimal.read =
      match Decimal.read entry with
      | .error reason => .error reason
      | .ok number => (others.mapM Decimal.read).map (number :: ·) := by
  rw [List.mapM_cons]
  cases Decimal.read entry with
  | error reason => rfl
  | ok number => cases others.mapM Decimal.read <;> rfl

/-- Entries that are all numbers have their values. The length of the row is arbitrary. -/
theorem mapM_read_eq_ok_iff (entries : List (List Char)) (numbers : List Float) :
    entries.mapM Decimal.read = .ok numbers ↔ ReadAs entries numbers := by
  induction entries generalizing numbers with
  | nil =>
    rw [List.mapM_nil, ReadAs, List.forall₂_nil_left_iff]
    exact ⟨fun same => (Except.ok.inj same).symm, fun same => same ▸ rfl⟩
  | cons entry others inductionHypothesis =>
    rw [mapM_read_cons, ReadAs, List.forall₂_cons_left_iff]
    constructor
    · intro accepted
      cases first : Decimal.read entry with
      | error reason => simp [first] at accepted
      | ok number =>
        cases later : others.mapM Decimal.read with
        | error reason => simp [first, later, Except.map] at accepted
        | ok rest =>
          simp only [first, later, Except.map, Except.ok.injEq] at accepted
          exact ⟨number, rest, rfl, (inductionHypothesis rest).mp later, accepted.symm⟩
    · rintro ⟨number, rest, first, reads, rfl⟩
      rw [first, (inductionHypothesis rest).mpr reads]
      rfl

/-- Otherwise there is the reason for which the first one is refused that is no number. There is
exactly one such reason, because each entry has at most one. -/
theorem mapM_read_eq_error_iff (entries : List (List Char)) (reason : Decimal.LiteralError) :
    entries.mapM Decimal.read = .error reason ↔ FirstRefused entries reason := by
  induction entries with
  | nil =>
    refine iff_of_false (by simp [pure, Except.pure]) ?_
    rintro ⟨before, entry, after, split, -⟩
    simp at split
  | cons entry others inductionHypothesis =>
    rw [mapM_read_cons, firstRefused_cons, ← inductionHypothesis]
    cases Decimal.read entry with
    | error other => simp
    | ok number => cases others.mapM Decimal.read <;> simp [Except.map]

/-- Entries with values are all numbers. The values are forgotten. -/
theorem ReadAs.accepted {entries : List (List Char)} {numbers : List Float}
    (reads : ReadAs entries numbers) :
    ∀ entry ∈ entries, ∃ number, Decimal.read entry = .ok number := by
  induction reads with
  | nil => exact List.forall_mem_nil _
  | cons first _ inductionHypothesis =>
    exact List.forall_mem_cons.mpr ⟨⟨_, first⟩, inductionHypothesis⟩

/-- Where an entry is refused, not all of them are numbers. So a text is not refused for two
reasons at once. -/
theorem FirstRefused.not_accepted {entries : List (List Char)} {reason : Decimal.LiteralError}
    (refused : FirstRefused entries reason) :
    ¬ ∀ entry ∈ entries, ∃ number, Decimal.read entry = .ok number := by
  obtain ⟨before, entry, after, rfl, -, failed⟩ := refused
  intro accepted
  obtain ⟨number, read⟩ := accepted entry (by simp)
  rw [failed] at read
  cases read

/-! ## The outcome -/

/-- The numbers of a text are read from its entries. Whether they are four is looked at
afterwards. -/
theorem numbersOf_eq {text : List Char} {entries : List (List Char)}
    (found : Entries text entries) : numbersOf text = entries.mapM Decimal.read := by
  rw [← (entries_iff text entries).mp found, List.mapM_map]
  rfl

section Outcome

variable {text : String} {entries : List (List Char)} (found : Entries text.toList entries)

include found

/-- A text is a rectangle exactly if its entries are four numbers. The numbers may be any,
infinite ones and negative measures included. -/
theorem ofText_eq_ok_iff (rect : Rect) :
    ofText text = .ok rect ↔ ∃ x y width height,
      ReadAs entries [x, y, width, height] ∧ rect = ofNumbers x y width height := by
  rw [ofText, numbersOf_eq found]
  constructor
  · intro accepted
    split at accepted
    · cases accepted
    · rename_i x y width height read
      exact ⟨x, y, width, height, (mapM_read_eq_ok_iff _ _).mp read,
        (Except.ok.inj accepted).symm⟩
    · cases accepted
  · rintro ⟨x, y, width, height, reads, rfl⟩
    rw [(mapM_read_eq_ok_iff _ _).mpr reads]

/-- A text is refused for one of its entries exactly if that entry is refused first. The number
of the entries is not mentioned: a bad entry comes before a wrong count. -/
theorem ofText_eq_piece_iff (reason : Decimal.LiteralError) :
    ofText text = .error (.piece reason) ↔ FirstRefused entries reason := by
  rw [ofText, numbersOf_eq found, ← mapM_read_eq_error_iff]
  constructor
  · intro refused
    split at refused
    · rename_i read
      cases refused
      exact read
    · cases refused
    · cases refused
  · intro read
    rw [read]

/-- A text is refused for the number of its entries exactly if all of them are numbers and they
are not four. The text has three numbers, five or any other count then, and each of them is
good. -/
theorem ofText_eq_count_iff :
    ofText text = .error .count ↔
      (∀ entry ∈ entries, ∃ number, Decimal.read entry = .ok number) ∧ entries.length ≠ 4 := by
  rw [ofText, numbersOf_eq found]
  constructor
  · intro refused
    split at refused
    · cases refused
    · cases refused
    · rename_i numbers others read
      have reads : ReadAs entries numbers := (mapM_read_eq_ok_iff entries numbers).mp read
      refine ⟨reads.accepted, fun four => ?_⟩
      rw [List.Forall₂.length_eq reads] at four
      obtain ⟨x, y, width, height, rfl⟩ := List.length_eq_four.mp four
      exact others x y width height rfl
  · rintro ⟨accepted, other⟩
    cases read : entries.mapM Decimal.read with
    | error reason =>
      exact absurd accepted ((mapM_read_eq_error_iff entries reason).mp read).not_accepted
    | ok numbers =>
      have counted : entries.length = numbers.length :=
        List.Forall₂.length_eq ((mapM_read_eq_ok_iff entries numbers).mp read)
      split
      · rename_i impossible
        cases impossible
      · rename_i same
        cases same
        exact absurd counted other
      · rfl

end Outcome

/-- A number that is missing is reported, although there are too many entries as well. -/
example : ofText "1, 2,,x,5" = .error (.piece .empty) := by decide +kernel

end WindowPlacement.Rect
