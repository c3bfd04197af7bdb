import Mathlib.Data.List.Basic
import Mathlib.Data.List.TakeWhile
import WindowPlacement.Text.Blank

/-!
# Pieces of a text

A text is divided at a separator in exactly one way, and so is a text into its margins and what
stands between them. The functions that find the pieces and the text without its margins are
compared with what they find: parts that make up the text, where no part has the separator in it,
and a core between blanks that neither begins nor ends in one.
-/

namespace WindowPlacement.Text

/-- The text is made of the parts with one separator between every two of them, and no part has
the separator in it. A text without the separator is one part, and the empty text is one empty
part. -/
structure Divides (separator : Char) (text : List Char) (parts : List (List Char)) : Prop where
  nonempty : parts ≠ []
  joined : text = [separator].intercalate parts
  apart : ∀ part ∈ parts, separator ∉ part

/-- The core is the text without the blanks at its ends. A core of one character is first and
last at once, and an empty core is neither. -/
structure Trims (text core : List Char) : Prop where
  margins : ∃ before after, text = before ++ core ++ after ∧
    (∀ character ∈ before, isBlank character = true) ∧
    ∀ character ∈ after, isBlank character = true
  head : ∀ first rest, core = first :: rest → isBlank first = false
  last : ∀ front final, core = front ++ [final] → isBlank final = false

/-! ## Dividing at a separator -/

/-- The pieces are those into which lists are split everywhere. What is known of splitting lists
therefore holds of them. -/
theorem pieces_eq_splitOn (separator : Char) (text : List Char) :
    pieces separator text = text.splitOn separator := by
  induction text with
  | nil => rfl
  | cons character rest inductionHypothesis =>
    rw [pieces, List.splitOn_cons_eq_if_modifyHead, inductionHypothesis]
    by_cases same : character = separator
    · simp [same]
    · cases split : rest.splitOn separator with
      | nil => exact absurd split (List.splitOn_ne_nil separator rest)
      | cons piece others => simp [same]

/-- No piece has the separator in it. So a piece is not divided any further. -/
theorem notMem_of_mem_pieces {separator : Char} {text piece : List Char}
    (member : piece ∈ pieces separator text) : separator ∉ piece := by
  induction text generalizing piece with
  | nil =>
    obtain rfl := List.mem_singleton.mp member
    exact List.not_mem_nil
  | cons character rest inductionHypothesis =>
    unfold pieces at member
    split at member
    · rcases List.mem_cons.mp member with rfl | later
      · exact List.not_mem_nil
      · exact inductionHypothesis later
    · rename_i other
      split at member
      · obtain rfl := List.mem_singleton.mp member
        simpa using Ne.symm other
      · rename_i first others split
        rcases List.mem_cons.mp member with rfl | later
        · have absent : separator ∉ first := inductionHypothesis (by simp [split])
          simp [absent, Ne.symm other]
        · exact inductionHypothesis (by simp [split, later])

/-- The pieces are the only parts into which a text is divided. There is always one division,
and never a second. -/
theorem divides_iff (separator : Char) (text : List Char) (parts : List (List Char)) :
    Divides separator text parts ↔ pieces separator text = parts := by
  constructor
  · rintro ⟨nonempty, rfl, apart⟩
    rw [pieces_eq_splitOn, List.splitOn_intercalate separator apart nonempty]
  · rintro rfl
    refine ⟨?_, ?_, fun part => notMem_of_mem_pieces⟩
    · rw [pieces_eq_splitOn]
      exact List.splitOn_ne_nil separator text
    · rw [pieces_eq_splitOn, List.intercalate_splitOn]

/-! ## Trimming -/

/-- Blanks are dropped up to the first character that is none. Where the core is empty, nothing
is left. -/
theorem dropWhile_append_shown {before core : List Char}
    (blank : ∀ character ∈ before, isBlank character = true)
    (head : ∀ first rest, core = first :: rest → isBlank first = false) :
    (before ++ core).dropWhile isBlank = core := by
  rw [List.dropWhile_append_of_pos blank]
  cases core with
  | nil => rfl
  | cons first rest => exact List.dropWhile_cons_of_neg (by simp [head first rest rfl])

/-- What is left after blanks have been dropped does not begin with one. It is the character at
which the dropping stops. -/
theorem shown_of_dropWhile {text rest : List Char} {first : Char}
    (left : text.dropWhile isBlank = first :: rest) : isBlank first = false := by
  have shown := List.head?_dropWhile_not isBlank text
  simpa [left] using shown

/-- Nothing but the core of a text is left. The margins need not be known. -/
theorem Trims.trim_eq {text core : List Char} (trims : Trims text core) : trim text = core := by
  obtain ⟨⟨before, after, rfl, blankBefore, blankAfter⟩, head, last⟩ := trims
  rcases List.eq_nil_or_concat' core with rfl | ⟨front, final, rfl⟩
  · have blank : ∀ character ∈ before ++ after, isBlank character = true :=
      List.forall_mem_append.mpr ⟨blankBefore, blankAfter⟩
    have nothing : (before ++ after).dropWhile isBlank = [] := List.dropWhile_eq_nil_iff.mpr blank
    rw [trim, List.append_nil, nothing]
    rfl
  · have begins : (before ++ (front ++ [final]) ++ after).dropWhile isBlank =
        front ++ [final] ++ after := by
      rw [List.append_assoc]
      refine dropWhile_append_shown blankBefore fun first rest same => ?_
      cases front with
      | nil =>
        obtain rfl : final = first := (List.cons.inj same).1
        exact last [] final rfl
      | cons character others =>
        obtain rfl : character = first := (List.cons.inj same).1
        exact head character _ rfl
    have ends : (front ++ [final] ++ after).reverse.dropWhile isBlank =
        (front ++ [final]).reverse := by
      rw [List.reverse_append]
      refine dropWhile_append_shown (by simpa using blankAfter) fun first rest same => ?_
      rw [List.reverse_append, List.reverse_singleton, List.singleton_append] at same
      obtain rfl : final = first := (List.cons.inj same).1
      exact last front final rfl
    rw [trim, begins, ends, List.reverse_reverse]

/-- What is left of a text is its core. Together with `Trims.trim_eq` it says that each text has
one core. -/
theorem trims_trim (text : List Char) : Trims text (trim text) := by
  let body := text.dropWhile isBlank
  have front : text = text.takeWhile isBlank ++ body := List.takeWhile_append_dropWhile.symm
  have back : body = trim text ++ (body.reverse.takeWhile isBlank).reverse := by
    rw [trim, ← List.reverse_append, List.takeWhile_append_dropWhile, List.reverse_reverse]
  refine ⟨⟨text.takeWhile isBlank, (body.reverse.takeWhile isBlank).reverse, ?_, ?_, ?_⟩,
    ?_, ?_⟩
  · rw [List.append_assoc, ← back, ← front]
  · exact List.all_eq_true.mp List.all_takeWhile
  · intro character member
    exact List.all_eq_true.mp List.all_takeWhile character (List.mem_reverse.mp member)
  · intro first rest same
    rw [same] at back
    exact shown_of_dropWhile back
  · intro left final same
    rw [trim, List.reverse_eq_iff, List.reverse_append] at same
    exact shown_of_dropWhile same

/-- The blanks at both ends of a text are dropped, and nothing else. Blanks inside the core stay
where they are. -/
theorem trims_iff (text core : List Char) : Trims text core ↔ trim text = core := by
  constructor
  · exact Trims.trim_eq
  · rintro rfl
    exact trims_trim text

end WindowPlacement.Text
