import WindowPlacement.Proofs.Token.Layout
import WindowPlacement.Proofs.Token.Leftover

/-!
# Texts with blanks between them

Two source texts with blanks between them have the tokens of the first text and then those of the
second one. A number that a fraction or an exponent could still follow, a name that could have
another part and a sign that could belong to a number all end at a blank as they do at the end of
a text, because no lexeme has a blank in it.

The converse cuts a text at blanks. The part in front has to end in a character that is not blank:
blanks behind the last token of a text are left over.
-/

namespace WindowPlacement.Lexeme

open WindowPlacement.Parser

/-- What is left after some pieces may be split further. The rest of the first split is the text
of the second one. -/
theorem Splits.append {text middle rest : List Char} {before after : List Piece}
    (splits : Splits text before middle) (further : Splits middle after rest) :
    Splits text (before ++ after) rest := by
  induction splits with
  | done middle => exact further
  | piece fits _ inductionHypothesis => exact .piece fits (inductionHypothesis further)

/-- A text is split alike if it is continued with a blank. The rest is continued too, so the
split does not claim that the blanks belong to any piece. -/
theorem Splits.before_blank {text behind rest : List Char} {pieces : List Piece}
    (splits : Splits text pieces rest)
    (ends : ∀ character tail, behind = character :: tail → Text.isBlank character = true) :
    Splits (text ++ behind) pieces (rest ++ behind) := by
  induction splits with
  | done rest => exact .done _
  | @piece piece others later rest fits _ inductionHypothesis =>
    have longest := fits.longest.before_blank ends
    rw [List.append_assoc] at longest ⊢
    exact .piece ⟨fits.blank, longest, fits.denotes⟩ inductionHypothesis

/-- Blanks in front of a text have no tokens and hide none. Without any tokens it would be
false: blanks alone are left over. -/
theorem rounds_token_indented {gap text : List Char} {tokens : List Token}
    (blank : ∀ character ∈ gap, Text.isBlank character = true) (some : tokens ≠ []) :
    rounds Lexer.token (gap ++ text) = (tokens, []) ↔ rounds Lexer.token text = (tokens, []) := by
  have same : Lexer.token (gap ++ text) = Lexer.token text := by
    rw [token_eq, token_eq, List.dropWhile_append_of_pos blank]
  rw [rounds, rounds, same]
  cases parsed : Lexer.token text with
  | error reason => simp [some.symm]
  | ok answer =>
    have shorter : answer.2.length < text.length := (token_advances text _ _ parsed).2
    have alsoShorter : answer.2.length < (gap ++ text).length := by
      rw [List.length_append]
      omega
    simp only [if_pos shorter, if_pos alsoShorter]

/-- A text may be indented, and has the same tokens. Only the front of a text has this property;
blanks at its end are left over. -/
theorem tokenize_indented {gap source : String} {tokens : List Token}
    (blank : ∀ character ∈ gap.toList, Text.isBlank character = true) :
    Lexer.tokenize (gap ++ source) = .ok tokens ↔ Lexer.tokenize source = .ok tokens := by
  rw [tokenize_eq_ok_iff_rounds, tokenize_eq_ok_iff_rounds, String.toList_append]
  exact and_congr_right fun some => rounds_token_indented blank some

/-! ## Cutting a text at blanks -/

/-- Behind a character of a piece that is not blank, no character of it is. It is so because the
blanks of a piece all stand in front of its word. -/
theorem Piece.Fits.visible_behind {piece : Piece} {behind front surplus : List Char} {last : Char}
    (fits : piece.Fits behind) (shown : Text.isBlank last = false)
    (same : piece.text = front ++ [last] ++ surplus) :
    ∀ character ∈ surplus, Text.isBlank character = false := by
  rw [Piece.text] at same
  rcases List.append_eq_append_iff.mp same with ⟨part, -, word⟩ | ⟨part, blanks, -⟩
  · intro character inside
    exact isBlank_of_mem_lexeme fits.longest.member character
      (word ▸ List.mem_append_right part inside)
  · have hidden : Text.isBlank last = true := fits.blank last (by simp [blanks])
    rw [shown] at hidden
    cases hidden

/-- Where a character that is not blank is followed by a blank, a piece ends between the two.
The first part is split in front of the blank and the second from the blank on, each with its
own pieces.

Proof: induction on the split. The first piece does not reach over the blank. If it ends before
the character in front of the blank, the others are cut. -/
theorem Splits.cut_at_blank {front later : List Char} {last blank : Char} {pieces : List Piece}
    (splits : Splits (front ++ [last] ++ blank :: later) pieces [])
    (shown : Text.isBlank last = false) (hidden : Text.isBlank blank = true) :
    ∃ before after, pieces = before ++ after ∧
      Splits (front ++ [last] ++ blank :: later) before (blank :: later) ∧
      Splits (blank :: later) after [] := by
  generalize same : front ++ [last] ++ blank :: later = text at splits
  generalize whole : [] = rest at splits ⊢
  induction splits generalizing front with
  | done rest =>
    rw [← whole] at same
    simp at same
  | @piece piece others behind rest fits splits inductionHypothesis =>
    rcases List.append_eq_append_iff.mp same.symm with ⟨more, shape, rfl⟩ | ⟨more, shape, tail⟩
    · rcases List.eq_nil_or_concat' more with rfl | ⟨middle, other, rfl⟩
      · exact ⟨[piece], others, rfl, .piece fits (.done _), splits⟩
      · rw [← List.append_assoc] at shape
        obtain ⟨rfl, lastSame⟩ := List.append_inj' shape rfl
        cases lastSame
        obtain ⟨before, after, rfl, begins, others⟩ := inductionHypothesis rfl whole
        exact ⟨piece :: before, after, rfl, .piece fits begins, others⟩
    · cases more with
      | nil =>
        obtain rfl : blank :: later = behind := tail
        exact ⟨[piece], others, rfl, .piece fits (.done _), splits⟩
      | cons character more =>
        obtain rfl : blank = character := (List.cons.inj tail).1
        have visible := fits.visible_behind shown shape blank List.mem_cons_self
        rw [hidden] at visible
        cases visible

/-- The tokens of two texts with blanks between them are those of the first text and then those
of the second one. What kind of blanks they are, and how many, makes no difference.

If both texts have tokens, then so has the text that is made of the first one, at least one
blank and the second one. If that text has tokens and the first one is not empty and does not
end in a blank, then both have tokens: the second one cannot be blank then, because blanks
behind the last token would be left over. -/
theorem tokenize_with_gap (first gap second : String) (nonempty : gap ≠ "")
    (blank : ∀ character ∈ gap.toList, Text.isBlank character = true) :
    (∀ one other, Lexer.tokenize first = .ok one → Lexer.tokenize second = .ok other →
      Lexer.tokenize (first ++ gap ++ second) = .ok (one ++ other)) ∧
    ∀ tokens, Lexer.tokenize (first ++ gap ++ second) = .ok tokens →
      (∃ character ∈ first.toList, Text.isBlank character = false) →
      (∀ last, first.toList.getLast? = some last → Text.isBlank last = false) →
      ∃ one other, Lexer.tokenize first = .ok one ∧ Lexer.tokenize second = .ok other ∧
        tokens = one ++ other := by
  have present : gap.toList ≠ [] := by simpa using nonempty
  obtain ⟨space, others, gapText⟩ := List.exists_cons_of_ne_nil present
  have hidden : Text.isBlank space = true := blank space (by simp [gapText])
  have joined : (first ++ gap ++ second).toList =
      first.toList ++ space :: (others ++ second.toList) := by
    simp [gapText]
  have rest : (gap ++ second).toList = space :: (others ++ second.toList) := by simp [gapText]
  constructor
  · intro one other begins ends
    obtain ⟨some, pieces, splits, rfl⟩ := splits_of_tokenize begins
    obtain ⟨_, further, continues, rfl⟩ := splits_of_tokenize ((tokenize_indented blank).mpr ends)
    rw [rest] at continues
    have whole : Splits (first ++ gap ++ second).toList (pieces ++ further) [] := by
      rw [joined]
      refine (splits.before_blank ?_).append continues
      rintro character tail ⟨⟩
      exact hidden
    rw [← List.map_append]
    refine tokenize_of_splits ?_ whole
    simp only [ne_eq, List.map_eq_nil_iff] at some
    simp [some]
  · intro tokens accepted some ends
    obtain ⟨_, pieces, splits, rfl⟩ := splits_of_tokenize accepted
    obtain ⟨front, last, shape⟩ : ∃ front last, first.toList = front ++ [last] := by
      rcases List.eq_nil_or_concat' first.toList with empty | shape
      · simp [empty] at some
      · exact shape
    have shown : Text.isBlank last = false := ends last (by simp [shape])
    rw [joined, shape] at splits
    obtain ⟨before, after, rfl, begins, continues⟩ := splits.cut_at_blank shown hidden
    have cut := begins.cut
    rw [← List.append_cancel_right begins.text, ← shape] at cut
    rw [← rest] at continues
    refine ⟨_, _, tokenize_of_splits ?_ cut,
      (tokenize_indented blank).mp (tokenize_of_splits ?_ continues), List.map_append⟩
    · rintro rfl
      simpa [shape] using cut.text
    · rintro rfl
      simpa [gapText] using continues.text

/-- A minus sign and a digit with blanks between them are two tokens, and each of them is the
token of a text of its own. Without the blanks they would be one number. -/
theorem minus_and_digit_apart :
    let one : Float := Decimal.Literal.value ⟨false, ['1'], [], 0⟩
    Lexer.tokenize "-" = .ok [.operator .subtract] ∧ Lexer.tokenize "1" = .ok [.number one] ∧
      Lexer.tokenize ("-" ++ "\t\u00A0" ++ "1") = .ok [.operator .subtract, .number one] ∧
      ∃ left right, Lexer.tokenize "-" = .ok left ∧ Lexer.tokenize "1" = .ok right ∧
        [.operator .subtract, .number one] = left ++ right := by
  intro one
  have minus : Denotes ['-'] (.operator .subtract) := .mark (by simp [marks])
  have digit : Denotes ['1'] (.number one) := .number (digit_mem_number rfl) rfl
  have alone {word : List Char} {token : Token} (denotes : Denotes word token) :
      Lexer.tokenize (String.ofList word) = .ok [token] := by
    have laidOut : LaidOut [word] ([] ++ word ++ []) := .first (List.forall_mem_nil _) .nil
    refine tokenize_of_laidOut ?_ (.cons denotes .nil)
    rw [String.toList_ofList]
    simpa using laidOut
  have first : Lexer.tokenize "-" = .ok [.operator .subtract] := alone minus
  have second : Lexer.tokenize "1" = .ok [.number one] := alone digit
  have blank : ∀ character ∈ "\t\u00A0".toList, Text.isBlank character = true :=
    List.all_eq_true.mp rfl
  obtain ⟨joined, cut⟩ := tokenize_with_gap "-" "\t\u00A0" "1" (by decide) blank
  refine ⟨first, second, joined _ _ first second, ?_⟩
  exact cut _ (joined _ _ first second) ⟨'-', by decide, rfl⟩ (by rintro _ ⟨⟩; rfl)

end WindowPlacement.Lexeme
