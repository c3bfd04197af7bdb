import Mathlib.Order.CompletePartialOrder
import WindowPlacement.Proofs.Token.Lexeme

/-!
# Visible words

Every lexeme is made of visible characters of ASCII, and none of these is blank. The words
of visible characters are closed under all the ways in which the classes of lexemes are
built, so each class is visible because its parts are.
-/

namespace WindowPlacement.Lexeme

open Computability WindowPlacement.Parser

/-- The characters of ASCII that leave a mark on paper. The blank of ASCII and the control
characters are not among them. -/
def isVisible (character : Char) : Bool := '!' ≤ character && character ≤ '~'

/-- No visible character is blank. The blanks are those of Unicode, and each run of them ends
below this range or begins above it. -/
theorem isBlank_of_isVisible {character : Char} (visible : isVisible character = true) :
    Text.isBlank character = false := by
  simp only [isVisible, Bool.and_eq_true, decide_eq_true_eq, Char.le_def,
    UInt32.le_iff_toNat_le, Char.toNat_val] at visible
  have first : '!'.toNat = 33 := rfl
  have last : '~'.toNat = 126 := rfl
  simp only [Text.isBlank, Text.blankRuns, List.any_cons, List.any_nil, Bool.or_false,
    Bool.or_eq_false_iff, Bool.and_eq_false_iff, decide_eq_false_iff_not]
  omega

/-- Words with visible characters only. The empty word is one of them. -/
def visible : Language Char := (single isVisible)∗

/-- A class of visible characters has visible words. It is the only place where single
characters are looked at. -/
theorem single_le_visible {accepts : Char → Bool}
    (inside : ∀ character, accepts character = true → isVisible character = true) :
    single accepts ≤ visible := by
  rintro _ ⟨character, accepted, rfl⟩
  refine (mem_single_kstar _ _).mpr fun other member => ?_
  obtain rfl := List.mem_singleton.mp member
  exact inside other accepted

/-- The words of a visible character are visible. All six marks, the point and the letters of
the exponent are such characters. -/
theorem only_le_visible {character : Char} (shown : isVisible character = true) :
    only character ≤ visible := by
  refine single_le_visible fun other same => ?_
  obtain rfl := of_decide_eq_true same
  exact shown

/-- A range between visible characters has visible words. The two ends are compared, and not
every character of the range. -/
theorem between_le_visible {first last : Char} (above : '!' ≤ first) (below : last ≤ '~') :
    between first last ≤ visible := by
  refine single_le_visible fun character inside => ?_
  rw [Bool.and_eq_true, decide_eq_true_eq, decide_eq_true_eq] at inside
  rw [isVisible, Bool.and_eq_true, decide_eq_true_eq, decide_eq_true_eq]
  exact ⟨Char.le_trans above inside.1, Char.le_trans inside.2 below⟩

/-- Visible words behind each other are visible. Together with the next two it follows how the
languages are built. -/
theorem mul_le_visible {first second : Language Char} (left : first ≤ visible)
    (right : second ≤ visible) : first * second ≤ visible :=
  (mul_le_mul' left right).trans_eq (kstar_mul_kstar _)

/-- Repeated visible words are visible. The empty repetition is visible as well. -/
theorem kstar_le_visible {language : Language Char} (words : language ≤ visible) :
    language∗ ≤ visible :=
  (kstar_mono words).trans_eq (kstar_idem _)

/-- Optional visible words are visible. Leaving the words out adds the empty word only. -/
theorem optional_le_visible {language : Language Char} (words : language ≤ visible) :
    1 + language ≤ visible :=
  add_le one_le_kstar words

/-- The words of every class are visible. The proof follows the definitions of the three
classes. -/
theorem lexeme_le_visible : lexeme ≤ visible := by
  have digits : digit ≤ visible := between_le_visible (by decide) (by decide)
  have row : digit * digit∗ ≤ visible := mul_le_visible digits (kstar_le_visible digits)
  have minus : only '-' ≤ visible := only_le_visible rfl
  have point : only '.' ≤ visible := only_le_visible rfl
  have wholes : integer ≤ visible := by
    have leading : between '1' '9' ≤ visible := between_le_visible (by decide) (by decide)
    exact mul_le_visible (optional_le_visible minus)
      (add_le (only_le_visible rfl) (mul_le_visible leading (kstar_le_visible digits)))
  have fractions : fraction ≤ visible := mul_le_visible point row
  have exponents : exponent ≤ visible := by
    have sign : only '+' + only '-' ≤ visible := add_le (only_le_visible rfl) minus
    exact mul_le_visible (add_le (only_le_visible rfl) (only_le_visible rfl))
      (mul_le_visible (optional_le_visible sign) row)
  have numbers : number ≤ visible := mul_le_visible wholes
    (mul_le_visible (optional_le_visible fractions) (optional_le_visible exponents))
  have letters : letter ≤ visible := by
    have capital : between 'A' 'Z' ≤ visible := between_le_visible (by decide) (by decide)
    have small : between 'a' 'z' ≤ visible := between_le_visible (by decide) (by decide)
    exact add_le (add_le capital small) (only_le_visible rfl)
  have parts : namePart ≤ visible :=
    mul_le_visible letters (kstar_le_visible (add_le letters digits))
  have names : name ≤ visible :=
    mul_le_visible parts (kstar_le_visible (mul_le_visible point parts))
  have signs : punctuation ≤ visible := by
    unfold punctuation
    repeat refine add_le ?_ (only_le_visible rfl)
    exact only_le_visible rfl
  exact add_le (add_le signs numbers) names

/-- No character of a lexeme is blank. This is why a lexeme ends in front of a blank, whatever
stands behind it. -/
theorem isBlank_of_mem_lexeme {word : List Char} (member : word ∈ lexeme) :
    ∀ character ∈ word, Text.isBlank character = false :=
  fun character inside =>
    isBlank_of_isVisible ((mem_single_kstar _ _).mp (lexeme_le_visible member) character inside)

end WindowPlacement.Lexeme
