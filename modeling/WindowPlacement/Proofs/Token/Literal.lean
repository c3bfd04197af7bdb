import Mathlib.Order.CompletePartialOrder
import WindowPlacement.Proofs.Token.Number

/-!
# Literals

A literal is what is read as a double: an optional sign, digits with an optional point anywhere
among them, and an optional exponent. Plus signs, superfluous zeros and a point at either end are
literals too, but not numbers of the language. Conversely every number of the language is a
literal, and so reading it as a double cannot fail.
-/

namespace WindowPlacement.Lexeme

open Computability WindowPlacement.Parser

/-- An optional sign. A number of the language may have the minus sign only. -/
def optionalSign : Language Char := 1 + (only '+' + only '-')

/-- Digits with or without a point: at least one digit stands before it or behind it. A point
alone is none. -/
def decimal : Language Char :=
  digit * digit∗ + digit * digit∗ * (only '.' * digit∗) + digit∗ * (only '.' * (digit * digit∗))

/-- Literals. The words for infinity and for what is not a number are left out, although they
are read as doubles. -/
def literal : Language Char := optionalSign * (decimal * (1 + exponent))

/-! ## Numbers are literals -/

/-- Whole numbers are rows of digits with an optional sign. The zeros that a whole number may
not have in front are allowed on the right. -/
theorem integer_le : integer ≤ optionalSign * (digit * digit∗) := by
  have zero : only '0' ≤ digit := by
    rintro _ ⟨character, same, rfl⟩
    obtain rfl := of_decide_eq_true same
    exact ⟨'0', rfl, rfl⟩
  have leading : between '1' '9' ≤ digit := by
    rw [leadingDigit_eq]
    rintro _ ⟨character, accepted, rfl⟩
    exact ⟨character, (Bool.and_eq_true_iff.mp accepted).1, rfl⟩
  have minus : 1 + only '-' ≤ optionalSign := add_le_add_right le_add_self 1
  have single : only '0' ≤ digit * digit∗ := by
    calc
      only '0' = only '0' * 1 := (mul_one _).symm
      _ ≤ digit * digit∗ := mul_le_mul' zero one_le_kstar
  exact mul_le_mul' minus (add_le single (mul_le_mul_left leading digit∗))

/-- Every number is a literal. The inclusion is strict, as `+1` and `.5` show. -/
theorem number_le_literal : number ≤ literal := by
  have places : fraction ≤ only '.' * digit∗ :=
    mul_le_mul_right mul_kstar_le_kstar (only '.')
  have pointed : digit * digit∗ * (1 + fraction) ≤ decimal := by
    rw [mul_add, mul_one]
    exact (add_le_add_right (mul_le_mul_right places _) _).trans le_self_add
  calc
    number ≤ optionalSign * (digit * digit∗) * ((1 + fraction) * (1 + exponent)) :=
      mul_le_mul_left integer_le _
    _ = optionalSign * (digit * digit∗ * (1 + fraction) * (1 + exponent)) := by
      simp only [mul_assoc]
    _ ≤ literal := mul_le_mul_right (mul_le_mul_left pointed _) _

/-! ## Literals are read -/

/-- A digit is no sign. So what begins with a digit has no sign to be taken off. -/
theorem sign_of_isDigit {character : Char} (digit : Decimal.isDigit character = true) :
    character ≠ '+' ∧ character ≠ '-' := by
  constructor
  · rintro rfl
    cases digit
  · rintro rfl
    cases digit

/-- An optional sign is taken off the front of what has no sign of its own. Whether it is
negative depends on the sign only. -/
theorem takeSign_append {sign text : List Char} (signed : sign ∈ optionalSign)
    (unsigned : ∀ first rest, text = first :: rest → first ≠ '+' ∧ first ≠ '-') :
    ∃ negative, Decimal.takeSign (sign ++ text) = (negative, text) := by
  rcases signed with empty | ⟨plus, same, rfl⟩ | ⟨minus, same, rfl⟩
  · obtain rfl := (Language.mem_one sign).mp empty
    refine ⟨false, ?_⟩
    rw [List.nil_append, Decimal.takeSign.eq_def]
    split
    · exact absurd rfl (unsigned _ _ rfl).2
    · exact absurd rfl (unsigned _ _ rfl).1
    · rfl
  · obtain rfl := of_decide_eq_true same
    exact ⟨false, rfl⟩
  · obtain rfl := of_decide_eq_true same
    exact ⟨true, rfl⟩

/-- The digits in front end where something else begins. The digits may be missing. -/
theorem takeDigits_append {digits rest : List Char}
    (all : ∀ character ∈ digits, Decimal.isDigit character = true)
    (ends : ∀ character tail, rest = character :: tail → Decimal.isDigit character = false) :
    Decimal.takeDigits (digits ++ rest) = (digits, rest) := by
  unfold Decimal.takeDigits
  rw [List.takeWhile_append_of_pos all, List.dropWhile_append_of_pos all]
  cases rest with
  | nil => simp
  | cons character tail => simp [ends character tail rfl]

/-- An exponent or nothing begins with the letter of the exponent if it begins at all. This is
why no digit is mistaken for the beginning of an exponent. -/
theorem scale_head {character : Char} {scale tail : List Char} (member : scale ∈ 1 + exponent)
    (same : scale = character :: tail) : character = 'e' ∨ character = 'E' := by
  rcases member with empty | inExponent
  · rw [(Language.mem_one scale).mp empty] at same
    cases same
  · exact exponent_head (same ▸ inExponent)

/-- An exponent or nothing is read as an exponent. How large it is does not matter: there is no
bound on the digits of an exponent. -/
theorem exponent?_isSome {word : List Char} (member : word ∈ 1 + exponent) :
    ∃ scale, Decimal.exponent? word = some scale := by
  rcases member with empty | inExponent
  · obtain rfl := (Language.mem_one word).mp empty
    exact ⟨0, rfl⟩
  · rw [exponent, only, only, single_add] at inExponent
    obtain ⟨letter, behind, isLetter, scaled, rfl⟩ := (mem_single_mul _ _ _).mp inExponent
    obtain ⟨sign, signed, digits, row, rfl⟩ := Language.mem_mul.mp scaled
    obtain ⟨nonempty, all⟩ := digits_of_mem row
    have unsigned (first : Char) (rest : List Char) (same : digits = first :: rest) :
        first ≠ '+' ∧ first ≠ '-' :=
      sign_of_isDigit (all first (same ▸ List.mem_cons_self))
    obtain ⟨negative, took⟩ := takeSign_append signed unsigned
    have digitsOnly : digits.all Decimal.isDigit = true := List.all_eq_true.mpr all
    have isMark : letter = 'e' ∨ letter = 'E' := by simpa using isLetter
    refine ⟨if negative then -(Decimal.digitsValue digits : Int) else Decimal.digitsValue digits,
      ?_⟩
    simp only [Decimal.exponent?, isMark, took, nonempty, digitsOnly, ne_eq, not_false_eq_true,
      and_self, if_true]

/-- The digits before the point of a decimal and those behind it, which are not both missing.
Where there is no point, there are no digits behind it. -/
theorem decimal_cases {word : List Char} (member : word ∈ decimal) :
    ∃ whole fraction, (∀ character ∈ whole, Decimal.isDigit character = true) ∧
      (∀ character ∈ fraction, Decimal.isDigit character = true) ∧
      ¬(whole = [] ∧ fraction = []) ∧
      (word = whole ∧ fraction = [] ∨ word = whole ++ '.' :: fraction) := by
  rcases member with (row | pointed) | pointed
  · obtain ⟨nonempty, all⟩ := digits_of_mem row
    exact ⟨word, [], all, List.forall_mem_nil _, fun none => nonempty none.1, .inl ⟨rfl, rfl⟩⟩
  · obtain ⟨whole, row, places, behind, rfl⟩ := Language.mem_mul.mp pointed
    obtain ⟨point, fraction, same, others, rfl⟩ := (mem_single_mul _ _ _).mp behind
    obtain rfl := of_decide_eq_true same
    obtain ⟨nonempty, all⟩ := digits_of_mem row
    exact ⟨whole, fraction, all, (mem_single_kstar _ _).mp others, fun none => nonempty none.1,
      .inr rfl⟩
  · obtain ⟨whole, others, places, behind, rfl⟩ := Language.mem_mul.mp pointed
    obtain ⟨point, fraction, same, row, rfl⟩ := (mem_single_mul _ _ _).mp behind
    obtain rfl := of_decide_eq_true same
    obtain ⟨nonempty, all⟩ := digits_of_mem row
    exact ⟨whole, fraction, (mem_single_kstar _ _).mp others, all, fun none => nonempty none.2,
      .inr rfl⟩

/-- A decimal begins with a digit or with the point, and not with a sign. So there is one sign
at most in front of a literal. -/
theorem decimal_head {word : List Char} (member : word ∈ decimal) :
    ∃ first rest, word = first :: rest ∧ first ≠ '+' ∧ first ≠ '-' := by
  obtain ⟨whole, fraction, all, _, some, shape⟩ := decimal_cases member
  cases whole with
  | nil =>
    obtain ⟨rfl, rfl⟩ | rfl := shape
    · exact False.elim (some ⟨rfl, rfl⟩)
    · exact ⟨'.', fraction, rfl, by decide, by decide⟩
  | cons first others =>
    have unsigned := sign_of_isDigit (all first List.mem_cons_self)
    obtain ⟨rfl, rfl⟩ | rfl := shape
    · exact ⟨first, others, rfl, unsigned⟩
    · exact ⟨first, others ++ '.' :: fraction, rfl, unsigned⟩

/-- A decimal with an exponent or nothing behind it is taken apart. Which parts they are is left
open, because only that there are some is needed. -/
theorem unsigned?_isSome {word scale : List Char} (member : word ∈ decimal)
    (scaled : scale ∈ 1 + exponent) (negative : Bool) :
    ∃ parts, Decimal.unsigned? negative (word ++ scale) = some parts := by
  obtain ⟨whole, fraction, wholeDigits, fractionDigits, some, shape⟩ := decimal_cases member
  obtain ⟨power, read⟩ := exponent?_isSome scaled
  have ends (character : Char) (tail : List Char) (same : scale = character :: tail) :
      Decimal.isDigit character = false := by
    rcases scale_head scaled same with rfl | rfl
    · rfl
    · rfl
  have took : ∃ rest, Decimal.takeDigits (word ++ scale) = (whole, rest) ∧
      Decimal.takeFraction rest = (fraction, scale) := by
    rcases shape with ⟨rfl, rfl⟩ | rfl
    · refine ⟨scale, takeDigits_append wholeDigits ends, ?_⟩
      rw [Decimal.takeFraction.eq_def]
      split
      · rcases scale_head scaled rfl with impossible | impossible
        · cases impossible
        · cases impossible
      · rfl
    · refine ⟨'.' :: (fraction ++ scale), ?_, takeDigits_append fractionDigits ends⟩
      rw [List.append_assoc]
      refine takeDigits_append wholeDigits ?_
      rintro _ _ ⟨⟩
      rfl
  obtain ⟨rest, tookWhole, tookFraction⟩ := took
  refine ⟨⟨negative, whole, fraction, power⟩, ?_⟩
  simp only [Decimal.unsigned?, tookWhole, tookFraction, some, if_false, read, Option.map_some]

/-- Every literal is read as a double. The double is the one nearest to the literal, which may
be infinite. -/
theorem read_literal {word : List Char} (member : word ∈ literal) :
    ∃ parts : Decimal.Literal, Decimal.read word = .ok parts.value := by
  obtain ⟨sign, signed, text, inText, rfl⟩ := Language.mem_mul.mp member
  obtain ⟨digits, inDecimal, scale, scaled, rfl⟩ := Language.mem_mul.mp inText
  obtain ⟨first, rest, begins, unsigned⟩ := decimal_head inDecimal
  have front (other : Char) (tail : List Char) (same : digits ++ scale = other :: tail) :
      other ≠ '+' ∧ other ≠ '-' := by
    rw [begins, List.cons_append, List.cons.injEq] at same
    exact same.1 ▸ unsigned
  obtain ⟨negative, took⟩ := takeSign_append signed front
  obtain ⟨parts, read⟩ := unsigned?_isSome inDecimal scaled negative
  have nonempty : sign ++ (digits ++ scale) ≠ [] := by simp [begins]
  refine ⟨parts, ?_⟩
  simp only [Decimal.read, nonempty, if_false, took, read]

/-- Every number is read as a double. Hence the shapes of the words alone decide what a number
is. -/
theorem read_number {word : List Char} (member : word ∈ number) :
    ∃ value, Decimal.read word = .ok value := by
  obtain ⟨parts, read⟩ := read_literal (number_le_literal member)
  exact ⟨parts.value, read⟩

end WindowPlacement.Lexeme
