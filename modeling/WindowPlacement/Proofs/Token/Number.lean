import WindowPlacement.Proofs.Parser.Scanning
import WindowPlacement.Token.Lexer

/-!
# The language of numbers

A number is an optional minus sign and a whole number without superfluous zeros, with an
optional fraction and an optional exponent behind it. The four shapes that the lexer
tries in turn are this one shape with two optional parts, so what it takes is the
longest number in front of the text.
-/

namespace WindowPlacement.Lexeme

open Computability WindowPlacement.Parser

/-- The words of one given character. There is exactly one such word. -/
def only (character : Char) : Language Char := single (· = character)

/-- The words of one character in a range. The ends of the range belong to it. -/
def between (first last : Char) : Language Char :=
  single fun character => first ≤ character && character ≤ last

/-- The digits. Digits of other scripts are not among them. -/
def digit : Language Char := between '0' '9'

/-- Whole numbers: no zero stands before another digit. The sign is part of the number, and zero
may have it too. -/
def integer : Language Char := (1 + only '-') * (only '0' + between '1' '9' * digit∗)

/-- A point and at least one digit. A point without digits behind it is no fraction, and the
number ends before it. -/
def fraction : Language Char := only '.' * (digit * digit∗)

/-- The letter of an exponent, an optional sign and at least one digit. Zeros may stand in front
here. -/
def exponent : Language Char :=
  (only 'e' + only 'E') * ((1 + (only '+' + only '-')) * (digit * digit∗))

/-- Numbers. There is no sign but the minus sign in front, and no point without a digit before
it. -/
def number : Language Char := integer * ((1 + fraction) * (1 + exponent))

/-- The words of one character that belongs to one of two classes. Languages are added where
their classes are joined by `or`. -/
theorem single_add (first second : Char → Bool) :
    single first + single second = single fun character => first character || second character := by
  ext word
  rw [Language.mem_add, mem_single, mem_single, mem_single]
  simp only [Bool.or_eq_true, or_and_right, exists_or]

/-- The digits other than zero. The lexer tests for a digit first and then that it is not
zero. -/
theorem leadingDigit_eq :
    between '1' '9' = single fun character => Decimal.isDigit character && character ≠ '0' := by
  unfold between
  congr 1
  funext character
  have zero : '0'.val.toNat = 48 := rfl
  have one : '1'.val.toNat = 49 := rfl
  rw [Bool.eq_iff_iff]
  simp only [Decimal.isDigit, Bool.and_eq_true, decide_eq_true_eq, Char.le_def,
    UInt32.le_iff_toNat_le, ne_eq, ← Char.toNat_inj, ← Char.toNat_val]
  omega

/-- A row of digits has digits only. There is at least one. -/
theorem digits_of_mem {word : List Char} (member : word ∈ digit * digit∗) :
    word ≠ [] ∧ ∀ character ∈ word, Decimal.isDigit character = true := by
  obtain ⟨first, tail, accepted, digits, rfl⟩ := (mem_single_mul _ _ _).mp member
  refine ⟨List.cons_ne_nil first tail, ?_⟩
  intro character inside
  rcases List.mem_cons.mp inside with rfl | behind
  · exact accepted
  · exact (mem_single_kstar _ _).mp digits character behind

/-- A whole number is an optional sign before at least one digit. That there is no superfluous
zero is forgotten here. -/
theorem integer_cases {word : List Char} (member : word ∈ integer) :
    ∃ digits, digits ≠ [] ∧ (∀ character ∈ digits, Decimal.isDigit character = true) ∧
      (word = digits ∨ word = '-' :: digits) := by
  obtain ⟨sign, signed, digits, whole, rfl⟩ := Language.mem_mul.mp member
  have all : digits ≠ [] ∧ ∀ character ∈ digits, Decimal.isDigit character = true := by
    rcases whole with ⟨zero, same, rfl⟩ | more
    · obtain rfl := of_decide_eq_true same
      exact ⟨List.cons_ne_nil _ _, by simp; rfl⟩
    · rw [leadingDigit_eq] at more
      obtain ⟨first, tail, accepted, behind, rfl⟩ := (mem_single_mul _ _ _).mp more
      apply digits_of_mem
      refine (mem_single_mul _ _ _).mpr ⟨first, tail, ?_, behind, rfl⟩
      exact (Bool.and_eq_true_iff.mp accepted).1
  refine ⟨digits, all.1, all.2, ?_⟩
  rcases signed with empty | ⟨minus, same, rfl⟩
  · obtain rfl := (Language.mem_one sign).mp empty
    exact Or.inl rfl
  · obtain rfl := of_decide_eq_true same
    exact Or.inr rfl

/-! ## Where a part ends -/

/-- Only a digit carries a whole number on. Not every digit does: behind a zero there is no
longer one. -/
theorem integer_carried_on {word tail : List Char} {character : Char} (member : word ∈ integer)
    (longer : word ++ character :: tail ∈ integer) : Decimal.isDigit character = true := by
  obtain ⟨first, firstNonempty, _, short⟩ := integer_cases member
  obtain ⟨digits, _, all, long⟩ := integer_cases longer
  have nonempty : word ≠ [] := by
    rcases short with rfl | rfl
    · exact firstNonempty
    · exact List.cons_ne_nil _ _
  rcases long with same | same
  · exact all character (same ▸ by simp)
  · cases word with
    | nil => exact False.elim (nonempty rfl)
    | cons sign others =>
      rw [List.cons_append, List.cons.injEq] at same
      exact all character (same.2 ▸ by simp)

/-- Only a digit carries a fraction on. It may be any digit. -/
theorem fraction_carried_on {word tail : List Char} {character : Char} (member : word ∈ fraction)
    (longer : word ++ character :: tail ∈ fraction) : Decimal.isDigit character = true := by
  obtain ⟨point, others, _, _, rfl⟩ := (mem_single_mul _ _ _).mp member
  obtain ⟨_, digits, _, row, same⟩ := (mem_single_mul _ _ _).mp longer
  rw [List.cons_append, List.cons.injEq] at same
  exact (digits_of_mem row).2 character (same.2 ▸ by simp)

/-- A fraction begins with a point. There is no other way to begin one. -/
theorem fraction_head {character : Char} {rest : List Char}
    (member : character :: rest ∈ fraction) :
    character = '.' := by
  obtain ⟨point, others, same, _, equal⟩ := (mem_single_mul _ _ _).mp member
  rw [List.cons.injEq] at equal
  exact equal.1.trans (of_decide_eq_true same)

/-- An exponent begins with its letter. So it cannot be mistaken for a fraction. -/
theorem exponent_head {character : Char} {rest : List Char}
    (member : character :: rest ∈ exponent) :
    character = 'e' ∨ character = 'E' := by
  unfold exponent only at member
  rw [single_add] at member
  obtain ⟨letter, others, same, _, equal⟩ := (mem_single_mul _ _ _).mp member
  rw [List.cons.injEq] at equal
  rw [equal.1]
  simpa using same

/-- What follows a whole number begins with a point or with the letter of an exponent. Nothing
at all may follow it too, which has no beginning. -/
theorem optional_head {character : Char} {rest : List Char}
    (member : character :: rest ∈ (1 + fraction) * (1 + exponent)) :
    character = '.' ∨ character = 'e' ∨ character = 'E' := by
  obtain ⟨first, inFirst, second, inSecond, same⟩ := Language.mem_mul.mp member
  rcases inFirst with empty | inFraction
  · obtain rfl := (Language.mem_one first).mp empty
    obtain rfl : second = character :: rest := same
    rcases inSecond with impossible | inExponent
    · cases (Language.mem_one _).mp impossible
    · exact Or.inr (exponent_head inExponent)
  · cases first with
    | nil =>
      obtain ⟨_, _, _, _, impossible⟩ := (mem_single_mul _ _ _).mp inFraction
      cases impossible
    | cons point others =>
      rw [List.cons_append, List.cons.injEq] at same
      exact Or.inl (same.1 ▸ fraction_head inFraction)

/-! ## Scanning -/

/-- Where a word of an optional sign and a character of a class begins. The character of the
class is the first one behind the sign. -/
theorem signed_cases {accepts : Char → Bool} {language : Language Char} {word : List Char}
    (member : word ∈ (1 + only '-') * (single accepts * language)) :
    ∃ character tail, accepts character = true ∧
      (word = character :: tail ∨ word = '-' :: character :: tail) := by
  obtain ⟨sign, signed, rest, digits, rfl⟩ := Language.mem_mul.mp member
  obtain ⟨character, tail, accepted, _, rfl⟩ := (mem_single_mul _ _ _).mp digits
  refine ⟨character, tail, accepted, ?_⟩
  rcases signed with empty | ⟨first, same, rfl⟩
  · obtain rfl := (Language.mem_one sign).mp empty
    exact Or.inl rfl
  · obtain rfl := of_decide_eq_true same
    exact Or.inr rfl

/-- In front of one text, a zero is never longer than a whole number of the other form. So the
order in which the two forms are tried makes no difference. -/
theorem integer_prefers {language : Language Char} {word other input : List Char}
    (inMany : word ∈ (1 + only '-') * (between '1' '9' * language))
    (inZero : other ∈ (1 + only '-') * only '0') (front : word <+: input)
    (otherFront : other <+: input) : other.length ≤ word.length := by
  rw [← mul_one (only '0')] at inZero
  obtain ⟨first, tail, leading, shape⟩ := signed_cases inMany
  obtain ⟨second, others, same, otherShape⟩ := signed_cases inZero
  obtain rfl := of_decide_eq_true same
  rcases Nat.le_total other.length word.length with done | shorter
  · exact done
  · have inside : word <+: other := List.prefix_of_prefix_length_le front otherFront shorter
    have notZero : first ≠ '0' := by
      rintro rfl
      exact absurd leading (by decide)
    have notMinus : first ≠ '-' := by
      rintro rfl
      exact absurd leading (by decide)
    rcases shape with rfl | rfl <;> rcases otherShape with rfl | rfl <;>
      rw [List.cons_prefix_cons] at inside
    · exact absurd inside.1 notZero
    · exact absurd inside.1 notMinus
    · exact absurd inside.1 (by decide)
    · exact absurd (List.cons_prefix_cons.mp inside.2).1 notZero

/-- The lexer scans whole numbers. The two forms begin differently behind the sign. Behind a
zero it stops, whatever follows. -/
theorem scans_integerPart (input : List Char) :
    Scans Lexer.integerPart (spelled integer) input := by
  have sign : Scans (zeroOrOne (Lexer.char '-')) (spelled (1 + only '-')) input :=
    scans_optional (scans_one _ input)
  have many : Scans (inOrder [zeroOrOne (Lexer.char '-'), one Lexer.leadingDigit,
      zeroOrMore Lexer.digit]) (spelled ((1 + only '-') * (between '1' '9' * digit∗))) input := by
    rw [leadingDigit_eq]
    apply scans_inOrder_cons sign
    · intro _ rest _
      apply scans_inOrder_cons (scans_one _ rest) _ (separated_single _ _)
      intro _ last _
      exact scans_inOrder_one (scans_zeroOrMore _ last)
    · apply separated_optional
      intro character accepted
      refine decide_eq_false ?_
      rintro rfl
      exact absurd accepted (by decide)
  have zero : Scans (inOrder [zeroOrOne (Lexer.char '-'), one (Lexer.char '0')])
      (spelled ((1 + only '-') * (only '0' * 1))) input := by
    apply scans_inOrder_cons sign
    · intro _ rest _
      rw [mul_one]
      exact scans_inOrder_one (scans_one _ rest)
    · apply separated_optional
      intro character accepted
      obtain rfl := of_decide_eq_true accepted
      rfl
  rw [mul_one] at zero
  have choice := scans_firstOf_add many (scans_firstOf_one zero) fun _ inMany _ inZero =>
    integer_prefers inMany inZero
  rw [← mul_add, add_comm (between '1' '9' * digit∗)] at choice
  exact choice

/-- The lexer scans fractions. A point with no digit behind it is given back. -/
theorem scans_fractionPart (input : List Char) :
    Scans Lexer.fractionPart (spelled fraction) input := by
  apply scans_inOrder_cons (scans_one _ input) _ (separated_single _ _)
  intro _ rest _
  exact scans_inOrder_one (scans_oneOrMore _ rest)

/-- The lexer scans exponents. A letter with no digit behind it is given back, with its sign. -/
theorem scans_exponentPart (input : List Char) :
    Scans Lexer.exponentPart (spelled exponent) input := by
  rw [exponent, only, only, single_add, only, only, single_add]
  apply scans_inOrder_cons (scans_one _ input) _ (separated_single _ _)
  intro _ middle _
  apply scans_inOrder_cons (scans_optional (scans_one _ middle))
  · intro _ rest _
    exact scans_inOrder_one (scans_oneOrMore _ rest)
  · apply separated_optional
    intro character accepted
    by_contra signed
    rw [Bool.not_eq_false, Bool.or_eq_true, decide_eq_true_eq, decide_eq_true_eq] at signed
    rcases signed with rfl | rfl
    · exact absurd accepted (by decide)
    · exact absurd accepted (by decide)

/-- The four shapes that are tried in turn are one shape with two optional parts. The lexer
tries the longest shape first, so an optional part is left out only where it cannot be read. -/
theorem number_eq :
    Lexer.number = inOrder [Lexer.integerPart, firstOf [Lexer.fractionPart, zero],
      firstOf [Lexer.exponentPart, zero]] := by
  funext input
  cases whole : Lexer.integerPart input with
  | error reason =>
    obtain rfl := firstOf_eq_error whole
    simp [Lexer.number, firstOf, inOrder, whole]
  | ok answer =>
    obtain ⟨digits, afterWhole⟩ := answer
    cases part : Lexer.fractionPart afterWhole with
    | error reason =>
      cases scale : Lexer.exponentPart afterWhole with
      | error other => simp [Lexer.number, firstOf, inOrder, zero, result, whole, part, scale]
      | ok last => simp [Lexer.number, firstOf, inOrder, zero, result, whole, part, scale]
    | ok answer =>
      obtain ⟨places, afterPlaces⟩ := answer
      cases scale : Lexer.exponentPart afterPlaces with
      | error other => simp [Lexer.number, firstOf, inOrder, zero, result, whole, part, scale]
      | ok last => simp [Lexer.number, firstOf, inOrder, whole, part, scale]

/-- The optional parts of a number do not begin with a digit. So a whole number ends in one
place only. -/
theorem separated_integer : Separated integer ((1 + fraction) * (1 + exponent)) := by
  intro word character tail rest member longer behind
  have digit := integer_carried_on member longer
  rcases optional_head behind with rfl | rfl | rfl
  · exact absurd digit (by decide)
  · exact absurd digit (by decide)
  · exact absurd digit (by decide)

/-- An exponent begins neither with a point nor with a digit. So a fraction ends in one place
only. -/
theorem separated_fraction : Separated (1 + fraction) (1 + exponent) := by
  rintro word character tail rest member (impossible | longer) (none | behind)
  · have empty := (Language.mem_one _).mp impossible
    simp at empty
  · have empty := (Language.mem_one _).mp impossible
    simp at empty
  · cases (Language.mem_one _).mp none
  · have letter := exponent_head behind
    rcases member with empty | inFraction
    · obtain rfl := (Language.mem_one word).mp empty
      obtain rfl := fraction_head longer
      exact absurd letter (by decide)
    · have digit := fraction_carried_on inFraction longer
      rcases letter with rfl | rfl
      · exact absurd digit (by decide)
      · exact absurd digit (by decide)

/-- The lexer scans numbers. What is taken need not be all of a row of digits: of `01` it is the
zero. -/
theorem scans_number (input : List Char) : Scans Lexer.number (spelled number) input := by
  rw [number_eq]
  apply scans_inOrder_cons (scans_integerPart input) _ separated_integer
  intro _ middle _
  apply scans_inOrder_cons (scans_optional (scans_fractionPart middle)) _ separated_fraction
  intro _ rest _
  exact scans_inOrder_one (scans_optional (scans_exponentPart rest))

end WindowPlacement.Lexeme
