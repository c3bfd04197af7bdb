import Mathlib.Data.List.TakeWhile
import WindowPlacement.Decimal.Layout
import WindowPlacement.Proofs.Token.Number

/-!
# Rows of digits

The digits of a natural number spell the number, and no zero stands in front of them. Zeros at
the end of a row are so many factors of ten, so a row can do without them if a power of ten
takes their place.
-/

namespace WindowPlacement.Decimal

/-- A number has at least one digit. Zero has one digit, which is a zero. -/
theorem digitsOf_ne_nil (number : Nat) : digitsOf number ≠ [] := Nat.toDigits_ne_nil

/-- The digits of a number are digits. No sign and no point is among them. -/
theorem isDigit_of_mem_digitsOf {number : Nat} {character : Char}
    (member : character ∈ digitsOf number) : isDigit character = true := by
  have digit := Nat.isDigit_of_mem_toDigits (by decide) (by decide) member
  simp only [isDigit, Char.isDigit, Bool.and_eq_true, decide_eq_true_eq] at digit ⊢
  exact digit

/-- The digits of a number spell it. In the other direction zeros in front are lost. -/
theorem digitsValue_digitsOf (number : Nat) : digitsValue (digitsOf number) = number :=
  Nat.ofDigitChars_toDigits (by decide) (by decide)

/-- The number that digits spell behind those of another number. Behind zero it is the number
that the digits spell alone. -/
def spelledAfter (number : Nat) (digits : List Char) : Nat :=
  digits.foldl (fun value digit => 10 * value + digitValue digit) number

/-- Two rows of digits spell what the second one spells behind the first. So a long row can be
read in two parts, as a whole part and a fraction are. -/
theorem digitsValue_append (front back : List Char) :
    digitsValue (front ++ back) = spelledAfter (digitsValue front) back :=
  List.foldl_append

/-- Further digits make a number no smaller. Where a limit has been passed, it stays passed. -/
theorem le_spelledAfter (number : Nat) (digits : List Char) :
    number ≤ spelledAfter number digits := by
  induction digits generalizing number with
  | nil => exact Nat.le_refl number
  | cons digit digits inductionHypothesis =>
    have later := inductionHypothesis (10 * number + digitValue digit)
    rw [spelledAfter, List.foldl_cons]
    rw [spelledAfter] at later
    omega

/-- A zero at the end multiplies by ten. A point moved to the right makes up for as many of
them. -/
theorem digitsValue_zeros (digits : List Char) (count : Nat) :
    digitsValue (digits ++ List.replicate count '0') = digitsValue digits * 10 ^ count := by
  induction count with
  | zero => rw [List.replicate_zero, List.append_nil, Nat.pow_zero, Nat.mul_one]
  | succ count inductionHypothesis =>
    have last : digitsValue (digits ++ List.replicate (count + 1) '0') =
        10 * digitsValue (digits ++ List.replicate count '0') := by
      rw [List.replicate_succ', ← List.append_assoc, digitsValue_append]
      rfl
    rw [last, inductionHypothesis, Nat.pow_succ, Nat.mul_comm 10, Nat.mul_assoc]

/-- Zeros in front of digits count nothing. They are read, but a reader that skips them ends
with the same number. -/
theorem zeros_digitsValue (count : Nat) (digits : List Char) :
    digitsValue (List.replicate count '0' ++ digits) = digitsValue digits := by
  have nothing : digitsValue (List.replicate count '0') = 0 := by
    have zeros := digitsValue_zeros [] count
    rw [List.nil_append, show digitsValue [] = 0 from rfl, Nat.zero_mul] at zeros
    exact zeros
  rw [digitsValue_append, nothing]
  rfl

/-- No zero stands in front of the digits of a number, zero itself apart. This is what the
grammar of documents asks of the whole part.

Proof: induction on the number. Without its last digit it is a smaller number, which is zero
only if there are no other digits. -/
theorem digitsOf_head {number : Nat} (positive : 0 < number) :
    ∃ first rest, digitsOf number = first :: rest ∧ first ≠ '0' := by
  induction number using Nat.strongRecOn with
  | ind number inductionHypothesis =>
    by_cases small : number < 10
    · refine ⟨_, [], Nat.toDigits_of_lt_base small, ?_⟩
      rw [ne_eq, Nat.digitChar_eq_zero]
      omega
    · obtain ⟨first, rest, digits, proper⟩ :=
        inductionHypothesis (number / 10) (by omega) (by omega)
      refine ⟨first, rest ++ [(number % 10).digitChar], ?_, proper⟩
      rw [digitsOf, Nat.toDigits_of_base_le (by decide) (by omega)]
      rw [digitsOf] at digits
      rw [digits, List.cons_append]

/-- Zeros at the end of a row are split off. How many there are is not needed, only that there
are no other characters. -/
theorem withoutFinalZeros_append (digits : List Char) :
    ∃ count, digits = withoutFinalZeros digits ++ List.replicate count '0' := by
  refine ⟨(digits.reverse.takeWhile (· = '0')).length, ?_⟩
  have zeros : digits.reverse.takeWhile (· = '0') =
      List.replicate (digits.reverse.takeWhile (· = '0')).length '0' := by
    refine List.eq_replicate_iff.mpr ⟨rfl, fun character member => ?_⟩
    have zero := List.mem_takeWhile_imp member
    exact of_decide_eq_true zero
  have split := List.takeWhile_append_dropWhile (p := (· = '0')) (l := digits.reverse)
  rw [withoutFinalZeros]
  have reversed := congrArg List.reverse split
  rw [List.reverse_append, List.reverse_reverse] at reversed
  rw [← List.reverse_replicate, ← zeros]
  exact reversed.symm

/-- A row of digits spells less than one with a further place. The number of digits bounds the
size of what has to be kept. -/
theorem digitsValue_lt {digits : List Char}
    (all : ∀ character ∈ digits, isDigit character = true) :
    digitsValue digits < 10 ^ digits.length := by
  induction digits using List.reverseRecOn with
  | nil => exact Nat.one_pos
  | append_singleton digits digit inductionHypothesis =>
    have front := inductionHypothesis fun character member =>
      all character (List.mem_append_left _ member)
    have last : digitValue digit ≤ 9 := by
      have isDigit := all digit (List.mem_append_right _ (List.mem_singleton_self digit))
      simp only [Decimal.isDigit, Bool.and_eq_true, decide_eq_true_eq] at isDigit
      have most := isDigit.2
      rw [Char.le_def, UInt32.le_iff_toNat_le] at most
      have nine : ('9' : Char).val.toNat = 57 := rfl
      have zero : ('0' : Char).toNat = 48 := rfl
      rw [digitValue, zero, Char.toNat]
      omega
    rw [digitsValue_append, List.length_append, List.length_singleton, Nat.pow_succ]
    simp only [spelledAfter, List.foldl_cons, List.foldl_nil]
    omega

/-- The digits of a number without the zeros at their end: the first is none, and zeros are
missing for the number. The number is then these digits times a power of ten, as a decimal in
scientific notation has it. -/
theorem significant_digits {number : Nat} (positive : 0 < number) :
    ∃ first others count, withoutFinalZeros (digitsOf number) = first :: others ∧ first ≠ '0' ∧
      (∀ character ∈ first :: others, isDigit character = true) ∧
      digitsOf number = first :: others ++ List.replicate count '0' ∧
      number = digitsValue (first :: others) * 10 ^ count := by
  obtain ⟨count, written⟩ := withoutFinalZeros_append (digitsOf number)
  obtain ⟨first, rest, digits, leading⟩ := digitsOf_head positive
  have value : number = digitsValue (withoutFinalZeros (digitsOf number)) * 10 ^ count := by
    rw [← digitsValue_zeros, ← written, digitsValue_digitsOf]
  cases stripped : withoutFinalZeros (digitsOf number) with
  | nil =>
    rw [stripped] at value
    rw [value] at positive
    simp [digitsValue] at positive
  | cons head others =>
    rw [stripped] at value written
    have same : head = first := by
      rw [digits, List.cons_append] at written
      exact (List.cons.inj written).1.symm
    refine ⟨head, others, count, rfl, same ▸ leading, fun character member => ?_, written, value⟩
    exact isDigit_of_mem_digitsOf (written ▸ List.mem_append_left _ member)

end WindowPlacement.Decimal
