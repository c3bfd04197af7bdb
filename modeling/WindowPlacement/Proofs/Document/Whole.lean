import WindowPlacement.Proofs.Document.Scaling

/-!
# Whole numbers in documents

A whole number below `2 ^ 32` has few digits, whatever the search for its shortest digits finds:
it finds some without a fraction, because the number itself is one of its candidates. The reader
therefore finds the number again. Such numbers are what digits alone are read as in a source
text, if they do not spell too much.
-/

namespace WindowPlacement.Document

open Float.Model Decimal Rounding

section Shortest

variable {value : Binary} {number : Nat}

/-- A double that stands for a whole number other than zero has a significand. Zero is whole
too, but is treated apart. -/
theorem significand_pos (some : 0 < number) (whole : value.toRat = number) :
    0 < value.significand := by
  by_contra none
  rw [Binary.toRat, Nat.eq_zero_of_not_pos none, Nat.cast_zero, zero_mul] at whole
  exact some.ne (by exact_mod_cast whole)

/-- The grid of the whole numbers has a decimal for a whole number: the number itself is one of
the two candidates. The number reads back as itself, so that the search cannot pass over this
grid. -/
theorem onGrid_zero_ne_none (tie : Tie) (some : 0 < number) (whole : value.toRat = number) :
    onGrid tie value 0 ≠ none := by
  intro missing
  have step : stepBelow value 0 = number := by
    obtain ⟨low, high⟩ := neighbours value 0
    rw [whole, zpow_zero, mul_one] at low high
    have notAbove : stepBelow value 0 ≤ number := by exact_mod_cast low
    have notBelow : number < stepBelow value 0 + 1 := by exact_mod_cast high
    omega
  rcases onGrid_cases tie (significand_pos some whole) 0 with
    ⟨none | ⟨outside, -⟩, -⟩ | ⟨count, -, -, -, found⟩
  · omega
  · apply outside
    rw [step, zpow_zero, mul_one, ← whole]
    exact roundsTo_self value
  · rw [missing] at found
    cases found

/-- The search for the digits of a whole number starts above the whole numbers, but not far
above the number. The bound makes the distance small enough to be counted. -/
theorem startPlace_whole (regular : value.Regular) (some : 0 < number)
    (whole : value.toRat = number) (bounded : number < 2 ^ 32) :
    0 < startPlace value ∧ startPlace value < 12 ∧
      (10 : ℚ) ^ startPlace value ≤ 200 * number := by
  obtain ⟨above, fine, -⟩ := startPlace_spec (significand_pos some whole) regular
  have least : (1 : ℚ) ≤ number := by exact_mod_cast some
  have most : (number : ℚ) < 2 ^ 32 := by exact_mod_cast bounded
  rw [whole] at above fine
  have notAbove : (10 : ℚ) ^ startPlace value ≤ 200 * number := by
    have scaled : (10 : ℚ) ^ startPlace value =
        10 ^ (startPlace value - 19) * 10 ^ 17 * 100 := by
      rw [← zpow_natCast, show (100 : ℚ) = 10 ^ (2 : Int) by norm_num,
        ← zpow_add₀ (by norm_num), ← zpow_add₀ (by norm_num)]
      congr 1
      omega
    rw [scaled]
    linarith
  refine ⟨?_, ?_, notAbove⟩
  · rw [← zpow_lt_zpow_iff_right₀ (show (1 : ℚ) < 10 by norm_num), zpow_zero]
    linarith
  · rw [← zpow_lt_zpow_iff_right₀ (show (1 : ℚ) < 10 by norm_num)]
    refine notAbove.trans_lt ((mul_lt_mul_of_pos_left most (by norm_num)).trans_le ?_)
    norm_num

/-- The shortest digits of a whole number have no fraction, and they spell a number that is not
much larger. The digits may stand for another number close by, which would still be read as this
one.

Proof: the search ends at the grid of the whole numbers or at one before it, and what it finds
is at most one place above the number. -/
theorem shortest_whole (tie : Tie) (regular : value.Regular) (some : 0 < number)
    (whole : value.toRat = number) (bounded : number < 2 ^ 32) :
    ∃ place : Nat, (shortest tie value).exponent = place ∧ 0 < (shortest tie value).significand ∧
      (shortest tie value).significand * 10 ^ place ≤ 201 * number := by
  obtain ⟨nonnegative, few, notAbove⟩ := startPlace_whole regular some whole bounded
  obtain ⟨start, atStart⟩ := Int.eq_ofNat_of_zero_le nonnegative.le
  have reached : onGrid tie value (startPlace value - start) ≠ none := by
    rw [atStart, Int.sub_self]
    exact onGrid_zero_ne_none tie some whole
  cases search : (List.range 20).findSome? fun (step : Nat) =>
      onGrid tie value (startPlace value - step) with
  | none =>
    have inRange : start ∈ List.range 20 := List.mem_range.mpr (by omega)
    exact absurd (List.findSome?_eq_none_iff.mp search start inRange) reached
  | some decimal =>
    obtain ⟨step, -, found, before⟩ := findSome?_range_eq search
    have early : step ≤ start := by
      by_contra late
      exact reached (before start (Nat.lt_of_not_le late))
    obtain ⟨exponent, nonzero, -, near⟩ := onGrid_eq_some (significand_pos some whole) found
    have same : shortest tie value = decimal := by rw [shortest, search, Option.getD_some]
    have place : decimal.exponent = (start - step : Nat) := by
      rw [exponent, atStart]
      omega
    rw [same]
    refine ⟨start - step, place, nonzero, ?_⟩
    have coarsest : (10 : ℚ) ^ (startPlace value - step) ≤ 10 ^ startPlace value :=
      zpow_le_zpow_right₀ (by norm_num) (by omega)
    have total : decimal.toRat ≤ 201 * number := by
      rw [whole] at near
      linarith
    rw [Digits.toRat, place, zpow_natCast] at total
    exact_mod_cast total

end Shortest

/-- A double is a whole number below `2 ^ 32`, its sign apart. Zero is one of them, in both
signs. -/
def IsSmallWhole (value : Float) : Prop :=
  ∃ binary, ∃ number : Nat, magnitude value = .finite binary ∧ binary.toRat = number ∧
    number < 2 ^ 32

/-- A whole number below `2 ^ 32` has few digits. The bound is not the best one. It is the size
of a key code, and more than a screen is wide. -/
theorem IsSmallWhole.hasFewDigits {value : Float} (small : IsSmallWhole value) :
    HasFewDigits value := by
  obtain ⟨binary, number, finite, whole, bounded⟩ := small
  refine ⟨binary, finite, ?_⟩
  rw [spelled]
  by_cases zero : binary.significand = 0
  · rw [if_pos zero]
    decide
  have some : 0 < number := by
    by_contra none
    rw [Nat.eq_zero_of_not_pos none, Binary.toRat, Nat.cast_zero, mul_eq_zero] at whole
    rcases whole with none | none
    · exact zero (by exact_mod_cast none)
    · exact absurd none (zpow_pos two_pos _).ne'
  obtain ⟨place, exponent, nonzero, most⟩ :=
    shortest_whole inDocument.tie (regular_of_magnitude finite) some whole bounded
  obtain ⟨first, others, count, stripped, -, -, written, same⟩ := significant_digits nonzero
  have length : ((shortest inDocument.tie binary).exponent +
      ((digitsOf (shortest inDocument.tie binary).significand).length : Int) -
        ((first :: others).length : Int)) = (place + count : Nat) := by
    rw [exponent, written, List.length_append, List.length_replicate]
    push_cast
    ring
  rw [same] at most
  have total : digitsValue (first :: others) * 10 ^ (place + count) ≤ 201 * number := by
    rw [pow_add, mul_comm (10 ^ place), ← mul_assoc]
    exact most
  have least : 0 < digitsValue (first :: others) := Nat.pos_of_mul_pos_right (same ▸ nonzero)
  rw [if_neg zero]
  simp only [stripped, length]
  split
  · simp only [Int.toNat_natCast, pow_succ, ← mul_assoc]
    exact ⟨by omega, Nat.le_of_ble_eq_true rfl⟩
  · have power : 10 ^ (place + count) < 10 ^ 12 :=
      ((Nat.le_mul_of_pos_left _ least).trans total).trans_lt (by omega)
    have places : place + count < 12 := (Nat.pow_lt_pow_iff_right (by decide)).mp power
    refine ⟨((Nat.le_mul_of_pos_right _ (Nat.pow_pos (by decide))).trans total).trans_lt ?_, ?_⟩
    · omega
    · simp only [Int.natAbs_natCast]
      omega

/-- A whole number below `2 ^ 32` is read back. It opens no list and no record. -/
theorem IsSmallWhole.readsBack {value : Float} (small : IsSmallWhole value) :
    Reader.float.ReadsBack 0 (.real value) value := by
  have few := small.hasFewDigits
  obtain ⟨binary, -, finite, -⟩ := small
  have readsBack := Reader.ReadsBack.reread finite
  rwa [reread_of_few few] at readsBack

/-- The double nearest to a whole number is the number. Up to this bound every whole number is a
double. -/
theorem nearest_whole {number : Nat} (some : 0 < number) (fits : number < 2 ^ 53) :
    StandsFor (Decimal.nearest number 0) (exact number 0) := by
  have word := toNat_toUInt64 (fits.trans (by decide))
  obtain ⟨normal, same⟩ := exact_spec some fits (show (-1022 : Int) ≤ 0 by decide) (by decide)
  obtain ⟨normalOne, one⟩ := @exact_spec 1 0 (by decide) (by decide) (by decide) (by decide)
  rw [zpow_zero, mul_one] at same one
  have digits : StandsFor number.toUInt64.toFloat (exact number 0) :=
    StandsFor.toFloat (by rw [word]; exact some) normal.regular normal.pos
      (by rw [word, ← same]; exact roundsTo_self _)
  have unit : StandsFor (Float.ofBits 0x3FF0000000000000) (exact 1 0) := ⟨rfl, rfl⟩
  have product := digits.mul normal unit normalOne.pos normal.regular normal.pos
    (by rw [one, Nat.cast_one, mul_one]; exact roundsTo_self _)
  rw [Decimal.nearest, if_neg some.ne', if_neg (by decide), if_neg (by omega),
    show decide ((0 : Int) < 0) = false from rfl, Int.natAbs_zero, Float.ofScientific,
    dif_pos ⟨fits, by decide⟩]
  exact product

/-- Digits alone that spell a number below `2 ^ 32`, with or without a sign in front, are read
as a whole number. Zeros in front of the digits do not count. -/
theorem IsSmallWhole.literal {digits : List Char} (bounded : digitsValue digits < 2 ^ 32)
    (negative : Bool) : IsSmallWhole (Literal.value ⟨negative, digits, [], 0⟩) := by
  rw [Literal.value]
  simp only [List.append_nil, List.length_nil, Nat.cast_zero, Int.sub_zero]
  rcases Nat.eq_zero_or_pos (digitsValue digits) with zero | some
  · rw [zero]
    refine ⟨⟨0, -1074, false⟩, 0, by cases negative <;> rfl, ?_, by decide⟩
    rw [Binary.toRat, Nat.cast_zero, zero_mul]
  · have fits : digitsValue digits < 2 ^ 53 := bounded.trans (by decide)
    obtain ⟨normal, same⟩ := exact_spec some fits (show (-1022 : Int) ≤ 0 by decide) (by decide)
    refine ⟨exact (digitsValue digits) 0, digitsValue digits,
      (nearest_whole some fits).magnitude_signed normal.regular normal.pos negative, ?_, bounded⟩
    rw [same, zpow_zero, mul_one]

end WindowPlacement.Document
