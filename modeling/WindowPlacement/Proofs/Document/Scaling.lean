import WindowPlacement.Proofs.Decimal.Arithmetic
import WindowPlacement.Proofs.Document.Reals

/-!
# Digits are scaled

The reader makes a double of the digits of a number and multiplies or divides it by a power of
ten, which is itself a double. Each of these steps rounds. Where the digits and the power are
doubles already, the number is rounded once, so the text of a double is read as that double.
Otherwise the result may be another one, but it is a finite double for every text of a finite
double.
-/

namespace WindowPlacement.Document

open Float.Model Decimal Rounding

/-! ## Powers of ten -/

/-- The numbers that are out of range, with a small base. It serves to compare with powers of
ten without writing them out. -/
theorem outOfRange_eq : outOfRange = (2 ^ 54 - 1) * (2 ^ 10) ^ 97 := by
  have power : (2 : ℚ) ^ 970 = (2 ^ 10) ^ 97 := pow_mul 2 10 97
  rw [outOfRange, show (971 : Int) = (970 : Nat) + 1 from rfl, zpow_add_one₀ two_ne_zero,
    zpow_natCast, power]
  generalize ((2 : ℚ) ^ 10) ^ 97 = unit
  norm_num
  ring

/-- The power of ten that belongs to seventeen digits close to the range, with a small base.
Large powers are computed step by step in this form. -/
theorem tenPower_eq : (10 : ℚ) ^ 292 = (10 ^ 4) ^ 73 := pow_mul 10 4 73

/-- The first powers of ten are doubles. No more are, because the next one has too many bits. -/
theorem powerOfTen_exact {exponent : Nat} (few : exponent ≤ 22) :
    ∃ power, Normal power ∧ power.toRat = 10 ^ exponent ∧
      StandsFor (powerOfTen exponent) power := by
  have bits : ∀ place < 23,
      (powerOfTen place).toBits.toNat = bitsOf false (exact (5 ^ place) place) := by
    decide
  have fits : 5 ^ exponent < 2 ^ 53 :=
    Nat.lt_of_le_of_lt (Nat.pow_le_pow_right (by decide) few) (by decide)
  obtain ⟨normal, value⟩ := exact_spec (Nat.pow_pos (by decide)) fits
    (show -1022 ≤ (exponent : Int) by omega) (by omega)
  obtain ⟨finite, positive⟩ :=
    magnitude_of_toBits normal.regular (bits exponent (Nat.lt_succ_of_le few))
  refine ⟨_, normal, ?_, finite, positive⟩
  rw [value, zpow_natCast, Nat.cast_pow, Nat.cast_ofNat, ← mul_pow]
  norm_num

/-- The other powers of ten in range are rounded once. The table from which they are taken is
checked entry by entry. -/
theorem powerOfTen_spec {exponent : Nat} (inRange : exponent ≤ 308) :
    ∃ power, Normal power ∧ RoundsTo (10 ^ exponent) power ∧
      StandsFor (powerOfTen exponent) power := by
  by_cases few : exponent ≤ 22
  · obtain ⟨power, normal, value, stands⟩ := powerOfTen_exact few
    exact ⟨power, normal, value ▸ roundsTo_self power, stands⟩
  have least : (2 : ℚ) ^ (-1022 : Int) ≤ 10 ^ exponent :=
    (zpow_le_one_of_nonpos₀ one_le_two (by decide)).trans (one_le_pow₀ (by norm_num))
  have most : (10 : ℚ) ^ exponent < outOfRange := by
    refine (pow_le_pow_right₀ (by norm_num) inRange).trans_lt ?_
    have power : (10 : ℚ) ^ 308 = (10 ^ 4) ^ 77 := pow_mul 10 4 77
    rw [outOfRange_eq, power]
    norm_num
  obtain ⟨power, normal, roundsTo⟩ := exists_roundsTo least most
  refine ⟨power, normal, roundsTo, ?_⟩
  have product := @mul_unpacked (1 <<< 53) (10 ^ exponent) (-53) 0 power (by decide)
    (Nat.pow_pos (by decide)) (by decide) normal.regular normal.pos (by
      convert roundsTo using 1
      rw [Nat.shiftLeft_eq]
      push_cast
      norm_num)
  have made : powerOfTen exponent = .ofModel (.pack (.finite .positive power.significand
      power.exponent normal.pos)) := by
    have large : ¬ (1 < 2 ^ 53 ∧ exponent ≤ 22) := fun both => few both.2
    rw [← product, powerOfTen, Float.ofScientific, dif_neg large]
    simp only [Bool.false_eq_true, if_false]
    rw [Float.Model.ofScientific, UnpackedFloat.ofScientific]
    simp only [Int.ofNat_eq_natCast]
    rw [dif_neg one_ne_zero, if_neg (by norm_num; omega), if_neg (by norm_num; omega),
      if_pos (by omega)]
    simp only [Int.toNat_natCast]
    rfl
  rw [made]
  exact StandsFor.pack normal.regular normal.pos

/-! ## Scaling -/

/-- Division by a power of ten always gives a result. What is too small becomes zero, which is
not refused.

Proof: induction on the power of ten, which the steps on the way down make smaller. -/
theorem scaled_down (value : Float) {exponent : Int} (negative : exponent < 0) :
    ∃ found, scaled value exponent = .ok found := by
  generalize size : exponent.natAbs = bound
  induction bound using Nat.strong_induction_on generalizing value exponent with
  | _ bound inductionHypothesis =>
    rw [scaled]
    by_cases inRange : exponent.natAbs ≤ 308
    · rw [if_pos inRange, if_neg (by omega)]
      exact ⟨_, rfl⟩
    rw [if_neg inRange]
    by_cases zero : (value == Float.ofBits 0) = true
    · rw [if_pos zero]
      exact ⟨_, rfl⟩
    rw [if_neg zero, if_neg (by omega)]
    exact inductionHypothesis (exponent + 308).natAbs (by omega) _ (by omega) rfl

/-- A number below `2 ^ 64` keeps its value in a word. Larger ones would be cut, and are not
made into words. -/
theorem toNat_toUInt64 {number : Nat} (fits : number < 2 ^ 64) : number.toUInt64.toNat = number :=
  UInt64.toNat_ofNat_of_lt' fits

section Scaled

variable {significand : Nat} {exponent : Int} {value : Binary}

/-- Few digits and a small power of ten are doubles. Then the number that they spell is rounded
once, and the result is the double to which it is rounded. This is the case in which the reader
is exact. -/
theorem scaled_of_few (some : 0 < significand) (fits : significand < 2 ^ 53)
    (few : exponent.natAbs ≤ 22) (regular : value.Regular) (positive : 0 < value.significand)
    (roundsTo : RoundsTo (Digits.toRat ⟨significand, exponent⟩) value) :
    ∃ found, scaled significand.toUInt64.toFloat exponent = .ok found ∧ StandsFor found value := by
  have word := toNat_toUInt64 (fits.trans (by decide))
  obtain ⟨normal, same⟩ := exact_spec some fits (show (-1022 : Int) ≤ 0 by decide) (by decide)
  rw [zpow_zero, mul_one] at same
  have digits : StandsFor significand.toUInt64.toFloat (exact significand 0) :=
    StandsFor.toFloat (by rw [word]; exact some) normal.regular normal.pos
      (by rw [word, ← same]; exact roundsTo_self _)
  obtain ⟨power, normalPower, samePower, stands⟩ := powerOfTen_exact few
  rw [scaled, if_pos (few.trans (by decide))]
  by_cases up : 0 ≤ exponent
  · have product : StandsFor (significand.toUInt64.toFloat * powerOfTen exponent.natAbs) value := by
      refine digits.mul normal stands normalPower.pos regular positive ?_
      convert roundsTo using 1
      rw [same, samePower, Digits.toRat, ← zpow_natCast, Int.natAbs_of_nonneg up]
    rw [if_pos up]
    simp only [product.not_isInf positive, Bool.false_eq_true, if_false]
    exact ⟨_, rfl, product⟩
  · have quotient : StandsFor (significand.toUInt64.toFloat / powerOfTen exponent.natAbs)
        value := by
      refine digits.div normal.pos stands normalPower.pos ?_ regular positive ?_
      · have high : (2 : ℚ) ^ topBit power < 2 ^ (74 : Int) := by
          refine (topBit_spec normalPower.pos).1.trans_lt ?_
          rw [samePower]
          exact (pow_le_pow_right₀ (by norm_num) few).trans_lt (by norm_num)
        have low : (2 : ℚ) ^ (0 : Int) < 2 ^ (topBit (exact significand 0) + 1) := by
          refine lt_of_le_of_lt ?_ (topBit_spec normal.pos).2
          rw [same, zpow_zero]
          exact_mod_cast some
        have below := (zpow_lt_zpow_iff_right₀ one_lt_two).mp high
        have above := (zpow_lt_zpow_iff_right₀ one_lt_two).mp low
        omega
      convert roundsTo using 1
      rw [same, samePower, Digits.toRat, ← zpow_natCast, Int.ofNat_natAbs_of_nonpos (by omega),
        zpow_neg, div_inv_eq_mul]
    rw [if_neg up]
    exact ⟨_, rfl, quotient⟩

/-- Roundings of two numbers have a product in range, if that of the numbers is not close to the
end of the range. Each rounding moves a number by one part in two to the power of 53 at the
most. -/
theorem product_inRange {one other : Binary} {first second : ℚ} (normal : Normal one)
    (normalOther : Normal other) (rounded : RoundsTo first one)
    (roundedOther : RoundsTo second other) (least : 1 ≤ first) (leastOther : 1 ≤ second)
    (small : first * second ≤ 17976931348623150 * 10 ^ 292) :
    2 ^ (-1022 : Int) ≤ one.toRat * other.toRat ∧ one.toRat * other.toRat < outOfRange := by
  obtain ⟨most, atLeast⟩ := toRat_of_roundsTo normal rounded
  obtain ⟨mostOther, atLeastOther⟩ := toRat_of_roundsTo normalOther roundedOther
  constructor
  · have tiny : (2 : ℚ) ^ (-1022 : Int) ≤ 1 / 2 * (1 / 2) :=
      (zpow_le_zpow_right₀ one_le_two (by decide : (-1022 : Int) ≤ -2)).trans (by norm_num)
    exact tiny.trans (mul_le_mul (by linarith) (by linarith) (by norm_num) (by linarith))
  · have room : 2 ^ 106 * (17976931348623150 * 10 ^ 292) < outOfRange * (2 ^ 53 - 1) ^ 2 := by
      rw [outOfRange_eq, tenPower_eq]
      norm_num
    refine lt_of_mul_lt_mul_right ?_ (by norm_num : (0 : ℚ) ≤ (2 ^ 53 - 1) ^ 2)
    calc
      one.toRat * other.toRat * (2 ^ 53 - 1) ^ 2
        = one.toRat * (2 ^ 53 - 1) * (other.toRat * (2 ^ 53 - 1)) := by ring
      _ ≤ 2 ^ 53 * first * (2 ^ 53 * second) :=
        mul_le_mul most mostOther (by linarith) (by linarith)
      _ = 2 ^ 106 * (first * second) := by ring
      _ ≤ 2 ^ 106 * (17976931348623150 * 10 ^ 292) :=
        mul_le_mul_of_nonneg_left small (by norm_num)
      _ < outOfRange * (2 ^ 53 - 1) ^ 2 := room

/-- A product that does not come near the range of the doubles is in range, although the digits,
the power and the product are all rounded. It may still be another double than the nearest
one. -/
theorem scaled_up {places : Nat} (some : 0 < significand) (fits : significand < 2 ^ 64)
    (few : places ≤ 308)
    (small : (significand : ℚ) * 10 ^ places ≤ 17976931348623150 * 10 ^ 292) :
    ∃ found, scaled significand.toUInt64.toFloat places = .ok found := by
  have word := toNat_toUInt64 fits
  have least : (1 : ℚ) ≤ significand := by exact_mod_cast some
  have tiny : (2 : ℚ) ^ (-1022 : Int) ≤ 1 := zpow_le_one_of_nonpos₀ one_le_two (by decide)
  have inRange : (significand : ℚ) < outOfRange := by
    have bound : (significand : ℚ) < 2 ^ 64 := by exact_mod_cast fits
    refine bound.trans ?_
    rw [outOfRange_eq]
    norm_num
  obtain ⟨digits, normal, rounded⟩ := exists_roundsTo (tiny.trans least) inRange
  obtain ⟨power, normalPower, roundedPower, stands⟩ := powerOfTen_spec few
  have made : StandsFor significand.toUInt64.toFloat digits :=
    StandsFor.toFloat (by rw [word]; exact some) normal.regular normal.pos
      (by rw [word]; exact rounded)
  obtain ⟨low, high⟩ := product_inRange normal normalPower rounded roundedPower least
    (one_le_pow₀ (by norm_num)) small
  obtain ⟨product, normalProduct, roundsTo⟩ := exists_roundsTo low high
  have result := made.mul normal stands normalPower.pos normalProduct.regular normalProduct.pos
    roundsTo
  rw [scaled, Int.natAbs_natCast, if_pos few, if_pos (Int.natCast_nonneg places)]
  simp only [result.not_isInf normalProduct.pos, Bool.false_eq_true, if_false]
  exact ⟨_, rfl⟩

end Scaled

/-! ## The digits of a double -/

/-- The greatest double is spelled with seventeen digits, and so are the ones below it. Their
product with the power of ten is not out of range, although the next one is. There are eight of
them, and each is checked. -/
theorem scaled_greatest {significand : Nat} (low : 17976931348623150 ≤ significand)
    (high : significand < 17976931348623158) :
    ∃ found, scaled significand.toUInt64.toFloat 292 = .ok found := by
  have finite : ∀ last < 8,
      ((17976931348623150 + last).toUInt64.toFloat * powerOfTen 292).isInf = false := by
    decide +kernel
  have product := finite (significand - 17976931348623150) (by omega)
  rw [Nat.add_sub_cancel' low] at product
  have places : (292 : Int).natAbs = 292 := rfl
  rw [scaled, if_pos (by decide), if_pos (by decide), places]
  simp only [product, Bool.false_eq_true, if_false]
  exact ⟨_, rfl⟩

/-- What is spelled for a double other than zero is not zero either. So it can be compared by
division, and has a first digit. -/
theorem spelled_pos {value : Binary} (positive : 0 < value.significand)
    (regular : value.Regular) : 0 < (spelled value).significand := by
  have unit : (0 : ℚ) < 2 ^ (value.exponent - 2) := zpow_pos two_pos _
  have least : (1 : ℚ) ≤ value.significand := by exact_mod_cast positive
  have lower : 0 < value.lower := by
    rw [Binary.lower]
    refine mul_pos ?_ unit
    split <;> linarith
  have within := (spelled_roundsTo positive regular).within
  by_contra none
  rw [Digits.toRat, Nat.eq_zero_of_not_pos none, Nat.cast_zero, zero_mul] at within
  linarith [within.1]

/-- A double below the greatest one is spelled below the digits of the greatest one. The
greatest one is left to `scaled_greatest`. -/
theorem spelled_toRat_lt {value : Binary} (positive : 0 < value.significand)
    (regular : value.Regular) (below : value.significand + 1 < 2 ^ 53 ∨ value.exponent < 971) :
    (spelled value).toRat < 17976931348623157 * 10 ^ 292 := by
  have bound : (2 * (2 ^ 55 - 6) * 2 ^ (968 : Int) : ℚ) < 17976931348623157 * 10 ^ 292 := by
    have power : (2 : ℚ) ^ 968 = (2 ^ 8) ^ 121 := pow_mul 2 8 121
    rw [show (968 : Int) = (968 : Nat) from rfl, zpow_natCast, power, tenPower_eq]
    norm_num
  refine ((spelled_roundsTo positive regular).within.2.trans ?_).trans_lt bound
  rw [Binary.upper]
  have unit : (0 : ℚ) < 2 ^ (968 : Int) := zpow_pos two_pos _
  have scale : (0 : ℚ) ≤ 4 * value.significand + 2 := by positivity
  rcases below with fewer | smaller
  · have digits : (value.significand : ℚ) + 2 ≤ 2 ^ 53 := by exact_mod_cast fewer
    have most : (2 : ℚ) ^ (value.exponent - 2) ≤ 2 * 2 ^ (968 : Int) := by
      rw [← zpow_one_add₀ two_ne_zero]
      exact zpow_le_zpow_right₀ one_le_two (by have := regular.most; omega)
    calc
      (4 * value.significand + 2 : ℚ) * 2 ^ (value.exponent - 2)
        ≤ (4 * value.significand + 2) * (2 * 2 ^ (968 : Int)) :=
          mul_le_mul_of_nonneg_left most scale
      _ ≤ (2 ^ 55 - 6) * (2 * 2 ^ (968 : Int)) :=
          mul_le_mul_of_nonneg_right (by linarith) (by positivity)
      _ = 2 * (2 ^ 55 - 6) * 2 ^ (968 : Int) := by ring
  · have digits : (value.significand : ℚ) + 1 ≤ 2 ^ 53 := by exact_mod_cast regular.fits
    have most : (2 : ℚ) ^ (value.exponent - 2) ≤ 2 ^ (968 : Int) :=
      zpow_le_zpow_right₀ one_le_two (by omega)
    calc
      (4 * value.significand + 2 : ℚ) * 2 ^ (value.exponent - 2)
        ≤ (4 * value.significand + 2) * 2 ^ (968 : Int) := mul_le_mul_of_nonneg_left most scale
      _ ≤ 2 * (2 ^ 55 - 6) * 2 ^ (968 : Int) := mul_le_mul_of_nonneg_right (by linarith) unit.le

/-- Between the numbers that are far from the range and the greatest double, all seventeen
digits are needed. With fewer digits and a larger power the number would not be among them. -/
theorem place_eq {significand places : Nat} (few : significand < 10 ^ 17)
    (close : 17976931348623150 * 10 ^ 292 < significand * 10 ^ places)
    (small : significand * 10 ^ places < 17976931348623157 * 10 ^ 292) : places = 292 := by
  rcases Nat.lt_or_ge places 292 with less | more
  · have power : 10 ^ places ≤ 10 ^ 291 := pow_le_pow_right₀ (by decide) (by omega)
    have product := Nat.mul_le_mul few.le power
    omega
  · obtain ⟨extra, rfl⟩ := Nat.exists_eq_add_of_le more
    by_contra larger
    -- A larger power would leave a whole number of tens between two numbers without one.
    obtain ⟨tail, rfl⟩ := Nat.exists_eq_add_one_of_ne_zero (show extra ≠ 0 by omega)
    have tens : significand * 10 ^ (292 + (tail + 1)) =
        significand * 10 ^ tail * 10 * 10 ^ 292 := by
      rw [Nat.add_comm, pow_add, pow_succ 10 tail, ← mul_assoc, ← mul_assoc]
    rw [tens] at small close
    omega

/-- What is spelled below the digits of the greatest double is in range.

Proof: a product that is far from the range is in range whatever is rounded. Close to it there
are only a few numbers of seventeen digits. -/
theorem scaled_below {significand places : Nat} (some : 0 < significand)
    (few : significand < 10 ^ 17)
    (small : significand * 10 ^ places < 17976931348623157 * 10 ^ 292) :
    ∃ found, scaled significand.toUInt64.toFloat places = .ok found := by
  have inRange : places ≤ 308 := by
    have next : 17976931348623157 * 10 ^ 292 < 10 ^ 309 := by
      rw [show 309 = 17 + 292 from rfl, pow_add]
      exact mul_lt_mul_of_pos_right (by decide) (pow_pos (by decide) 292)
    have power : 10 ^ places < 10 ^ 309 :=
      (Nat.le_mul_of_pos_left _ some).trans_lt (small.trans next)
    have less : places < 309 := (pow_lt_pow_iff_right₀ (by decide)).mp power
    omega
  by_cases far : significand * 10 ^ places ≤ 17976931348623150 * 10 ^ 292
  · exact scaled_up some (few.trans (by decide)) inRange (by exact_mod_cast far)
  · obtain rfl := place_eq few (Nat.not_le.mp far) small
    exact scaled_greatest (by omega) (by omega)

/-- What the text of a finite double spells is never out of range. Every finite double that is
written can thus be read, if not always as itself. -/
theorem scaled_spelled {value : Binary} (regular : value.Regular) :
    ∃ found, scaled (spelled value).significand.toUInt64.toFloat (spelled value).exponent =
      .ok found := by
  by_cases down : (spelled value).exponent < 0
  · exact scaled_down _ down
  have nonzero : 0 < value.significand := by
    by_contra none
    rw [spelled, if_pos (Nat.eq_zero_of_not_pos none)] at down
    exact down (by decide)
  by_cases below : value.significand + 1 < 2 ^ 53 ∨ value.exponent < 971
  · have small := spelled_toRat_lt nonzero regular below
    have some := spelled_pos nonzero regular
    have few := spelled_lt regular
    obtain ⟨places, exponent⟩ := Int.eq_ofNat_of_zero_le (Int.not_lt.mp down)
    rw [Digits.toRat, exponent, zpow_natCast] at small
    rw [exponent]
    exact scaled_below some few (by exact_mod_cast small)
  · obtain ⟨significand, exponent, closeBelow⟩ := value
    have fits := regular.fits
    have most := regular.most
    have close := regular.closeBelow
    simp only at below fits most close
    obtain rfl : significand = 2 ^ 53 - 1 := by omega
    obtain rfl : exponent = 971 := by omega
    obtain rfl : closeBelow = false := by
      rw [← Bool.not_eq_true, close]
      decide
    have digits : (spelled ⟨2 ^ 53 - 1, 971, false⟩).significand = 17976931348623157 ∧
        (spelled ⟨2 ^ 53 - 1, 971, false⟩).exponent = 292 := by
      decide +kernel
    rw [digits.1, digits.2]
    exact scaled_greatest (by decide) (by decide)

/-! ## What a stored double becomes -/

/-- What the reader makes of the text of a double. The compact form is chosen here, but every
form and every place gives the same. -/
def reread (value : Float) : Float :=
  match read Reader.float ((Document.real value).write .compact 0) with
  | .ok found => found
  | .error _ => value

/-- The text of a finite double is read, whatever its form and its surroundings. What it is read
as is one and the same double everywhere. -/
theorem Reader.ReadsBack.reread {value : Float} {binary : Binary}
    (finite : magnitude value = .finite binary) :
    Reader.float.ReadsBack 0 (.real value) (reread value) := by
  obtain ⟨found, inRange⟩ := scaled_spelled (regular_of_magnitude finite)
  have readsBack := ReadsBack.float finite inRange
  have alone := read_write readsBack (by decide) .compact
  rw [Document.reread, alone]
  exact readsBack

/-- What the reader makes of a finite double, if the scaling is known. The sign is written in
front and given back. -/
theorem reread_eq {value found : Float} {binary : Binary}
    (finite : magnitude value = .finite binary)
    (scale : scaled (spelled binary).significand.toUInt64.toFloat (spelled binary).exponent =
      .ok found) : reread value = signed (isNegative value) found := by
  have alone := read_write (Reader.ReadsBack.float finite scale) (by decide) .compact
  rw [Document.reread, alone]

/-- Zero is scaled to zero. It has one digit behind the point, which makes no difference. -/
theorem scaled_zero : scaled (0 : Nat).toUInt64.toFloat (-1) = .ok (Float.ofBits 0) := by
  have quotient : (0 : Nat).toUInt64.toFloat / powerOfTen 1 = Float.ofBits 0 := rfl
  rw [scaled, if_pos (by decide), if_neg (by decide)]
  exact congrArg Except.ok quotient

/-- A double whose text spells a whole number below `2 ^ 53`, the point apart, and moves the
point by twenty-two places at most. This is a property of its text, and so of the double. -/
def HasFewDigits (value : Float) : Prop :=
  ∃ binary, magnitude value = .finite binary ∧ (spelled binary).significand < 2 ^ 53 ∧
    (spelled binary).exponent.natAbs ≤ 22

/-- A double with few digits is read as itself, also if it is negative zero. There are doubles
with more digits that are read as themselves as well. -/
theorem reread_of_few {value : Float} (digits : HasFewDigits value) : reread value = value := by
  obtain ⟨binary, finite, fits, few⟩ := digits
  have regular := regular_of_magnitude finite
  rcases Nat.eq_zero_or_pos binary.significand with zero | positive
  · have scale : scaled (spelled binary).significand.toUInt64.toFloat (spelled binary).exponent =
        .ok (Float.ofBits 0) := by
      rw [spelled, if_pos zero]
      exact scaled_zero
    rw [reread_eq finite scale]
    obtain ⟨significand, exponent, closeBelow⟩ := binary
    obtain rfl : significand = 0 := zero
    obtain rfl : exponent = -1074 := regular.normal (Nat.two_pow_pos 52)
    have bits := toBits_of_magnitude finite
    rw [← Float.toBits_inj, ← UInt64.toNat_inj, bits, bitsOf]
    simp only
    cases isNegative value <;> rfl
  · obtain ⟨found, scale, stands⟩ := scaled_of_few (spelled_pos positive regular) fits few regular
      positive (spelled_roundsTo positive regular)
    rw [reread_eq finite scale]
    exact stands.signed_eq positive finite

/-- Negative zero has few digits. -/
example : reread (Float.ofBits 0x8000000000000000) = Float.ofBits 0x8000000000000000 :=
  reread_of_few ⟨_, rfl, by decide, by decide⟩

/-- The twenty-third negative power of ten is read as its neighbour: the power by which one is
divided is itself rounded. -/
theorem reread_tiny :
    reread (Float.ofBits 0x3B282DB34012B251) = Float.ofBits 0x3B282DB34012B252 := by
  have finite : magnitude (Float.ofBits 0x3B282DB34012B251) =
      .finite ⟨0x182DB34012B251, -129, false⟩ := rfl
  have digits : spelled ⟨0x182DB34012B251, -129, false⟩ = ⟨1, -23⟩ := rfl
  have quotient : (1 : Nat).toUInt64.toFloat / powerOfTen 23 =
      Float.ofBits 0x3B282DB34012B252 := rfl
  have scale : scaled (spelled ⟨0x182DB34012B251, -129, false⟩).significand.toUInt64.toFloat
      (spelled ⟨0x182DB34012B251, -129, false⟩).exponent =
        .ok (Float.ofBits 0x3B282DB34012B252) := by
    rw [digits, scaled, if_pos (by decide), if_neg (by decide)]
    exact congrArg Except.ok quotient
  have positive : isNegative (Float.ofBits 0x3B282DB34012B251) = false := rfl
  rw [reread_eq finite scale, positive]
  rfl

end WindowPlacement.Document
