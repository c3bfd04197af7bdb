import WindowPlacement.Decimal.Literal
import WindowPlacement.Proofs.Decimal.Bits
import WindowPlacement.Proofs.Decimal.Rounding

/-!
# The arithmetic of doubles

A product or a quotient of doubles is rounded once from the product or the quotient of the
numbers that they stand for, and so is a double that is made of a whole number. Every number in
the range of the normal doubles is rounded to one of them, so these operations are known up to
the interval that belongs to the result.
-/

namespace WindowPlacement.Rounding

open Float.Model Float.Model.UnpackedFloat Decimal

/-! ## Numbers in range -/

/-- A regular magnitude that has all of its bits. Subnormal doubles and zero are left out: their
results may have fewer bits than are needed here. -/
structure Normal (binary : Binary) : Prop where
  regular : binary.Regular
  full : 2 ^ 52 ≤ binary.significand

/-- A normal magnitude is not zero. So it can be divided by, and it has a first bit. -/
theorem Normal.pos {binary : Binary} (normal : Normal binary) : 0 < binary.significand :=
  Nat.lt_of_lt_of_le (by decide) normal.full

/-- The magnitude with the given digits and the given place of the last one. It is a power of
two exactly if only the first of its bits is set, and then the doubles below it are closer. -/
def normalized (digits : Nat) (place : Int) : Binary :=
  ⟨digits, place, decide (digits = 2 ^ 52 ∧ -1074 < place)⟩

/-- Fifty-three digits at a place in range are normal. The range is that of the places which a
double can have. -/
theorem normal_normalized {digits : Nat} {place : Int} (full : 2 ^ 52 ≤ digits)
    (fits : digits < 2 ^ 53) (least : -1074 ≤ place) (most : place ≤ 971) :
    Normal (normalized digits place) where
  regular :=
    ⟨fits, least, most, fun small => absurd full (Nat.not_le.mpr small), decide_eq_true_iff⟩
  full := full

/-- The least number that is too large for a double: half a place above the greatest one.
Numbers from there on are rounded to infinity. -/
def outOfRange : ℚ := (2 ^ 53 - 1 / 2) * 2 ^ (971 : Int)

/-- Every number has a nearest whole number. Of two that are equally near, the even one is
meant, as everywhere in the arithmetic of doubles. -/
theorem exists_nearest {number : ℚ} (positive : 0 ≤ number) :
    ∃ whole : Nat, Nearest whole number := by
  have low := Nat.floor_le positive
  have high := Nat.lt_floor_add_one number
  generalize ⌊number⌋₊ = whole at low high
  rcases Nat.mod_two_eq_zero_or_one whole with even | odd
  · have next : (whole + 1) % 2 ≠ 0 := by omega
    by_cases half : number ≤ whole + 1 / 2
    · exact ⟨whole, by rw [Nearest, if_pos even]; constructor <;> linarith⟩
    · refine ⟨whole + 1, ?_⟩
      rw [Nearest, if_neg next]
      push_cast
      constructor <;> linarith
  · have next : (whole + 1) % 2 = 0 := by omega
    by_cases half : number < whole + 1 / 2
    · refine ⟨whole, ?_⟩
      rw [Nearest, if_neg (by omega)]
      constructor <;> linarith
    · refine ⟨whole + 1, ?_⟩
      rw [Nearest, if_pos next]
      push_cast
      constructor <;> linarith

/-- The first bit of a number in the range of the normal doubles is in range. Powers of two
cover the numbers in range without gaps, so that the bit can be found between them. -/
theorem exists_firstBit {number : ℚ} (least : 2 ^ (-1022 : Int) ≤ number)
    (inRange : number < outOfRange) :
    ∃ first : Int, (2 : ℚ) ^ first ≤ number ∧ number < 2 ^ (first + 1) ∧
      -1022 ≤ first ∧ first ≤ 1023 := by
  have positive : 0 < number := lt_of_lt_of_le (zpow_pos two_pos _) least
  obtain ⟨first, low, high⟩ := exists_mem_Ico_zpow positive one_lt_two
  have bound : outOfRange < 2 ^ (1024 : Int) := by
    rw [outOfRange, show (1024 : Int) = (53 : Nat) + 971 by norm_num, zpow_add₀ two_ne_zero,
      zpow_natCast]
    exact mul_lt_mul_of_pos_right (by norm_num) (zpow_pos two_pos _)
  have above := (zpow_lt_zpow_iff_right₀ (one_lt_two (α := ℚ))).mp (least.trans_lt high)
  have below :=
    (zpow_lt_zpow_iff_right₀ (one_lt_two (α := ℚ))).mp (low.trans_lt (inRange.trans bound))
  exact ⟨first, low, high, by omega, by omega⟩

/-- The nearest digits of a number, given the place of its first bit: there are fifty-three of
them, or they carry. A carry leads to the next power of two, which has fewer digits but a place
more. -/
theorem exists_digits {number : ℚ} {first : Int} (low : (2 : ℚ) ^ 52 * 2 ^ (first - 52) ≤ number)
    (high : number < 2 ^ 53 * 2 ^ (first - 52)) :
    ∃ digits : Nat, Nearest digits (number / 2 ^ (first - 52)) ∧ 2 ^ 52 ≤ digits ∧
      digits ≤ 2 ^ 53 := by
  have unit : (0 : ℚ) < 2 ^ (first - 52) := zpow_pos two_pos _
  rw [← le_div_iff₀ unit] at low
  rw [← div_lt_iff₀ unit] at high
  obtain ⟨digits, nearest⟩ := exists_nearest (by linarith : 0 ≤ number / 2 ^ (first - 52))
  obtain ⟨near, far⟩ := nearest.near
  have atLeast : (2 ^ 52 : ℚ) < digits + 1 := by linarith
  have atMost : (digits : ℚ) < 2 ^ 53 + 1 := by linarith
  exact ⟨digits, nearest, Nat.lt_succ_iff.mp (by exact_mod_cast atLeast),
    Nat.lt_succ_iff.mp (by exact_mod_cast atMost)⟩

/-- Every number in the range of the normal doubles is rounded to one of them.

Proof: the double has the nearest digits. If they carry, it is the next power of two, which the
number does not reach. -/
theorem exists_roundsTo {number : ℚ} (least : 2 ^ (-1022 : Int) ≤ number)
    (inRange : number < outOfRange) : ∃ value, Normal value ∧ RoundsTo number value := by
  obtain ⟨first, low, high, bottom, top⟩ := exists_firstBit least inRange
  have unit : (0 : ℚ) < 2 ^ (first - 52) := zpow_pos two_pos _
  have power (count : Nat) : (2 : ℚ) ^ (first - 52 + count) = 2 ^ count * 2 ^ (first - 52) := by
    rw [add_comm, zpow_add₀ two_ne_zero, zpow_natCast]
  rw [show first = first - 52 + (52 : Nat) by ring, power] at low
  rw [show first + 1 = first - 52 + (53 : Nat) by push_cast; ring, power] at high
  obtain ⟨digits, nearest, full, most⟩ := exists_digits low high
  rcases Nat.lt_or_eq_of_le most with fits | carry
  · refine ⟨normalized digits (first - 52), normal_normalized full fits (by omega) (by omega),
      roundsTo_of_nearest nearest fun close => ?_⟩
    obtain ⟨digit, -⟩ := of_decide_eq_true close
    rw [Binary.toRat, normalized, digit]
    exact_mod_cast low
  · have near := nearest.near.1
    rw [carry, le_div_iff₀ unit, Nat.cast_pow, Nat.cast_ofNat] at near
    have inside : first ≤ 1022 := by
      by_contra large
      rw [show first = 1023 by omega] at near
      exact absurd near (not_le.mpr inRange)
    refine ⟨normalized (2 ^ 52) (first - 51),
      normal_normalized (le_refl _) (by norm_num) (by omega) (by omega), ?_⟩
    have half : (2 : ℚ) ^ (first - 52) = 2 * 2 ^ (first - 51 - 2) := by
      rw [show first - 52 = 1 + (first - 51 - 2) by ring, zpow_add₀ two_ne_zero, zpow_one]
    have even : 2 ^ 52 % 2 = 0 := by decide
    have close : 2 ^ 52 = 2 ^ 52 ∧ -1074 < first - 51 := ⟨rfl, by omega⟩
    have positive : (0 : ℚ) < 2 ^ (first - 51 - 2) := zpow_pos two_pos _
    rw [half] at near high
    rw [RoundsTo, normalized, if_pos even, Binary.lower, Binary.upper,
      if_pos (decide_eq_true close)]
    push_cast
    constructor <;> linarith

/-- A double of all its bits is close to the numbers that are rounded to it. The relative error
is one in two to the power of 53 at the most, in either direction. -/
theorem toRat_of_roundsTo {number : ℚ} {value : Binary} (normal : Normal value)
    (roundsTo : RoundsTo number value) :
    value.toRat * (2 ^ 53 - 1) ≤ 2 ^ 53 * number ∧
      2 ^ 53 * number ≤ value.toRat * (2 ^ 53 + 1) := by
  have unit : (0 : ℚ) < 2 ^ (value.exponent - 2) := zpow_pos two_pos _
  have full : (2 : ℚ) ^ 52 ≤ value.significand := by exact_mod_cast normal.full
  have inside := roundsTo.within
  rw [toRat_eq_quarters]
  rw [Binary.lower, Binary.upper] at inside
  have low : (4 * value.significand - 2 : ℚ) ≤
      4 * value.significand - if value.closeBelow then 1 else 2 := by
    split <;> linarith
  have below := mul_le_mul_of_nonneg_right low unit.le
  have digit := mul_le_mul_of_nonneg_right full unit.le
  constructor <;> linarith

/-- A double is rounded to itself. It lies inside its own interval, whether or not the ends
belong to it. -/
theorem roundsTo_self (value : Binary) : RoundsTo value.toRat value := by
  have unit : (0 : ℚ) < 2 ^ (value.exponent - 2) := zpow_pos two_pos _
  have below : value.lower < value.toRat := by
    rw [toRat_eq_quarters, Binary.lower]
    refine mul_lt_mul_of_pos_right ?_ unit
    split <;> linarith
  have above : value.toRat < value.upper := by
    rw [toRat_eq_quarters, Binary.upper]
    exact mul_lt_mul_of_pos_right (by linarith) unit
  rw [RoundsTo]
  split
  · exact ⟨below.le, above.le⟩
  · exact ⟨below, above⟩

/-- The digits that a whole number below `2 ^ 53` makes with a power of two. The whole number is
moved up until all bits are there, and the exponent makes up for it. -/
def exact (whole : Nat) (exponent : Int) : Binary :=
  normalized (whole * 2 ^ (52 - whole.log2)) (exponent - (52 - whole.log2 : Nat))

/-- Nothing is lost where the number and the power are in range. No rounding is needed, since
the number has fifty-three bits at the most. -/
theorem exact_spec {whole : Nat} {exponent : Int} (some : 0 < whole) (fits : whole < 2 ^ 53)
    (least : -1022 ≤ exponent) (most : exponent ≤ 971) :
    Normal (exact whole exponent) ∧ (exact whole exponent).toRat = whole * 2 ^ exponent := by
  have few : whole.log2 ≤ 52 := Nat.lt_succ_iff.mp ((Nat.log2_lt some.ne').mpr fits)
  have full : 2 ^ 52 ≤ whole * 2 ^ (52 - whole.log2) := by
    calc
      2 ^ 52 = 2 ^ whole.log2 * 2 ^ (52 - whole.log2) := by
        rw [← pow_add, Nat.add_sub_cancel' few]
      _ ≤ whole * 2 ^ (52 - whole.log2) := Nat.mul_le_mul_right _ (Nat.log2_self_le some.ne')
  have digits : whole * 2 ^ (52 - whole.log2) < 2 ^ 53 := by
    calc
      whole * 2 ^ (52 - whole.log2) < 2 ^ (whole.log2 + 1) * 2 ^ (52 - whole.log2) :=
        Nat.mul_lt_mul_of_pos_right Nat.lt_log2_self (Nat.pow_pos (by decide))
      _ = 2 ^ 53 := by rw [← pow_add, add_right_comm, Nat.add_sub_cancel' few]
  refine ⟨normal_normalized full digits (by omega) (by omega), ?_⟩
  rw [Binary.toRat, exact, normalized]
  push_cast
  rw [mul_assoc, zpow_sub₀ two_ne_zero, zpow_natCast, mul_div_cancel₀ _ (by positivity)]

/-! ## Operations on what doubles unpack to -/

section Unpacked

variable {one other : Nat} {first second : Int} {result : Binary}

/-- A product is rounded from the product of the numbers. The product of the significands is
exact before it is rounded, so that there is no second rounding. -/
theorem mul_unpacked (some : 0 < one) (others : 0 < other) (enough : 2 ^ 52 ≤ one)
    (regular : result.Regular) (found : 0 < result.significand)
    (roundsTo : RoundsTo (one * 2 ^ first * (other * 2 ^ second)) result) :
    UnpackedFloat.mul Format.binary64 (.finite .positive one first some)
      (.finite .positive other second others) =
        .finite .positive result.significand result.exponent found := by
  have product : ((one * other : Nat) : ℚ) * 2 ^ (first + second) =
      one * 2 ^ first * (other * 2 ^ second) := by
    rw [zpow_add₀ two_ne_zero]
    push_cast
    ring
  exact roundWithAccuracy_of_roundsTo .positive (Represents.exact _) (Nat.mul_pos some others)
    (.inl (enough.trans (Nat.le_mul_of_pos_right one others))) regular found (product ▸ roundsTo)

/-- Enough bits of a quotient are made: its numerator is moved up before it is divided. What is
cut off is remembered in the accuracy, which is enough to round the quotient as if all bits were
known. -/
theorem divCore_spec {one other : Nat} (some : 0 < one) (divisor : 0 < other)
    {first second : Int} (inRange : other.log2 + second - (one.log2 + first) ≤ 1021) :
    ∃ quotient : Nat, ∃ place : Int, ∃ accuracy, ∃ number : ℚ,
      divCore Format.binary64 one first other second = (quotient, place, accuracy) ∧
      2 ^ 52 ≤ quotient ∧ Represents (.ofMantissaAndAccuracy quotient accuracy) number ∧
      number * 2 ^ place = one * 2 ^ first / (other * 2 ^ second) := by
  have target : Format.binary64.targetExponent (totalExponent one first -
      totalExponent other second) = (one.log2 + first) - (other.log2 + second) - 53 := by
    simp only [Format.targetExponent, totalExponent, Format.mantissaBits, Format.minExponent]
    norm_num
    omega
  let place := min (first - second) ((one.log2 + first) - (other.log2 + second) - 53)
  let shift := (first - second - place).toNat
  have lifted : (first - second - place).toNat = first - second - place :=
    Int.toNat_of_nonneg (by omega)
  have high : 2 ^ (one.log2 + shift) ≤ one <<< shift := by
    rw [Nat.shiftLeft_eq, pow_add]
    exact Nat.mul_le_mul_right _ (Nat.log2_self_le some.ne')
  have width : 53 + other.log2 ≤ one.log2 + shift := by omega
  refine ⟨one <<< shift / other, place, _, _, ?_, ?_,
    Represents.fraction _ (Nat.mod_lt (one <<< shift) divisor), ?_⟩
  · rw [divCore, target]
  · rw [Nat.le_div_iff_mul_le divisor]
    calc
      2 ^ 52 * other ≤ 2 ^ 52 * 2 ^ (other.log2 + 1) :=
        Nat.mul_le_mul_left _ Nat.lt_log2_self.le
      _ = 2 ^ (53 + other.log2) := by rw [← pow_add, ← add_assoc, add_right_comm]
      _ ≤ 2 ^ (one.log2 + shift) := Nat.pow_le_pow_right (by decide) width
      _ ≤ one <<< shift := high
  · have nonzero : (other : ℚ) ≠ 0 := by exact_mod_cast divisor.ne'
    have whole : ((one <<< shift / other : Nat) : ℚ) + (one <<< shift % other : Nat) / other =
        one * 2 ^ (first - second - place) / other := by
      rw [← lifted, zpow_natCast, eq_div_iff nonzero, add_mul, div_mul_cancel₀ _ nonzero]
      have split := Nat.div_add_mod' (one <<< shift) other
      rw [Nat.shiftLeft_eq] at split ⊢
      exact_mod_cast split
    rw [whole, div_mul_eq_mul_div, mul_assoc, ← zpow_add₀ two_ne_zero, sub_add_cancel,
      zpow_sub₀ two_ne_zero, ← mul_div_assoc, div_div, mul_comm ((2 : ℚ) ^ second)]

/-- A quotient is rounded from the quotient of the numbers. The bound on the bits is one on the
result, which must not be too small for a normal double. -/
theorem div_unpacked (some : 0 < one) (divisor : 0 < other)
    (inRange : other.log2 + second - (one.log2 + first) ≤ 1021)
    (regular : result.Regular) (found : 0 < result.significand)
    (roundsTo : RoundsTo (one * 2 ^ first / (other * 2 ^ second)) result) :
    UnpackedFloat.div Format.binary64 (.finite .positive one first some)
      (.finite .positive other second divisor) =
        .finite .positive result.significand result.exponent found := by
  obtain ⟨quotient, place, accuracy, number, core, enough, represents, same⟩ :=
    divCore_spec some divisor inRange
  simp only [UnpackedFloat.div, core]
  exact roundWithAccuracy_of_roundsTo .positive represents (by omega) (.inl enough) regular found
    (same ▸ roundsTo)

/-- A whole number is rounded from itself. Numbers of more than fifty-three bits lose some of
them here. -/
theorem round_unpacked (some : 0 < one) (regular : result.Regular)
    (found : 0 < result.significand) (roundsTo : RoundsTo one result) :
    UnpackedFloat.round Format.binary64 .positive one 0 =
      .finite .positive result.significand result.exponent found := by
  have target : Format.binary64.targetExponent (totalExponent one 0) = (one.log2 : Int) - 52 := by
    simp only [Format.targetExponent, totalExponent, Format.mantissaBits, Format.minExponent]
    norm_num
    omega
  have lifted : ((one <<< (52 - one.log2) : Nat) : ℚ) * 2 ^ (0 - ((52 - one.log2 : Nat) : Int)) =
      one := by
    rw [Nat.shiftLeft_eq, zero_sub, zpow_neg, zpow_natCast, Nat.cast_mul, Nat.cast_pow,
      Nat.cast_ofNat, mul_assoc, mul_inv_cancel₀ (by positivity), mul_one]
  have enough : 2 ^ 52 ≤ one <<< (52 - one.log2) := by
    rw [Nat.shiftLeft_eq]
    calc
      2 ^ 52 ≤ 2 ^ (one.log2 + (52 - one.log2)) := Nat.pow_le_pow_right (by decide) (by omega)
      _ = 2 ^ one.log2 * 2 ^ (52 - one.log2) := Nat.pow_add 2 _ _
      _ ≤ one * 2 ^ (52 - one.log2) := Nat.mul_le_mul_right _ (Nat.log2_self_le some.ne')
  have shift : (0 - ((one.log2 : Int) - 52)).toNat = 52 - one.log2 := by omega
  rw [UnpackedFloat.round, target, decreaseExponent, shift]
  exact roundWithAccuracy_of_roundsTo .positive (Represents.exact _) (by omega) (.inl enough)
    regular found (lifted ▸ roundsTo)

end Unpacked

/-! ## Doubles that are not negative -/

/-- A double that is not negative and has a magnitude. The sign is apart because texts are read
and written with their sign in front. -/
structure StandsFor (value : Float) (binary : Binary) : Prop where
  finite : magnitude value = .finite binary
  positive : isNegative value = false

namespace StandsFor

variable {first second : Float} {one other result : Binary}

/-- How such a double unpacks. Arithmetic goes by the parts, and not by the bits. -/
theorem unpack (stands : StandsFor first one) (some : 0 < one.significand) :
    first.toModel.unpack = .finite .positive one.significand one.exponent some := by
  have unpacked := unpack_of_magnitude stands.finite some
  rwa [signOf, stands.positive] at unpacked

/-- A magnitude that is packed stands for itself. Only regular magnitudes have this property:
others have no bits of their own. -/
theorem pack (regular : one.Regular) (some : 0 < one.significand) :
    StandsFor (.ofModel (.pack (.finite .positive one.significand one.exponent some))) one :=
  ⟨(magnitude_pack false regular some).1, (magnitude_pack false regular some).2⟩

/-- A double is determined by what it stands for. So an equation between doubles can be proved
on the numbers that they stand for. -/
theorem eq (stands : StandsFor first one) (same : StandsFor second one) : first = second :=
  eq_of_magnitude stands.finite same.finite (stands.positive.trans same.positive.symm)

/-- The sign is given back to a double that stands for the magnitude of another one. This is the
last step of reading a decimal. -/
theorem signed_eq (stands : StandsFor first one) (some : 0 < one.significand)
    (finite : magnitude second = .finite one) : signed (isNegative second) first = second := by
  cases sign : isNegative second with
  | false =>
    rw [signed, if_neg Bool.false_ne_true]
    exact eq_of_magnitude stands.finite finite (stands.positive.trans sign.symm)
  | true =>
    obtain ⟨same, negative⟩ := magnitude_pack true (regular_of_magnitude finite) some
    have negated : -first = .ofModel (.pack (.finite .negative one.significand one.exponent
        some)) := by
      change Float.ofModel (.pack (UnpackedFloat.neg first.toModel.unpack)) = _
      rw [stands.unpack some]
      rfl
    rw [signed, if_pos rfl, negated]
    exact eq_of_magnitude same finite (negative.trans sign.symm)

/-- A sign in front does not change the magnitude. For this it does not matter whether the
double has been rounded. -/
theorem magnitude_signed (stands : StandsFor first one) (regular : one.Regular)
    (some : 0 < one.significand) (negative : Bool) :
    magnitude (signed negative first) = .finite one := by
  obtain ⟨finite, sign⟩ := magnitude_pack negative regular some
  rw [← sign, stands.signed_eq some finite]
  exact finite

/-- A double that stands for a number is not infinite. A reader that refuses numbers out of
range accepts it. -/
theorem not_isInf (stands : StandsFor first one) (some : 0 < one.significand) :
    first.isInf = false := by
  rw [Float.isInf, Float.Model.isInf, stands.unpack some]
  rfl

/-- A product that is rounded to a double stands for it. The magnitude of the result need not be
normal, as long as it is regular. -/
theorem mul (stands : StandsFor first one) (normal : Normal one)
    (others : StandsFor second other) (some : 0 < other.significand)
    (regular : result.Regular) (found : 0 < result.significand)
    (roundsTo : RoundsTo (one.toRat * other.toRat) result) : StandsFor (first * second) result := by
  have product := mul_unpacked normal.pos some normal.full regular found roundsTo
  rw [← stands.unpack, ← others.unpack] at product
  change StandsFor (.ofModel (.pack (UnpackedFloat.mul Format.binary64 first.toModel.unpack
    second.toModel.unpack))) result
  rw [product]
  exact pack regular found

/-- A quotient that is rounded to a double stands for it. The bound keeps the first bit of the
quotient in the range in which all of its bits are made. -/
theorem div (stands : StandsFor first one) (some : 0 < one.significand)
    (others : StandsFor second other) (divisor : 0 < other.significand)
    (inRange : topBit other - topBit one ≤ 1021)
    (regular : result.Regular) (found : 0 < result.significand)
    (roundsTo : RoundsTo (one.toRat / other.toRat) result) :
    StandsFor (first / second) result := by
  have quotient := div_unpacked some divisor inRange regular found roundsTo
  rw [← stands.unpack, ← others.unpack] at quotient
  change StandsFor (.ofModel (.pack (UnpackedFloat.div Format.binary64 first.toModel.unpack
    second.toModel.unpack))) result
  rw [quotient]
  exact pack regular found

/-- A double that is made of a whole number stands for what the number is rounded to. Sixty-four
bits may be more than a double has, so this may round. -/
theorem toFloat {number : UInt64} (some : 0 < number.toNat) (regular : result.Regular)
    (found : 0 < result.significand) (roundsTo : RoundsTo number.toNat result) :
    StandsFor number.toFloat result := by
  have order : compare (number.toNat : Int) 0 = .gt := Int.compare_eq_gt.mpr (by omega)
  have rounded := round_unpacked some regular found roundsTo
  change StandsFor (.ofModel (.pack (UnpackedFloat.normalize Format.binary64 number.toNat 0
    .positive))) result
  rw [UnpackedFloat.normalize, order]
  simp only [Int.toNat_natCast, rounded]
  exact pack regular found

end StandsFor

end WindowPlacement.Rounding
