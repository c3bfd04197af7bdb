import Mathlib
import WindowPlacement.Proofs.Decimal.Shortest

/-!
# Rounding to doubles

The arithmetic of doubles keeps a mantissa and two more bits of a result, shifts them to the
last place that a double has, and rounds to the nearest one. What the bits stand for is a
rational number, so the rounding can be compared with the interval that belongs to a double:
a number of the interval is rounded to that double.
-/

namespace WindowPlacement.Rounding

open Float.Model Float.Model.UnpackedFloat Decimal

/-! ## A mantissa and what is lost of it -/

/-- A mantissa with two more bits stands for a number: the first bit tells the halves of the
last digit apart, the second whether the number is anything else than the start of its half.
More of the number is not kept, and more is not needed to round it. -/
def Represents (mantissa : ExtendedMantissa) (number : ℚ) : Prop :=
  if mantissa.roundBit then
    if mantissa.stickyBit then
      (mantissa.mantissa : ℚ) + 1 / 2 < number ∧ number < mantissa.mantissa + 1
    else number = mantissa.mantissa + 1 / 2
  else if mantissa.stickyBit then
    (mantissa.mantissa : ℚ) < number ∧ number < mantissa.mantissa + 1 / 2
  else number = mantissa.mantissa

/-- A whole number is the nearest one to a number, where a half counts towards the even
neighbour. This is the tie rule of doubles, stated for whole numbers. -/
def Nearest (whole : Nat) (number : ℚ) : Prop :=
  if whole % 2 = 0 then whole - 1 / 2 ≤ number ∧ number ≤ whole + 1 / 2
  else whole - 1 / 2 < number ∧ number < whole + 1 / 2

/-- A number is at most half away from its nearest whole number. The parity does not matter for
this. -/
theorem Nearest.near {whole : Nat} {number : ℚ} (nearest : Nearest whole number) :
    (whole : ℚ) - 1 / 2 ≤ number ∧ number ≤ whole + 1 / 2 := by
  rw [Nearest] at nearest
  split at nearest
  · exact nearest
  · exact ⟨nearest.1.le, nearest.2.le⟩

/-- Whole numbers less than one apart are the same. Two candidates for a rounded result are
compared with this. -/
theorem eq_of_near {one other : Nat} (below : (one : ℚ) < other + 1)
    (above : (other : ℚ) < one + 1) : one = other := by
  have below : one < other + 1 := by exact_mod_cast below
  have above : other < one + 1 := by exact_mod_cast above
  omega

namespace Represents

variable {mantissa : ExtendedMantissa} {number : ℚ}

/-- A number is at least its mantissa. It is less than a whole number above it. -/
theorem mantissa_le (represents : Represents mantissa number) :
    (mantissa.mantissa : ℚ) ≤ number ∧ number < mantissa.mantissa + 1 := by
  obtain ⟨whole, half, rest⟩ := mantissa
  cases half <;> cases rest <;>
    simp only [Represents, Bool.false_eq_true, if_false, if_true] at represents ⊢ <;>
    constructor <;> linarith

/-- Half a number is represented after a shift. The last bit of the mantissa becomes the one for
the halves, and the two others become one. -/
theorem shiftRightOne (represents : Represents mantissa number) :
    Represents mantissa.shiftRightOne (number / 2) := by
  obtain ⟨whole, half, rest⟩ := mantissa
  have parts : (whole : ℚ) = 2 * (whole / 2 : Nat) + (whole % 2 : Nat) := by
    exact_mod_cast (Nat.div_add_mod whole 2).symm
  rcases Nat.mod_two_eq_zero_or_one whole with even | odd
  · rw [even] at parts
    cases half <;> cases rest <;>
      simp only [Represents, ExtendedMantissa.shiftRightOne, even, Bool.false_eq_true, if_false,
        if_true, bne_self_eq_false, Bool.or_self, Bool.or_true, Bool.or_false, Nat.cast_zero]
        at represents parts ⊢ <;>
      first
      | linarith
      | (constructor <;> linarith)
  · rw [odd] at parts
    have bit : ((1 : Nat) != 0) = true := rfl
    cases half <;> cases rest <;>
      simp only [Represents, ExtendedMantissa.shiftRightOne, odd, bit, Bool.false_eq_true, if_false,
        if_true, Bool.or_self, Bool.or_true, Bool.or_false, Nat.cast_one]
        at represents parts ⊢ <;>
      first
      | linarith
      | (constructor <;> linarith)

/-- A power of two is divided out by as many shifts. The bound on the number of shifts is none:
everything may be shifted out. -/
theorem shiftRight (represents : Represents mantissa number) (count : Nat) :
    Represents (mantissa >>> count) (number / 2 ^ count) := by
  induction count with
  | zero =>
    rw [pow_zero, div_one]
    exact represents
  | succ count inductionHypothesis =>
    rw [pow_succ, ← div_div]
    exact inductionHypothesis.shiftRightOne

/-- A whole number represents itself. Both of the further bits are clear then. -/
theorem exact (whole : Nat) : Represents (.ofMantissaAndAccuracy whole .exact) whole := by
  simp only [Represents, ExtendedMantissa.ofMantissaAndAccuracy, Bool.false_eq_true, if_false]

/-- The accuracy of a quotient is that of its remainder. The remainder is compared with half of
the divisor, which is all that is known of it. -/
theorem fraction (whole : Nat) {remainder divisor : Nat} (less : remainder < divisor) :
    Represents (.ofMantissaAndAccuracy whole (accuracyOfFraction remainder divisor))
      (whole + remainder / divisor) := by
  have positive : (0 : ℚ) < divisor := by exact_mod_cast Nat.zero_lt_of_lt less
  rw [accuracyOfFraction]
  split
  · rename_i none
    rw [none, Nat.cast_zero, zero_div, add_zero]
    exact Represents.exact whole
  · rename_i some
    have rest : (0 : ℚ) < remainder / divisor :=
      div_pos (by exact_mod_cast Nat.pos_of_ne_zero some) positive
    have whole' : (remainder : ℚ) / divisor < 1 := by
      rw [div_lt_one positive]
      exact_mod_cast less
    cases half : compare (2 * remainder) divisor with
    | lt =>
      have below : (remainder : ℚ) / divisor < 1 / 2 := by
        rw [div_lt_div_iff₀ positive two_pos]
        have := Nat.compare_eq_lt.mp half
        exact_mod_cast (by omega : remainder * 2 < 1 * divisor)
      simp only [Represents, ExtendedMantissa.ofMantissaAndAccuracy, Bool.false_eq_true, if_false,
        if_true]
      constructor <;> linarith
    | eq =>
      have middle : (remainder : ℚ) / divisor = 1 / 2 := by
        rw [div_eq_div_iff positive.ne' two_ne_zero]
        have := Nat.compare_eq_eq.mp half
        exact_mod_cast (by omega : remainder * 2 = 1 * divisor)
      simp only [Represents, ExtendedMantissa.ofMantissaAndAccuracy, Bool.false_eq_true, if_false,
        if_true, middle]
    | gt =>
      have above : 1 / 2 < (remainder : ℚ) / divisor := by
        rw [div_lt_div_iff₀ two_pos positive]
        have := Nat.compare_eq_gt.mp half
        exact_mod_cast (by omega : 1 * divisor < remainder * 2)
      simp only [Represents, ExtendedMantissa.ofMantissaAndAccuracy, if_true]
      constructor <;> linarith

/-- A mantissa is rounded to the nearest whole number. There is only one such whole number, so
that rounding is a function of the number that is represented. -/
theorem roundedMantissa_eq (represents : Represents mantissa number) {whole : Nat}
    (nearest : Nearest whole number) : mantissa.roundedMantissa = whole := by
  obtain ⟨near, far⟩ := nearest.near
  obtain ⟨found, half, rest⟩ := mantissa
  cases half <;> cases rest <;>
    simp only [Represents, Bool.false_eq_true, if_false, if_true] at represents <;>
    simp only [ExtendedMantissa.roundedMantissa, ExtendedMantissa.accuracy,
      Accuracy.roundToNearestEven]
  · exact eq_of_near (by linarith) (by linarith)
  · exact eq_of_near (by linarith) (by linarith)
  · -- A tie: the nearest whole number is even, or both ends of its interval are excluded.
    by_cases even : whole % 2 = 0
    · have below : found ≤ whole := by exact_mod_cast (by linarith : (found : ℚ) ≤ whole)
      have above : whole ≤ found + 1 := by exact_mod_cast (by linarith : (whole : ℚ) ≤ found + 1)
      omega
    · rw [Nearest, if_neg even] at nearest
      have below : found < whole := by exact_mod_cast (by linarith : (found : ℚ) < whole)
      have above : whole < found + 1 := by exact_mod_cast (by linarith : (whole : ℚ) < found + 1)
      omega
  · refine eq_of_near ?_ ?_
    · push_cast
      linarith
    · push_cast
      linarith

/-- Rounding does not pass over a whole number. So a result in range is not carried out of
it. -/
theorem roundedMantissa_le (represents : Represents mantissa number) {most : Nat}
    (atMost : number < most + 1 / 2) : mantissa.roundedMantissa ≤ most := by
  obtain ⟨found, half, rest⟩ := mantissa
  cases half <;> cases rest <;>
    simp only [Represents, Bool.false_eq_true, if_false, if_true] at represents <;>
    simp only [ExtendedMantissa.roundedMantissa, ExtendedMantissa.accuracy,
      Accuracy.roundToNearestEven]
  · have below : (found : ℚ) < most + 1 := by linarith
    exact Nat.lt_succ_iff.mp (by exact_mod_cast below)
  · have below : (found : ℚ) < most + 1 := by linarith
    exact Nat.lt_succ_iff.mp (by exact_mod_cast below)
  · have below : (found : ℚ) < most := by linarith
    have below' : found < most := by exact_mod_cast below
    omega
  · have below : (found : ℚ) < most := by linarith
    have below' : found < most := by exact_mod_cast below
    omega

end Represents

/-! ## Rounding -/

/-- The exponent to which a number is rounded, given the place of its first bit: fifty-two
places below that, or the least exponent that there is. Below the least exponent, numbers have
fewer bits. -/
def lastPlace (first : Int) : Int := max (first - 52) (-1074)

/-- The first shift leads to the last place. If the mantissa is too short for it, nothing is
shifted, and no bits are made up. -/
theorem shiftToTargetExponent_eq (whole : Nat) (exponent : Int) (accuracy : Accuracy) :
    shiftToTargetExponent Format.binary64 whole exponent accuracy =
      (ExtendedMantissa.ofMantissaAndAccuracy whole accuracy >>>
          (lastPlace (whole.log2 + exponent) - exponent).toNat,
        exponent + (lastPlace (whole.log2 + exponent) - exponent).toNat) := by
  have target : Format.binary64.targetExponent (totalExponent whole exponent) =
      lastPlace (whole.log2 + exponent) := by
    simp only [Format.targetExponent, totalExponent, Format.mantissaBits, Format.minExponent,
      lastPlace]
    norm_num
    omega
  rw [shiftToTargetExponent, target]
  rfl

/-- A mantissa of fifty-three bits is not shifted any more. This is the second look at a
mantissa that has been rounded without a carry. -/
theorem shiftToTargetExponent_of_lt {whole : Nat} {exponent : Int} (fits : whole < 2 ^ 53)
    (least : -1074 ≤ exponent) :
    shiftToTargetExponent Format.binary64 whole exponent .exact =
      (⟨whole, false, false⟩, exponent) := by
  have few : whole.log2 ≤ 52 := by
    rcases Nat.eq_zero_or_pos whole with rfl | positive
    · decide
    · exact Nat.lt_succ_iff.mp ((Nat.log2_lt positive.ne').mpr fits)
  have none : (lastPlace (whole.log2 + exponent) - exponent).toNat = 0 := by
    rw [lastPlace]
    omega
  rw [shiftToTargetExponent_eq, none]
  simp only [Nat.cast_zero, add_zero]
  rfl

/-- A mantissa that has grown by a bit is shifted by one place. No other mantissa can come of a
carry, so nothing is lost by the shift. -/
theorem shiftToTargetExponent_carry {exponent : Int} (least : -1074 ≤ exponent) :
    shiftToTargetExponent Format.binary64 (2 ^ 53) exponent .exact =
      (⟨2 ^ 52, false, false⟩, exponent + 1) := by
  have one : (lastPlace ((2 ^ 53 : Nat).log2 + exponent) - exponent).toNat = 1 := by
    rw [Nat.log2_two_pow, lastPlace]
    omega
  rw [shiftToTargetExponent_eq, one]
  rfl

/-- A double that is made of a rounded mantissa: a carry moves it by one place. Nothing but zero
comes of a mantissa that has been rounded down to nothing. -/
def assembled (sign : Sign) (mantissa : Nat) (exponent : Int) : UnpackedFloat :=
  if zero : mantissa = 0 then .zero sign
  else if mantissa < 2 ^ 53 then .finite sign mantissa exponent (Nat.pos_of_ne_zero zero)
  else .finite sign (2 ^ 52) (exponent + 1) (by decide)

/-- A number ends before the next whole number. Whatever the accuracy is, it stands for less
than one. -/
theorem lt_succ {whole : Nat} {accuracy : Accuracy} {number : ℚ}
    (represents : Represents (.ofMantissaAndAccuracy whole accuracy) number) :
    (whole : ℚ) ≤ number ∧ number < whole + 1 := by
  have same : (ExtendedMantissa.ofMantissaAndAccuracy whole accuracy).mantissa = whole := by
    cases accuracy with
    | exact => rfl
    | inexact order => cases order <;> rfl
  have bounds := represents.mantissa_le
  rwa [same] at bounds

/-- The first bit of a number, scaled. It is the first bit of the whole part, because what
follows is less than one. -/
theorem firstBit {whole : Nat} {exponent : Int} {accuracy : Accuracy} {number : ℚ}
    (represents : Represents (.ofMantissaAndAccuracy whole accuracy) number)
    (positive : 0 < whole) :
    (2 : ℚ) ^ (whole.log2 + exponent) ≤ number * 2 ^ exponent ∧
      number * 2 ^ exponent < 2 ^ (whole.log2 + exponent + 1) := by
  obtain ⟨low, high⟩ := lt_succ represents
  have unit : (0 : ℚ) < 2 ^ exponent := zpow_pos two_pos _
  have least : ((2 ^ whole.log2 : Nat) : ℚ) ≤ whole := by
    exact_mod_cast Nat.log2_self_le positive.ne'
  have most : (whole : ℚ) + 1 ≤ ((2 ^ (whole.log2 + 1) : Nat) : ℚ) := by
    exact_mod_cast Nat.succ_le_of_lt Nat.lt_log2_self
  push_cast at least most
  constructor
  · rw [zpow_add₀ two_ne_zero, zpow_natCast, mul_le_mul_iff_left₀ unit]
    linarith
  · rw [add_right_comm, zpow_add₀ two_ne_zero, ← Nat.cast_add_one, zpow_natCast,
      mul_lt_mul_iff_left₀ unit]
    linarith

/-- Rounding a number of which enough bits are known: it is rounded to its last place. Enough
bits are fifty-three, or as many as stand above the least exponent. -/
theorem roundWithAccuracy_eq (sign : Sign) {whole : Nat} {exponent : Int} {accuracy : Accuracy}
    {number : ℚ} (represents : Represents (.ofMantissaAndAccuracy whole accuracy) number)
    (positive : 0 < whole) (enough : 2 ^ 52 ≤ whole ∨ exponent ≤ -1074) :
    ∃ mantissa : ExtendedMantissa,
      Represents mantissa
        (number * 2 ^ exponent / 2 ^ lastPlace (whole.log2 + exponent)) ∧
      roundWithAccuracy Format.binary64 sign whole exponent accuracy =
        assembled sign mantissa.roundedMantissa (lastPlace (whole.log2 + exponent)) := by
  have reached : exponent ≤ lastPlace (whole.log2 + exponent) := by
    rcases enough with enough | enough
    · have bits : 52 ≤ whole.log2 := (Nat.le_log2 (by omega)).mpr enough
      rw [lastPlace]
      omega
    · rw [lastPlace]
      omega
  have least : -1074 ≤ lastPlace (whole.log2 + exponent) := le_max_right _ _
  have first := shiftToTargetExponent_eq whole exponent accuracy
  have scaled : number / 2 ^ (lastPlace (whole.log2 + exponent) - exponent).toNat =
      number * 2 ^ exponent / 2 ^ lastPlace (whole.log2 + exponent) := by
    rw [← zpow_natCast, Int.toNat_of_nonneg (by omega), zpow_sub₀ two_ne_zero, div_div_eq_mul_div]
  have shifted := represents.shiftRight (lastPlace (whole.log2 + exponent) - exponent).toNat
  rw [scaled] at shifted
  rw [Int.toNat_of_nonneg (by omega), add_sub_cancel] at first
  refine ⟨_, shifted, ?_⟩
  generalize ExtendedMantissa.ofMantissaAndAccuracy whole accuracy >>>
    (lastPlace (whole.log2 + exponent) - exponent).toNat = mantissa at first shifted
  have most : mantissa.roundedMantissa ≤ 2 ^ 53 := by
    refine shifted.roundedMantissa_le ?_
    have small : number * 2 ^ exponent ≤ 2 ^ 53 * 2 ^ lastPlace (whole.log2 + exponent) := by
      calc
        number * 2 ^ exponent ≤ 2 ^ (whole.log2 + exponent + 1) :=
          (firstBit represents positive).2.le
        _ ≤ 2 ^ ((53 : Nat) + lastPlace (whole.log2 + exponent)) :=
          zpow_le_zpow_right₀ one_le_two (by rw [lastPlace]; omega)
        _ = 2 ^ 53 * 2 ^ lastPlace (whole.log2 + exponent) := by
          rw [zpow_add₀ two_ne_zero, zpow_natCast]
    have unit : (0 : ℚ) < 2 ^ lastPlace (whole.log2 + exponent) := zpow_pos two_pos _
    rw [div_lt_iff₀ unit]
    push_cast
    linarith
  rw [roundWithAccuracy, first]
  simp only
  generalize mantissa.roundedMantissa = rounded at most
  rcases Nat.lt_or_eq_of_le most with fits | rfl
  · rw [shiftToTargetExponent_of_lt fits least, assembled]
    simp only [fits, if_true]
  · rw [shiftToTargetExponent_carry least]
    rfl

section Interval

variable {number : ℚ} {value : Binary} {first : Int}

/-- Powers of two above the last digit of a double, counted in quarters of it. The ends of the
interval of a double are counted so. -/
theorem power_eq_quarters (exponent : Int) (count : Nat) :
    (2 : ℚ) ^ (exponent + count) = 4 * 2 ^ count * 2 ^ (exponent - 2) := by
  rw [zpow_add₀ two_ne_zero, zpow_natCast, quarters exponent]
  ring

/-- The interval of a double begins two quarters below it at the most. It begins one quarter
below if the double is a power of two. -/
theorem le_lower (value : Binary) :
    (4 * value.significand - 2 : ℚ) * 2 ^ (value.exponent - 2) ≤ value.lower := by
  rw [Binary.lower]
  refine mul_le_mul_of_nonneg_right ?_ (zpow_pos two_pos _).le
  split <;> linarith

/-- No number that is rounded to a double has its first bit above fifty-three places, or above
fifty-two if the double is subnormal. A number that begins higher lies above the interval. -/
theorem firstBit_lt {count : Nat} (fits : value.significand < 2 ^ count)
    (low : (2 : ℚ) ^ first ≤ number) (upper : number ≤ value.upper) :
    first < value.exponent + count := by
  have unit : (0 : ℚ) < 2 ^ (value.exponent - 2) := zpow_pos two_pos _
  have digits : (value.significand : ℚ) + 1 ≤ 2 ^ count := by exact_mod_cast fits
  have below : number < 2 ^ (value.exponent + count) := by
    rw [power_eq_quarters]
    exact upper.trans_lt (mul_lt_mul_of_pos_right (by linarith) unit)
  exact (zpow_lt_zpow_iff_right₀ one_lt_two).mp (low.trans_lt below)

/-- A number that is rounded to a normal double has its first bit fifty-one places above the
last one at the least. One place lower than that of the double is possible, for a number below a
power of two. -/
theorem le_firstBit (full : 2 ^ 52 ≤ value.significand) (high : number < 2 ^ (first + 1))
    (lower : value.lower ≤ number) : value.exponent + 51 ≤ first := by
  have unit : (0 : ℚ) < 2 ^ (value.exponent - 2) := zpow_pos two_pos _
  have digits : (2 : ℚ) ^ 52 ≤ value.significand := by exact_mod_cast full
  have above : (2 : ℚ) ^ (value.exponent + (51 : Nat)) < number := by
    rw [power_eq_quarters]
    exact (mul_lt_mul_of_pos_right (by linarith) unit).trans_le ((le_lower value).trans lower)
  have enough := (zpow_lt_zpow_iff_right₀ one_lt_two).mp (above.trans high)
  push_cast at enough
  omega

/-- Only a power of two has numbers in its interval that begin with a lower bit. Every other
double lies far enough above the power for its interval to do so as well. -/
theorem significand_of_lt_power (full : 2 ^ 52 ≤ value.significand)
    (lower : value.lower ≤ number) (small : number < 2 ^ (value.exponent + (52 : Nat))) :
    value.significand = 2 ^ 52 := by
  by_contra other
  have unit : (0 : ℚ) < 2 ^ (value.exponent - 2) := zpow_pos two_pos _
  have larger : (2 : ℚ) ^ 52 + 1 ≤ value.significand := by
    exact_mod_cast (by omega : 2 ^ 52 + 1 ≤ value.significand)
  have beyond : 4 * (2 : ℚ) ^ 52 * 2 ^ (value.exponent - 2) < number :=
    (mul_lt_mul_of_pos_right (by linarith) unit).trans_le ((le_lower value).trans lower)
  rw [power_eq_quarters] at small
  linarith

/-- Where a number is rounded to a double, its last place is that of the double, or the one
below if the double is a power of two and the number lies below it. The second case is that of a
carry, in which the number is rounded up to the power. -/
theorem lastPlace_of_roundsTo (regular : value.Regular) (low : (2 : ℚ) ^ first ≤ number)
    (high : number < 2 ^ (first + 1)) (lower : value.lower ≤ number)
    (upper : number ≤ value.upper) :
    lastPlace first = value.exponent ∨
      lastPlace first = value.exponent - 1 ∧ value.significand = 2 ^ 52 ∧
        value.closeBelow = true ∧ number < 2 ^ (value.exponent + 52) := by
  have least := regular.least
  by_cases subnormal : value.significand < 2 ^ 52
  · left
    have places := firstBit_lt subnormal low upper
    have bottom := regular.normal subnormal
    rw [lastPlace]
    omega
  have full : 2 ^ 52 ≤ value.significand := not_lt.mp subnormal
  have most := firstBit_lt regular.fits low upper
  have enough := le_firstBit full high lower
  by_cases top : first = value.exponent + 52
  · left
    rw [lastPlace]
    omega
  have next : first + 1 = value.exponent + (52 : Nat) := by
    push_cast at most ⊢
    omega
  rw [next] at high
  have power := significand_of_lt_power full lower high
  push_cast at next
  rcases eq_or_lt_of_le least with bottom | above
  · left
    rw [lastPlace]
    omega
  · refine .inr ⟨?_, power, regular.closeBelow.mpr ⟨power, above⟩, high⟩
    rw [lastPlace]
    omega

end Interval

/-- A double to which a number is rounded has the nearest digits. Digits are counted in the
place of the double, whatever place the number itself would have. -/
theorem nearest_of_roundsTo {number : ℚ} {value : Binary} (roundsTo : RoundsTo number value) :
    Nearest value.significand (number / 2 ^ value.exponent) := by
  have positive : (0 : ℚ) < 2 ^ value.exponent := zpow_pos two_pos _
  have lower : (value.significand - 1 / 2 : ℚ) * 2 ^ value.exponent ≤ value.lower := by
    refine le_trans (le_of_eq ?_) (le_lower value)
    rw [quarters]
    ring
  have upper : (value.significand + 1 / 2 : ℚ) * 2 ^ value.exponent = value.upper := by
    rw [quarters, Binary.upper]
    ring
  rw [RoundsTo] at roundsTo
  rw [Nearest, le_div_iff₀ positive, div_le_iff₀ positive, lt_div_iff₀ positive,
    div_lt_iff₀ positive, upper]
  split at roundsTo
  · rename_i even
    rw [if_pos even]
    exact ⟨lower.trans roundsTo.1, roundsTo.2⟩
  · rename_i odd
    rw [if_neg odd]
    exact ⟨lower.trans_lt roundsTo.1, roundsTo.2⟩

/-- A number of which a double has the nearest digits is rounded to it. Below a power of two the
digits are closer to each other. There the number has to lie above, or it must be compared at
the lower place. -/
theorem roundsTo_of_nearest {number : ℚ} {value : Binary}
    (nearest : Nearest value.significand (number / 2 ^ value.exponent))
    (above : value.closeBelow = true → value.toRat ≤ number) : RoundsTo number value := by
  have unit : (0 : ℚ) < 2 ^ (value.exponent - 2) := zpow_pos two_pos _
  have positive : (0 : ℚ) < 2 ^ value.exponent := zpow_pos two_pos _
  have lower : (value.significand - 1 / 2 : ℚ) * 2 ^ value.exponent =
      (4 * value.significand - 2) * 2 ^ (value.exponent - 2) := by
    rw [quarters]
    ring
  have upper : (value.significand + 1 / 2 : ℚ) * 2 ^ value.exponent = value.upper := by
    rw [quarters, Binary.upper]
    ring
  rw [Nearest, le_div_iff₀ positive, div_le_iff₀ positive, lt_div_iff₀ positive,
    div_lt_iff₀ positive, upper, lower] at nearest
  rw [RoundsTo]
  by_cases close : value.closeBelow = true
  · have most := above close
    rw [toRat_eq_quarters] at most
    have below : value.lower < number := by
      rw [Binary.lower, if_pos close]
      linarith
    split at nearest
    · rename_i even
      rw [if_pos even]
      exact ⟨below.le, nearest.2⟩
    · rename_i odd
      rw [if_neg odd]
      exact ⟨below, nearest.2⟩
  · rw [Binary.lower, if_neg close]
    exact nearest

/-- A number that lies below a power of two, but is rounded to it, has digits that carry. At the
place below, the power of two has twice as many digits, one more than fit. -/
theorem nearest_carry {number : ℚ} {value : Binary} (power : value.significand = 2 ^ 52)
    (close : value.closeBelow = true) (lower : value.lower ≤ number)
    (small : number < 2 ^ (value.exponent + 52)) :
    Nearest (2 ^ 53) (number / 2 ^ (value.exponent - 1)) := by
  have positive : (0 : ℚ) < 2 ^ (value.exponent - 1) := zpow_pos two_pos _
  have unit : (2 : ℚ) ^ (value.exponent - 1) = 2 * 2 ^ (value.exponent - 2) := by
    rw [show value.exponent - 1 = 1 + (value.exponent - 2) by ring, zpow_add₀ two_ne_zero,
      zpow_one]
  have top : (2 : ℚ) ^ (value.exponent + 52) = 2 ^ 53 * 2 ^ (value.exponent - 1) := by
    rw [show value.exponent + 52 = (53 : Nat) + (value.exponent - 1) by push_cast; ring,
      zpow_add₀ two_ne_zero, zpow_natCast]
  have bottom : value.lower = (2 ^ 53 - 1 / 2) * 2 ^ (value.exponent - 1) := by
    rw [Binary.lower, if_pos close, power, unit]
    push_cast
    ring
  rw [bottom] at lower
  rw [top] at small
  rw [Nearest, if_pos (by decide), le_div_iff₀ positive, div_le_iff₀ positive]
  push_cast
  constructor
  · exact lower
  · linarith

/-- A number that is rounded to a double is rounded to it by the arithmetic of doubles, if
enough of its bits are known. The sign is handed through. Nothing is claimed for numbers out of
range, which belong to no interval. -/
theorem roundWithAccuracy_of_roundsTo (sign : Sign) {whole : Nat} {exponent : Int}
    {accuracy : Accuracy} {number : ℚ}
    (represents : Represents (.ofMantissaAndAccuracy whole accuracy) number)
    (positive : 0 < whole) (enough : 2 ^ 52 ≤ whole ∨ exponent ≤ -1074) {value : Binary}
    (regular : value.Regular) (some : 0 < value.significand)
    (roundsTo : RoundsTo (number * 2 ^ exponent) value) :
    roundWithAccuracy Format.binary64 sign whole exponent accuracy =
      .finite sign value.significand value.exponent some := by
  obtain ⟨low, high⟩ := firstBit represents positive
  obtain ⟨mantissa, shifted, result⟩ := roundWithAccuracy_eq sign represents positive enough
  rw [result]
  have interval := roundsTo.within
  generalize number * 2 ^ exponent = number at low high shifted roundsTo interval
  generalize (whole.log2 : Int) + exponent = first at low high shifted
  rcases lastPlace_of_roundsTo regular low high interval.1 interval.2 with
    same | ⟨below, power, close, small⟩
  · rw [same] at shifted ⊢
    rw [shifted.roundedMantissa_eq (nearest_of_roundsTo roundsTo), assembled,
      dif_neg some.ne', if_pos regular.fits]
  · have nearest := nearest_carry power close interval.1 small
    rw [below] at shifted ⊢
    rw [shifted.roundedMantissa_eq nearest]
    simp only [assembled, power, sub_add_cancel]
    rfl

end WindowPlacement.Rounding
