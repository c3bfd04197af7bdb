import Mathlib.Algebra.Order.Field.Power
import Mathlib.Data.Rat.Cast.Order
import Mathlib.Tactic.Linarith
import Mathlib.Tactic.NormNum
import Mathlib.Tactic.Positivity
import Mathlib.Tactic.Ring
import WindowPlacement.Decimal.Shortest

/-!
# The shortest digits read back

A double stands for a rational number, and so does a decimal. Around each double there is an
interval of the numbers that are rounded to it. The search for the fewest digits works with
natural numbers only, which are these rational numbers up to a common factor. It always ends
with a decimal of the interval, and that one has seventeen digits at most.
-/

namespace WindowPlacement.Decimal

/-! ## Doubles and decimals as rational numbers -/

/-- The number that the magnitude of a double stands for. The sign is left out, as it is in the
magnitude. -/
def Binary.toRat (value : Binary) : ℚ := value.significand * 2 ^ value.exponent

/-- The number that a decimal stands for. Of several decimals for one number none is
preferred. -/
def Digits.toRat (decimal : Digits) : ℚ := decimal.significand * 10 ^ decimal.exponent

/-- The lower end of the interval that is rounded to a double. Below a power of two the doubles
are closer, so the interval is shorter there. -/
def Binary.lower (value : Binary) : ℚ :=
  (4 * value.significand - if value.closeBelow then 1 else 2) * 2 ^ (value.exponent - 2)

/-- The upper end of the interval that is rounded to a double. Above a double the next one is
always a full digit away. -/
def Binary.upper (value : Binary) : ℚ := (4 * value.significand + 2) * 2 ^ (value.exponent - 2)

/-- The double is the nearest one to a number. The ends of the interval belong to it exactly if
the last digit of the double is even. It compares numbers, and carries nothing out. -/
def RoundsTo (number : ℚ) (value : Binary) : Prop :=
  if value.significand % 2 = 0 then value.lower ≤ number ∧ number ≤ value.upper
  else value.lower < number ∧ number < value.upper

/-- A number is rounded to a double only between the ends of its interval. What happens at the
ends is forgotten. -/
theorem RoundsTo.within {number : ℚ} {value : Binary} (roundsTo : RoundsTo number value) :
    value.lower ≤ number ∧ number ≤ value.upper := by
  rw [RoundsTo] at roundsTo
  split at roundsTo
  · exact roundsTo
  · exact ⟨roundsTo.1.le, roundsTo.2.le⟩

/-- The ends of the intervals are counted in quarters of the last digit. The ends of the
intervals lie on them, also next to a power of two. -/
theorem quarters (exponent : Int) : (2 : ℚ) ^ exponent = 4 * 2 ^ (exponent - 2) := by
  rw [zpow_sub₀ two_ne_zero]
  norm_num
  ring

/-- A power with a natural exponent is one with an integer exponent, where the negative part of
the exponent is made up for. The search works with natural exponents only. -/
theorem pow_toNat {base : ℚ} (nonzero : base ≠ 0) (exponent : Int) :
    base ^ exponent.toNat = base ^ exponent * base ^ (-exponent).toNat := by
  rw [← zpow_natCast, ← zpow_natCast, ← zpow_add₀ nonzero]
  congr 1
  omega

/-- Up to a common factor, the scales are the powers themselves. Comparisons do not notice the
factor, since it is positive. -/
theorem scales_eq (exponent place : Int) : ∃ factor : ℚ, 0 < factor ∧
    ((scales exponent place).1 : ℚ) = factor * 2 ^ (exponent - 2) ∧
    ((scales exponent place).2 : ℚ) = factor * 10 ^ place := by
  have two := pow_toNat (two_ne_zero (α := ℚ)) (exponent - 2)
  have ten := pow_toNat (show (10 : ℚ) ≠ 0 by norm_num) place
  rw [neg_sub] at two
  refine ⟨2 ^ (2 - exponent).toNat * 10 ^ (-place).toNat, by positivity, ?_, ?_⟩
  · simp only [scales, Nat.pow_eq, Nat.cast_mul, Nat.cast_pow, Nat.cast_ofNat, two]
    ring
  · simp only [scales, Nat.pow_eq, Nat.cast_mul, Nat.cast_pow, Nat.cast_ofNat, ten]
    ring

/-! ## One grid -/

section Grid

variable {tie : Tie} {value : Binary} {place : Int} {decimal : Digits}

/-- Four times a double is that many quarters of its last digit. In these quarters both ends of
its interval are whole as well. -/
theorem toRat_eq_quarters (value : Binary) :
    value.toRat = 4 * value.significand * 2 ^ (value.exponent - 2) := by
  rw [Binary.toRat, quarters]
  ring

/-- Whether so many steps of a grid read back as a double, as the search decides it. Both sides
of each comparison are natural numbers, so that nothing is rounded. -/
def isInside (value : Binary) (place : Int) (count : Nat) : Bool :=
  let lowest := (4 * value.significand - if value.closeBelow then 1 else 2) *
    (scales value.exponent place).1
  let candidate := count * (scales value.exponent place).2
  let highest := (4 * value.significand + 2) * (scales value.exponent place).1
  if value.significand % 2 = 0 then lowest ≤ candidate && candidate ≤ highest
  else lowest < candidate && candidate < highest

/-- The test on natural numbers compares the numbers that they stand for. The double must not be
zero, which has digits of its own and is not searched for. -/
theorem isInside_iff (positive : 0 < value.significand) (place : Int) (count : Nat) :
    isInside value place count = true ↔ RoundsTo (count * 10 ^ place) value := by
  obtain ⟨factor, factorPositive, binary, decimal⟩ := scales_eq value.exponent place
  have width : (if value.closeBelow then 1 else 2) ≤ 4 * value.significand := by
    split <;> omega
  have low : (((4 * value.significand - if value.closeBelow then 1 else 2) *
      (scales value.exponent place).1 : Nat) : ℚ) = factor * value.lower := by
    rw [Nat.cast_mul, Nat.cast_sub width, binary, Binary.lower]
    push_cast
    ring
  have high : (((4 * value.significand + 2) * (scales value.exponent place).1 : Nat) : ℚ) =
      factor * value.upper := by
    rw [Nat.cast_mul, binary, Binary.upper]
    push_cast
    ring
  have middle : ((count * (scales value.exponent place).2 : Nat) : ℚ) =
      factor * (count * 10 ^ place) := by
    rw [Nat.cast_mul, decimal]
    ring
  rw [RoundsTo, isInside]
  split
  · simp only [Bool.and_eq_true, decide_eq_true_eq, ← Nat.cast_le (α := ℚ), low, high, middle,
      mul_le_mul_iff_right₀ factorPositive]
  · simp only [Bool.and_eq_true, decide_eq_true_eq, ← Nat.cast_lt (α := ℚ), low, high, middle,
      mul_lt_mul_iff_right₀ factorPositive]

/-- The last step of a grid that is not above a double. It may be zero, on a grid that is
coarser than the double. -/
def stepBelow (value : Binary) (place : Int) : Nat :=
  4 * value.significand * (scales value.exponent place).1 / (scales value.exponent place).2

/-- The two neighbours on a grid enclose a double. Any other step of the grid is further away
than one of them. -/
theorem neighbours (value : Binary) (place : Int) :
    (stepBelow value place : ℚ) * 10 ^ place ≤ value.toRat ∧
      value.toRat < (stepBelow value place + 1 : Nat) * 10 ^ place := by
  obtain ⟨factor, factorPositive, binary, decimal⟩ := scales_eq value.exponent place
  have target : ((4 * value.significand * (scales value.exponent place).1 : Nat) : ℚ) =
      factor * value.toRat := by
    rw [toRat_eq_quarters, Nat.cast_mul, binary]
    push_cast
    ring
  have scale (count : Nat) : ((count * (scales value.exponent place).2 : Nat) : ℚ) =
      factor * (count * 10 ^ place) := by
    rw [Nat.cast_mul, decimal]
    ring
  have positive : 0 < (scales value.exponent place).2 :=
    Nat.mul_pos (Nat.pow_pos (by decide)) (Nat.pow_pos (by decide))
  constructor
  · rw [← mul_le_mul_iff_right₀ factorPositive, ← scale, ← target, Nat.cast_le]
    exact Nat.div_mul_le_self _ _
  · rw [← mul_lt_mul_iff_right₀ factorPositive, ← scale, ← target, Nat.cast_lt]
    exact Nat.lt_mul_of_div_lt (Nat.lt_succ_self _) positive

/-- What the search finds on a grid: one of the two neighbours, if it reads back. The step of
zero is not taken, since it has no digits. -/
theorem onGrid_cases (tie : Tie) (positive : 0 < value.significand) (place : Int) :
    (stepBelow value place = 0 ∨ ¬ RoundsTo (stepBelow value place * 10 ^ place) value ∧
        ¬ RoundsTo ((stepBelow value place + 1 : Nat) * 10 ^ place) value) ∧
      onGrid tie value place = none ∨
    ∃ count, (count = stepBelow value place ∨ count = stepBelow value place + 1) ∧ 0 < count ∧
      RoundsTo (count * 10 ^ place) value ∧ onGrid tie value place = some ⟨count, place⟩ := by
  obtain ⟨takeBelow, search⟩ : ∃ takeBelow : Bool, onGrid tie value place =
      if stepBelow value place = 0 then none
      else if isInside value place (stepBelow value place) then
        if isInside value place (stepBelow value place + 1) then
          some ⟨if takeBelow then stepBelow value place else stepBelow value place + 1, place⟩
        else some ⟨stepBelow value place, place⟩
      else if isInside value place (stepBelow value place + 1) then
        some ⟨stepBelow value place + 1, place⟩
      else none := ⟨_, rfl⟩
  by_cases coarse : stepBelow value place = 0
  · rw [if_pos coarse] at search
    exact .inl ⟨.inl coarse, search⟩
  rw [if_neg coarse] at search
  have some : 0 < stepBelow value place := Nat.pos_of_ne_zero coarse
  have inside (count : Nat) := isInside_iff positive place count
  by_cases below : isInside value place (stepBelow value place) = true
  · rw [if_pos below] at search
    by_cases above : isInside value place (stepBelow value place + 1) = true
    · rw [if_pos above] at search
      cases takeBelow with
      | true => exact .inr ⟨_, .inl rfl, some, (inside _).mp below, search⟩
      | false => exact .inr ⟨_, .inr rfl, Nat.succ_pos _, (inside _).mp above, search⟩
    · rw [if_neg above] at search
      exact .inr ⟨_, .inl rfl, some, (inside _).mp below, search⟩
  · rw [if_neg below] at search
    by_cases above : isInside value place (stepBelow value place + 1) = true
    · rw [if_pos above] at search
      exact .inr ⟨_, .inr rfl, Nat.succ_pos _, (inside _).mp above, search⟩
    · rw [if_neg above] at search
      exact .inl ⟨.inr ⟨(inside _).not.mp below, (inside _).not.mp above⟩, search⟩

/-- A decimal that a grid gives reads back as the double, and is at most one place above it. The
bound serves to count the digits. -/
theorem onGrid_eq_some (positive : 0 < value.significand)
    (found : onGrid tie value place = some decimal) :
    decimal.exponent = place ∧ 0 < decimal.significand ∧ RoundsTo decimal.toRat value ∧
      decimal.toRat ≤ value.toRat + 10 ^ place := by
  have unit : (0 : ℚ) < 10 ^ place := zpow_pos (by norm_num) place
  have atMost := (neighbours value place).1
  obtain ⟨-, none⟩ | ⟨count, near, some, roundsTo, same⟩ := onGrid_cases tie positive place
  · rw [none] at found
    cases found
  · rw [same] at found
    cases found
    refine ⟨rfl, some, roundsTo, ?_⟩
    rw [Digits.toRat]
    obtain rfl | rfl := near
    · linarith
    · push_cast
      linarith

/-- A grid gives no decimal only if it is coarser than the double, or than the interval that is
rounded to the double. An interval wider than the grid would contain a step of it. -/
theorem onGrid_eq_none (positive : 0 < value.significand)
    (none : onGrid tie value place = none) :
    value.toRat < 10 ^ place ∨ value.upper - value.lower ≤ 10 ^ place := by
  obtain ⟨atMost, above⟩ := neighbours value place
  obtain ⟨coarse | ⟨outsideBelow, outsideAbove⟩, -⟩ | ⟨count, -, -, -, some⟩ :=
    onGrid_cases tie positive place
  · rw [coarse] at above
    push_cast at above
    exact .inl (by linarith)
  · right
    have quarter : (0 : ℚ) < 2 ^ (value.exponent - 2) := zpow_pos (by norm_num) _
    have lowerHalf : value.lower < value.toRat := by
      rw [toRat_eq_quarters, Binary.lower, mul_lt_mul_iff_left₀ quarter]
      split <;> linarith
    have upperHalf : value.toRat < value.upper := by
      rw [toRat_eq_quarters, Binary.upper, mul_lt_mul_iff_left₀ quarter]
      linarith
    have low : (stepBelow value place : ℚ) * 10 ^ place ≤ value.lower := by
      by_contra inside
      apply outsideBelow
      rw [RoundsTo]
      split <;> constructor <;> linarith
    have high : value.upper ≤ ((stepBelow value place + 1 : Nat) : ℚ) * 10 ^ place := by
      by_contra inside
      apply outsideAbove
      rw [RoundsTo]
      split <;> constructor <;> linarith
    push_cast at high
    linarith
  · rw [none] at some
    cases some

end Grid

/-! ## The search -/

/-- Where a rational number approximates the logarithm of two in base ten from above, its
multiples lead from powers of two to powers of ten. The ratio is a parameter. One is used for
the numbers in range, and it is checked by counting. -/
theorem powers_between {two ten : Nat} (low : 2 ^ two ≤ 10 ^ ten) (high : 10 ^ ten ≤ 2 ^ (two + 1))
    (some : 0 < two) (bits place : Int) (most : bits ≤ two) (least : -two ≤ bits)
    (below : place * two ≤ bits * ten) (above : bits * ten ≤ (place + 1) * two) :
    (10 : ℚ) ^ place ≤ 2 ^ (bits + 1) ∧ (2 : ℚ) ^ (bits - 1) ≤ 10 ^ (place + 1) := by
  have lowQ : (2 : ℚ) ^ two ≤ 10 ^ ten := by exact_mod_cast low
  have highQ : (10 : ℚ) ^ ten ≤ 2 ^ (two + 1) := by exact_mod_cast high
  have enclosed : (2 : ℚ) ^ ((bits - 1) * two) ≤ 10 ^ (bits * ten) ∧
      (10 : ℚ) ^ (bits * ten) ≤ 2 ^ ((bits + 1) * two) := by
    have power (base : ℚ) (inner : Nat) (outer : Nat) :
        (base ^ inner) ^ outer = base ^ ((outer : Int) * inner) := by
      rw [← pow_mul, ← zpow_natCast, Nat.mul_comm, Nat.cast_mul]
    obtain ⟨count, rfl | rfl⟩ := bits.eq_nat_or_neg
    · have first := pow_le_pow_left₀ (by positivity) lowQ count
      have second := pow_le_pow_left₀ (by positivity) highQ count
      rw [power, power] at first second
      refine ⟨le_trans (zpow_le_zpow_right₀ one_le_two ?_) first,
        le_trans second (zpow_le_zpow_right₀ one_le_two ?_)⟩ <;> push_cast <;> linarith
    · have first := inv_anti₀ (by positivity) (pow_le_pow_left₀ (by positivity) lowQ count)
      have second := inv_anti₀ (by positivity) (pow_le_pow_left₀ (by positivity) highQ count)
      rw [power, power, ← zpow_neg, ← zpow_neg, ← neg_mul, ← neg_mul] at first second
      refine ⟨le_trans (zpow_le_zpow_right₀ one_le_two ?_) second,
        le_trans first (zpow_le_zpow_right₀ one_le_two ?_)⟩ <;> push_cast <;> linarith
  constructor
  · rw [← pow_le_pow_iff_left₀ (by positivity) (by positivity) some.ne', ← zpow_natCast,
      ← zpow_natCast, ← zpow_mul, ← zpow_mul]
    exact (zpow_le_zpow_right₀ (by norm_num) below).trans enclosed.2
  · rw [← pow_le_pow_iff_left₀ (by positivity) (by positivity) some.ne', ← zpow_natCast,
      ← zpow_natCast, ← zpow_mul, ← zpow_mul]
    exact enclosed.1.trans (zpow_le_zpow_right₀ (by norm_num) above)

/-- What a binary that is taken from the bits of a double keeps to. Zero is regular, with the
least exponent. -/
structure Binary.Regular (value : Binary) : Prop where
  fits : value.significand < 2 ^ 53
  least : -1074 ≤ value.exponent
  most : value.exponent ≤ 971
  normal : value.significand < 2 ^ 52 → value.exponent = -1074
  closeBelow : value.closeBelow = true ↔ value.significand = 2 ^ 52 ∧ -1074 < value.exponent

/-- The bits of a finite double give a regular binary. Nothing is assumed of the double but that
it is finite. -/
theorem regular_of_magnitude {value : Float} {binary : Binary}
    (finite : magnitude value = .finite binary) : binary.Regular := by
  have fraction : value.toBits.toNat % fractionCount < fractionCount :=
    Nat.mod_lt _ (by decide)
  have scale : value.toBits.toNat / fractionCount % scaleCount < scaleCount :=
    Nat.mod_lt _ (by decide)
  simp only [magnitude] at finite
  generalize value.toBits.toNat % fractionCount = fraction at fraction finite
  generalize value.toBits.toNat / fractionCount % scaleCount = scale at scale finite
  have fractions : fractionCount = 2 ^ 52 := rfl
  have scales : scaleCount = 2048 := rfl
  split at finite
  · split at finite <;> cases finite
  · split at finite
    · cases finite
      exact ⟨by simp only; omega, by simp, by simp, fun _ => rfl, by simp⟩
    · cases finite
      refine ⟨by simp only; omega, by simp only; omega, by simp only; omega, ?_, ?_⟩
      · intro small
        simp only at small
        omega
      · simp only [Bool.and_eq_true, decide_eq_true_eq]
        omega

/-- The place of the first bit of a double. It is the whole part of the logarithm of the double
in base two. -/
def topBit (value : Binary) : Int := (value.significand.log2 : Int) + value.exponent

/-- A double lies between the power of two of its first bit and the next one. Zero has no first
bit. -/
theorem topBit_spec {value : Binary} (positive : 0 < value.significand) :
    (2 : ℚ) ^ topBit value ≤ value.toRat ∧ value.toRat < 2 ^ (topBit value + 1) := by
  have scale : (0 : ℚ) < 2 ^ value.exponent := zpow_pos (by norm_num) _
  have low : ((2 ^ value.significand.log2 : Nat) : ℚ) ≤ value.significand := by
    exact_mod_cast Nat.log2_self_le positive.ne'
  have high : (value.significand : ℚ) < ((2 ^ (value.significand.log2 + 1) : Nat) : ℚ) := by
    exact_mod_cast Nat.lt_log2_self
  push_cast at low high
  constructor
  · rw [topBit, Binary.toRat, zpow_add₀ two_ne_zero, zpow_natCast,
      mul_le_mul_iff_left₀ scale]
    exact low
  · rw [topBit, Binary.toRat, add_right_comm, zpow_add₀ two_ne_zero, ← Nat.cast_succ, zpow_natCast,
      mul_lt_mul_iff_left₀ scale]
    exact high

/-- The grid from which the search starts lies above the double, and seventeen places below its
first digit there are enough of them. The place is estimated from the first bit, which is off by
one at the most. -/
theorem startPlace_spec {value : Binary} (positive : 0 < value.significand)
    (regular : value.Regular) :
    value.toRat < 10 ^ startPlace value ∧
      (10 : ℚ) ^ (startPlace value - 19) * 10 ^ 17 ≤ 2 * value.toRat ∧
      (10 : ℚ) ^ (startPlace value - 19) * 10 ^ 17 ≤ 2 ^ (value.exponent + 53) := by
  obtain ⟨atLeast, below⟩ := topBit_spec positive
  have few : value.significand.log2 ≤ 52 :=
    Nat.lt_succ_iff.mp ((Nat.log2_lt positive.ne').mpr regular.fits)
  have logarithm : (2 : Nat) ^ 100000 ≤ 10 ^ 30103 ∧ (10 : Nat) ^ 30103 ≤ 2 ^ (100000 + 1) := by
    decide +kernel
  have start : startPlace value = topBit value * 30103 / 100000 + 2 := rfl
  have top : topBit value = (value.significand.log2 : Int) + value.exponent := rfl
  have least := regular.least
  have most := regular.most
  obtain ⟨tenBelow, twoBelow⟩ := powers_between logarithm.1 logarithm.2 (by decide)
    (topBit value) (topBit value * 30103 / 100000) (by omega) (by omega) (by omega) (by omega)
  generalize topBit value * 30103 / 100000 = place at start tenBelow twoBelow
  have ten : (10 : ℚ) ≠ 0 := by norm_num
  have unit : (10 : ℚ) ^ (startPlace value - 19) * 10 ^ 17 = 10 ^ place := by
    rw [start, ← zpow_natCast, ← zpow_add₀ ten]
    congr 1
    omega
  rw [unit]
  refine ⟨?_, ?_, ?_⟩
  · have positivePlace : (0 : ℚ) < 10 ^ (place + 1) := zpow_pos (by norm_num) _
    calc
      value.toRat < 2 ^ (topBit value + 1) := below
      _ = 4 * 2 ^ (topBit value - 1) := by
          rw [show topBit value + 1 = 2 + (topBit value - 1) by ring, zpow_add₀ two_ne_zero]
          norm_num
      _ ≤ 4 * 10 ^ (place + 1) := by linarith
      _ ≤ 10 * 10 ^ (place + 1) := by linarith
      _ = 10 ^ startPlace value := by
          rw [start, show place + 2 = place + 1 + 1 by ring, zpow_add_one₀ ten (place + 1),
            mul_comm]
  · calc
      (10 : ℚ) ^ place ≤ 2 ^ (topBit value + 1) := tenBelow
      _ = 2 * 2 ^ topBit value := by rw [zpow_add_one₀ two_ne_zero, mul_comm]
      _ ≤ 2 * value.toRat := by linarith
  · exact tenBelow.trans (zpow_le_zpow_right₀ one_le_two (by omega))

/-- The interval that is rounded to a double is at least three quarters of its last digit wide,
and a whole digit unless the double is a power of two. So the interval is wide enough for a step
of some grid of seventeen digits. -/
theorem interval_width {value : Binary} (regular : value.Regular) :
    3 * (2 : ℚ) ^ (value.exponent - 2) ≤ value.upper - value.lower ∧
      value.toRat ≤ 2 ^ 53 * (value.upper - value.lower) := by
  have quarter : (0 : ℚ) < 2 ^ (value.exponent - 2) := zpow_pos (by norm_num) _
  have fits : (value.significand : ℚ) ≤ 2 ^ 53 := by exact_mod_cast regular.fits.le
  rw [toRat_eq_quarters, Binary.upper, Binary.lower]
  generalize (2 : ℚ) ^ (value.exponent - 2) = unit at quarter
  by_cases close : value.closeBelow = true
  · have power : (value.significand : ℚ) = 2 ^ 52 := by
      exact_mod_cast (regular.closeBelow.mp close).1
    rw [if_pos close, power]
    constructor <;> linarith
  · rw [if_neg close]
    have scaled := mul_le_mul_of_nonneg_right fits quarter.le
    constructor <;> linarith

/-- A search along the natural numbers ends at the first one for which there is something. The
proof follows the list, from its end. -/
theorem findSome?_range_eq {α : Type} {count : Nat} {search : Nat → Option α} {found : α}
    (ended : (List.range count).findSome? search = some found) :
    ∃ step < count, search step = some found ∧ ∀ earlier < step, search earlier = none := by
  induction count with
  | zero => cases ended
  | succ count inductionHypothesis =>
    rw [List.range_succ, List.findSome?_append] at ended
    cases before : (List.range count).findSome? search with
    | some other =>
      rw [before, Option.some_or] at ended
      obtain ⟨step, inRange, rest⟩ := inductionHypothesis (before.trans ended)
      exact ⟨step, Nat.lt_succ_of_lt inRange, rest⟩
    | none =>
      rw [before, Option.none_or, List.findSome?_singleton] at ended
      refine ⟨count, Nat.lt_succ_self count, ended, fun earlier inRange => ?_⟩
      exact List.findSome?_eq_none_iff.mp before earlier (List.mem_range.mpr inRange)

/-- The search ends with a decimal that reads back as the double and has seventeen digits at
most.

Proof: the finest grid that is searched has such a decimal. The grid before the one on which the
search ends has none, so it is coarser than the interval, in which the first one found lies. -/
theorem shortest_spec {value : Binary} (tie : Tie) (positive : 0 < value.significand)
    (regular : value.Regular) :
    0 < (shortest tie value).significand ∧ (shortest tie value).significand < 10 ^ 17 ∧
      RoundsTo (shortest tie value).toRat value := by
  obtain ⟨startAbove, fine, narrow⟩ := startPlace_spec positive regular
  obtain ⟨wide, digits⟩ := interval_width regular
  have unit (place : Int) : (0 : ℚ) < 10 ^ place := zpow_pos (by norm_num) place
  cases search : (List.range 20).findSome? fun (step : Nat) =>
      onGrid tie value (startPlace value - step) with
  | none =>
    have last := List.findSome?_eq_none_iff.mp search 19 (by decide)
    have small := unit (startPlace value - 19)
    have quarter : (0 : ℚ) < 2 ^ (value.exponent - 2) := zpow_pos (by norm_num) _
    have bits : (2 : ℚ) ^ (value.exponent + 53) = 2 ^ 55 * 2 ^ (value.exponent - 2) := by
      rw [show value.exponent + 53 = (55 : Nat) + (value.exponent - 2) by omega,
        zpow_add₀ two_ne_zero, zpow_natCast]
    rw [bits] at narrow
    rcases onGrid_eq_none positive last with coarse | coarse <;> push_cast at coarse <;> linarith
  | some decimal =>
    obtain ⟨step, -, found, before⟩ := findSome?_range_eq search
    obtain ⟨exponent, some, roundsTo, near⟩ := onGrid_eq_some positive found
    have same : shortest tie value = decimal := by rw [shortest, search, Option.getD_some]
    rw [same]
    refine ⟨some, ?_, roundsTo⟩
    have small := unit decimal.exponent
    have counted : decimal.toRat < 10 ^ 17 * 10 ^ decimal.exponent := by
      cases step with
      | zero =>
        have start : decimal.exponent = startPlace value := by
          rw [exponent]
          omega
        rw [start] at small ⊢
        rw [← exponent, start] at near
        linarith
      | succ step =>
        have coarser : (10 : ℚ) ^ (startPlace value - step) = 10 * 10 ^ decimal.exponent := by
          rw [exponent, show startPlace value - step = startPlace value - (step + 1 : Nat) + 1 by
            omega, zpow_add_one₀ (by norm_num), mul_comm]
        rw [← exponent] at near
        rcases onGrid_eq_none positive (before step (Nat.lt_succ_self step)) with
          coarse | coarse <;> rw [coarser] at coarse <;> linarith
    rw [Digits.toRat, mul_lt_mul_iff_left₀ small] at counted
    exact_mod_cast counted

end WindowPlacement.Decimal
