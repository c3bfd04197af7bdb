import Mathlib
import WindowPlacement.Proofs.Decimal.Shortest

/-!
# Doubles and their bits

The sign, the scale and the fraction of a finite double are read off its bits in two ways: as
the magnitude from which its text is made, and as the parts with which arithmetic works. Both
agree, and the sign and the magnitude determine the double.
-/

namespace WindowPlacement.Rounding

open Float.Model Float.Model.UnpackedFloat Decimal

/-- The bits of a sign, a scale and a fraction, counted together. The sign comes first, then
eleven bits for the scale and fifty-two for the fraction. -/
theorem toNat_packComponents (sign : Sign) (scale : BitVec 11) (fraction : BitVec 52) :
    (packComponents Format.binary64 sign scale fraction).toNat =
      (sign.toBitVec.toNat * 2 ^ 11 + scale.toNat) * 2 ^ 52 + fraction.toNat := by
  have outer := Nat.shiftLeft_add_eq_or_of_lt fraction.isLt (sign.toBitVec ++ scale).toNat
  have inner := Nat.shiftLeft_add_eq_or_of_lt scale.isLt sign.toBitVec.toNat
  rw [packComponents, BitVec.toNat_append, ← outer, BitVec.toNat_append, ← inner,
    Nat.shiftLeft_eq, Nat.shiftLeft_eq]

/-- The sign of a double. Zeros have one as well. -/
def signOf (value : Float) : Sign := if isNegative value then .negative else .positive

section Fields

variable {value : Float}

/-- The fields of a double are counted out of its bits. They are found by dividing, as the
search for digits does it, and by taking bits, as arithmetic does it. -/
theorem toNat_fields (value : Float) :
    (@unpackMantissa Format.binary64 value.toModel.toBits.toBitVec).toNat =
        value.toBits.toNat % 2 ^ 52 ∧
      (@unpackExponent Format.binary64 value.toModel.toBits.toBitVec).toNat =
        value.toBits.toNat / 2 ^ 52 % 2 ^ 11 ∧
      (@unpackSign Format.binary64 value.toModel.toBits.toBitVec).toNat =
        value.toBits.toNat / 2 ^ 63 := by
  have size := value.toBits.toNat_lt
  refine ⟨?_, ?_, ?_⟩
  · rw [unpackMantissa, BitVec.toNat_cast, BitVec.extractLsb_toNat, Nat.shiftRight_zero]
    rfl
  · rw [unpackExponent, BitVec.toNat_cast, BitVec.extractLsb_toNat, Nat.shiftRight_eq_div_pow]
    rfl
  · have bits : value.toModel.toBits.toBitVec.toNat = value.toBits.toNat := rfl
    rw [unpackSign, BitVec.toNat_cast, BitVec.extractLsb_toNat, Nat.shiftRight_eq_div_pow, bits]
    simp only
    omega

/-- The sign of a double is that of its first bit. It is set for negative doubles and for the
negative zero. -/
theorem ofBitVec_unpackSign (value : Float) :
    Sign.ofBitVec (@unpackSign Format.binary64 value.toModel.toBits.toBitVec) = signOf value := by
  have count : UInt64.size / 2 = 2 ^ 63 := rfl
  have size := value.toBits.toNat_lt
  have bit : @unpackSign Format.binary64 value.toModel.toBits.toBitVec = 0#1 ↔
      ¬ 2 ^ 63 ≤ value.toBits.toNat := by
    rw [← BitVec.toNat_inj, (toNat_fields value).2.2, BitVec.toNat_ofNat]
    omega
  rw [Sign.ofBitVec, signOf, isNegative, count]
  by_cases negative : 2 ^ 63 ≤ value.toBits.toNat
  · rw [if_neg (bit.not.mpr (not_not.mpr negative)), if_pos (decide_eq_true negative)]
  · rw [if_pos (bit.mpr negative), if_neg (by simpa using negative)]

/-- The greatest scale is the one of infinity. With this scale no double is finite. -/
theorem scale_eq_greatest (scale : BitVec 11) : scale = -1#11 ↔ scale.toNat + 1 = 2 ^ 11 := by
  rw [← BitVec.toNat_inj, show (-1#11).toNat = 2 ^ 11 - 1 from rfl]
  omega

/-- The least scale is the one of zero. Subnormal doubles share it. -/
theorem scale_eq_least (scale : BitVec 11) : scale = 0#11 ↔ scale.toNat = 0 := by
  rw [← BitVec.toNat_inj]
  rfl

/-- A finite double has a magnitude. The others are infinite or no numbers, and have none. -/
theorem exists_magnitude (finite : value.isFinite = true) :
    ∃ binary, magnitude value = .finite binary := by
  have fractions : fractionCount = 2 ^ 52 := rfl
  have scales : scaleCount = 2 ^ 11 := rfl
  by_cases greatest : value.toBits.toNat / 2 ^ 52 % 2 ^ 11 + 1 = 2 ^ 11
  · rw [← (toNat_fields value).2.1] at greatest
    have unpacked : value.toModel.unpack.isFinite = false := by
      rw [Float.Model.unpack, UnpackedFloat.unpack]
      simp only [(scale_eq_greatest _).mpr greatest, if_true]
      split <;> rfl
    rw [Float.isFinite, Float.Model.isFinite, unpacked] at finite
    cases finite
  · simp only [magnitude, fractions, scales, if_neg greatest]
    split <;> exact ⟨_, rfl⟩

/-- A double of which the magnitude is not zero unpacks to that magnitude. The place of the last
digit is counted alike in both, and the hidden first bit is there. -/
theorem unpack_of_magnitude {binary : Binary} (finite : magnitude value = .finite binary)
    (some : 0 < binary.significand) :
    value.toModel.unpack = .finite (signOf value) binary.significand binary.exponent some := by
  obtain ⟨fraction, scale, -⟩ := toNat_fields value
  have fractions : fractionCount = 2 ^ 52 := rfl
  have scales : scaleCount = 2 ^ 11 := rfl
  have bias : (Format.binary64.exponentBias : Int) + (52 : Nat) = 1075 := rfl
  simp only [magnitude, fractions, scales, ← fraction, ← scale] at finite
  rw [Float.Model.unpack, UnpackedFloat.unpack]
  simp only [ofBitVec_unpackSign, bias]
  split at finite
  · split at finite <;> cases finite
  · rename_i bounded
    rw [if_neg ((scale_eq_greatest _).not.mpr bounded)]
    split at finite
    · rename_i bottom
      cases finite
      have nonzero : @unpackMantissa Format.binary64 value.toModel.toBits.toBitVec ≠ 0#52 := by
        intro zero
        rw [zero] at some
        cases some
      rw [if_pos ((scale_eq_least _).mpr bottom), dif_neg nonzero, bottom]
      rfl
    · rename_i normal
      cases finite
      rw [if_neg ((scale_eq_least _).not.mpr normal)]
      have implicit : (1#1 ++ @unpackMantissa Format.binary64 value.toModel.toBits.toBitVec).toNat =
          2 ^ 52 + (@unpackMantissa Format.binary64 value.toModel.toBits.toBitVec).toNat := by
        rw [BitVec.toNat_append, ← Nat.shiftLeft_add_eq_or_of_lt
          (@unpackMantissa Format.binary64 value.toModel.toBits.toBitVec).isLt]
        rfl
      simp only [implicit]

end Fields

/-- The bits of a finite double, counted: those of its sign, and behind them the scale and the
fraction, which the magnitude determines together. A normal magnitude has its first bit counted
into the scale. -/
def bitsOf (negative : Bool) (binary : Binary) : Nat :=
  (if negative then 2 ^ 63 else 0) + (binary.exponent + 1074).toNat * 2 ^ 52 + binary.significand

/-- The sign and the magnitude of a finite double determine its bits. So no two finite doubles
have the same sign and the same magnitude. -/
theorem toBits_of_magnitude {value : Float} {binary : Binary}
    (finite : magnitude value = .finite binary) :
    value.toBits.toNat = bitsOf (isNegative value) binary := by
  have size := value.toBits.toNat_lt
  have fractions : fractionCount = 2 ^ 52 := rfl
  have scales : scaleCount = 2 ^ 11 := rfl
  have sign : isNegative value = decide (2 ^ 63 ≤ value.toBits.toNat) := rfl
  rw [sign, bitsOf]
  simp only [magnitude, fractions, scales] at finite
  simp only [decide_eq_true_eq]
  split at finite
  · split at finite <;> cases finite
  · split at finite <;> cases finite <;> simp only <;> split <;> omega

/-- A double with such bits has that sign and that magnitude. The magnitude has to be regular,
for otherwise the parts would run into each other. -/
theorem magnitude_of_toBits {value : Float} {negative : Bool} {binary : Binary}
    (regular : binary.Regular) (bits : value.toBits.toNat = bitsOf negative binary) :
    magnitude value = .finite binary ∧ isNegative value = negative := by
  obtain ⟨significand, exponent, closeBelow⟩ := binary
  obtain ⟨fits, least, most, normal, close⟩ := regular
  simp only at fits least most normal close
  have sign : isNegative value = decide (2 ^ 63 ≤ value.toBits.toNat) := rfl
  rw [bitsOf] at bits
  simp only at bits
  have size : (exponent + 1074).toNat ≤ 2045 := by omega
  constructor
  · have fractions : fractionCount = 2 ^ 52 := rfl
    have scales : scaleCount = 2 ^ 11 := rfl
    have parts : value.toBits.toNat % 2 ^ 52 = significand % 2 ^ 52 ∧
        value.toBits.toNat / 2 ^ 52 % 2 ^ 11 =
          (exponent + 1074).toNat + significand / 2 ^ 52 := by
      rw [bits]
      cases negative with
      | true =>
        rw [if_pos rfl]
        omega
      | false =>
        rw [if_neg Bool.false_ne_true]
        omega
    simp only [magnitude, fractions, scales, parts]
    rw [if_neg (by omega)]
    by_cases subnormal : significand < 2 ^ 52
    · have bottom := normal subnormal
      have far : closeBelow = false := by
        rw [← Bool.not_eq_true, close]
        omega
      rw [if_pos (by omega), far, bottom, Nat.mod_eq_of_lt subnormal]
    · have one : significand / 2 ^ 52 = 1 := by omega
      have rest : 2 ^ 52 + significand % 2 ^ 52 = significand := by omega
      have place : (((exponent + 1074).toNat + 1 : Nat) : Int) - 1075 = exponent := by omega
      have same : (decide (significand % 2 ^ 52 = 0) &&
          decide (1 < (exponent + 1074).toNat + 1)) = closeBelow := by
        rw [Bool.eq_iff_iff, Bool.and_eq_true, decide_eq_true_eq, decide_eq_true_eq, close]
        omega
      rw [one, if_neg (by omega), rest, place, same]
  · rw [sign, bits]
    cases negative with
    | true => exact decide_eq_true (by rw [if_pos rfl]; omega)
    | false => exact decide_eq_false (by rw [if_neg Bool.false_ne_true]; omega)

/-- Finite doubles with the same sign and the same magnitude are the same. Zeros are included,
and are told apart by their sign. -/
theorem eq_of_magnitude {first second : Float} {binary : Binary}
    (one : magnitude first = .finite binary) (other : magnitude second = .finite binary)
    (sign : isNegative first = isNegative second) : first = second := by
  rw [← Float.toBits_inj, ← UInt64.toNat_inj, toBits_of_magnitude one,
    toBits_of_magnitude other, sign]

/-- A regular magnitude is that of the double into which it is packed. Packing and unpacking
lose nothing of a magnitude that is not zero. -/
theorem magnitude_pack (negative : Bool) {binary : Binary} (regular : binary.Regular)
    (some : 0 < binary.significand) :
    magnitude (.ofModel (.pack (.finite (if negative then .negative else .positive)
        binary.significand binary.exponent some))) = .finite binary ∧
      isNegative (.ofModel (.pack (.finite (if negative then .negative else .positive)
        binary.significand binary.exponent some))) = negative := by
  refine magnitude_of_toBits regular ?_
  obtain ⟨significand, exponent, closeBelow⟩ := binary
  obtain ⟨fits, least, most, normal, -⟩ := regular
  simp only at fits least most normal some
  have biased : exponent + (Format.binary64.exponentBias : Int) + (52 : Nat) =
      exponent + 1075 := by
    rw [add_assoc]
    rfl
  change (UnpackedFloat.pack Format.binary64 (.finite (if negative then .negative else .positive)
    significand exponent some)).toNat =
      (if negative then 2 ^ 63 else 0) + (exponent + 1074).toNat * 2 ^ 52 + significand
  have sign : (Sign.toBitVec (if negative then .negative else .positive)).toNat =
      if negative then 1 else 0 := by
    cases negative <;> rfl
  rw [UnpackedFloat.pack]
  simp only [biased]
  rw [if_neg (by omega)]
  have width : Format.binary64.mantissaBits = 53 := rfl
  by_cases subnormal : significand < 2 ^ 52
  · have few : significand.log2 < 52 := (Nat.log2_lt some.ne').mpr subnormal
    have bottom := normal subnormal
    rw [if_neg (by omega), toNat_packComponents, sign, BitVec.toNat_ofNat, BitVec.toNat_ofNat,
      Nat.mod_eq_of_lt subnormal, bottom]
    cases negative <;> rfl
  · have many : 52 ≤ significand.log2 := (Nat.le_log2 some.ne').mpr (by omega)
    have most : significand.log2 < 53 := (Nat.log2_lt some.ne').mpr fits
    have scale : (exponent + 1075).toNat % 2 ^ 11 = (exponent + 1074).toNat + 1 := by omega
    have fraction : significand % 2 ^ 52 + 2 ^ 52 = significand := by omega
    rw [if_pos (by omega), toNat_packComponents, sign, BitVec.toNat_ofNat, BitVec.toNat_ofNat,
      scale]
    cases negative with
    | true =>
      rw [if_pos rfl, if_pos rfl]
      omega
    | false =>
      rw [if_neg Bool.false_ne_true, if_neg Bool.false_ne_true]
      omega

end WindowPlacement.Rounding
