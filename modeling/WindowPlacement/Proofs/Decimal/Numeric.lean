import Mathlib
import WindowPlacement.Decimal.Literal

/-!
# Decimals are numbers

The arithmetic of doubles has a value that is no number, and reading decimals never comes to it. A
double that is rounded from a product or a quotient is finite, infinite or zero, and packing it
into bits does not change that. A decimal that is out of range is read as infinity or as zero.
-/

namespace WindowPlacement.Rounding

open Float.Model Float.Model.UnpackedFloat

/-! ## Packing -/

/-- Bits stand for a number unless they have the greatest scale and a fraction. Infinity has the
greatest scale too, but an empty fraction. -/
theorem isNaN_unpack_packComponents {sign : Sign} {scale : BitVec 11} {fraction : BitVec 52}
    (regular : scale ≠ -1#11 ∨ fraction = 0#52) :
    (UnpackedFloat.unpack Format.binary64
      (packComponents Format.binary64 sign scale fraction)).isNaN = false := by
  rw [UnpackedFloat.unpack]
  simp only [unpackExponent_packComponents, unpackMantissa_packComponents]
  by_cases greatest : scale = -1#11
  · have whole : fraction = 0#52 := regular.resolve_left (not_not_intro greatest)
    rw [if_pos greatest, if_pos whole]
    rfl
  · rw [if_neg greatest]
    split
    · split <;> rfl
    · rfl

/-- What is packed stays a number. Packing may round a scale down or give up a magnitude, but
never makes up a fraction for the greatest scale. -/
theorem isNaN_pack {unpacked : UnpackedFloat} (number : unpacked.isNaN = false) :
    (Float.ofModel (.pack unpacked)).isNaN = false := by
  change (UnpackedFloat.unpack Format.binary64
    (UnpackedFloat.pack Format.binary64 unpacked)).isNaN = false
  cases unpacked with
  | notANumber => cases number
  | infinity sign => exact isNaN_unpack_packComponents (.inr rfl)
  | zero sign => exact isNaN_unpack_packComponents (.inr rfl)
  | finite sign mantissa exponent positive =>
    rw [UnpackedFloat.pack]
    simp only
    split
    · exact isNaN_unpack_packComponents (.inr rfl)
    · rename_i inRange
      split
      · refine isNaN_unpack_packComponents (.inl fun greatest => ?_)
        have count := congrArg BitVec.toNat greatest
        rw [BitVec.toNat_ofNat, show (-1#11).toNat = 2 ^ 11 - 1 from rfl] at count
        omega
      · exact isNaN_unpack_packComponents (.inl (by decide))

/-! ## Rounding -/

/-- Rounding leads to a number. It ends with zero, a finite number or infinity, in whatever
format. -/
theorem isNaN_roundWithAccuracy (format : Format) (sign : Sign) (whole : Nat) (exponent : Int)
    (accuracy : Accuracy) :
    (roundWithAccuracy format sign whole exponent accuracy).isNaN = false := by
  rw [roundWithAccuracy]
  simp only
  split <;> rfl

/-- Whether a double is finite and not zero. Sign and magnitude are of no account. -/
def hasDigits : UnpackedFloat → Bool
  | .finite .. => true
  | _ => false

/-- A product is a number if its second factor has digits. Infinity times zero is none. Both
factors may be negative, and the product may be out of range. -/
theorem isNaN_mul (format : Format) {one other : UnpackedFloat} (number : one.isNaN = false)
    (digits : hasDigits other = true) : (UnpackedFloat.mul format one other).isNaN = false := by
  cases other with
  | finite sign mantissa exponent positive =>
    cases one with
    | notANumber => cases number
    | infinity _ => rfl
    | zero _ => rfl
    | finite _ _ _ _ => exact isNaN_roundWithAccuracy _ _ _ _ _
  | _ => cases digits

/-- A quotient is a number if its divisor has digits. Zero divided by zero is none. The quotient
of two infinities is none either, but the divisor is finite here. -/
theorem isNaN_div (format : Format) {one other : UnpackedFloat} (number : one.isNaN = false)
    (digits : hasDigits other = true) : (UnpackedFloat.div format one other).isNaN = false := by
  cases other with
  | finite sign mantissa exponent positive =>
    cases one with
    | notANumber => cases number
    | infinity _ => rfl
    | zero _ => rfl
    | finite _ _ _ _ => exact isNaN_roundWithAccuracy _ _ _ _ _
  | _ => cases digits

/-- Decimals with large digits are rounded to numbers. Exponents that are far out of range are
cut short, to infinity or to zero. -/
theorem isNaN_ofScientific_model (format : Format) (significand : Nat) (exponent : Int) :
    (UnpackedFloat.ofScientific format significand exponent).isNaN = false := by
  rw [UnpackedFloat.ofScientific]
  split
  · rfl
  split
  · rfl
  split
  · rfl
  split
  · exact isNaN_mul _ rfl rfl
  · exact isNaN_div _ rfl rfl

/-- A double that is made of a whole number is a number. It may be rounded, but it is never out
of range. -/
theorem isNaN_toFloat (whole : UInt64) : whole.toFloat.isNaN = false := by
  refine isNaN_pack ?_
  change (UnpackedFloat.normalize Format.binary64 whole.toNat 0 .positive).isNaN = false
  rw [UnpackedFloat.normalize]
  split
  · exact isNaN_roundWithAccuracy _ _ _ _ _
  · rfl
  · exact isNaN_roundWithAccuracy _ _ _ _ _

/-- The negative of a number is a number. Only the sign changes, and what is no number has none
that counts. -/
theorem isNaN_neg {value : Float} (number : value.isNaN = false) : (-value).isNaN = false := by
  refine isNaN_pack ?_
  change value.toModel.unpack.isNaN = false at number
  cases unpacked : value.toModel.unpack with
  | notANumber =>
    rw [unpacked] at number
    cases number
  | infinity sign => rfl
  | zero sign => rfl
  | finite sign mantissa exponent positive => rfl

/-- The powers of ten that doubles hold exactly have digits. They are listed, so this is a check
of each of them. -/
theorem hasDigits_power : ∀ power ∈ Float.exactlyRepresentablePowersOfTen,
    hasDigits power.toModel.unpack = true := by
  simp only [← Array.mem_toList_iff]
  decide

/-- A decimal with its power of ten is rounded to a number. With few digits it is one product or
one quotient of doubles. The sign and the size of the exponent are arbitrary. -/
theorem isNaN_ofScientific (significand : Nat) (negative : Bool) (exponent : Nat) :
    (Float.ofScientific significand negative exponent).isNaN = false := by
  rw [Float.ofScientific]
  split
  · have whole : significand.toUInt64.toFloat.toModel.unpack.isNaN = false :=
      isNaN_toFloat significand.toUInt64
    simp only
    split
    · exact isNaN_pack (isNaN_div _ whole (hasDigits_power _ (Array.getElem_mem _)))
    · exact isNaN_pack (isNaN_mul _ whole (hasDigits_power _ (Array.getElem_mem _)))
  · exact isNaN_pack (isNaN_ofScientific_model _ _ _)

end WindowPlacement.Rounding

namespace WindowPlacement.Decimal

/-- The double nearest to a decimal is a number. This is also so where the decimal is out of
range. -/
theorem isNaN_nearest (significand : Nat) (exponent : Int) :
    (nearest significand exponent).isNaN = false := by
  rw [nearest]
  split
  · rfl
  split
  · rfl
  split
  · rfl
  · exact Rounding.isNaN_ofScientific _ _ _

/-- A literal with digits stands for a number. -/
theorem Literal.isNaN_value (literal : Literal) : literal.value.isNaN = false := by
  have magnitude := isNaN_nearest (digitsValue (literal.whole ++ literal.fraction))
    (literal.exponent - literal.fraction.length)
  rw [Literal.value, signed]
  split
  · exact Rounding.isNaN_neg magnitude
  · exact magnitude

end WindowPlacement.Decimal
