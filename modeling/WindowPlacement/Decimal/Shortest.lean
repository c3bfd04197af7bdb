/-!
# The fewest digits that read back

A finite double is a whole number times a power of two. The reals that round to it
form an interval, whose ends belong to it exactly when that whole number is even.
Among the decimals in the interval, those with the fewest digits are sought, and of
these the nearest to the double.

The search goes over the grids of the powers of ten, the coarsest first. On each
grid only the two neighbours of the double can be nearest. Everything is decided in
exact arithmetic on natural numbers.
-/

namespace WindowPlacement.Decimal

/-- A finite double without its sign: `significand * 2 ^ exponent`. -/
structure Binary where
  /-- The whole number that is scaled. -/
  significand : Nat
  /-- The power of two that scales it. -/
  exponent : Int
  /-- Whether the double below is only half as far away as the one above. -/
  closeBelow : Bool

/-- What the bits of a double stand for, its sign apart. -/
inductive Magnitude where
  | notANumber
  | infinite
  | finite (value : Binary)

/-- Whether the sign bit is set. -/
def isNegative (value : Float) : Bool := UInt64.size / 2 ≤ value.toBits.toNat

/-- The number of fractions: fifty-two bits below those of the scale. -/
def fractionCount : Nat := 0x10000000000000

/-- The number of scales: eleven bits below the sign. -/
def scaleCount : Nat := 0x800

/-- Takes the bits of a double apart. -/
def magnitude (value : Float) : Magnitude :=
  let bits := value.toBits.toNat
  let fraction := bits % fractionCount
  let scale := bits / fractionCount % scaleCount
  if scale + 1 = scaleCount then
    if fraction = 0 then .infinite else .notANumber
  else if scale = 0 then .finite ⟨fraction, -1074, false⟩
  else .finite ⟨fractionCount + fraction, (scale : Int) - 1075, fraction = 0 && 1 < scale⟩

/-- Which of two equally near decimals is taken. -/
inductive Tie where
  /-- The larger one. -/
  | up
  /-- The one whose last digit is even. -/
  | even
deriving DecidableEq, Repr

/-- A decimal: `significand * 10 ^ exponent`. -/
structure Digits where
  /-- The whole number that the digits spell. -/
  significand : Nat
  /-- The power of ten that scales it. -/
  exponent : Int

/-- The factors that make multiples of `2 ^ (exponent - 2)` and of `10 ^ place`
comparable as natural numbers. -/
def scales (exponent place : Int) : Nat × Nat :=
  (Nat.pow 2 (exponent - 2).toNat * Nat.pow 10 (-place).toNat,
    Nat.pow 10 place.toNat * Nat.pow 2 (2 - exponent).toNat)

/-- The decimal of the grid `10 ^ place` that reads back as the double and is nearest
to it, if the grid has one. Grids coarser than the double are passed over. -/
def onGrid (tie : Tie) (value : Binary) (place : Int) : Option Digits :=
  let (binary, decimal) := scales value.exponent place
  let target := 4 * value.significand * binary
  let lowest := (4 * value.significand - if value.closeBelow then 1 else 2) * binary
  let highest := (4 * value.significand + 2) * binary
  let inside := fun candidate : Nat =>
    if value.significand % 2 = 0 then lowest ≤ candidate && candidate ≤ highest
    else lowest < candidate && candidate < highest
  let below := target / decimal
  let above := below + 1
  if below = 0 then none
  else if inside (below * decimal) then
    if inside (above * decimal) then
      let distanceBelow := target - below * decimal
      let distanceAbove := above * decimal - target
      let takeBelow :=
        if distanceBelow = distanceAbove then
          match tie with
          | .up => false
          | .even => decide (below % 2 = 0)
        else decide (distanceBelow < distanceAbove)
      some ⟨if takeBelow then below else above, place⟩
    else some ⟨below, place⟩
  else if inside (above * decimal) then some ⟨above, place⟩
  else none

/-- A place that is above the first digit of the double, and by two at most. -/
def startPlace (value : Binary) : Int :=
  ((value.significand.log2 : Int) + value.exponent) * 30103 / 100000 + 2

/-- The decimal with the fewest digits that reads back as the double. Twenty grids
reach past the seventeenth digit, where every double has one. -/
def shortest (tie : Tie) (value : Binary) : Digits :=
  let start : Int := startPlace value
  ((List.range 20).findSome? fun (step : Nat) => onGrid tie value (start - step)).getD ⟨0, 0⟩

end WindowPlacement.Decimal
