import WindowPlacement.Decimal.Shortest

/-!
# How doubles are written

All texts show the fewest digits that read back. A layout says when a number is
written without an exponent, whether a whole number keeps a point and a zero, and how
an exponent and the exceptional values look.

Three layouts are in use: one in messages, one for results, and one in documents.
-/

namespace WindowPlacement.Decimal

/-- The decisions that a text of doubles leaves open. -/
structure Layout where
  /-- Which of two equally near decimals is taken. -/
  tie : Tie
  /-- Whether a number is written without an exponent, given the power of ten of its
  first digit. -/
  isPlain : Int → Bool
  /-- What follows a whole number that is written without an exponent. -/
  wholeSuffix : String
  /-- What stands before an exponent that is not negative. -/
  exponentSign : String
  /-- The text of no number. -/
  notANumber : String
  /-- The text of infinity, given whether it is negative. -/
  infinite : Bool → String

/-- In messages: an exponent from `10 ^ 16` on and below `10 ^ -4`. -/
def inMessage : Layout where
  tie := .up
  isPlain := fun lead => -4 ≤ lead && lead < 16
  wholeSuffix := ".0"
  exponentSign := ""
  notANumber := "NaN"
  infinite := fun negative => if negative then "-inf" else "inf"

/-- As a result: never an exponent. -/
def asResult : Layout where
  tie := .up
  isPlain := fun _ => true
  wholeSuffix := ""
  exponentSign := ""
  notANumber := "NaN"
  infinite := fun negative => if negative then "-inf" else "inf"

/-- In documents: an exponent from `10 ^ 16` on and below `10 ^ -5`. A document has no
text for the exceptional values. -/
def inDocument : Layout where
  tie := .even
  isPlain := fun lead => -5 ≤ lead && lead < 16
  wholeSuffix := ".0"
  exponentSign := "+"
  notANumber := "null"
  infinite := fun _ => "null"

/-- The digits of a natural number, the first counting most. -/
def digitsOf (number : Nat) : List Char := Nat.toDigits 10 number

/-- A row of digits without the zeros at its end. -/
def withoutFinalZeros (digits : List Char) : List Char :=
  (digits.reverse.dropWhile (· = '0')).reverse

/-- Digits with a point after the first `places` of them; zeros fill up the places
that have no digit. -/
def plainText (suffix : String) (digits : List Char) (lead : Int) : String :=
  if lead < 0 then
    String.ofList ('0' :: '.' :: List.replicate (-lead - 1).toNat '0' ++ digits)
  else
    let places := lead.toNat + 1
    if digits.length ≤ places then
      String.ofList (digits ++ List.replicate (places - digits.length) '0') ++ suffix
    else String.ofList (digits.take places ++ '.' :: digits.drop places)

/-- One digit, the others after a point, and the power of ten of the first. -/
def scientificText (sign : String) (digits : List Char) (lead : Int) : String :=
  let fraction := if digits.length ≤ 1 then [] else '.' :: digits.drop 1
  String.ofList (digits.take 1 ++ fraction) ++ "e" ++ (if lead < 0 then "" else sign) ++
    toString lead

/-- The text of a finite double without its sign. -/
def finiteText (layout : Layout) (value : Binary) : String :=
  if value.significand = 0 then plainText layout.wholeSuffix ['0'] 0
  else
    let decimal := shortest layout.tie value
    let written := digitsOf decimal.significand
    let lead := decimal.exponent + written.length - 1
    let digits := withoutFinalZeros written
    if layout.isPlain lead then plainText layout.wholeSuffix digits lead
    else scientificText layout.exponentSign digits lead

/-- The text of a double. -/
def Layout.text (layout : Layout) (value : Float) : String :=
  match magnitude value with
  | .notANumber => layout.notANumber
  | .infinite => layout.infinite (isNegative value)
  | .finite binary => (if isNegative value then "-" else "") ++ finiteText layout binary

end WindowPlacement.Decimal
