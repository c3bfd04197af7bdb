/-!
# Decimal texts of doubles

A literal is an optional sign and digits with an optional point and exponent, or
one of the words for infinity and for the value that is no number. At least one
digit stands before or after the point. Reading rounds once, from the exact decimal
to the nearest double.

A decimal too large for the doubles is infinity and one too small is zero; the sign
is kept in both cases. Digits are never dropped, however many there are.
-/

namespace WindowPlacement.Decimal

/-- Positive infinity. -/
def infinity : Float := Float.ofBits 0x7FF0000000000000

/-- The value that is no number. -/
def notANumber : Float := Float.ofBits 0x7FF8000000000000

/-- True exactly at the ten digits of ASCII. -/
def isDigit (character : Char) : Bool := '0' ≤ character && character ≤ '9'

/-- What a digit counts. -/
def digitValue (character : Char) : Nat := character.toNat - '0'.toNat

/-- The number that a row of digits spells, the first digit counting most. -/
def digitsValue (digits : List Char) : Nat :=
  digits.foldl (fun value digit => 10 * value + digitValue digit) 0

/-- The double nearest to `significand * 10 ^ exponent`; a tie goes to the even one.
Beyond four hundred places on either side no digit can matter any more. -/
def nearest (significand : Nat) (exponent : Int) : Float :=
  if significand = 0 then Float.ofBits 0
  else if 400 < exponent then infinity
  else if exponent + significand.log2 < -400 then Float.ofBits 0
  else Float.ofScientific significand (decide (exponent < 0)) exponent.natAbs

/-- The double of the given magnitude and sign. -/
def signed (negative : Bool) (magnitude : Float) : Float :=
  if negative then -magnitude else magnitude

/-- The parts of a number in decimal notation. -/
structure Literal where
  /-- Whether a minus sign stands in front. -/
  negative : Bool
  /-- The digits before the point. -/
  whole : List Char
  /-- The digits after the point. -/
  fraction : List Char
  /-- The power of ten by which the number is scaled. -/
  exponent : Int

/-- The double nearest to the number that a literal denotes. -/
def Literal.value (literal : Literal) : Float :=
  signed literal.negative
    (nearest (digitsValue (literal.whole ++ literal.fraction))
      (literal.exponent - literal.fraction.length))

/-- Why a text is no literal. -/
inductive LiteralError where
  /-- There is no text. -/
  | empty
  /-- The text has another form. -/
  | invalid
deriving DecidableEq, Repr

/-- What is reported for each reason. -/
def LiteralError.message : LiteralError → String
  | .empty => "cannot parse float from empty string"
  | .invalid => "invalid float literal"

/-- Takes a sign off the front; a text without one is positive. -/
def takeSign : List Char → Bool × List Char
  | '-' :: rest => (true, rest)
  | '+' :: rest => (false, rest)
  | rest => (false, rest)

/-- Takes the digits off the front. -/
def takeDigits (text : List Char) : List Char × List Char :=
  (text.takeWhile isDigit, text.dropWhile isDigit)

/-- An exponent that fills the whole text: nothing at all, or the letter, an optional
sign and at least one digit. -/
def exponent? : List Char → Option Int
  | [] => some 0
  | letter :: rest =>
    if letter = 'e' ∨ letter = 'E' then
      let (negative, digits) := takeSign rest
      if digits ≠ [] ∧ digits.all isDigit then
        some (if negative then -(digitsValue digits : Int) else digitsValue digits)
      else none
    else none

/-- The digits after the point, where there is one. -/
def takeFraction : List Char → List Char × List Char
  | '.' :: rest => takeDigits rest
  | rest => ([], rest)

/-- A number in decimal notation without its sign. -/
def unsigned? (negative : Bool) (text : List Char) : Option Literal :=
  let (whole, afterWhole) := takeDigits text
  let (fraction, afterFraction) := takeFraction afterWhole
  if whole = [] ∧ fraction = [] then none
  else (exponent? afterFraction).map fun exponent => ⟨negative, whole, fraction, exponent⟩

/-- The words for infinity and for no number, in any case of letters. -/
def word? (text : List Char) : Option Float :=
  let lower := text.map Char.toLower
  if lower = "inf".toList ∨ lower = "infinity".toList then some infinity
  else if lower = "nan".toList then some notANumber
  else none

/-- Reads a whole text as a double. -/
def read (text : List Char) : Except LiteralError Float :=
  if text = [] then .error .empty
  else
    let (negative, magnitude) := takeSign text
    match unsigned? negative magnitude with
    | some literal => .ok literal.value
    | none =>
      match word? magnitude with
      | some value => .ok (signed negative value)
      | none => .error .invalid

end WindowPlacement.Decimal
