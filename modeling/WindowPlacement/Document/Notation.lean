import WindowPlacement.Decimal.Literal
import WindowPlacement.Document.Problem

/-!
# The notation of single values

Words, texts and numbers are read off the front of a list of characters. Each function
answers with what it read and the characters left, or with the first problem.

Numbers are not rounded to the nearest double. Digits are gathered into a whole number
below `2 ^ 64`; what no longer fits only counts as a power of ten. One multiplication
or division by that power follows, and where the power is itself out of range, several.
-/

namespace WindowPlacement.Document

/-- True at the four characters that may stand between the parts of a document. -/
def isGap (character : Char) : Bool :=
  character = ' ' || character = '\t' || character = '\n' || character = '\r'

/-- Passes over what may stand between parts. -/
def skipGaps (text : List Char) : List Char := text.dropWhile isGap

/-- Reads the given letters. -/
def word : List Char → List Char → Except Problem (List Char)
  | [], text => .ok text
  | _ :: _, [] => .error (.endOfText .value)
  | letter :: letters, character :: rest =>
    if character = letter then word letters rest else .error .wordExpected

/-! ## Texts -/

/-- What a digit in base sixteen counts. -/
def hexadecimalValue? (character : Char) : Option Nat :=
  if '0' ≤ character && character ≤ '9' then some (character.toNat - '0'.toNat)
  else if 'a' ≤ character && character ≤ 'f' then some (character.toNat - 'a'.toNat + 10)
  else if 'A' ≤ character && character ≤ 'F' then some (character.toNat - 'A'.toNat + 10)
  else none

/-- The number of bytes that some characters take. -/
def byteCount (text : List Char) : Nat :=
  text.foldr (fun character count => character.utf8Size + count) 0

/-- Four digits in base sixteen. Where not even four bytes follow, the text has ended. -/
def fourDigits : List Char → Except Problem (Nat × List Char)
  | first :: second :: third :: fourth :: rest =>
    match hexadecimalValue? first, hexadecimalValue? second, hexadecimalValue? third,
      hexadecimalValue? fourth with
    | some one, some two, some three, some four =>
      .ok (((one * 16 + two) * 16 + three) * 16 + four, rest)
    | _, _, _, _ => .error .invalidEscape
  | text => if byteCount text < 4 then .error (.endOfText .text) else .error .invalidEscape

/-- The first half of a surrogate pair. -/
def isLeading (unit : Nat) : Bool := 0xD800 ≤ unit && unit < 0xDC00

/-- The second half of a surrogate pair. -/
def isTrailing (unit : Nat) : Bool := 0xDC00 ≤ unit && unit < 0xE000

/-- The character of a surrogate pair. -/
def paired (leading trailing : Nat) : Char :=
  Char.ofNat (0x10000 + (leading - 0xD800) * 0x400 + (trailing - 0xDC00))

/-- The second half of a pair, in an escape of its own. -/
def secondHalf (leading : Nat) : List Char → Except Problem (Char × List Char)
  | [] | ['\\'] => .error (.endOfText .text)
  | '\\' :: 'u' :: rest =>
    match fourDigits rest with
    | .error problem => .error problem
    | .ok (trailing, last) =>
      if isTrailing trailing then .ok (paired leading trailing, last) else .error .loneSurrogate
  | _ => .error .unfinishedPair

/-- A character given by its code, in one escape or in a pair of them. -/
def codeEscape (text : List Char) : Except Problem (Char × List Char) :=
  match fourDigits text with
  | .error problem => .error problem
  | .ok (unit, rest) =>
    if isTrailing unit then .error .loneSurrogate
    else if isLeading unit then secondHalf unit rest
    else .ok (Char.ofNat unit, rest)

/-- The character of a short escape. -/
def shortEscape? (letter : Char) : Option Char :=
  match letter with
  | '"' => some '"'
  | '\\' => some '\\'
  | '/' => some '/'
  | 'b' => some '\x08'
  | 'f' => some '\x0c'
  | 'n' => some '\n'
  | 'r' => some '\r'
  | 't' => some '\t'
  | _ => none

/-- What a backslash introduces. -/
def escape : List Char → Except Problem (Char × List Char)
  | [] => .error (.endOfText .text)
  | letter :: rest =>
    if letter = 'u' then codeEscape rest
    else match shortEscape? letter with
      | some character => .ok (character, rest)
      | none => .error .invalidEscape

/-- Four digits leave fewer characters. -/
theorem fourDigits_shorter {text rest : List Char} {unit : Nat}
    (read : fourDigits text = .ok (unit, rest)) : rest.length < text.length := by
  unfold fourDigits at read
  split at read
  · split at read
    · cases read; simp only [List.length_cons]; omega
    · cases read
  · split at read <;> cases read

/-- A second half leaves fewer characters. -/
theorem secondHalf_shorter {leading : Nat} {text rest : List Char} {character : Char}
    (read : secondHalf leading text = .ok (character, rest)) : rest.length < text.length := by
  unfold secondHalf at read
  split at read
  · cases read
  · cases read
  · split at read
    · cases read
    · rename_i half
      split at read
      · simp only [Except.ok.injEq, Prod.mk.injEq] at read
        have shorter := fourDigits_shorter half
        simp only [← read.2, List.length_cons]; omega
      · cases read
  · cases read

/-- A character given by its code leaves fewer characters. -/
theorem codeEscape_shorter {text rest : List Char} {character : Char}
    (read : codeEscape text = .ok (character, rest)) : rest.length < text.length := by
  unfold codeEscape at read
  split at read
  · cases read
  · rename_i half
    have shorter := fourDigits_shorter half
    split at read
    · cases read
    · split at read
      · exact Nat.lt_trans (secondHalf_shorter read) shorter
      · simp only [Except.ok.injEq, Prod.mk.injEq] at read
        exact read.2 ▸ shorter

/-- An escape leaves fewer characters. -/
theorem escape_shorter {text rest : List Char} {character : Char}
    (read : escape text = .ok (character, rest)) : rest.length < text.length := by
  unfold escape at read
  split at read
  · cases read
  · split at read
    · exact Nat.lt_succ_of_lt (codeEscape_shorter read)
    · split at read <;> cases read
      simp

/-- The characters of a text up to its closing quote. -/
def characters (text : List Char) : Except Problem (List Char × List Char) :=
  match text with
  | [] => .error (.endOfText .text)
  | first :: rest =>
    if first = '"' then .ok ([], rest)
    else if first = '\\' then
      match _read : escape rest with
      | .error problem => .error problem
      | .ok (character, later) =>
        match characters later with
        | .error problem => .error problem
        | .ok (others, last) => .ok (character :: others, last)
    else if first.toNat < 0x20 then .error .controlCharacter
    else
      match characters rest with
      | .error problem => .error problem
      | .ok (others, last) => .ok (first :: others, last)
termination_by text.length
decreasing_by
  · have shorter := escape_shorter _read
    simp only [List.length_cons]; omega
  · simp

/-! ## Numbers -/

/-- A number of a document. -/
inductive Number where
  /-- A whole number that fits a word of sixty-four bits. -/
  | whole (value : Int)
  /-- Any other number. -/
  | real (value : Float)

/-- A number as something that was found. -/
def Number.found : Number → Found
  | .whole value => .whole value
  | .real value => .number value

/-- Gathers digits while the number stays below `2 ^ 64`: the number and the digits that
no longer fit. -/
def gather : Nat → List Char → Nat × List Char
  | significand, [] => (significand, [])
  | significand, digit :: rest =>
    let next := 10 * significand + Decimal.digitValue digit
    if next < UInt64.size then gather next rest else (significand, digit :: rest)

/-- A power of ten as a double. -/
def powerOfTen (exponent : Nat) : Float := Float.ofScientific 1 false exponent

/-- Multiplies or divides by a power of ten. A power out of range is taken in steps, on
the way down only; a result out of range is a problem. -/
def scaled (value : Float) (exponent : Int) : Except Problem Float :=
  if exponent.natAbs ≤ 308 then
    if 0 ≤ exponent then
      let product := value * powerOfTen exponent.natAbs
      if product.isInf then .error .numberOutOfRange else .ok product
    else .ok (value / powerOfTen exponent.natAbs)
  else if value == Float.ofBits 0 then .ok value
  else if 0 ≤ exponent then .error .numberOutOfRange
  else scaled (value / powerOfTen 308) (exponent + 308)
termination_by exponent.natAbs

/-- A number from its sign, its digits and its exponent. -/
def realNumber (negative : Bool) (whole fraction : List Char) (exponent : Int) :
    Except Problem Float :=
  let (significand, wholeLeft) := gather 0 whole
  let (significand, fractionLeft) := gather significand fraction
  let places := (wholeLeft.length : Int) - (fraction.length - fractionLeft.length : Nat)
  (scaled significand.toUInt64.toFloat (places + exponent)).map (Decimal.signed negative)

/-- A number without point and exponent. It is a whole number if it fits sixty-four
bits; negative zero is none. -/
def wholeNumber (negative : Bool) (digits : List Char) : Except Problem Number :=
  let value := Decimal.digitsValue digits
  if !negative && value < UInt64.size then .ok (.whole value)
  else if negative && 0 < value && value ≤ UInt64.size / 2 then .ok (.whole (-value))
  else (realNumber negative digits [] 0).map .real

/-- At least one digit. -/
def someDigits (text : List Char) : Except Problem (List Char × List Char) :=
  match Decimal.takeDigits text with
  | ([], []) => .error (.endOfText .value)
  | ([], _) => .error .invalidNumber
  | (digits, rest) => .ok (digits, rest)

/-- The digits of a whole number. No zero stands before another digit. -/
def wholeDigits (text : List Char) : Except Problem (List Char × List Char) :=
  match someDigits text with
  | .ok ('0' :: _ :: _, _) => .error .invalidNumber
  | result => result

/-- The digits after a point, where there is one. -/
def fractionDigits : List Char → Except Problem (List Char × List Char)
  | '.' :: rest => someDigits rest
  | text => .ok ([], text)

/-- The digits of an exponent and its sign, where there is one. -/
def exponentDigits : List Char → Except Problem (Option Int × List Char)
  | [] => .ok (none, [])
  | letter :: rest =>
    if letter = 'e' || letter = 'E' then
      let (negative, digits) := Decimal.takeSign rest
      (someDigits digits).map fun (digits, last) =>
        let value := (Decimal.digitsValue digits : Int)
        (some (if negative then -value else value), last)
    else .ok (none, letter :: rest)

/-- A number, with or without a minus sign. -/
def takeNumber (text : List Char) : Except Problem (Number × List Char) := do
  let (negative, magnitude) :=
    match text with
    | '-' :: rest => (true, rest)
    | _ => (false, text)
  let (whole, afterWhole) ← wholeDigits magnitude
  let (fraction, afterFraction) ← fractionDigits afterWhole
  let (exponent, rest) ← exponentDigits afterFraction
  if fraction.isEmpty && exponent.isNone then
    let value ← wholeNumber negative whole
    return (value, rest)
  else
    let value ← realNumber negative whole fraction (exponent.getD 0)
    return (.real value, rest)

end WindowPlacement.Document
