import WindowPlacement.Decimal.Layout
import WindowPlacement.Text.Quoted

/-!
# Problems of a document

A document is read from left to right and the first problem is reported, be it one of
the notation or one of the shape that was expected.
-/

namespace WindowPlacement.Document

/-- What was being read when the text ended. -/
inductive Unfinished where
  | value
  | record
  | list
  | text
deriving DecidableEq, Repr

/-- What was found in place of something else. -/
inductive Found where
  | null
  | truth (value : Bool)
  | whole (value : Int)
  | number (value : Float)
  | text (value : String)
  | list
  | record
  /-- A tag without content. -/
  | bareTag
deriving DecidableEq

/-- Why a document was refused. -/
inductive Problem where
  | endOfText (unfinished : Unfinished)
  | valueExpected
  | wordExpected
  | colonExpected
  | listEndExpected
  | recordEndExpected
  | keyNotText
  | trailingComma
  | trailingCharacters
  | invalidNumber
  | numberOutOfRange
  | invalidEscape
  | controlCharacter
  /-- Half of a surrogate pair stands where a whole one is due. -/
  | loneSurrogate
  /-- No second escape follows the first half of a surrogate pair. -/
  | unfinishedPair
  /-- Too many lists and records are open. -/
  | tooDeep
  | wrongType (found : Found) (expected : String)
  | outOfRange (value : Int) (expected : String)
  | wrongLength (length : Nat) (expected : String)
  | unknownTag (tag : String) (known : List String)
  | duplicateMember (key : String)
  | missingMember (key : String)
deriving DecidableEq

/-- The name of what ended too early. -/
def Unfinished.description : Unfinished → String
  | .value => "a value"
  | .record => "an object"
  | .list => "a list"
  | .text => "a string"

/-- How a message shows what was found. -/
def Found.description : Found → String
  | .null => "null"
  | .truth value => "boolean `" ++ toString value ++ "`"
  | .whole value => "integer `" ++ toString value ++ "`"
  | .number value => "floating point `" ++ Decimal.inDocument.text value ++ "`"
  | .text value => "string " ++ Text.quoted value
  | .list => "sequence"
  | .record => "map"
  | .bareTag => "unit variant"

/-- A name between backticks. -/
def marked (name : String) : String := "`" ++ name ++ "`"

/-- How a message lists the tags that are known. -/
def alternatives : List String → String
  | [only] => marked only
  | [first, second] => marked first ++ " or " ++ marked second
  | tags => "one of " ++ ", ".intercalate (tags.map marked)

/-- What is reported for each problem. -/
def Problem.message : Problem → String
  | .endOfText unfinished => "EOF while parsing " ++ unfinished.description
  | .valueExpected => "expected value"
  | .wordExpected => "expected ident"
  | .colonExpected => "expected `:`"
  | .listEndExpected => "expected `,` or `]`"
  | .recordEndExpected => "expected `,` or `\x7d`"
  | .keyNotText => "key must be a string"
  | .trailingComma => "trailing comma"
  | .trailingCharacters => "trailing characters"
  | .invalidNumber => "invalid number"
  | .numberOutOfRange => "number out of range"
  | .invalidEscape => "invalid escape"
  | .controlCharacter => "control character (\\u0000-\\u001F) found while parsing a string"
  | .loneSurrogate => "lone leading surrogate in hex escape"
  | .unfinishedPair => "unexpected end of hex escape"
  | .tooDeep => "recursion limit exceeded"
  | .wrongType found expected => "invalid type: " ++ found.description ++ ", expected " ++ expected
  | .outOfRange value expected =>
    "invalid value: integer `" ++ toString value ++ "`, expected " ++ expected
  | .wrongLength length expected =>
    "invalid length " ++ toString length ++ ", expected " ++ expected
  | .unknownTag tag known => "unknown variant " ++ marked tag ++ ", expected " ++ alternatives known
  | .duplicateMember key => "duplicate field " ++ marked key
  | .missingMember key => "missing field " ++ marked key

end WindowPlacement.Document
