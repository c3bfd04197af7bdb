import WindowPlacement.Decimal.Layout
import WindowPlacement.Text.Quoted

/-!
# Documents

A document is a value in JSON notation. It is written in one of two forms: compact,
without any blank, or pretty, with a line for each element and two spaces for each
level. Members of a record keep their order.

Reading is not the reverse of writing alone: it follows the shape that is expected,
and has modules of its own.
-/

namespace WindowPlacement

/-- A value that can be written. -/
inductive Document where
  | null
  /-- A double; one that is not finite is written as `null`. -/
  | real (value : Float)
  | natural (value : Nat)
  | string (value : String)
  | array (elements : List Document)
  | object (members : List (String × Document))

namespace Document

/-- How one character is written inside a text. Quotes, backslashes and the controls
below the space are escaped, and nothing else. -/
def escaped (character : Char) : List Char :=
  match character with
  | '"' => ['\\', '"']
  | '\\' => ['\\', '\\']
  | '\x08' => ['\\', 'b']
  | '\t' => ['\\', 't']
  | '\n' => ['\\', 'n']
  | '\x0c' => ['\\', 'f']
  | '\r' => ['\\', 'r']
  | _ =>
    if character.toNat < 0x10 then ['\\', 'u', '0', '0', '0'] ++ Text.hexadecimal character.toNat
    else if character.toNat < 0x20 then ['\\', 'u', '0', '0'] ++ Text.hexadecimal character.toNat
    else [character]

/-- A text between double quotes. -/
def quoted (text : String) : String :=
  String.ofList ('"' :: text.toList.flatMap escaped ++ ['"'])

/-- Where the elements of a value are put: all on one line, or each on a line of its
own. -/
inductive Form where
  | compact
  | pretty
deriving DecidableEq

/-- The start of a line at a level. -/
def Form.lineStart : Form → Nat → String
  | .compact, _ => ""
  | .pretty, level => String.ofList ('\n' :: List.replicate (2 * level) ' ')

/-- What stands between a key and its value. -/
def Form.afterKey : Form → String
  | .compact => ":"
  | .pretty => ": "

/-- Written elements between brackets. Without elements nothing stands between them. -/
def enclosed (form : Form) (level : Nat) (opening closing : String) : List String → String
  | [] => opening ++ closing
  | elements =>
    opening ++ form.lineStart (level + 1) ++
      ("," ++ form.lineStart (level + 1)).intercalate elements ++ form.lineStart level ++ closing

mutual

/-- Writes a value that stands at a level. -/
def write (form : Form) (level : Nat) : Document → String
  | .null => "null"
  | .real value => Decimal.inDocument.text value
  | .natural value => toString value
  | .string value => quoted value
  | .array elements => enclosed form level "[" "]" (writeElements form (level + 1) elements)
  | .object members =>
    enclosed form level "\x7b" "\x7d" (writeMembers form (level + 1) members)

/-- Writes the elements of a list. -/
def writeElements (form : Form) (level : Nat) : List Document → List String
  | [] => []
  | element :: others => write form level element :: writeElements form level others

/-- Writes the members of a record. -/
def writeMembers (form : Form) (level : Nat) : List (String × Document) → List String
  | [] => []
  | (key, value) :: others =>
    (quoted key ++ form.afterKey ++ write form level value) :: writeMembers form level others

end

/-- The text without blanks. -/
def compact (document : Document) : String := document.write .compact 0

/-- The text with a line for each element. -/
def pretty (document : Document) : String := document.write .pretty 0

/-- A record with a single member, which says which alternative the value is. -/
def tagged (tag : String) (content : Document) : Document := .object [(tag, content)]

end Document

end WindowPlacement
