import WindowPlacement.Decimal.Literal
import WindowPlacement.Parser
import WindowPlacement.Text.Blank
import WindowPlacement.Token

/-!
# From source text to tokens

Blanks are skipped before a token and never after the last one, so a text that ends
in blanks is not read to its end. A number may have a minus sign of its own; a minus
that touches a digit belongs to the number. A name is made of parts with single dots
between them, and a dot that no part follows stays outside of it.

The shapes of a number are tried from the longest on, because a choice settles for
the first alternative that matches.
-/

namespace WindowPlacement

/-- Why a source text is not a row of tokens. -/
inductive LexicalError where
  /-- A failure of the combinators. -/
  | combinator (failure : Failure)
  /-- A text in the shape of a number that is none. -/
  | notANumber (text : String)
  /-- The text from the first position on at which no token stands. -/
  | leftover (remaining : String)
  /-- There is no token at all. -/
  | empty
deriving DecidableEq, Repr

instance : HasFailure LexicalError := ⟨.combinator⟩

/-- What is reported for each reason. -/
def LexicalError.message : LexicalError → String
  | .combinator failure => failure.message
  | .notANumber text => "'" ++ text ++ "' is not a number"
  | .leftover remaining => "could not tokenize '" ++ remaining ++ "'"
  | .empty => "source is empty"

namespace Lexer

open WindowPlacement.Parser

/-- Reads characters. -/
abbrev CharParser (ω : Type) : Type := Parser Char LexicalError ω

/-- One character of a class. -/
def charWhere (accepts : Char → Bool) : CharParser Char := satisfy consume accepts

/-- One given character. -/
def char (wanted : Char) : CharParser Char := charWhere (· = wanted)

/-- Skips blanks and then runs the parser. -/
def afterBlanks {ω : Type} (parser : CharParser ω) : CharParser ω :=
  bind (zeroOrMore (charWhere Text.isBlank)) fun _ => .ok parser

/-- The token that one character stands for. -/
def mark (wanted : Char) (token : Token) : CharParser Token :=
  bind (char wanted) fun _ => .ok (result token)

/-! ## Numbers -/

/-- One digit. -/
def digit : CharParser Char := charWhere Decimal.isDigit

/-- One digit other than zero. -/
def leadingDigit : CharParser Char :=
  charWhere fun character => Decimal.isDigit character && character ≠ '0'

/-- A whole number: no zero stands before another digit. -/
def integerPart : CharParser (List Char) :=
  firstOf
    [inOrder [zeroOrOne (char '-'), one leadingDigit, zeroOrMore digit],
      inOrder [zeroOrOne (char '-'), one (char '0')]]

/-- A point and at least one digit. -/
def fractionPart : CharParser (List Char) := inOrder [one (char '.'), oneOrMore digit]

/-- The letter of the exponent, an optional sign and at least one digit. -/
def exponentPart : CharParser (List Char) :=
  inOrder
    [one (charWhere fun character => character = 'e' || character = 'E'),
      zeroOrOne (charWhere fun character => character = '+' || character = '-'),
      oneOrMore digit]

/-- The characters of a number, in the longest shape that matches. -/
def number : CharParser (List Char) :=
  firstOf
    [inOrder [integerPart, fractionPart, exponentPart], inOrder [integerPart, fractionPart],
      inOrder [integerPart, exponentPart], integerPart]

/-- A number, read as the double nearest to it. -/
def numberToken : CharParser Token :=
  bind number fun digits =>
    match Decimal.read digits with
    | .ok value => .ok (result (.number value))
    | .error _ => .error (.notANumber (String.ofList digits))

/-! ## Names -/

/-- The characters that may begin a part of a name. -/
def isNameStart (character : Char) : Bool := character.isAlpha || character = '_'

/-- The characters that may follow in a part of a name. -/
def isNameRest (character : Char) : Bool := character.isAlphanum || character = '_'

/-- A part of a name between dots. -/
def namePart : CharParser (List Char) :=
  inOrder [one (charWhere isNameStart), zeroOrMore (charWhere isNameRest)]

/-- A part, a dot and a name, or else a single part; `name` stands for the grammar of
names itself. -/
def nameBody (name : CharParser (List Char)) : CharParser (List Char) :=
  firstOf
    [bind namePart fun head =>
      .ok (bind (one (char '.')) fun dot =>
        .ok (bind name fun tail => .ok (result (head ++ dot ++ tail)))),
      namePart]

/-- The characters of a name. -/
def name : CharParser (List Char) := recursive nameBody

/-- A name. -/
def nameToken : CharParser Token :=
  bind name fun characters => .ok (result (.name (String.ofList characters)))

/-! ## Texts -/

/-- One token and the blanks before it. -/
def token : CharParser Token :=
  firstOf
    [afterBlanks (mark '(' .leftParen), afterBlanks (mark ')' .rightParen),
      afterBlanks numberToken, afterBlanks nameToken,
      afterBlanks (mark '+' (.operator .add)), afterBlanks (mark '-' (.operator .subtract)),
      afterBlanks (mark '*' (.operator .multiply)), afterBlanks (mark '/' (.operator .divide))]

/-- The tokens of a whole source text. A text of blanks alone has none; a text that
is not read to its end is refused with what is left of it. -/
def tokenize (source : String) : Except LexicalError (List Token) :=
  match zeroOrMore token source.toList with
  | .error reason => .error reason
  | .ok (tokens, remaining) =>
    if tokens.isEmpty && remaining.all Text.isBlank then .error .empty
    else if remaining.isEmpty then .ok tokens
    else .error (.leftover (String.ofList remaining))

end Lexer

end WindowPlacement
