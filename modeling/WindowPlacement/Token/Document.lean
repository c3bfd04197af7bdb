import WindowPlacement.Document
import WindowPlacement.Document.Reader
import WindowPlacement.Token

/-!
# Tokens in documents

A name or a number is a record with one member, any other token a bare tag.
-/

namespace WindowPlacement.Token

open Document

/-- The tag of an operator among the tokens. -/
def operatorTag : Operator → String
  | .add => "plus"
  | .subtract => "minus"
  | .multiply => "multiply"
  | .divide => "divide"

/-- A token as a document. -/
def document : Token → Document
  | .name spelling => tagged "name" (.string spelling)
  | .number value => tagged "number" (.real value)
  | .leftParen => .string "left_paren"
  | .rightParen => .string "right_paren"
  | .operator kind => .string (operatorTag kind)

/-- Reads a token. -/
def reader : Reader Token :=
  Reader.variant
    [⟨"name", .single (Reader.map .name Reader.text)⟩,
      ⟨"number", .single (Reader.map .number Reader.float)⟩,
      ⟨"left_paren", .bare .leftParen⟩, ⟨"right_paren", .bare .rightParen⟩,
      ⟨operatorTag .add, .bare (.operator .add)⟩,
      ⟨operatorTag .subtract, .bare (.operator .subtract)⟩,
      ⟨operatorTag .multiply, .bare (.operator .multiply)⟩,
      ⟨operatorTag .divide, .bare (.operator .divide)⟩]

end WindowPlacement.Token
