import WindowPlacement.Decimal.Layout
import WindowPlacement.Operator
import WindowPlacement.Text.Quoted

/-!
# Tokens

The words of the language: names, numbers, the two parentheses and the operators.
-/

namespace WindowPlacement

/-- A word of a source text. -/
inductive Token where
  /-- A name, possibly with dots in it. -/
  | name (text : String)
  /-- A number, as the double nearest to its text. -/
  | number (value : Float)
  | leftParen
  | rightParen
  | operator (operator : Operator)
deriving DecidableEq

namespace Token

/-- How a message shows a token. -/
def description : Token → String
  | .name text => "Name(" ++ Text.quoted text ++ ")"
  | .number value => "Number(" ++ Decimal.inMessage.text value ++ ")"
  | .leftParen => "LeftParen"
  | .rightParen => "RightParen"
  | .operator .add => "Plus"
  | .operator .subtract => "Minus"
  | .operator .multiply => "Multiply"
  | .operator .divide => "Divide"

end Token

end WindowPlacement
