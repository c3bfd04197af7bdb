import WindowPlacement.Expr
import WindowPlacement.Parser
import WindowPlacement.Token

/-!
# From tokens to an expression

```text
expression = term ("+" | "-") expression | term
term       = factor ("*" | "/") term | factor
factor     = "(" expression ")" | name | number
```

The right operand is an expression of the same tier, so both tiers group to the
right: `1 - 2 - 3` is `1 - (2 - 3)`. Where no right operand follows, the operator is
given back and the left operand stands alone.
-/

namespace WindowPlacement

/-- Why tokens are not an expression. -/
inductive GrammarError where
  /-- A failure of the combinators. -/
  | combinator (failure : Failure)
  /-- A token that is neither a name nor a number stands where a value is due. -/
  | notAValue (token : Token)
  /-- The tokens after the longest expression in front. -/
  | leftover (remaining : List Token)
deriving DecidableEq

instance : HasFailure GrammarError := ⟨.combinator⟩

/-- How a message shows the first of some tokens. -/
def firstDescription : List Token → String
  | [] => "None"
  | token :: _ => "Some(" ++ token.description ++ ")"

/-- What is reported for each reason. -/
def GrammarError.message : GrammarError → String
  | .combinator failure => failure.message
  | .notAValue token => "expected a value token, found " ++ token.description
  | .leftover remaining =>
    "could not fully parse, " ++ toString remaining.length ++
      " token(s) remaining starting at " ++ firstDescription remaining

namespace Grammar

open WindowPlacement.Parser

/-- Reads tokens. -/
abbrev TokenParser (ω : Type) : Type := Parser Token GrammarError ω

/-- One given token. -/
def exactly (wanted : Token) : TokenParser Token := satisfy consume fun token => token = wanted

/-- The token of one operator. -/
def operator (wanted : Operator) : TokenParser Operator :=
  bind (exactly (.operator wanted)) fun _ => .ok (result wanted)

/-- One of the operators of a tier. -/
def operators (tier : List Operator) : TokenParser Operator := firstOf (tier.map operator)

/-- A name or a number. -/
def value : TokenParser Expr :=
  bind consume fun token =>
    match token with
    | .name text => .ok (result (.symbol text))
    | .number value => .ok (result (.number value))
    | other => .error (.notAValue other)

/-- A left operand, and an operator with a right operand where both follow. The left
operand is read once; what follows it is given back unless it is complete. -/
def chain (left : TokenParser Expr) (operators : TokenParser Operator)
    (right : TokenParser Expr) : TokenParser Expr := fun input =>
  match left input with
  | .error _ => .error (ofFailure .noParserMatched)
  | .ok (first, afterFirst) =>
    match operators afterFirst with
    | .error _ => .ok (first, afterFirst)
    | .ok (operator, afterOperator) =>
      match right afterOperator with
      | .error _ => .ok (first, afterFirst)
      | .ok (second, rest) => .ok (.binary operator first second, rest)

/-- An expression in parentheses. -/
def group (expression : TokenParser Expr) : TokenParser Expr :=
  bind (exactly .leftParen) fun _ =>
    .ok (bind expression fun inner =>
      .ok (bind (exactly .rightParen) fun _ => .ok (result inner)))

/-- A group or a value. -/
def factorOf (expression : TokenParser Expr) : TokenParser Expr :=
  firstOf [group expression, value]

/-- Factors joined by operators of the product tier. -/
def termOf (expression : TokenParser Expr) : TokenParser Expr :=
  recursive fun term => chain (factorOf expression) (operators Operator.products) term

/-- Terms joined by operators of the sum tier. -/
def expression : TokenParser Expr :=
  recursive fun expression => chain (termOf expression) (operators Operator.sums) expression

/-- A term on its own. -/
def term : TokenParser Expr := termOf expression

/-- A factor on its own. -/
def factor : TokenParser Expr := factorOf expression

/-- Reads all tokens as one expression. -/
def parse (tokens : List Token) : Except GrammarError Expr :=
  match expression tokens with
  | .error reason => .error reason
  | .ok (expr, remaining) =>
    if remaining.isEmpty then .ok expr else .error (.leftover remaining)

end Grammar

end WindowPlacement
