/-!
# Arithmetic operators

The four operators of the language, shared by tokens, expressions and code. They
come in two tiers; an operator of the product tier binds more tightly.
-/

namespace WindowPlacement

/-- The binary operators. -/
inductive Operator where
  | add
  | subtract
  | multiply
  | divide
deriving DecidableEq, Repr

namespace Operator

/-- The operation on doubles, each rounded once to the nearest double. -/
def apply : Operator → Float → Float → Float
  | .add, left, right => left + right
  | .subtract, left, right => left - right
  | .multiply, left, right => left * right
  | .divide, left, right => left / right

/-- The operators whose operands are terms. -/
def sums : List Operator := [.add, .subtract]

/-- The operators whose operands are factors. -/
def products : List Operator := [.multiply, .divide]

/-- The mark that stands for the operator in a source text. -/
def mark : Operator → Char
  | .add => '+'
  | .subtract => '-'
  | .multiply => '*'
  | .divide => '/'

end Operator

end WindowPlacement
