import WindowPlacement.Operator

/-!
# Expressions

An arithmetic expression is a tree: its leaves are symbols and numbers, and each
inner node joins two expressions by an operator.
-/

namespace WindowPlacement

/-- An arithmetic expression. -/
inductive Expr where
  /-- A variable, whose value is asked for when the expression is run. -/
  | symbol (name : String)
  | number (value : Float)
  | binary (operator : Operator) (left right : Expr)
deriving DecidableEq, Inhabited

namespace Expr

/-- The number of nodes on a longest path from the root to a leaf. -/
def depth : Expr → Nat
  | .symbol _ | .number _ => 1
  | .binary _ left right => 1 + max left.depth right.depth

end Expr

end WindowPlacement
