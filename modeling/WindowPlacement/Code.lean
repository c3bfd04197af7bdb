import WindowPlacement.Expr

/-!
# Code of the stack machine

Code is a row of operations in postfix order. It holds no values of variables: the
same code can be run any number of times, with other values each time. Code that was
not made from an expression is not checked.
-/

namespace WindowPlacement

/-- What lies on the stack. A variable stays a name until an operator takes it. -/
inductive Operand where
  | variable (name : String)
  | value (value : Float)
deriving DecidableEq

/-- One instruction. -/
inductive Operation where
  | push (operand : Operand)
  | apply (operator : Operator)
deriving DecidableEq

/-- A row of instructions. -/
structure Code where
  /-- The instructions in the order in which they are carried out. -/
  operations : List Operation
deriving DecidableEq

namespace Operation

/-- The name that an instruction pushes, if it pushes one. -/
def pushedName? : Operation → Option String
  | .push (.variable name) => some name
  | _ => none

end Operation

namespace Expr

/-- The instructions of an expression: those of the left operand, those of the right
one, and then the operator. -/
def operations : Expr → List Operation
  | .symbol name => [.push (.variable name)]
  | .number value => [.push (.value value)]
  | .binary operator left right => left.operations ++ right.operations ++ [.apply operator]

end Expr

namespace Code

/-- The code of an expression. -/
def ofExpr (expr : Expr) : Code := ⟨expr.operations⟩

/-- The number of instructions. -/
def size (code : Code) : Nat := code.operations.length

/-- Whether there is no instruction. -/
def isEmpty (code : Code) : Bool := code.operations.isEmpty

/-- The names that are pushed, in that order and with repeats. -/
def variableNames (code : Code) : List String := code.operations.filterMap Operation.pushedName?

end Code

end WindowPlacement
