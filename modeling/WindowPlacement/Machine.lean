import WindowPlacement.Code
import WindowPlacement.Inquiry

/-!
# The stack machine

An operator takes two operands from the stack, asks for the right one and then for
the left one if they are still names, and pushes the value. Both have to be there
before anything is asked. The result of the code is its last operand; code that leaves
nothing has no result.
-/

namespace WindowPlacement

/-- Why a run has no result. -/
inductive RunError where
  /-- An operator found fewer than two operands. -/
  | stackUnderflow
  /-- No value is known for a name. -/
  | unknownVariable (name : String)
deriving DecidableEq, Repr

/-- What is reported for each reason. -/
def RunError.message : RunError → String
  | .stackUnderflow => "stack underflow"
  | .unknownVariable name => "no variable found for '" ++ name ++ "'"

/-- A run may ask for names and may fail. -/
abbrev Run (α : Type) : Type := ExceptT RunError Inquiry α

namespace Machine

/-- The value of a name, which fails where none is known. -/
def valueOf (name : String) : Run Float := do
  match ← (Inquiry.askFor name : Run (Option Float)) with
  | some value => pure value
  | none => throw (.unknownVariable name)

/-- The value of an operand. -/
def resolve : Operand → Run Float
  | .value value => pure value
  | .variable name => valueOf name

/-- Carries out one instruction. The first operand of the list is the top of the
stack. -/
def step (stack : List Operand) : Operation → Run (List Operand)
  | .push operand => pure (operand :: stack)
  | .apply operator =>
    match stack with
    | right :: left :: below => do
      let rightValue ← resolve right
      let leftValue ← resolve left
      pure (.value (operator.apply leftValue rightValue) :: below)
    | _ => throw .stackUnderflow

/-- Carries out instructions one after another. -/
def steps : List Operand → List Operation → Run (List Operand)
  | stack, [] => pure stack
  | stack, operation :: rest => do
    let next ← step stack operation
    steps next rest

/-- The value of the operand on top of the stack, if there is one. -/
def top : List Operand → Run (Option Float)
  | [] => pure none
  | operand :: _ => some <$> resolve operand

/-- Runs instructions from the empty stack. -/
def evaluate (operations : List Operation) : Run (Option Float) := do
  let stack ← steps [] operations
  top stack

end Machine

/-- Runs code. -/
def Code.run (code : Code) : Run (Option Float) := Machine.evaluate code.operations

end WindowPlacement
