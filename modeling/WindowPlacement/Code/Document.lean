import WindowPlacement.Code
import WindowPlacement.Expr.Document

/-!
# Code in documents

Code is a list of operations. Pushing is a record that holds the operand, and an
operator is a bare tag.
-/

namespace WindowPlacement

open Document

namespace Operand

/-- An operand as a document. -/
def document : Operand → Document
  | .variable name => tagged "variable" (.string name)
  | .value constant => tagged "value" (.real constant)

/-- Reads an operand. -/
def reader : Reader Operand :=
  Reader.variant
    [⟨"variable", .single (Reader.map .variable Reader.text)⟩,
      ⟨"value", .single (Reader.map .value Reader.float)⟩]

end Operand

namespace Operation

/-- An operation as a document. -/
def document : Operation → Document
  | .push operand => tagged "push" operand.document
  | .apply operator => .string operator.tag

/-- The alternative of an operator. -/
def applyAlternative (operator : Operator) : Reader.Alternative Operation :=
  ⟨operator.tag, .bare (.apply operator)⟩

/-- Reads an operation. -/
def reader : Reader Operation :=
  Reader.variant
    [⟨"push", .single (Reader.map .push Operand.reader)⟩, applyAlternative .add,
      applyAlternative .subtract, applyAlternative .multiply, applyAlternative .divide]

end Operation

namespace Code

/-- Code as a document. -/
def document (code : Code) : Document := .array (code.operations.map Operation.document)

/-- Reads code. -/
def reader : Reader Code := Reader.map Code.mk (Reader.list Operation.reader)

end Code

end WindowPlacement
