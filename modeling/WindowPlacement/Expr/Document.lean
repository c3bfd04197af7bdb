import WindowPlacement.Document
import WindowPlacement.Document.Reader
import WindowPlacement.Expr

/-!
# Expressions in documents

A leaf is a record with its value under the tag of its kind; an inner node has a list
of its two operands under the name of its operator.
-/

namespace WindowPlacement

open Document

/-- The tag of an operator in expressions and in code. -/
def Operator.tag : Operator → String
  | .add => "add"
  | .subtract => "subtract"
  | .multiply => "multiply"
  | .divide => "divide"

namespace Expr

/-- An expression as a document. -/
def document : Expr → Document
  | .symbol name => tagged "symbol" (.string name)
  | .number value => tagged "number" (.real value)
  | .binary operator left right => tagged operator.tag (.array [left.document, right.document])

/-- How messages call a node of an operator. -/
def nodeDescription : Operator → String
  | .add => "tuple variant Expr::Add"
  | .subtract => "tuple variant Expr::Subtract"
  | .multiply => "tuple variant Expr::Multiply"
  | .divide => "tuple variant Expr::Divide"

/-- The alternative of an operator, given how its operands are read. -/
def nodeAlternative (operand : Reader Expr) (operator : Operator) : Reader.Alternative Expr :=
  ⟨operator.tag, .several
    (Reader.map (fun operands => .binary operator operands.1 operands.2)
      (Reader.pair (nodeDescription operator) operand operand))⟩

/-- Reads an expression with at most `depth` nodes on a path. -/
def readerWithin : Nat → Reader Expr
  | 0 => fun _ _ => .error .tooDeep
  | depth + 1 =>
    Reader.variant
      [⟨"symbol", .single (Reader.map .symbol Reader.text)⟩,
        ⟨"number", .single (Reader.map .number Reader.float)⟩,
        nodeAlternative (readerWithin depth) .add, nodeAlternative (readerWithin depth) .subtract,
        nodeAlternative (readerWithin depth) .multiply,
        nodeAlternative (readerWithin depth) .divide]

/-- Reads an expression. Each node opens a record, so the records that may still be
opened bound the depth. -/
def reader : Reader Expr := fun levels => readerWithin (levels + 1) levels

end Expr

end WindowPlacement
