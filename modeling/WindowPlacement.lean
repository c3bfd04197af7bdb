import WindowPlacement.Code
import WindowPlacement.Code.Compile
import WindowPlacement.Code.Document
import WindowPlacement.CommandLine.Arguments
import WindowPlacement.CommandLine.Command
import WindowPlacement.CommandLine.Report
import WindowPlacement.CommandLine.Run
import WindowPlacement.Config
import WindowPlacement.Config.Document
import WindowPlacement.Config.File
import WindowPlacement.Decimal.Layout
import WindowPlacement.Decimal.Literal
import WindowPlacement.Decimal.Shortest
import WindowPlacement.Document
import WindowPlacement.Document.Notation
import WindowPlacement.Document.Problem
import WindowPlacement.Document.Reader
import WindowPlacement.Document.Skip
import WindowPlacement.Expr
import WindowPlacement.Expr.Document
import WindowPlacement.Expr.Grammar
import WindowPlacement.Fault
import WindowPlacement.Files
import WindowPlacement.Files.Folder
import WindowPlacement.Files.Path
import WindowPlacement.Geometry
import WindowPlacement.Geometry.Document
import WindowPlacement.Inquiry
import WindowPlacement.Machine
import WindowPlacement.Main
import WindowPlacement.Operator
import WindowPlacement.Parser
import WindowPlacement.Placement
import WindowPlacement.Proofs.Code.Height
import WindowPlacement.Proofs.Code.Postfix
import WindowPlacement.Proofs.Code.Storage
import WindowPlacement.Proofs.Config.Compilation
import WindowPlacement.Proofs.Config.Keeping
import WindowPlacement.Proofs.Config.RoundTrip
import WindowPlacement.Proofs.Decimal.Arithmetic
import WindowPlacement.Proofs.Decimal.Bits
import WindowPlacement.Proofs.Decimal.Digits
import WindowPlacement.Proofs.Decimal.Numeric
import WindowPlacement.Proofs.Decimal.Rounding
import WindowPlacement.Proofs.Decimal.Shortest
import WindowPlacement.Proofs.Document.Layout
import WindowPlacement.Proofs.Document.Nesting
import WindowPlacement.Proofs.Document.Numbers
import WindowPlacement.Proofs.Document.Quoted
import WindowPlacement.Proofs.Document.ReadsBack
import WindowPlacement.Proofs.Document.Reals
import WindowPlacement.Proofs.Document.Scaling
import WindowPlacement.Proofs.Document.Whole
import WindowPlacement.Proofs.Expr.Conservation
import WindowPlacement.Proofs.Expr.Context
import WindowPlacement.Proofs.Expr.Derivation
import WindowPlacement.Proofs.Expr.Inlining
import WindowPlacement.Proofs.Expr.LongestPrefix
import WindowPlacement.Proofs.Expr.Printing
import WindowPlacement.Proofs.Expr.Productions
import WindowPlacement.Proofs.Expr.Storage
import WindowPlacement.Proofs.Expr.Value
import WindowPlacement.Proofs.Files.Folder
import WindowPlacement.Proofs.Geometry.Rectangle
import WindowPlacement.Proofs.Inquiry.Stateless
import WindowPlacement.Proofs.Inquiry.Transcript
import WindowPlacement.Proofs.Machine.Extension
import WindowPlacement.Proofs.Machine.Frame
import WindowPlacement.Proofs.Machine.Lookups
import WindowPlacement.Proofs.Machine.TreeSemantics
import WindowPlacement.Proofs.Machine.Underflow
import WindowPlacement.Proofs.Parser.Composition
import WindowPlacement.Proofs.Parser.Progress
import WindowPlacement.Proofs.Parser.Repetition
import WindowPlacement.Proofs.Parser.Scanning
import WindowPlacement.Proofs.Parser.Termination
import WindowPlacement.Proofs.Placement.Names
import WindowPlacement.Proofs.Placement.Order
import WindowPlacement.Proofs.Text.Pieces
import WindowPlacement.Proofs.Token.Joining
import WindowPlacement.Proofs.Token.Layout
import WindowPlacement.Proofs.Token.Leftover
import WindowPlacement.Proofs.Token.Lexeme
import WindowPlacement.Proofs.Token.Literal
import WindowPlacement.Proofs.Token.Munch
import WindowPlacement.Proofs.Token.Name
import WindowPlacement.Proofs.Token.Number
import WindowPlacement.Proofs.Token.NumberToken
import WindowPlacement.Proofs.Token.Visible
import WindowPlacement.Text.Blank
import WindowPlacement.Text.Hidden
import WindowPlacement.Text.Quoted
import WindowPlacement.Token
import WindowPlacement.Token.Document
import WindowPlacement.Token.Lexer
