import WindowPlacement.Code
import WindowPlacement.Fault

/-!
# From source text to code

The three stages in a row: tokens, expression, code. The first stage that fails gives
the fault.
-/

namespace WindowPlacement

/-- Compiles a source text. -/
def Code.compile (source : String) : Except Fault Code := do
  let tokens ← (Lexer.tokenize source).mapError .lexical
  let expr ← (Grammar.parse tokens).mapError .grammar
  return .ofExpr expr

end WindowPlacement
