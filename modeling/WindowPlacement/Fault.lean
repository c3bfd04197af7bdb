import WindowPlacement.Expr.Grammar
import WindowPlacement.Geometry
import WindowPlacement.Machine
import WindowPlacement.Token.Lexer

/-!
# Faults

What can go wrong between a configuration and a placement, by the stage that found it.
Each fault has one message and a list of causes behind it, the nearest one first.
-/

namespace WindowPlacement

/-- A field of an action that holds an expression. -/
inductive Field where
  | moveX
  | moveY
  | resizeWidth
  | resizeHeight
deriving DecidableEq, Repr

/-- Where the field stands in a configuration. -/
def Field.label : Field → String
  | .moveX => "move.x"
  | .moveY => "move.y"
  | .resizeWidth => "resize.width"
  | .resizeHeight => "resize.height"

/-- What went wrong. -/
inductive Fault where
  /-- A source text is not a row of tokens. -/
  | lexical (reason : LexicalError)
  /-- Tokens are not an expression. -/
  | grammar (reason : GrammarError)
  /-- Code has no result. -/
  | run (reason : RunError)
  /-- A configuration document or a text in it is not valid. -/
  | config (message : String)
  /-- An expression of an action is not valid. -/
  | action (index : Nat) (field : Field) (cause : Fault)
  /-- Something outside failed, for the causes given. -/
  | other (message : String) (causes : List String)
deriving Inhabited

namespace Fault

/-- What is reported. -/
def message : Fault → String
  | .lexical reason => "tokenize error: " ++ reason.message
  | .grammar reason => "parse error: " ++ reason.message
  | .run reason => "runtime error: " ++ reason.message
  | .config message => "config error: " ++ message
  | .action index field cause =>
    "action " ++ toString index ++ " '" ++ field.label ++ "': " ++ cause.message
  | .other message _ => message

/-- The messages of the causes behind a fault, the nearest one first. -/
def causes : Fault → List String
  | .lexical reason => [reason.message]
  | .grammar reason => [reason.message]
  | .run reason => [reason.message]
  | .config _ => []
  | .action _ _ cause => cause.message :: cause.causes
  | .other _ causes => causes

end Fault

/-- The fault of a text that is no rectangle. -/
def Rect.TextError.fault (reason : Rect.TextError) (text : String) : Fault :=
  .config ("invalid rect '" ++ text ++ "': " ++ reason.message)

end WindowPlacement
