import WindowPlacement.Code.Document
import WindowPlacement.CommandLine.Command
import WindowPlacement.CommandLine.Report
import WindowPlacement.Config.File
import WindowPlacement.Placement
import WindowPlacement.Token.Document

/-!
# Carrying out commands

A command writes its result, or it fails with a report. Everything that it needs from
outside is a file system and the home directory, if one is known.
-/

namespace WindowPlacement.CommandLine

/-- What a program leaves when it ends. -/
structure Outcome where
  /-- Zero after a success. -/
  status : Nat
  /-- The text of the result. -/
  output : String
  /-- What is told to the person at the keyboard, without a line end. -/
  notice : String
deriving DecidableEq

namespace Outcome

/-- A success with a result. -/
def success (output : String) : Outcome := ⟨0, output, ""⟩

/-- A failure with its causes. -/
def failure (message : String) (causes : List String) : Outcome := ⟨1, "", report message causes⟩

/-- A failure that a fault explains. -/
def ofFault (fault : Fault) : Outcome := failure fault.message fault.causes

/-- A document as the result. -/
def ofDocument (document : Document) : Outcome := success (document.pretty ++ "\n")

end Outcome

/-! ## Expressions -/

/-- Shows the tokens of a source text. -/
def showTokens (source : String) : Outcome :=
  match Lexer.tokenize source with
  | .error reason => .failure reason.message []
  | .ok tokens => .ofDocument (.array (tokens.map Token.document))

/-- Shows the expression of a source text. -/
def showTree (source : String) : Outcome :=
  match Lexer.tokenize source with
  | .error reason => .failure reason.message []
  | .ok tokens =>
    match Grammar.parse tokens with
    | .error reason => .failure reason.message []
    | .ok expr => .ofDocument expr.document

/-- Shows the code of a source text. -/
def showCode (source : String) : Outcome :=
  match Code.compile source with
  | .error fault => .ofFault fault
  | .ok code => .ofDocument code.document

/-- The value of a name: the last one given for it, or else one of the geometry. -/
def RunArguments.lookup (arguments : RunArguments) (name : String) : Option Float :=
  match arguments.bindings.reverse.lookup name with
  | some value => some value
  | none =>
    arguments.screen.bind fun screen => (Geometry.ofRects screen arguments.window).lookup name

/-- Runs an expression. -/
def runExpression (arguments : RunArguments) : Outcome :=
  match Code.compile arguments.source with
  | .error fault => .ofFault fault
  | .ok code =>
    match (code.run.run.run (.ofLookup arguments.lookup) ()).answer with
    | .error reason => .failure reason.message []
    | .ok (some value) => .success (Decimal.asResult.text value ++ "\n")
    | .ok none => .success "none\n"

/-! ## Configurations -/

/-- The sizes of two codes. -/
def sizes (name : String) (first second : Code) : String :=
  name ++ " (" ++ toString first.size ++ " + " ++ toString second.size ++ " ops)"

/-- The line that lists an action. -/
def actionLine (index : Nat) (action : Action Code) : String :=
  let parts :=
    (action.move.map fun move => sizes "move" move.x move.y).toList ++
      (action.resize.map fun resize => sizes "resize" resize.width resize.height).toList
  "action " ++ toString index ++ ": key_code=" ++ toString action.hotKey.keyCode.toNat ++
    " modifiers=" ++ Modifier.listing action.hotKey.modifiers ++ " " ++ ", ".intercalate parts ++
    "\n"

/-- The lines that list actions, of which the first has the given index. -/
def actionLines : Nat → List (Action Code) → String
  | _, [] => ""
  | index, action :: others => actionLine index action ++ actionLines (index + 1) others

/-- A placement as a document. -/
def placementDocument (placement : Placement) : Document :=
  .object
    [("origin", placement.origin.elim .null (Point.document .real)),
      ("size", placement.size.elim .null (Size.document .real))]

variable {m : Type → Type} [Monad m] [FileSystem m]

/-- The path that was given, or the one in the home directory. -/
def configPath (home : Option String) : Option String → ExceptT Fault m String
  | some path => return path
  | none =>
    match home with
    | some home => return Config.defaultPath home
    | none => throw (.other "HOME is not set; pass --config" [])

/-- Compiles every action of a configuration and lists them. -/
def checkConfig (home config : Option String) : ExceptT Fault m Outcome := do
  let path ← configPath home config
  let config ← Config.load path
  let actions ← ExceptT.mk (pure config.compileActions)
  return .success
    (actionLines 0 actions ++ "ok: " ++ toString actions.length ++ " action(s) in " ++ path ++
      "\n")

/-- Saves the sample configuration. -/
def createConfig (home config : Option String) (replace : Bool) : ExceptT Fault m Outcome := do
  let path ← configPath home config
  let isPresent ← (FileSystem.isPresent path : m Bool)
  if isPresent && !replace then
    throw (.other ("'" ++ path ++ "' already exists (use --force)") [])
  Config.save Config.sample path
  return ⟨0, "", "wrote " ++ path⟩

/-- Shows where an action places the window. -/
def placeWindow (home : Option String) (arguments : PlaceArguments) :
    ExceptT Fault m Outcome := do
  let path ← configPath home arguments.config
  let config ← Config.load path
  let actions ← ExceptT.mk (pure config.compileActions)
  match actions[arguments.action]? with
  | none =>
    throw (.other
      ("action " ++ toString arguments.action ++ " out of range (" ++ toString actions.length ++
        " configured)") [])
  | some action =>
    let geometry := Geometry.ofRects arguments.screen arguments.window
    match (action.placement.run.run (.ofLookup geometry.lookup) ()).answer with
    | .error reason => throw (.run reason)
    | .ok placement => return .ofDocument (placementDocument placement)

/-- Ends a command that may fail. -/
def settled (command : ExceptT Fault m Outcome) : m Outcome := do
  match ← command.run with
  | .ok outcome => return outcome
  | .error fault => return .ofFault fault

/-- Carries out a command. -/
def Command.carryOut (home : Option String) : Command → m Outcome
  | .tokens source => return showTokens source
  | .tree source => return showTree source
  | .code source => return showCode source
  | .run arguments => return runExpression arguments
  | .check config => settled (checkConfig home config)
  | .create config replace => settled (createConfig home config replace)
  | .place arguments => settled (placeWindow home arguments)

/-- The name and the number of the version. -/
def versionLine : String := "alignscript 0.1.0\n"

/-- How the program is called. -/
def usageLine : String :=
  "Usage: alignscript [OPTIONS] <COMMAND>\nCommands: " ++ ", ".intercalate commandNames ++ "\n"

/-- Reads a command line and carries it out. -/
def runArguments (home : Option String) (arguments : List String) : m Outcome :=
  match Command.read arguments with
  | .ok command => command.carryOut home
  | .error (.misuse reason) => return ⟨2, "", "error: " ++ reason.message⟩
  | .error .version => return .success versionLine
  | .error .help =>
    if arguments.isEmpty then return ⟨2, "", usageLine⟩ else return .success usageLine

end WindowPlacement.CommandLine
