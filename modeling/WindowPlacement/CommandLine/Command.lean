import WindowPlacement.CommandLine.Arguments
import WindowPlacement.Fault
import WindowPlacement.Text.Blank

/-!
# Commands

Expressions can be shown at each stage of their compilation and be run; configurations
can be checked, created and put to use. Here the command line becomes one of these
commands, with its arguments read and examined.
-/

namespace WindowPlacement.CommandLine

/-- What an expression is run with. -/
structure RunArguments where
  source : String
  /-- Values of variables in the order in which they were given. -/
  bindings : List (String × Float)
  screen : Option Rect
  window : Option Rect

/-- Which action of which configuration is put to use, and where. -/
structure PlaceArguments where
  config : Option String
  action : Nat
  screen : Rect
  window : Option Rect

/-- A command with its arguments. -/
inductive Command where
  /-- Shows the tokens of a source text. -/
  | tokens (source : String)
  /-- Shows the expression of a source text. -/
  | tree (source : String)
  /-- Shows the code of a source text. -/
  | code (source : String)
  /-- Runs a source text. -/
  | run (arguments : RunArguments)
  /-- Compiles every action of a configuration. -/
  | check (config : Option String)
  /-- Saves the sample configuration, if need be in place of a file that is there. -/
  | create (config : Option String) (replace : Bool)
  /-- Shows where an action places the window. -/
  | place (arguments : PlaceArguments)

/-! ## Values of options -/

/-- A variable and its value, as `NAME=VALUE`. Blanks around both are left out. -/
def readVariable (text : String) : Except String (String × Float) :=
  match text.toList.span (· ≠ '=') with
  | (_, []) => .error ("expected NAME=VALUE, got '" ++ text ++ "'")
  | (name, _ :: value) =>
    match Decimal.read (Text.trim value) with
    | .ok number => .ok (String.ofList (Text.trim name), number)
    | .error reason =>
      .error ("invalid value for '" ++ String.ofList name ++ "': " ++ reason.message)

/-- A rectangle. -/
def readRect (text : String) : Except String Rect :=
  (Rect.ofText text).mapError fun reason => (reason.fault text).message

/-- An index that fits a word of sixty-four bits, with an optional plus sign. -/
def readIndex (text : String) : Except String Nat :=
  let digits :=
    match text.toList with
    | '+' :: digit :: rest => digit :: rest
    | other => other
  if digits.isEmpty then .error "cannot parse integer from empty string"
  else if !digits.all Decimal.isDigit then .error "invalid digit found in string"
  else
    let value := Decimal.digitsValue digits
    if value < UInt64.size then .ok value else .error "number too large to fit in target type"

/-- A path, which must not be empty. -/
def readPath (text : String) : Except ValueError String :=
  if text.isEmpty then .error .absent else .ok text

/-! ## Forms -/

/-- What has been collected of the arguments of any command. -/
structure Collected where
  source : String
  bindings : List (String × Float)
  screen : Option Rect
  window : Option Rect
  config : Option String
  action : Option Nat
  replace : Bool

/-- Nothing collected. -/
def Collected.blank : Collected := ⟨"", [], none, none, none, none, false⟩

/-- The options that every command has. -/
def commonChoices : List (Choice Collected) :=
  [⟨"verbose", some 'v', false, .flag id⟩, ⟨"help", some 'h', false, .help⟩]

/-- An option whose value is read by `read`. -/
def valueChoice {α : Type} (name placeholder : String) (repeatable : Bool)
    (read : String → Except String α) (set : Collected → α → Collected) : Choice Collected :=
  ⟨name, none, repeatable, .value placeholder fun collected text =>
    match read text with
    | .ok value => .ok (set collected value)
    | .error reason => .error (.invalid reason)⟩

/-- The option for variables. -/
def variableChoice : Choice Collected :=
  valueChoice "var" "VARS" true readVariable fun collected binding =>
    { collected with bindings := collected.bindings ++ [binding] }

/-- The option for the screen. -/
def screenChoice : Choice Collected :=
  valueChoice "screen" "SCREEN" false readRect fun collected screen =>
    { collected with screen := some screen }

/-- The option for the window. -/
def windowChoice : Choice Collected :=
  valueChoice "window" "WINDOW" false readRect fun collected window =>
    { collected with window := some window }

/-- The option for the index of an action. -/
def actionChoice : Choice Collected :=
  valueChoice "action" "ACTION" false readIndex fun collected action =>
    { collected with action := some action }

/-- The option for the path of the configuration. -/
def configChoice : Choice Collected :=
  ⟨"config", none, false, .value "CONFIG" fun collected text =>
    (readPath text).map fun path => { collected with config := some path }⟩

/-- The option for replacing a file. -/
def forceChoice : Choice Collected :=
  ⟨"force", none, false, .flag fun collected => { collected with replace := true }⟩

/-- The source text as the argument of a command. -/
def sourceOperand : String × (Collected → String → Collected) :=
  ("SOURCE", fun collected source => { collected with source })

/-- The form of a command, and the command that it makes. -/
structure CommandForm where
  name : String
  choices : List (Choice Collected)
  operand : Option (String × (Collected → String → Collected))
  required : List String → List String
  /-- The command; everything that is required has been collected. -/
  build : Collected → Option Command

/-- A form whose only argument is a source text. -/
def sourceForm (name : String) (build : String → Command) : CommandForm :=
  ⟨name, [], some sourceOperand, fun _ => [], fun collected => some (build collected.source)⟩

/-- The commands in the order in which they are listed. -/
def commandForms : List CommandForm :=
  [sourceForm "tokens" .tokens, sourceForm "ast" .tree, sourceForm "code" .code,
    { name := "eval"
      choices := [variableChoice, screenChoice, windowChoice]
      operand := some sourceOperand
      required := fun given => if given.contains "window" then ["screen"] else []
      build := fun collected =>
        some (.run ⟨collected.source, collected.bindings, collected.screen, collected.window⟩) },
    { name := "check"
      choices := [configChoice]
      operand := none
      required := fun _ => []
      build := fun collected => some (.check collected.config) },
    { name := "init"
      choices := [configChoice, forceChoice]
      operand := none
      required := fun _ => []
      build := fun collected => some (.create collected.config collected.replace) },
    { name := "place"
      choices := [configChoice, actionChoice, screenChoice, windowChoice]
      operand := none
      required := fun _ => ["action", "screen"]
      build := fun collected =>
        match collected.action, collected.screen with
        | some action, some screen =>
          some (.place ⟨collected.config, action, screen, collected.window⟩)
        | _, _ => none }]

/-- The names of the commands. -/
def commandNames : List String := commandForms.map CommandForm.name ++ ["help"]

/-- The options in front of the command. -/
def leadingForm : Form Collected :=
  ⟨commonChoices ++ [⟨"version", some 'V', false, .version⟩], none, fun _ => []⟩

/-- Reads the arguments after the name of a command. -/
def readCommand (form : CommandForm) (arguments : List String) : Except Stop Command := do
  let collected ←
    Form.read ⟨form.choices ++ commonChoices, form.operand, form.required⟩ .blank arguments
  match form.build collected with
  | some command => return command
  | none => .error .help

/-- Reads arguments up to the name of a command, and then those of the command. -/
def readFrom (reading : Reading Collected) : List String → Except Stop Command
  | [] =>
    if reading.given.isEmpty then .error .help
    else .error (.misuse (.missingCommand commandNames))
  | argument :: rest =>
    if argument.toList.head? = some '-' && argument ≠ "-" && !reading.isEscaped then do
      let next ← reading.next leadingForm argument
      readFrom next rest
    else
      match commandForms.find? fun form => form.name = argument with
      | some form =>
        if reading.isEscaped then .error (.misuse (.unexpectedArgument argument))
        else readCommand form rest
      | none =>
        if argument = "help" && !reading.isEscaped then .error .help
        else .error (.misuse (.unknownCommand argument))

/-- Reads a whole command line. -/
def Command.read (arguments : List String) : Except Stop Command :=
  readFrom (.start .blank) arguments

end WindowPlacement.CommandLine
