/-!
# Arguments of a command

A command takes options in any order and at most one argument of its own. An option is a
flag or has a value, which is the next argument or stands after an equals sign. An
argument that begins with a dash is an option unless two dashes alone stand before it.

Arguments are read from left to right. The value of an option is examined when the next
option with a value, the next argument of the command or the end is reached; an argument
that is out of place is reported even before that.
-/

namespace WindowPlacement.CommandLine

/-- Why a command line is refused. -/
inductive Misuse where
  | unexpectedArgument (argument : String)
  | unknownCommand (name : String)
  | invalidValue (value option reason : String)
  | missingValue (option : String)
  | repeated (option : String)
  | uncalledValue (value option : String)
  | missingArguments (wanted : List String)
  | missingCommand (known : List String)
deriving DecidableEq, Repr

/-- What is reported for each reason. -/
def Misuse.message : Misuse → String
  | .unexpectedArgument argument => "unexpected argument '" ++ argument ++ "' found"
  | .unknownCommand name => "unrecognized subcommand '" ++ name ++ "'"
  | .invalidValue value option reason =>
    "invalid value '" ++ value ++ "' for '" ++ option ++ "': " ++ reason
  | .missingValue option => "a value is required for '" ++ option ++ "' but none was supplied"
  | .repeated option => "the argument '" ++ option ++ "' cannot be used multiple times"
  | .uncalledValue value option =>
    "unexpected value '" ++ value ++ "' for '" ++ option ++ "' found; no more were expected"
  | .missingArguments wanted =>
    "the following required arguments were not provided:" ++
      String.join (wanted.map fun argument => "\n  " ++ argument)
  | .missingCommand known =>
    "'alignscript' requires a subcommand but one was not provided\n  [subcommands: " ++
      ", ".intercalate known ++ "]"

/-- What a command line asks for other than running a command. -/
inductive Stop where
  | misuse (reason : Misuse)
  | version
  | help
deriving DecidableEq, Repr

/-- Why the value of an option is refused. -/
inductive ValueError where
  /-- An empty value counts as none. -/
  | absent
  | invalid (reason : String)

/-- What an option does to what was collected before. -/
inductive Effect (ρ : Type) where
  | flag (set : ρ → ρ)
  | value (placeholder : String) (accept : ρ → String → Except ValueError ρ)
  | help
  | version

/-- An option of a command. -/
structure Choice (ρ : Type) where
  name : String
  short : Option Char
  /-- Whether it may be given more than once. -/
  repeatable : Bool
  effect : Effect ρ

/-- How messages show an option. -/
def Choice.description {ρ : Type} (choice : Choice ρ) : String :=
  match choice.effect with
  | .value placeholder _ => "--" ++ choice.name ++ " <" ++ placeholder ++ ">"
  | _ => "--" ++ choice.name

/-- The options and the argument of a command. -/
structure Form (ρ : Type) where
  choices : List (Choice ρ)
  /-- The placeholder of the argument, and what it does. -/
  operand : Option (String × (ρ → String → ρ))
  /-- The options that have to be given, in the presence of those given. -/
  required : List String → List String

/-- What has been read of the arguments. -/
structure Reading (ρ : Type) where
  /-- What was collected. -/
  collected : ρ
  /-- The names of the options that were given. -/
  given : List String
  /-- The last option, with its value if that was read, while it waits to be examined. -/
  pending : Option (Choice ρ × Option String)
  /-- Whether the argument of the command was given. -/
  hasOperand : Bool
  /-- Whether two dashes have ended the options. -/
  isEscaped : Bool

namespace Reading

variable {ρ : Type}

/-- The state before the first argument. -/
def start (collected : ρ) : Reading ρ := ⟨collected, [], none, false, false⟩

/-- Notes that an option is given; most may be given only once. -/
def note (reading : Reading ρ) (choice : Choice ρ) : Except Stop (Reading ρ) :=
  if reading.given.contains choice.name && !choice.repeatable then
    .error (.misuse (.repeated choice.description))
  else .ok { reading with given := choice.name :: reading.given }

/-- Examines the value of an option. -/
def take (reading : Reading ρ) (choice : Choice ρ) (value : String) :
    Except Stop (Reading ρ) := do
  let noted ← reading.note choice
  match choice.effect with
  | .value _ accept =>
    match accept noted.collected value with
    | .ok collected => return { noted with collected }
    | .error .absent => .error (.misuse (.missingValue choice.description))
    | .error (.invalid reason) =>
      .error (.misuse (.invalidValue value choice.description reason))
  | _ => return noted

/-- Examines the option that waits. -/
def settle (reading : Reading ρ) : Except Stop (Reading ρ) :=
  match reading.pending with
  | none => .ok reading
  | some (choice, none) => .error (.misuse (.missingValue choice.description))
  | some (choice, some value) => { reading with pending := none }.take choice value

/-- An option without a value. -/
def raise (reading : Reading ρ) (choice : Choice ρ) : Except Stop (Reading ρ) := do
  let settled ← reading.settle
  match choice.effect with
  | .flag set =>
    let noted ← settled.note choice
    return { noted with collected := set noted.collected }
  | .value _ _ => return { settled with pending := some (choice, none) }
  | .help => .error .help
  | .version => .error .version

/-- An option by its name, perhaps with a value attached. -/
def long (form : Form ρ) (reading : Reading ρ) (name : String) (attached : Option String) :
    Except Stop (Reading ρ) :=
  match form.choices.find? fun choice => choice.name = name with
  | none => .error (.misuse (.unexpectedArgument ("--" ++ name)))
  | some choice =>
    match attached, choice.effect with
    | none, _ => reading.raise choice
    | some value, .value _ _ => do
      let settled ← reading.settle
      settled.take choice value
    | some value, _ => .error (.misuse (.uncalledValue value choice.description))

/-- Options by their letters. -/
def short (form : Form ρ) : Reading ρ → List Char → Except Stop (Reading ρ)
  | reading, [] => .ok reading
  | reading, letter :: letters =>
    match form.choices.find? fun choice => choice.short = some letter with
    | none => .error (.misuse (.unexpectedArgument (String.ofList ['-', letter])))
    | some choice => do
      let next ← reading.raise choice
      short form next letters

/-- An argument that is no option: the value of the option that waits for one, or the
argument of the command. -/
def plain (form : Form ρ) (reading : Reading ρ) (argument : String) :
    Except Stop (Reading ρ) :=
  match reading.pending, reading.isEscaped with
  | some (choice, none), false => .ok { reading with pending := some (choice, some argument) }
  | _, _ =>
    match form.operand, reading.hasOperand with
    | some (_, set), false => do
      let settled ← reading.settle
      return { settled with collected := set settled.collected argument, hasOperand := true }
    | _, _ => .error (.misuse (.unexpectedArgument argument))

/-- Splits an option at its first equals sign. -/
def attachment (option : List Char) : String × Option String :=
  match option.span (· ≠ '=') with
  | (name, []) => (String.ofList name, none)
  | (name, _ :: value) => (String.ofList name, some (String.ofList value))

/-- One argument. -/
def next (form : Form ρ) (reading : Reading ρ) (argument : String) : Except Stop (Reading ρ) :=
  if reading.isEscaped then reading.plain form argument
  else match argument.toList with
    | ['-', '-'] => .ok { reading with isEscaped := true }
    | '-' :: '-' :: option =>
      let (name, attached) := attachment option
      reading.long form name attached
    | '-' :: letter :: letters => reading.short form (letter :: letters)
    | _ => reading.plain form argument

/-- The end of the arguments: everything that is required has to be there. -/
def finish (form : Form ρ) (reading : Reading ρ) : Except Stop ρ := do
  let settled ← reading.settle
  let absent := form.choices.filter fun choice =>
    (form.required settled.given).contains choice.name && !settled.given.contains choice.name
  let operand :=
    match form.operand, settled.hasOperand with
    | some (placeholder, _), false => ["<" ++ placeholder ++ ">"]
    | _, _ => []
  match absent.map Choice.description ++ operand with
  | [] => return settled.collected
  | wanted => .error (.misuse (.missingArguments wanted))

end Reading

/-- Reads the arguments of a command. -/
def Form.read {ρ : Type} (form : Form ρ) (blank : ρ) (arguments : List String) :
    Except Stop ρ := do
  let reading ← arguments.foldlM (Reading.next form) (.start blank)
  reading.finish form

end WindowPlacement.CommandLine
