import WindowPlacement.CommandLine.Run

/-!
# The program

The outer layer: arguments, the home directory and files come from the system, and the
outcome goes back to it. Nothing is decided here.
-/

namespace WindowPlacement

/-- The reason for which the system refused a file, by its number. -/
def problemOfCode (code : UInt32) (details : String) : FileProblem :=
  match code.toNat with
  | 2 => .missing
  | 17 => .alreadyThere
  | 20 => .notDirectory
  | 21 => .isDirectory
  | number => .other (details ++ " (os error " ++ toString number ++ ")")

/-- The reason for which the system refused a file. -/
def fileProblem (error : IO.Error) : FileProblem :=
  match error with
  | .noFileOrDirectory _ code details | .alreadyExists _ code details
  | .inappropriateType _ code details | .permissionDenied _ code details
  | .noSuchThing _ code details | .invalidArgument _ code details
  | .resourceExhausted _ code details | .otherError code details
  | .resourceBusy code details | .unsupportedOperation code details =>
    problemOfCode code details
  | other => .other (toString other)

/-- Runs an operation of the system; its refusal is a value. -/
def refusable {α : Type} (operation : IO α) : IO (Except FileProblem α) := do
  try
    let value ← operation
    return .ok value
  catch error => return .error (fileProblem error)

instance : FileSystem IO where
  isPresent path := do
    match ← refusable (IO.FS.withFile path .read fun _ => pure ()) with
    | .error .missing | .error .notDirectory => return false
    | _ => return true
  readText path := do
    match ← refusable (IO.FS.readBinFile path) with
    | .error problem => return .error problem
    | .ok content =>
      match String.fromUTF8? content with
      | some text => return .ok text
      | none => return .error .notText
  makeDirectories path := refusable (IO.FS.createDirAll path)
  writeText path text := refusable (IO.FS.writeFile path text)

end WindowPlacement

/-- Runs the command line. -/
def main (arguments : List String) : IO UInt32 := do
  let home ← IO.getEnv "HOME"
  let outcome ← WindowPlacement.CommandLine.runArguments home arguments
  IO.print outcome.output
  if !outcome.notice.isEmpty then IO.eprintln outcome.notice
  return outcome.status.toUInt32
