import WindowPlacement.Config.Document
import WindowPlacement.Files
import WindowPlacement.Files.Path

/-!
# Configuration files

A configuration is saved as a text in a file of its own, and the directories above it
are made where they are missing. Loading reads and never writes; only where nothing is
there yet may the sample be saved first.
-/

namespace WindowPlacement.Config

variable {m : Type → Type} [Monad m] [FileSystem m]

/-- Uses the file system; its refusal becomes the cause of a fault in this context. -/
def attempt {α : Type} (context : String) (operation : m (Except FileProblem α)) :
    ExceptT Fault m α := do
  match ← (operation : ExceptT Fault m (Except FileProblem α)) with
  | .ok value => return value
  | .error problem => throw (.other context [problem.message])

/-- The path of the configuration in a home directory. -/
def defaultPath (home : String) : String := Path.join home fileName

/-- Loads the configuration from the file at a path. -/
def load (path : String) : ExceptT Fault m Config := do
  let text ← attempt ("read configuration '" ++ path ++ "'") (FileSystem.readText path)
  ExceptT.mk (pure (ofText text))

/-- Saves a configuration to the file at a path. -/
def save (config : Config) (path : String) : ExceptT Fault m Unit := do
  match Path.parent? path with
  | none | some "" => pure ()
  | some parent =>
    attempt ("create config dir '" ++ parent ++ "'") (FileSystem.makeDirectories parent)
  attempt ("write configuration '" ++ path ++ "'") (FileSystem.writeText path config.toText)

/-- Loads the configuration at a path, after saving the sample there if nothing is
there yet. -/
def loadOrCreate (path : String) : ExceptT Fault m Config := do
  let isPresent ← (FileSystem.isPresent path : m Bool)
  if !isPresent then save sample path
  load path

end WindowPlacement.Config
