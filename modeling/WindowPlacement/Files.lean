/-!
# File systems

What the program needs of a file system: whether something is there, whole texts read
and written, and directories made. Everything else is stated for any file system that
offers these.
-/

namespace WindowPlacement

/-- Why a file system refuses. -/
inductive FileProblem where
  | missing
  | alreadyThere
  | notDirectory
  | isDirectory
  /-- The bytes of the file are no text. -/
  | notText
  /-- Any other reason. -/
  | other (message : String)
deriving DecidableEq, Repr

/-- What is reported for each reason. -/
def FileProblem.message : FileProblem → String
  | .missing => "No such file or directory (os error 2)"
  | .alreadyThere => "File exists (os error 17)"
  | .notDirectory => "Not a directory (os error 20)"
  | .isDirectory => "Is a directory (os error 21)"
  | .notText => "stream did not contain valid UTF-8"
  | .other message => message

/-- A file system as the effects of `m`. -/
class FileSystem (m : Type → Type) where
  /-- Whether a file or a directory is at the path. -/
  isPresent : String → m Bool
  /-- The text of the file at the path. -/
  readText : String → m (Except FileProblem String)
  /-- Makes the directory at the path and those above it, as far as they are missing. -/
  makeDirectories : String → m (Except FileProblem Unit)
  /-- Puts a text into the file at the path, which need not be there. -/
  writeText : String → String → m (Except FileProblem Unit)

end WindowPlacement
