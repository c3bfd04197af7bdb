import WindowPlacement.Files
import WindowPlacement.Files.Path

/-!
# Folders in memory

A folder holds files and directories by where they stand: the names on the way to them from
the root. What was written last is what is read. A path begins at the root if a slash stands
in front of it, and in the working directory otherwise. Above the root there is nothing, so
that a step up from there leads nowhere else.

Only what stands where decides whether the folder refuses something. Links, permissions and
the space on a disk are left out.
-/

namespace WindowPlacement

/-- What stands at a place of a folder. -/
inductive Entry where
  | directory
  | file (content : ByteArray)

/-- Files and directories, each under the names that lead to it from the root. -/
structure Folder where
  /-- What stands where; of two entries for one place the first counts. -/
  entries : List (List String × Entry)
  /-- The place of the directory in which paths begin that do not begin at the root. -/
  working : List String

namespace Folder

/-- A working directory without anything in it, right below the root. -/
def empty : Folder := ⟨[(["folder"], .directory)], ["folder"]⟩

/-- What stands at a place. The root is a directory. -/
def find? (folder : Folder) (place : List String) : Option Entry :=
  if place = [] then some .directory else folder.entries.lookup place

/-- Puts an entry at a place. -/
def put (folder : Folder) (place : List String) (entry : Entry) : Folder :=
  { folder with
    entries := (place, entry) :: folder.entries.filter fun other => other.1 ≠ place }

/-- Fails unless a directory stands at a place. -/
def enter (folder : Folder) (place : List String) : Except FileProblem Unit :=
  match folder.find? place with
  | some .directory => .ok ()
  | some (.file _) => .error .notDirectory
  | none => .error .missing

/-- Where a segment leads from a place: nowhere else, one step up, or to a name. -/
def towards (place : List String) (segment : List Char) : List String :=
  if segment = [] || segment = ['.'] then place
  else if segment = ['.', '.'] then place.dropLast
  else place ++ [String.ofList segment]

/-- The place to which segments lead from a place. Only the last of them may lead to
something that is not there. -/
def walk (folder : Folder) : List String → List (List Char) → Except FileProblem (List String)
  | place, [] => .ok place
  | place, segment :: rest => do
    folder.enter place
    walk folder (towards place segment) rest

/-- The place at which a path begins. -/
def start (folder : Folder) (path : String) : List String :=
  if Path.isAbsolute path then [] else folder.working

/-- The place to which a path leads. -/
def locate (folder : Folder) (path : String) : Except FileProblem (List String) :=
  if path.isEmpty then .error .missing
  else folder.walk (folder.start path) (Path.segments path)

/-- Whether anything is at a path. -/
def isPresent (folder : Folder) (path : String) : Bool :=
  match folder.locate path with
  | .ok place => (folder.find? place).isSome
  | .error _ => false

/-- The text of the file at a path. -/
def readText (folder : Folder) (path : String) : Except FileProblem String := do
  let place ← folder.locate path
  match folder.find? place with
  | none => .error .missing
  | some .directory => .error .isDirectory
  | some (.file content) =>
    match String.fromUTF8? content with
    | some text => .ok text
    | none => .error .notText

/-- Puts bytes into the file at a path. A path that ends in a slash names a directory. -/
def writeBytes (folder : Folder) (path : String) (content : ByteArray) :
    Except FileProblem Folder := do
  if path.toList.getLast? = some '/' then .error .isDirectory
  let place ← folder.locate path
  match folder.find? place with
  | some .directory => .error .isDirectory
  | _ => .ok (folder.put place (.file content))

/-- Puts a text into the file at a path. -/
def writeText (folder : Folder) (path text : String) : Except FileProblem Folder :=
  folder.writeBytes path text.toUTF8

/-- Makes the directories to which segments lead from a place, as far as they are missing. -/
def makeAlong (folder : Folder) : List String → List (List Char) → Except FileProblem Folder
  | _, [] => .ok folder
  | place, segment :: rest =>
    let next := towards place segment
    match folder.find? next with
    | some .directory => makeAlong folder next rest
    | some (.file _) => .error (if rest.isEmpty then .alreadyThere else .notDirectory)
    | none => makeAlong (folder.put next .directory) next rest

/-- Makes the directory at a path and those above it. -/
def makeDirectories (folder : Folder) (path : String) : Except FileProblem Folder :=
  if path.isEmpty then .ok folder
  else folder.makeAlong (folder.start path) (Path.segments path)

/-- The files below the working directory with their contents, by their paths from there. -/
def files (folder : Folder) : List (String × ByteArray) :=
  folder.entries.filterMap fun (place, entry) =>
    match entry with
    | .directory => none
    | .file content =>
      if folder.working.isPrefixOf place then
        some ("/".intercalate (place.drop folder.working.length), content)
      else none

/-- Replaces the folder where an operation succeeds. -/
def update (operation : Folder → Except FileProblem Folder) :
    StateM Folder (Except FileProblem Unit) := fun folder =>
  match operation folder with
  | .ok changed => (.ok (), changed)
  | .error problem => (.error problem, folder)

instance : FileSystem (StateM Folder) where
  isPresent path := fun folder => (folder.isPresent path, folder)
  readText path := fun folder => (folder.readText path, folder)
  makeDirectories path := update fun folder => folder.makeDirectories path
  writeText path text := update fun folder => folder.writeText path text

end Folder

end WindowPlacement
