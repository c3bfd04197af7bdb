import WindowPlacement.Text.Blank

/-!
# Paths

A path is a text whose segments stand between slashes. A segment that is empty, or a
single dot, leads nowhere and is no step; a single dot at the very front is one.
-/

namespace WindowPlacement.Path

/-- The segments of a path. -/
def segments (path : String) : List (List Char) := Text.pieces '/' path.toList

/-- Whether a path begins at the root. -/
def isAbsolute (path : String) : Bool := path.toList.head? = some '/'

/-- Whether a segment is a step, given whether it is the first of its path. -/
def isStep (isFirst : Bool) (segment : List Char) : Bool :=
  !segment.isEmpty && (isFirst || segment ≠ ['.'])

/-- Segments in reverse from the last step on. -/
def fromLastStep : List (List Char) → List (List Char)
  | [] => []
  | segment :: earlier =>
    if isStep earlier.isEmpty segment then segment :: earlier else fromLastStep earlier

/-- The text of segments. -/
def ofSegments (segments : List (List Char)) : String :=
  String.ofList (['/'].intercalate segments)

/-- The path without its last step. A path without a step has no parent; one with a
single step has the root or the empty path. -/
def parent? (path : String) : Option String :=
  match fromLastStep (segments path).reverse with
  | [] => none
  | _ :: earlier =>
    match fromLastStep earlier with
    | [] => some (if isAbsolute path then "/" else "")
    | kept => some (ofSegments kept.reverse)

/-- The path of a file in a directory. -/
def join (directory file : String) : String :=
  if directory.isEmpty || directory.toList.getLast? = some '/' then directory ++ file
  else directory ++ "/" ++ file

end WindowPlacement.Path
