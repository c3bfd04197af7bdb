import WindowPlacement.Fault
import WindowPlacement.Text.Blank

/-!
# Reports of failures

A report has the message of a failure and, where there are any, its causes, the nearest
one first. Several causes are numbered. A cause that has several lines keeps them, each
indented as far as the text of the first.
-/

namespace WindowPlacement.CommandLine

/-- The lines of a text, each after the first with an indentation. -/
def indented (indentation : Nat) (text : String) : String :=
  String.ofList
    (('\n' :: List.replicate indentation ' ').intercalate (Text.pieces '\n' text.toList))

/-- A number at the right end of five places. -/
def rightAligned (number : Nat) : String :=
  let digits := (toString number).toList
  String.ofList (List.replicate (5 - digits.length) ' ' ++ digits)

/-- The causes with their numbers, from `number` on. -/
def numbered : Nat → List String → List String
  | _, [] => []
  | number, cause :: others =>
    (rightAligned number ++ ": " ++ indented 7 cause) :: numbered (number + 1) others

/-- The report of a failure. -/
def report (message : String) (causes : List String) : String :=
  let listed :=
    match causes with
    | [only] => ["    " ++ indented 4 only]
    | several => numbered 0 several
  if listed.isEmpty then "Error: " ++ message
  else "Error: " ++ message ++ "\n\nCaused by:\n" ++ "\n".intercalate listed

end WindowPlacement.CommandLine
