import WindowPlacement.Config
import WindowPlacement.Fault
import WindowPlacement.Geometry.Document

/-!
# Configuration documents

A configuration is a record of actions. What an action leaves alone is not written, and
may be missing or `null` when it is read.
-/

namespace WindowPlacement

open Document Reader

namespace Modifier

/-- The tag of a modifier. -/
def tag : Modifier → String
  | .shift => "shift"
  | .control => "control"
  | .option => "option"
  | .command => "command"

/-- A modifier as a document. -/
def document (modifier : Modifier) : Document := .string modifier.tag

/-- The alternative of a modifier. -/
def bareAlternative (modifier : Modifier) : Alternative Modifier := ⟨modifier.tag, .bare modifier⟩

/-- Reads a modifier. -/
def reader : Reader Modifier :=
  Reader.variant ([.shift, .control, .option, .command].map bareAlternative)

end Modifier

namespace HotKey

/-- A hot key as a document. -/
def document (hotKey : HotKey) : Document :=
  .object
    [("key_code", .natural hotKey.keyCode.toNat),
      ("modifiers", .array (hotKey.modifiers.map Modifier.document))]

/-- Reads a hot key. -/
def reader : Reader HotKey :=
  Shape.read
    { name := "HotKeyConfig"
      members :=
        [Member.required "key_code" Reader.word32 Prod.fst
            fun record keyCode => (some keyCode, record.2),
          Member.required "modifiers" (Reader.list Modifier.reader) Prod.snd
            fun record modifiers => (record.1, some modifiers)]
      start := (none, none)
      finish := fun
        | (some keyCode, some modifiers) => .ok ⟨keyCode, modifiers⟩
        | (none, _) => .error (.missingMember "key_code")
        | (some _, none) => .error (.missingMember "modifiers") }

end HotKey

namespace Action

/-- The source texts of a move as a document. -/
def moveDocument : Point String → Document := Point.document .string

/-- The source texts of a resizing as a document. -/
def resizeDocument : Size String → Document := Size.document .string

/-- An action as a document. -/
def document (action : Action String) : Document :=
  .object
    ([("hot_key", action.hotKey.document)] ++
      (action.move.map fun move => ("move", moveDocument move)).toList ++
      (action.resize.map fun resize => ("resize", resizeDocument resize)).toList)

/-- Reads the source texts of a move. -/
def moveReader : Reader (Point String) := Point.reader "MoveConfig" Reader.text

/-- Reads the source texts of a resizing. -/
def resizeReader : Reader (Size String) := Size.reader "ResizeConfig" Reader.text

/-- The members of an action of which some have been read. -/
structure Partial where
  hotKey : Option HotKey
  move : Option (Option (Point String))
  resize : Option (Option (Size String))

/-- Reads an action. -/
def reader : Reader (Action String) :=
  Shape.read
    { name := "ActionConfig"
      members :=
        [Member.required "hot_key" HotKey.reader Partial.hotKey
            fun record hotKey => { record with hotKey := some hotKey },
          Member.omissible "move" (Reader.optional moveReader) Partial.move
            fun record move => { record with move := some move },
          Member.omissible "resize" (Reader.optional resizeReader) Partial.resize
            fun record resize => { record with resize := some resize }]
      start := ⟨none, none, none⟩
      finish := fun record =>
        match record.hotKey with
        | none => .error (.missingMember "hot_key")
        | some hotKey => .ok ⟨hotKey, record.move.join, record.resize.join⟩ }

end Action

namespace Config

/-- A configuration as a document. -/
def document (config : Config) : Document :=
  .object [("actions", .array (config.actions.map Action.document))]

/-- Reads a configuration. -/
def reader : Reader Config :=
  Shape.read
    { name := "Config"
      members :=
        [Member.required "actions" (Reader.list Action.reader) id fun _ actions => some actions]
      start := none
      finish := fun
        | some actions => .ok ⟨actions⟩
        | none => .error (.missingMember "actions") }

/-- The text of a configuration. -/
def toText (config : Config) : String := config.document.pretty

/-- Reads the text of a configuration. The fault names the first problem of the text. The line
and the column at which the problem was found are left out of its message. -/
def ofText (text : String) : Except Fault Config :=
  (Document.read reader text).mapError fun problem =>
    .config ("invalid configuration JSON: " ++ problem.message)

end Config

end WindowPlacement
