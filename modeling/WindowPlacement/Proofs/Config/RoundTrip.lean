import WindowPlacement.Config.Document
import WindowPlacement.Proofs.Document.Numbers

/-!
# Configurations are read back

What is written for a configuration is read as that configuration again. The shapes are gone
through from the inside to the outside: texts and key codes, points and sizes, hot keys,
actions, the whole. What an action leaves alone is not written, and is not missed when it is
read.

Five lists and records are open at most at the same time, however long a configuration is.
-/

namespace WindowPlacement

open Document Reader

/-- The source texts of a point are read back. The name of the record is that of its owner, and
matters in messages only. -/
theorem Point.readsBack (name : String) (point : Point String) :
    (Point.reader name Reader.text).ReadsBack 1 (point.document .string) point :=
  Fills.readsBack
    (.required rfl rfl (.text point.x) (.required rfl rfl (.text point.y) (.done _))) rfl

/-- The source texts of a size are read back. Points and sizes are read alike but for the names
of their members. -/
theorem Size.readsBack (name : String) (size : Size String) :
    (Size.reader name Reader.text).ReadsBack 1 (size.document .string) size :=
  Fills.readsBack
    (.required rfl rfl (.text size.width) (.required rfl rfl (.text size.height) (.done _))) rfl

/-- A modifier is read back. Each of the four has a tag of its own, and no other text is a
modifier. -/
theorem Modifier.readsBack (modifier : Modifier) :
    Modifier.reader.ReadsBack 0 modifier.document modifier := by
  cases modifier <;> exact ReadsBack.bare rfl

/-- A hot key is read back. Key codes are whole numbers below two to the power of 32, and all of
these are kept, as are repeated modifiers. -/
theorem HotKey.readsBack (hotKey : HotKey) :
    HotKey.reader.ReadsBack 2 hotKey.document hotKey := by
  have keyCode := (ReadsBack.word32 hotKey.keyCode).mono (Nat.zero_le 1)
  have modifiers := ReadsBack.list (List.forall₂_map_left_iff.mpr
    (List.forall₂_same.mpr fun modifier (_ : modifier ∈ hotKey.modifiers) => modifier.readsBack))
  exact Fills.readsBack
    (.required rfl rfl keyCode (.required rfl rfl modifiers (.done _))) rfl

/-- An action is read back, with or without a move and with or without a resizing. A member that
is left out is not told from one that is null, and neither is written. -/
theorem Action.readsBack (action : Action String) :
    Action.reader.ReadsBack 3 action.document action := by
  obtain ⟨hotKey, move, resize⟩ := action
  have moves (move : Point String) :=
    ((Point.readsBack "MoveConfig" move).optional).mono (Nat.le_succ 1)
  have resizes (resize : Size String) :=
    ((Size.readsBack "ResizeConfig" resize).optional).mono (Nat.le_succ 1)
  cases move with
  | none =>
    cases resize with
    | none => exact Fills.readsBack (.required rfl rfl hotKey.readsBack (.done _)) rfl
    | some resize =>
      exact Fills.readsBack
        (.required rfl rfl hotKey.readsBack (.omissible rfl rfl (resizes resize) (.done _))) rfl
  | some move =>
    cases resize with
    | none =>
      exact Fills.readsBack
        (.required rfl rfl hotKey.readsBack (.omissible rfl rfl (moves move) (.done _))) rfl
    | some resize =>
      exact Fills.readsBack
        (.required rfl rfl hotKey.readsBack
          (.omissible rfl rfl (moves move) (.omissible rfl rfl (resizes resize) (.done _)))) rfl

namespace Config

/-- A configuration is read back. The order of the actions is kept, and there may be none. -/
theorem readsBack (config : Config) : Config.reader.ReadsBack 5 config.document config := by
  have actions := ReadsBack.list (List.forall₂_map_left_iff.mpr
    (List.forall₂_same.mpr fun action (_ : action ∈ config.actions) => action.readsBack))
  exact Fills.readsBack (.required rfl rfl actions (.done _)) rfl

/-- The text of a configuration is a document that is read back. It is the text with line ends
and indentation that is read, as it stands in a file. -/
theorem read_toText (config : Config) : Document.read reader config.toText = .ok config :=
  read_write config.readsBack (by decide) .pretty

/-- Every configuration can be read from the text that is written for it: whatever characters
its source texts have, whatever keys it names, and whether its actions move a window, resize it,
do both or neither. -/
theorem ofText_toText (config : Config) : ofText config.toText = .ok config := by
  rw [ofText, read_toText]
  rfl

end Config

end WindowPlacement
