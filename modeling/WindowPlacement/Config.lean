import WindowPlacement.Geometry

/-!
# Configurations

A configuration is a list of actions. An action is bound to a hot key and may move
the focused window, resize it, or both. What stands for each coordinate and measure is
left open: source texts in a configuration, code once it is compiled.
-/

namespace WindowPlacement

/-- A key that is held down together with another. -/
inductive Modifier where
  | shift
  | control
  | option
  | command
deriving DecidableEq, Repr

namespace Modifier

/-- How a listing shows a modifier. -/
def description : Modifier → String
  | .shift => "Shift"
  | .control => "Control"
  | .option => "Option"
  | .command => "Command"

/-- How a listing shows several modifiers. -/
def listing (modifiers : List Modifier) : String :=
  "[" ++ ", ".intercalate (modifiers.map description) ++ "]"

end Modifier

/-- The key that sets off an action. -/
structure HotKey where
  /-- The virtual code of the key. -/
  keyCode : UInt32
  modifiers : List Modifier
deriving DecidableEq

/-- An action whose coordinates and measures are given by values of `α`. -/
structure Action (α : Type) where
  hotKey : HotKey
  /-- The new origin of the window. -/
  move : Option (Point α)
  /-- The new size of the window. -/
  resize : Option (Size α)
deriving DecidableEq

/-- Actions whose coordinates and measures are source texts. -/
structure Config where
  actions : List (Action String)
deriving DecidableEq

namespace Config

/-- The name of the file in a home directory that holds the configuration. -/
def fileName : String := ".window_alignment.json"

/-- The virtual code of the arrow key that points down, in the example. -/
def keyDown : UInt32 := 125

/-- The virtual code of the arrow key that points up, in the example. -/
def keyUp : UInt32 := 126

/-- One key centers the window at three quarters of the screen's width, the other lets
it fill the screen. -/
def sample : Config where
  actions :=
    [{ hotKey := ⟨keyUp, [.shift, .command]⟩
       move := some ⟨"screen.width * 0.125", "screen.y"⟩
       resize := some ⟨"screen.width - (screen.width * 0.125) * 2", "screen.height"⟩ },
     { hotKey := ⟨keyDown, [.shift, .command]⟩
       move := some ⟨"screen.x", "screen.y"⟩
       resize := some ⟨"screen.width", "screen.height"⟩ }]

end Config

end WindowPlacement
