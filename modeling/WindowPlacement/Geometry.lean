import WindowPlacement.Decimal.Literal
import WindowPlacement.Text.Blank

/-!
# Screens and windows

Positions, sizes and rectangles in screen coordinates, and the geometry in which an
action is run: the visible part of a screen and what is known of the focused window.

The geometry gives values to eight names. What is not known of the window counts as
zero, so each of the eight always has a value.
-/

namespace WindowPlacement

/-- A position, or something for each of its two coordinates. -/
structure Point (α : Type) where
  x : α
  y : α
deriving DecidableEq

/-- A size, or something for each of its two measures. -/
structure Size (α : Type) where
  width : α
  height : α
deriving DecidableEq

/-- A rectangle whose sides are parallel to the axes. -/
structure Rect where
  /-- The corner from which the size is measured. -/
  origin : Point Float
  size : Size Float
deriving DecidableEq

namespace Rect

/-- A rectangle from its four numbers. -/
def ofNumbers (x y width height : Float) : Rect := ⟨⟨x, y⟩, ⟨width, height⟩⟩

/-- Why a text is no rectangle. -/
inductive TextError where
  /-- A piece between commas is no number. -/
  | piece (reason : Decimal.LiteralError)
  /-- The number of pieces is not four. -/
  | count
deriving DecidableEq

/-- What is reported for each reason. -/
def TextError.message : TextError → String
  | .piece reason => reason.message
  | .count => "expected x,y,width,height"

/-- The numbers between the commas of a text, blanks around them apart. -/
def numbersOf (text : List Char) : Except Decimal.LiteralError (List Float) :=
  (Text.pieces ',' text).mapM fun piece => Decimal.read (Text.trim piece)

/-- Reads `x,y,width,height`. A piece that is no number counts before a wrong number of
pieces. -/
def ofText (text : String) : Except TextError Rect :=
  match numbersOf text.toList with
  | .error reason => .error (.piece reason)
  | .ok [x, y, width, height] => .ok (ofNumbers x y width height)
  | .ok _ => .error .count

end Rect

/-- A screen and what is known of the focused window. -/
structure Geometry where
  /-- The visible part of the screen. -/
  screen : Rect
  windowOrigin : Option (Point Float)
  windowSize : Option (Size Float)
deriving DecidableEq

namespace Geometry

/-- A screen with a window of which both halves are known, or neither. -/
def ofRects (screen : Rect) (window : Option Rect) : Geometry :=
  ⟨screen, window.map Rect.origin, window.map Rect.size⟩

/-- The names to which a geometry gives values. -/
def names : List String :=
  ["screen.width", "screen.height", "screen.x", "screen.y", "window.width", "window.height",
    "window.x", "window.y"]

/-- What an unknown measure of the window counts. -/
def unknown : Float := Float.ofBits 0

/-- The value of a name. -/
def lookup (geometry : Geometry) (name : String) : Option Float :=
  match name with
  | "screen.width" => some geometry.screen.size.width
  | "screen.height" => some geometry.screen.size.height
  | "screen.x" => some geometry.screen.origin.x
  | "screen.y" => some geometry.screen.origin.y
  | "window.width" => some (geometry.windowSize.elim unknown Size.width)
  | "window.height" => some (geometry.windowSize.elim unknown Size.height)
  | "window.x" => some (geometry.windowOrigin.elim unknown Point.x)
  | "window.y" => some (geometry.windowOrigin.elim unknown Point.y)
  | _ => none

/-- A name has a value exactly if it is one of the eight. -/
theorem lookup_isSome_iff (geometry : Geometry) (name : String) :
    (geometry.lookup name).isSome ↔ name ∈ names := by
  unfold lookup
  split <;> simp_all [names]

end Geometry

end WindowPlacement
