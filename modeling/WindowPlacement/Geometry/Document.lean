import WindowPlacement.Document
import WindowPlacement.Document.Reader
import WindowPlacement.Geometry

/-!
# Geometry in documents

Points, sizes, rectangles and geometries are records. A half of the window that is not
known is written as `null`; when read it may also be missing, unless the values stand in
a list.
-/

namespace WindowPlacement

open Document Reader

namespace Point

/-- A point as a document, given the documents of its coordinates. -/
def document {α : Type} (content : α → Document) (point : Point α) : Document :=
  .object [("x", content point.x), ("y", content point.y)]

/-- Reads a point that messages call `name`. -/
def reader {α : Type} (name : String) (content : Reader α) : Reader (Point α) :=
  Shape.read
    { name
      members :=
        [Member.required "x" content Prod.fst fun record x => (some x, record.2),
          Member.required "y" content Prod.snd fun record y => (record.1, some y)]
      start := (none, none)
      finish := fun
        | (some x, some y) => .ok ⟨x, y⟩
        | (none, _) => .error (.missingMember "x")
        | (some _, none) => .error (.missingMember "y") }

end Point

namespace Size

/-- A size as a document, given the documents of its measures. -/
def document {α : Type} (content : α → Document) (size : Size α) : Document :=
  .object [("width", content size.width), ("height", content size.height)]

/-- Reads a size that messages call `name`. -/
def reader {α : Type} (name : String) (content : Reader α) : Reader (Size α) :=
  Shape.read
    { name
      members :=
        [Member.required "width" content Prod.fst fun record width => (some width, record.2),
          Member.required "height" content Prod.snd fun record height =>
            (record.1, some height)]
      start := (none, none)
      finish := fun
        | (some width, some height) => .ok ⟨width, height⟩
        | (none, _) => .error (.missingMember "width")
        | (some _, none) => .error (.missingMember "height") }

end Size

namespace Rect

/-- A rectangle as a document. -/
def document (rect : Rect) : Document :=
  .object [("origin", rect.origin.document .real), ("size", rect.size.document .real)]

/-- Reads a rectangle. -/
def reader : Reader Rect :=
  Shape.read
    { name := "Rect"
      members :=
        [Member.required "origin" (Point.reader "Point" Reader.float) Prod.fst
            fun record origin => (some origin, record.2),
          Member.required "size" (Size.reader "Size" Reader.float) Prod.snd
            fun record size => (record.1, some size)]
      start := (none, none)
      finish := fun
        | (some origin, some size) => .ok ⟨origin, size⟩
        | (none, _) => .error (.missingMember "origin")
        | (some _, none) => .error (.missingMember "size") }

end Rect

namespace Geometry

/-- A geometry as a document. -/
def document (geometry : Geometry) : Document :=
  .object
    [("screen", geometry.screen.document),
      ("window_origin", geometry.windowOrigin.elim .null (Point.document .real)),
      ("window_size", geometry.windowSize.elim .null (Size.document .real))]

/-- The members of a geometry of which some have been read. -/
structure Partial where
  screen : Option Rect
  windowOrigin : Option (Option (Point Float))
  windowSize : Option (Option (Size Float))

/-- Reads a geometry. -/
def reader : Reader Geometry :=
  Shape.read
    { name := "Geometry"
      members :=
        [Member.required "screen" Rect.reader Partial.screen
            fun record screen => { record with screen := some screen },
          Member.required "window_origin"
            (Reader.optional (Point.reader "Point" Reader.float)) Partial.windowOrigin
            fun record origin => { record with windowOrigin := some origin },
          Member.required "window_size"
            (Reader.optional (Size.reader "Size" Reader.float)) Partial.windowSize
            fun record size => { record with windowSize := some size }]
      start := ⟨none, none, none⟩
      finish := fun record =>
        match record.screen with
        | none => .error (.missingMember "screen")
        | some screen => .ok ⟨screen, record.windowOrigin.join, record.windowSize.join⟩ }

end Geometry

end WindowPlacement
