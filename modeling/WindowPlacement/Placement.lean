import WindowPlacement.Code.Compile
import WindowPlacement.Config

/-!
# Placing a window

An action is compiled once; its four expressions are taken in the order in which they
are written, and the first one that is not valid gives the fault. Running a compiled
action says where the window goes. A position needs both of its coordinates and a size
both of its measures; a half for which there is none leaves the window as it is.
-/

namespace WindowPlacement

/-- Where a window should go. What is missing is left alone. -/
structure Placement where
  origin : Option (Point Float)
  size : Option (Size Float)
deriving DecidableEq

namespace Action

/-- Compiles the source text of one field. -/
def compileField (index : Nat) (field : Field) (source : String) : Except Fault Code :=
  (Code.compile source).mapError (.action index field)

/-- Compiles the move of an action. -/
def compileMove (index : Nat) (move : Point String) : Except Fault (Point Code) := do
  let x ← compileField index .moveX move.x
  let y ← compileField index .moveY move.y
  return ⟨x, y⟩

/-- Compiles the resizing of an action. -/
def compileResize (index : Nat) (resize : Size String) : Except Fault (Size Code) := do
  let width ← compileField index .resizeWidth resize.width
  let height ← compileField index .resizeHeight resize.height
  return ⟨width, height⟩

/-- Runs a check that may fail where there is something to check. -/
def whenPresent {α β : Type} (compile : α → Except Fault β) : Option α → Except Fault (Option β)
  | none => .ok none
  | some value => (compile value).map some

/-- Compiles the action that stands at `index` in its configuration. -/
def compile (index : Nat) (action : Action String) : Except Fault (Action Code) := do
  let move ← whenPresent (compileMove index) action.move
  let resize ← whenPresent (compileResize index) action.resize
  return ⟨action.hotKey, move, resize⟩

/-- Runs two codes one after the other. The second is not run if the first has no
result. -/
def runPair (first second : Code) : Run (Option (Float × Float)) := do
  match ← first.run with
  | none => pure none
  | some one =>
    match ← second.run with
    | none => pure none
    | some other => pure (some (one, other))

/-- The position to which an action moves the window. -/
def runMove : Option (Point Code) → Run (Option (Point Float))
  | none => pure none
  | some move => do
    let pair ← runPair move.x move.y
    return pair.map fun (x, y) => ⟨x, y⟩

/-- The size to which an action resizes the window. -/
def runResize : Option (Size Code) → Run (Option (Size Float))
  | none => pure none
  | some resize => do
    let pair ← runPair resize.width resize.height
    return pair.map fun (width, height) => ⟨width, height⟩

/-- Where a compiled action places the window. -/
def placement (action : Action Code) : Run Placement := do
  let origin ← runMove action.move
  let size ← runResize action.resize
  return ⟨origin, size⟩

end Action

namespace Config

/-- Compiles actions, of which the first stands at `index`. -/
def compileFrom : Nat → List (Action String) → Except Fault (List (Action Code))
  | _, [] => .ok []
  | index, action :: others => do
    let compiled ← action.compile index
    let rest ← compileFrom (index + 1) others
    return compiled :: rest

/-- Compiles every action, or reports the first expression that is not valid. -/
def compileActions (config : Config) : Except Fault (List (Action Code)) :=
  compileFrom 0 config.actions

end Config

end WindowPlacement
