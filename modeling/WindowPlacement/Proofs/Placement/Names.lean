import Mathlib
import WindowPlacement.Proofs.Config.Compilation
import WindowPlacement.Proofs.Expr.Value

/-!
# The names of an action

Whether a compiled action can be placed is decided by its names, before it is run: a geometry
gives values to eight names, whatever is known of the window, and code that was compiled
needs all the names that it pushes. If they are among the eight, each coordinate and each
measure has the value of its own expression. Otherwise the run fails with one of the others,
and never for want of operands.
-/

namespace WindowPlacement

namespace Geometry

/-- The eight names with their values. What is not known of the window counts as zero. The names
stand in the order in which the geometry lists them, and no two are the same. -/
def table (geometry : Geometry) : List (String × Float) :=
  names.zip
    [geometry.screen.size.width, geometry.screen.size.height,
      geometry.screen.origin.x, geometry.screen.origin.y,
      (geometry.windowSize.map Size.width).getD 0, (geometry.windowSize.map Size.height).getD 0,
      (geometry.windowOrigin.map Point.x).getD 0, (geometry.windowOrigin.map Point.y).getD 0]

/-- A geometry looks names up in its table. The table is written out, so the values of the names
can be read off it. -/
theorem lookup_eq_table (geometry : Geometry) (name : String) :
    geometry.lookup name = geometry.table.lookup name := by
  obtain ⟨screen, windowOrigin, windowSize⟩ := geometry
  unfold lookup
  split
  case h_9 =>
    symm
    rw [List.lookup_eq_none_iff]
    simp_all [table, names]
  all_goals cases windowOrigin <;> cases windowSize <;> rfl

/-- The value of a name in the table. Other names are never asked for. The value that they are
given here is arbitrary. -/
def valueOf (geometry : Geometry) (name : String) : Float := (geometry.table.lookup name).getD 0

/-- A name that has a value has that of the table. The converse does not hold: names that are
not in the table have zero here. -/
theorem valueOf_of_lookup (geometry : Geometry) (name : String) (value : Float)
    (known : geometry.lookup name = some value) : geometry.valueOf name = value := by
  rw [lookup_eq_table] at known
  rw [valueOf, known, Option.getD_some]

/-- A source text is that of an expression, and the expression has the value if its names have
the values of the table. The value is that of the tree, in the arithmetic of doubles, and no
stack machine is mentioned. -/
def Gives (geometry : Geometry) (source : String) (value : Float) : Prop :=
  ∃ tokens expr, Lexer.tokenize source = .ok tokens ∧ Grammar.parse tokens = .ok expr ∧
    value = expr.value geometry.valueOf

/-- The code of a source text needs the names that it pushes, and gives the value of the text.
It is `ofExpr_run_needs` for the table, with the tree of the text. -/
theorem run_needs (geometry : Geometry) {source : String} {code : Code}
    (compiled : Code.compile source = .ok code) :
    code.run.Needs geometry.lookup {name | name ∈ code.variableNames}
      (fun result => ∃ value, result = some value ∧ geometry.Gives source value) := by
  obtain ⟨tokens, expr, tokenized, parsed, rfl⟩ := (Code.compile_eq_ok_iff source code).mp compiled
  refine (Code.ofExpr_run_needs geometry.valueOf_of_lookup expr).weaken rfl ?_
  rintro _ rfl
  exact ⟨_, rfl, tokens, expr, tokenized, parsed, rfl⟩

end Geometry

namespace Action

/-- The codes of a compiled action, in the order in which they are run. Codes that are not
reached because a first one is empty are listed too; no code of a compiled action is empty. -/
def codes (action : Action Code) : List Code :=
  (action.move.elim [] fun move => [move.x, move.y]) ++
    action.resize.elim [] fun resize => [resize.width, resize.height]

/-- The names that the codes of an action push. A name that is in two codes is listed twice. -/
def variableNames (action : Action Code) : List String := action.codes.flatMap Code.variableNames

/-- Two codes with results have a pair for their result, and need the names of both. Code that
was compiled is never empty, so neither result is missing. -/
theorem runPair_needs {lookup : String → Option Float} {first second : Code}
    {names others : Set String} {fits ends : Float → Prop}
    (one : first.run.Needs lookup names fun result => ∃ value, result = some value ∧ fits value)
    (other : second.run.Needs lookup others fun result =>
      ∃ value, result = some value ∧ ends value) :
    (runPair first second).Needs lookup (names ∪ others)
      (fun result => ∃ pair, result = some pair ∧ fits pair.1 ∧ ends pair.2) := by
  refine one.bind ?_
  rintro _ ⟨oneValue, rfl, oneFits⟩
  rw [← Set.union_empty others]
  refine other.bind ?_
  rintro _ ⟨otherValue, rfl, otherFits⟩
  exact .pure ⟨(oneValue, otherValue), rfl, oneFits, otherFits⟩

/-- Two source texts that were compiled need the names of both codes, and what is made of the
results is made of the values of the texts. Points and sizes are made of their pairs by
`make`. -/
theorem pair_needs (geometry : Geometry) {α : Type} (make : Float × Float → α)
    {one other : String} {first second : Code} (compiled : Code.compile one = .ok first)
    (compiledOther : Code.compile other = .ok second) :
    (Option.map make <$> runPair first second).Needs geometry.lookup
      {name | name ∈ [first, second].flatMap Code.variableNames}
      (fun result => ∃ pair, result = some (make pair) ∧ geometry.Gives one pair.1 ∧
        geometry.Gives other pair.2) := by
  have pair := runPair_needs (geometry.run_needs compiled) (geometry.run_needs compiledOther)
  refine (pair.map (Option.map make) ?_).weaken ?_ fun _ fits => fits
  · rintro _ ⟨values, rfl, given⟩
    exact ⟨values, rfl, given⟩
  · ext name
    simp

/-- A move that was compiled needs the names of both coordinates. Without a move it needs
none. -/
theorem runMove_needs (geometry : Geometry) {source : Option (Point String)}
    {move : Option (Point Code)}
    (compiled : Option.Rel (fun texts code => Code.compile texts.x = .ok code.x ∧
      Code.compile texts.y = .ok code.y) source move) :
    (runMove move).Needs geometry.lookup
      {name | name ∈ (move.elim [] fun move => [move.x, move.y]).flatMap Code.variableNames}
      (Option.Rel (fun texts point => geometry.Gives texts.x point.x ∧
        geometry.Gives texts.y point.y) source) := by
  cases compiled with
  | none => exact (Run.Needs.pure .none).weaken (by simp) fun _ fits => fits
  | some both =>
    refine (pair_needs geometry (fun pair => Point.mk pair.1 pair.2) both.1 both.2).weaken rfl ?_
    rintro _ ⟨pair, rfl, given⟩
    exact .some given

/-- A resizing that was compiled needs the names of both measures. Without a resizing it needs
none. -/
theorem runResize_needs (geometry : Geometry) {source : Option (Size String)}
    {resize : Option (Size Code)}
    (compiled : Option.Rel (fun texts code => Code.compile texts.width = .ok code.width ∧
      Code.compile texts.height = .ok code.height) source resize) :
    (runResize resize).Needs geometry.lookup
      {name | name ∈ (resize.elim [] fun resize => [resize.width, resize.height]).flatMap
        Code.variableNames}
      (Option.Rel (fun texts size => geometry.Gives texts.width size.width ∧
        geometry.Gives texts.height size.height) source) := by
  cases compiled with
  | none => exact (Run.Needs.pure .none).weaken (by simp) fun _ fits => fits
  | some both =>
    refine (pair_needs geometry (fun pair => Size.mk pair.1 pair.2) both.1 both.2).weaken rfl ?_
    rintro _ ⟨pair, rfl, given⟩
    exact .some given

/-- The placement of an action moves the window exactly if there is a move in the source of the
action, resizes it exactly if there is a resizing, and each of its numbers is the value of the
source text in that place. There is at most one such placement, since a text gives one value. -/
structure PlacedAs (geometry : Geometry) (source : Action String) (placement : Placement) :
    Prop where
  origin : Option.Rel (fun texts point => geometry.Gives texts.x point.x ∧
    geometry.Gives texts.y point.y) source.move placement.origin
  size : Option.Rel (fun texts size => geometry.Gives texts.width size.width ∧
    geometry.Gives texts.height size.height) source.resize placement.size

/-- An action that was compiled needs the names that its codes push. The names of the resizing
are needed even where only the position is of interest. -/
theorem placement_needs (geometry : Geometry) {source : Action String} {action : Action Code}
    (compiled : source.CompiledInto action) :
    action.placement.Needs geometry.lookup {name | name ∈ action.variableNames}
      (PlacedAs geometry source) := by
  have moved := runMove_needs geometry compiled.move
  have resized := runResize_needs geometry compiled.resize
  have placed : action.placement.Needs geometry.lookup _ (PlacedAs geometry source) :=
    moved.bind fun origin originFits =>
      resized.map (Placement.mk origin) fun size sizeFits => ⟨originFits, sizeFits⟩
  refine placed.weaken ?_ fun _ fits => fits
  ext name
  simp [variableNames, codes]

end Action

namespace Config

/-- Every action of a configuration that is compiled is placed in a geometry exactly if the
names that its codes push are among the eight names of a geometry. It is then placed as its
source says. Otherwise the run fails with one of those names that is not among the eight. Which
of the others it is, where there are several, is left open here; `placement_in_order` decides
it. -/
theorem placement_decided_by_names {config : Config} {actions : List (Action Code)}
    (accepted : config.compileActions = .ok actions) (geometry : Geometry) {σ : Type} (state : σ) :
    List.Forall₂ (fun source action =>
      let outcome := (action.placement.run.run (.ofLookup geometry.lookup) state).answer
      ((∃ placement, outcome = .ok placement) ↔
        ∀ name ∈ action.variableNames, name ∈ Geometry.names) ∧
      (∀ placement, outcome = .ok placement → Action.PlacedAs geometry source placement) ∧
      ∀ reason, outcome = .error reason →
        ∃ name ∈ action.variableNames, name ∉ Geometry.names ∧ reason = .unknownVariable name)
      config.actions actions := by
  have compiled := (compileActions_checks config).accepted actions accepted
  refine compiled.2.imp fun source action fits => ?_
  have needs := Action.placement_needs geometry fits
  have stateless : (action.placement.run.run (.ofLookup geometry.lookup) state).answer =
      action.placement.outcome geometry.lookup := Inquiry.run_ofLookup _ _ _
  simp only [stateless]
  refine ⟨?_, fun placement placed => (needs.success placement placed).2, ?_⟩
  · rw [needs.exists_ok_iff]
    simp only [Geometry.lookup_isSome_iff]
    rfl
  · intro reason failed
    obtain ⟨name, member, unknown, same⟩ := needs.failure reason failed
    refine ⟨name, member, fun listed => ?_, same⟩
    have known := (geometry.lookup_isSome_iff name).mpr listed
    rw [unknown] at known
    cases known

/-- A name besides the eight fails the placement, although the other names are known and the
window is not. -/
theorem desk_not_placed :
    let config : Config := ⟨[⟨⟨126, [.shift]⟩, some ⟨"screen.x + desk.y", "window.y"⟩, none⟩]⟩
    let action : Action Code := ⟨⟨126, [.shift]⟩, some
      ⟨⟨[.push (.variable "screen.x"), .push (.variable "desk.y"), .apply .add]⟩,
        ⟨[.push (.variable "window.y")]⟩⟩, none⟩
    let geometry : Geometry := ⟨.ofNumbers 0 25 1440 875, none, none⟩
    config.compileActions = .ok [action] ∧
      (action.placement.run.run (.ofLookup geometry.lookup) ()).answer =
        .error (.unknownVariable "desk.y") := by
  intro config action geometry
  have accepted : config.compileActions = .ok [action] := by cbv
  refine ⟨accepted, ?_⟩
  have decided := placement_decided_by_names accepted geometry ()
  obtain ⟨placed, -, failed⟩ := (List.forall₂_cons.mp decided).1
  have names : action.variableNames = ["screen.x", "desk.y", "window.y"] := rfl
  rw [names] at placed failed
  cases ended : (action.placement.run.run (.ofLookup geometry.lookup) ()).answer with
  | ok placement => exact absurd (placed.mp ⟨placement, ended⟩) (by decide)
  | error reason =>
    obtain ⟨name, member, foreign, rfl⟩ := failed reason ended
    simp only [List.mem_cons, List.not_mem_nil, or_false] at member
    rcases member with rfl | rfl | rfl
    · exact absurd foreign (by decide)
    · rfl
    · exact absurd foreign (by decide)

end Config

end WindowPlacement
