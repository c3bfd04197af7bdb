import Mathlib.Data.List.Forall2
import WindowPlacement.Placement
import WindowPlacement.Proofs.Machine.Underflow

/-!
# The order in which an action is run

An action has up to four codes. They are run one after another, each in the state in which
the codes before it left the environment, and the first one that fails ends the run with its
reason. The second code of a pair is not on the list if the first one is empty, for there is
no pair without a first result. An empty second code stays on the list: the first code of its
pair is run, with its lookups and its failures, although its value is not used.

The list depends on the codes alone, not on the environment. What a placement holds is read
off the results of the list, and there is none where a code of the list fails.
-/

namespace WindowPlacement

variable {σ : Type}

namespace Code

/-- What is left by codes that are run one after another, with the result of each. After a code
that fails, none of the others is run. The result of an empty code is that there is none, and
the run goes on. -/
def runEach (environment : Environment σ) :
    List Code → σ → Transcript σ (Except RunError (List (Option Float)))
  | [], state => ⟨.ok [], [], state⟩
  | code :: later, state =>
    let first := code.run.transcript environment state
    match first.answer with
    | .error reason => ⟨.error reason, first.asked, first.state⟩
    | .ok result =>
      let rest := runEach environment later first.state
      ⟨rest.answer.map (result :: ·), first.asked ++ rest.asked, rest.state⟩

/-- A row of codes fails with a reason at one of its codes: those in front of it have results,
and it fails in the state in which they leave the environment. The names of the codes behind it
are not asked for. There is one such code at most, since the codes in front of it have
results. -/
structure FailsAt (environment : Environment σ) (codes : List Code) (state : σ)
    (before : List Code) (code : Code) (after : List Code) (reason : RunError) : Prop where
  split : codes = before ++ code :: after
  results : ∃ results, (runEach environment before state).answer = .ok results
  fails : (code.run.transcript environment (runEach environment before state).state).answer =
    .error reason
  asked : (runEach environment codes state).asked = (runEach environment before state).asked ++
    (code.run.transcript environment (runEach environment before state).state).asked

variable (environment : Environment σ)

/-- A first code that fails ends the run. Its lookups have been made all the same. -/
theorem runEach_cons_error {code : Code} {state next : σ} {reason : RunError}
    {asked : List String} (later : List Code)
    (failed : code.run.transcript environment state = ⟨.error reason, asked, next⟩) :
    runEach environment (code :: later) state = ⟨.error reason, asked, next⟩ := by
  rw [runEach, failed]

/-- Behind a first code with a result, the others are run in the state that it leaves. An empty
code leaves the state as it is. -/
theorem runEach_cons_ok {code : Code} {state next : σ} {result : Option Float}
    {asked : List String} (later : List Code)
    (succeeded : code.run.transcript environment state = ⟨.ok result, asked, next⟩) :
    runEach environment (code :: later) state =
      ⟨(runEach environment later next).answer.map (result :: ·),
        asked ++ (runEach environment later next).asked,
        (runEach environment later next).state⟩ := by
  rw [runEach, succeeded]

/-- A row of codes that fails in front makes the whole row fail alike. The codes behind it make
no difference, not even to the state. -/
theorem runEach_append_error {before : List Code} {state next : σ} {reason : RunError}
    {asked : List String} (after : List Code)
    (failed : runEach environment before state = ⟨.error reason, asked, next⟩) :
    runEach environment (before ++ after) state = ⟨.error reason, asked, next⟩ := by
  induction before generalizing state asked with
  | nil => cases failed
  | cons code before inductionHypothesis =>
    rcases ended : code.run.transcript environment state with ⟨earlier | result, front, middle⟩
    · rw [runEach_cons_error environment before ended] at failed
      rw [List.cons_append, runEach_cons_error environment _ ended, failed]
    · rw [runEach_cons_ok environment before ended] at failed
      rcases rest : runEach environment before middle with ⟨later | results, behind, last⟩
      · rw [rest] at failed
        cases failed
        rw [List.cons_append, runEach_cons_ok environment _ ended, inductionHypothesis rest]
        rfl
      · rw [rest] at failed
        cases failed

/-- Behind a row with results, a second row is run in the state that the first one leaves. The
results stand in the order of the codes. -/
theorem runEach_append_ok {before : List Code} {state next : σ} {results : List (Option Float)}
    {asked : List String} (after : List Code)
    (succeeded : runEach environment before state = ⟨.ok results, asked, next⟩) :
    runEach environment (before ++ after) state =
      ⟨(runEach environment after next).answer.map (results ++ ·),
        asked ++ (runEach environment after next).asked,
        (runEach environment after next).state⟩ := by
  induction before generalizing state results asked with
  | nil =>
    cases succeeded
    rw [List.nil_append]
    rcases runEach environment after next with ⟨reason | others, behind, last⟩ <;> rfl
  | cons code before inductionHypothesis =>
    rcases ended : code.run.transcript environment state with ⟨earlier | result, front, middle⟩
    · rw [runEach_cons_error environment before ended] at succeeded
      cases succeeded
    · rw [runEach_cons_ok environment before ended] at succeeded
      rcases rest : runEach environment before middle with ⟨later | others, behind, last⟩
      · rw [rest] at succeeded
        cases succeeded
      · rw [rest] at succeeded
        cases succeeded
        rw [List.cons_append, runEach_cons_ok environment _ ended, inductionHypothesis rest,
          List.append_assoc]
        generalize runEach environment after last = tail
        rcases tail with ⟨reason | more, names, final⟩ <;> rfl

/-- Codes that are run with results have one for each code, and exactly the empty ones have
nothing for it. So which of the results are missing is known from the codes alone. -/
theorem results_of_runEach {codes : List Code} {state : σ} {results : List (Option Float)}
    (succeeded : (runEach environment codes state).answer = .ok results) :
    List.Forall₂ (fun code result => result = none ↔ code.operations = []) codes results := by
  induction codes generalizing state results with
  | nil =>
    cases succeeded
    exact .nil
  | cons code later inductionHypothesis =>
    have isNone := Machine.evaluate_eq_none_iff environment state code.operations
    rcases ended : code.run.transcript environment state with ⟨reason | result, asked, next⟩
    · rw [runEach_cons_error environment later ended] at succeeded
      cases succeeded
    · rw [runEach_cons_ok environment later ended] at succeeded
      cases rest : (runEach environment later next).answer with
      | error reason =>
        rw [rest] at succeeded
        cases succeeded
      | ok others =>
        rw [rest] at succeeded
        cases succeeded
        refine .cons ?_ (inductionHypothesis rest)
        rw [← isNone]
        change _ ↔ (code.run.transcript environment state).answer = _
        rw [ended, Except.ok.injEq]

/-- A row of codes fails with a reason exactly if it does so at one of its codes. In other words
the first code that fails decides, and there is no other reason for a failure. -/
theorem runEach_error_iff (codes : List Code) (state : σ) (reason : RunError) :
    (runEach environment codes state).answer = .error reason ↔
      ∃ before code after, FailsAt environment codes state before code after reason := by
  constructor
  · intro failed
    induction codes generalizing state with
    | nil => cases failed
    | cons code later inductionHypothesis =>
      rcases ended : code.run.transcript environment state with ⟨earlier | result, asked, next⟩
      · have stopped := runEach_cons_error environment later ended
        rw [stopped] at failed
        cases failed
        refine ⟨[], code, later, rfl, ⟨[], rfl⟩, congrArg Transcript.answer ended, ?_⟩
        rw [stopped, runEach, ended, List.nil_append]
      · rw [runEach_cons_ok environment later ended] at failed
        cases rest : (runEach environment later next).answer with
        | ok results =>
          rw [rest] at failed
          cases failed
        | error other =>
          rw [rest] at failed
          cases failed
          obtain ⟨before, culprit, after, found⟩ := inductionHypothesis next rest
          obtain ⟨results, passed⟩ := found.results
          have front := runEach_cons_ok environment before ended
          refine ⟨code :: before, culprit, after, ?_, ⟨result :: results, ?_⟩, ?_, ?_⟩
          · rw [found.split, List.cons_append]
          · rw [front, passed]
            rfl
          · rw [front]
            exact found.fails
          · rw [runEach_cons_ok environment later ended, front]
            simp only [found.asked, List.append_assoc]
  · rintro ⟨before, code, after, found⟩
    obtain ⟨results, passed⟩ := found.results
    rcases front : runEach environment before state with ⟨answer, asked, next⟩
    rw [front] at passed
    cases passed
    have fails := found.fails
    rw [front] at fails
    rcases ended : code.run.transcript environment next with ⟨answer, names, last⟩
    rw [ended] at fails
    cases fails
    rw [found.split, runEach_append_ok environment _ front,
      runEach_cons_error environment after ended]
    rfl

end Code

namespace Action

/-- The codes of a pair that are run. Without a first result, the second is of no use. The
result of an empty code is missing without a lookup, so it costs nothing to try the first
one. -/
def scheduledPair (first second : Code) : List Code :=
  if first.isEmpty then [first] else [first, second]

/-- The codes of a move that are run. An action need not have one. -/
def scheduledMove (move : Option (Point Code)) : List Code :=
  move.elim [] fun move => scheduledPair move.x move.y

/-- The codes of a resizing that are run. An action need not have one. -/
def scheduledResize (resize : Option (Size Code)) : List Code :=
  resize.elim [] fun resize => scheduledPair resize.width resize.height

/-- The codes of an action that are run, in the order in which they are. There are at most four
of them, those of the move in front. -/
def scheduled (action : Action Code) : List Code :=
  scheduledMove action.move ++ scheduledResize action.resize

/-- The pair of two results, if there are two. Anything but two results with values makes no
pair. -/
def pairOf : List (Option Float) → Option (Float × Float)
  | [some one, some other] => some (one, other)
  | _ => none

/-- A placement is that of the results of an action: it has a position exactly if there is a
move without an empty code, and a size exactly if there is a resizing without one. The
coordinates and the measures are the results, in order. Which results belong to the move and
which to the resizing is given, and follows from the schedule in `placement_in_order`. -/
structure PlacedFrom (action : Action Code) (moved resized : List (Option Float))
    (placement : Placement) : Prop where
  origin_isSome : placement.origin.isSome ↔
    ∃ move, action.move = some move ∧ move.x.operations ≠ [] ∧ move.y.operations ≠ []
  origin_eq : ∀ origin, placement.origin = some origin → moved = [some origin.x, some origin.y]
  size_isSome : placement.size.isSome ↔
    ∃ resize, action.resize = some resize ∧ resize.width.operations ≠ [] ∧
      resize.height.operations ≠ []
  size_eq : ∀ size, placement.size = some size → resized = [some size.width, some size.height]

variable (environment : Environment σ)

/-- Two codes are run as a row of those that are scheduled, and their pair is that of the
results. An empty second code does not save the lookups of the first one.

Proof: the first code has a result without a value only if it is empty, and then the second one
is neither scheduled nor run. -/
theorem runPair_transcript (first second : Code) (state : σ) :
    (runPair first second).transcript environment state =
      ⟨(Code.runEach environment (scheduledPair first second) state).answer.map pairOf,
        (Code.runEach environment (scheduledPair first second) state).asked,
        (Code.runEach environment (scheduledPair first second) state).state⟩ := by
  have isNone := Machine.evaluate_eq_none_iff environment state first.operations
  rcases ended : first.run.transcript environment state with ⟨reason | result, asked, next⟩
  · have stops : ∃ later, scheduledPair first second = first :: later := by
      unfold scheduledPair
      split
      · exact ⟨[], rfl⟩
      · exact ⟨[second], rfl⟩
    obtain ⟨later, listed⟩ := stops
    have failed : (first.run.transcript environment state).answer = .error reason := by rw [ended]
    rw [runPair, Run.transcript_bind_error environment _ _ state reason failed, listed,
      Code.runEach_cons_error environment later ended, ended]
    rfl
  · have succeeded : (first.run.transcript environment state).answer = .ok result := by rw [ended]
    rw [runPair, Run.transcript_bind_ok environment _ _ state result succeeded, ended]
    cases result with
    | none =>
      have isEmpty : first.isEmpty := List.isEmpty_iff.mpr (isNone.mp succeeded)
      rw [scheduledPair, if_pos isEmpty, Code.runEach_cons_ok environment [] ended]
      rfl
    | some one =>
      have present : ¬ first.isEmpty := by
        intro isEmpty
        have nothing := isNone.mpr (List.isEmpty_iff.mp isEmpty)
        rw [Code.run, nothing] at succeeded
        cases succeeded
      rw [scheduledPair, if_neg present, Code.runEach_cons_ok environment [second] ended]
      rcases last : second.run.transcript environment next with ⟨reason | other, names, left⟩
      · have failed : (second.run.transcript environment next).answer = .error reason := by
          rw [last]
        rw [Run.transcript_bind_error environment _ _ next reason failed,
          Code.runEach_cons_error environment [] last, last]
        rfl
      · have also : (second.run.transcript environment next).answer = .ok other := by rw [last]
        rw [Run.transcript_bind_ok environment _ _ next other also,
          Code.runEach_cons_ok environment [] last, last]
        cases other <;> rfl

/-- The results of a pair that was run make a pair of numbers exactly if neither code is empty.
Hence it can be told from the codes, without running them, whether there will be a pair. -/
theorem pairOf_isSome_iff {first second : Code} {results : List (Option Float)}
    (fits : List.Forall₂ (fun code result => result = none ↔ code.operations = [])
      (scheduledPair first second) results) :
    (pairOf results).isSome ↔ first.operations ≠ [] ∧ second.operations ≠ [] := by
  unfold scheduledPair at fits
  split at fits
  case isTrue isEmpty =>
    have nothing : first.operations = [] := List.isEmpty_iff.mp isEmpty
    obtain ⟨result, others, -, rest, rfl⟩ := List.forall₂_cons_left_iff.mp fits
    cases rest
    exact iff_of_false (by cases result <;> simp [pairOf]) fun both => both.1 nothing
  case isFalse present =>
    have something : first.operations ≠ [] := fun nothing => present (List.isEmpty_iff.mpr nothing)
    obtain ⟨one, others, oneIsNone, rest, rfl⟩ := List.forall₂_cons_left_iff.mp fits
    obtain ⟨other, none, otherIsNone, last, rfl⟩ := List.forall₂_cons_left_iff.mp rest
    cases last
    cases one with
    | none => exact absurd (oneIsNone.mp rfl) something
    | some one =>
      cases other with
      | none => exact iff_of_false (by simp [pairOf]) fun both => both.2 (otherIsNone.mp rfl)
      | some other =>
        have alsoSomething : second.operations ≠ [] := fun nothing => by
          cases otherIsNone.mpr nothing
        exact iff_of_true rfl ⟨something, alsoSomething⟩

/-- The pair of results holds them in order. No number is changed or exchanged with the
other. -/
theorem eq_of_pairOf {results : List (Option Float)} {one other : Float}
    (pair : pairOf results = some (one, other)) : results = [some one, some other] := by
  unfold pairOf at pair
  split at pair
  · cases pair
    rfl
  · cases pair

/-- What is made of the pair of two codes is made of the results of those that are scheduled.
Moves and resizings are both made this way, with a point and with a size. -/
theorem map_runPair_transcript {α : Type} (make : Float × Float → α) (first second : Code)
    (state : σ) :
    (Option.map make <$> runPair first second).transcript environment state =
      ⟨(Code.runEach environment (scheduledPair first second) state).answer.map fun results =>
          (pairOf results).map make,
        (Code.runEach environment (scheduledPair first second) state).asked,
        (Code.runEach environment (scheduledPair first second) state).state⟩ := by
  rw [Run.transcript_map, runPair_transcript]
  cases (Code.runEach environment (scheduledPair first second) state).answer <;> rfl

/-- A move is run as a row of its codes. Without a move nothing is run and there is no
position. -/
theorem runMove_transcript (move : Option (Point Code)) (state : σ) :
    (runMove move).transcript environment state =
      ⟨(Code.runEach environment (scheduledMove move) state).answer.map fun results =>
          (pairOf results).map fun pair => ⟨pair.1, pair.2⟩,
        (Code.runEach environment (scheduledMove move) state).asked,
        (Code.runEach environment (scheduledMove move) state).state⟩ := by
  cases move with
  | none => rfl
  | some move => exact map_runPair_transcript environment _ move.x move.y state

/-- A resizing is run as a row of its codes. Without a resizing nothing is run and there is no
size. -/
theorem runResize_transcript (resize : Option (Size Code)) (state : σ) :
    (runResize resize).transcript environment state =
      ⟨(Code.runEach environment (scheduledResize resize) state).answer.map fun results =>
          (pairOf results).map fun pair => ⟨pair.1, pair.2⟩,
        (Code.runEach environment (scheduledResize resize) state).asked,
        (Code.runEach environment (scheduledResize resize) state).state⟩ := by
  cases resize with
  | none => rfl
  | some resize =>
    exact map_runPair_transcript environment _ resize.width resize.height state

/-- The placement that the results of the move and of the resizing make. Either half may be
missing without the other. -/
def placementOf (moved resized : List (Option Float)) : Placement :=
  ⟨(pairOf moved).map fun pair => ⟨pair.1, pair.2⟩,
    (pairOf resized).map fun pair => ⟨pair.1, pair.2⟩⟩

/-- An action is run as the row of the codes that are scheduled. If all of them have results,
those in front belong to the move and the others to the resizing. The move is always run before
the resizing, even if the resizing is what fails. -/
theorem placement_transcript (action : Action Code) (state : σ) :
    action.placement.transcript environment state =
      ⟨(Code.runEach environment action.scheduled state).answer.map fun results =>
          placementOf (results.take (scheduledMove action.move).length)
            (results.drop (scheduledMove action.move).length),
        (Code.runEach environment action.scheduled state).asked,
        (Code.runEach environment action.scheduled state).state⟩ := by
  have move := runMove_transcript environment action.move state
  rcases moved : Code.runEach environment (scheduledMove action.move) state with
    ⟨reason | results, asked, next⟩
  · rw [moved] at move
    have failed : ((runMove action.move).transcript environment state).answer = .error reason := by
      rw [move]
      rfl
    rw [placement, Run.transcript_bind_error environment _ _ state reason failed, move, scheduled,
      Code.runEach_append_error environment _ moved]
    rfl
  · rw [moved] at move
    have passed : ((runMove action.move).transcript environment state).answer =
        .ok ((pairOf results).map fun pair => ⟨pair.1, pair.2⟩) := by
      rw [move]
      rfl
    have counted : results.length = (scheduledMove action.move).length :=
      (Code.results_of_runEach environment (congrArg Transcript.answer moved)).length_eq.symm
    rw [placement, Run.transcript_bind_ok environment _ _ state _ passed, move,
      ← map_eq_pure_bind, Run.transcript_map, runResize_transcript, scheduled,
      Code.runEach_append_ok environment _ moved, ← counted]
    rcases Code.runEach environment (scheduledResize action.resize) next with
      ⟨reason | others, names, last⟩
    · rfl
    · simp only [Except.map, Transcript.behind, List.take_left, List.drop_left, placementOf]

/-- One half of a placement is made of the pair of its results exactly if it is there whenever
there is a pair, and its numbers are the results in order. Position and size are the two cases
of it. -/
theorem eq_map_pairOf_iff {α : Type} (make : Float × Float → α) (parts : α → Float × Float)
    (made : ∀ pair, parts (make pair) = pair) (taken : ∀ value, make (parts value) = value)
    {results : List (Option Float)} {isPresent : Prop}
    (present : (pairOf results).isSome ↔ isPresent) (half : Option α) :
    half = (pairOf results).map make ↔ (half.isSome ↔ isPresent) ∧
      ∀ value, half = some value → results = [some (parts value).1, some (parts value).2] := by
  constructor
  · rintro rfl
    refine ⟨by rw [Option.isSome_map, present], fun value same => ?_⟩
    obtain ⟨pair, found, rfl⟩ := Option.map_eq_some_iff.mp same
    rw [made]
    exact eq_of_pairOf found
  · rintro ⟨there, holds⟩
    cases half with
    | none =>
      have missing : ¬ (pairOf results).isSome := by
        rw [present, ← there]
        exact Bool.false_ne_true
      rw [Option.not_isSome_iff_eq_none.mp missing]
      rfl
    | some value =>
      rw [holds value rfl, pairOf, Option.map_some, taken]

/-- The results of an action that was run make one placement. So the conditions of `PlacedFrom`
leave nothing open. -/
theorem placedFrom_iff {action : Action Code} {moved resized : List (Option Float)}
    (movedFits : List.Forall₂ (fun code result => result = none ↔ code.operations = [])
      (scheduledMove action.move) moved)
    (resizedFits : List.Forall₂ (fun code result => result = none ↔ code.operations = [])
      (scheduledResize action.resize) resized) (placement : Placement) :
    PlacedFrom action moved resized placement ↔ placement = placementOf moved resized := by
  have movePresent : (pairOf moved).isSome ↔
      ∃ move, action.move = some move ∧ move.x.operations ≠ [] ∧ move.y.operations ≠ [] := by
    cases given : action.move with
    | none =>
      rw [given] at movedFits
      cases movedFits
      simp [pairOf]
    | some move =>
      rw [given] at movedFits
      simpa using pairOf_isSome_iff movedFits
  have resizePresent : (pairOf resized).isSome ↔ ∃ resize, action.resize = some resize ∧
      resize.width.operations ≠ [] ∧ resize.height.operations ≠ [] := by
    cases given : action.resize with
    | none =>
      rw [given] at resizedFits
      cases resizedFits
      simp [pairOf]
    | some resize =>
      rw [given] at resizedFits
      simpa using pairOf_isSome_iff resizedFits
  obtain ⟨point, size⟩ := placement
  have pointIff := eq_map_pairOf_iff (fun pair => Point.mk pair.1 pair.2)
    (fun point => (point.x, point.y)) (fun _ => rfl) (fun _ => rfl) movePresent point
  have sizeIff := eq_map_pairOf_iff (fun pair => Size.mk pair.1 pair.2)
    (fun size => (size.width, size.height)) (fun _ => rfl) (fun _ => rfl) resizePresent size
  rw [placementOf, Placement.mk.injEq, pointIff, sizeIff]
  constructor
  · rintro ⟨originIsSome, originEq, sizeIsSome, sizeEq⟩
    exact ⟨⟨originIsSome, originEq⟩, sizeIsSome, sizeEq⟩
  · rintro ⟨⟨originIsSome, originEq⟩, sizeIsSome, sizeEq⟩
    exact ⟨originIsSome, originEq, sizeIsSome, sizeEq⟩

/-- An action is run in the order in which its codes are written, and comes to a placement or to
the first failure.

Whatever the codes hold and whatever the environment makes of the names: the names that are
asked for are those of the scheduled codes, each run in the state in which the codes before it
leave the environment. The action fails with a reason exactly if one of these codes does, and
then nothing is asked for behind it and there is no placement, not even a half of one. Otherwise
it has the placement that the results of its codes make, and no other. -/
theorem placement_in_order (action : Action Code) (state : σ) :
    let run := action.placement.transcript environment state
    let each := Code.runEach environment action.scheduled state
    run.asked = each.asked ∧ run.state = each.state ∧
    (∀ reason, run.answer = .error reason ↔ ∃ before code after,
      Code.FailsAt environment action.scheduled state before code after reason) ∧
    (∀ placement, run.answer = .ok placement ↔ ∃ moved resized,
      each.answer = .ok (moved ++ resized) ∧
      moved.length = (scheduledMove action.move).length ∧
      PlacedFrom action moved resized placement) := by
  intro run each
  have ran : run = _ := placement_transcript environment action state
  refine ⟨congrArg Transcript.asked ran, congrArg Transcript.state ran, fun reason => ?_,
    fun placement => ?_⟩
  · rw [← Code.runEach_error_iff, ran]
    cases ended : (Code.runEach environment action.scheduled state).answer with
    | error other => simp only [Except.map, Except.error.injEq]
    | ok results => simp only [Except.map, reduceCtorEq]
  · rw [ran]
    cases ended : each.answer with
    | error reason =>
      simp only [Except.map, reduceCtorEq, false_and, exists_false]
    | ok results =>
      have fits := Code.results_of_runEach environment ended
      have movedFits := List.forall₂_take (scheduledMove action.move).length fits
      have resizedFits := List.forall₂_drop (scheduledMove action.move).length fits
      rw [scheduled, List.take_left] at movedFits
      rw [scheduled, List.drop_left] at resizedFits
      simp only [Except.map, Except.ok.injEq]
      constructor
      · rintro rfl
        exact ⟨_, _, (List.take_append_drop _ results).symm, movedFits.length_eq.symm,
          (placedFrom_iff movedFits resizedFits _).mpr rfl⟩
      · rintro ⟨moved, resized, rfl, counted, placed⟩
        rw [← counted, List.take_left] at movedFits
        rw [← counted, List.drop_left] at resizedFits
        rw [← counted, List.take_left, List.drop_left]
        exact ((placedFrom_iff movedFits resizedFits placement).mp placed).symm

-- An empty first code keeps a name without a value in the second one from being asked for. The
-- other way round the name is asked for, although there is no pair in either case.
example :
    let cat : Code := ⟨[.push (.variable "cat")]⟩
    let action (x y : Code) : Action Code := ⟨⟨126, [.shift]⟩, some ⟨x, y⟩, none⟩
    let unknown : Environment Unit := .ofLookup fun _ => none
    (action ⟨[]⟩ cat).placement.transcript unknown () = ⟨.ok ⟨none, none⟩, [], ()⟩ ∧
      (action cat ⟨[]⟩).placement.transcript unknown () =
        ⟨.error (.unknownVariable "cat"), ["cat"], ()⟩ :=
  ⟨rfl, rfl⟩

end Action

end WindowPlacement
