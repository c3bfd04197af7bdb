import WindowPlacement.Config.File
import WindowPlacement.Proofs.Config.RoundTrip
import WindowPlacement.Proofs.Files.Folder

/-!
# Configurations in folders

Saving refines to one change of a folder: the directories above the file are made, and the
text of the configuration is stored. Loading changes nothing. Loading with the sample as a
substitute does one or the other, by whether anything is at the path.

The folder decides whether it takes a text, and the laws begin where it does. They hold of every
path, from the root as well as from the working directory. A program that is stopped between its
two steps is not considered, nor is another program that uses the folder at the same time.
-/

namespace WindowPlacement

variable {folder later : Folder} {path text : String}

namespace Folder

/-- What an operation has for a result in a folder, and the folder it leaves. The folder is left
whether or not there is a fault. -/
def run {α : Type} (folder : Folder) (operation : ExceptT Fault (StateM Folder) α) :
    Except Fault α × Folder :=
  StateT.run operation.run folder

/-- Makes the directories above a path. A path of a single name has none above it but the one in
which it begins, and nothing is made. -/
def makeAbove (folder : Folder) (path : String) : Except FileProblem Folder :=
  match Path.parent? path with
  | none | some "" => .ok folder
  | some parent => folder.makeDirectories parent

/-- Puts a text into the file at a path, and makes the directories above it. -/
def storeText (folder : Folder) (path text : String) : Except FileProblem Folder := do
  (← folder.makeAbove path).writeText path text

/-- Above a path there is nothing to make, or a directory to be made with those above it. -/
theorem eq_or_of_makeAbove (made : folder.makeAbove path = .ok later) :
    later = folder ∨ ∃ parent, folder.makeDirectories parent = .ok later := by
  unfold makeAbove at made
  split at made
  · exact .inl (Except.ok.inj made).symm
  · exact .inl (Except.ok.inj made).symm
  · exact .inr ⟨_, made⟩

/-- Preparing a place for a text only adds directories. -/
theorem addsDirectories_of_makeAbove (made : folder.makeAbove path = .ok later) :
    folder.AddsDirectories later := by
  obtain rfl | ⟨parent, made⟩ := eq_or_of_makeAbove made
  · exact .refl _
  · exact addsDirectories_of_makeDirectories made

/-- Making directories and writing a text, one after the other. -/
theorem storeText_eq_ok_iff :
    folder.storeText path text = .ok later ↔
      ∃ prepared, folder.makeAbove path = .ok prepared ∧
        prepared.writeText path text = .ok later := by
  unfold storeText
  cases folder.makeAbove path <;> simp [bind, Except.bind]

/-- The text is stored at one place, and everything else that is new is a directory. -/
theorem storedAt_of_storeText (stored : folder.storeText path text = .ok later) :
    ∃ place, folder.StoredAt later path text place := by
  obtain ⟨prepared, made, written⟩ := storeText_eq_ok_iff.mp stored
  obtain ⟨place, -, storedAt⟩ := storedAt_of_writeText written
  exact ⟨place, storedAt.after (addsDirectories_of_makeAbove made)⟩

/-- Where no directory has to be made, a text is stored where the path leads already. -/
theorem locate_of_storeText (prepared : folder.makeAbove path = .ok folder)
    (stored : folder.storeText path text = .ok later)
    (storedAt : folder.StoredAt later path text place) : folder.locate path = .ok place := by
  obtain ⟨same, made, written⟩ := storeText_eq_ok_iff.mp stored
  obtain rfl : folder = same := Except.ok.inj (prepared.symm.trans made)
  obtain ⟨target, led, storedThere⟩ := storedAt_of_writeText written
  obtain rfl : target = place := Except.ok.inj (storedThere.leads.symm.trans storedAt.leads)
  exact led

/-- What is stored where nothing was found takes the place of nothing, if no directory had to be
made, or if the path has no step up. Otherwise the way may have gone through a directory that
was missing, and have come back to a file. -/
theorem StoredAt.replacesNothing (storedAt : folder.StoredAt later path text place)
    (stored : folder.storeText path text = .ok later) (missing : folder.isPresent path = false)
    (direct : folder.makeAbove path = .ok folder ∨
      folder.Rooted ∧ ['.', '.'] ∉ Path.segments path) : folder.find? place = none := by
  rcases direct with prepared | ⟨rooted, noStepUp⟩
  · have led := locate_of_storeText prepared stored storedAt
    simpa [Folder.isPresent, led] using missing
  · exact storedAt.wasMissing rooted noStepUp missing

/-- Storing a text keeps a folder rooted: what is above the file has been made. -/
theorem Rooted.storeText (rooted : folder.Rooted)
    (stored : folder.storeText path text = .ok later) : later.Rooted := by
  obtain ⟨prepared, made, written⟩ := storeText_eq_ok_iff.mp stored
  obtain rfl | ⟨parent, made⟩ := eq_or_of_makeAbove made
  · exact rooted.writeText written
  · exact (rooted.makeDirectories made).writeText written

variable {α β : Type}

/-- What follows a result is done in the folder that is left. -/
theorem run_bind_ok {first : ExceptT Fault (StateM Folder) α}
    {next : α → ExceptT Fault (StateM Folder) β} {value : α}
    (done : folder.run first = (.ok value, later)) :
    folder.run (first >>= next) = later.run (next value) := by
  unfold run at done ⊢
  rw [ExceptT.run_bind, StateT.run_bind, done]
  rfl

/-- Nothing follows a fault. -/
theorem run_bind_error {first : ExceptT Fault (StateM Folder) α}
    {next : α → ExceptT Fault (StateM Folder) β} {fault : Fault}
    (failed : folder.run first = (.error fault, later)) :
    folder.run (first >>= next) = (.error fault, later) := by
  unfold run at failed ⊢
  rw [ExceptT.run_bind, StateT.run_bind, failed]
  rfl

/-- What a file system answers, with its refusals as faults in a context. The reason for a
refusal is the cause of the fault, in the words of the file system. -/
theorem run_attempt {operation : StateM Folder (Except FileProblem α)}
    {answer : Except FileProblem α} (context : String)
    (answered : StateT.run operation folder = (answer, later)) :
    folder.run (Config.attempt context operation) =
      (answer.mapError fun problem => .other context [problem.message], later) := by
  have lifted : folder.run (liftM operation) = (.ok answer, later) := by
    rw [run, ExceptT.run_liftM, StateT.run_map, answered]
    rfl
  rw [Config.attempt, run_bind_ok lifted]
  cases answer <;> rfl

/-- What comes of a change: the changed folder, or a fault in a context and the folder as it
is. -/
def ended (folder : Folder) (context : String) :
    Except FileProblem Folder → Except Fault Unit × Folder
  | .ok changed => (.ok (), changed)
  | .error problem => (.error (.other context [problem.message]), folder)

/-- A change that is refused leaves the folder as it is. -/
theorem run_attempt_update (folder : Folder) (context : String)
    (change : Folder → Except FileProblem Folder) :
    folder.run (Config.attempt context (update change)) = folder.ended context (change folder) := by
  cases changed : change folder with
  | ok later =>
    have done : StateT.run (update change) folder = (.ok (), later) := by
      rw [StateT.run, update, changed]
    exact run_attempt context done
  | error problem =>
    have refused : StateT.run (update change) folder = (.error problem, folder) := by
      rw [StateT.run, update, changed]
    exact run_attempt context refused

end Folder

namespace Config

variable {config : Config}

/-- The first of the two steps of saving. -/
def prepare (path : String) : ExceptT Fault (StateM Folder) Unit :=
  match Path.parent? path with
  | none | some "" => pure ()
  | some parent =>
    attempt ("create config dir '" ++ parent ++ "'") (FileSystem.makeDirectories parent)

/-- Saving has two steps. -/
theorem save_eq (config : Config) (path : String) :
    (save config path : ExceptT Fault (StateM Folder) Unit) = prepare path >>= fun _ =>
      attempt ("write configuration '" ++ path ++ "'")
        (FileSystem.writeText path config.toText) := by
  unfold save prepare
  cases Path.parent? path with
  | none => rfl
  | some parent =>
    by_cases unnamed : parent = ""
    · rw [unnamed]
      rfl
    · simp

/-- The first step of saving makes the directories above the path, or fails in some context. -/
theorem run_prepare (folder : Folder) (path : String) :
    ∃ context, folder.run (prepare path) = folder.ended context (folder.makeAbove path) := by
  unfold prepare Folder.makeAbove
  split
  · exact ⟨"", rfl⟩
  · exact ⟨"", rfl⟩
  · exact ⟨_, Folder.run_attempt_update ..⟩

/-- Where the file system does not refuse, saving stores the text of the configuration. -/
theorem run_save_ok (stored : folder.storeText path config.toText = .ok later) :
    folder.run (save config path) = (.ok (), later) := by
  obtain ⟨prepared, made, written⟩ := Folder.storeText_eq_ok_iff.mp stored
  obtain ⟨context, prepares⟩ := run_prepare folder path
  rw [made] at prepares
  rw [save_eq, Folder.run_bind_ok prepares]
  refine (Folder.run_attempt_update ..).trans ?_
  rw [written, Folder.ended]

/-- Where the file system refuses, there is a fault with its reason, and nothing more than
directories has been made. -/
theorem run_save_error {problem : FileProblem}
    (refused : folder.storeText path config.toText = .error problem) :
    ∃ context left, folder.run (save config path) =
      (.error (.other context [problem.message]), left) ∧ folder.AddsDirectories left := by
  obtain ⟨context, prepares⟩ := run_prepare folder path
  unfold Folder.storeText at refused
  cases made : folder.makeAbove path with
  | error other =>
    rw [made] at refused prepares
    cases refused
    exact ⟨context, folder, by rw [save_eq, Folder.run_bind_error prepares], .refl folder⟩
  | ok prepared =>
    rw [made] at refused prepares
    have unwritten : prepared.writeText path config.toText = .error problem := refused
    refine ⟨"write configuration '" ++ path ++ "'", prepared, ?_,
      Folder.addsDirectories_of_makeAbove made⟩
    rw [save_eq, Folder.run_bind_ok prepares]
    refine (Folder.run_attempt_update ..).trans ?_
    rw [unwritten, Folder.ended]

/-- Loading reads the file at the path and leaves the folder as it is. -/
theorem run_load (folder : Folder) (path : String) :
    folder.run (load path) =
      (match folder.readText path with
        | .ok text => ofText text
        | .error problem =>
          .error (.other ("read configuration '" ++ path ++ "'") [problem.message]),
        folder) := by
  have reads (answer : Except FileProblem String) (read : folder.readText path = answer) :
      StateT.run (FileSystem.readText path : StateM Folder _) folder = (answer, folder) := by
    rw [← read]
    rfl
  cases answer : folder.readText path with
  | ok text =>
    rw [load, Folder.run_bind_ok (Folder.run_attempt _ (reads _ answer))]
    rfl
  | error problem =>
    rw [load, Folder.run_bind_error (Folder.run_attempt _ (reads _ answer))]

/-- Where something is at the path, the sample is not used. -/
theorem run_loadOrCreate_of_isPresent (present : folder.isPresent path = true) :
    folder.run (loadOrCreate path) = folder.run (load path) := by
  have asked : folder.run (liftM (FileSystem.isPresent path : StateM Folder Bool)) =
      (.ok true, folder) := by
    rw [← present]
    rfl
  rw [loadOrCreate, Folder.run_bind_ok asked]
  rfl

/-- Where nothing is at the path, the sample is saved there first. -/
theorem run_loadOrCreate_of_missing (missing : folder.isPresent path = false) :
    folder.run (loadOrCreate path) = folder.run (save sample path >>= fun _ => load path) := by
  have asked : folder.run (liftM (FileSystem.isPresent path : StateM Folder Bool)) =
      (.ok false, folder) := by
    rw [← missing]
    rfl
  rw [loadOrCreate, Folder.run_bind_ok asked]
  rfl

/-- A stored configuration is loaded, and stays as it is. -/
theorem run_load_stored {before : Folder} {place : List String}
    (stored : before.StoredAt folder path config.toText place) :
    folder.run (load path) = (.ok config, folder) := by
  rw [run_load, stored.readText]
  dsimp only
  rw [ofText, read_toText]
  rfl

/-- A stored configuration is loaded, and the sample does not take its place. -/
theorem run_loadOrCreate_stored {before : Folder} {place : List String}
    (stored : before.StoredAt folder path config.toText place) :
    folder.run (loadOrCreate path) = (.ok config, folder) :=
  (run_loadOrCreate_of_isPresent stored.isPresent).trans (run_load_stored stored)

/-- A text that is no configuration is a fault of its own kind, not one of the file system. -/
theorem config_of_ofText_error {fault : Fault} (invalid : ofText text = .error fault) :
    ∃ message, fault = .config message := by
  unfold ofText at invalid
  cases read : Document.read reader text with
  | error problem =>
    rw [read] at invalid
    cases invalid
    exact ⟨_, rfl⟩
  | ok config =>
    rw [read] at invalid
    cases invalid

/-- Where nothing is at the path and the file system takes the sample, the sample is the
answer. -/
theorem run_loadOrCreate_ok (missing : folder.isPresent path = false)
    (stored : folder.storeText path sample.toText = .ok later) :
    folder.run (loadOrCreate path) = (.ok sample, later) := by
  obtain ⟨place, storedAt⟩ := Folder.storedAt_of_storeText stored
  rw [run_loadOrCreate_of_missing missing, Folder.run_bind_ok (run_save_ok stored)]
  exact run_load_stored storedAt

/-- Where nothing is at the path and the file system refuses the sample, there is a fault with
its reason, and nothing more than directories has been made. -/
theorem run_loadOrCreate_error {problem : FileProblem} (missing : folder.isPresent path = false)
    (refused : folder.storeText path sample.toText = .error problem) :
    ∃ context left, folder.run (loadOrCreate path) =
      (.error (.other context [problem.message]), left) ∧ folder.AddsDirectories left := by
  obtain ⟨context, left, failed, made⟩ := run_save_error refused
  refine ⟨context, left, ?_, made⟩
  rw [run_loadOrCreate_of_missing missing, Folder.run_bind_error failed]

/-- Loading destroys nothing. Where something is at the path, be it a configuration or not, the
folder stays as it is and the answer is the one of loading. Where nothing is and the folder
takes the sample, the sample is the answer, its text stands where the path then leads, and all
else stays, up to new directories: every other text is read at the same path as before. Either
way, doing it once more changes neither answer nor folder. A configuration that has been saved
is loaded, and the sample does not take its place.

The path may begin at the root or in the working directory. With a step up it can lead to a file
that it did not lead to before, because a directory on the way has been made. In every other
case nothing stood at the place of the sample, and no text of the folder is lost.

Proof: each part is the run of its operation, step by step, together with what storing a text
keeps. -/
theorem loading_keeps (folder : Folder) (path : String) :
    (∃ result, folder.run (load path) = (result, folder) ∧
      ∀ text, folder.readText path = .ok text →
        result = ofText text ∧
        ∀ fault, result = .error fault → ∃ message, fault = .config message) ∧
    (folder.isPresent path = true →
      folder.run (loadOrCreate path) = folder.run (load path)) ∧
    (folder.isPresent path = false → ∀ later, folder.storeText path sample.toText = .ok later →
      folder.run (loadOrCreate path) = (.ok sample, later) ∧
      ∃ place, folder.StoredAt later path sample.toText place ∧
        folder.KeepsOtherTexts later place ∧
        (folder.makeAbove path = .ok folder ∨ folder.Rooted ∧ ['.', '.'] ∉ Path.segments path →
          folder.find? place = none ∧ folder.KeepsTexts later)) ∧
    (folder.isPresent path = true ∨ (∃ later, folder.storeText path sample.toText = .ok later) →
      ∃ answer later, folder.run (loadOrCreate path) = (answer, later) ∧
        later.run (loadOrCreate path) = (answer, later)) ∧
    ∀ (config : Config) (later : Folder), folder.storeText path config.toText = .ok later →
      folder.run (save config path) = (.ok (), later) ∧
      later.run (load path) = (.ok config, later) ∧
      later.run (loadOrCreate path) = (.ok config, later) ∧
      ∃ place, folder.StoredAt later path config.toText place ∧
        folder.KeepsOtherTexts later place := by
  refine ⟨⟨_, run_load folder path, fun text read => ?_⟩, run_loadOrCreate_of_isPresent,
    fun missing later stored => ⟨run_loadOrCreate_ok missing stored, ?_⟩, fun possible => ?_,
    fun config later stored => ⟨run_save_ok stored, ?_⟩⟩
  · rw [read]
    exact ⟨rfl, fun fault => config_of_ofText_error⟩
  · obtain ⟨place, storedAt⟩ := Folder.storedAt_of_storeText stored
    refine ⟨place, storedAt, storedAt.keepsOtherTexts, fun direct => ?_⟩
    have nothing := storedAt.replacesNothing stored missing direct
    exact ⟨nothing, storedAt.keepsTexts nothing⟩
  · cases present : folder.isPresent path with
    | true =>
      have loaded := (run_loadOrCreate_of_isPresent present).trans (run_load folder path)
      exact ⟨_, _, loaded, loaded⟩
    | false =>
      obtain ⟨later, stored⟩ := possible.resolve_left (by simp [present])
      obtain ⟨place, storedAt⟩ := Folder.storedAt_of_storeText stored
      exact ⟨_, _, run_loadOrCreate_ok present stored, run_loadOrCreate_stored storedAt⟩
  · obtain ⟨place, storedAt⟩ := Folder.storedAt_of_storeText stored
    exact ⟨run_load_stored storedAt, run_loadOrCreate_stored storedAt, place, storedAt,
      storedAt.keepsOtherTexts⟩

/-- The sample is stored at the path in a home directory, which begins at the root, beside a
file that is no configuration. Nothing stood there, doing it once more changes nothing, and the
other file is still read, here at a path that leads above the working directory. Loading that
file instead is a fault of the configuration, and leaves it as it is. Saving a configuration in
its place is what replaces it. -/
theorem sample_stored_in_home :
    ∃ folder later last : Folder,
      Folder.empty.storeText "/home/user/notes" "no configuration" = .ok folder ∧
      folder.run (loadOrCreate (defaultPath "/home/user")) = (.ok sample, later) ∧
      later.run (loadOrCreate (defaultPath "/home/user")) = (.ok sample, later) ∧
      folder.find? ["home", "user", ".window_alignment.json"] = none ∧
      later.readText "../home/user/notes" = .ok "no configuration" ∧
      (∃ message,
        later.run (loadOrCreate "../home/user/notes") = (.error (.config message), later)) ∧
      later.run (save ⟨[]⟩ "/home/user/notes") = (.ok (), last) ∧
      last.run (loadOrCreate "/home/user/notes") = (.ok ⟨[]⟩, last) := by
  obtain ⟨folder, later, last, notes, missing, readBefore, stored, present, led, saved⟩ :
      ∃ folder later last : Folder,
        Folder.empty.storeText "/home/user/notes" "no configuration" = .ok folder ∧
        folder.isPresent (defaultPath "/home/user") = false ∧
        folder.readText "../home/user/notes" = .ok "no configuration" ∧
        folder.storeText (defaultPath "/home/user") sample.toText = .ok later ∧
        later.isPresent "../home/user/notes" = true ∧
        later.locate (defaultPath "/home/user") = .ok ["home", "user", ".window_alignment.json"] ∧
        later.storeText "/home/user/notes" (Config.mk []).toText = .ok last :=
    ⟨_, _, _, rfl, rfl, rfl, rfl, rfl, rfl, rfl⟩
  have noStepUp : ['.', '.'] ∉ Path.segments (defaultPath "/home/user") := by decide
  have rooted : folder.Rooted := Folder.rooted_empty.storeText notes
  obtain ⟨fault, refused⟩ : ∃ fault, ofText "no configuration" = .error fault := ⟨_, rfl⟩
  -- The sample is stored where nothing stood, and then found there.
  obtain ⟨-, -, created, twice, -⟩ := loading_keeps folder (defaultPath "/home/user")
  obtain ⟨ran, place, storedAt, -, keeps⟩ := created missing later stored
  obtain ⟨nothing, keepsTexts⟩ := keeps (.inr ⟨rooted, noStepUp⟩)
  obtain ⟨answer, left, once, again⟩ := twice (.inr ⟨later, stored⟩)
  obtain ⟨rfl, rfl⟩ := Prod.mk.inj (ran.symm.trans once)
  obtain rfl : _ = place := Except.ok.inj (led.symm.trans storedAt.leads)
  -- The other file is read as before, and is no configuration.
  have read : later.readText "../home/user/notes" = .ok "no configuration" :=
    keepsTexts _ _ readBefore
  obtain ⟨⟨result, loaded, decided⟩, asLoaded, -⟩ := loading_keeps later "../home/user/notes"
  obtain ⟨rfl, isConfig⟩ := decided _ read
  obtain ⟨message, rfl⟩ := isConfig fault refused
  have kept :
      later.run (loadOrCreate "../home/user/notes") = (.error (.config message), later) := by
    rw [asLoaded present, loaded, refused]
  -- It is replaced only when a configuration is saved there.
  obtain ⟨-, -, -, -, saves⟩ := loading_keeps later "/home/user/notes"
  obtain ⟨done, -, loadedAfter, -⟩ := saves ⟨[]⟩ last saved
  exact ⟨folder, later, last, notes, ran, again, nothing, read, ⟨message, kept⟩, done, loadedAfter⟩

end Config

end WindowPlacement
