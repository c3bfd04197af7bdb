import WindowPlacement.Files.Folder

/-!
# What a folder keeps

Writing a text changes what stands at one place, and making directories adds directories
where nothing was. Nothing else of a folder changes, so that a path that led somewhere still
leads there afterwards, and what was written is what is read. This holds of every path,
whether it begins at the root or in the working directory and however far it goes up.

Places, not paths, are what is kept: two paths can lead to one place. A path that goes up
through a directory that is not there yet leads nowhere, and somewhere once the directory is
made. Only then can something stand where the path led to nothing before.

These are facts about folders in memory. That the disk of a computer keeps the same things is
not proved here.
-/

namespace WindowPlacement.Folder

variable {folder before middle later : Folder} {path text : String} {place : List String}

/-- The root is a directory in every folder, also where no entry says so. -/
@[simp] theorem find?_nil : folder.find? [] = some .directory := rfl

/-- Dropping the entries for one place does not change what is found for another one. -/
theorem lookup_filter_ne {other : List String} (differs : other ≠ place)
    (entries : List (List String × Entry)) :
    (entries.filter fun entry => entry.1 ≠ place).lookup other = entries.lookup other := by
  induction entries with
  | nil => rfl
  | cons entry entries inductionHypothesis =>
    obtain ⟨here, content⟩ := entry
    by_cases dropped : here = place
    · have passed : (other == here) = false := beq_eq_false_iff_ne.mpr (dropped ▸ differs)
      rw [List.filter_cons_of_neg (by simpa using dropped), List.lookup_cons, passed]
      exact inductionHypothesis
    · rw [List.filter_cons_of_pos (by simpa using dropped), List.lookup_cons, List.lookup_cons,
        inductionHypothesis]

/-- What is put at a place is found there, and what stands elsewhere stays. The root is left
out, since nothing can take its place. -/
theorem find?_put (inside : place ≠ []) (entry : Entry) (other : List String) :
    (folder.put place entry).find? other =
      if other = place then some entry else folder.find? other := by
  by_cases same : other = place
  · subst same
    simp [find?, put, inside]
  · have passed : (other == place) = false := by simpa using same
    rw [if_neg same, find?, find?, put, List.lookup_cons, passed]
    simp only [lookup_filter_ne same]

/-! ## Places and directories that stay -/

/-- What stood at a place still does. Where nothing was, there may be a directory. -/
def KeepsAt (before later : Folder) (place : List String) : Prop :=
  later.find? place = before.find? place ∨
    before.find? place = none ∧ later.find? place = some .directory

/-- Of two changes that keep a place, the second one finds there what the first one found, or a
directory that the first one has made. -/
theorem KeepsAt.trans (first : before.KeepsAt middle place) (second : middle.KeepsAt later place) :
    before.KeepsAt later place := by
  rcases first with same | ⟨absent, made⟩ <;> rcases second with kept | ⟨missing, new⟩
  · exact .inl (kept.trans same)
  · exact .inr ⟨same ▸ missing, new⟩
  · exact .inr ⟨absent, kept.trans made⟩
  · exact .inr ⟨absent, new⟩

/-- Whatever stood at a place that is kept still stands there, be it a directory or a file. -/
theorem KeepsAt.stands {entry : Entry} (keeps : before.KeepsAt later place)
    (stood : before.find? place = some entry) : later.find? place = some entry := by
  rcases keeps with same | ⟨absent, _⟩
  · exact same.trans stood
  · rw [stood] at absent
    cases absent

/-- What was in a folder still stands where it stood, and everything new is a directory. -/
structure AddsDirectories (before later : Folder) : Prop where
  working : later.working = before.working
  keeps : ∀ place, before.KeepsAt later place

/-- Paths begin where they began, and every directory is still one. Files may have come, gone
and changed, which no path notices before its end. -/
structure KeepsDirectories (before later : Folder) : Prop where
  working : later.working = before.working
  keeps : ∀ place, before.find? place = some .directory → later.find? place = some .directory

namespace AddsDirectories

/-- A folder as it is adds nothing to itself. -/
theorem refl (folder : Folder) : folder.AddsDirectories folder := ⟨rfl, fun _ => .inl rfl⟩

/-- Of two changes that add directories, the second one leaves alone those of the first one. -/
theorem trans (first : before.AddsDirectories middle) (second : middle.AddsDirectories later) :
    before.AddsDirectories later :=
  ⟨second.working.trans first.working, fun place => (first.keeps place).trans (second.keeps place)⟩

/-- Making one directory where nothing is. -/
theorem put (absent : before.find? place = none) :
    before.AddsDirectories (before.put place .directory) := by
  have inside : place ≠ [] := by
    rintro rfl
    cases absent
  refine ⟨rfl, fun other => ?_⟩
  rw [KeepsAt, find?_put inside]
  split
  case isTrue same => exact .inr ⟨same ▸ absent, rfl⟩
  case isFalse => exact .inl rfl

/-- Directories are not lost where only directories are added. -/
theorem keepsDirectories (adds : before.AddsDirectories later) : before.KeepsDirectories later where
  working := adds.working
  keeps other := (adds.keeps other).stands

end AddsDirectories

/-- Making the directories along a path only adds directories.

Proof: induction on the segments. Whether a segment goes up, leads to a name or leads nowhere
does not matter: either a directory stands where it leads, or nothing does and one is put
there. -/
theorem addsDirectories_of_makeAlong {segments : List (List Char)}
    (made : folder.makeAlong place segments = .ok later) : folder.AddsDirectories later := by
  induction segments generalizing folder place with
  | nil =>
    cases made
    exact .refl _
  | cons segment rest inductionHypothesis =>
    rw [makeAlong] at made
    split at made
    · exact inductionHypothesis made
    · cases made
    case h_3 absent => exact (AddsDirectories.put absent).trans (inductionHypothesis made)

/-- Making a directory and those above it only adds directories. For the empty path there is
nothing to make. -/
theorem addsDirectories_of_makeDirectories (made : folder.makeDirectories path = .ok later) :
    folder.AddsDirectories later := by
  unfold makeDirectories at made
  split at made
  · cases made
    exact .refl _
  · exact addsDirectories_of_makeAlong made

/-! ## Paths that lead where they led -/

/-- A directory can be entered, and nothing else can. -/
theorem enter_eq_ok_iff : folder.enter place = .ok () ↔ folder.find? place = some .directory := by
  unfold enter
  split <;> simp_all

/-- The first segment of a walk is taken from a directory, even if it leads nowhere: behind a
file not even a dot is allowed. -/
theorem walk_cons_eq_ok_iff {segment : List Char} {rest : List (List Char)}
    {target : List String} :
    folder.walk place (segment :: rest) = .ok target ↔
      folder.find? place = some .directory ∧
        folder.walk (towards place segment) rest = .ok target := by
  rw [walk, ← enter_eq_ok_iff]
  cases folder.enter place with
  | error problem => simp [bind, Except.bind]
  | ok entered => simp [bind, Except.bind]

/-- Where every directory stays one, segments lead where they led before. The reverse does not
hold, since a directory may have been missing. -/
theorem KeepsDirectories.walk (kept : before.KeepsDirectories later)
    {segments : List (List Char)} {target : List String}
    (led : before.walk place segments = .ok target) : later.walk place segments = .ok target := by
  induction segments generalizing place with
  | nil => exact led
  | cons segment rest inductionHypothesis =>
    rw [walk_cons_eq_ok_iff] at led ⊢
    exact ⟨kept.keeps place led.1, inductionHypothesis led.2⟩

/-- A path leads to a place if it is not empty and its segments lead there from where it
begins. -/
theorem locate_eq_ok_iff :
    folder.locate path = .ok place ↔ path.isEmpty = false ∧
      folder.walk (folder.start path) (Path.segments path) = .ok place := by
  cases empty : path.isEmpty <;> simp [locate, empty]

/-- Paths begin at the same place if the working directory is the same. -/
theorem KeepsDirectories.start (kept : before.KeepsDirectories later) (path : String) :
    later.start path = before.start path := by
  unfold Folder.start
  rw [kept.working]

/-- Where every directory stays one, a path leads where it led before. -/
theorem KeepsDirectories.locate (kept : before.KeepsDirectories later)
    (led : before.locate path = .ok place) : later.locate path = .ok place := by
  rw [locate_eq_ok_iff] at led ⊢
  rw [kept.start]
  exact ⟨led.1, kept.walk led.2⟩

/-! ## Texts that are stored -/

/-- A text is read if the path leads to a file and its bytes are those of the text. -/
theorem readText_eq_ok_iff :
    folder.readText path = .ok text ↔ ∃ place content, folder.locate path = .ok place ∧
      folder.find? place = some (.file content) ∧ String.fromUTF8? content = some text := by
  unfold readText
  cases folder.locate path with
  | error problem => simp [bind, Except.bind]
  | ok place =>
    cases stands : folder.find? place with
    | none => simp [bind, Except.bind, stands]
    | some entry =>
      cases entry with
      | directory => simp [bind, Except.bind, stands]
      | file content =>
        cases decoded : String.fromUTF8? content <;> simp [bind, Except.bind, stands, decoded]

/-- In the later folder the path leads to a file with the text. What stood there before was no
directory. Everywhere else stands what stood there before, or a directory where nothing was. -/
structure StoredAt (before later : Folder) (path text : String) (place : List String) :
    Prop where
  working : later.working = before.working
  leads : later.locate path = .ok place
  content : later.find? place = some (.file text.toUTF8)
  replaced : before.find? place ≠ some .directory
  others : ∀ other, other ≠ place → before.KeepsAt later other

/-- Every text that could be read is read at the same path as before. Nothing is said about
paths at which there was no text. -/
def KeepsTexts (before later : Folder) : Prop :=
  ∀ other text, before.readText other = .ok text → later.readText other = .ok text

/-- Every text that could be read is read at the same path as before, unless the path led to the
place left out. -/
def KeepsOtherTexts (before later : Folder) (place : List String) : Prop :=
  ∀ other text, before.locate other ≠ .ok place → before.readText other = .ok text →
    later.readText other = .ok text

namespace StoredAt

/-- A text that is stored is read, character for character. -/
theorem readText (stored : before.StoredAt later path text place) :
    later.readText path = .ok text := by
  refine readText_eq_ok_iff.mpr ⟨place, _, stored.leads, stored.content, ?_⟩
  rw [String.fromUTF8?, String.toUTF8_eq_toByteArray, dif_pos text.isValidUTF8]
  rfl

/-- Where a text is stored, something is. -/
theorem isPresent (stored : before.StoredAt later path text place) :
    later.isPresent path = true := by
  simp [Folder.isPresent, stored.leads, stored.content]

/-- Storing a text leaves every directory as it is, since no directory stood at its place. -/
theorem keepsDirectories (stored : before.StoredAt later path text place) :
    before.KeepsDirectories later where
  working := stored.working
  keeps other stands := by
    have differs : other ≠ place := by
      rintro rfl
      exact stored.replaced stands
    exact (stored.others other differs).stands stands

/-- Storing a text changes no text at any other place, whatever the path at which it is read. -/
theorem keepsOtherTexts (stored : before.StoredAt later path text place) :
    before.KeepsOtherTexts later place := by
  intro other found elsewhere read
  obtain ⟨target, content, led, stands, decoded⟩ := readText_eq_ok_iff.mp read
  have differs : target ≠ place := by
    rintro rfl
    exact elsewhere led
  exact readText_eq_ok_iff.mpr ⟨target, content, stored.keepsDirectories.locate led,
    (stored.others target differs).stands stands, decoded⟩

/-- Storing a text where nothing stood loses no text at all. -/
theorem keepsTexts (stored : before.StoredAt later path text place)
    (nothing : before.find? place = none) : before.KeepsTexts later := by
  intro other found read
  refine stored.keepsOtherTexts other found (fun led => ?_) read
  obtain ⟨target, content, ledThere, stands, -⟩ := readText_eq_ok_iff.mp read
  obtain rfl : target = place := Except.ok.inj (ledThere.symm.trans led)
  rw [nothing] at stands
  cases stands

/-- Directories made in advance are among what is new. -/
theorem after (made : before.AddsDirectories middle)
    (stored : middle.StoredAt later path text place) : before.StoredAt later path text place where
  working := stored.working.trans made.working
  leads := stored.leads
  content := stored.content
  replaced stands := stored.replaced (made.keepsDirectories.keeps place stands)
  others other differs := (made.keeps other).trans (stored.others other differs)

end StoredAt

/-- A text is written to where the path leads, unless that is a directory. A file that stands
there is replaced, whatever is in it. -/
theorem eq_put_of_writeText (written : folder.writeText path text = .ok later) :
    ∃ place, folder.locate path = .ok place ∧ place ≠ [] ∧
      folder.find? place ≠ some .directory ∧ later = folder.put place (.file text.toUTF8) := by
  unfold writeText writeBytes at written
  split at written
  · cases written
  · cases led : folder.locate path with
    | error problem =>
      rw [led] at written
      cases written
    | ok place =>
      rw [led] at written
      simp only [bind, Except.bind] at written
      split at written
      · cases written
      case h_2 notDirectory =>
        cases written
        refine ⟨place, rfl, ?_, notDirectory, rfl⟩
        rintro rfl
        exact notDirectory find?_nil

/-- A text that is written is stored at the place to which the path led already. -/
theorem storedAt_of_writeText (written : folder.writeText path text = .ok later) :
    ∃ place, folder.locate path = .ok place ∧ folder.StoredAt later path text place := by
  obtain ⟨place, led, inside, notDirectory, rfl⟩ := eq_put_of_writeText written
  have kept : folder.KeepsDirectories (folder.put place (.file text.toUTF8)) := by
    refine ⟨rfl, fun other stands => ?_⟩
    rw [find?_put inside, if_neg]
    · exact stands
    · rintro rfl
      exact notDirectory stands
  refine ⟨place, led, rfl, kept.locate led, ?_, notDirectory, fun other differs => ?_⟩
  · rw [find?_put inside, if_pos rfl]
  · exact .inl (by rw [find?_put inside, if_neg differs])

/-! ## Folders without gaps -/

/-- Everything above something is a directory, and paths begin in a directory. -/
structure Rooted (folder : Folder) : Prop where
  above : ∀ place below, below ≠ [] → folder.find? (place ++ below) ≠ none →
    folder.find? place = some .directory
  working : folder.find? folder.working = some .directory

/-- In the empty folder, the root is all that is above the working directory. -/
theorem rooted_empty : empty.Rooted := by
  refine ⟨fun place below nonempty stands => ?_, rfl⟩
  have reached : place ++ below = ["folder"] := by
    refine Decidable.byContradiction fun differs => stands ?_
    have passed : (place ++ below == ["folder"]) = false := beq_eq_false_iff_ne.mpr differs
    simp [find?, empty, nonempty, List.lookup_cons, passed]
  rcases List.append_eq_singleton_iff.mp reached with ⟨rfl, _⟩ | ⟨_, none⟩
  · exact find?_nil
  · exact (nonempty none).elim

namespace Rooted

/-- Above a directory there is a directory. Above the root there is the root itself. -/
theorem dropLast (rooted : folder.Rooted) (entered : folder.find? place = some .directory) :
    folder.find? place.dropLast = some .directory := by
  by_cases top : place = []
  · rw [top, List.dropLast_nil, find?_nil]
  · refine rooted.above place.dropLast [place.getLast top] (List.cons_ne_nil _ _) ?_
    rw [List.dropLast_concat_getLast, entered]
    nofun

/-- Every path begins in a directory. -/
theorem start (rooted : folder.Rooted) (path : String) :
    folder.find? (folder.start path) = some .directory := by
  unfold Folder.start
  split
  · exact find?_nil
  · exact rooted.working

/-- Above where a segment leads from a directory there is a directory, whether or not anything
stands there. -/
theorem above_towards (rooted : folder.Rooted) (entered : folder.find? place = some .directory)
    (segment : List Char) :
    folder.find? (towards place segment).dropLast = some .directory := by
  unfold towards
  split
  · exact rooted.dropLast entered
  · split
    · exact rooted.dropLast (rooted.dropLast entered)
    · rw [List.dropLast_concat, entered]

/-- A folder stays rooted if what is put into it stands in a directory and does not take the
place of one. -/
theorem put (rooted : folder.Rooted) {entry : Entry} (inside : place ≠ [])
    (above : folder.find? place.dropLast = some .directory)
    (kept : folder.find? place = some .directory → entry = .directory) :
    (folder.put place entry).Rooted := by
  have stays (other : List String) (stands : folder.find? other = some .directory) :
      (folder.put place entry).find? other = some .directory := by
    rw [find?_put inside]
    split
    case isFalse => exact stands
    case isTrue same => rw [kept (same ▸ stands)]
  refine ⟨fun higher below nonempty stands => stays higher ?_, stays _ rooted.working⟩
  rw [find?_put inside] at stands
  split at stands
  case isFalse => exact rooted.above higher below nonempty stands
  case isTrue reached =>
    subst reached
    rw [List.dropLast_append_of_ne_nil nonempty] at above
    by_cases direct : below.dropLast = []
    · rwa [direct, List.append_nil] at above
    · exact rooted.above higher _ direct (by simp [above])

/-- Making the directories along a path from a directory keeps a folder rooted.

Proof: induction on the segments, each of which is taken from a directory. -/
theorem makeAlong (rooted : folder.Rooted) {segments : List (List Char)}
    (entered : folder.find? place = some .directory)
    (made : folder.makeAlong place segments = .ok later) : later.Rooted := by
  induction segments generalizing folder place with
  | nil =>
    cases made
    exact rooted
  | cons segment rest inductionHypothesis =>
    rw [Folder.makeAlong] at made
    split at made
    case h_1 isDirectory => exact inductionHypothesis rooted isDirectory made
    case h_2 => cases made
    case h_3 absent =>
      have inside : towards place segment ≠ [] := by
        intro root
        rw [root] at absent
        cases absent
      refine inductionHypothesis ?_ ?_ made
      · exact rooted.put inside (rooted.above_towards entered segment) fun _ => rfl
      · rw [find?_put inside, if_pos rfl]

/-- Making a directory and those above it keeps a folder rooted, wherever the path begins. -/
theorem makeDirectories (rooted : folder.Rooted)
    (made : folder.makeDirectories path = .ok later) : later.Rooted := by
  unfold Folder.makeDirectories at made
  split at made
  · cases made
    exact rooted
  · exact rooted.makeAlong (rooted.start path) made

/-- A walk ends in a directory, if it begins in one. What stands at its end may be anything. -/
theorem above_of_walk (rooted : folder.Rooted) {segments : List (List Char)}
    {target : List String} (above : folder.find? place.dropLast = some .directory)
    (led : folder.walk place segments = .ok target) :
    folder.find? target.dropLast = some .directory := by
  induction segments generalizing place with
  | nil =>
    cases led
    exact above
  | cons segment rest inductionHypothesis =>
    obtain ⟨entered, led⟩ := walk_cons_eq_ok_iff.mp led
    exact inductionHypothesis (rooted.above_towards entered segment) led

/-- Writing a text keeps a folder rooted: where a path leads, there is a directory above. -/
theorem writeText (rooted : folder.Rooted) (written : folder.writeText path text = .ok later) :
    later.Rooted := by
  obtain ⟨place, led, inside, notDirectory, rfl⟩ := eq_put_of_writeText written
  refine rooted.put inside ?_ fun isDirectory => (notDirectory isDirectory).elim
  exact rooted.above_of_walk (rooted.dropLast (rooted.start path)) (locate_eq_ok_iff.mp led).2

end Rooted

/-! ## Paths without a step up -/

/-- A segment that is no step up leads below the place from which it is taken, or nowhere
else. -/
theorem towards_below {segment : List Char} (notUp : segment ≠ ['.', '.']) :
    ∃ below, towards place segment = place ++ below := by
  unfold towards
  rw [if_neg notUp]
  split
  · exact ⟨[], (List.append_nil _).symm⟩
  · exact ⟨_, rfl⟩

/-- Without a step up, a walk ends below where it began. -/
theorem walk_below {segments : List (List Char)} {target : List String}
    (noStepUp : ['.', '.'] ∉ segments) (led : folder.walk place segments = .ok target) :
    ∃ below, target = place ++ below := by
  induction segments generalizing place with
  | nil =>
    cases led
    exact ⟨[], (List.append_nil _).symm⟩
  | cons segment rest inductionHypothesis =>
    obtain ⟨notUp, noStepUp⟩ := not_or.mp (mt List.mem_cons.mpr noStepUp)
    obtain ⟨further, reached⟩ := inductionHypothesis noStepUp (walk_cons_eq_ok_iff.mp led).2
    obtain ⟨first, taken⟩ : ∃ first, towards place segment = place ++ first :=
      towards_below (Ne.symm notUp)
    exact ⟨first ++ further, by rw [reached, taken, List.append_assoc]⟩

/-- A walk without a step up that ends at a file of the later folder was possible before, if
anything stood there.

Proof: induction on the segments. Every place on the way is above the file, so that it was a
directory already. -/
theorem Rooted.walk_eq_ok (rooted : before.Rooted) {target : List String}
    (stands : before.find? target ≠ none) (isFile : later.find? target ≠ some .directory)
    {segments : List (List Char)} (noStepUp : ['.', '.'] ∉ segments)
    (led : later.walk place segments = .ok target) : before.walk place segments = .ok target := by
  induction segments generalizing place with
  | nil => exact led
  | cons segment rest inductionHypothesis =>
    obtain ⟨below, reached⟩ := walk_below noStepUp led
    obtain ⟨notUp, noStepUp⟩ := not_or.mp (mt List.mem_cons.mpr noStepUp)
    obtain ⟨entered, led⟩ := walk_cons_eq_ok_iff.mp led
    refine walk_cons_eq_ok_iff.mpr ⟨?_, inductionHypothesis noStepUp led⟩
    refine rooted.above place below ?_ (reached ▸ stands)
    rintro rfl
    exact isFile (by rw [reached, List.append_nil, entered])

/-- If nothing was at a path without a step up, nothing stood where a text is then stored. No
file has been replaced. -/
theorem StoredAt.wasMissing (stored : before.StoredAt later path text place)
    (rooted : before.Rooted) (noStepUp : ['.', '.'] ∉ Path.segments path)
    (absent : before.isPresent path = false) : before.find? place = none := by
  cases stands : before.find? place with
  | none => rfl
  | some entry =>
    have isFile : later.find? place ≠ some .directory := by
      rw [stored.content]
      nofun
    obtain ⟨nonempty, led⟩ := locate_eq_ok_iff.mp stored.leads
    rw [stored.keepsDirectories.start] at led
    have ledBefore : before.locate path = .ok place :=
      locate_eq_ok_iff.mpr ⟨nonempty, rooted.walk_eq_ok (by simp [stands]) isFile noStepUp led⟩
    rw [Folder.isPresent, ledBefore] at absent
    simp [stands] at absent

end WindowPlacement.Folder
