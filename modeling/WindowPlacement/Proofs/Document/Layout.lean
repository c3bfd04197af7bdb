import WindowPlacement.Proofs.Document.Quoted

/-!
# Written documents as characters

Between the brackets of a list or a record stand its elements, each behind the start of its
line, and a comma behind each but the last. What belongs to the form alone, the starts of
lines and the blank behind a colon, is a gap, which every reader passes over.
-/

namespace WindowPlacement.Document

/-- Characters that may stand between the parts of a document. There may be none of them. Which
characters these are is fixed by the notation of documents, and other blank characters are not
among them. -/
def Gap (text : List Char) : Prop := ∀ character ∈ text, isGap character = true

namespace Gap

/-- A gap in front of a text is passed over. So it makes no difference to a reader that skips
gaps before it begins. -/
theorem skip {gap : List Char} (margin : Gap gap) (text : List Char) :
    skipGaps (gap ++ text) = skipGaps text := by
  rw [skipGaps, List.dropWhile_append_of_pos margin, skipGaps]

/-- Behind a gap, something else is found as it stands. The gap ends there, however long it
is. -/
theorem skip_cons {gap : List Char} (margin : Gap gap) {first : Char} (rest : List Char)
    (solid : isGap first = false) : skipGaps (gap ++ first :: rest) = first :: rest := by
  rw [margin.skip, skipGaps, List.dropWhile_cons_of_neg (by simp [solid])]

/-- Nothing is a gap. A compact document has no others. -/
theorem nil : Gap [] := List.forall_mem_nil _

/-- The start of a line is a gap. In the compact form it is empty, in the other one a line end
and two blanks for each level. -/
theorem lineStart (form : Form) (level : Nat) : Gap (form.lineStart level).toList := by
  cases form with
  | compact => exact nil
  | pretty =>
    rw [Form.lineStart, String.toList_ofList]
    refine List.forall_mem_cons.mpr ⟨rfl, fun character member => ?_⟩
    rw [(List.mem_replicate.mp member).2]
    rfl

end Gap

/-- Behind a key stands a colon, and behind the colon nothing but a gap. Both forms agree on
this, and so readers need not know the form. -/
theorem Form.exists_afterKey (form : Form) :
    ∃ gap, Gap gap ∧ form.afterKey.toList = ':' :: gap := by
  cases form with
  | compact => exact ⟨[], Gap.nil, rfl⟩
  | pretty => exact ⟨[' '], List.forall_mem_singleton.mpr rfl, rfl⟩

/-- Elements that are not the first one, each behind a comma and the start of its line. The gap
is the same in front of each of them. -/
def continued (gap : List Char) (elements : List (List Char)) : List Char :=
  elements.flatMap fun element => ',' :: (gap ++ element)

/-- Elements with commas between them are the first one and the others behind it. In this way
they are read: a first one, and further ones as long as there is a comma. -/
theorem intercalate_eq_continued (gap first : List Char) (others : List (List Char)) :
    (',' :: gap).intercalate (first :: others) = first ++ continued gap others := by
  induction others generalizing first with
  | nil => simp [continued]
  | cons second others inductionHypothesis =>
    rw [List.intercalate_cons_cons, inductionHypothesis]
    simp [continued]

/-- Brackets around no element enclose nothing. No line is begun between them, in either
form. -/
theorem toList_enclosed_nil (form : Form) (level : Nat) (opening closing : String) :
    (enclosed form level opening closing []).toList = opening.toList ++ closing.toList := by
  rw [enclosed, String.toList_append]

/-- Brackets around elements enclose the start of a line, the elements, and the start of the
last line. The elements stand one level further in than the brackets. -/
theorem toList_enclosed_cons (form : Form) (level : Nat) (opening closing first : String)
    (others : List String) :
    (enclosed form level opening closing (first :: others)).toList =
      opening.toList ++ ((form.lineStart (level + 1)).toList ++ (first.toList ++
        (continued (form.lineStart (level + 1)).toList (others.map String.toList) ++
          ((form.lineStart level).toList ++ closing.toList)))) := by
  have comma : ("," : String).toList = [','] := rfl
  simp only [enclosed, String.toList_append, String.toList_intercalate, List.map_cons, comma,
    List.cons_append, List.nil_append, intercalate_eq_continued, List.append_assoc]

/-- What is between brackets begins with the opening one. A reader tells by it what it is about
to read. -/
theorem exists_toList_enclosed (form : Form) (level : Nat) (opening closing : String)
    (elements : List String) :
    ∃ rest, (enclosed form level opening closing elements).toList = opening.toList ++ rest := by
  cases elements with
  | nil => exact ⟨_, toList_enclosed_nil form level opening closing⟩
  | cons first others => exact ⟨_, toList_enclosed_cons form level opening closing first others⟩

/-- The elements of a list are written one after another. Each is written as it would be alone
at that level. -/
theorem writeElements_eq_map (form : Form) (level : Nat) (documents : List Document) :
    writeElements form level documents = documents.map (write form level) := by
  induction documents with
  | nil => rfl
  | cons document others inductionHypothesis =>
    rw [writeElements, inductionHypothesis, List.map_cons]

/-- A member of a record with its key. The value begins on the line of its key. -/
def writeMember (form : Form) (level : Nat) (member : String × Document) : String :=
  quoted member.1 ++ form.afterKey ++ write form level member.2

/-- The members of a record are written one after another. Their order is kept, and a key that
occurs twice is written twice. -/
theorem writeMembers_eq_map (form : Form) (level : Nat) (members : List (String × Document)) :
    writeMembers form level members = members.map (writeMember form level) := by
  induction members with
  | nil => rfl
  | cons member others inductionHypothesis =>
    rw [writeMembers, inductionHypothesis, List.map_cons, writeMember]

/-- A written member is its quoted key, a colon, a gap and the written value. The value is the
same text as that of the value alone. -/
theorem exists_toList_writeMember (form : Form) (level : Nat) (key : String)
    (document : Document) :
    ∃ gap, Gap gap ∧ (writeMember form level (key, document)).toList =
      '"' :: (key.toList.flatMap escaped ++ '"' :: ':' :: (gap ++
        (document.write form level).toList)) := by
  obtain ⟨gap, margin, colon⟩ := form.exists_afterKey
  refine ⟨gap, margin, ?_⟩
  simp only [writeMember, String.toList_append, toList_quoted, colon, List.append_assoc,
    List.cons_append, List.nil_append]

end WindowPlacement.Document
