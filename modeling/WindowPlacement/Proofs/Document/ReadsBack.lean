import Mathlib.Data.List.Forall2
import WindowPlacement.Proofs.Document.Layout

/-!
# Written documents are read back

A reader reads a document back as a value if it finds the value in the text of the document,
in either form and at any level, whatever gap stands in front and whatever follows that cannot
belong to a number. How many lists and records it opens on the way is counted, because only so
many may be open.

This holds of texts, and it carries over from elements to lists, from members to records and
from contents to tagged values. So it holds of a whole shape as soon as it holds of the single
values in it.
-/

namespace WindowPlacement.Document

/-- Nothing in front of a text could be read as the rest of a number. The end of the text
counts, and so does every character of the notation that may follow a value. -/
def EndsNumber (text : List Char) : Prop :=
  ∀ first rest, text = first :: rest → Decimal.isDigit first = false ∧ first ∉ ['.', 'e', 'E']

namespace EndsNumber

/-- At the end of a text a number ends. That is where a document that is a number ends. -/
theorem nil : EndsNumber [] := by
  intro first rest impossible
  cases impossible

/-- A number ends in front of a gap. If the gap is empty, this is a question of the text behind
it. -/
theorem gap {margin text : List Char} (isGap : Gap margin) (ends : EndsNumber text) :
    EndsNumber (margin ++ text) := by
  cases margin with
  | nil => exact ends
  | cons character margin =>
    rintro first rest same
    obtain ⟨rfl, -⟩ := List.cons.inj same
    have blank := isGap character List.mem_cons_self
    simp only [Document.isGap, Bool.or_eq_true, decide_eq_true_eq] at blank
    rcases blank with ((rfl | rfl) | rfl) | rfl <;> exact ⟨rfl, by decide⟩

/-- A number ends in front of a comma. Another element or member follows then. -/
theorem comma (rest : List Char) : EndsNumber (',' :: rest) := by
  intro first rest same
  obtain ⟨rfl, -⟩ := List.cons.inj same
  exact ⟨rfl, by decide⟩

/-- A number ends in front of a bracket that closes something. It may be the bracket of a list
or that of a record. -/
theorem closing (enclosure : Enclosure) (rest : List Char) :
    EndsNumber (enclosure.closing :: rest) := by
  intro first rest same
  obtain ⟨rfl, -⟩ := List.cons.inj same
  cases enclosure <;> exact ⟨rfl, by decide⟩

end EndsNumber

/-- Elements that are not the first one end a number before them, and so does what follows them.
If there are none, what follows is all that matters. -/
theorem endsNumber_continued (gap : List Char) (elements : List (List Char)) {text : List Char}
    (ends : EndsNumber text) : EndsNumber (continued gap elements ++ text) := by
  cases elements with
  | nil => exact ends
  | cons element others =>
    rw [continued, List.flatMap_cons, List.cons_append, List.cons_append]
    exact EndsNumber.comma _

/-- A written document begins with a character that belongs to it. So an element is never taken
for the end of its list. -/
def Begins (document : Document) : Prop :=
  ∀ form level, ∃ first rest, (document.write form level).toList = first :: rest ∧
    isGap first = false ∧ first ≠ ']'

/-- A tagged value begins with the bracket of its record. Its content is of no account for
this. -/
theorem begins_tagged (tag : String) (content : Document) : (tagged tag content).Begins := by
  intro form level
  rw [tagged, write]
  obtain ⟨rest, opened⟩ := exists_toList_enclosed form level "\x7b" "\x7d"
    (writeMembers form (level + 1) [(tag, content)])
  exact ⟨'\x7b', rest, opened, rfl, by decide⟩

namespace Reader

variable {α β ρ : Type}

/-- The reader finds the value in the written document, opening at most so many lists and
records. The value is arbitrary: where numbers are rounded, it need not be the one that was
written. -/
structure ReadsBack (reader : Reader α) (levels : Nat) (document : Document) (value : α) :
    Prop where
  /-- The text does not begin with anything that could belong to what is around it. -/
  begins : ∀ form level, ∃ first rest, (document.write form level).toList = first :: rest ∧
    isGap first = false ∧ first ≠ ']'
  reads : ∀ form level available gap rest, levels ≤ available → Gap gap → EndsNumber rest →
    reader available (gap ++ (document.write form level).toList ++ rest) = .ok (value, rest)

namespace ReadsBack

/-- A value that is changed after reading is read back changed. The levels are the same, since
nothing more is opened. -/
theorem map {reader : Reader α} {levels : Nat} {document : Document} {value : α}
    (change : α → β) (readsBack : reader.ReadsBack levels document value) :
    (Reader.map change reader).ReadsBack levels document (change value) where
  begins := readsBack.begins
  reads := by
    intro form level available gap rest enough margin ends
    rw [Reader.map, readsBack.reads form level available gap rest enough margin ends]
    rfl

/-- A reader that may open more lists and records reads back as well. A bound on the levels may
thus be taken larger than needed. -/
theorem mono {reader : Reader α} {levels more : Nat} {document : Document} {value : α}
    (readsBack : reader.ReadsBack levels document value) (fewer : levels ≤ more) :
    reader.ReadsBack more document value where
  begins := readsBack.begins
  reads form level available gap rest enough :=
    readsBack.reads form level available gap rest (Nat.le_trans fewer enough)

/-- A text is read back. It opens nothing, whatever characters it holds. -/
theorem text (value : String) : Reader.text.ReadsBack 0 (.string value) value where
  begins form level := ⟨'"', _, toList_quoted value, rfl, by decide⟩
  reads := by
    intro form level available gap rest _ margin _
    rw [Reader.text, write, toList_quoted, List.append_assoc, List.cons_append,
      margin.skip_cons _ rfl, List.append_assoc]
    exact restOfText_quoted value rest

end ReadsBack

/-! ## Lists -/

/-- A closing bracket behind a gap ends a list. This is so in front of the first element and
behind any other. -/
theorem nextElement_closing (isFirst : Bool) {gap : List Char} (margin : Gap gap)
    (rest : List Char) : nextElement isFirst (gap ++ ']' :: rest) = .ok none := by
  rw [nextElement, margin.skip_cons rest rfl]
  rfl

/-- A closing bracket behind a gap is passed over. Nothing else may stand there. -/
theorem endOfList_closing {gap : List Char} (margin : Gap gap) (rest : List Char) :
    endOfList (gap ++ ']' :: rest) = .ok rest := by
  rw [endOfList, margin.skip_cons rest rfl]
  rfl

/-- The first element is found behind a gap. No comma may stand in front of it. -/
theorem nextElement_first {gap : List Char} (margin : Gap gap) {first : Char} (rest : List Char)
    (solid : isGap first = false) (proper : first ≠ ']') :
    nextElement true (gap ++ first :: rest) = .ok (some (first :: rest)) := by
  simp only [nextElement, margin.skip_cons rest solid, proper, if_false, if_true]

/-- A further element is found behind a comma and a gap. A comma with nothing behind it is
refused, which this leaves out. -/
theorem nextElement_further {gap : List Char} (margin : Gap gap) {first : Char}
    (rest : List Char) (solid : isGap first = false) (proper : first ≠ ']') :
    nextElement false (',' :: (gap ++ first :: rest)) = .ok (some (first :: rest)) := by
  have comma : skipGaps (',' :: (gap ++ first :: rest)) = ',' :: (gap ++ first :: rest) := rfl
  simp only [nextElement, comma, Char.reduceEq, Bool.false_eq_true, if_false, if_true,
    margin.skip_cons rest solid, proper]

/-- One element and the elements after it are the elements of a list. The text has to become
shorter, which is what ends the loop. -/
theorem elements_step {element : Reader α} {levels : Nat} {isFirst : Bool}
    {text start later rest : List Char} {value : α} {values : List α}
    (next : nextElement isFirst text = .ok (some start))
    (one : element levels start = .ok (value, later)) (shorter : later.length < text.length)
    (others : elements element levels false later = .ok (values, rest)) :
    elements element levels isFirst text = .ok (value :: values, rest) := by
  rw [elements, next]
  simp only [one, shorter, if_true, others]

/-- Where a list ends there are no elements. This is the last round of the loop. -/
theorem elements_closing (element : Reader α) (levels : Nat) (isFirst : Bool) {gap : List Char}
    (margin : Gap gap) (rest : List Char) :
    elements element levels isFirst (gap ++ ']' :: rest) = .ok ([], rest) := by
  rw [elements, nextElement_closing isFirst margin]
  simp only [endOfList_closing margin, Except.map]

/-- Elements that are read back one by one are read back in a row.

Proof: induction on the elements. Behind each of them stands a comma or the end of the list. -/
theorem elements_continued {element : Reader α} {levels available : Nat}
    (enough : levels ≤ available) (form : Form) (level : Nat) {gap last : List Char}
    (margin : Gap gap) (lastMargin : Gap last) (rest : List Char) {documents : List Document}
    {values : List α} (each : List.Forall₂ (element.ReadsBack levels) documents values) :
    elements element available false
      (continued gap ((documents.map (write form level)).map String.toList) ++
        (last ++ ']' :: rest)) = .ok (values, rest) := by
  induction each with
  | nil => exact elements_closing element available false lastMargin rest
  | @cons document value documents values one others inductionHypothesis =>
    obtain ⟨first, tail, written, solid, proper⟩ := one.begins form level
    have ends := endsNumber_continued gap ((documents.map (write form level)).map String.toList)
      (EndsNumber.gap lastMargin (EndsNumber.closing .list rest))
    have read := one.reads form level available [] _ enough Gap.nil ends
    rw [List.nil_append, written, List.cons_append] at read
    rw [List.map_cons, List.map_cons, continued, List.flatMap_cons, written, List.cons_append,
      List.cons_append, List.append_assoc, List.append_assoc, List.cons_append]
    refine elements_step (nextElement_further margin _ solid proper) read ?_ inductionHypothesis
    simp only [continued, List.length_append, List.length_cons, Enclosure.closing]
    omega

/-- A list of elements that are read back is read back. The list may be empty. It takes one
level more than the element that takes most. -/
theorem ReadsBack.list {element : Reader α} {levels : Nat} {documents : List Document}
    {values : List α} (each : List.Forall₂ (element.ReadsBack levels) documents values) :
    (Reader.list element).ReadsBack (levels + 1) (.array documents) values := by
  have bracket : ("[" : String).toList = ['['] := rfl
  have closingBracket : ("]" : String).toList = [']'] := rfl
  refine ⟨fun form level => ?_, fun form level available gap rest enough margin ends => ?_⟩
  · rw [write]
    obtain ⟨rest, opened⟩ := exists_toList_enclosed form level "[" "]"
      (writeElements form (level + 1) documents)
    exact ⟨'[', rest, opened, rfl, by decide⟩
  · obtain ⟨remaining, rfl⟩ : ∃ remaining, available = remaining + 1 :=
      ⟨available - 1, by omega⟩
    have inside : levels ≤ remaining := Nat.le_of_succ_le_succ enough
    rw [write, writeElements_eq_map]
    cases each with
    | nil =>
      rw [List.map_nil, toList_enclosed_nil, bracket, closingBracket, List.append_assoc,
        Reader.list]
      simp only [List.cons_append, List.nil_append, margin.skip_cons _ (rfl : isGap '[' = false),
        deeper]
      exact elements_closing element remaining true Gap.nil rest
    | @cons document value documents values one others =>
      obtain ⟨first, tail, written, solid, proper⟩ := one.begins form (level + 1)
      have behind := elements_continued inside form (level + 1) (Gap.lineStart form (level + 1))
        (Gap.lineStart form level) rest others
      have read := one.reads form (level + 1) remaining [] _ inside Gap.nil
        (endsNumber_continued (form.lineStart (level + 1)).toList
          ((documents.map (write form (level + 1))).map String.toList)
          (EndsNumber.gap (Gap.lineStart form level) (EndsNumber.closing .list rest)))
      rw [List.nil_append, written, List.cons_append] at read
      rw [List.map_cons, toList_enclosed_cons, bracket, closingBracket, written, Reader.list]
      simp only [List.append_assoc, List.cons_append, List.nil_append,
        margin.skip_cons _ (rfl : isGap '[' = false), deeper]
      refine elements_step (nextElement_first (Gap.lineStart form (level + 1)) _ solid proper)
        read ?_ behind
      simp only [List.length_append, List.length_cons, Enclosure.closing]
      omega

/-! ## Records -/

/-- A closing bracket behind a gap ends a record. It may stand in front of the first key
already. -/
theorem nextKey_closing (isFirst : Bool) {gap : List Char} (margin : Gap gap)
    (rest : List Char) : nextKey isFirst (gap ++ '\x7d' :: rest) = .ok none := by
  rw [nextKey, margin.skip_cons rest rfl]
  rfl

/-- The first key is found behind a gap. The key is read with its escapes, like any text. -/
theorem nextKey_first {gap : List Char} (margin : Gap gap) (key : String) (rest : List Char) :
    nextKey true (gap ++ '"' :: (key.toList.flatMap escaped ++ '"' :: rest)) =
      .ok (some (key, rest)) := by
  simp only [nextKey, margin.skip_cons _ (rfl : isGap '"' = false), Char.reduceEq, if_false,
    if_true, restOfText_quoted, Except.map]

/-- A further key is found behind a comma and a gap. What stands behind the key is left over,
the colon included. -/
theorem nextKey_further {gap : List Char} (margin : Gap gap) (key : String) (rest : List Char) :
    nextKey false (',' :: (gap ++ '"' :: (key.toList.flatMap escaped ++ '"' :: rest))) =
      .ok (some (key, rest)) := by
  have comma (text : List Char) : skipGaps (',' :: text) = ',' :: text := rfl
  simp only [nextKey, comma, margin.skip_cons _ (rfl : isGap '"' = false), Char.reduceEq,
    Bool.false_eq_true, if_false, if_true, restOfText_quoted, Except.map]

/-- The members, read into the record one after another, fill it up. Each key is that of a
member that has not been read yet. Members that are not in the list keep what the empty record
has for them. -/
inductive Fills {ρ α : Type} (shape : Shape ρ α) (levels : Nat) :
    ρ → List (String × Document) → ρ → Prop where
  | done (record : ρ) : Fills shape levels record [] record
  | next {record later last : ρ} {key : String} {document : Document} {member : Member ρ}
      {others : List (String × Document)}
      (known : shape.members.find? (fun member => member.key = key) = some member)
      (unread : member.isRead record = false)
      (reads : (member.readInto record).ReadsBack levels document later)
      (fills : Fills shape levels later others last) :
      Fills shape levels record ((key, document) :: others) last

namespace Fills

variable {shape : Shape ρ α} {levels available : Nat}

section Values

variable {record last : ρ} {key : String} {document : Document}
  {others : List (String × Document)} {reader : Reader β} {content : β} {get : ρ → Option β}
  {set : ρ → β → ρ}

/-- A member whose value has to be there, in front of others. The value is put into the record
as it is read. -/
theorem required
    (known : shape.members.find? (fun member => member.key = key) =
      some (Member.required key reader get set))
    (unread : get record = none) (reads : reader.ReadsBack levels document content)
    (fills : Fills shape levels (set record content) others last) :
    Fills shape levels record ((key, document) :: others) last :=
  .next known (congrArg Option.isSome unread) (reads.map _) fills

/-- A member whose value need not be there, in front of others. If it is there it is treated
like any other. -/
theorem omissible
    (known : shape.members.find? (fun member => member.key = key) =
      some (Member.omissible key reader get set))
    (unread : get record = none) (reads : reader.ReadsBack levels document content)
    (fills : Fills shape levels (set record content) others last) :
    Fills shape levels record ((key, document) :: others) last :=
  .next known (congrArg Option.isSome unread) (reads.map _) fills

end Values

/-- One member and the members after it are the members of a record. The order in which the
members come is free, and is the one in which they were written here. -/
theorem readMembers_step {isFirst : Bool} {text afterKey later rest : List Char} {key : String}
    {member : Member ρ} {record next last : ρ}
    (found : nextKey isFirst text = .ok (some (key, ':' :: afterKey)))
    (known : shape.members.find? (fun member => member.key = key) = some member)
    (unread : member.isRead record = false)
    (one : member.readInto record available afterKey = .ok (next, later))
    (shorter : later.length < text.length)
    (others : shape.readMembers available false next later = .ok (last, rest)) :
    shape.readMembers available isFirst record text = .ok (last, rest) := by
  have read : shape.readMember available record key (':' :: afterKey) = .ok (next, later) := by
    simp only [Shape.readMember, known, unread, Bool.false_eq_true, if_false]
    exact one
  rw [Shape.readMembers, found]
  simp only [read, shorter, if_true, others]

/-- Where a record ends there are no members. What has been read up to there is the record. -/
theorem readMembers_closing (isFirst : Bool) (record : ρ) {gap : List Char} (margin : Gap gap)
    (rest : List Char) :
    shape.readMembers available isFirst record (gap ++ '\x7d' :: rest) = .ok (record, rest) := by
  rw [Shape.readMembers, nextKey_closing isFirst margin]
  simp only [margin.skip_cons rest (rfl : isGap '\x7d' = false), List.drop_succ_cons,
    List.drop_zero]

/-- Members that are read back one by one fill the record in a row.

Proof: induction on the members. Behind each of them stands a comma or the end of the record. -/
theorem readMembers_continued (enough : levels ≤ available) (form : Form) (level : Nat)
    {gap last : List Char} (margin : Gap gap) (lastMargin : Gap last) (rest : List Char)
    {members : List (String × Document)} {record final : ρ}
    (fills : Fills shape levels record members final) :
    shape.readMembers available false record
      (continued gap ((members.map (writeMember form level)).map String.toList) ++
        (last ++ '\x7d' :: rest)) = .ok (final, rest) := by
  induction fills with
  | done record => exact readMembers_closing false record lastMargin rest
  | @next record later final key document member others known unread one fills
      inductionHypothesis =>
    obtain ⟨colonGap, colonMargin, written⟩ := exists_toList_writeMember form level key document
    have read := one.reads form level available colonGap _ enough colonMargin
      (endsNumber_continued gap ((others.map (writeMember form level)).map String.toList)
        (EndsNumber.gap lastMargin (EndsNumber.closing .record rest)))
    rw [List.map_cons, List.map_cons, continued, List.flatMap_cons, written]
    simp only [List.append_assoc, List.cons_append] at read ⊢
    refine readMembers_step (nextKey_further margin key _) known unread read ?_
      inductionHypothesis
    simp only [continued, List.length_append, List.length_cons, Enclosure.closing]
    omega

/-- A record whose members fill it up is read back as what they make together. Whether anything
is missing is decided at the end, when the record is closed. -/
theorem readsBack {members : List (String × Document)} {final : ρ} {value : α}
    (fills : Fills shape levels shape.start members final)
    (made : shape.finish final = .ok value) :
    shape.read.ReadsBack (levels + 1) (.object members) value := by
  have bracket : ("\x7b" : String).toList = ['\x7b'] := rfl
  have closingBracket : ("\x7d" : String).toList = ['\x7d'] := rfl
  refine ⟨fun form level => ?_, fun form level available gap rest enough margin ends => ?_⟩
  · rw [write]
    obtain ⟨rest, opened⟩ := exists_toList_enclosed form level "\x7b" "\x7d"
      (writeMembers form (level + 1) members)
    exact ⟨'\x7b', rest, opened, rfl, by decide⟩
  · obtain ⟨remaining, rfl⟩ : ∃ remaining, available = remaining + 1 :=
      ⟨available - 1, by omega⟩
    have inside : levels ≤ remaining := Nat.le_of_succ_le_succ enough
    have finished {text : List Char}
        (filled : shape.readMembers remaining true shape.start text = .ok (final, rest)) :
        shape.read (remaining + 1) (gap ++ '\x7b' :: text) = .ok (value, rest) := by
      simp only [Shape.read, margin.skip_cons _ (rfl : isGap '\x7b' = false), deeper, filled, bind,
        Except.bind, made]
      rfl
    rw [write, writeMembers_eq_map]
    cases fills with
    | done =>
      rw [List.map_nil, toList_enclosed_nil, bracket, closingBracket, List.append_assoc]
      exact finished (readMembers_closing true shape.start Gap.nil rest)
    | @next record later final key document member others known unread one fills =>
      obtain ⟨colonGap, colonMargin, written⟩ :=
        exists_toList_writeMember form (level + 1) key document
      have behind := readMembers_continued inside form (level + 1)
        (Gap.lineStart form (level + 1)) (Gap.lineStart form level) rest fills
      have read := one.reads form (level + 1) remaining colonGap _ inside colonMargin
        (endsNumber_continued (form.lineStart (level + 1)).toList
          ((others.map (writeMember form (level + 1))).map String.toList)
          (EndsNumber.gap (Gap.lineStart form level) (EndsNumber.closing .record rest)))
      rw [List.map_cons, toList_enclosed_cons, bracket, closingBracket, written]
      simp only [List.append_assoc, List.cons_append, List.nil_append] at read ⊢
      refine finished (readMembers_step (nextKey_first (Gap.lineStart form (level + 1)) key _) known
        unread read ?_ behind)
      simp only [List.length_append, List.length_cons, Enclosure.closing]
      omega

end Fills

/-! ## Alternatives -/

/-- What a tag contains is read where it stands in the record. Behind the content the bracket of
the record has to close. -/
theorem variant_of_write {known : List (Alternative α)} {tag : String} {chosen : Alternative α}
    (found : alternative known tag = .ok chosen) (form : Form) (level remaining : Nat)
    {gap : List Char} (margin : Gap gap) (content : Document) (rest : List Char) :
    ∃ colonGap, Gap colonGap ∧
      variant known (remaining + 1)
          (gap ++ ((tagged tag content).write form level).toList ++ rest) = (do
        let (value, afterContent) ← contentOf chosen remaining
          (colonGap ++ (content.write form (level + 1)).toList ++
            ((form.lineStart level).toList ++ '\x7d' :: rest))
        let last ← endOfTagged afterContent
        return (value, last)) := by
  obtain ⟨colonGap, colonMargin, written⟩ := exists_toList_writeMember form (level + 1) tag content
  have bracket : ("\x7b" : String).toList = ['\x7b'] := rfl
  have closingBracket : ("\x7d" : String).toList = ['\x7d'] := rfl
  have colonFound (text : List Char) : colon (':' :: text) = .ok text := rfl
  refine ⟨colonGap, colonMargin, ?_⟩
  rw [tagged, write, writeMembers_eq_map, List.map_cons, List.map_nil, toList_enclosed_cons,
    bracket, closingBracket, written, variant]
  simp only [List.map_nil, continued, List.flatMap_nil, List.append_assoc, List.cons_append,
    List.nil_append, margin.skip_cons _ (rfl : isGap '\x7b' = false), deeper,
    nextKey_first (Gap.lineStart form (level + 1)), bind, Except.bind, found, colonFound]

namespace ReadsBack

/-- A tag that stands alone is read back as its value. It opens no record, and so takes no
level. -/
theorem bare {known : List (Alternative α)} {tag : String} {value : α}
    (found : alternative known tag = .ok ⟨tag, .bare value⟩) :
    (variant known).ReadsBack 0 (.string tag) value where
  begins form level := ⟨'"', _, toList_quoted tag, rfl, by decide⟩
  reads := by
    intro form level available gap rest _ margin _
    rw [write, toList_quoted, List.append_assoc, List.cons_append, variant,
      margin.skip_cons _ rfl, List.append_assoc]
    simp only [List.cons_append, List.nil_append, restOfText_quoted, bind, Except.bind, found,
      bareTag, pure, Except.pure]

/-- A tag with a content that is read back is read back with it. The content takes one level
less than the whole. -/
theorem tagged {known : List (Alternative α)} {tag : String} {chosen : Alternative α}
    {levels : Nat} {content : Document} {value : α} (found : alternative known tag = .ok chosen)
    (readsBack : (contentOf chosen).ReadsBack levels content value) :
    (variant known).ReadsBack (levels + 1) (tagged tag content) value where
  begins := begins_tagged tag content
  reads := by
    intro form level available gap rest enough margin ends
    obtain ⟨remaining, rfl⟩ : ∃ remaining, available = remaining + 1 :=
      ⟨available - 1, by omega⟩
    obtain ⟨colonGap, colonMargin, same⟩ :=
      variant_of_write found form level remaining margin content rest
    have closing : EndsNumber ((form.lineStart level).toList ++ '\x7d' :: rest) :=
      EndsNumber.gap (Gap.lineStart form level) (EndsNumber.closing .record rest)
    have closed : endOfTagged ((form.lineStart level).toList ++ '\x7d' :: rest) = .ok rest := by
      rw [endOfTagged, (Gap.lineStart form level).skip_cons rest rfl]
      rfl
    rw [same, readsBack.reads form (level + 1) remaining colonGap _
      (Nat.le_of_succ_le_succ enough) colonMargin closing]
    simp only [bind, Except.bind, closed, pure, Except.pure]

/-- A record that need not be there is read back if it is there. If it is not there, it is
written as null, which is another case. -/
theorem optional {reader : Reader α} {levels : Nat} {members : List (String × Document)}
    {value : α} (readsBack : reader.ReadsBack levels (.object members) value) :
    (Reader.optional reader).ReadsBack levels (.object members) (some value) where
  begins := readsBack.begins
  reads := by
    intro form level available gap rest enough margin ends
    have read := readsBack.reads form level available [] rest enough Gap.nil ends
    obtain ⟨tail, opened⟩ := exists_toList_enclosed form level "\x7b" "\x7d"
      (writeMembers form (level + 1) members)
    have bracket : ("\x7b" : String).toList = ['\x7b'] := rfl
    rw [write, opened, bracket, List.nil_append, List.cons_append, List.cons_append] at read
    rw [write, opened, bracket, List.append_assoc, List.cons_append, List.cons_append,
      Reader.optional, margin.skip_cons _ rfl]
    change (Reader.map some reader) available ('\x7b' :: ([] ++ tail ++ rest)) = _
    rw [Reader.map, read]
    rfl

end ReadsBack

end Reader

/-- A document that is read back, and opens no more lists and records than may be open, is the
only thing in its text. Nothing may be left over behind it, and nothing is. -/
theorem read_write {α : Type} {reader : Reader α} {levels : Nat} {document : Document} {value : α}
    (readsBack : reader.ReadsBack levels document value) (few : levels ≤ maximalLevels)
    (form : Form) : read reader (document.write form 0) = .ok value := by
  have whole := readsBack.reads form 0 maximalLevels [] [] few Gap.nil EndsNumber.nil
  rw [List.nil_append, List.append_nil] at whole
  simp only [read, whole, bind, Except.bind]
  rfl

end WindowPlacement.Document
