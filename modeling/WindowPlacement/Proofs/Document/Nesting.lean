import WindowPlacement.Proofs.Document.ReadsBack

/-!
# Nested documents

Only so many lists and records may be open at the same time. A reader that is told how many may
still be opened refuses a document that is nested more deeply, and it does so whatever the
document holds besides: what stands in front of the place where it gives up has been read.

A tagged value opens a record, and a pair opens a list. Both refuse a document if nothing may be
opened any more, or if what is inside is refused with one level less.
-/

namespace WindowPlacement.Document

namespace Reader

variable {α β : Type}

/-- With so many lists and records that may still be opened, the reader finds the document
nested too deeply. Whatever stands in front of the document and behind it, the refusal is the
same. A reader may refuse a document for other reasons too, which this does not cover. -/
def Refuses (reader : Reader α) (available : Nat) (document : Document) : Prop :=
  ∀ form level gap rest, Gap gap → EndsNumber rest →
    reader available (gap ++ (document.write form level).toList ++ rest) = .error .tooDeep

/-! ## Tagged values -/

/-- Where nothing may be opened any more, no tagged value is read. The content is not looked
at. -/
theorem Refuses.tagged_zero (known : List (Alternative α)) (tag : String) (content : Document) :
    (variant known).Refuses 0 (tagged tag content) := by
  intro form level gap rest margin _
  have bracket : ("\x7b" : String).toList = ['\x7b'] := rfl
  obtain ⟨tail, opened⟩ := exists_toList_enclosed form level "\x7b" "\x7d"
    (writeMembers form (level + 1) [(tag, content)])
  rw [tagged, write, opened, bracket, List.append_assoc, List.append_assoc, variant]
  simp only [List.cons_append, List.nil_append, margin.skip_cons _ (rfl : isGap '\x7b' = false),
    deeper]

/-- A tag is refused with its content. The content is read with one level less, since the tag
has opened a record. -/
theorem Refuses.tagged {known : List (Alternative α)} {tag : String} {chosen : Alternative α}
    {available : Nat} {content : Document} (found : alternative known tag = .ok chosen)
    (refuses : (contentOf chosen).Refuses available content) :
    (variant known).Refuses (available + 1) (tagged tag content) := by
  intro form level gap rest margin _
  obtain ⟨colonGap, colonMargin, same⟩ :=
    variant_of_write found form level available margin content rest
  have closing : EndsNumber ((form.lineStart level).toList ++ '\x7d' :: rest) :=
    EndsNumber.gap (Gap.lineStart form level) (EndsNumber.closing .record rest)
  rw [same, refuses form (level + 1) colonGap _ colonMargin closing]
  rfl

/-- A value that is changed after reading is refused all the same. A refusal leaves no value to
change. -/
theorem Refuses.map {reader : Reader α} {available : Nat} {document : Document} (change : α → β)
    (refuses : reader.Refuses available document) :
    (Reader.map change reader).Refuses available document := by
  intro form level gap rest margin ends
  rw [Reader.map, refuses form level gap rest margin ends]
  rfl

/-! ## Pairs -/

section Pair

variable {expected : String} {first : Reader α} {second : Reader β} {one other : Document}

/-- The elements of a pair, from where the first one starts. Between them a comma is read, and
behind the second one the closing bracket. -/
def bothElements (expected : String) (first : Reader α) (second : Reader β) : Reader (α × β) :=
  fun remaining start => do
    let (value, afterFirst) ← first remaining start
    let some start ← nextElement false afterFirst
      | .error (.wrongLength 1 (expected ++ " with 2 elements"))
    let (another, afterSecond) ← second remaining start
    let last ← endOfList afterSecond
    return ((value, another), last)

/-- The elements of a pair are read one after the other. Nothing of the notation is left but
what stands between the two elements. -/
theorem pair_of_write (expected : String) (first : Reader α) (second : Reader β)
    (begins : one.Begins) (form : Form) (level remaining : Nat) {gap : List Char}
    (margin : Gap gap) (rest : List Char) :
    pair expected first second (remaining + 1)
        (gap ++ ((Document.array [one, other]).write form level).toList ++ rest) =
      bothElements expected first second remaining ([] ++ (one.write form (level + 1)).toList ++
        (',' :: ((form.lineStart (level + 1)).toList ++ (other.write form (level + 1)).toList ++
          ((form.lineStart level).toList ++ ']' :: rest)))) := by
  have bracket : ("[" : String).toList = ['['] := rfl
  have closingBracket : ("]" : String).toList = [']'] := rfl
  obtain ⟨character, tail, written, solid, proper⟩ := begins form (level + 1)
  rw [write, writeElements_eq_map, List.map_cons, toList_enclosed_cons, bracket, closingBracket,
    written, pair]
  simp only [List.map_cons, List.map_nil, continued, List.flatMap_cons, List.flatMap_nil,
    List.append_nil, List.append_assoc, List.cons_append, List.nil_append,
    margin.skip_cons _ (rfl : isGap '[' = false), deeper,
    nextElement_first (Gap.lineStart form (level + 1)) _ solid proper, bind, Except.bind]
  rfl

/-- Once the first element of a pair has been read back, the second one is read behind it. The
outcome is then decided by the second element. -/
theorem pair_of_first_read {levels remaining : Nat} {value : α}
    (reads : first.ReadsBack levels one value) (enough : levels ≤ remaining)
    (begins : other.Begins) (form : Form) (level : Nat) {gap : List Char} (margin : Gap gap)
    (rest : List Char) :
    pair expected first second (remaining + 1)
        (gap ++ ((Document.array [one, other]).write form level).toList ++ rest) = (do
      let (another, afterSecond) ← second remaining ([] ++ (other.write form (level + 1)).toList ++
        ((form.lineStart level).toList ++ ']' :: rest))
      let last ← endOfList afterSecond
      return ((value, another), last)) := by
  obtain ⟨character, tail, written, solid, proper⟩ := begins form (level + 1)
  have readFirst := reads.reads form (level + 1) remaining [] _ enough Gap.nil
    (EndsNumber.comma ((form.lineStart (level + 1)).toList ++
      (other.write form (level + 1)).toList ++ ((form.lineStart level).toList ++ ']' :: rest)))
  rw [pair_of_write expected first second reads.begins form level remaining margin rest,
    bothElements, readFirst, written]
  simp only [bind, Except.bind, List.nil_append, List.append_assoc, List.cons_append,
    nextElement_further (Gap.lineStart form (level + 1)) _ solid proper]

/-- A closing bracket behind the start of a line ends a number. This holds for a compact
document too, where the start of a line is empty. -/
theorem endsNumber_lineStart (form : Form) (level : Nat) (rest : List Char) :
    EndsNumber ((form.lineStart level).toList ++ ']' :: rest) :=
  EndsNumber.gap (Gap.lineStart form level) (EndsNumber.closing .list rest)

/-- A pair of elements that are read back is read back. The pair takes one level more than its
elements do. -/
theorem ReadsBack.pair {levels : Nat} {value : α} {another : β}
    (reads : first.ReadsBack levels one value) (alsoReads : second.ReadsBack levels other another) :
    (Reader.pair expected first second).ReadsBack (levels + 1) (.array [one, other])
      (value, another) := by
  refine ⟨fun form level => ?_, fun form level available gap rest enough margin ends => ?_⟩
  · rw [write]
    obtain ⟨rest, opened⟩ := exists_toList_enclosed form level "[" "]"
      (writeElements form (level + 1) [one, other])
    exact ⟨'[', rest, opened, rfl, by decide⟩
  · obtain ⟨remaining, rfl⟩ : ∃ remaining, available = remaining + 1 :=
      ⟨available - 1, by omega⟩
    have inside : levels ≤ remaining := Nat.le_of_succ_le_succ enough
    rw [pair_of_first_read reads inside alsoReads.begins form level margin rest,
      alsoReads.reads form (level + 1) remaining [] _ inside Gap.nil
        (endsNumber_lineStart form level rest)]
    simp only [bind, Except.bind, endOfList_closing (Gap.lineStart form level) rest, pure,
      Except.pure]

/-- Where nothing may be opened any more, no pair is read. It does not matter how many elements
the list has. -/
theorem Refuses.pair_zero (elements : List Document) :
    (Reader.pair expected first second).Refuses 0 (.array elements) := by
  intro form level gap rest margin _
  have bracket : ("[" : String).toList = ['['] := rfl
  obtain ⟨tail, opened⟩ := exists_toList_enclosed form level "[" "]"
    (writeElements form (level + 1) elements)
  rw [write, opened, bracket, List.append_assoc, List.append_assoc, Reader.pair]
  simp only [List.cons_append, List.nil_append, margin.skip_cons _ (rfl : isGap '[' = false),
    deeper]

/-- A pair is refused with its first element. The second element is not reached, and may be
anything. -/
theorem Refuses.pair_first {available : Nat} (begins : one.Begins)
    (refuses : first.Refuses available one) :
    (Reader.pair expected first second).Refuses (available + 1) (.array [one, other]) := by
  intro form level gap rest margin _
  rw [pair_of_write expected first second begins form level available margin rest, bothElements,
    refuses form (level + 1) [] _ Gap.nil (EndsNumber.comma _)]
  rfl

/-- A pair is refused with its second element, if the first one is read back. The first one must
be read before the second one can be refused. -/
theorem Refuses.pair_second {levels available : Nat} {value : α}
    (reads : first.ReadsBack levels one value) (enough : levels ≤ available)
    (begins : other.Begins) (refuses : second.Refuses available other) :
    (Reader.pair expected first second).Refuses (available + 1) (.array [one, other]) := by
  intro form level gap rest margin _
  rw [pair_of_first_read reads enough begins form level margin rest,
    refuses form (level + 1) [] _ Gap.nil (endsNumber_lineStart form level rest)]
  rfl

end Pair

end Reader

/-- A document that is refused with all the lists and records that may be open is refused as a
whole text. The form in which it was written does not matter. -/
theorem read_of_refuses {α : Type} {reader : Reader α} {document : Document}
    (refuses : reader.Refuses maximalLevels document) (form : Form) :
    read reader (document.write form 0) = .error .tooDeep := by
  have whole := refuses form 0 [] [] Gap.nil EndsNumber.nil
  rw [List.nil_append, List.append_nil] at whole
  simp only [read, whole, bind, Except.bind]

end WindowPlacement.Document
