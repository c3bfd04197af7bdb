import WindowPlacement.Document.Skip

/-!
# Reading the shape that is expected

A reader takes a value of one shape off the front of a text, and refuses the text at
the first place where it is not well formed or has another shape. A value of another
shape is read far enough to name it.

Lists and records may be nested in each other up to a bound, which a reader is told:
the number of those that may still be opened.
-/

namespace WindowPlacement.Document

/-- Reads a value from the front of a text, given how many lists and records may still
be opened. -/
def Reader (α : Type) : Type := Nat → List Char → Except Problem (α × List Char)

namespace Reader

variable {α β γ ρ : Type}

/-- Changes the value that was read. -/
def map (change : α → β) (reader : Reader α) : Reader β := fun levels text =>
  (reader levels text).map fun (value, rest) => (change value, rest)

/-- Opens a list or a record, and reads what is inside. -/
def deeper (reader : Reader α) : Reader α := fun levels text =>
  match levels with
  | 0 => .error .tooDeep
  | remaining + 1 => reader remaining text

/-! ## Single values -/

/-- The problem of one value in the place of another, unless it is not even read. -/
def unlessUnread {found : Type} (expected : String) (kind : found → Found)
    (read : Except Problem found) : Problem :=
  match read with
  | .error problem => problem
  | .ok value => .wrongType (kind value) expected

/-- The problem of a text that has something else in front. -/
def mismatch (expected : String) (text : List Char) : Problem :=
  match text with
  | [] => .endOfText .value
  | first :: rest =>
    match first with
    | 'n' => unlessUnread expected (fun _ => .null) (word "ull".toList rest)
    | 't' => unlessUnread expected (fun _ => .truth true) (word "rue".toList rest)
    | 'f' => unlessUnread expected (fun _ => .truth false) (word "alse".toList rest)
    | '"' =>
      unlessUnread expected (fun found => .text (String.ofList found.1)) (characters rest)
    | '[' => .wrongType .list expected
    | '\x7b' => .wrongType .record expected
    | _ =>
      if first = '-' || Decimal.isDigit first then
        unlessUnread expected (fun found => found.1.found) (takeNumber text)
      else .valueExpected

/-- Any number. -/
def anyNumber (expected : String) : Reader Number := fun _ text =>
  match skipGaps text with
  | [] => .error (.endOfText .value)
  | first :: rest =>
    if first = '-' || Decimal.isDigit first then takeNumber (first :: rest)
    else .error (mismatch expected (first :: rest))

/-- The double nearest to a number. -/
def nearest : Number → Float
  | .whole value => Decimal.signed (value < 0) value.natAbs.toUInt64.toFloat
  | .real value => value

/-- A double; every number is one. -/
def float : Reader Float := map nearest (anyNumber "f64")

/-- A whole number below `2 ^ 32`. -/
def word32 : Reader UInt32 := fun levels text =>
  match anyNumber "u32" levels text with
  | .error problem => .error problem
  | .ok (.whole value, rest) =>
    if 0 ≤ value && value < UInt32.size then .ok (value.toNat.toUInt32, rest)
    else .error (.outOfRange value "u32")
  | .ok (.real value, _) => .error (.wrongType (.number value) "u32")

/-- The rest of a text, of which the quote has been read. -/
def restOfText (text : List Char) : Except Problem (String × List Char) :=
  (characters text).map fun (found, rest) => (String.ofList found, rest)

/-- A text. -/
def text : Reader String := fun _ text =>
  match skipGaps text with
  | '"' :: rest => restOfText rest
  | other => .error (mismatch "a string" other)

/-- The word for nothing, in the place of the content of a tag that has none. -/
def nothing : Reader Unit := fun _ text =>
  match skipGaps text with
  | 'n' :: rest => (word "ull".toList rest).map fun last => ((), last)
  | other => .error (mismatch "unit" other)

/-- A value or the word for nothing. -/
def optional (reader : Reader α) : Reader (Option α) := fun levels text =>
  match skipGaps text with
  | 'n' :: rest => (word "ull".toList rest).map fun last => (none, last)
  | other => map some reader levels other

/-! ## Lists -/

/-- The start of the next element, or nothing if the list ends here. -/
def nextElement (isFirst : Bool) (text : List Char) : Except Problem (Option (List Char)) :=
  match skipGaps text with
  | [] => .error (.endOfText .list)
  | first :: rest =>
    if first = ']' then .ok none
    else if isFirst then .ok (some (first :: rest))
    else if first = ',' then
      match skipGaps rest with
      | [] => .error (.endOfText .value)
      | start :: later =>
        if start = ']' then .error .trailingComma else .ok (some (start :: later))
    else .error .listEndExpected

/-- The end of a list after all of its elements. -/
def endOfList (text : List Char) : Except Problem (List Char) :=
  match skipGaps text with
  | [] => .error (.endOfText .list)
  | first :: rest =>
    if first = ']' then .ok rest
    else if first = ',' && (skipGaps rest).head? = some ']' then .error .trailingComma
    else .error .trailingCharacters

/-- The elements of a list up to its end. -/
def elements (element : Reader α) (levels : Nat) (isFirst : Bool) (text : List Char) :
    Except Problem (List α × List Char) :=
  match nextElement isFirst text with
  | .error problem => .error problem
  | .ok none => (endOfList text).map fun rest => ([], rest)
  | .ok (some start) =>
    match element levels start with
    | .error problem => .error problem
    | .ok (value, rest) =>
      if rest.length < text.length then
        match elements element levels false rest with
        | .error problem => .error problem
        | .ok (values, last) => .ok (value :: values, last)
      else .error .valueExpected
termination_by text.length

/-- A list of any length. -/
def list (element : Reader α) : Reader (List α) := fun levels text =>
  match skipGaps text with
  | '[' :: rest => deeper (fun remaining => elements element remaining true) levels rest
  | other => .error (mismatch "a sequence" other)

/-- A list of two elements, described as `expected`. -/
def pair (expected : String) (first : Reader α) (second : Reader β) : Reader (α × β) :=
  fun levels text =>
    match skipGaps text with
    | '[' :: rest =>
      deeper (fun remaining inside => do
        let some start ← nextElement true inside
          | .error (.wrongLength 0 (expected ++ " with 2 elements"))
        let (one, afterFirst) ← first remaining start
        let some start ← nextElement false afterFirst
          | .error (.wrongLength 1 (expected ++ " with 2 elements"))
        let (other, afterSecond) ← second remaining start
        let last ← endOfList afterSecond
        return ((one, other), last)) levels rest
    | other => .error (mismatch expected other)

/-! ## Records -/

/-- The colon between a key and its value. -/
def colon (text : List Char) : Except Problem (List Char) :=
  match skipGaps text with
  | [] => .error (.endOfText .record)
  | ':' :: rest => .ok rest
  | _ => .error .colonExpected

/-- The next key and what follows it, or nothing if the record ends here. -/
def nextKey (isFirst : Bool) (text : List Char) : Except Problem (Option (String × List Char)) :=
  match skipGaps text with
  | [] => .error (.endOfText .record)
  | first :: rest =>
    if first = '\x7d' then .ok none
    else if isFirst then if first = '"' then (restOfText rest).map some else .error .keyNotText
    else if first = ',' then
      match skipGaps rest with
      | [] => .error (.endOfText .value)
      | start :: later =>
        if start = '"' then (restOfText later).map some
        else if start = '\x7d' then .error .trailingComma
        else .error .keyNotText
    else .error .recordEndExpected

/-- A member of a record, and how its value becomes part of what was read before. -/
structure Member (ρ : Type) where
  key : String
  /-- Whether the member has been read already. -/
  isRead : ρ → Bool
  /-- Reads the value into the record. -/
  readInto : ρ → Reader ρ
  /-- Whether a list of the values in order may end before this one. -/
  mayBeOmitted : Bool

/-- A member whose value has to be there, given how a record holds it. -/
def Member.required (key : String) (reader : Reader α) (get : ρ → Option α)
    (set : ρ → α → ρ) : Member ρ where
  key
  isRead record := (get record).isSome
  readInto record := map (set record) reader
  mayBeOmitted := false

/-- A member for which a list of values need not have one. -/
def Member.omissible (key : String) (reader : Reader α) (get : ρ → Option α)
    (set : ρ → α → ρ) : Member ρ :=
  { Member.required key reader get set with mayBeOmitted := true }

/-- A record that is read member by member. -/
structure Shape (ρ α : Type) where
  /-- The name by which messages call the record. -/
  name : String
  /-- The members in order. -/
  members : List (Member ρ)
  /-- The record before anything was read. -/
  start : ρ
  /-- What the members make together, or which one is missing. -/
  finish : ρ → Except Problem α

namespace Shape

/-- How messages call the record. -/
def description (shape : Shape ρ α) : String := "struct " ++ shape.name

/-- How messages call the record with its length. -/
def lengthDescription (shape : Shape ρ α) : String :=
  shape.description ++ " with " ++ toString shape.members.length ++
    if shape.members.length = 1 then " element" else " elements"

/-- The value of a key: of a member that has not been read yet, or one that is passed
over. -/
def readMember (shape : Shape ρ α) (levels : Nat) (record : ρ) (key : String)
    (text : List Char) : Except Problem (ρ × List Char) :=
  match shape.members.find? fun member => member.key = key with
  | none => do
    let afterColon ← colon text
    let rest ← skipValue afterColon
    return (record, rest)
  | some member => do
    if member.isRead record then .error (.duplicateMember key)
    let afterColon ← colon text
    member.readInto record levels afterColon

/-- The members of a record up to its end. -/
def readMembers (shape : Shape ρ α) (levels : Nat) (isFirst : Bool) (record : ρ)
    (text : List Char) : Except Problem (ρ × List Char) :=
  match nextKey isFirst text with
  | .error problem => .error problem
  | .ok none => .ok (record, (skipGaps text).drop 1)
  | .ok (some (key, afterKey)) =>
    match readMember shape levels record key afterKey with
    | .error problem => .error problem
    | .ok (next, rest) =>
      if rest.length < text.length then readMembers shape levels false next rest
      else .error .valueExpected
termination_by text.length

/-- The values of the members in order, between the brackets of a list. -/
def readValues (shape : Shape ρ α) (levels : Nat) :
    List (Member ρ) → Nat → ρ → List Char → Except Problem (ρ × List Char)
  | [], _, record, text => (endOfList text).map fun rest => (record, rest)
  | member :: others, index, record, text => do
    match ← nextElement (index = 0) text with
    | none =>
      if member.mayBeOmitted then readValues shape levels others (index + 1) record text
      else .error (.wrongLength index shape.lengthDescription)
    | some start =>
      let (next, rest) ← member.readInto record levels start
      readValues shape levels others (index + 1) next rest

/-- A record, or a list of the values of its members. -/
def read (shape : Shape ρ α) : Reader α := fun levels text => do
  let (record, rest) ←
    match skipGaps text with
    | '\x7b' :: inside =>
      deeper (fun remaining => readMembers shape remaining true shape.start) levels inside
    | '[' :: inside =>
      deeper (fun remaining => readValues shape remaining shape.members 0 shape.start) levels
        inside
    | other => .error (mismatch shape.description other)
  let value ← shape.finish record
  return (value, rest)

end Shape

/-! ## Alternatives -/

/-- What a tag stands for. -/
inductive Content (α : Type) where
  /-- A value without content. -/
  | bare (value : α)
  /-- A value made of another one. -/
  | single (reader : Reader α)
  /-- A value made of a list of others. -/
  | several (reader : Reader α)

/-- One of several alternatives. -/
structure Alternative (α : Type) where
  tag : String
  content : Content α

/-- The alternative of a tag. -/
def alternative (known : List (Alternative α)) (tag : String) :
    Except Problem (Alternative α) :=
  match known.find? fun alternative => alternative.tag = tag with
  | some alternative => .ok alternative
  | none => .error (.unknownTag tag (known.map Alternative.tag))

/-- The value of a tag that stands alone. -/
def bareTag (alternative : Alternative α) : Except Problem α :=
  match alternative.content with
  | .bare value => .ok value
  | .single _ => .error (.wrongType .bareTag "newtype variant")
  | .several _ => .error (.wrongType .bareTag "tuple variant")

/-- The content of a tag. -/
def contentOf (alternative : Alternative α) : Reader α :=
  match alternative.content with
  | .bare value => map (fun _ => value) nothing
  | .single reader => reader
  | .several reader => reader

/-- The end of a record with a single member. -/
def endOfTagged (text : List Char) : Except Problem (List Char) :=
  match skipGaps text with
  | [] => .error (.endOfText .record)
  | '\x7d' :: rest => .ok rest
  | _ => .error .valueExpected

/-- One of several alternatives: a tag alone, or a record with the tag as its only
key. -/
def variant (known : List (Alternative α)) : Reader α := fun levels text =>
  match skipGaps text with
  | [] => .error (.endOfText .value)
  | '\x7b' :: inside =>
    deeper (fun remaining inside => do
      let some (tag, afterTag) ← nextKey true inside | .error .valueExpected
      let chosen ← alternative known tag
      let afterColon ← colon afterTag
      let (value, rest) ← contentOf chosen remaining afterColon
      let last ← endOfTagged rest
      return (value, last)) levels inside
  | '"' :: inside => do
    let (tag, rest) ← restOfText inside
    let chosen ← alternative known tag
    let value ← bareTag chosen
    return (value, rest)
  | _ => .error .valueExpected

end Reader

/-- The number of lists and records that may be open at the same time. -/
def maximalLevels : Nat := 127

/-- Reads a whole text as one value. -/
def read {α : Type} (reader : Reader α) (text : String) : Except Problem α := do
  let (value, rest) ← reader maximalLevels text.toList
  if (skipGaps rest).isEmpty then return value else .error .trailingCharacters

end WindowPlacement.Document
