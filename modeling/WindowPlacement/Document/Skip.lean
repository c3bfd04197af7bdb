import WindowPlacement.Document.Notation

/-!
# Passing over a value

The value of an unknown member is passed over. It has to be well formed, but nothing is
made of it: a number may be out of range, half of a surrogate pair may stand alone, and
any number of lists and records may be open.
-/

namespace WindowPlacement.Document

/-- What is open around the place that is being read. -/
inductive Enclosure where
  | list
  | record
deriving DecidableEq

namespace Enclosure

/-- The character that closes it. -/
def closing : Enclosure → Char
  | .list => ']'
  | .record => '\x7d'

/-- The problem of a text that ends inside of it. -/
def unfinished : Enclosure → Problem
  | .list => .endOfText .list
  | .record => .endOfText .record

/-- The problem of an element that nothing separates from the next. -/
def endExpected : Enclosure → Problem
  | .list => .listEndExpected
  | .record => .recordEndExpected

end Enclosure

/-- Passes over the rest of an escape. -/
def skipEscape : List Char → Except Problem (List Char)
  | [] => .error (.endOfText .text)
  | letter :: rest =>
    if letter = 'u' then (fourDigits rest).map Prod.snd
    else if (shortEscape? letter).isSome then .ok rest
    else .error .invalidEscape

/-- The rest of an escape leaves fewer characters. -/
theorem skipEscape_shorter {text rest : List Char} (skipped : skipEscape text = .ok rest) :
    rest.length < text.length := by
  unfold skipEscape at skipped
  split at skipped
  · cases skipped
  · rename_i letter later
    split at skipped
    · cases half : fourDigits later with
      | error problem => simp [half, Except.map] at skipped
      | ok pair =>
        obtain ⟨unit, last⟩ := pair
        have shorter := fourDigits_shorter half
        simp only [half, Except.map, Except.ok.injEq] at skipped
        subst skipped
        exact Nat.lt_succ_of_lt shorter
    · split at skipped <;> cases skipped
      simp

/-- Passes over the rest of a text. -/
def skipText (text : List Char) : Except Problem (List Char) :=
  match text with
  | [] => .error (.endOfText .text)
  | first :: rest =>
    if first = '"' then .ok rest
    else if first = '\\' then
      match _skipped : skipEscape rest with
      | .error problem => .error problem
      | .ok later => skipText later
    else if first.toNat < 0x20 then .error .controlCharacter
    else skipText rest
termination_by text.length
decreasing_by
  · have shorter := skipEscape_shorter _skipped
    simp only [List.length_cons]; omega
  · simp

/-- Passes over digits, of which there has to be one. -/
def skipDigits (text : List Char) : Except Problem (List Char) :=
  match Decimal.takeDigits text with
  | ([], _) => .error .invalidNumber
  | (_, rest) => .ok rest

/-- Passes over an exponent, where there is one. -/
def skipExponent : List Char → Except Problem (List Char)
  | [] => .ok []
  | letter :: rest =>
    if letter = 'e' || letter = 'E' then skipDigits (Decimal.takeSign rest).2
    else .ok (letter :: rest)

/-- Passes over a fraction, where there is one. -/
def skipFraction : List Char → Except Problem (List Char)
  | '.' :: rest => skipDigits rest
  | text => .ok text

/-- Passes over a number without its sign. -/
def skipNumber (text : List Char) : Except Problem (List Char) := do
  let afterWhole ←
    match Decimal.takeDigits text with
    | ([], _) => .error .invalidNumber
    | ('0' :: _ :: _, _) => .error .invalidNumber
    | (_, rest) => .ok rest
  let afterFraction ← skipFraction afterWhole
  skipExponent afterFraction

/-- Goes on to the next element of a list, or past the key of the next member. -/
def enter (enclosure : Enclosure) (text : List Char) : Except Problem (List Char) :=
  match enclosure with
  | .list => .ok text
  | .record =>
    match skipGaps text with
    | [] => .error (.endOfText .record)
    | '"' :: rest => do
      let afterKey ← skipText rest
      match skipGaps afterKey with
      | [] => .error (.endOfText .record)
      | ':' :: later => .ok later
      | _ => .error .colonExpected
    | _ => .error .keyNotText

/-- What follows a complete value, given what is open around it, the innermost first:
everything that closes here is closed. Where something stays open, the next value
follows. -/
def afterValue : List Enclosure → List Char → Except Problem (List Enclosure × List Char)
  | [], text => .ok ([], text)
  | innermost :: outer, text =>
    match skipGaps text with
    | [] => .error innermost.unfinished
    | first :: rest =>
      if first = ',' then (enter innermost rest).map fun next => (innermost :: outer, next)
      else if first = innermost.closing then afterValue outer rest
      else .error innermost.endExpected

/-- What follows an opening bracket: its closing one, or a first value. -/
def afterOpening (opened : Enclosure) (outer : List Enclosure) (text : List Char) :
    Except Problem (List Enclosure × List Char) :=
  match skipGaps text with
  | [] => .error opened.unfinished
  | first :: rest =>
    if first = opened.closing then afterValue outer rest
    else (enter opened (first :: rest)).map fun next => (opened :: outer, next)

/-- Passes over a single value, or over an opening bracket. -/
def skipStart (enclosures : List Enclosure) (text : List Char) :
    Except Problem (List Enclosure × List Char) :=
  match skipGaps text with
  | [] => .error (.endOfText .value)
  | first :: rest =>
    match first with
    | 'n' => (word "ull".toList rest).bind (afterValue enclosures)
    | 't' => (word "rue".toList rest).bind (afterValue enclosures)
    | 'f' => (word "alse".toList rest).bind (afterValue enclosures)
    | '-' => (skipNumber rest).bind (afterValue enclosures)
    | '"' => (skipText rest).bind (afterValue enclosures)
    | '[' => afterOpening .list enclosures rest
    | '\x7b' => afterOpening .record enclosures rest
    | _ =>
      if Decimal.isDigit first then (skipNumber (first :: rest)).bind (afterValue enclosures)
      else .error .valueExpected

/-- Passes over values until nothing is open any more. Each start of a value leaves
fewer characters. -/
def skipValues (enclosures : List Enclosure) (text : List Char) : Except Problem (List Char) :=
  match skipStart enclosures text with
  | .error problem => .error problem
  | .ok ([], rest) => .ok rest
  | .ok (stillOpen, rest) =>
    if rest.length < text.length then skipValues stillOpen rest else .error .valueExpected
termination_by text.length

/-- Passes over one value. -/
def skipValue (text : List Char) : Except Problem (List Char) := skipValues [] text

end WindowPlacement.Document
