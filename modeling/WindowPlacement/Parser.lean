/-!
# Backtracking parsers

A parser reads items from the front of a list: it answers with an output and the
items it left, or it fails. Failures are ordinary answers, so a choice runs each
alternative on the same items and forgets the failures of those that lost.

The kind of failure is a parameter. A grammar may fail with reasons of its own; the
combinators themselves fail in three ways only.

Repetition and recursion are total for every parser. A round of a repetition, and a
re-entry into a recursive grammar, has to leave fewer items than were there before.
-/

namespace WindowPlacement

/-- The ways in which the combinators themselves fail. -/
inductive Failure where
  /-- An item was wanted at the end of the input. -/
  | noMoreInput
  /-- An output was read and then rejected. -/
  | notSatisfied
  /-- Every alternative of a choice failed. -/
  | noParserMatched
deriving DecidableEq, Repr

/-- What is reported for each failure. -/
def Failure.message : Failure → String
  | .noMoreInput => "no more input"
  | .notSatisfied => "predicate not satisfied"
  | .noParserMatched => "no parser matched"

/-- Reasons for failing among which the three of the combinators are found. -/
class HasFailure (ε : Type) where
  /-- The reason that stands for a failure of the combinators. -/
  ofFailure : Failure → ε

export HasFailure (ofFailure)

/-- Reads items `ι` from the front of a list: an output and the items left, or a
reason for failing. -/
abbrev Parser (ι ε ω : Type) : Type := List ι → Except ε (ω × List ι)

namespace Parser

variable {ι ε ω τ : Type}

/-- Succeeds with `value` and reads nothing. -/
def result (value : ω) : Parser ι ε ω := fun input => .ok (value, input)

/-- Reads the first item. -/
def consume [HasFailure ε] : Parser ι ε ι
  | [] => .error (ofFailure .noMoreInput)
  | item :: rest => .ok (item, rest)

/-- Goes on with the parser that `next` makes of the output. Making it may fail. -/
def bind (parser : Parser ι ε ω) (next : ω → Except ε (Parser ι ε τ)) : Parser ι ε τ := fun input =>
  match parser input with
  | .error reason => .error reason
  | .ok (output, rest) =>
    match next output with
    | .error reason => .error reason
    | .ok continuation => continuation rest

/-- Keeps the output only where `accepts` holds of it. -/
def satisfy [HasFailure ε] (parser : Parser ι ε ω) (accepts : ω → Bool) : Parser ι ε ω :=
  bind parser fun output =>
    if accepts output then .ok (result output) else .error (ofFailure .notSatisfied)

/-- The first success among the alternatives, each run on the same items. -/
def firstOf [HasFailure ε] : List (Parser ι ε ω) → Parser ι ε ω
  | [], _ => .error (ofFailure .noParserMatched)
  | parser :: others, input =>
    match parser input with
    | .ok parsed => .ok parsed
    | .error _ => firstOf others input

/-- Runs the parts one after another and joins their outputs; the first part that
fails gives the reason. -/
def inOrder : List (Parser ι ε (List ω)) → Parser ι ε (List ω)
  | [], input => .ok ([], input)
  | parser :: others, input =>
    match parser input with
    | .error reason => .error reason
    | .ok (outputs, rest) =>
      match inOrder others rest with
      | .error reason => .error reason
      | .ok (more, last) => .ok (outputs ++ more, last)

/-- Succeeds with no output at all. -/
def zero : Parser ι ε (List ω) := result []

/-- Runs the parser once. -/
def one (parser : Parser ι ε ω) : Parser ι ε (List ω) :=
  bind parser fun output => .ok (result [output])

/-- Runs the parser once if it matches. -/
def zeroOrOne [HasFailure ε] (parser : Parser ι ε ω) : Parser ι ε (List ω) :=
  firstOf [one parser, zero]

/-- The outputs of the rounds that succeed, and the items before the first round that
fails. A round that leaves no fewer items than it found ends the repetition too. -/
def rounds (parser : Parser ι ε ω) (input : List ι) : List ω × List ι :=
  match parser input with
  | .error _ => ([], input)
  | .ok (output, rest) =>
    if rest.length < input.length then
      let (outputs, last) := rounds parser rest
      (output :: outputs, last)
    else ([], input)
termination_by input.length

/-- Runs the parser until it fails; the failing round reads nothing. -/
def zeroOrMore (parser : Parser ι ε ω) : Parser ι ε (List ω) := fun input =>
  .ok (rounds parser input)

/-- Runs the parser at least once, and then until it fails. -/
def oneOrMore (parser : Parser ι ε ω) : Parser ι ε (List ω) :=
  bind (one parser) fun first =>
    .ok (bind (zeroOrMore parser) fun others => .ok (result (first ++ others)))

/-- Makes the parser only when it is run. -/
def lazy (make : Unit → Parser ι ε ω) : Parser ι ε ω := fun input => make () input

/-- The grammar that refers to itself through the argument of `body`. A re-entry that
does not stand further on in the input could never end, and matches nothing. -/
def recursive [HasFailure ε] (body : Parser ι ε ω → Parser ι ε ω) (input : List ι) :
    Except ε (ω × List ι) :=
  body (fun later =>
    if later.length < input.length then recursive body later
    else .error (ofFailure .noParserMatched)) input
termination_by input.length

end Parser

end WindowPlacement
