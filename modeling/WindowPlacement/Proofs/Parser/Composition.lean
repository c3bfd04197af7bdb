import WindowPlacement.Proofs.Parser.Scanning
import WindowPlacement.Token.Lexer

/-!
# Choices and sequences of lists

A choice between two lists of alternatives is a choice between two choices, and a sequence of two
lists of parts is a sequence of two sequences. So a grammar may name any stretch of a list without
changing what it reads or how it fails.

A sequence joins the outputs of its parts in their order, and fails for the reason of the first
part that fails on what those before it have left. A choice forgets everything about the
alternatives that fail before one succeeds: each of them is run on the whole input, so it does not
matter how far it comes and why it fails, nor whether it is there.
-/

namespace WindowPlacement.Parser

variable {ι ε ω : Type}

/-! ## Sequences -/

/-- The parts succeed one behind the other, each on what the one before it has left, with an
output for every part. The outputs are kept apart here, which the sequence itself does not
do. -/
inductive Passes : List (Parser ι ε (List ω)) → List ι → List (List ω) → List ι → Prop where
  | done (input : List ι) : Passes [] input [] input
  | part {parser : Parser ι ε (List ω)} {others : List (Parser ι ε (List ω))}
    {input middle rest : List ι} {output : List ω} {outputs : List (List ω)}
    (parsed : parser input = .ok (output, middle)) (further : Passes others middle outputs rest) :
    Passes (parser :: others) input (output :: outputs) rest

/-- A sequence succeeds exactly where all of its parts pass, and joins their outputs. A sequence
without parts passes on every input and puts out nothing. -/
theorem inOrder_eq_ok_iff (parts : List (Parser ι ε (List ω))) (input rest : List ι)
    (output : List ω) :
    inOrder parts input = .ok (output, rest) ↔
      ∃ outputs, Passes parts input outputs rest ∧ output = outputs.flatten := by
  induction parts generalizing input output with
  | nil =>
    constructor
    · rintro ⟨⟩
      exact ⟨[], .done _, rfl⟩
    · rintro ⟨_, ⟨⟩, rfl⟩
      rfl
  | cons parser others inductionHypothesis =>
    rw [inOrder_cons_eq_ok_iff]
    constructor
    · rintro ⟨first, middle, more, parsed, ended, rfl⟩
      obtain ⟨outputs, further, rfl⟩ := (inductionHypothesis middle more).mp ended
      exact ⟨first :: outputs, .part parsed further, rfl⟩
    · rintro ⟨_, ⟨_⟩ | @⟨_, _, _, middle, _, first, outputs, parsed, further⟩, rfl⟩
      exact ⟨first, middle, outputs.flatten, parsed,
        (inductionHypothesis middle _).mpr ⟨outputs, further, rfl⟩, rfl⟩

/-- A sequence fails where its first part does, or where the others fail on what it has left.
What the first part has put out is lost then. -/
theorem inOrder_cons_eq_error_iff (parser : Parser ι ε (List ω))
    (others : List (Parser ι ε (List ω))) (input : List ι) (reason : ε) :
    inOrder (parser :: others) input = .error reason ↔
      parser input = .error reason ∨
        ∃ output middle, parser input = .ok (output, middle) ∧
          inOrder others middle = .error reason := by
  cases began : parser input with
  | error other => simp [inOrder, began]
  | ok answer =>
    obtain ⟨output, middle⟩ := answer
    cases ended : inOrder others middle with
    | error other => simp [inOrder, began, ended]
    | ok last => simp [inOrder, began, ended]

/-- A sequence fails for the reason of the first part that does not pass. The parts behind it
are not run, so they may be any.

Proof: induction on the parts. The part that fails is the first one, or it is found among the
others, on what the first one has left. -/
theorem inOrder_eq_error_iff (parts : List (Parser ι ε (List ω))) (input : List ι) (reason : ε) :
    inOrder parts input = .error reason ↔
      ∃ before failing after outputs middle, parts = before ++ failing :: after ∧
        Passes before input outputs middle ∧ failing middle = .error reason := by
  induction parts generalizing input with
  | nil =>
    constructor
    · rintro ⟨⟩
    · rintro ⟨before, failing, after, _, _, impossible, _⟩
      simp at impossible
  | cons parser others inductionHypothesis =>
    rw [inOrder_cons_eq_error_iff]
    constructor
    · rintro (failed | ⟨output, middle, parsed, failed⟩)
      · exact ⟨[], parser, others, [], input, rfl, .done input, failed⟩
      · obtain ⟨before, failing, after, outputs, last, rfl, passes, refused⟩ :=
          (inductionHypothesis middle).mp failed
        exact ⟨parser :: before, failing, after, output :: outputs, last, rfl,
          .part parsed passes, refused⟩
    · rintro ⟨before, failing, after, outputs, last, split, passes, refused⟩
      cases passes with
      | done =>
        obtain ⟨rfl, _⟩ := List.cons.inj split
        exact Or.inl refused
      | @part _ before _ middle _ output outputs parsed passes =>
        rw [List.cons_append, List.cons.injEq] at split
        obtain ⟨rfl, rfl⟩ := split
        exact Or.inr ⟨output, middle, parsed, (inductionHypothesis middle).mpr
          ⟨before, failing, after, outputs, last, rfl, passes, refused⟩⟩

/-- A sequence of two lists is a sequence of two sequences. It holds of the parsers and hence of
every input, for outcomes of both kinds. -/
theorem inOrder_append (first second : List (Parser ι ε (List ω))) :
    inOrder (first ++ second) = inOrder [inOrder first, inOrder second] := by
  induction first with
  | nil =>
    funext input
    cases ended : inOrder second input with
    | error reason => simp [inOrder, ended]
    | ok answer => simp [inOrder, ended]
  | cons parser others inductionHypothesis =>
    funext input
    rw [List.cons_append]
    cases began : parser input with
    | error reason => simp only [inOrder, began]
    | ok answer =>
      have further := congrFun inductionHypothesis answer.2
      cases middle : inOrder others answer.2 with
      | error reason => simp only [inOrder, began, further, middle]
      | ok last =>
        cases ended : inOrder second last.2 with
        | error reason => simp only [inOrder, began, further, middle, ended]
        | ok final => simp only [inOrder, began, further, middle, ended, List.append_assoc]

/-! ## Choices -/

section Choices

variable [HasFailure ε]

/-- A choice with a single alternative, which is a choice itself, is that choice: both forget
the reasons for failing. A single alternative that is no choice might have a reason of its own,
which the choice around it would replace. -/
theorem firstOf_firstOf (parsers : List (Parser ι ε ω)) :
    firstOf [firstOf parsers] = firstOf parsers := by
  funext input
  cases parsed : firstOf parsers input with
  | error reason =>
    rw [firstOf_cons_of_error parsed, firstOf_eq_error parsed]
    rfl
  | ok answer => exact firstOf_cons_of_ok parsed

/-- A choice between two lists is a choice between two choices. Either list may be empty, and a
choice without alternatives fails. -/
theorem firstOf_append (first second : List (Parser ι ε ω)) :
    firstOf (first ++ second) = firstOf [firstOf first, firstOf second] := by
  induction first with
  | nil =>
    funext input
    have none : firstOf ([] : List (Parser ι ε ω)) input = .error (ofFailure .noParserMatched) :=
      rfl
    rw [firstOf_cons_of_error none, firstOf_firstOf, List.nil_append]
  | cons parser others inductionHypothesis =>
    funext input
    rw [List.cons_append]
    cases parsed : parser input with
    | error reason =>
      rw [firstOf_cons_of_error parsed, inductionHypothesis]
      simp only [firstOf, parsed]
    | ok answer =>
      rw [firstOf_cons_of_ok parsed, firstOf_cons_of_ok (firstOf_cons_of_ok parsed)]

/-- The second list of alternatives is the first one with others put in at any places, each of
which fails on the input. The relation belongs to one input: on another one the same
alternatives may succeed. -/
inductive Padded (input : List ι) : List (Parser ι ε ω) → List (Parser ι ε ω) → Prop where
  | done : Padded input [] []
  | kept (parser : Parser ι ε ω) {parsers padded : List (Parser ι ε ω)}
    (further : Padded input parsers padded) : Padded input (parser :: parsers) (parser :: padded)
  | put {losing : Parser ι ε ω} {parsers padded : List (Parser ι ε ω)} {reason : ε}
    (failed : losing input = .error reason) (further : Padded input parsers padded) :
    Padded input parsers (losing :: padded)

/-- Alternatives that fail on the input leave no trace. If all the alternatives of the first
list fail as well, then both choices fail for the same reason. -/
theorem Padded.firstOf_eq {input : List ι} {parsers padded : List (Parser ι ε ω)}
    (pads : Padded input parsers padded) : firstOf padded input = firstOf parsers input := by
  induction pads with
  | done => rfl
  | kept parser _ inductionHypothesis =>
    cases parsed : parser input with
    | error reason =>
      rw [firstOf_cons_of_error parsed, firstOf_cons_of_error parsed, inductionHypothesis]
    | ok answer => rw [firstOf_cons_of_ok parsed, firstOf_cons_of_ok parsed]
  | put failed _ inductionHypothesis => rw [firstOf_cons_of_error failed, inductionHypothesis]

/-- Choices and sequences may be regrouped, and what a choice leaves out leaves no trace.
Nothing is asked of the parsers, which may read nothing or fail on every input.

A choice between the alternatives of two lists has the outcome of a choice between two choices.
A sequence of the parts of two lists has the outcome of a sequence of two sequences. Any
sequence joins the outputs of its parts in their order if all of them pass, and otherwise fails
for the reason of the first part that does not, whatever the parts before it have put out. A
choice has the same outcome if alternatives that fail on the input are put in, however many, in
any places and with any reasons: whatever they have read is read again. The lists may be
empty. -/
theorem choices_and_sequences_regroup (input : List ι) :
    (∀ first second : List (Parser ι ε ω),
      firstOf (first ++ second) input = firstOf [firstOf first, firstOf second] input) ∧
    (∀ first second : List (Parser ι ε (List ω)),
      inOrder (first ++ second) input = inOrder [inOrder first, inOrder second] input) ∧
    (∀ parts : List (Parser ι ε (List ω)),
      (∀ output rest, inOrder parts input = .ok (output, rest) ↔
        ∃ outputs, Passes parts input outputs rest ∧ output = outputs.flatten) ∧
      ∀ reason, inOrder parts input = .error reason ↔
        ∃ before failing after outputs middle, parts = before ++ failing :: after ∧
          Passes before input outputs middle ∧ failing middle = .error reason) ∧
    ∀ parsers padded : List (Parser ι ε ω), Padded input parsers padded →
      firstOf padded input = firstOf parsers input := by
  refine ⟨fun first second => by rw [firstOf_append], fun first second => by rw [inOrder_append],
    fun parts => ⟨fun output rest => ?_, fun reason => ?_⟩, fun parsers padded pads => ?_⟩
  · exact inOrder_eq_ok_iff parts input rest output
  · exact inOrder_eq_error_iff parts input reason
  · exact pads.firstOf_eq

end Choices

/-- Alternatives that have read a letter before they fail, one of them for a reason of its own,
may stand before and behind the one that reads the letter. -/
theorem losing_alternatives_put_in :
    let reads : Lexer.CharParser (List Char) := one (Lexer.char 'a')
    let missing : Lexer.CharParser (List Char) := inOrder [reads, one (Lexer.char 'c')]
    let refused : Lexer.CharParser (List Char) :=
      bind reads fun text => .error (.notANumber (String.ofList text))
    Padded ['a', 'b'] [one Lexer.digit, reads] [missing, one Lexer.digit, refused, reads, missing] ∧
      firstOf [missing, one Lexer.digit, refused, reads, missing] ['a', 'b'] =
        .ok (['a'], ['b']) := by
  intro reads missing refused
  have pads : Padded ['a', 'b'] [one Lexer.digit, reads]
      [missing, one Lexer.digit, refused, reads, missing] :=
    .put rfl (.kept _ (.put rfl (.kept _ (.put rfl .done))))
  refine ⟨pads, ?_⟩
  rw [(choices_and_sequences_regroup ['a', 'b']).2.2.2 _ _ pads]
  rfl

end WindowPlacement.Parser
