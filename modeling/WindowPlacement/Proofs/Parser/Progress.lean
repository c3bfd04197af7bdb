import Mathlib.Logic.Function.Iterate
import WindowPlacement.Parser

/-!
# Progress of parsers

A parser reads from the front of its input: what it leaves is an end of what it was
given. A parser that advances has read at least one item whenever it succeeds. Repeating
it ends only where it fails, and the guard of `rounds` may be forgotten.

A grammar that re-enters itself only after something has been read never meets the
guard of `recursive`. It is then a solution of its own equation, and the guard may be
forgotten. Unrolled far enough, its equation alone gives its answers.
-/

namespace WindowPlacement.Parser

variable {ι ε ω τ : Type}

/-- Whenever the parser succeeds, it leaves an end of its input. Reading nothing is allowed, and
so is reading everything. -/
def Reads (parser : Parser ι ε ω) : Prop :=
  ∀ input output rest, parser input = .ok (output, rest) → rest <:+ input

/-- Whenever the parser succeeds, it leaves a shorter end of its input. Nothing is said of
inputs on which it fails. -/
def Advances (parser : Parser ι ε ω) : Prop :=
  ∀ input output rest, parser input = .ok (output, rest) →
    rest <:+ input ∧ rest.length < input.length

/-- A parser that advances reads. The converse fails for a parser that may match without
reading. -/
theorem Advances.reads {parser : Parser ι ε ω} (advances : Advances parser) : Reads parser :=
  fun input output rest parsed => (advances input output rest parsed).1

/-- A parser that reads nothing succeeds with its value and the whole input. It never fails. -/
theorem result_eq_ok_iff (value output : ω) (input rest : List ι) :
    (result value : Parser ι ε ω) input = .ok (output, rest) ↔ value = output ∧ input = rest := by
  simp only [result, Except.ok.injEq, Prod.mk.injEq]

/-- A parser that reads nothing leaves an end of its input. It does not advance, so it must not
be repeated on its own. -/
theorem result_reads (value : ω) : Reads (result value : Parser ι ε ω) := by
  intro input output rest parsed
  obtain ⟨_, rfl⟩ := (result_eq_ok_iff value output input rest).mp parsed
  exact List.suffix_refl input

/-- The first item is read exactly where there is one. At the end of the input it fails. -/
theorem consume_eq_ok_iff [HasFailure ε] (item : ι) (input rest : List ι) :
    (consume : Parser ι ε ι) input = .ok (item, rest) ↔ input = item :: rest := by
  cases input with
  | nil => simp only [consume, reduceCtorEq]
  | cons first others => simp only [consume, Except.ok.injEq, Prod.mk.injEq, List.cons.injEq]

/-- Reading the first item advances. All progress of the lexer and of the grammar comes from
it. -/
theorem consume_advances [HasFailure ε] : Advances (consume : Parser ι ε ι) := by
  intro input output rest parsed
  obtain rfl := (consume_eq_ok_iff output input rest).mp parsed
  exact ⟨List.suffix_cons output rest, Nat.lt_succ_self _⟩

/-- A sequence succeeds exactly where both of its parts do, one behind the other. Between the
two the output may be refused, and then the whole fails. -/
theorem bind_eq_ok_iff (parser : Parser ι ε ω) (next : ω → Except ε (Parser ι ε τ))
    (input rest : List ι) (output : τ) :
    bind parser next input = .ok (output, rest) ↔
      ∃ first middle continuation, parser input = .ok (first, middle) ∧
        next first = .ok continuation ∧ continuation middle = .ok (output, rest) := by
  unfold bind
  constructor
  · intro parsed
    split at parsed
    · cases parsed
    · rename_i first middle began
      split at parsed
      · cases parsed
      · rename_i continuation chosen
        exact ⟨first, middle, continuation, began, chosen, parsed⟩
  · rintro ⟨first, middle, continuation, began, chosen, ended⟩
    simp only [began, chosen, ended]

/-- A sequence advances if its first part does and the second one reads. The second part may
depend on the output of the first one. -/
theorem bind_advances {parser : Parser ι ε ω} {next : ω → Except ε (Parser ι ε τ)}
    (advances : Advances parser)
    (reads : ∀ output continuation, next output = .ok continuation → Reads continuation) :
    Advances (bind parser next) := by
  intro input output rest parsed
  obtain ⟨first, middle, continuation, began, chosen, ended⟩ :=
    (bind_eq_ok_iff parser next input rest output).mp parsed
  obtain ⟨suffix, shorter⟩ := advances input first middle began
  have later : rest <:+ middle := reads first continuation chosen middle output rest ended
  exact ⟨later.trans suffix, Nat.lt_of_le_of_lt later.length_le shorter⟩

/-- A checked parser succeeds exactly where the parser does with an output that passes. An
output that does not pass is a failure, although the parser has succeeded. -/
theorem satisfy_eq_ok_iff [HasFailure ε] (parser : Parser ι ε ω) (accepts : ω → Bool)
    (input rest : List ι) (output : ω) :
    satisfy parser accepts input = .ok (output, rest) ↔
      parser input = .ok (output, rest) ∧ accepts output = true := by
  rw [satisfy, bind_eq_ok_iff]
  constructor
  · rintro ⟨first, middle, continuation, began, chosen, ended⟩
    split at chosen
    · rename_i accepted
      cases chosen
      obtain ⟨rfl, rfl⟩ := (result_eq_ok_iff _ _ _ _).mp ended
      exact ⟨began, accepted⟩
    · cases chosen
  · rintro ⟨began, accepted⟩
    exact ⟨output, rest, result output, began, if_pos accepted, rfl⟩

/-- A check of the output reads nothing more. Every class of single characters is read by such a
parser. -/
theorem satisfy_advances [HasFailure ε] {parser : Parser ι ε ω} (accepts : ω → Bool)
    (advances : Advances parser) : Advances (satisfy parser accepts) := by
  intro input output rest parsed
  have read := (satisfy_eq_ok_iff parser accepts input rest output).mp parsed
  exact advances input output rest read.1

/-- An alternative that succeeds is chosen before all later ones. The later ones are not run. -/
theorem firstOf_cons_of_ok [HasFailure ε] {parser : Parser ι ε ω} {others : List (Parser ι ε ω)}
    {input : List ι} {answer : ω × List ι} (parsed : parser input = .ok answer) :
    firstOf (parser :: others) input = .ok answer := by
  simp only [firstOf, parsed]

/-- An alternative that fails leaves the choice to the others, on the same input. What the first
one has read is given back. -/
theorem firstOf_cons_of_error [HasFailure ε] {parser : Parser ι ε ω}
    {others : List (Parser ι ε ω)} {input : List ι} {reason : ε}
    (failed : parser input = .error reason) :
    firstOf (parser :: others) input = firstOf others input := by
  simp only [firstOf, failed]

/-- A success of a choice is a success of one of its alternatives. It need not be the only one
that succeeds, but it is the first. -/
theorem firstOf_eq_ok [HasFailure ε] {parsers : List (Parser ι ε ω)} {input rest : List ι}
    {output : ω} (parsed : firstOf parsers input = .ok (output, rest)) :
    ∃ parser ∈ parsers, parser input = .ok (output, rest) := by
  induction parsers with
  | nil => cases parsed
  | cons parser others inductionHypothesis =>
    unfold firstOf at parsed
    split at parsed
    · rename_i result succeeded
      cases parsed
      exact ⟨parser, List.mem_cons_self, succeeded⟩
    · obtain ⟨other, member, succeeded⟩ := inductionHypothesis parsed
      exact ⟨other, List.mem_cons_of_mem parser member, succeeded⟩

/-- A choice that fails has forgotten why its alternatives did. No alternatives at all are the
same failure. -/
theorem firstOf_eq_error [HasFailure ε] {parsers : List (Parser ι ε ω)} {input : List ι}
    {reason : ε} (failed : firstOf parsers input = .error reason) :
    reason = ofFailure .noParserMatched := by
  induction parsers with
  | nil => exact (Except.error.inj failed).symm
  | cons parser others inductionHypothesis =>
    unfold firstOf at failed
    split at failed
    · cases failed
    · exact inductionHypothesis failed

/-- A choice advances if each of its alternatives does. An empty choice never succeeds and so
advances. -/
theorem firstOf_advances [HasFailure ε] {parsers : List (Parser ι ε ω)}
    (advances : ∀ parser ∈ parsers, Advances parser) : Advances (firstOf parsers) := by
  intro input output rest parsed
  obtain ⟨parser, member, succeeded⟩ := firstOf_eq_ok parsed
  exact advances parser member input output rest succeeded

/-! ## Repetition -/

/-- A loop runs the parser until it fails. It ends with the outputs of its rounds and the items
before the round that failed. No round is cut off for what it leaves, so the loop might not end.
It is defined by what the loop does, with no bound on the number of its rounds. -/
inductive Repeats (parser : Parser ι ε ω) : List ι → List ω → List ι → Prop where
  | stop {input : List ι} {reason : ε} (failed : parser input = .error reason) :
    Repeats parser input [] input
  | round {input middle rest : List ι} {output : ω} {outputs : List ω}
    (parsed : parser input = .ok (output, middle)) (further : Repeats parser middle outputs rest) :
    Repeats parser input (output :: outputs) rest

/-- A loop ends where its parser fails. For a loop that does not end there is nothing to
state. -/
theorem Repeats.stops {parser : Parser ι ε ω} {input rest : List ι} {outputs : List ω}
    (repeats : Repeats parser input outputs rest) : ∃ reason, parser rest = .error reason := by
  induction repeats with
  | stop failed => exact ⟨_, failed⟩
  | round _ _ inductionHypothesis => exact inductionHypothesis

/-- A loop ends in one way at most. This holds of every parser, also of one that does not
advance. -/
theorem Repeats.unique {parser : Parser ι ε ω} {input rest last : List ι}
    {outputs others : List ω} (repeats : Repeats parser input outputs rest)
    (also : Repeats parser input others last) : others = outputs ∧ last = rest := by
  induction repeats generalizing others with
  | stop failed =>
    cases also with
    | stop => exact ⟨rfl, rfl⟩
    | round parsed =>
      rw [failed] at parsed
      cases parsed
  | round parsed _ inductionHypothesis =>
    cases also with
    | stop failed =>
      rw [parsed] at failed
      cases failed
    | round alsoParsed further =>
      rw [parsed] at alsoParsed
      cases alsoParsed
      obtain ⟨rfl, rfl⟩ := inductionHypothesis further
      exact ⟨rfl, rfl⟩

/-- Each round of a loop has at least one item of its own. So a loop has at most as many rounds
as its input has items. -/
theorem Repeats.length_le {parser : Parser ι ε ω} (advances : Advances parser)
    {input rest : List ι} {outputs : List ω} (repeats : Repeats parser input outputs rest) :
    outputs.length + rest.length ≤ input.length := by
  induction repeats with
  | stop => simp
  | @round input middle rest output outputs parsed _ inductionHypothesis =>
    have shorter : middle.length < input.length := (advances input output middle parsed).2
    rw [List.length_cons]
    omega

/-- The loop of a parser that advances ends with what the repetition answers. It follows that
the guard in the definition of `rounds` is never met by such a parser.

Proof: strong induction on the length of the input. Every round shortens it, so no round is cut
off for leaving as many items as it found. -/
theorem repeats_rounds {parser : Parser ι ε ω} (advances : Advances parser) (input : List ι) :
    Repeats parser input (rounds parser input).1 (rounds parser input).2 := by
  generalize size : input.length = count
  induction count using Nat.strongRecOn generalizing input with
  | ind count inductionHypothesis =>
    subst size
    rw [rounds]
    cases parsed : parser input with
    | error reason => exact .stop parsed
    | ok answer =>
      obtain ⟨output, rest⟩ := answer
      have shorter : rest.length < input.length := (advances input output rest parsed).2
      simp only [if_pos shorter]
      exact .round parsed (inductionHypothesis rest.length shorter rest rfl)

/-- A repetition goes on until its parser fails, so the parser fails on what is left. Which
reason it is does not show in the answer. -/
theorem rounds_stop {parser : Parser ι ε ω} (advances : Advances parser) (input : List ι) :
    ∃ reason, parser (rounds parser input).2 = .error reason :=
  (repeats_rounds advances input).stops

/-! ## Recursive grammars -/

/-- The same answers on every end of the input that is shorter than the whole. Nothing is asked
of the input as a whole. -/
def AgreeBelow (input : List ι) (self other : Parser ι ε ω) : Prop :=
  ∀ later, later <:+ input → later.length < input.length → self later = other later

/-- The caller runs the parser that it is given on shorter ends of its input only: nothing else
that this parser does can make a difference. It is a property of one production, whose recursion
need not be guarded for it. -/
def ReentersBehind (caller : Parser ι ε ω → Parser ι ε τ) : Prop :=
  ∀ input self other, AgreeBelow input self other → caller self input = caller other input

/-- A solution of the equation of a grammar that re-enters itself further on is found by
unrolling the equation. Each level is left on a shorter input, so with more levels than items it
does not matter what stands inside the last one. It uses no guard and no well-founded recursion,
only the equation.

Proof: induction on the number of levels. A re-entry from the outermost one meets a shorter
input and one level less. -/
theorem iterate_eq {body : Parser ι ε ω → Parser ι ε ω} {self : Parser ι ε ω}
    (solves : self = body self) (behind : ReentersBehind body) (inside : Parser ι ε ω)
    {count : Nat} {input : List ι} (enough : input.length < count) :
    (body^[count] inside) input = self input := by
  induction count generalizing input with
  | zero => omega
  | succ count inductionHypothesis =>
    rw [Function.iterate_succ_apply', solves]
    exact behind input _ _ fun later _ shorter => inductionHypothesis (by omega)

section Recursion

variable [HasFailure ε]

/-- A guarded re-entry advances if it does so on the inputs that the guard lets pass. On longer
inputs the guarded re-entry fails, and a failure reads nothing. -/
theorem guard_advances {parser : Parser ι ε ω} (bound : Nat)
    (advances : ∀ input : List ι, input.length < bound → ∀ output rest,
      parser input = .ok (output, rest) → rest <:+ input ∧ rest.length < input.length) :
    Advances fun later =>
      if later.length < bound then parser later else .error (ofFailure .noParserMatched) := by
  intro input output rest parsed
  dsimp only at parsed
  split at parsed
  · rename_i shorter
    exact advances input shorter output rest parsed
  · cases parsed

/-- A grammar that advances wherever its re-entries do advances on every input. The hypothesis
may be used for the parser inside, which is the guarded one.

Proof: strong induction on the length of the input. The guard lets a re-entry succeed on a
shorter input only, and there the induction applies. -/
theorem recursive_advances {body : Parser ι ε ω → Parser ι ε ω}
    (advances : ∀ self, Advances self → Advances (body self)) : Advances (recursive body) := by
  intro input
  generalize size : input.length = count
  induction count using Nat.strongRecOn generalizing input with
  | ind count inductionHypothesis =>
    subst size
    rw [recursive]
    apply advances
    exact guard_advances input.length fun later shorter =>
      inductionHypothesis later.length shorter later rfl

/-- A grammar whose re-entries all stand further on in the input satisfies its own equation
without the guard. Where it does not matter what the re-entries read, `iterate_eq` shows that
there is no other solution. -/
theorem recursive_eq {body : Parser ι ε ω → Parser ι ε ω}
    (advances : ∀ self, Advances self → Advances (body self))
    (later : ∀ self other, Advances self → Advances other →
      ∀ input, AgreeBelow input self other → body self input = body other input) :
    recursive body = body (recursive body) := by
  have whole : Advances (recursive body) := recursive_advances advances
  funext input
  rw [recursive]
  apply later _ _ (guard_advances input.length fun further _ => whole further) whole
  intro further _ shorter
  exact if_pos shorter

/-- Two grammars that have the same answer wherever their re-entries further on have the same
answers agree. Both are compared on the ends of one input only. -/
theorem recursive_congr {first second : Parser ι ε ω → Parser ι ε ω} (input : List ι)
    (same : ∀ later self other, later <:+ input → AgreeBelow later self other →
      first self later = second other later) :
    recursive first input = recursive second input := by
  generalize size : input.length = count
  induction count using Nat.strongRecOn generalizing input with
  | ind count inductionHypothesis =>
    subst size
    rw [recursive, recursive]
    apply same input _ _ (List.suffix_refl input)
    intro later suffix shorter
    simp only [if_pos shorter]
    apply inductionHypothesis later.length shorter later ?_ rfl
    intro further self other behind agree
    exact same further self other (behind.trans suffix) agree

end Recursion

end WindowPlacement.Parser
