import WindowPlacement.Proofs.Expr.Productions
import WindowPlacement.Proofs.Parser.Scanning

/-!
# Repetition

A parser that advances can be run again on what it has left, and again, until it fails. The runs
make a chain, and there is no choice in it: on every input there is one chain and no other. To
repeat the parser is to follow the chain to its end. The failure at the end is forgotten if the
parser may also not match at all, and it is reported unchanged if it ends a chain without links
where at least one was wanted.

So both repetitions unfold. To run a parser any number of times is to run it at least once or not
at all, and to run it at least once is to run it and then any number of times.
-/

namespace WindowPlacement.Parser

variable {ι ε ω : Type}

/-- The runs of a parser one behind the other, from the input up to the first one that fails. A
link is an output with the items that are left behind it, which are those of the next run. The
empty chain is that of an input on which the first run fails. -/
def Chain (parser : Parser ι ε ω) : List ι → List (ω × List ι) → Prop
  | input, [] => ∃ reason, parser input = .error reason
  | input, link :: links => parser input = .ok link ∧ Chain parser link.2 links

/-- The items that a chain leaves. Where there is no link, it is the whole input. -/
def leftBy (input : List ι) : List (ω × List ι) → List ι
  | [] => input
  | link :: links => leftBy link.2 links

/-- There is one chain at most, because every run begins where the one before it has ended. The
parser need not advance for this. -/
theorem Chain.unique {parser : Parser ι ε ω} {input : List ι} {links others : List (ω × List ι)}
    (chain : Chain parser input links) (also : Chain parser input others) : others = links := by
  induction links generalizing input others with
  | nil =>
    obtain ⟨reason, failed⟩ := chain
    cases others with
    | nil => rfl
    | cons link others =>
      rw [also.1] at failed
      cases failed
  | cons link links inductionHypothesis =>
    obtain ⟨parsed, further⟩ := chain
    cases others with
    | nil =>
      obtain ⟨reason, failed⟩ := also
      rw [parsed] at failed
      cases failed
    | cons other others =>
      obtain ⟨alsoParsed, alsoFurther⟩ := also
      rw [parsed] at alsoParsed
      cases alsoParsed
      rw [inductionHypothesis further alsoFurther]

/-- A loop follows a chain. The links have more in them than the loop puts out: also what is
left behind each round. -/
theorem Chain.repeats {parser : Parser ι ε ω} {input : List ι} {links : List (ω × List ι)}
    (chain : Chain parser input links) :
    Repeats parser input (links.map Prod.fst) (leftBy input links) := by
  induction links generalizing input with
  | nil =>
    obtain ⟨reason, failed⟩ := chain
    exact .stop failed
  | cons link links inductionHypothesis =>
    obtain ⟨parsed, further⟩ := chain
    exact .round parsed (inductionHypothesis further)

/-- The rounds of a loop are the links of a chain. Together with `Chain.repeats` it makes the
two descriptions of a loop one. -/
theorem Repeats.exists_chain {parser : Parser ι ε ω} {input rest : List ι} {outputs : List ω}
    (repeats : Repeats parser input outputs rest) : ∃ links, Chain parser input links := by
  induction repeats with
  | stop failed => exact ⟨[], _, failed⟩
  | round parsed _ inductionHypothesis =>
    obtain ⟨links, further⟩ := inductionHypothesis
    exact ⟨(_, _) :: links, parsed, further⟩

/-- Running a parser that advances until it fails leads to the end of the chain, whatever the
failure is. If the parser did not advance, the guard of the repetition would end it earlier. -/
theorem Chain.zeroOrMore_eq {parser : Parser ι ε ω} (advances : Advances parser) {input : List ι}
    {links : List (ω × List ι)} (chain : Chain parser input links) :
    zeroOrMore parser input = .ok (links.map Prod.fst, leftBy input links) := by
  obtain ⟨outputs, rest⟩ := (repeats_rounds advances input).unique chain.repeats
  rw [zeroOrMore, outputs, rest]

/-- Where the parser fails, it cannot be run once: its failure is reported. No other failure is
put in its place. -/
theorem oneOrMore_of_error {parser : Parser ι ε ω} {input : List ι} {reason : ε}
    (failed : parser input = .error reason) : oneOrMore parser input = .error reason := by
  simp only [oneOrMore, one, bind, failed]

/-- Where the parser succeeds, running it at least once is running it until it fails. The first
round is then part of the answer either way. -/
theorem oneOrMore_of_ok {parser : Parser ι ε ω} (advances : Advances parser) {input : List ι}
    {link : ω × List ι} (parsed : parser input = .ok link) :
    oneOrMore parser input = zeroOrMore parser input := by
  obtain ⟨output, rest⟩ := link
  have shorter : rest.length < input.length := (advances input output rest parsed).2
  rw [zeroOrMore, rounds, parsed]
  simp only [oneOrMore, one, bind, zeroOrMore, result, parsed, if_pos shorter,
    List.singleton_append]

/-- Any number of runs is at least one or none. The choice never fails, because its second
alternative does not. -/
theorem zeroOrMore_eq_firstOf [HasFailure ε] {parser : Parser ι ε ω} (advances : Advances parser) :
    zeroOrMore parser = firstOf [oneOrMore parser, zero] := by
  funext input
  cases parsed : parser input with
  | error reason =>
    have none : rounds parser input = ([], input) := by
      rw [rounds, parsed]
    simp only [firstOf, oneOrMore_of_error parsed, zero, result, zeroOrMore, none]
  | ok link => simp only [firstOf, oneOrMore_of_ok advances parsed, zeroOrMore]

/-- Repetition is exact: it follows the one chain of runs to its end. For a parser that does not
advance the chain need not end, and nothing is claimed.

For a parser that advances, there is exactly one chain from every input. Any number of runs
succeeds with the outputs of all links and with what the last one leaves, whatever the reason is
for which the next run fails. At least one run does the same if there is a link, and otherwise
fails for the reason for which the parser itself does. Both repetitions are what they unfold to,
a choice in one case and a sequence in the other, with the same failures. -/
theorem repetition_follows_chain [HasFailure ε] {parser : Parser ι ε ω}
    (advances : Advances parser) :
    (∀ input, ∃ links, (∀ others, Chain parser input others ↔ others = links) ∧
      zeroOrMore parser input = .ok (links.map Prod.fst, leftBy input links) ∧
      (links ≠ [] → oneOrMore parser input = .ok (links.map Prod.fst, leftBy input links)) ∧
      (links = [] → ∃ reason, parser input = .error reason ∧
        oneOrMore parser input = .error reason)) ∧
    (∀ input, zeroOrMore parser input = firstOf [oneOrMore parser, zero] input) ∧
    ∀ input, oneOrMore parser input = inOrder [one parser, zeroOrMore parser] input := by
  refine ⟨fun input => ?_, fun input => by rw [← zeroOrMore_eq_firstOf advances],
    fun input => by rw [← oneOrMore_eq]⟩
  obtain ⟨links, chain⟩ := (repeats_rounds advances input).exists_chain
  have followed := chain.zeroOrMore_eq advances
  refine ⟨links, fun others => ⟨chain.unique, ?_⟩, followed, ?_, ?_⟩
  · rintro rfl
    exact chain
  · intro some
    obtain ⟨link, others, rfl⟩ := List.exists_cons_of_ne_nil some
    rw [oneOrMore_of_ok advances chain.1, followed]
  · rintro rfl
    obtain ⟨reason, failed⟩ := chain
    exact ⟨reason, failed, oneOrMore_of_error failed⟩

/-- Values are read up to a parenthesis. The parenthesis is no value, which is not reported
behind two values, and is reported where there are none. -/
theorem values_up_to_parenthesis :
    let tokens : List Token := [.name "x", .name "y", .leftParen]
    let answer := Except.ok ([Expr.symbol "x", .symbol "y"], [Token.leftParen])
    Advances Grammar.value ∧ zeroOrMore Grammar.value tokens = answer ∧
      firstOf [oneOrMore Grammar.value, zero] tokens = answer ∧
      oneOrMore Grammar.value tokens = answer ∧
      inOrder [one Grammar.value, zeroOrMore Grammar.value] [.leftParen] =
        .error (.notAValue .leftParen) := by
  intro tokens answer
  obtain ⟨chains, choice, sequence⟩ := repetition_follows_chain Grammar.value_advances
  have chain : Chain Grammar.value tokens
      [(.symbol "x", [.name "y", .leftParen]), (.symbol "y", [.leftParen])] := ⟨rfl, rfl, _, rfl⟩
  have ended : Chain Grammar.value [.leftParen] [] := ⟨_, rfl⟩
  obtain ⟨links, only, many, some, _⟩ := chains tokens
  obtain rfl := (only _).mp chain
  obtain ⟨none, onlyEnd, _, _, fails⟩ := chains [.leftParen]
  obtain ⟨reason, failed, reported⟩ := fails ((onlyEnd _).mp ended).symm
  cases failed
  refine ⟨Grammar.value_advances, many, ?_, some (List.cons_ne_nil _ _), ?_⟩
  · rw [← choice]
    exact many
  · rw [← sequence]
    exact reported

end WindowPlacement.Parser
