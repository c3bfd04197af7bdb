import Mathlib.Computability.Language
import WindowPlacement.Proofs.Parser.Progress

/-!
# Scanning for the longest word

A scanner takes from the front of its input the longest word of a language, and fails
exactly where no word of the language stands in front. The combinators know nothing of
this: a sequence never shortens what its first part has read, and a choice settles for
the first alternative that matches.

A sequence scans the product of two languages if no word of the second one begins with
an item that could carry on a word of the first. A choice scans the union of two
languages if the words of the second one are never longer where both match.
-/

namespace WindowPlacement.Parser

open Computability

variable {ι ε ω τ : Type}

/-- On the input the parser takes the longest word that spells anything and answers with what it
spells; it fails exactly where no such word stands in front. It is stated for one input at a
time, so that it may be shown by induction on the length of the input. -/
structure Scans (parser : Parser ι ε ω) (spells : List ι → ω → Prop) (input : List ι) : Prop where
  longest : ∀ output rest, parser input = .ok (output, rest) →
    ∃ word, input = word ++ rest ∧ spells word output ∧
      ∀ other found, spells other found → other <+: input → other.length ≤ word.length
  absent : ∀ reason, parser input = .error reason →
    ∀ word output, spells word output → ¬ word <+: input

/-- The words of a language, each of which spells itself. For parsers that answer with the
characters that they have read. -/
def spelled (language : Language ι) (word output : List ι) : Prop :=
  word ∈ language ∧ output = word

/-- A scanner of a language takes the word with which it answers. The word is a front of the
input, and the rest begins behind it. -/
theorem Scans.of_spelled {parser : Parser ι ε (List ι)} {language : Language ι}
    {input output rest : List ι} (scans : Scans parser (spelled language) input)
    (parsed : parser input = .ok (output, rest)) :
    input = output ++ rest ∧ output ∈ language ∧
      ∀ other ∈ language, other <+: input → other.length ≤ output.length := by
  obtain ⟨word, split, ⟨member, rfl⟩, bound⟩ := scans.longest output rest parsed
  exact ⟨split, member, fun other listed => bound other other ⟨listed, rfl⟩⟩

/-- A scanner advances if all words of its language have items. The empty word alone would let a
scanner succeed without reading. -/
theorem advances_of_scans {parser : Parser ι ε (List ι)} {language : Language ι}
    (scans : ∀ input, Scans parser (spelled language) input)
    (nonempty : ∀ word ∈ language, word ≠ []) : Advances parser := by
  intro input output rest parsed
  obtain ⟨rfl, member, _⟩ := (scans input).of_spelled parsed
  have some : 0 < output.length := List.length_pos_iff.mpr (nonempty output member)
  refine ⟨List.suffix_append output rest, ?_⟩
  rw [List.length_append]
  omega

/-- A scanner succeeds where a word stands in front that spells anything. Which word is found is
another matter: it may be longer. -/
theorem Scans.succeeds {parser : Parser ι ε ω} {spells : List ι → ω → Prop} {input word : List ι}
    {output : ω} (scans : Scans parser spells input) (spelled : spells word output)
    (front : word <+: input) : ∃ found rest, parser input = .ok (found, rest) := by
  cases parsed : parser input with
  | error reason => exact False.elim (scans.absent reason parsed word output spelled front)
  | ok answer => exact ⟨answer.1, answer.2, rfl⟩

/-- A scanner takes a word exactly if it is the longest one that stands in front. So the
language alone decides what a scanner answers. -/
theorem Scans.eq_ok_iff {parser : Parser ι ε (List ι)} {language : Language ι}
    {input output rest : List ι} (scans : Scans parser (spelled language) input) :
    parser input = .ok (output, rest) ↔ input = output ++ rest ∧ output ∈ language ∧
      ∀ other ∈ language, other <+: input → other.length ≤ output.length := by
  refine ⟨scans.of_spelled, ?_⟩
  rintro ⟨split, member, bound⟩
  have front : output <+: input := split ▸ List.prefix_append output rest
  obtain ⟨found, last, parsed⟩ := scans.succeeds ⟨member, rfl⟩ front
  obtain ⟨foundSplit, foundMember, foundBound⟩ := scans.of_spelled parsed
  have foundFront : found <+: input := foundSplit ▸ List.prefix_append found last
  have same : output = found :=
    (List.prefix_of_prefix_length_le front foundFront (foundBound output member front)).eq_of_length
      (Nat.le_antisymm (foundBound output member front) (bound found foundMember foundFront))
  subst same
  rw [parsed, List.append_cancel_left (split.symm.trans foundSplit)]

/-- A parser scans a language if it takes the longest word and fails where there is none. It is
the way in which single classes of characters are shown to be scanned. -/
theorem scans_spelled {parser : Parser ι ε (List ι)} {language : Language ι} {input : List ι}
    (longest : ∀ output rest, parser input = .ok (output, rest) →
      input = output ++ rest ∧ output ∈ language ∧
        ∀ other ∈ language, other <+: input → other.length ≤ output.length)
    (absent : ∀ reason, parser input = .error reason → ∀ word ∈ language, ¬ word <+: input) :
    Scans parser (spelled language) input where
  longest := by
    intro output rest parsed
    obtain ⟨split, member, bound⟩ := longest output rest parsed
    exact ⟨output, split, ⟨member, rfl⟩, fun other found spells => bound other spells.1⟩
  absent := by
    intro reason failed word output spells
    exact absent reason failed word spells.1

/-- What is scanned depends on nothing but which words spell what. The parser stays the same,
and so does the input. -/
theorem Scans.congr {parser : Parser ι ε ω} {spells others : List ι → ω → Prop} {input : List ι}
    (scans : Scans parser spells input)
    (same : ∀ word output, spells word output ↔ others word output) :
    Scans parser others input := by
  have equal : spells = others := funext fun word => funext fun output => propext (same word output)
  exact equal ▸ scans

/-! ## Words of single items -/

/-- The words of one item that belongs to a class. An item is compared by a function to `Bool`,
as the parser does it. -/
def single (accepts : ι → Bool) : Language ι := {word | ∃ item, accepts item = true ∧ word = [item]}

/-- A word of a single item is that item. -/
theorem mem_single (accepts : ι → Bool) (word : List ι) :
    word ∈ single accepts ↔ ∃ item, accepts item = true ∧ word = [item] := Iff.rfl

/-- A word that begins with an item of a class. What is behind the item is a word of the
language. -/
theorem mem_single_mul (accepts : ι → Bool) (language : Language ι) (word : List ι) :
    word ∈ single accepts * language ↔
      ∃ item tail, accepts item = true ∧ tail ∈ language ∧ word = item :: tail := by
  rw [Language.mem_mul]
  constructor
  · rintro ⟨_, ⟨item, accepted, rfl⟩, tail, member, rfl⟩
    exact ⟨item, tail, accepted, member, rfl⟩
  · rintro ⟨item, tail, accepted, member, rfl⟩
    exact ⟨[item], ⟨item, accepted, rfl⟩, tail, member, rfl⟩

/-- The repetitions of a class are the words that have only its items. The empty word is one of
them. -/
theorem mem_single_kstar (accepts : ι → Bool) (word : List ι) :
    word ∈ (single accepts)∗ ↔ ∀ item ∈ word, accepts item = true := by
  rw [Language.mem_kstar]
  constructor
  · rintro ⟨parts, rfl, singles⟩ item member
    obtain ⟨part, listed, inside⟩ := List.mem_flatten.mp member
    obtain ⟨other, accepted, rfl⟩ := singles part listed
    obtain rfl := List.mem_singleton.mp inside
    exact accepted
  · intro accepted
    refine ⟨word.map fun item => [item], ?_, ?_⟩
    · induction word with
      | nil => rfl
      | cons item rest inductionHypothesis =>
        have tail := inductionHypothesis fun other member =>
          accepted other (List.mem_cons_of_mem item member)
        rw [List.map_cons, List.flatten_cons, ← tail, List.singleton_append]
    · intro part member
      obtain ⟨item, inside, rfl⟩ := List.mem_map.mp member
      exact ⟨item, accepted item inside, rfl⟩

/-- A single item is read exactly where one of its class stands in front. The output is a list,
so that it can be joined with others. -/
theorem one_eq_ok_iff [HasFailure ε] (accepts : ι → Bool) (input output rest : List ι) :
    one (satisfy (consume : Parser ι ε ι) accepts) input = .ok (output, rest) ↔
      ∃ item, input = item :: rest ∧ accepts item = true ∧ output = [item] := by
  rw [one, bind_eq_ok_iff]
  constructor
  · rintro ⟨item, middle, continuation, began, chosen, ended⟩
    cases chosen
    obtain ⟨front, accepted⟩ := (satisfy_eq_ok_iff _ _ _ _ _).mp began
    obtain rfl := (consume_eq_ok_iff _ _ _).mp front
    obtain ⟨rfl, rfl⟩ := (result_eq_ok_iff _ _ _ _).mp ended
    exact ⟨item, rfl, accepted, rfl⟩
  · rintro ⟨item, rfl, accepted, rfl⟩
    have began := (satisfy_eq_ok_iff (consume : Parser ι ε ι) accepts (item :: rest) rest item).mpr
      ⟨(consume_eq_ok_iff _ _ _).mpr rfl, accepted⟩
    exact ⟨item, rest, result [item], began, rfl, rfl⟩

/-- One item of a class is scanned. No word of the class is longer than another. -/
theorem scans_one [HasFailure ε] (accepts : ι → Bool) (input : List ι) :
    Scans (one (satisfy (consume : Parser ι ε ι) accepts)) (spelled (single accepts)) input := by
  apply scans_spelled
  · intro output rest parsed
    obtain ⟨item, rfl, accepted, rfl⟩ := (one_eq_ok_iff accepts input output rest).mp parsed
    refine ⟨rfl, ⟨item, accepted, rfl⟩, ?_⟩
    rintro _ ⟨other, _, rfl⟩ _
    exact Nat.le_refl _
  · rintro reason failed _ ⟨item, accepted, rfl⟩ ⟨rest, rfl⟩
    have parsed := (one_eq_ok_iff (ε := ε) accepts (item :: rest) [item] rest).mpr
      ⟨item, rfl, accepted, rfl⟩
    rw [List.singleton_append, parsed] at failed
    cases failed

/-- The items of a class in front are taken one by one. The first item that is not of the class
ends the rounds, or the end of the input does. -/
theorem rounds_satisfy [HasFailure ε] (accepts : ι → Bool) (input : List ι) :
    rounds (satisfy (consume : Parser ι ε ι) accepts) input =
      (input.takeWhile accepts, input.dropWhile accepts) := by
  induction input with
  | nil => rw [rounds]; rfl
  | cons item rest inductionHypothesis =>
    rw [rounds]
    by_cases accepted : accepts item = true
    · have front :=
        (satisfy_eq_ok_iff (consume : Parser ι ε ι) accepts (item :: rest) rest item).mpr
          ⟨(consume_eq_ok_iff _ _ _).mpr rfl, accepted⟩
      simp [front, inductionHypothesis, accepted]
    · simp [satisfy, bind, consume, accepted]

/-- The longest run of items of a class is scanned; it may be empty. It never fails, as the
empty run is there on every input. -/
theorem scans_zeroOrMore [HasFailure ε] (accepts : ι → Bool) (input : List ι) :
    Scans (zeroOrMore (satisfy (consume : Parser ι ε ι) accepts)) (spelled (single accepts)∗)
      input := by
  apply scans_spelled
  · intro output rest parsed
    rw [zeroOrMore, rounds_satisfy, Except.ok.injEq, Prod.mk.injEq] at parsed
    obtain ⟨rfl, rfl⟩ := parsed
    refine ⟨(List.takeWhile_append_dropWhile).symm, ?_, ?_⟩
    · exact (mem_single_kstar accepts _).mpr (List.all_eq_true.mp List.all_takeWhile)
    · rintro other accepted ⟨further, rfl⟩
      have all := (mem_single_kstar accepts other).mp accepted
      rw [List.takeWhile_append_of_pos all, List.length_append]
      exact Nat.le_add_right _ _
  · intro reason failed
    cases failed

/-! ## Sequences -/

/-- No word of the second language begins with an item that carries a word of the first one on.
It is this that makes a scanner of a product out of two scanners, one run behind the other. -/
def Separated (first second : Language ι) : Prop :=
  ∀ word item tail rest, word ∈ first → word ++ item :: tail ∈ first → item :: rest ∉ second

/-- A product in front of an input splits where the longest first word ends, unless its second
word is empty. In the first case the first word may end early.

Proof: an earlier end would leave an item of the longest first word in front of the second
word. -/
theorem Separated.split {first second : Language ι} (separated : Separated first second)
    {longest rest word tail : List ι} (member : longest ∈ first) (inFirst : word ∈ first)
    (inSecond : tail ∈ second) (front : word ++ tail <+: longest ++ rest)
    (bound : word.length ≤ longest.length) :
    tail = [] ∨ word = longest ∧ tail <+: rest := by
  have shorter : word <+: longest :=
    List.prefix_of_prefix_length_le ((List.prefix_append word tail).trans front)
      (List.prefix_append longest rest) bound
  obtain ⟨surplus, rfl⟩ := shorter
  rw [List.append_assoc, List.prefix_append_right_inj] at front
  cases surplus with
  | nil => exact Or.inr ⟨(List.append_nil word).symm, front⟩
  | cons item others =>
    cases tail with
    | nil => exact Or.inl rfl
    | cons other further =>
      rw [List.cons_append, List.cons_prefix_cons] at front
      obtain ⟨rfl, _⟩ := front
      exact False.elim (separated word other others further inFirst member inSecond)

/-- A sequence of one part is that part. Joining one output with nothing leaves it as it is. -/
theorem inOrder_one (parser : Parser ι ε (List ω)) : inOrder [parser] = parser := by
  funext input
  cases parsed : parser input with
  | error reason => simp [inOrder, parsed]
  | ok answer => simp [inOrder, parsed]

/-- A sequence of one part scans what the part scans. A sequence of several parts comes down to
it at the last one. -/
theorem scans_inOrder_one {parser : Parser ι ε (List ι)} {language : Language ι} {input : List ι}
    (scans : Scans parser (spelled language) input) :
    Scans (inOrder [parser]) (spelled language) input := by
  rw [inOrder_one]
  exact scans

/-- A sequence succeeds exactly where its first part does and the others succeed on what the
first part leaves. The outputs are joined in their order. -/
theorem inOrder_cons_eq_ok_iff (parser : Parser ι ε (List ω)) (others : List (Parser ι ε (List ω)))
    (input rest : List ι) (output : List ω) :
    inOrder (parser :: others) input = .ok (output, rest) ↔
      ∃ first middle more, parser input = .ok (first, middle) ∧
        inOrder others middle = .ok (more, rest) ∧ output = first ++ more := by
  constructor
  · intro parsed
    cases began : parser input with
    | error reason => simp [inOrder, began] at parsed
    | ok answer =>
      cases ended : inOrder others answer.2 with
      | error reason => simp [inOrder, began, ended] at parsed
      | ok last =>
        simp only [inOrder, began, ended, Except.ok.injEq, Prod.mk.injEq] at parsed
        obtain ⟨rfl, rfl⟩ := parsed
        exact ⟨answer.1, answer.2, last.1, rfl, ended, rfl⟩
  · rintro ⟨first, middle, more, began, ended, rfl⟩
    simp only [inOrder, began, ended]

/-- A sequence scans the product of a language with a separate one. The other parts have to scan
theirs only on what the first part leaves. Without the separation the first part could read too
far and leave no word for the second one. -/
theorem scans_inOrder_cons {parser : Parser ι ε (List ι)} {others : List (Parser ι ε (List ι))}
    {first second : Language ι} {input : List ι} (begins : Scans parser (spelled first) input)
    (continues : ∀ word rest, parser input = .ok (word, rest) →
      Scans (inOrder others) (spelled second) rest)
    (separated : Separated first second) :
    Scans (inOrder (parser :: others)) (spelled (first * second)) input := by
  apply scans_spelled
  · intro output rest parsed
    obtain ⟨longest, middle, final, began, ended, rfl⟩ :=
      (inOrder_cons_eq_ok_iff parser others input rest output).mp parsed
    obtain ⟨rfl, member, bound⟩ := begins.of_spelled began
    obtain ⟨rfl, inLast, lastBound⟩ := (continues longest middle began).of_spelled ended
    refine ⟨(List.append_assoc longest final rest).symm, Language.append_mem_mul member inLast, ?_⟩
    intro other product front
    obtain ⟨word, inFirst, tail, inSecond, rfl⟩ := Language.mem_mul.mp product
    have short := bound word inFirst ((List.prefix_append word tail).trans front)
    rw [List.length_append, List.length_append]
    rcases separated.split member inFirst inSecond front short with rfl | ⟨rfl, behind⟩
    · exact Nat.add_le_add short (Nat.zero_le _)
    · exact Nat.add_le_add_left (lastBound tail inSecond behind) _
  · intro reason failed product inProduct front
    obtain ⟨word, inFirst, tail, inSecond, rfl⟩ := Language.mem_mul.mp inProduct
    have wordFront : word <+: input := (List.prefix_append word tail).trans front
    obtain ⟨longest, middle, began⟩ := begins.succeeds ⟨inFirst, rfl⟩ wordFront
    obtain ⟨rfl, member, bound⟩ := begins.of_spelled began
    have further := continues longest middle began
    have reached : ∃ final rest, inOrder others middle = .ok (final, rest) := by
      have short := bound word inFirst wordFront
      rcases separated.split member inFirst inSecond front short with rfl | ⟨_, behind⟩
      · exact further.succeeds ⟨inSecond, rfl⟩ List.nil_prefix
      · exact further.succeeds ⟨inSecond, rfl⟩ behind
    obtain ⟨final, rest, ended⟩ := reached
    have parsed := (inOrder_cons_eq_ok_iff parser others _ rest _).mpr
      ⟨longest, middle, final, began, ended, rfl⟩
    rw [parsed] at failed
    cases failed

/-- Repeating a parser at least once is running it once and then until it fails. Both sides fail
where the parser does. -/
theorem oneOrMore_eq (parser : Parser ι ε ω) :
    oneOrMore parser = inOrder [one parser, zeroOrMore parser] := by
  funext input
  cases began : parser input with
  | error reason => simp [oneOrMore, inOrder, one, bind, began]
  | ok answer => simp [oneOrMore, inOrder, one, bind, began, zeroOrMore, result]

/-- A word of a single item cannot be carried on, whatever follows it. Its words all have one
length. -/
theorem separated_single (accepts : ι → Bool) (second : Language ι) :
    Separated (single accepts) second := by
  rintro _ item tail rest ⟨first, _, rfl⟩ ⟨other, _, impossible⟩
  simp at impossible

/-- An optional item of a class is separate from words that begin with items of another. For the
sign in front of digits the two classes have no item in common. -/
theorem separated_optional {accepts starts : ι → Bool} (language : Language ι)
    (disjoint : ∀ item, starts item = true → accepts item = false) :
    Separated (1 + single accepts) (single starts * language) := by
  rintro word item tail rest _ (empty | ⟨other, accepted, same⟩) behind
  · have impossible := (Language.mem_one _).mp empty
    simp at impossible
  · obtain ⟨first, _, begins, _, equal⟩ := (mem_single_mul _ _ _).mp behind
    obtain rfl : item = first := (List.cons.inj equal).1
    have inside : item ∈ [other] := same ▸ by simp
    obtain rfl := List.mem_singleton.mp inside
    rw [disjoint item begins] at accepted
    cases accepted

/-- The longest run of at least one item of a class is scanned. It fails where the first item is
not of the class. -/
theorem scans_oneOrMore [HasFailure ε] (accepts : ι → Bool) (input : List ι) :
    Scans (oneOrMore (satisfy (consume : Parser ι ε ι) accepts))
      (spelled (single accepts * (single accepts)∗)) input := by
  rw [oneOrMore_eq]
  apply scans_inOrder_cons (scans_one accepts input) _ (separated_single accepts _)
  intro word rest _
  exact scans_inOrder_one (scans_zeroOrMore accepts rest)

/-! ## Choices -/

/-- A choice without alternatives scans nothing. No word stands in front of any input then, so
it may fail. -/
theorem scans_firstOf_nil [HasFailure ε] (input : List ι) :
    Scans (firstOf ([] : List (Parser ι ε ω))) (fun _ _ => False) input where
  longest := by
    intro output rest parsed
    cases parsed
  absent := fun _ _ _ _ => False.elim

/-- A choice scans what any of its alternatives spells, if no later alternative spells a longer
word where the first one matches. The condition is asked for on this input only. -/
theorem scans_firstOf_cons [HasFailure ε] {parser : Parser ι ε ω} {others : List (Parser ι ε ω)}
    {first second : List ι → ω → Prop} {input : List ι} (scans : Scans parser first input)
    (later : Scans (firstOf others) second input)
    (prefers : ∀ word output other found, first word output → second other found →
      word <+: input → other <+: input → other.length ≤ word.length) :
    Scans (firstOf (parser :: others)) (fun word output => first word output ∨ second word output)
      input := by
  cases attempt : parser input with
  | error reason =>
    have same : firstOf (parser :: others) input = firstOf others input :=
      firstOf_cons_of_error attempt
    constructor
    · intro output rest parsed
      rw [same] at parsed
      obtain ⟨word, split, spells, bound⟩ := later.longest output rest parsed
      refine ⟨word, split, Or.inr spells, ?_⟩
      rintro other found (spelledFirst | spelledSecond) front
      · exact False.elim (scans.absent reason attempt other found spelledFirst front)
      · exact bound other found spelledSecond front
    · intro other failed word output spells
      rw [same] at failed
      rcases spells with spelledFirst | spelledSecond
      · exact scans.absent reason attempt word output spelledFirst
      · exact later.absent other failed word output spelledSecond
  | ok answer =>
    have same : firstOf (parser :: others) input = .ok answer := firstOf_cons_of_ok attempt
    constructor
    · intro output rest parsed
      rw [same] at parsed
      cases parsed
      obtain ⟨word, split, spells, bound⟩ := scans.longest output rest attempt
      refine ⟨word, split, Or.inl spells, ?_⟩
      rintro other found (spelledFirst | spelledSecond) front
      · exact bound other found spelledFirst front
      · exact prefers word output other found spells spelledSecond
          (split ▸ List.prefix_append word rest) front
    · intro other failed
      rw [same] at failed
      cases failed

/-- A choice without alternatives scans the empty language. A choice between several
alternatives comes down to it behind the last one. -/
theorem scans_firstOf_zero [HasFailure ε] (input : List ι) :
    Scans (firstOf ([] : List (Parser ι ε (List ι)))) (spelled 0) input :=
  (scans_firstOf_nil input).congr fun word _ =>
    ⟨False.elim, fun spells => Language.notMem_zero word spells.1⟩

/-- A choice scans the union of two languages, if words of the second one are never longer where
both match. Words of the first language may well be longer. -/
theorem scans_firstOf_add [HasFailure ε] {parser : Parser ι ε (List ι)}
    {others : List (Parser ι ε (List ι))} {first second : Language ι} {input : List ι}
    (scans : Scans parser (spelled first) input)
    (later : Scans (firstOf others) (spelled second) input)
    (prefers : ∀ word ∈ first, ∀ other ∈ second, word <+: input → other <+: input →
      other.length ≤ word.length) :
    Scans (firstOf (parser :: others)) (spelled (first + second)) input := by
  have choice := scans_firstOf_cons scans later fun word _ other _ spellsFirst spellsSecond =>
    prefers word spellsFirst.1 other spellsSecond.1
  refine choice.congr fun word output => ?_
  rw [spelled, spelled, spelled, Language.mem_add, or_and_right]

/-- A choice with one alternative scans what the alternative scans. The reason for failing
changes, but a scanner does not depend on it. -/
theorem scans_firstOf_one [HasFailure ε] {parser : Parser ι ε (List ι)} {language : Language ι}
    {input : List ι} (scans : Scans parser (spelled language) input) :
    Scans (firstOf [parser]) (spelled language) input := by
  have choice : Scans (firstOf [parser]) (spelled (language + 0)) input := by
    apply scans_firstOf_add scans (scans_firstOf_zero input)
    intro _ _ other none
    exact False.elim (Language.notMem_zero other none)
  rw [add_zero] at choice
  exact choice

/-- Reading nothing scans the empty word. It is the only word in front of every input. -/
theorem scans_zero (input : List ι) : Scans (zero : Parser ι ε (List ι)) (spelled 1) input := by
  apply scans_spelled
  · intro output rest parsed
    obtain ⟨rfl, rfl⟩ := (result_eq_ok_iff [] output input rest).mp parsed
    refine ⟨rfl, rfl, ?_⟩
    intro other empty _
    exact Nat.le_of_eq (congrArg List.length ((Language.mem_one other).mp empty))
  · intro reason failed
    cases failed

/-- An optional part scans its words and the empty word. The alternative that reads nothing
stands last, and so never hides a word. -/
theorem scans_optional [HasFailure ε] {parser : Parser ι ε (List ι)} {language : Language ι}
    {input : List ι} (scans : Scans parser (spelled language) input) :
    Scans (firstOf [parser, zero]) (spelled (1 + language)) input := by
  rw [add_comm]
  apply scans_firstOf_add scans (scans_firstOf_one (scans_zero input))
  intro word _ other none _ _
  rw [(Language.mem_one other).mp none]
  exact Nat.zero_le _

/-- Where every word of a language can be converted, converting what a scanner of the language
takes scans what the words are converted to. The conversion has to succeed on all words, since a
failure there would look like a missing word. -/
theorem scans_bind_result {parser : Parser ι ε (List ι)} {language : Language ι} {input : List ι}
    {next : List ι → Except ε (Parser ι ε ω)} {convert : List ι → ω → Prop}
    (scans : Scans parser (spelled language) input)
    (total : ∀ word ∈ language, ∃ output, convert word output)
    (converted : ∀ word ∈ language, ∀ output, convert word output →
      next word = .ok (result output)) :
    Scans (bind parser next) (fun word output => word ∈ language ∧ convert word output) input where
  longest := by
    intro output rest parsed
    obtain ⟨word, middle, continuation, began, chosen, ended⟩ :=
      (bind_eq_ok_iff parser next input rest output).mp parsed
    obtain ⟨split, member, bound⟩ := scans.of_spelled began
    obtain ⟨found, convertible⟩ := total word member
    rw [converted word member found convertible, Except.ok.injEq] at chosen
    subst chosen
    obtain ⟨rfl, rfl⟩ := (result_eq_ok_iff _ _ _ _).mp ended
    exact ⟨word, split, ⟨member, convertible⟩, fun other _ spells => bound other spells.1⟩
  absent := by
    rintro reason failed word output ⟨member, _⟩ front
    obtain ⟨longest, rest, began⟩ := scans.succeeds ⟨member, rfl⟩ front
    obtain ⟨split, listed, _⟩ := scans.of_spelled began
    obtain ⟨found, convertible⟩ := total longest listed
    simp only [bind, began, converted longest listed found convertible, result] at failed
    cases failed

end WindowPlacement.Parser
