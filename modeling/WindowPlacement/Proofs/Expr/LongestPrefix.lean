import WindowPlacement.Proofs.Expr.Derivation

/-!
# The longest expression in front

Tokens that are no expression may still begin with one, and with more than one: in
`a + b * (` the rows `a` and `a + b` both are. Parsing keeps the longest of them and
reports the tokens behind it.

Each production reads at least as far as any row that it derives, because an operand is
given back only together with its operator, and never in part. So no failure further on
can shorten what has been read, and none is reported: where no expression stands in front,
the reason is always that no alternative matched.
-/

namespace WindowPlacement

/-- Whether a token is an operand by itself. These are the tokens with which a factor begins
that is not a group. -/
def Token.isValue : Token → Bool
  | .name _ | .number _ => true
  | .leftParen | .rightParen | .operator _ => false

namespace Grammar

open WindowPlacement.Parser

/-- The tokens derive an expression. Which tree it is does not matter here, and by
`parse_eq_ok_iff_derives` there is only one. -/
def IsExpression (tokens : List Token) : Prop := ∃ expr, Derives .expression tokens expr

/-- The row is the longest expression in front of the tokens. What follows the row may look like
the rest of an expression, as an operator does, without being one. -/
structure LongestExpression (tokens row : List Token) : Prop where
  front : row <+: tokens
  expression : IsExpression row
  longest : ∀ other, other <+: tokens → IsExpression other → other.length ≤ row.length

/-! ## How far a production reads -/

/-- A row of operands reads at least its first one: what it gives back stands behind it. That it
may read further is the reason for the inequality, here and in `parser_reaches`. -/
theorem chain_reaches {left right : TokenParser Expr} (tier : List Operator)
    {input after : List Token} {first : Expr} (reads : Reads right)
    (began : left input = .ok (first, after)) :
    ∃ expr rest, chain left (operators tier) right input = .ok (expr, rest) ∧ rest <:+ after := by
  by_cases carried : ∃ operator ∈ tier, ∃ later, after = .operator operator :: later
  · obtain ⟨operator, member, later, rfl⟩ := carried
    rw [chain_carried began member]
    cases ended : right later with
    | error reason => exact ⟨first, _, rfl, List.suffix_refl _⟩
    | ok answer =>
      have further : answer.2 <:+ later := reads later answer.1 answer.2 ended
      exact ⟨_, answer.2, rfl, further.trans (List.suffix_cons _ later)⟩
  · have alone : chain left (operators tier) right input = .ok (first, after) :=
      chain_alone began fun operator member later front =>
        carried ⟨operator, member, later, front⟩
    exact ⟨first, after, alone, List.suffix_refl after⟩

/-- Nothing carries a factor on. It has no operator of its own and none inside. -/
theorem ends_factor (rest : List Token) : Ends .factor rest :=
  fun _ none => False.elim (List.not_mem_nil none)

/-- A production reads at least as far as any row that it derives. Unlike `complete` this asks
nothing of the tokens behind the row, and so it does not say which tree is found.

Proof: induction on the derivation. The first operand of a row ends exactly where its operator
stands, so only the last operand can reach further than it has to. -/
theorem parser_reaches {production : Production} {read : List Token} {expr : Expr}
    (derived : Derives production read expr) (behind : List Token) :
    ∃ found rest, production.parser (read ++ behind) = .ok (found, rest) ∧ rest <:+ behind := by
  -- A factor ends by itself, whatever stands behind it.
  have closed (row : List Token) (tree : Expr) (factor : Derives .factor row tree) :
      Production.factor.parser (row ++ behind) = .ok (tree, behind) :=
    complete factor behind (ends_factor behind)
  induction derived with
  | @sum operator first others left right tier operand row _ rowHypothesis =>
    obtain ⟨found, rest, ended, suffix⟩ := rowHypothesis
    have began : term (first ++ .operator operator :: (others ++ behind)) =
        .ok (left, .operator operator :: (others ++ behind)) :=
      complete operand _ (ends_term_of_sum tier _)
    refine ⟨.binary operator left found, rest, ?_, suffix⟩
    rw [List.append_assoc]
    change expression _ = _
    rw [expression_eq]
    exact chain_both tier began ended
  | term alone aloneHypothesis =>
    obtain ⟨found, after, began, suffix⟩ := aloneHypothesis
    obtain ⟨expr, rest, parsed, further⟩ :=
      chain_reaches Operator.sums expression_advances.reads began
    refine ⟨expr, rest, ?_, further.trans suffix⟩
    change expression _ = _
    rw [expression_eq]
    exact parsed
  | @product operator first others left right tier operand row _ rowHypothesis =>
    obtain ⟨found, rest, ended, suffix⟩ := rowHypothesis
    have began : factor (first ++ .operator operator :: (others ++ behind)) =
        .ok (left, .operator operator :: (others ++ behind)) :=
      complete operand _ (ends_factor _)
    refine ⟨.binary operator left found, rest, ?_, suffix⟩
    rw [List.append_assoc]
    change term _ = _
    rw [term_eq]
    exact chain_both tier began ended
  | factor alone aloneHypothesis =>
    obtain ⟨found, after, began, suffix⟩ := aloneHypothesis
    obtain ⟨expr, rest, parsed, further⟩ :=
      chain_reaches Operator.products term_advances.reads began
    refine ⟨expr, rest, ?_, further.trans suffix⟩
    change term _ = _
    rw [term_eq]
    exact parsed
  | group inner => exact ⟨_, behind, closed _ _ (.group inner), List.suffix_refl behind⟩
  | name text => exact ⟨_, behind, closed _ _ (.name text), List.suffix_refl behind⟩
  | number value => exact ⟨_, behind, closed _ _ (.number value), List.suffix_refl behind⟩

/-- What is read as an expression is the longest one in front. The tokens behind the row are
arbitrary; they may begin with an operator, or with anything that is no part of an
expression. -/
theorem expression_longest {tokens rest : List Token} {expr : Expr}
    (parsed : expression tokens = .ok (expr, rest)) :
    ∃ row, tokens = row ++ rest ∧ Derives .expression row expr ∧ LongestExpression tokens row := by
  obtain ⟨row, split, derived⟩ := sound .expression tokens expr rest parsed
  refine ⟨row, split, derived, ⟨split ▸ List.prefix_append row rest, ⟨expr, derived⟩, ?_⟩⟩
  rintro other ⟨behind, front⟩ ⟨tree, otherDerived⟩
  obtain ⟨found, last, reached, suffix⟩ := parser_reaches otherDerived behind
  have shorter : rest.length ≤ behind.length := by
    rw [front] at reached
    cases parsed.symm.trans reached
    exact suffix.length_le
  have total : (row ++ rest).length = (other ++ behind).length := by rw [front, ← split]
  simp only [List.length_append] at total
  omega

/-! ## Reasons for failing -/

/-- A row fails where its first operand does, and forgets why. Once the first operand has been
read, a row can no longer fail. -/
theorem chain_eq_error {left right : TokenParser Expr} {tier : List Operator}
    {input : List Token} {reason : GrammarError}
    (failed : chain left (operators tier) right input = .error reason) :
    reason = .combinator .noParserMatched := by
  cases began : left input with
  | error other =>
    simp only [chain, began, Except.error.injEq] at failed
    exact failed.symm
  | ok answer =>
    have notStuck : ∀ last, chain left (operators tier) right input ≠ .error last := by
      intro last
      simp only [chain, began]
      split
      · simp
      · split <;> simp
    exact False.elim (notStuck reason failed)

/-- An expression is missing exactly where none stands in front of the tokens, and the reason is
always the same. The reasons inside, a missing value or an open parenthesis, are lost where the
next alternative is tried. -/
theorem expression_eq_error_iff (tokens : List Token) (reason : GrammarError) :
    expression tokens = .error reason ↔ reason = .combinator .noParserMatched ∧
      ∀ row, row <+: tokens → ¬ IsExpression row := by
  constructor
  · intro failed
    constructor
    · rw [expression_eq] at failed
      exact chain_eq_error failed
    · rintro row ⟨behind, rfl⟩ ⟨expr, derived⟩
      obtain ⟨found, rest, reached, _⟩ := parser_reaches derived behind
      cases failed.symm.trans reached
  · rintro ⟨rfl, absent⟩
    cases parsed : expression tokens with
    | error other =>
      rw [expression_eq] at parsed
      rw [chain_eq_error parsed]
    | ok answer =>
      obtain ⟨row, _, _, longest⟩ := expression_longest parsed
      exact False.elim (absent row longest.front longest.expression)

/-- A value is missing at the end of the tokens and in front of every token that is none; the
second failure names that token. This failure does not reach the caller of `parse`, but it can
be observed of the production itself. -/
theorem value_eq_error_iff (tokens : List Token) (reason : GrammarError) :
    value tokens = .error reason ↔
      (tokens = [] ∧ reason = .combinator .noMoreInput) ∨
        ∃ token rest, tokens = token :: rest ∧ token.isValue = false ∧
          reason = .notAValue token := by
  constructor
  · intro failed
    cases tokens with
    | nil =>
      cases failed
      exact Or.inl ⟨rfl, rfl⟩
    | cons token rest =>
      refine Or.inr ⟨token, rest, rfl, ?_⟩
      cases token <;> cases failed <;> exact ⟨rfl, rfl⟩
  · rintro (⟨rfl, rfl⟩ | ⟨token, rest, rfl, noValue, rfl⟩)
    · rfl
    · cases token with
      | name text => cases noValue
      | number value => cases noValue
      | leftParen => rfl
      | rightParen => rfl
      | operator operator => rfl

/-- A given token is missing at the end of the tokens and in front of every other token. The
failure does not name the token that was found. -/
theorem exactly_eq_error_iff (wanted : Token) (tokens : List Token) (reason : GrammarError) :
    exactly wanted tokens = .error reason ↔
      (tokens = [] ∧ reason = .combinator .noMoreInput) ∨
        ∃ token rest, tokens = token :: rest ∧ token ≠ wanted ∧
          reason = .combinator .notSatisfied := by
  have other (token : Token) (rest : List Token) (differs : token ≠ wanted) :
      exactly wanted (token :: rest) = .error (.combinator .notSatisfied) := by
    simp [exactly, satisfy, Parser.bind, consume, ofFailure, HasFailure.ofFailure, differs]
  constructor
  · intro failed
    cases tokens with
    | nil =>
      cases failed
      exact Or.inl ⟨rfl, rfl⟩
    | cons token rest =>
      by_cases same : token = wanted
      · cases failed.symm.trans ((exactly_eq_ok_iff wanted token _ rest).mpr ⟨rfl, same⟩)
      · cases failed.symm.trans (other token rest same)
        exact Or.inr ⟨token, rest, rfl, same, rfl⟩
  · rintro (⟨rfl, rfl⟩ | ⟨token, rest, rfl, differs, rfl⟩)
    · rfl
    · exact other token rest differs

/-! ## Whole rows of tokens -/

/-- Either no expression stands in front of the tokens, or the longest one there is what is
parsed, and what stands behind it is reported. The two cases exclude each other, and so do the
two inside the second. -/
theorem parse_cases (tokens : List Token) :
    ((∀ row, row <+: tokens → ¬ IsExpression row) ∧
        parse tokens = .error (.combinator .noParserMatched)) ∨
      ∃ row remaining expr, tokens = row ++ remaining ∧ LongestExpression tokens row ∧
        parse row = .ok expr ∧
        ((remaining = [] ∧ parse tokens = .ok expr) ∨
          (remaining ≠ [] ∧ parse tokens = .error (.leftover remaining))) := by
  cases parsed : expression tokens with
  | error reason =>
    obtain ⟨rfl, absent⟩ := (expression_eq_error_iff tokens reason).mp parsed
    have failed : parse tokens = .error (.combinator .noParserMatched) := by
      simp only [parse, parsed]
    exact Or.inl ⟨absent, failed⟩
  | ok answer =>
    obtain ⟨expr, remaining⟩ := answer
    obtain ⟨row, split, derived, longest⟩ := expression_longest parsed
    refine Or.inr ⟨row, remaining, expr, split, longest, parse_of_derives derived, ?_⟩
    by_cases finished : remaining = []
    · have whole : parse tokens = .ok expr := by simp [parse, parsed, finished]
      exact Or.inl ⟨finished, whole⟩
    · have short : parse tokens = .error (.leftover remaining) := by
        simp [parse, parsed, finished]
      exact Or.inr ⟨finished, short⟩

/-- A parse that fails has found no expression in front, or has tokens left over. In both cases
the tokens themselves were fine; lexical failures have been reported before. -/
theorem parse_eq_error {tokens : List Token} {reason : GrammarError}
    (failed : parse tokens = .error reason) :
    reason = .combinator .noParserMatched ∨ ∃ remaining, reason = .leftover remaining := by
  rcases parse_cases tokens with ⟨_, missing⟩ | ⟨_, remaining, _, _, _, _, ⟨_, whole⟩ | ⟨_, short⟩⟩
  · cases failed.symm.trans missing
    exact Or.inl rfl
  · cases failed.symm.trans whole
  · cases failed.symm.trans short
    exact Or.inr ⟨remaining, rfl⟩

/-- The failure inside the parentheses unwinds through the product and the sum, each of which
gives its operator back. -/
example : parse [.name "a", .operator .add, .name "b", .operator .multiply, .leftParen,
      .name "c", .operator .subtract, .rightParen] =
    .error (.leftover [.operator .multiply, .leftParen, .name "c", .operator .subtract,
      .rightParen]) := by
  cbv

end Grammar

end WindowPlacement
