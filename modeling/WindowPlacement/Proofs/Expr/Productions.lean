import WindowPlacement.Expr.Grammar
import WindowPlacement.Proofs.Parser.Progress

/-!
# The productions of the grammar

When each production of the grammar succeeds, and with what. A production never leaves
all of its tokens, so none of its re-entries meets the guard of the recursion: the three
productions satisfy the equations that the grammar gives for them.
-/

namespace WindowPlacement.Grammar

open WindowPlacement.Parser

/-! ## Tokens -/

/-- One given token is read exactly where it stands in front. At the end of the input it
fails. -/
theorem exactly_eq_ok_iff (wanted token : Token) (input rest : List Token) :
    exactly wanted input = .ok (token, rest) ↔ input = token :: rest ∧ token = wanted := by
  rw [exactly, satisfy_eq_ok_iff, consume_eq_ok_iff, decide_eq_true_eq]

/-- An operator is read exactly where its token stands in front. No other operator is accepted,
not even one of the same tier. -/
theorem operator_eq_ok_iff (wanted found : Operator) (input rest : List Token) :
    operator wanted input = .ok (found, rest) ↔
      input = .operator wanted :: rest ∧ found = wanted := by
  rw [operator, bind_eq_ok_iff]
  constructor
  · rintro ⟨token, middle, continuation, began, chosen, ended⟩
    cases chosen
    obtain ⟨rfl, rfl⟩ := (exactly_eq_ok_iff _ _ _ _).mp began
    obtain ⟨rfl, rfl⟩ := (result_eq_ok_iff _ _ _ _).mp ended
    exact ⟨rfl, rfl⟩
  · rintro ⟨rfl, rfl⟩
    exact ⟨_, rest, _, (exactly_eq_ok_iff _ _ _ _).mpr ⟨rfl, rfl⟩, rfl, rfl⟩

/-- An operator of a tier is read exactly where the token of one of them stands in front; it is
that one. The order of the operators in the tier makes no difference, because no two of them are
one token. -/
theorem operators_eq_ok_iff (tier : List Operator) (found : Operator) (input rest : List Token) :
    operators tier input = .ok (found, rest) ↔
      found ∈ tier ∧ input = .operator found :: rest := by
  constructor
  · intro parsed
    obtain ⟨parser, member, succeeded⟩ := firstOf_eq_ok parsed
    obtain ⟨wanted, listed, rfl⟩ := List.mem_map.mp member
    obtain ⟨same, rfl⟩ := (operator_eq_ok_iff _ _ _ _).mp succeeded
    exact ⟨listed, same⟩
  · rintro ⟨member, rfl⟩
    induction tier with
    | nil => cases member
    | cons wanted others inductionHypothesis =>
      by_cases same : found = wanted
      · subst same
        have front : operator found (.operator found :: rest) = .ok (found, rest) :=
          (operator_eq_ok_iff _ _ _ _).mpr ⟨rfl, rfl⟩
        exact firstOf_cons_of_ok front
      · have later : found ∈ others := (List.mem_cons.mp member).resolve_left same
        cases attempt : operator wanted (.operator found :: rest) with
        | error reason =>
          exact (firstOf_cons_of_error attempt).trans (inductionHypothesis later)
        | ok answer =>
          obtain ⟨first, _⟩ := (operator_eq_ok_iff wanted answer.1 _ answer.2).mp attempt
          simp only [List.cons.injEq, Token.operator.injEq] at first
          exact False.elim (same first.1)

/-- A value is read exactly from a name or a number in front. The tree is a leaf in both cases,
and one token has been read. -/
theorem value_eq_ok_iff (input rest : List Token) (expr : Expr) :
    value input = .ok (expr, rest) ↔
      (∃ text, input = .name text :: rest ∧ expr = .symbol text) ∨
        ∃ number, input = .number number :: rest ∧ expr = .number number := by
  rw [value, bind_eq_ok_iff]
  constructor
  · rintro ⟨token, middle, continuation, began, chosen, ended⟩
    obtain rfl := (consume_eq_ok_iff _ _ _).mp began
    cases token with
    | name text =>
      cases chosen
      obtain ⟨rfl, rfl⟩ := (result_eq_ok_iff _ _ _ _).mp ended
      exact Or.inl ⟨text, rfl, rfl⟩
    | number number =>
      cases chosen
      obtain ⟨rfl, rfl⟩ := (result_eq_ok_iff _ _ _ _).mp ended
      exact Or.inr ⟨number, rfl, rfl⟩
    | leftParen => cases chosen
    | rightParen => cases chosen
    | operator operator => cases chosen
  · rintro (⟨text, rfl, rfl⟩ | ⟨number, rfl, rfl⟩)
    · exact ⟨.name text, rest, _, rfl, rfl, rfl⟩
    · exact ⟨.number number, rest, _, rfl, rfl, rfl⟩

/-! ## Groups and rows -/

/-- A group is read exactly where an expression stands between two parentheses. The parser
inside has to stop exactly in front of the closing parenthesis; it is not asked again for
less. -/
theorem group_eq_ok_iff (inner : TokenParser Expr) (input rest : List Token) (expr : Expr) :
    group inner input = .ok (expr, rest) ↔
      ∃ middle, input = .leftParen :: middle ∧ inner middle = .ok (expr, .rightParen :: rest) := by
  rw [group, bind_eq_ok_iff]
  constructor
  · rintro ⟨_, middle, _, opened, chosen, following⟩
    cases chosen
    obtain ⟨rfl, rfl⟩ := (exactly_eq_ok_iff _ _ _ _).mp opened
    obtain ⟨_, final, _, read, chosen, closing⟩ := (bind_eq_ok_iff _ _ _ _ _).mp following
    cases chosen
    obtain ⟨_, last, _, closed, chosen, ended⟩ := (bind_eq_ok_iff _ _ _ _ _).mp closing
    cases chosen
    obtain ⟨rfl, rfl⟩ := (exactly_eq_ok_iff _ _ _ _).mp closed
    obtain ⟨rfl, rfl⟩ := (result_eq_ok_iff _ _ _ _).mp ended
    exact ⟨middle, rfl, read⟩
  · rintro ⟨middle, rfl, read⟩
    refine ⟨.leftParen, middle, _, (exactly_eq_ok_iff _ _ _ _).mpr ⟨rfl, rfl⟩, rfl, ?_⟩
    refine (bind_eq_ok_iff _ _ _ _ _).mpr ⟨expr, .rightParen :: rest, _, read, rfl, ?_⟩
    refine (bind_eq_ok_iff _ _ _ _ _).mpr ⟨.rightParen, rest, _, ?_, rfl, rfl⟩
    exact (exactly_eq_ok_iff _ _ _ _).mpr ⟨rfl, rfl⟩

/-- A factor is read exactly as a group or as a value. The two never begin alike. Hence the
order of the two alternatives makes no difference. -/
theorem factorOf_eq_ok_iff (inner : TokenParser Expr) (input rest : List Token) (expr : Expr) :
    factorOf inner input = .ok (expr, rest) ↔
      group inner input = .ok (expr, rest) ∨ value input = .ok (expr, rest) := by
  constructor
  · intro parsed
    obtain ⟨parser, member, succeeded⟩ := firstOf_eq_ok parsed
    rcases List.mem_cons.mp member with rfl | member
    · exact Or.inl succeeded
    · obtain rfl := List.mem_singleton.mp member
      exact Or.inr succeeded
  · rintro (grouped | single)
    · exact firstOf_cons_of_ok grouped
    · cases attempt : group inner input with
      | error reason => exact (firstOf_cons_of_error attempt).trans (firstOf_cons_of_ok single)
      | ok answer =>
        obtain ⟨middle, rfl, _⟩ := (group_eq_ok_iff inner input answer.2 answer.1).mp attempt
        rcases (value_eq_ok_iff _ _ _).mp single with
          ⟨text, impossible, _⟩ | ⟨number, impossible, _⟩
        · cases impossible
        · cases impossible

/-- A row ends behind its first operand if no operator of the tier follows. The parser of the
right operand is then not run. -/
theorem chain_alone {left right : TokenParser Expr} {tier : List Operator}
    {input after : List Token} {first : Expr} (began : left input = .ok (first, after))
    (ends : ∀ operator ∈ tier, ∀ later, after ≠ .operator operator :: later) :
    chain left (operators tier) right input = .ok (first, after) := by
  cases found : operators tier after with
  | error reason => simp only [chain, began, found]
  | ok carried =>
    obtain ⟨member, front⟩ := (operators_eq_ok_iff tier carried.1 after carried.2).mp found
    exact False.elim (ends carried.1 member carried.2 front)

/-- Behind an operator of the tier a row goes on if its right operand can be read, and gives the
operator back if not. Its failure is forgotten, and the operator is left over for what stands
around the row. -/
theorem chain_carried {left right : TokenParser Expr} {tier : List Operator}
    {input later : List Token} {operator : Operator} {first : Expr}
    (began : left input = .ok (first, .operator operator :: later)) (member : operator ∈ tier) :
    chain left (operators tier) right input =
      match right later with
      | .error _ => .ok (first, .operator operator :: later)
      | .ok (second, rest) => .ok (.binary operator first second, rest) := by
  have found := (operators_eq_ok_iff tier operator (.operator operator :: later) later).mpr
    ⟨member, rfl⟩
  cases ended : right later with
  | error reason => simp only [chain, began, found, ended]
  | ok answer => simp only [chain, began, found, ended]

/-- A row goes on behind an operator of the tier if the right operand can be read. The left
operand and the right one may be read by different parsers. -/
theorem chain_both {left right : TokenParser Expr} {tier : List Operator}
    {input later rest : List Token} {operator : Operator} {first second : Expr}
    (member : operator ∈ tier) (began : left input = .ok (first, .operator operator :: later))
    (ended : right later = .ok (second, rest)) :
    chain left (operators tier) right input = .ok (.binary operator first second, rest) := by
  rw [chain_carried began member, ended]

/-- A row of operands is a left operand with an operator and a right operand behind it, or the
left operand alone where they do not both follow. That the right operand fails is part of the
second case, since an operator may follow without one. -/
theorem chain_eq_ok_iff (left right : TokenParser Expr) (tier : List Operator)
    (input rest : List Token) (expr : Expr) :
    chain left (operators tier) right input = .ok (expr, rest) ↔
      ∃ first after, left input = .ok (first, after) ∧
        ((∃ operator ∈ tier, ∃ later second, after = .operator operator :: later ∧
            right later = .ok (second, rest) ∧ expr = .binary operator first second) ∨
          (expr = first ∧ rest = after ∧ ∀ operator ∈ tier, ∀ later,
            after = .operator operator :: later → ∃ reason, right later = .error reason)) := by
  constructor
  · intro parsed
    cases began : left input with
    | error reason => simp [chain, began] at parsed
    | ok answer =>
      obtain ⟨first, after⟩ := answer
      refine ⟨first, after, rfl, ?_⟩
      by_cases carried : ∃ operator ∈ tier, ∃ later, after = .operator operator :: later
      · obtain ⟨operator, member, later, rfl⟩ := carried
        rw [chain_carried began member] at parsed
        cases ended : right later with
        | error reason =>
          rw [ended] at parsed
          cases parsed
          refine Or.inr ⟨rfl, rfl, ?_⟩
          intro other _ behind front
          cases front
          exact ⟨reason, ended⟩
        | ok last =>
          rw [ended] at parsed
          cases parsed
          exact Or.inl ⟨operator, member, later, last.1, rfl, ended, rfl⟩
      · have ends : ∀ operator ∈ tier, ∀ later, after ≠ .operator operator :: later :=
          fun operator member later front => carried ⟨operator, member, later, front⟩
        rw [chain_alone began ends] at parsed
        cases parsed
        refine Or.inr ⟨rfl, rfl, ?_⟩
        intro operator member later front
        exact False.elim (ends operator member later front)
  · rintro ⟨first, after, began, ⟨operator, member, later, second, rfl, ended, rfl⟩ | single⟩
    · exact chain_both member began ended
    · obtain ⟨rfl, rfl, fails⟩ := single
      by_cases carried : ∃ operator ∈ tier, ∃ later, rest = .operator operator :: later
      · obtain ⟨operator, member, later, rfl⟩ := carried
        obtain ⟨reason, failed⟩ := fails operator member later rfl
        rw [chain_carried began member, failed]
      · exact chain_alone began fun operator member later front =>
          carried ⟨operator, member, later, front⟩

/-! ## Progress -/

/-- The operators of a tier are single tokens. A tier without any would never succeed, which is
covered as well. -/
theorem operators_advances (tier : List Operator) : Advances (operators tier) := by
  intro input found rest parsed
  obtain ⟨_, rfl⟩ := (operators_eq_ok_iff tier found input rest).mp parsed
  exact ⟨List.suffix_cons _ rest, Nat.lt_succ_self _⟩

/-- A group has two tokens of its own, and they enclose what it re-enters. So a group advances
by at least two tokens more than the parser inside. -/
theorem group_advances {inner : TokenParser Expr} (advances : Advances inner) :
    Advances (group inner) := by
  intro input expr rest parsed
  obtain ⟨middle, rfl, read⟩ := (group_eq_ok_iff inner input rest expr).mp parsed
  obtain ⟨suffix, _⟩ := advances middle expr _ read
  have later : rest <:+ middle := (List.suffix_cons .rightParen rest).trans suffix
  exact ⟨later.trans (List.suffix_cons .leftParen middle), Nat.lt_succ_of_le later.length_le⟩

/-- A value is a single token. It is not run again inside itself, so nothing else has to be
known of it. -/
theorem value_advances : Advances value := by
  intro input expr rest parsed
  rcases (value_eq_ok_iff input rest expr).mp parsed with ⟨text, rfl, _⟩ | ⟨number, rfl, _⟩
  · exact ⟨List.suffix_cons _ rest, Nat.lt_succ_self _⟩
  · exact ⟨List.suffix_cons _ rest, Nat.lt_succ_self _⟩

/-- A factor has at least one token. Either alternative does. -/
theorem factorOf_advances {inner : TokenParser Expr} (advances : Advances inner) :
    Advances (factorOf inner) := by
  intro input expr rest parsed
  rcases (factorOf_eq_ok_iff inner input rest expr).mp parsed with grouped | single
  · exact group_advances advances input expr rest grouped
  · exact value_advances input expr rest single

/-- A row of operands has at least the tokens of its first operand. What is given back behind
the first operand has not been read. -/
theorem chain_advances {left right : TokenParser Expr} (tier : List Operator)
    (leftAdvances : Advances left) (rightAdvances : Advances right) :
    Advances (chain left (operators tier) right) := by
  intro input expr rest parsed
  obtain ⟨first, after, began, ends⟩ := (chain_eq_ok_iff left right tier input rest expr).mp parsed
  obtain ⟨suffix, shorter⟩ := leftAdvances input first after began
  rcases ends with ⟨operator, _, later, second, rfl, ended, _⟩ | ⟨_, rfl, _⟩
  · obtain ⟨further, _⟩ := rightAdvances later second rest ended
    have behind : rest <:+ .operator operator :: later :=
      further.trans (List.suffix_cons _ later)
    exact ⟨behind.trans suffix, Nat.lt_of_le_of_lt behind.length_le shorter⟩
  · exact ⟨suffix, shorter⟩

/-- A term advances if what its groups enclose does. The recursion of a row into itself is
behind an operator, where the guard is never met. -/
theorem termOf_advances {inner : TokenParser Expr} (advances : Advances inner) :
    Advances (termOf inner) :=
  recursive_advances fun _ selfAdvances =>
    chain_advances Operator.products (factorOf_advances advances) selfAdvances

/-- An expression advances. Hence an expression is never read from no tokens. -/
theorem expression_advances : Advances expression :=
  recursive_advances fun _ selfAdvances =>
    chain_advances Operator.sums (termOf_advances selfAdvances) selfAdvances

/-- A term advances. It is `termOf_advances` with expressions in the groups. -/
theorem term_advances : Advances term := termOf_advances expression_advances

/-- A factor advances. It is `factorOf_advances` with expressions in the groups. -/
theorem factor_advances : Advances factor := factorOf_advances expression_advances

/-! ## Equations -/

/-- What a group encloses stands further on in the input. The opening parenthesis has been read
before the parser inside is run. -/
theorem group_reentersBehind : ReentersBehind group := by
  intro input self other agree
  cases input with
  | nil => rfl
  | cons token middle =>
    have inside : self middle = other middle :=
      agree middle (List.suffix_cons token middle) (Nat.lt_succ_self _)
    by_cases opened : token = .leftParen
    · subst opened
      simp [group, Parser.bind, exactly, satisfy, consume, result, inside]
    · simp [group, Parser.bind, exactly, satisfy, consume, opened]

/-- What a factor encloses in parentheses stands further on in the input. A name or a number is
read without running the parser inside at all. -/
theorem factorOf_congr {self other : TokenParser Expr} {input : List Token}
    (agree : AgreeBelow input self other) : factorOf self input = factorOf other input := by
  simp only [factorOf, firstOf, group_reentersBehind input self other agree]

/-- The right operand of a row stands further on in the input. The right operands need to agree
on shorter inputs only, because the left operand and the operator have been read before. -/
theorem chain_congr {left otherLeft right otherRight : TokenParser Expr} (tier : List Operator)
    {input : List Token} (same : left input = otherLeft input) (reads : Reads left)
    (agree : AgreeBelow input right otherRight) :
    chain left (operators tier) right input =
      chain otherLeft (operators tier) otherRight input := by
  unfold chain
  rw [← same]
  cases began : left input with
  | error reason => rfl
  | ok answer =>
    obtain ⟨first, after⟩ := answer
    dsimp only
    cases found : operators tier after with
    | error reason => rfl
    | ok carried =>
      obtain ⟨operator, later⟩ := carried
      have suffix : after <:+ input := reads input first after began
      obtain ⟨further, shorter⟩ := operators_advances tier after operator later found
      simp only [agree later (further.trans suffix) (Nat.lt_of_lt_of_le shorter suffix.length_le)]

/-- With the same left operand a row differs in its right operand only, further on. It is the
condition under which the recursion of a row has an equation. -/
theorem chain_reentersBehind {left : TokenParser Expr} (tier : List Operator) (reads : Reads left) :
    ReentersBehind (chain left (operators tier)) :=
  fun _ _ _ agree => chain_congr tier rfl reads agree

/-- A term is a row of factors, where `inner` stands for what groups enclose. Without that
`inner` advances the equation could fail, where a group leaves more tokens than it has found. -/
theorem termOf_eq {inner : TokenParser Expr} (advances : Advances inner) :
    termOf inner = chain (factorOf inner) (operators Operator.products) (termOf inner) :=
  recursive_eq
    (fun _ selfAdvances =>
      chain_advances Operator.products (factorOf_advances advances) selfAdvances)
    (fun self other _ _ input =>
      chain_reentersBehind Operator.products (factorOf_advances advances).reads input self other)

/-- The groups of a term stand further on in the input. That is why a term may be unfolded
inside an expression although both are recursive. -/
theorem termOf_congr {self other : TokenParser Expr} (advances : Advances self)
    {input : List Token} (agree : AgreeBelow input self other) :
    termOf self input = termOf other input := by
  apply recursive_congr
  intro later term otherTerm behind same
  have enclosed : factorOf self later = factorOf other later :=
    factorOf_congr fun further suffix shorter =>
      agree further (suffix.trans behind) (Nat.lt_of_lt_of_le shorter behind.length_le)
  exact chain_congr Operator.products enclosed (factorOf_advances advances).reads same

/-- An expression is a row of terms. There is no bound on the depth in it: on each input the
guarded parser and the unguarded one agree. -/
theorem expression_eq :
    expression = chain term (operators Operator.sums) expression :=
  recursive_eq
    (fun _ selfAdvances =>
      chain_advances Operator.sums (termOf_advances selfAdvances) selfAdvances)
    (fun _ _ selfAdvances _ _ agree =>
      chain_congr Operator.sums (termOf_congr selfAdvances agree)
        (termOf_advances selfAdvances).reads agree)

/-- A term is a row of factors. Together with `expression_eq` it gives the grammar back as it is
documented. -/
theorem term_eq : term = chain factor (operators Operator.products) term :=
  termOf_eq expression_advances

end WindowPlacement.Grammar
