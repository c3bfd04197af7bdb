import WindowPlacement.Proofs.Expr.Productions

/-!
# The language of expressions

The grammar as a relation between rows of tokens and trees. A derivation says nothing
about where an operand ends; the parser has to find that out, and never reconsiders
what it has found. It is sound: what a production reads derives the tree that it
answers with. It is complete: a derived row is read to its end, and with the tree of
the derivation, wherever what follows cannot carry the production on.

Hence a row of tokens is parsed exactly if it derives an expression, and it derives at
most one.
-/

namespace WindowPlacement.Grammar

open WindowPlacement.Parser

/-- The productions of the grammar. Values and groups are no productions of their own, because
only a factor leads to them. -/
inductive Production where
  | expression
  | term
  | factor
deriving DecidableEq

/-- A row of tokens derives a tree by a production. The two rules with an operator admit their
own tier again in the right operand only, which is where the grouping to the right comes
from. -/
inductive Derives : Production → List Token → Expr → Prop where
  /-- A term, an operator of the sum tier and an expression. -/
  | sum {operator : Operator} {first rest : List Token} {left right : Expr}
      (tier : operator ∈ Operator.sums) (operand : Derives .term first left)
      (others : Derives .expression rest right) :
      Derives .expression (first ++ .operator operator :: rest) (.binary operator left right)
  /-- A term on its own. -/
  | term {tokens : List Token} {expr : Expr} (alone : Derives .term tokens expr) :
      Derives .expression tokens expr
  /-- A factor, an operator of the product tier and a term. -/
  | product {operator : Operator} {first rest : List Token} {left right : Expr}
      (tier : operator ∈ Operator.products) (operand : Derives .factor first left)
      (others : Derives .term rest right) :
      Derives .term (first ++ .operator operator :: rest) (.binary operator left right)
  /-- A factor on its own. -/
  | factor {tokens : List Token} {expr : Expr} (alone : Derives .factor tokens expr) :
      Derives .term tokens expr
  /-- An expression in parentheses. -/
  | group {tokens : List Token} {expr : Expr} (inner : Derives .expression tokens expr) :
      Derives .factor (.leftParen :: tokens ++ [.rightParen]) expr
  /-- A name. -/
  | name (text : String) : Derives .factor [.name text] (.symbol text)
  /-- A number. -/
  | number (value : Float) : Derives .factor [.number value] (.number value)

/-- The parser of a production. The parsers are the ones that `Grammar.parse` runs. -/
def Production.parser : Production → TokenParser Expr
  | .expression => Grammar.expression
  | .term => Grammar.term
  | .factor => Grammar.factor

/-! ## Soundness -/

/-- Whenever the parser of a production succeeds on an input, it has read tokens that derive its
tree by that production. A production may stop early, so the tokens behind what it has read are
arbitrary. -/
def Sound (production : Production) (input : List Token) : Prop :=
  ∀ expr rest, production.parser input = .ok (expr, rest) →
    ∃ read, input = read ++ rest ∧ Derives production read expr

/-- Every production is sound on all inputs that are shorter than the given one. It is the
hypothesis of the induction, for all productions at once since they call one another. -/
def SoundBelow (input : List Token) : Prop :=
  ∀ production, ∀ later : List Token, later.length < input.length → Sound production later

/-- A factor is sound if what its parentheses enclose is. Names and numbers need no hypothesis
at all. -/
theorem factor_sound (input : List Token) (below : SoundBelow input) : Sound .factor input := by
  intro expr rest parsed
  rcases (factorOf_eq_ok_iff expression input rest expr).mp parsed with grouped | single
  · obtain ⟨middle, rfl, enclosed⟩ := (group_eq_ok_iff expression input rest expr).mp grouped
    obtain ⟨read, rfl, derived⟩ := below .expression middle (Nat.lt_succ_self _) expr _ enclosed
    exact ⟨.leftParen :: read ++ [.rightParen], by simp, .group derived⟩
  · rcases (value_eq_ok_iff input rest expr).mp single with ⟨text, rfl, rfl⟩ | ⟨number, rfl, rfl⟩
    · exact ⟨[.name text], rfl, .name text⟩
    · exact ⟨[.number number], rfl, .number number⟩

/-- A row is an operand, or an operand, an operator of its tier and a shorter row. The left
operand is sound on this very input, the right one behind the operator, where the induction
hypothesis applies. -/
theorem chain_sound (left right : Production) (tier : List Operator) (input rest : List Token)
    (expr : Expr) (advances : Advances left.parser) (leftSound : Sound left input)
    (below : SoundBelow input)
    (parsed : chain left.parser (operators tier) right.parser input = .ok (expr, rest)) :
    ∃ read, input = read ++ rest ∧
      (Derives left read expr ∨ ∃ operator ∈ tier, ∃ first others leftExpr rightExpr,
        read = first ++ .operator operator :: others ∧
          expr = .binary operator leftExpr rightExpr ∧
          Derives left first leftExpr ∧ Derives right others rightExpr) := by
  obtain ⟨leftExpr, after, began, ends⟩ := (chain_eq_ok_iff _ _ tier input rest expr).mp parsed
  obtain ⟨first, split, derived⟩ := leftSound leftExpr after began
  rcases ends with ⟨operator, member, later, rightExpr, rfl, ended, rfl⟩ | ⟨rfl, rfl, _⟩
  · have shorter : later.length < input.length :=
      Nat.lt_trans (Nat.lt_succ_self _) (advances input leftExpr _ began).2
    obtain ⟨others, rfl, following⟩ := below right later shorter rightExpr rest ended
    refine ⟨first ++ .operator operator :: others, by simp [split], Or.inr ?_⟩
    exact ⟨operator, member, first, others, leftExpr, rightExpr, rfl, rfl, derived, following⟩
  · exact ⟨first, split, Or.inl derived⟩

/-- A term is a row of factors, so it is sound where they are. Its right operand is again a
term, on a shorter input. -/
theorem term_sound (input : List Token) (below : SoundBelow input) : Sound .term input := by
  intro expr rest parsed
  have row : chain factor (operators Operator.products) term input = .ok (expr, rest) := by
    rw [← term_eq]
    exact parsed
  obtain ⟨read, split, derived⟩ := chain_sound .factor .term _ input rest expr
    factor_advances (factor_sound input below) below row
  refine ⟨read, split, ?_⟩
  rcases derived with alone | ⟨operator, tier, first, others, left, right, rfl, rfl, operand, row⟩
  · exact .factor alone
  · exact .product tier operand row

/-- An expression is a row of terms, so it is sound where they are. Its first operand is a term
on the same input, for which `term_sound` is used. -/
theorem expression_sound (input : List Token) (below : SoundBelow input) :
    Sound .expression input := by
  intro expr rest parsed
  have row : chain term (operators Operator.sums) expression input = .ok (expr, rest) := by
    rw [← expression_eq]
    exact parsed
  obtain ⟨read, split, derived⟩ := chain_sound .term .expression _ input rest expr
    term_advances (term_sound input below) below row
  refine ⟨read, split, ?_⟩
  rcases derived with alone | ⟨operator, tier, first, others, left, right, rfl, rfl, operand, row⟩
  · exact .term alone
  · exact .sum tier operand row

/-- Every production is sound on every input. It follows that a parser never answers with a tree
that the grammar does not give to the tokens in front.

Proof: strong induction on the length of the input, for the three productions at once. What
stands in parentheses or behind an operator is shorter than the input. -/
theorem sound (production : Production) (input : List Token) : Sound production input := by
  generalize size : input.length = count
  induction count using Nat.strongRecOn generalizing production input with
  | ind count inductionHypothesis =>
    subst size
    have below : SoundBelow input := fun other later shorter =>
      inductionHypothesis later.length shorter other later rfl
    cases production with
    | expression => exact expression_sound input below
    | term => exact term_sound input below
    | factor => exact factor_sound input below

/-! ## Completeness -/

/-- The operators that carry a production on when they follow it. A production goes on with the
operators of its own tier, and those of the tiers inside it. -/
def Production.operators : Production → List Operator
  | .expression => Operator.sums ++ Operator.products
  | .term => Operator.products
  | .factor => []

/-- No operator in front of the tokens carries the production on. The end of the tokens, a
parenthesis, a name or a number always end a production. -/
def Ends (production : Production) (rest : List Token) : Prop :=
  ∀ operator ∈ production.operators, ∀ later, rest ≠ .operator operator :: later

/-- An operator of the sum tier does not carry a term on. This is where the tiers part: a
difference cannot be an operand of a product without parentheses. -/
theorem ends_term_of_sum {operator : Operator} (tier : operator ∈ Operator.sums)
    (rest : List Token) : Ends .term (.operator operator :: rest) := by
  intro other member later same
  cases same
  cases operator <;> simp [Operator.sums, Production.operators, Operator.products] at tier member

/-- What does not carry an expression on does not carry a term on. The converse fails in front
of an operator of the sum tier. -/
theorem Ends.term {rest : List Token} (ends : Ends .expression rest) : Ends .term rest :=
  fun operator member => ends operator (List.mem_append_right _ member)

/-- What a production derives is read with the derived tree, in front of any tokens that do not
carry the production on. Without the condition on what follows it would be false: in front of `*
b` a sum that ends in `a` is read further.

Proof: induction on the derivation. Behind the first operand of a row stands an operator that
does not carry the operand on, and behind a group its parenthesis. -/
theorem complete {production : Production} {read : List Token} {expr : Expr}
    (derived : Derives production read expr) (rest : List Token) (ends : Ends production rest) :
    production.parser (read ++ rest) = .ok (expr, rest) := by
  induction derived generalizing rest with
  | sum tier operand others operandHypothesis othersHypothesis =>
    rw [List.append_assoc]
    change expression _ = _
    rw [expression_eq]
    exact chain_both tier (operandHypothesis _ (ends_term_of_sum tier _))
      (othersHypothesis rest ends)
  | term alone aloneHypothesis =>
    change expression _ = _
    rw [expression_eq]
    exact chain_alone (aloneHypothesis rest ends.term) fun operator member =>
      ends operator (List.mem_append_left _ member)
  | product tier operand others operandHypothesis othersHypothesis =>
    rw [List.append_assoc]
    change term _ = _
    rw [term_eq]
    exact chain_both tier (operandHypothesis _ (fun _ none => False.elim (List.not_mem_nil none)))
      (othersHypothesis rest ends)
  | factor alone aloneHypothesis =>
    change term _ = _
    rw [term_eq]
    exact chain_alone (aloneHypothesis rest (fun _ none => False.elim (List.not_mem_nil none))) ends
  | @group tokens expr inner innerHypothesis =>
    have closed : expression (tokens ++ .rightParen :: rest) = .ok (expr, .rightParen :: rest) :=
      innerHypothesis _ (fun _ _ _ same => by cases same)
    change factorOf expression _ = _
    refine (factorOf_eq_ok_iff expression _ rest expr).mpr (Or.inl ?_)
    exact (group_eq_ok_iff expression _ rest expr).mpr ⟨_, by simp, closed⟩
  | name text =>
    change factorOf expression (.name text :: rest) = _
    refine (factorOf_eq_ok_iff expression _ rest _).mpr (Or.inr ?_)
    exact (value_eq_ok_iff _ rest _).mpr (Or.inl ⟨text, rfl, rfl⟩)
  | number value =>
    change factorOf expression (.number value :: rest) = _
    refine (factorOf_eq_ok_iff expression _ rest _).mpr (Or.inr ?_)
    exact (value_eq_ok_iff _ rest _).mpr (Or.inr ⟨value, rfl, rfl⟩)

/-! ## Whole rows of tokens -/

/-- Parsing succeeds where an expression is read to the end of the tokens. What is left over
otherwise is the subject of `parse_reports_longest`. -/
theorem parse_eq_ok_iff (tokens : List Token) (expr : Expr) :
    parse tokens = .ok expr ↔ expression tokens = .ok (expr, []) := by
  unfold parse
  cases parsed : expression tokens with
  | error reason => simp
  | ok answer =>
    obtain ⟨found, remaining⟩ := answer
    cases remaining <;> simp

/-- What is parsed derives its tree. It is `sound` with nothing left over. -/
theorem derives_of_parse {tokens : List Token} {expr : Expr} (parsed : parse tokens = .ok expr) :
    Derives .expression tokens expr := by
  obtain ⟨read, split, derived⟩ :=
    sound .expression tokens expr [] ((parse_eq_ok_iff tokens expr).mp parsed)
  rw [List.append_nil] at split
  exact split ▸ derived

/-- What derives a tree is parsed into it. It is `complete` with nothing behind the tokens; the
end of the tokens ends every production. -/
theorem parse_of_derives {tokens : List Token} {expr : Expr}
    (derived : Derives .expression tokens expr) : parse tokens = .ok expr := by
  have read : expression (tokens ++ []) = .ok (expr, []) :=
    complete derived [] (fun _ _ _ same => by cases same)
  rw [List.append_nil] at read
  exact (parse_eq_ok_iff tokens expr).mpr read

end WindowPlacement.Grammar
