import WindowPlacement.Proofs.Expr.Context
import WindowPlacement.Proofs.Expr.Derivation

/-!
# Expressions in parentheses for operands

Each name and each number among the tokens of an expression is one leaf of its tree, and they
stand in the same order. If one of them is replaced by an expression in parentheses, then the
tree of that expression takes the place of the leaf, and its code takes the place of the one
push. Nothing else changes: the parentheses make a factor of what they enclose, and wherever a
name or a number stands, the grammar has a place for a factor.
-/

namespace WindowPlacement

/-- The operand that a token stands for, if it is a name or a number. It is the leaf that the
token becomes in every derivation. -/
def Token.operand? : Token → Option Operand
  | .name text => some (.variable text)
  | .number value => some (.value value)
  | .leftParen | .rightParen | .operator _ => none

/-- The operands among tokens. Parentheses and operators are passed over. -/
def Token.operands (tokens : List Token) : List Operand := tokens.filterMap Token.operand?

/-- A mark among tokens is no operand. It may stand anywhere, so the operands of a row are those
of its two sides. -/
theorem Token.operands_mark {mark : Token} (isMark : mark.operand? = none)
    (first rest : List Token) :
    operands (first ++ mark :: rest) = operands first ++ operands rest := by
  rw [operands, List.filterMap_append, List.filterMap_cons_none isMark, operands, operands]

namespace Grammar

/-- The tokens with others, in parentheses, for the one at `index`. Where `index` is past the
last token the parentheses are put at the end; results about it ask for a token there. -/
def inlined (tokens : List Token) (index : Nat) (inner : List Token) : List Token :=
  tokens.take index ++ (.leftParen :: inner ++ .rightParen :: tokens.drop (index + 1))

/-- The leaves of a tree are the names and the numbers of the tokens that derive it. So the
leaves depend on the tokens alone, and no derivation reorders them. -/
theorem Derives.leaves {production : Production} {tokens : List Token} {expr : Expr}
    (derived : Derives production tokens expr) :
    expr.leaves = Token.operands tokens := by
  induction derived with
  | sum tier operand others operandHypothesis othersHypothesis =>
    rw [Expr.leaves, operandHypothesis, othersHypothesis, Token.operands_mark rfl]
  | term alone aloneHypothesis => exact aloneHypothesis
  | product tier operand others operandHypothesis othersHypothesis =>
    rw [Expr.leaves, operandHypothesis, othersHypothesis, Token.operands_mark rfl]
  | factor alone aloneHypothesis => exact aloneHypothesis
  | @group tokens expr inner innerHypothesis =>
    have closed : Token.operands (.leftParen :: tokens ++ [.rightParen]) =
        Token.operands (.leftParen :: tokens) ++ [] := Token.operands_mark rfl _ _
    have opened : Token.operands (.leftParen :: tokens) = [] ++ Token.operands tokens :=
      Token.operands_mark rfl [] tokens
    rw [closed, opened, innerHypothesis, List.nil_append, List.append_nil]
  | name text => rfl
  | number value => rfl

/-- An operand in a row with a mark in it stands in front of the mark or behind it. The two
cannot be the same token, and the tokens between them go to the side on which the operand
stands. -/
theorem split_at_mark {first rest before after : List Token} {mark token : Token}
    {operand : Operand} (isMark : mark.operand? = none) (isOperand : token.operand? = some operand)
    (same : first ++ mark :: rest = before ++ token :: after) :
    (∃ middle, first = before ++ token :: middle ∧ after = middle ++ mark :: rest) ∨
      ∃ middle, before = first ++ mark :: middle ∧ rest = middle ++ token :: after := by
  rcases List.append_eq_append_iff.mp same with ⟨middle, rfl, tail⟩ | ⟨middle, rfl, tail⟩
  · cases middle with
    | nil =>
      cases tail
      rw [isMark] at isOperand
      cases isOperand
    | cons head middle =>
      cases tail
      exact Or.inr ⟨middle, rfl, rfl⟩
  · cases middle with
    | nil =>
      cases tail
      rw [isMark] at isOperand
      cases isOperand
    | cons head middle =>
      cases tail
      exact Or.inl ⟨middle, rfl, rfl⟩

/-- A tree has a leaf for an operand that stands between other tokens. The other tokens are
those of a context, and the tree of any factor in the place of the operand is in the gap. The
last part does not ask that the factor stands for the same value, nor that it has one. -/
def HasLeafBetween (production : Production) (before after : List Token) (operand : Operand)
    (expr : Expr) : Prop :=
  ∃ context : Expr.Context, expr = context.plug (.ofOperand operand) ∧
    context.leavesBefore = Token.operands before ∧
    context.leavesAfter = Token.operands after ∧
    ∀ factor part, Derives .factor factor part →
      Derives production (before ++ (factor ++ after)) (context.plug part)

/-- In a row of two operands, each token of either of them has its leaf. `whole` is one of the
two productions with an operator, and `joined` is its rule; sums and products are treated
alike. -/
theorem HasLeafBetween.row {whole one other : Production} {operator : Operator}
    {first rest before after : List Token} {left right : Expr} {token : Token}
    {operand : Operand} (isOperand : token.operand? = some operand)
    (joined : ∀ {first rest left right}, Derives one first left → Derives other rest right →
      Derives whole (first ++ .operator operator :: rest) (.binary operator left right))
    (leftDerived : Derives one first left) (rightDerived : Derives other rest right)
    (inLeft : ∀ {before after}, first = before ++ token :: after →
      HasLeafBetween one before after operand left)
    (inRight : ∀ {before after}, rest = before ++ token :: after →
      HasLeafBetween other before after operand right)
    (same : first ++ .operator operator :: rest = before ++ token :: after) :
    HasLeafBetween whole before after operand (.binary operator left right) := by
  rcases split_at_mark rfl isOperand same with ⟨middle, split, rfl⟩ | ⟨middle, rfl, split⟩
  · obtain ⟨context, rfl, front, back, derived⟩ := inLeft split
    refine ⟨.inLeft operator context right, rfl, front, ?_, ?_⟩
    · rw [Expr.Context.leavesAfter, back, rightDerived.leaves, Token.operands_mark rfl]
    · intro factor part factorDerived
      have row := joined (derived factor part factorDerived) rightDerived
      simpa only [Expr.Context.plug, List.append_assoc] using row
  · obtain ⟨context, rfl, front, back, derived⟩ := inRight split
    refine ⟨.inRight operator left context, rfl, ?_, back, ?_⟩
    · rw [Expr.Context.leavesBefore, front, leftDerived.leaves, Token.operands_mark rfl]
    · intro factor part factorDerived
      have row := joined leftDerived (derived factor part factorDerived)
      simpa only [Expr.Context.plug, List.append_assoc, List.cons_append] using row

/-- What holds of an operand alone holds of it as a production of its own. The rules without an
operator change the production but not the tree. -/
theorem HasLeafBetween.alone {whole one : Production} {before after : List Token} {expr : Expr}
    {operand : Operand} (joined : ∀ {tokens expr}, Derives one tokens expr →
      Derives whole tokens expr) (has : HasLeafBetween one before after operand expr) :
    HasLeafBetween whole before after operand expr := by
  obtain ⟨context, same, front, back, derived⟩ := has
  exact ⟨context, same, front, back, fun factor part factorDerived =>
    joined (derived factor part factorDerived)⟩

/-- A single operand is its own leaf. Then nothing stands on either side, and the context is the
gap itself. -/
theorem HasLeafBetween.single {before after : List Token} {token other : Token}
    {operand : Operand} {expr : Expr} (isOperand : token.operand? = some operand)
    (isLeaf : ∀ operand, other.operand? = some operand → expr = .ofOperand operand)
    (same : [other] = before ++ token :: after) :
    HasLeafBetween .factor before after operand expr := by
  obtain ⟨rfl, rfl, rfl⟩ : before = [] ∧ other = token ∧ after = [] := by
    cases before with
    | nil =>
      cases same
      exact ⟨rfl, rfl, rfl⟩
    | cons head before => simp at same
  refine ⟨.gap, isLeaf operand isOperand, rfl, rfl, fun factor part factorDerived => ?_⟩
  rw [List.nil_append, List.append_nil]
  exact factorDerived

/-- Each name and each number among the tokens of a tree has its leaf. The context is the path
from the root of the tree to the leaf.

Proof: induction on the derivation. The token is neither an operator nor a parenthesis, so it
stands on one side of an operator and between the parentheses of a group. -/
theorem Derives.hasLeafBetween {production : Production} {tokens : List Token} {expr : Expr}
    (derived : Derives production tokens expr) {before after : List Token} {token : Token}
    {operand : Operand} (isOperand : token.operand? = some operand)
    (same : tokens = before ++ token :: after) :
    HasLeafBetween production before after operand expr := by
  induction derived generalizing before after with
  | sum tier first others firstHypothesis othersHypothesis =>
    exact .row isOperand (.sum tier) first others firstHypothesis othersHypothesis same
  | term alone aloneHypothesis => exact (aloneHypothesis same).alone .term
  | product tier first others firstHypothesis othersHypothesis =>
    exact .row isOperand (.product tier) first others firstHypothesis othersHypothesis same
  | factor alone aloneHypothesis => exact (aloneHypothesis same).alone .factor
  | @group tokens expr inner innerHypothesis =>
    have opened : [] ++ Token.leftParen :: (tokens ++ [.rightParen]) = before ++ token :: after :=
      same
    rcases split_at_mark rfl isOperand opened with ⟨middle, impossible, -⟩ | ⟨middle, rfl, closed⟩
    · simp at impossible
    rcases split_at_mark rfl isOperand closed with ⟨rest, split, rfl⟩ | ⟨rest, -, impossible⟩
    · obtain ⟨context, rfl, front, back, derived⟩ := innerHypothesis split
      refine ⟨context, rfl, ?_, ?_, ?_⟩
      · rw [front, Token.operands_mark rfl]
        rfl
      · rw [back, Token.operands_mark rfl]
        exact (List.append_nil _).symm
      · intro factor part factorDerived
        have grouped := Derives.group (derived factor part factorDerived)
        simpa only [List.append_assoc, List.cons_append, List.nil_append] using grouped
    · simp at impossible
  | name text =>
    refine .single isOperand ?_ same
    rintro _ ⟨⟩
    rfl
  | number value =>
    refine .single isOperand ?_ same
    rintro _ ⟨⟩
    rfl

/-- Putting an expression in parentheses for an operand is substitution, among the tokens, in
the tree, in the code and in a run.

The token at `index` has a leaf in the tree of the tokens: in front of it are the leaves of the
tokens in front, and behind it those of the tokens behind. With the expression in place of the
token, the tokens are parsed into the tree with the part in place of the leaf, and the code of
the part stands in place of the push of the operand, behind the pushes of the leaves in front.
In a stateless environment, if the part has the value that the operand has, then both codes have
the same value, or fail with the same name. -/
theorem parse_inlined {tokens inner : List Token} {expr part : Expr} {index : Nat}
    {token : Token} {operand : Operand} (parsed : parse tokens = .ok expr)
    (innerParsed : parse inner = .ok part) (here : tokens[index]? = some token)
    (isOperand : token.operand? = some operand) :
    ∃ context : Expr.Context,
      (expr = context.plug (.ofOperand operand) ∧
        context.leavesBefore = Token.operands (tokens.take index) ∧
        context.leavesAfter = Token.operands (tokens.drop (index + 1))) ∧
      parse (inlined tokens index inner) = .ok (context.plug part) ∧
      (expr.operations = context.codeBefore ++ [.push operand] ++ context.codeAfter ∧
        (context.plug part).operations =
          context.codeBefore ++ part.operations ++ context.codeAfter ∧
        context.codeBefore.filterMap Operation.pushedOperand? =
          Token.operands (tokens.take index)) ∧
      ∀ {σ : Type} (environment : Environment σ) (state : σ) (value : Float),
        environment.IsStateless →
        ((Code.ofExpr part).run.transcript environment state).answer = .ok (some value) →
        ((Machine.resolve operand).transcript environment state).answer = .ok value →
        ((Code.ofExpr (context.plug part)).run.transcript environment state).answer =
          ((Code.ofExpr expr).run.transcript environment state).answer := by
  obtain ⟨inside, rfl⟩ := List.getElem?_eq_some_iff.mp here
  have split : tokens = tokens.take index ++ tokens[index] :: tokens.drop (index + 1) := by
    rw [List.getElem_cons_drop, List.take_append_drop]
  obtain ⟨context, same, front, back, derived⟩ :=
    (derives_of_parse parsed).hasLeafBetween isOperand split
  refine ⟨context, ⟨same, front, back⟩, ?_, ⟨?_, ?_, ?_⟩, ?_⟩
  · have whole := derived _ _ (.group (derives_of_parse innerParsed))
    apply parse_of_derives
    simpa only [inlined, List.append_assoc, List.cons_append, List.nil_append] using whole
  · rw [same, context.operations_plug, Expr.operations_ofOperand]
  · exact context.operations_plug part
  · rw [context.filterMap_pushedOperand_codeBefore, front]
  · intro σ environment state value stateless partEnds operandEnds
    have leafEnds : ((Code.ofExpr (.ofOperand operand)).run.transcript environment state).answer =
        .ok (some value) := by
      rw [Code.run, Code.ofExpr, Expr.operations_ofOperand, Machine.evaluate_push,
        Run.transcript_map, operandEnds]
      rfl
    rw [same]
    exact stateless.run_plug partEnds leafEnds context

/-- In `w - h * 2` the sum `(a + b)` stands for `h`. Where it has the value of `h` and `w` has
none, both codes fail with `w`, which the one looks up behind `a` and `b` and the other behind
`h`. So not even the names that are asked for agree, but the failure does. -/
theorem sum_inlined :
    let environment : Environment Unit := .ofLookup fun name =>
      [("a", 1), ("b", 2), ("h", Operator.add.apply 1 2)].lookup name
    let sum : Expr := .binary .add (.symbol "a") (.symbol "b")
    ∃ context : Expr.Context,
      .binary .subtract (.symbol "w") (.binary .multiply (.symbol "h") (.number 2)) =
        context.plug (.symbol "h") ∧
      parse [.name "w", .operator .subtract, .leftParen, .name "a", .operator .add, .name "b",
        .rightParen, .operator .multiply, .number 2] = .ok (context.plug sum) ∧
      ((Code.ofExpr (context.plug sum)).run.transcript environment ()).answer =
        .error (.unknownVariable "w") := by
  intro environment sum
  let tokens : List Token :=
    [.name "w", .operator .subtract, .name "h", .operator .multiply, .number 2]
  have parsed : parse tokens = .ok (.binary .subtract (.symbol "w")
      (.binary .multiply (.symbol "h") (.number 2))) :=
    parse_of_derives (.sum (by decide) (.factor (.name "w"))
      (.term (.product (by decide) (.name "h") (.factor (.number 2)))))
  have innerParsed : parse [.name "a", .operator .add, .name "b"] = .ok sum :=
    parse_of_derives (.sum (by decide) (.factor (.name "a")) (.term (.factor (.name "b"))))
  have here : tokens[2]? = some (.name "h") := rfl
  obtain ⟨context, ⟨same, -, -⟩, replaced, -, interchanged⟩ :=
    parse_inlined parsed innerParsed here rfl
  refine ⟨context, same, replaced, ?_⟩
  rw [interchanged environment () (Operator.add.apply 1 2) (fun _ _ _ => rfl) rfl rfl]
  rfl

end Grammar

end WindowPlacement
