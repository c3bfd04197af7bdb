import WindowPlacement.Proofs.Expr.Inlining

/-!
# What the tokens of an expression become

Each name, each number and each operator among the tokens of an expression becomes one
instruction of its code, and the code has no other instructions. Names and numbers keep their
order, because both the grammar and the code put a left operand in front of a right one. An
operator moves behind its operands. Parentheses come in pairs and become nothing.

Every node of the tree is one instruction. A node has two operands, so beside each node of a
longest path, but for the leaf at its end, stands at least one node that is not on the path.
-/

namespace WindowPlacement

namespace Token

/-- The name that a token is. The text is taken as it is, with the dots that are part of it. -/
def name? : Token → Option String
  | .name text => some text
  | .number _ | .leftParen | .rightParen | .operator _ => none

/-- Whether a token is one of the two parentheses. The two are the only tokens without a trace
in the code. -/
def isParenthesis : Token → Bool
  | .leftParen | .rightParen => true
  | .name _ | .number _ | .operator _ => false

/-- The instruction that a token becomes, if it is not a parenthesis. A name and a number are
pushed, an operator is applied; what the token stands next to makes no difference. -/
def instruction? : Token → Option Operation
  | .name text => some (.push (.variable text))
  | .number value => some (.push (.value value))
  | .operator applied => some (.apply applied)
  | .leftParen | .rightParen => none

/-- The instructions that tokens become, in the order of the tokens. It is the code that the
tokens would be if none of them had to move. -/
def instructions (tokens : List Token) : List Operation := tokens.filterMap instruction?

/-- The instructions of a row are that of its first token, if there is one, and those of the
rest. -/
@[simp] theorem instructions_cons (token : Token) (tokens : List Token) :
    instructions (token :: tokens) = token.instruction?.toList ++ instructions tokens := by
  cases token <;> rfl

/-- The instructions of two rows stand one after the other, because a token becomes the same
wherever it stands. -/
@[simp] theorem instructions_append (first rest : List Token) :
    instructions (first ++ rest) = instructions first ++ instructions rest :=
  List.filterMap_append

/-- The names among tokens are the names among their operands. The numbers among the operands
drop out, and the names keep their order. -/
theorem filterMap_name (tokens : List Token) :
    tokens.filterMap name? = (operands tokens).filterMap Operand.name? := by
  rw [operands, List.filterMap_filterMap]
  congr 1
  funext token
  cases token <;> rfl

/-- A token becomes an operator exactly if it is that operator. An operand becomes a push, which
is never counted as an operator. -/
theorem count_apply_instructions (tokens : List Token) (operator : Operator) :
    (instructions tokens).count (.apply operator) = tokens.count (.operator operator) := by
  induction tokens with
  | nil => rfl
  | cons token tokens inductionHypothesis =>
    rw [instructions_cons, List.count_append, inductionHypothesis, List.count_cons]
    cases token <;> simp [instruction?, List.count_cons, Nat.add_comm]

/-- All tokens but the parentheses become instructions. The tokens need not derive anything for
this. -/
theorem length_instructions (tokens : List Token) :
    (instructions tokens).length = tokens.countP fun token => !token.isParenthesis := by
  rw [instructions, List.length_filterMap_eq_countP]
  congr 1
  funext token
  cases token <;> rfl

/-- The parentheses in a row of tokens fit together: none is closed before it is opened, and
none is left open. -/
structure Balanced (tokens : List Token) : Prop where
  front : ∀ size, (tokens.take size).count .rightParen ≤ (tokens.take size).count .leftParen
  whole : tokens.count .leftParen = tokens.count .rightParen

namespace Balanced

/-- A token that is not a parenthesis is balanced. It neither opens nor closes anything. -/
theorem single {token : Token} (bare : token.isParenthesis = false) : Balanced [token] := by
  have none : [token].count .leftParen = 0 ∧ [token].count .rightParen = 0 := by
    cases token with
    | leftParen | rightParen => cases bare
    | name text | number value | operator operator => simp
  refine ⟨fun size => ?_, none.1.trans none.2.symm⟩
  have few : ([token].take size).count .rightParen ≤ [token].count .rightParen :=
    (List.take_sublist size [token]).count_le _
  omega

/-- Balanced rows stand one after the other. What is open in the first row has been closed where
the second one begins. -/
theorem append {first second : List Token} (one : Balanced first) (two : Balanced second) :
    Balanced (first ++ second) where
  front := by
    intro size
    rw [List.take_append, List.count_append, List.count_append]
    exact Nat.add_le_add (one.front size) (two.front (size - first.length))
  whole := by
    rw [List.count_append, List.count_append, one.whole, two.whole]

/-- A balanced row in parentheses is balanced: where the last parenthesis closes, the first one
is still open. -/
theorem group {tokens : List Token} (inner : Balanced tokens) :
    Balanced (.leftParen :: tokens ++ [.rightParen]) where
  front := by
    intro size
    cases size with
    | zero => simp
    | succ size =>
      have opened := inner.front size
      have closed : ([Token.rightParen].take (size - tokens.length)).count .rightParen ≤ 1 :=
        (List.take_sublist _ _).count_le _
      simp only [List.cons_append, List.take_succ_cons, List.take_append, List.count_cons,
        List.count_append, beq_iff_eq, reduceCtorEq, if_true, if_false]
      omega
  whole := by
    have same := inner.whole
    simp only [List.cons_append, List.count_cons, List.count_append, List.count_nil, beq_iff_eq,
      reduceCtorEq, if_true, if_false]
    omega

end Balanced

end Token

namespace Expr

/-- There is no expression without code. A leaf alone is one push. -/
theorem length_operations_pos (expr : Expr) : 0 < expr.operations.length := by
  cases expr with
  | symbol name => exact Nat.one_pos
  | number value => exact Nat.one_pos
  | binary operator left right =>
    rw [operations, List.length_append]
    exact Nat.succ_pos _

/-- The nodes on a longest path are at most one more than those beside it. Equality holds where
each node of the path has a leaf for its other operand, so the bound is reached at every depth.

Proof: induction on the tree. The operand that is not on the path has at least one node. -/
theorem depth_le (expr : Expr) : 2 * expr.depth ≤ expr.operations.length + 1 := by
  induction expr with
  | symbol name => exact Nat.le_refl 2
  | number value => exact Nat.le_refl 2
  | binary operator left right leftHypothesis rightHypothesis =>
    have leftPresent := left.length_operations_pos
    have rightPresent := right.length_operations_pos
    simp only [depth, operations, List.length_append, List.length_singleton]
    omega

end Expr

namespace Grammar

/-- The operator of a row moves behind both operands. Which of the two tiers the operator is of
does not matter, nor what the operands are. -/
theorem operations_perm_row {operator : Operator} {left right : Expr} {first rest : List Token}
    (one : left.operations.Perm (Token.instructions first))
    (other : right.operations.Perm (Token.instructions rest)) :
    (Expr.binary operator left right).operations.Perm
      (Token.instructions (first ++ .operator operator :: rest)) := by
  have moved : (right.operations ++ [Operation.apply operator]).Perm
      (.apply operator :: Token.instructions rest) :=
    (List.perm_append_singleton _ _).trans (other.cons _)
  rw [Token.instructions_append, Expr.operations, List.append_assoc]
  exact one.append moved

/-- The code of an expression has the instructions of its tokens, in another order. How they are
arranged is said of the operands alone, by `parse_conserves`; the place of an operator depends
on where its right operand ends. -/
theorem Derives.operations_perm {production : Production} {tokens : List Token} {expr : Expr}
    (derived : Derives production tokens expr) :
    expr.operations.Perm (Token.instructions tokens) := by
  induction derived with
  | sum tier operand others operandHypothesis othersHypothesis =>
    exact operations_perm_row operandHypothesis othersHypothesis
  | term alone aloneHypothesis => exact aloneHypothesis
  | product tier operand others operandHypothesis othersHypothesis =>
    exact operations_perm_row operandHypothesis othersHypothesis
  | factor alone aloneHypothesis => exact aloneHypothesis
  | @group tokens expr inner innerHypothesis =>
    have enclosed : Token.instructions (.leftParen :: tokens ++ [.rightParen]) =
        Token.instructions tokens := by
      rw [List.cons_append, Token.instructions_cons, Token.instructions_append]
      exact List.append_nil _
    rw [enclosed]
    exact innerHypothesis
  | name text => exact .refl _
  | number value => exact .refl _

/-- The parentheses of a derived row fit together. A parenthesis is introduced by one rule only,
and that one introduces both. -/
theorem Derives.balanced {production : Production} {tokens : List Token} {expr : Expr}
    (derived : Derives production tokens expr) : Token.Balanced tokens := by
  induction derived with
  | @sum operator first rest left right tier operand others operandHypothesis othersHypothesis =>
    exact operandHypothesis.append ((Token.Balanced.single rfl).append othersHypothesis)
  | term alone aloneHypothesis => exact aloneHypothesis
  | product tier operand others operandHypothesis othersHypothesis =>
    exact operandHypothesis.append ((Token.Balanced.single rfl).append othersHypothesis)
  | factor alone aloneHypothesis => exact aloneHypothesis
  | group inner innerHypothesis => exact innerHypothesis.group
  | name text => exact .single rfl
  | number value => exact .single rfl

/-- Nothing is lost between tokens and code, nothing is doubled, and operands keep their order.

The operands that the code pushes are the names and the numbers among the tokens, and its
variables are the names. Each operator is applied as often as it stands among the tokens. The
parentheses fit together and become nothing, so that the code has as many instructions as there
are other tokens. The tree is at most half as deep as its code is long, rounded up. -/
theorem parse_conserves {tokens : List Token} {expr : Expr} (parsed : parse tokens = .ok expr) :
    (expr.operations.filterMap Operation.pushedOperand? = Token.operands tokens ∧
      (Code.ofExpr expr).variableNames = tokens.filterMap Token.name?) ∧
    (∀ operator, expr.operations.count (.apply operator) = tokens.count (.operator operator)) ∧
    Token.Balanced tokens ∧
    expr.operations.length = (tokens.countP fun token => !token.isParenthesis) ∧
    2 * expr.depth ≤ expr.operations.length + 1 := by
  have derived := derives_of_parse parsed
  have operands : expr.operations.filterMap Operation.pushedOperand? = Token.operands tokens := by
    rw [Expr.filterMap_pushedOperand_operations, derived.leaves]
  refine ⟨⟨operands, ?_⟩, ?_, derived.balanced, ?_, expr.depth_le⟩
  · rw [Code.variableNames, Code.ofExpr, Operation.filterMap_pushedName, operands,
      Token.filterMap_name]
  · intro operator
    rw [derived.operations_perm.count_eq, Token.count_apply_instructions]
  · rw [derived.operations_perm.length_eq, Token.length_instructions]

/-- In `1 + 2 * (3 - a) / b` each operator has a leaf for its left operand or its right one, and
the tree is as deep as its nine instructions allow. The division is the right operand of the
product, so that the path goes on to the right. -/
theorem nested_row_conserved :
    let tokens : List Token := [.number 1, .operator .add, .number 2, .operator .multiply,
      .leftParen, .number 3, .operator .subtract, .name "a", .rightParen, .operator .divide,
      .name "b"]
    ∃ expr, parse tokens = .ok expr ∧ (Code.ofExpr expr).variableNames = ["a", "b"] ∧
      expr.operations.length = 9 ∧ 2 * expr.depth = expr.operations.length + 1 := by
  intro tokens
  have difference : Derives .expression [.number 3, .operator .subtract, .name "a"]
      (.binary .subtract (.number 3) (.symbol "a")) :=
    .sum (by decide) (.factor (.number 3)) (.term (.factor (.name "a")))
  have parsed : parse tokens = .ok (.binary .add (.number 1) (.binary .multiply (.number 2)
      (.binary .divide (.binary .subtract (.number 3) (.symbol "a")) (.symbol "b")))) :=
    parse_of_derives (.sum (by decide) (.factor (.number 1)) (.term (.product (by decide)
      (.number 2) (.product (by decide) (.group difference) (.factor (.name "b"))))))
  obtain ⟨⟨-, names⟩, -, -, counted, -⟩ := parse_conserves parsed
  refine ⟨_, parsed, names, counted, ?_⟩
  rw [counted]
  rfl

end Grammar

end WindowPlacement
