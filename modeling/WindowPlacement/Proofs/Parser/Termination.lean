import WindowPlacement.Proofs.Expr.Productions
import WindowPlacement.Proofs.Token.Leftover

/-!
# Lexing and parsing end

The definitions of repetition and of recursive grammars have guards, and would end for any parser
whatsoever. Without the guards they would not: a loop whose parser reads nothing never ends, and
neither does a grammar that re-enters itself where it stands. Here it is shown that the lexer and
the grammar do without. Each of their productions reads at least one item when it succeeds. So a
loop has no more rounds than there are items, and every re-entry meets a shorter input, so that
there are never more re-entries inside one another than items.

That a guard is never met is stated without reference to it. A loop is what `Repeats` describes. A
grammar is unrolled as many times as its input has items and once more, and then anything may stand
in the place of the next re-entry.
-/

namespace WindowPlacement

open WindowPlacement.Parser

namespace Parser

variable {ι ε ω : Type}

/-- On every input the loop of the parser comes to an end, in one way only, which is what the
repetition answers. It has an item for every round beside those that it leaves. That it comes to
an end is stated of `Repeats`, which has no guard. -/
def LoopEnds (parser : Parser ι ε ω) : Prop :=
  ∀ input, ∃ outputs rest, zeroOrMore parser input = .ok (outputs, rest) ∧
    (∀ others last, Repeats parser input others last ↔ others = outputs ∧ last = rest) ∧
    outputs.length + rest.length ≤ input.length

/-- The loop of a parser that advances ends. All that is used of the parser is that it
advances. -/
theorem Advances.loopEnds {parser : Parser ι ε ω} (advances : Advances parser) :
    LoopEnds parser := by
  intro input
  have ends := repeats_rounds advances input
  refine ⟨_, _, rfl, fun others last => ⟨ends.unique, ?_⟩, ends.length_le advances⟩
  rintro ⟨rfl, rfl⟩
  exact ends

end Parser

/-! ## The grammar of expressions, unrolled -/

namespace Grammar

/-- Parsers for the two productions that are re-entered. Factors have no place among them, since
they are re-entered only through these two. -/
structure Tiers where
  /-- Sums and what they are made of. -/
  expression : TokenParser Expr
  /-- Products and what they are made of. -/
  term : TokenParser Expr

/-- One level of the grammar, whose re-entries are into the tiers given. The term on the way
into an expression is part of the level, and so not taken from `inner`. -/
def Tiers.around (inner : Tiers) : Tiers where
  term := chain (factorOf inner.expression) (operators Operator.products) inner.term
  expression :=
    chain (chain (factorOf inner.expression) (operators Operator.products) inner.term)
      (operators Operator.sums) inner.expression

/-- With more levels than tokens, the unrolled grammar is the grammar, whatever stands inside.
For fewer levels it is false in general, because the innermost tiers may be reached.

Proof: induction on the number of levels. All re-entries of the outermost level meet shorter
inputs and one level less; what this level calls without a re-entry is part of it. -/
theorem iterate_around (inside : Tiers) {count : Nat} {tokens : List Token}
    (enough : tokens.length < count) :
    (Tiers.around^[count] inside).expression tokens = expression tokens ∧
      (Tiers.around^[count] inside).term tokens = term tokens := by
  induction count generalizing tokens with
  | zero => omega
  | succ count inductionHypothesis =>
    rw [Function.iterate_succ_apply']
    have sameExpression : AgreeBelow tokens expression (Tiers.around^[count] inside).expression :=
      fun later _ shorter => ((inductionHypothesis (by omega)).1).symm
    have sameTerm : AgreeBelow tokens term (Tiers.around^[count] inside).term :=
      fun later _ shorter => ((inductionHypothesis (by omega)).2).symm
    have terms : term tokens = (Tiers.around^[count] inside).around.term tokens := by
      rw [term_eq]
      exact chain_congr Operator.products (factorOf_congr sameExpression) factor_advances.reads
        sameTerm
    refine ⟨?_, terms.symm⟩
    rw [expression_eq]
    exact (chain_congr Operator.sums terms term_advances.reads sameExpression).symm

/-- As many levels as tokens are too few: behind the parenthesis there is a re-entry. -/
example : (Tiers.around^[1] ⟨fun _ => .ok (.number 0, [.rightParen]), value⟩).expression
    [.leftParen] = .ok (.number 0, []) := rfl

end Grammar

/-! ## Numbers and names -/

namespace Lexeme

/-- Reading a number advances. Numbers have no recursion, so nothing has to be unrolled. -/
theorem number_advances : Advances Lexer.number := by
  apply advances_of_scans scans_number
  intro word member
  obtain ⟨first, tail, _, rfl | rfl⟩ := number_cases member
  · exact List.cons_ne_nil _ _
  · exact List.cons_ne_nil _ _

/-- Reading a name advances. A further name in it is read behind a dot. -/
theorem name_advances : Advances Lexer.name := recursive_advances nameBody_advances

/-- Names are what they are unrolled to. There are as many levels as characters, and one for the
end of the input. -/
theorem iterate_nameBody (inside : Lexer.CharParser (List Char)) (input : List Char) :
    (Lexer.nameBody^[input.length + 1] inside) input = Lexer.name input := by
  have solves : Lexer.name = Lexer.nameBody Lexer.name :=
    lexer_name_eq.trans (nameBody_eq Lexer.name).symm
  exact iterate_eq solves nameBody_reentersBehind inside (Nat.lt_succ_self _)

end Lexeme

/-- The lexer and the grammar make progress, and so both come to an end.

Whenever a token, a number, a name or a part of a name is read from some characters, and
whenever an expression, a term, a factor or a group is read from some tokens, what is left is a
shorter end of the input. Each loop of the lexer ends on every input, with at most as many
rounds as there are characters: the loop over tokens, and those over blanks, over digits and
over the characters of a name. A name within a name, an expression in a group and the right
operands of the two tiers are read from shorter ends of what their callers were run on.

So there are at most as many re-entries inside one another as the input has items. If the first
run and that many re-entries are unrolled, there is the same answer, and a re-entry inside of
them could have any other one: it is not made. -/
theorem lexing_and_parsing_end :
    (Advances Lexer.token ∧ Advances Lexer.number ∧ Advances Lexer.name ∧
      Advances Lexer.namePart) ∧
    (Advances Grammar.expression ∧ Advances Grammar.term ∧ Advances Grammar.factor ∧
      Advances (Grammar.group Grammar.expression)) ∧
    (LoopEnds Lexer.token ∧ LoopEnds (Lexer.charWhere Text.isBlank) ∧ LoopEnds Lexer.digit ∧
      LoopEnds (Lexer.charWhere Lexer.isNameRest)) ∧
    (ReentersBehind Lexer.nameBody ∧ ReentersBehind Grammar.group ∧
      ReentersBehind (Grammar.chain Grammar.term (Grammar.operators Operator.sums)) ∧
      ReentersBehind (Grammar.chain Grammar.factor (Grammar.operators Operator.products))) ∧
    (∀ (inside : Lexer.CharParser (List Char)) (input : List Char),
      (Lexer.nameBody^[input.length + 1] inside) input = Lexer.name input) ∧
    ∀ (inside : Grammar.Tiers) (tokens : List Token),
      let unrolled := Grammar.Tiers.around^[tokens.length + 1] inside
      unrolled.expression tokens = Grammar.expression tokens ∧
        unrolled.term tokens = Grammar.term tokens := by
  have single (accepts : Char → Bool) : Advances (Lexer.charWhere accepts) :=
    satisfy_advances accepts consume_advances
  refine ⟨⟨Lexeme.token_advances, Lexeme.number_advances, Lexeme.name_advances,
      Lexeme.namePart_advances⟩,
    ⟨Grammar.expression_advances, Grammar.term_advances, Grammar.factor_advances,
      Grammar.group_advances Grammar.expression_advances⟩,
    ⟨Lexeme.token_advances.loopEnds, (single _).loopEnds, (single _).loopEnds,
      (single _).loopEnds⟩,
    ⟨Lexeme.nameBody_reentersBehind, Grammar.group_reentersBehind, ?_, ?_⟩,
    Lexeme.iterate_nameBody, ?_⟩
  · exact Grammar.chain_reentersBehind Operator.sums Grammar.term_advances.reads
  · exact Grammar.chain_reentersBehind Operator.products Grammar.factor_advances.reads
  · intro inside tokens
    exact Grammar.iterate_around inside (Nat.lt_succ_self _)

end WindowPlacement
