import WindowPlacement.Code.Compile
import WindowPlacement.Proofs.Expr.Derivation
import WindowPlacement.Proofs.Token.Layout

/-!
# Printing expressions

An expression is printed for a position in the grammar, and gets parentheses only where
the grammar of that position has no place for its operator. A number may be printed as
any text that is read as that number, so printing is a relation.

The words of a printed expression stand for tokens that derive it, and laid out with
blanks between them they are the words that the lexer finds. Printing is therefore undone
by the front end, up to and including the code that is made.
-/

namespace WindowPlacement

/-- The names of the variables in an expression, from the left to the right. A name is listed as
often as it occurs. -/
def Expr.symbols : Expr → List String
  | .symbol name => [name]
  | .number _ => []
  | .binary _ left right => left.symbols ++ right.symbols

/-- The numbers in an expression, from the left to the right. The lists of the names and of the
numbers leave out how the two alternate; `Expr.leaves` keeps that. -/
def Expr.numbers : Expr → List Float
  | .symbol _ => []
  | .number value => [value]
  | .binary _ left right => left.numbers ++ right.numbers

namespace Grammar

/-- An expression is printed as a row of words, with the fewest parentheses that its position
admits. Nothing in the source prints expressions, so this is a description of the texts that a
careful author writes, not of a function. -/
inductive Printed : Production → Expr → List (List Char) → Prop where
  | symbol {position : Production} (name : String) :
      Printed position (.symbol name) [name.toList]
  | number {position : Production} {word : List Char} {value : Float}
      (shape : word ∈ Lexeme.number) (read : Decimal.read word = .ok value) :
      Printed position (.number value) [word]
  /-- Only the position of an expression has a place for an operator of the sum tier. -/
  | sum {operator : Operator} {left right : Expr} {first rest : List (List Char)}
      (tier : operator ∈ Operator.sums) (operand : Printed .term left first)
      (others : Printed .expression right rest) :
      Printed .expression (.binary operator left right) (first ++ [operator.mark] :: rest)
  | sumInParentheses {position : Production} {operator : Operator} {left right : Expr}
      {words : List (List Char)} (tier : operator ∈ Operator.sums)
      (outside : position ≠ .expression)
      (inner : Printed .expression (.binary operator left right) words) :
      Printed position (.binary operator left right) (['('] :: words ++ [[')']])
  /-- Only the position of a factor has no place for an operator of the product tier. -/
  | product {position : Production} {operator : Operator} {left right : Expr}
      {first rest : List (List Char)} (tier : operator ∈ Operator.products)
      (inside : position ≠ .factor) (operand : Printed .factor left first)
      (others : Printed .term right rest) :
      Printed position (.binary operator left right) (first ++ [operator.mark] :: rest)
  | productInParentheses {operator : Operator} {left right : Expr} {words : List (List Char)}
      (tier : operator ∈ Operator.products)
      (inner : Printed .expression (.binary operator left right) words) :
      Printed .factor (.binary operator left right) (['('] :: words ++ [[')']])

/-- An expression is printed in every position, if its numbers can be written down. What is not
a number has no text, so an expression with it is not printed. -/
theorem exists_printed {expr : Expr} (position : Production)
    (written : ∀ value ∈ expr.numbers, ∃ word ∈ Lexeme.number, Decimal.read word = .ok value) :
    ∃ words, Printed position expr words := by
  induction expr generalizing position with
  | symbol name => exact ⟨_, .symbol name⟩
  | number value =>
    obtain ⟨word, shape, read⟩ := written value List.mem_cons_self
    exact ⟨_, .number shape read⟩
  | binary operator left right leftHypothesis rightHypothesis =>
    have leftPrinted (place : Production) := leftHypothesis place fun value member =>
      written value (List.mem_append_left _ member)
    have rightPrinted (place : Production) := rightHypothesis place fun value member =>
      written value (List.mem_append_right _ member)
    have tiers : operator ∈ Operator.sums ∨ operator ∈ Operator.products := by
      cases operator <;> decide
    rcases tiers with tier | tier
    · obtain ⟨first, operand⟩ := leftPrinted .term
      obtain ⟨rest, others⟩ := rightPrinted .expression
      by_cases outside : position = .expression
      · subst outside
        exact ⟨_, .sum tier operand others⟩
      · exact ⟨_, .sumInParentheses tier outside (.sum tier operand others)⟩
    · obtain ⟨first, operand⟩ := leftPrinted .factor
      obtain ⟨rest, others⟩ := rightPrinted .term
      by_cases inside : position = .factor
      · subst inside
        exact ⟨_, .productInParentheses tier (.product tier (by decide) operand others)⟩
      · exact ⟨_, .product tier inside operand others⟩

/-- A term stands wherever a factor is not wanted. The position of an expression needs the rule
without an operator once, that of a term needs none. -/
theorem derives_of_term {position : Production} {tokens : List Token} {expr : Expr}
    (inside : position ≠ .factor) (derived : Derives .term tokens expr) :
    Derives position tokens expr := by
  cases position with
  | expression => exact .term derived
  | term => exact derived
  | factor => exact False.elim (inside rfl)

/-- A factor stands in every position. This is what parentheses are for. -/
theorem derives_of_factor {position : Production} {tokens : List Token} {expr : Expr}
    (derived : Derives .factor tokens expr) : Derives position tokens expr := by
  by_cases same : position = .factor
  · exact same ▸ derived
  · exact derives_of_term same (.factor derived)

/-- The mark of an operator stands for the operator. The mark is the one that the lexer looks
for. -/
theorem denotes_mark (operator : Operator) :
    Lexeme.Denotes [operator.mark] (.operator operator) := by
  refine .mark ?_
  cases operator <;> simp [Lexeme.marks, Operator.mark]

/-- Words in parentheses stand for their tokens in parentheses. The parentheses are words of one
character each. -/
theorem denotes_group {words : List (List Char)} {tokens : List Token}
    (denote : List.Forall₂ Lexeme.Denotes words tokens) :
    List.Forall₂ Lexeme.Denotes (['('] :: words ++ [[')']])
      (.leftParen :: tokens ++ [.rightParen]) := by
  have left : Lexeme.Denotes ['('] .leftParen := .mark (by simp [Lexeme.marks])
  have right : Lexeme.Denotes [')'] .rightParen := .mark (by simp [Lexeme.marks])
  exact List.rel_append (.cons left denote) (.cons right .nil)

/-- The words of a printed expression stand for tokens that derive it in its position. The names
have to be proper ones, since a word stands for a name only if the lexer takes it for one.

Proof: induction on the printing. Parentheses make a factor, which stands in every position. -/
theorem Printed.derives {position : Production} {expr : Expr} {words : List (List Char)}
    (printed : Printed position expr words)
    (named : ∀ name ∈ expr.symbols, name.toList ∈ Lexeme.name) :
    ∃ tokens, List.Forall₂ Lexeme.Denotes words tokens ∧ Derives position tokens expr := by
  induction printed with
  | symbol name =>
    have denotes := Lexeme.Denotes.name (named name List.mem_cons_self)
    rw [String.ofList_toList] at denotes
    exact ⟨[.name name], .cons denotes .nil, derives_of_factor (.name name)⟩
  | @number _ word value shape read =>
    exact ⟨[.number value], .cons (.number shape read) .nil, derives_of_factor (.number value)⟩
  | @sum operator left right _ _ tier _ _ operandHypothesis othersHypothesis =>
    obtain ⟨one, oneDenotes, operand⟩ :=
      operandHypothesis fun name member => named name (List.mem_append_left _ member)
    obtain ⟨two, twoDenotes, others⟩ :=
      othersHypothesis fun name member => named name (List.mem_append_right _ member)
    exact ⟨one ++ .operator operator :: two,
      List.rel_append oneDenotes (.cons (denotes_mark operator) twoDenotes),
      .sum tier operand others⟩
  | sumInParentheses tier outside _ inductionHypothesis =>
    obtain ⟨tokens, denote, derived⟩ := inductionHypothesis named
    exact ⟨_, denotes_group denote, derives_of_factor (.group derived)⟩
  | @product _ operator left right _ _ tier inside _ _ operandHypothesis othersHypothesis =>
    obtain ⟨one, oneDenotes, operand⟩ :=
      operandHypothesis fun name member => named name (List.mem_append_left _ member)
    obtain ⟨two, twoDenotes, others⟩ :=
      othersHypothesis fun name member => named name (List.mem_append_right _ member)
    exact ⟨one ++ .operator operator :: two,
      List.rel_append oneDenotes (.cons (denotes_mark operator) twoDenotes),
      derives_of_term inside (.product tier operand others)⟩
  | productInParentheses tier _ inductionHypothesis =>
    obtain ⟨tokens, denote, derived⟩ := inductionHypothesis named
    exact ⟨_, denotes_group denote, .group derived⟩

/-- The stages in a row succeed with the code of the expression that the tokens are parsed into.
Each stage sees nothing but what the one before it hands on. -/
theorem compile_eq_ok {source : String} {tokens : List Token} {expr : Expr}
    (tokenized : Lexer.tokenize source = .ok tokens) (parsed : parse tokens = .ok expr) :
    Code.compile source = .ok (.ofExpr expr) := by
  simp only [Code.compile, tokenized, parsed, Except.mapError, bind, Except.bind, pure, Except.pure]

end Grammar

end WindowPlacement
