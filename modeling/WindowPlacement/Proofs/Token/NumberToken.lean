import WindowPlacement.Proofs.Decimal.Numeric
import WindowPlacement.Proofs.Parser.Composition
import WindowPlacement.Proofs.Token.Munch

/-!
# Numbers are never refused

The lexer has a reason of its own for a text in the shape of a number that is not read as one. There
is no such text: every number of the language is a literal, and every literal is read as a double,
which is infinite or zero if the literal is out of range. So a text is split by the shapes of its
numbers alone. Were some number refused, the choice of tokens would pass it over in silence and try
the alternatives behind it.
-/

namespace WindowPlacement.Lexeme

open WindowPlacement.Parser

/-- Every literal is read as a double that is a number. A literal that is too large is read as
an infinity, and that is one. -/
theorem read_literal_isNaN {word : List Char} (member : word ∈ literal) :
    ∃ value, Decimal.read word = .ok value ∧ value.isNaN = false := by
  obtain ⟨parts, read⟩ := read_literal member
  exact ⟨parts.value, read, parts.isNaN_value⟩

/-- Where a number stands in front, its token is read. The text of the number is not kept in the
token. -/
theorem numberToken_of_number {input digits rest : List Char} {value : Float}
    (parsed : Lexer.number input = .ok (digits, rest)) (read : Decimal.read digits = .ok value) :
    Lexer.numberToken input = .ok (.number value, rest) := by
  simp only [Lexer.numberToken, Parser.bind, parsed, read, result]

/-- Where no number stands in front, that is the reason for which its token is not read. It is
the reason of the combinators and not one of the reader of doubles. -/
theorem numberToken_of_error {input : List Char} {reason : LexicalError}
    (failed : Lexer.number input = .error reason) : Lexer.numberToken input = .error reason := by
  simp only [Lexer.numberToken, Parser.bind, failed]

/-- A mark other than the minus sign is not read where a number stands in front. The minus sign
is tried after the numbers, so nothing is needed of it. -/
theorem mark_of_number {input digits : List Char} {wanted : Char} {token : Token}
    (listed : (wanted, token) ∈ marks) (notMinus : wanted ≠ '-') (member : digits ∈ number)
    (front : digits <+: input) : ∃ reason, Lexer.mark wanted token input = .error reason := by
  cases parsed : Lexer.mark wanted token input with
  | error reason => exact ⟨reason, rfl⟩
  | ok answer =>
    obtain ⟨split, -⟩ := (mark_eq_ok_iff _ _ _ _ _).mp parsed
    have markFront : [wanted] <+: input := ⟨answer.2, split.symm⟩
    exact False.elim (mark_number_apart listed notMinus member markFront front)

/-- Where a number stands behind blanks, the next token is that number: the alternatives before
it fail. The names and the operators behind it are not tried. -/
theorem token_of_number {gap input digits rest : List Char} {value : Float}
    (blank : ∀ character ∈ gap, Text.isBlank character = true)
    (parsed : Lexer.number input = .ok (digits, rest)) (read : Decimal.read digits = .ok value) :
    Lexer.token (gap ++ input) = .ok (.number value, rest) := by
  obtain ⟨split, member, -⟩ := (scans_number input).of_spelled parsed
  have front : digits <+: input := split ▸ List.prefix_append digits rest
  have skipped : (gap ++ input).dropWhile Text.isBlank = input := by
    rw [split, ← List.append_assoc]
    exact dropWhile_blanks rest blank (Or.inl (Or.inr member))
  have leftListed : ('(', Token.leftParen) ∈ marks := by simp [marks]
  have rightListed : (')', Token.rightParen) ∈ marks := by simp [marks]
  obtain ⟨_, left⟩ := mark_of_number leftListed (by decide) member front
  obtain ⟨_, right⟩ := mark_of_number rightListed (by decide) member front
  rw [token_eq, skipped, bareTokens, firstOf_cons_of_error left, firstOf_cons_of_error right]
  exact firstOf_cons_of_ok (numberToken_of_number parsed read)

/-- No number of a text is refused.

The lexer takes the longest number that stands in front of a text, and nothing but the shape of
the text decides which one that is. What it takes is a literal, is read as a double that is a
number, and becomes a token with nothing else left behind it, also among the other tokens and
behind blanks. It may be too large or too small for a double and may have any number of digits.
Where no number stands in front, the token fails as the number does. So it never fails because a
text in the shape of a number is not read as one. -/
theorem numbers_never_refused (input : List Char) :
    (∀ digits rest, Lexer.number input = .ok (digits, rest) ↔
      input = digits ++ rest ∧ digits ∈ number ∧
        ∀ other ∈ number, other <+: input → other.length ≤ digits.length) ∧
    (∀ digits rest, Lexer.number input = .ok (digits, rest) →
      digits ∈ literal ∧ ∃ value, Decimal.read digits = .ok value ∧ value.isNaN = false ∧
        Lexer.numberToken input = .ok (.number value, rest) ∧
        ∀ gap : List Char, (∀ character ∈ gap, Text.isBlank character = true) →
          Lexer.token (gap ++ input) = .ok (.number value, rest)) ∧
    (∀ reason, Lexer.number input = .error reason → Lexer.numberToken input = .error reason) ∧
    ∀ text, Lexer.numberToken input ≠ .error (.notANumber text) := by
  have taken : ∀ digits rest, Lexer.number input = .ok (digits, rest) →
      digits ∈ literal ∧ ∃ value, Decimal.read digits = .ok value ∧ value.isNaN = false ∧
        Lexer.numberToken input = .ok (.number value, rest) ∧
        ∀ gap : List Char, (∀ character ∈ gap, Text.isBlank character = true) →
          Lexer.token (gap ++ input) = .ok (.number value, rest) := by
    intro digits rest parsed
    have member : digits ∈ literal :=
      number_le_literal ((scans_number input).of_spelled parsed).2.1
    obtain ⟨value, read, ordinary⟩ := read_literal_isNaN member
    exact ⟨member, value, read, ordinary, numberToken_of_number parsed read,
      fun gap blank => token_of_number blank parsed read⟩
  refine ⟨fun digits rest => (scans_number input).eq_ok_iff, taken,
    fun reason => numberToken_of_error, fun text refused => ?_⟩
  cases parsed : Lexer.number input with
  | error reason =>
    rw [numberToken_of_error parsed, firstOf_eq_error parsed] at refused
    cases refused
  | ok answer =>
    obtain ⟨-, value, -, -, accepted, -⟩ := taken answer.1 answer.2 parsed
    rw [accepted] at refused
    cases refused

/-- A number far beyond the range of doubles is one token, and its value is negative
infinity. -/
theorem huge_number_is_one_token :
    Lexer.number "-1e999)".toList = .ok ("-1e999".toList, [')']) ∧
      (-Decimal.infinity).isNaN = false ∧
      Lexer.numberToken "-1e999)".toList = .ok (.number (-Decimal.infinity), [')']) ∧
      Lexer.token (" ".toList ++ "-1e999)".toList) =
        .ok (.number (-Decimal.infinity), [')']) := by
  have parsed : Lexer.number "-1e999)".toList = .ok ("-1e999".toList, [')']) := by cbv
  obtain ⟨-, value, read, ordinary, accepted, next⟩ :=
    (numbers_never_refused "-1e999)".toList).2.1 _ _ parsed
  obtain rfl : -Decimal.infinity = value := Except.ok.inj read
  exact ⟨parsed, ordinary, accepted, next _ (by simp; rfl)⟩

end WindowPlacement.Lexeme
