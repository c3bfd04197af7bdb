import WindowPlacement.Proofs.Token.Munch

/-!
# What is left of a source text

A text that is not accepted is made of blanks alone, or something is left of it. What is
left begins behind the last token, with its blanks, at a character with which no lexeme
begins; or it is blank, because blanks are skipped only before a token.

What stands before the rest is a text of its own with the same tokens. Cutting the rest
off shortens what may follow a lexeme, and no shorter text offers a longer one.
-/

namespace WindowPlacement.Lexeme

open Computability WindowPlacement.Parser

/-- Whether a token may start with the character: one of the marks, an underscore, or a letter
or a digit of ASCII. The point is not among them: a number does not begin with it and neither
does a name. -/
def startsToken (character : Char) : Bool :=
  ['(', ')', '+', '-', '*', '/', '_'].contains character || character.isAlpha ||
    Decimal.isDigit character

/-- A token may start with the marks, with what begins a name, and with a digit. The one is a
list of characters, the other what the classes of lexemes begin with. -/
theorem startsToken_iff (character : Char) :
    startsToken character = true ↔ (∃ mark ∈ marks, character = mark.1) ∨
      Lexer.isNameStart character = true ∨ Decimal.isDigit character = true := by
  simp only [startsToken, List.contains_eq_mem, marks, List.mem_cons, List.not_mem_nil, or_false,
    exists_eq_or_imp, exists_eq_left, Lexer.isNameStart, Bool.or_eq_true, decide_eq_true_eq]
  grind

/-- A character with which a token may start is a lexeme by itself. A digit is a number and a
letter is a name. -/
theorem mem_lexeme_of_startsToken {character : Char} (starts : startsToken character = true) :
    [character] ∈ lexeme := by
  rcases (startsToken_iff character).mp starts with ⟨mark, listed, rfl⟩ | letter | digit
  · exact Or.inl (Or.inl ((mem_punctuation _).mpr ⟨mark, listed, rfl⟩))
  · have part : [character] ∈ namePart :=
      (mem_namePart_iff _).mpr ⟨character, [], letter, List.forall_mem_nil _, rfl⟩
    exact Or.inr (mem_name_of_mem_namePart part)
  · exact Or.inl (Or.inr (digit_mem_number digit))

/-- No lexeme begins with any other character. So a text whose first visible character is
another one has no first token. -/
theorem startsToken_of_mem_lexeme {character : Char} {others : List Char}
    (member : character :: others ∈ lexeme) : startsToken character = true := by
  rw [startsToken_iff]
  obtain ⟨token, denotes⟩ := (mem_lexeme_iff _).mp member
  cases denotes with
  | mark listed => exact Or.inl ⟨_, listed, rfl⟩
  | number inNumber _ =>
    obtain ⟨first, tail, digit, same | same⟩ := number_cases inNumber
    · obtain rfl := (List.cons.inj same).1
      exact Or.inr (Or.inr digit)
    · obtain rfl := (List.cons.inj same).1
      exact Or.inl ⟨('-', .operator .subtract), by simp [marks], rfl⟩
  | name inName =>
    obtain ⟨first, tail, same, letter⟩ := name_head inName
    obtain rfl := (List.cons.inj same).1
    exact Or.inr (Or.inl letter)

/-! ## Cutting a text off -/

/-- A longest lexeme stays the longest one if the end of the text is cut off. The other way
round it is false: a longer text may have a longer lexeme in front. -/
theorem Longest.of_append {word kept cut : List Char}
    (longest : Longest (word ++ (kept ++ cut)) word) : Longest (word ++ kept) word where
  nonempty := longest.nonempty
  front := List.prefix_append word kept
  member := longest.member
  longest := by
    intro other member front
    have further : word ++ kept <+: word ++ (kept ++ cut) := by
      rw [← List.append_assoc]
      exact List.prefix_append _ cut
    exact longest.longest other member (front.trans further)

/-- The pieces of a split text split the text that ends with them. Nothing is left over in the
text that is cut off.

Proof: induction on the split. Behind each piece the rest is cut off. -/
theorem Splits.cut {text rest : List Char} {pieces : List Piece}
    (splits : Splits text pieces rest) : Splits (pieces.flatMap Piece.text) pieces [] := by
  induction splits with
  | done rest => exact .done []
  | @piece piece others behind rest fits following inductionHypothesis =>
    have kept : piece.Fits (others.flatMap Piece.text) := by
      have longest := fits.longest
      rw [following.text] at longest
      exact ⟨fits.blank, longest.of_append, fits.denotes⟩
    rw [List.flatMap_cons]
    exact .piece kept inductionHypothesis

/-- A blank text has no pieces. All of it is the rest. -/
theorem Splits.eq_nil_of_blank {text rest : List Char} {pieces : List Piece}
    (splits : Splits text pieces rest)
    (blank : ∀ character ∈ text, Text.isBlank character = true) : pieces = [] := by
  cases splits with
  | done rest => rfl
  | @piece piece others behind rest fits following =>
    obtain ⟨first, tail, shape⟩ := List.exists_cons_of_ne_nil fits.longest.nonempty
    have inside : first ∈ piece.word := by simp [shape]
    have hidden : Text.isBlank first = true := blank first (by simp [Piece.text, inside])
    have shown : Text.isBlank first = false :=
      isBlank_of_mem_lexeme fits.longest.member first inside
    simp [hidden] at shown

/-! ## Where the tokens end -/

/-- Reading a token advances. It has at least one visible character. -/
theorem token_advances : Advances Lexer.token := by
  intro input token rest parsed
  obtain ⟨piece, rfl, fits, _⟩ := (token_eq_ok_iff input rest token).mp parsed
  have some := fits.length_pos
  refine ⟨List.suffix_append _ rest, ?_⟩
  rw [List.length_append]
  omega

/-- Where no token is read, the blanks end at a character with which none may start. The reason
of the failure is not looked at. -/
theorem startsToken_of_token_eq_error {input tail : List Char} {reason : LexicalError}
    {character : Char} (failed : Lexer.token input = .error reason)
    (behind : input.dropWhile Text.isBlank = character :: tail) :
    startsToken character = false := by
  rw [token_eq, behind] at failed
  by_contra starts
  rw [Bool.not_eq_false] at starts
  obtain ⟨token, denotes⟩ := (mem_lexeme_iff _).mp (mem_lexeme_of_startsToken starts)
  have front : [character] <+: character :: tail := List.prefix_append [character] tail
  exact (scans_bareTokens _).absent reason failed _ token denotes front

/-- A text that is not empty is refused with what is left where its tokens end. Where nothing is
left, there are tokens and the text is accepted. -/
theorem tokenize_eq_error {source : String} {reason : LexicalError}
    (failed : Lexer.tokenize source = .error reason) (some : reason ≠ .empty) :
    (rounds Lexer.token source.toList).2 ≠ [] ∧
      reason = .leftover (String.ofList (rounds Lexer.token source.toList).2) := by
  simp only [Lexer.tokenize, zeroOrMore] at failed
  split at failed
  · cases failed
    exact False.elim (some rfl)
  · split at failed
    · cases failed
    · rename_i remains
      cases failed
      exact ⟨by simpa using remains, rfl⟩

/-- A text is refused as empty exactly if it is made of blanks alone. The text without any
characters is one of them. A text that begins with a character of no lexeme has no token either,
but is not empty. -/
theorem tokenize_eq_empty_iff (source : String) :
    Lexer.tokenize source = .error .empty ↔
      ∀ character ∈ source.toList, Text.isBlank character = true := by
  obtain ⟨pieces, splits, found⟩ := rounds_splits source.toList
  cases answer : rounds Lexer.token source.toList with
  | mk tokens rest =>
    rw [answer] at splits found
    constructor
    · intro failed
      simp only [Lexer.tokenize, zeroOrMore, answer] at failed
      split at failed
      · rename_i nothing
        simp only [Bool.and_eq_true, List.isEmpty_iff, List.all_eq_true] at nothing
        have absent : pieces = [] := by simpa [nothing.1] using found
        have whole : source.toList = rest := by simpa [absent] using splits.text
        rw [whole]
        exact nothing.2
      · split at failed <;> cases failed
    · intro blank
      obtain rfl := splits.eq_nil_of_blank blank
      have none : tokens = [] := found.symm
      have whole : source.toList = rest := splits.text
      rw [whole] at blank
      have allBlank : rest.all Text.isBlank = true := List.all_eq_true.mpr blank
      simp [Lexer.tokenize, zeroOrMore, answer, none, allBlank]

/-- What the tokens of a split text are made of is empty, or a text with just these tokens. In
the second case the lexer is run again, on the shorter text. -/
theorem Splits.tokenize_consumed {text rest : List Char} {pieces : List Piece}
    (splits : Splits text pieces rest) :
    (String.ofList (pieces.flatMap Piece.text) = "" ∧ pieces.map Piece.token = []) ∨
      Lexer.tokenize (String.ofList (pieces.flatMap Piece.text)) =
        .ok (pieces.map Piece.token) := by
  by_cases absent : pieces = []
  · subst absent
    exact Or.inl ⟨rfl, rfl⟩
  · have kept := splits.cut
    rw [← String.toList_ofList (l := pieces.flatMap Piece.text)] at kept
    exact Or.inr (tokenize_of_splits absent kept)

/-- Every failure says what is left of the text, and where. That the rest begins with something
else than a token is also why reading has stopped there.

A text of blanks alone is empty. Otherwise something is left, and what stands before it is empty
or has exactly the tokens that have been found; behind its blanks the rest is empty or begins
with a character with which no lexeme begins. The reasons for which single tokens fail are never
given for a text. -/
theorem tokenize_failures_located (source : String) :
    (Lexer.tokenize source = .error .empty ↔
      ∀ character ∈ source.toList, Text.isBlank character = true) ∧
    (∀ reason, Lexer.tokenize source = .error reason → reason ≠ .empty →
      ∃ consumed remaining tokens, reason = .leftover remaining ∧
        source = consumed ++ remaining ∧ remaining ≠ "" ∧
        zeroOrMore Lexer.token source.toList = .ok (tokens, remaining.toList) ∧
        ((consumed = "" ∧ tokens = []) ∨ Lexer.tokenize consumed = .ok tokens) ∧
        ∀ character tail, remaining.toList.dropWhile Text.isBlank = character :: tail →
          startsToken character = false ∧ ∀ others, character :: others ∉ lexeme) ∧
    (∀ failure, Lexer.tokenize source ≠ .error (.combinator failure)) ∧
    ∀ text, Lexer.tokenize source ≠ .error (.notANumber text) := by
  refine ⟨tokenize_eq_empty_iff source, ?_, ?_, ?_⟩
  · intro reason failed other
    obtain ⟨remains, rfl⟩ := tokenize_eq_error failed other
    obtain ⟨pieces, splits, found⟩ := rounds_splits source.toList
    obtain ⟨stuck, stop⟩ := rounds_stop token_advances source.toList
    generalize ended : rounds Lexer.token source.toList = answer at remains splits found stop
    obtain ⟨tokens, rest⟩ := answer
    have consumed := splits.tokenize_consumed
    rw [found] at consumed
    refine ⟨_, String.ofList rest, tokens, rfl, ?_, ?_, ?_, consumed, ?_⟩
    · apply String.toList_injective
      simpa using splits.text
    · simpa using remains
    · simp [zeroOrMore, ended]
    · intro character tail behind
      rw [String.toList_ofList] at behind
      have closed := startsToken_of_token_eq_error stop behind
      refine ⟨closed, ?_⟩
      intro others member
      have starts := startsToken_of_mem_lexeme member
      simp [closed] at starts
  · intro failure failed
    have impossible := (tokenize_eq_error failed (by simp)).2
    simp at impossible
  · intro text failed
    have impossible := (tokenize_eq_error failed (by simp)).2
    simp at impossible

/-- The blanks before the point are left over with it, although the lexer has skipped them in
vain; the two tokens before them stay as they are. -/
theorem point_is_left_over :
    Lexer.tokenize "a.b -2\t .c" = .error (.leftover "\t .c") ∧
      ∃ consumed remaining tokens, LexicalError.leftover "\t .c" = .leftover remaining ∧
        "a.b -2\t .c" = consumed ++ remaining ∧ remaining ≠ "" ∧
        zeroOrMore Lexer.token "a.b -2\t .c".toList = .ok (tokens, remaining.toList) ∧
        ((consumed = "" ∧ tokens = []) ∨ Lexer.tokenize consumed = .ok tokens) ∧
        ∀ character tail, remaining.toList.dropWhile Text.isBlank = character :: tail →
          startsToken character = false ∧ ∀ others, character :: others ∉ lexeme := by
  have failed : Lexer.tokenize "a.b -2\t .c" = .error (.leftover "\t .c") := by decide +kernel
  exact ⟨failed, (tokenize_failures_located _).2.1 _ failed (by simp)⟩

end WindowPlacement.Lexeme
