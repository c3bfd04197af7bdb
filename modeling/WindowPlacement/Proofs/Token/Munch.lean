import WindowPlacement.Proofs.Token.Visible

/-!
# Longest match

A source text is a row of lexemes with blanks between them, and each lexeme is the longest
one in front of the text that is left. The lexer makes the tokens of these lexemes, and it
succeeds exactly where the whole text splits in this way.

A minus sign directly before a digit is never a lexeme of its own, because the number that
begins there is longer.
-/

namespace WindowPlacement.Lexeme

open Computability WindowPlacement.Parser

/-- The word is the longest lexeme in front of the text. There may be shorter lexemes in front
of the same text, and usually there are. -/
structure Longest (text word : List Char) : Prop where
  nonempty : word ≠ []
  front : word <+: text
  member : word ∈ lexeme
  longest : ∀ other ∈ lexeme, other <+: text → other.length ≤ word.length

/-- A lexeme with the blanks before it and the token it stands for. Blanks behind the last word
are part of no piece. -/
structure Piece where
  blanks : List Char
  word : List Char
  token : Token

/-- The part of a text that a piece takes. The word alone is the lexeme. -/
def Piece.text (piece : Piece) : List Char := piece.blanks ++ piece.word

/-- The piece is what the lexer takes first, where the given text stands behind it. The blanks
need not be as many as possible by this condition, but a lexeme has none in front, so they
are. -/
structure Piece.Fits (piece : Piece) (behind : List Char) : Prop where
  blank : ∀ character ∈ piece.blanks, Text.isBlank character = true
  longest : Longest (piece.word ++ behind) piece.word
  denotes : Denotes piece.word piece.token

/-- A text is split into pieces, each the longest match, up to a rest that is left. The rest may
be anything, also a text with further tokens; that nothing is left is stated where it is
needed. -/
inductive Splits : List Char → List Piece → List Char → Prop where
  | done (rest : List Char) : Splits rest [] rest
  | piece {piece : Piece} {others : List Piece} {behind rest : List Char} (fits : piece.Fits behind)
      (splits : Splits behind others rest) : Splits (piece.text ++ behind) (piece :: others) rest

/-- Two longest lexemes in front of one text are the same. Two fronts of a text that are of one
length are the same. -/
theorem Longest.unique {text first second : List Char} (longest : Longest text first)
    (other : Longest text second) : first = second := by
  have short := longest.longest second other.member other.front
  have long := other.longest first longest.member longest.front
  exact (List.prefix_of_prefix_length_le longest.front other.front long).eq_of_length
    (Nat.le_antisymm long short)

/-- The first word that a scanner of lexemes takes is the longest lexeme. The order of the
alternatives is gone from this description. -/
theorem bareTokens_eq_ok_iff (input rest : List Char) (token : Token) :
    firstOf bareTokens input = .ok (token, rest) ↔
      ∃ word, input = word ++ rest ∧ Longest input word ∧ Denotes word token := by
  have taken {output : Token} {last : List Char}
      (parsed : firstOf bareTokens input = .ok (output, last)) :
      ∃ word, input = word ++ last ∧ Longest input word ∧ Denotes word output := by
    obtain ⟨word, split, denotes, bound⟩ := (scans_bareTokens input).longest output last parsed
    refine ⟨word, split, ⟨?_, ?_, ?_, ?_⟩, denotes⟩
    · exact List.ne_nil_of_length_pos denotes.length_pos
    · exact split ▸ List.prefix_append word last
    · exact (mem_lexeme_iff word).mpr ⟨output, denotes⟩
    · intro other member front
      obtain ⟨found, spells⟩ := (mem_lexeme_iff other).mp member
      exact bound other found spells front
  constructor
  · exact taken
  · rintro ⟨word, split, longest, denotes⟩
    obtain ⟨output, last, parsed⟩ := (scans_bareTokens input).succeeds denotes longest.front
    obtain ⟨other, otherSplit, otherLongest, otherDenotes⟩ := taken parsed
    obtain rfl := longest.unique otherLongest
    have sameRest : rest = last := List.append_cancel_left (split.symm.trans otherSplit)
    rw [parsed, denotes.unique otherDenotes, sameRest]

/-- Blanks are skipped in front of every alternative alike. Each alternative skips them again,
because a choice gives back what has been read. -/
theorem firstOf_afterBlanks (parsers : List (Lexer.CharParser Token)) (input : List Char) :
    firstOf (parsers.map Lexer.afterBlanks) input =
      firstOf parsers (input.dropWhile Text.isBlank) := by
  have skipped (parser : Lexer.CharParser Token) :
      Lexer.afterBlanks parser input = parser (input.dropWhile Text.isBlank) := by
    simp only [Lexer.afterBlanks, Parser.bind, zeroOrMore, Lexer.charWhere, rounds_satisfy]
  induction parsers with
  | nil => rfl
  | cons parser others inductionHypothesis =>
    simp only [List.map_cons, firstOf, skipped, inductionHypothesis]

/-- A token is what stands behind the blanks. The blanks are skipped first in this form, and
only once. -/
theorem token_eq (input : List Char) :
    Lexer.token input = firstOf bareTokens (input.dropWhile Text.isBlank) :=
  firstOf_afterBlanks bareTokens input

/-- The blanks before a lexeme are skipped, and nothing of the lexeme is. This is because no
lexeme begins with a blank. -/
theorem dropWhile_blanks {blanks word : List Char} (rest : List Char)
    (blank : ∀ character ∈ blanks, Text.isBlank character = true) (member : word ∈ lexeme) :
    (blanks ++ word ++ rest).dropWhile Text.isBlank = word ++ rest := by
  obtain ⟨token, denotes⟩ := (mem_lexeme_iff word).mp member
  obtain ⟨first, tail, rfl⟩ := List.exists_cons_of_length_pos denotes.length_pos
  have shown := isBlank_of_mem_lexeme member first List.mem_cons_self
  rw [List.append_assoc, List.dropWhile_append_of_pos blank]
  exact List.dropWhile_cons_of_neg (by simp [shown])

/-- A token is read exactly where a piece fits. The piece is determined by the input. -/
theorem token_eq_ok_iff (input rest : List Char) (token : Token) :
    Lexer.token input = .ok (token, rest) ↔
      ∃ piece : Piece, input = piece.text ++ rest ∧ piece.Fits rest ∧ piece.token = token := by
  rw [token_eq, bareTokens_eq_ok_iff]
  constructor
  · rintro ⟨word, split, longest, denotes⟩
    rw [split] at longest
    refine ⟨⟨input.takeWhile Text.isBlank, word, token⟩, ?_, ⟨?_, longest, denotes⟩, rfl⟩
    · rw [Piece.text, List.append_assoc, ← split, List.takeWhile_append_dropWhile]
    · exact List.all_eq_true.mp List.all_takeWhile
  · rintro ⟨⟨blanks, word, _⟩, rfl, ⟨blank, longest, denotes⟩, rfl⟩
    rw [Piece.text, dropWhile_blanks rest blank longest.member]
    exact ⟨word, rfl, longest, denotes⟩

/-! ## Rows of tokens -/

/-- The pieces of a split text and its rest are the whole text. No character is lost or read
twice. -/
theorem Splits.text {text rest : List Char} {pieces : List Piece}
    (splits : Splits text pieces rest) : text = pieces.flatMap Piece.text ++ rest := by
  induction splits with
  | done rest => rfl
  | piece fits _ inductionHypothesis =>
    rw [List.flatMap_cons, List.append_assoc, ← inductionHypothesis]

/-- Every piece of a split text fits in front of what stands behind it. The pieces in front of
it have no influence on whether it does. -/
theorem Splits.fits {text rest : List Char} {before after : List Piece} {piece : Piece}
    (splits : Splits text (before ++ piece :: after) rest) :
    piece.Fits (after.flatMap Piece.text ++ rest) := by
  induction before generalizing text with
  | nil =>
    cases splits with
    | piece fits others => exact others.text ▸ fits
  | cons first others inductionHypothesis =>
    cases splits with
    | piece _ later => exact inductionHypothesis later

/-- The text of a piece is not empty. Its word has at least one character. -/
theorem Piece.Fits.length_pos {piece : Piece} {behind : List Char} (fits : piece.Fits behind) :
    0 < piece.text.length := by
  rw [Piece.text, List.length_append]
  exact Nat.add_pos_right _ fits.denotes.length_pos

/-- Reading tokens for as long as there are any splits the text. The rest is what the next token
cannot be read from.

Proof: induction on the rounds. A round that succeeds takes the piece that fits. -/
theorem rounds_splits (text : List Char) :
    ∃ pieces, Splits text pieces (rounds Lexer.token text).2 ∧
      pieces.map Piece.token = (rounds Lexer.token text).1 := by
  generalize size : text.length = count
  induction count using Nat.strongRecOn generalizing text with
  | ind count inductionHypothesis =>
    subst size
    rw [rounds]
    cases parsed : Lexer.token text with
    | error reason => exact ⟨[], .done text, rfl⟩
    | ok answer =>
      obtain ⟨token, behind⟩ := answer
      obtain ⟨piece, rfl, fits, rfl⟩ := (token_eq_ok_iff text behind token).mp parsed
      have shorter : behind.length < (piece.text ++ behind).length := by
        rw [List.length_append]
        exact Nat.lt_add_of_pos_left fits.length_pos
      obtain ⟨others, splits, tokens⟩ := inductionHypothesis behind.length shorter behind rfl
      refine ⟨piece :: others, ?_, ?_⟩
      · simp only [if_pos shorter]
        exact .piece fits splits
      · simp only [if_pos shorter, List.map_cons, tokens]

/-- The rounds go on through every split of the text. The rest may have further tokens, which
the rounds then find.

Proof: induction on the split. The piece in front is what the next round takes. -/
theorem Splits.rounds {text rest : List Char} {pieces : List Piece}
    (splits : Splits text pieces rest) :
    Parser.rounds Lexer.token text =
      (pieces.map Piece.token ++ (Parser.rounds Lexer.token rest).1,
        (Parser.rounds Lexer.token rest).2) := by
  induction splits with
  | done rest => rfl
  | @piece piece others behind rest fits _ inductionHypothesis =>
    have parsed := (token_eq_ok_iff _ behind piece.token).mpr ⟨piece, rfl, fits, rfl⟩
    have shorter : behind.length < (piece.text ++ behind).length := by
      rw [List.length_append]
      exact Nat.lt_add_of_pos_left fits.length_pos
    rw [Parser.rounds, parsed]
    simp only [if_pos shorter, inductionHypothesis, List.map_cons, List.cons_append]

/-- A source text is accepted exactly if its rounds yield tokens and leave nothing. Both
conditions are checked by the lexer after the rounds. -/
theorem tokenize_eq_ok_iff_rounds (source : String) (tokens : List Token) :
    Lexer.tokenize source = .ok tokens ↔
      tokens ≠ [] ∧ rounds Lexer.token source.toList = (tokens, []) := by
  cases answer : rounds Lexer.token source.toList with
  | mk outputs rest =>
    simp only [Lexer.tokenize, zeroOrMore, answer]
    cases rest with
    | nil =>
      cases outputs with
      | nil => simp
      | cons first others =>
        constructor
        · intro accepted
          cases accepted
          exact ⟨List.cons_ne_nil first others, rfl⟩
        · rintro ⟨_, finished⟩
          cases finished
          rfl
    | cons character tail => split <;> simp

/-- The lexer makes the tokens of the pieces into which the text splits. It is the direction of
the main result in which the split is given. -/
theorem tokenize_of_splits {source : String} {pieces : List Piece} (some : pieces ≠ [])
    (splits : Splits source.toList pieces []) :
    Lexer.tokenize source = .ok (pieces.map Piece.token) := by
  refine (tokenize_eq_ok_iff_rounds source _).mpr ⟨by simpa using some, ?_⟩
  have stuck : rounds Lexer.token [] = ([], []) := by
    rw [rounds]
    split
    · rfl
    · simp
  rw [splits.rounds, stuck, List.append_nil]

/-- A text that the lexer accepts splits into pieces with its tokens. The pieces are found in
the order of the tokens. -/
theorem splits_of_tokenize {source : String} {tokens : List Token}
    (accepted : Lexer.tokenize source = .ok tokens) :
    tokens ≠ [] ∧ ∃ pieces, Splits source.toList pieces [] ∧ pieces.map Piece.token = tokens := by
  obtain ⟨some, finished⟩ := (tokenize_eq_ok_iff_rounds source tokens).mp accepted
  obtain ⟨pieces, splits, same⟩ := rounds_splits source.toList
  rw [finished] at splits same
  exact ⟨some, pieces, splits, same⟩

/-- A whole number is a number: the fraction and the exponent may be missing. It is the shortest
of the four shapes. -/
theorem mem_number_of_mem_integer {word : List Char} (member : word ∈ integer) :
    word ∈ number := by
  have nothing : [] ∈ (1 + fraction) * (1 + exponent) :=
    Language.mem_mul.mpr ⟨[], Or.inl rfl, [], Or.inl rfl, rfl⟩
  have whole : word ++ [] ∈ number := Language.append_mem_mul member nothing
  rw [List.append_nil] at whole
  exact whole

/-- One digit is a whole number, with any sign. Zero is no exception, as nothing follows it. -/
theorem sign_digit_mem_integer {sign : List Char} {digit : Char}
    (signed : sign ∈ (1 + only '-' : Language Char)) (isDigit : Decimal.isDigit digit = true) :
    sign ++ [digit] ∈ integer := by
  have whole : [digit] ∈ (only '0' + between '1' '9' * Lexeme.digit∗ : Language Char) := by
    by_cases zero : digit = '0'
    · exact Or.inl ⟨digit, decide_eq_true zero, rfl⟩
    · refine Or.inr ?_
      rw [leadingDigit_eq]
      refine (mem_single_mul _ _ _).mpr ⟨digit, [], ?_, Language.nil_mem_kstar _, rfl⟩
      exact Bool.and_eq_true_iff.mpr ⟨isDigit, decide_eq_true zero⟩
  exact Language.append_mem_mul signed whole

/-- A digit is a number. So every digit begins a lexeme. -/
theorem digit_mem_number {digit : Char} (isDigit : Decimal.isDigit digit = true) :
    [digit] ∈ number :=
  mem_number_of_mem_integer (sign_digit_mem_integer (Or.inl rfl) isDigit)

/-- A minus sign before a digit begins a number. The lexeme may go on behind the digit. -/
theorem minus_digit_mem_number {digit : Char} (isDigit : Decimal.isDigit digit = true) :
    ['-', digit] ∈ number :=
  mem_number_of_mem_integer (sign_digit_mem_integer (Or.inr ⟨'-', rfl, rfl⟩) isDigit)

/-- Where the minus sign is a token of its own, no digit stands directly behind it. Behind a
blank a digit may follow, for then the blank is in between. -/
theorem Piece.Fits.minus_apart {piece : Piece} {digit : Char} {tail : List Char}
    (fits : piece.Fits (digit :: tail)) (isDigit : Decimal.isDigit digit = true) :
    piece.token ≠ .operator .subtract := by
  intro minus
  obtain ⟨_, longest, denotes⟩ := fits
  rw [minus] at denotes
  cases shape : piece.word with
  | nil => exact longest.nonempty shape
  | cons character others =>
    rw [shape] at longest denotes
    cases denotes with
    | mark listed =>
      obtain rfl : character = '-' := by simpa [marks] using listed
      have longer : ['-', digit] ∈ lexeme := Or.inl (Or.inr (minus_digit_mem_number isDigit))
      exact Nat.not_succ_le_self 1 (longest.longest _ longer (List.prefix_append ['-', digit] tail))

/-- The lexer makes exactly the tokens of the longest lexemes. So `a -1` has the two tokens of a
name and a number, and is no difference.

A text is accepted with some tokens if and only if there is at least one and the text splits
without a rest into pieces: a run of blanks, which may be empty, and then the longest lexeme in
front of what is left, which stands for the token. In no split text is a minus sign with a digit
directly behind it a token. -/
theorem tokenize_eq_ok_iff_splits (source : String) (tokens : List Token) :
    (Lexer.tokenize source = .ok tokens ↔ tokens ≠ [] ∧
      ∃ pieces, Splits source.toList pieces [] ∧ pieces.map Piece.token = tokens) ∧
    ∀ before piece after digit tail, Splits source.toList (before ++ piece :: after) [] →
      after.flatMap Piece.text = digit :: tail → Decimal.isDigit digit = true →
      piece.token ≠ .operator .subtract := by
  refine ⟨⟨splits_of_tokenize, ?_⟩, ?_⟩
  · rintro ⟨some, pieces, splits, rfl⟩
    exact tokenize_of_splits (by simpa using some) splits
  · intro before piece after digit tail splits behind isDigit
    have fits := splits.fits
    rw [behind, List.append_nil] at fits
    exact fits.minus_apart isDigit

end WindowPlacement.Lexeme
