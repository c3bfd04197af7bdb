import WindowPlacement.Proofs.Token.Munch

/-!
# Laying out words

Words are laid out with blanks between them, and possibly before the first one. No lexeme
has a blank in it, so none reaches over the end of a word that a blank or the end of the
text follows. Whatever the words are and however wide the gaps, the lexer finds the same
words again.
-/

namespace WindowPlacement.Lexeme

/-- Words, each with at least one blank before it. The gaps may be of different widths and of
different blanks. -/
inductive Spaced : List (List Char) → List Char → Prop where
  | nil : Spaced [] []
  | cons {gap word text : List Char} {words : List (List Char)} (some : gap ≠ [])
      (blank : ∀ character ∈ gap, Text.isBlank character = true) (others : Spaced words text) :
      Spaced (word :: words) (gap ++ word ++ text)

/-- Words with at least one blank between every two of them and any number of blanks before the
first one. Nothing stands behind the last one. At least one word is laid out, because a text
without words is no expression. -/
inductive LaidOut : List (List Char) → List Char → Prop where
  | first {margin word text : List Char} {words : List (List Char)}
      (blank : ∀ character ∈ margin, Text.isBlank character = true) (others : Spaced words text) :
      LaidOut (word :: words) (margin ++ word ++ text)

/-- What follows a word begins with a blank, if there is anything. No word begins directly
behind the one before it. -/
theorem Spaced.head_blank {words : List (List Char)} {text tail : List Char} {character : Char}
    (spaced : Spaced words text) (same : text = character :: tail) :
    Text.isBlank character = true := by
  cases spaced with
  | nil => cases same
  | @cons gap word text words some blank others =>
    obtain ⟨first, further, rfl⟩ := List.exists_cons_of_ne_nil some
    rw [List.cons_append, List.cons_append, List.cons.injEq] at same
    exact same.1 ▸ blank first List.mem_cons_self

/-- A longest lexeme stays the longest one if the text is continued with a blank. The blanks and
what follows them may be any text. -/
theorem Longest.before_blank {text word behind : List Char} (longest : Longest text word)
    (ends : ∀ character tail, behind = character :: tail → Text.isBlank character = true) :
    Longest (text ++ behind) word where
  nonempty := longest.nonempty
  front := longest.front.trans (List.prefix_append text behind)
  member := longest.member
  longest := by
    intro other inLexeme front
    rcases Nat.le_total other.length text.length with inside | longer
    · exact longest.longest other inLexeme
        (List.prefix_of_prefix_length_le front (List.prefix_append text behind) inside)
    · obtain ⟨surplus, rfl⟩ :=
        List.prefix_of_prefix_length_le (List.prefix_append text behind) front longer
      cases surplus with
      | nil =>
        rw [List.append_nil] at inLexeme ⊢
        exact longest.longest text inLexeme List.prefix_rfl
      | cons character further =>
        obtain ⟨rest, same⟩ := (List.prefix_append_right_inj text).mp front
        have blank := ends character _ same.symm
        rw [isBlank_of_mem_lexeme inLexeme character (by simp)] at blank
        cases blank

/-- A lexeme is the longest one in front of itself and a blank. A longer lexeme would have the
blank in it. -/
theorem longest_of_blank {word behind : List Char} (member : word ∈ lexeme)
    (ends : ∀ character tail, behind = character :: tail → Text.isBlank character = true) :
    Longest (word ++ behind) word := by
  obtain ⟨token, denotes⟩ := (mem_lexeme_iff word).mp member
  have alone : Longest word word :=
    ⟨List.ne_nil_of_length_pos denotes.length_pos, List.prefix_rfl, member,
      fun _ _ front => front.length_le⟩
  exact alone.before_blank ends

/-- A word with blanks before it fits in front of further words. The blanks belong to the word
behind them, as they do in the lexer. -/
theorem fits_of_spaced {gap word text : List Char} {words : List (List Char)} {token : Token}
    (blank : ∀ character ∈ gap, Text.isBlank character = true) (denotes : Denotes word token)
    (others : Spaced words text) : Piece.Fits ⟨gap, word, token⟩ text where
  blank := blank
  longest := longest_of_blank ((mem_lexeme_iff word).mpr ⟨token, denotes⟩)
    fun _ _ same => others.head_blank same
  denotes := denotes

/-- Words behind blanks are split into what they stand for. There are as many pieces as words,
in the same order. -/
theorem splits_of_spaced {words : List (List Char)} {text : List Char} {tokens : List Token}
    (spaced : Spaced words text) (denote : List.Forall₂ Denotes words tokens) :
    ∃ pieces, Splits text pieces [] ∧ pieces.map Piece.token = tokens := by
  induction spaced generalizing tokens with
  | nil =>
    cases denote
    exact ⟨[], .done [], rfl⟩
  | cons some blank others inductionHypothesis =>
    cases denote with
    | cons denotes further =>
      obtain ⟨pieces, splits, rfl⟩ := inductionHypothesis further
      exact ⟨_ :: pieces, .piece (fits_of_spaced blank denotes others) splits, rfl⟩

/-- A text in which lexemes are laid out is split into the tokens they stand for. Where the
language would let two words touch, the gap between them is still asked for here. -/
theorem tokenize_of_laidOut {words : List (List Char)} {source : String} {tokens : List Token}
    (laidOut : LaidOut words source.toList) (denote : List.Forall₂ Denotes words tokens) :
    Lexer.tokenize source = .ok tokens := by
  generalize sameText : source.toList = text at laidOut
  cases laidOut with
  | first blank others =>
    cases denote with
    | cons denotes further =>
      obtain ⟨pieces, splits, rfl⟩ := splits_of_spaced others further
      have whole := Splits.piece (fits_of_spaced blank denotes others) splits
      rw [Piece.text, ← sameText] at whole
      exact tokenize_of_splits (List.cons_ne_nil _ _) whole

end WindowPlacement.Lexeme
