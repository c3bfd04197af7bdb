import WindowPlacement.Document
import WindowPlacement.Document.Reader

/-!
# Quoted texts are read back

Whatever characters a text holds, reading it after it was quoted yields the same characters
and stops behind the closing quote. A character is written as itself, as one of the short
escapes, or by its code; each of these is read back whatever follows it.
-/

namespace WindowPlacement.Document

/-- The two digits of a character below the space in base sixteen. Two zeros stand in front of
them where the code is written. -/
def controlDigits (character : Char) : List Char :=
  [(character.toNat / 16).digitChar, (character.toNat % 16).digitChar]

/-- A character is written by a short escape, or by its code if it is a control below the space,
or as itself if it is neither a quote nor a backslash nor such a control. What is beyond ASCII
is never escaped. -/
theorem escaped_cases (character : Char) :
    (∃ letter, escaped character = ['\\', letter] ∧ letter ≠ 'u' ∧
      shortEscape? letter = some character) ∨
    (character.toNat < 0x20 ∧
      escaped character = ['\\', 'u', '0', '0'] ++ controlDigits character) ∨
    (character ≠ '"' ∧ character ≠ '\\' ∧ 0x20 ≤ character.toNat ∧
      escaped character = [character]) := by
  unfold escaped
  split
  case h_8 notQuote notBackslash _ _ _ _ _ =>
    split
    · rename_i small
      refine Or.inr (Or.inl ⟨by omega, ?_⟩)
      have high : character.toNat / 16 = 0 := by omega
      have low : character.toNat % 16 = character.toNat := by omega
      rw [Text.hexadecimal, Nat.toDigits_of_lt_base small, controlDigits, high, low]
      rfl
    · split
      · rename_i large small
        refine Or.inr (Or.inl ⟨small, ?_⟩)
        have high : character.toNat / 16 < 16 := by omega
        rw [Text.hexadecimal, Nat.toDigits_of_base_le (by decide) (by omega),
          Nat.toDigits_of_lt_base high, controlDigits]
        rfl
      · rename_i large
        exact Or.inr (Or.inr ⟨notQuote, notBackslash, by omega, rfl⟩)
  all_goals exact Or.inl ⟨_, rfl, by decide, rfl⟩

/-- A digit in base sixteen counts what it stands for. Letters are written small, and read in
either case. -/
theorem hexadecimalValue?_digitChar {digit : Nat} (small : digit < 16) :
    hexadecimalValue? digit.digitChar = some digit := by
  revert digit
  decide

/-- The code of a control below the space is read back. Such a code never is one half of a pair,
so that one escape is enough. -/
theorem codeEscape_control {character : Char} (rest : List Char)
    (control : character.toNat < 0x20) :
    codeEscape (['0', '0'] ++ controlDigits character ++ rest) = .ok (character, rest) := by
  have zero : hexadecimalValue? '0' = some 0 := rfl
  have high := hexadecimalValue?_digitChar (show character.toNat / 16 < 16 by omega)
  have low := hexadecimalValue?_digitChar (show character.toNat % 16 < 16 by omega)
  have code : ((0 * 16 + 0) * 16 + character.toNat / 16) * 16 + character.toNat % 16 =
      character.toNat := by omega
  have notTrailing : isTrailing character.toNat = false := by
    simp only [isTrailing, Bool.and_eq_false_iff, decide_eq_false_iff_not]
    omega
  have notLeading : isLeading character.toNat = false := by
    simp only [isLeading, Bool.and_eq_false_iff, decide_eq_false_iff_not]
    omega
  simp only [codeEscape, controlDigits, List.cons_append, List.nil_append, fourDigits, zero, high,
    low, code, notTrailing, notLeading, Bool.false_eq_true, if_false, Char.ofNat_toNat]

/-- A character in front of a text is read back, and what follows it is read as before. -/
theorem characters_escaped (character : Char) {rest others last : List Char}
    (read : characters rest = .ok (others, last)) :
    characters (escaped character ++ rest) = .ok (character :: others, last) := by
  have introduced (letters : List Char)
      (escapes : escape (letters ++ rest) = .ok (character, rest)) :
      characters ('\\' :: letters ++ rest) = .ok (character :: others, last) := by
    rw [List.cons_append, characters]
    simp only [Char.reduceEq, if_false, if_true]
    split
    · rename_i problem refused
      rw [escapes] at refused
      cases refused
    · rename_i other later accepted
      rw [escapes] at accepted
      cases accepted
      rw [read]
  rcases escaped_cases character with ⟨letter, written, notCode, short⟩ | ⟨control, written⟩ |
    ⟨notQuote, notBackslash, visible, written⟩
  · rw [written]
    refine introduced [letter] ?_
    simp only [List.cons_append, List.nil_append, escape, notCode, if_false, short]
  · rw [written]
    refine introduced (['u', '0', '0'] ++ controlDigits character) ?_
    have coded := codeEscape_control rest control
    simpa only [escape, List.cons_append, List.nil_append, if_true] using coded
  · have notControl : ¬ character.toNat < 0x20 := by omega
    rw [written, List.cons_append, List.nil_append, characters]
    simp only [notQuote, notBackslash, notControl, if_false, read]

/-- A quoted text is read back up to its closing quote.

Proof: induction on the text. Reading a character leaves what follows it as it was. -/
theorem characters_quoted (text rest : List Char) :
    characters (text.flatMap escaped ++ '"' :: rest) = .ok (text, rest) := by
  induction text with
  | nil =>
    rw [List.flatMap_nil, List.nil_append, characters]
    simp only [if_true]
  | cons character others inductionHypothesis =>
    rw [List.flatMap_cons, List.append_assoc]
    exact characters_escaped character inductionHypothesis

/-- A quoted text as characters. The quotes at both ends are the only ones that are not
escaped. -/
theorem toList_quoted (text : String) :
    (quoted text).toList = '"' :: (text.toList.flatMap escaped ++ ['"']) := by
  rw [quoted, String.toList_ofList, List.cons_append]

/-- The rest of a quoted text, of which the first quote has been read, is the text. What stands
behind the closing quote is left over, whatever it is. -/
theorem restOfText_quoted (text : String) (rest : List Char) :
    Reader.restOfText (text.toList.flatMap escaped ++ '"' :: rest) = .ok (text, rest) := by
  rw [Reader.restOfText, characters_quoted]
  simp only [Except.map, String.ofList_toList]

/-- A quote, a backslash and a control are all escaped, and all read back. -/
example : (quoted "\"\\\x1b").toList = "\"\\\"\\\\\\u001b\"".toList := by decide

end WindowPlacement.Document
