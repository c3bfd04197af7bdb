import WindowPlacement.Proofs.Token.Literal
import WindowPlacement.Proofs.Token.Name

/-!
# Lexemes

The words of the language fall into three classes: six marks of one character, numbers
and names. Every lexeme stands for exactly one token.

The lexer tries the parentheses, a number, a name and then the marks of the operators. The
classes begin with different characters, but for the minus sign, which is a mark and also
the first character of some numbers. There the number is tried first, so the first class
that matches gives the longest lexeme.
-/

namespace WindowPlacement.Lexeme

open Computability WindowPlacement.Parser

/-- The marks of one character and the tokens they stand for. The parentheses come first, since
the lexer tries them before numbers and names. -/
def marks : List (Char × Token) :=
  [('(', .leftParen), (')', .rightParen), ('+', .operator .add), ('-', .operator .subtract),
    ('*', .operator .multiply), ('/', .operator .divide)]

/-- The six marks. Each is a word of its own, and no mark has two characters. -/
def punctuation : Language Char :=
  only '(' + only ')' + only '+' + only '-' + only '*' + only '/'

/-- The words of any class. The three classes have no word in common. -/
def lexeme : Language Char := punctuation + number + name

/-- The token that a lexeme stands for. The number is the double nearest to its text. A name
stands for itself, and a mark for what is listed. -/
inductive Denotes : List Char → Token → Prop where
  | mark {character : Char} {token : Token} (listed : (character, token) ∈ marks) :
      Denotes [character] token
  | number {word : List Char} {value : Float} (member : word ∈ number)
      (read : Decimal.read word = .ok value) : Denotes word (.number value)
  | name {word : List Char} (member : word ∈ name) : Denotes word (.name (String.ofList word))

/-- The marks are the words of one listed character. The list and the language are two ways to
give the same six characters. -/
theorem mem_punctuation (word : List Char) :
    word ∈ punctuation ↔ ∃ mark ∈ marks, word = [mark.1] := by
  simp only [punctuation, Language.mem_add, only, mem_single, decide_eq_true_eq, exists_eq_left,
    marks, List.mem_cons, List.not_mem_nil, or_false, exists_eq_or_imp, or_assoc]

/-- The lexemes are the words that stand for a token. Which token it is follows from the word by
`Denotes.unique`. -/
theorem mem_lexeme_iff (word : List Char) : word ∈ lexeme ↔ ∃ token, Denotes word token := by
  rw [lexeme, Language.mem_add, Language.mem_add, mem_punctuation]
  constructor
  · rintro ((⟨mark, listed, rfl⟩ | member) | member)
    · exact ⟨mark.2, .mark listed⟩
    · obtain ⟨value, read⟩ := read_number member
      exact ⟨.number value, .number member read⟩
    · exact ⟨.name (String.ofList word), .name member⟩
  · rintro ⟨token, listed | ⟨member, _⟩ | member⟩
    · exact Or.inl (Or.inl ⟨_, listed, rfl⟩)
    · exact Or.inl (Or.inr member)
    · exact Or.inr member

/-! ## First characters -/

/-- A number begins with a digit or with a minus sign and a digit. What follows the digit is not
said here. -/
theorem number_cases {word : List Char} (member : word ∈ number) :
    ∃ first tail, Decimal.isDigit first = true ∧
      (word = first :: tail ∨ word = '-' :: first :: tail) := by
  obtain ⟨whole, inInteger, behind, _, rfl⟩ := Language.mem_mul.mp member
  obtain ⟨digits, nonempty, all, shape⟩ := integer_cases inInteger
  obtain ⟨first, tail, rfl⟩ := List.exists_cons_of_ne_nil nonempty
  refine ⟨first, tail ++ behind, all first List.mem_cons_self, ?_⟩
  rcases shape with rfl | rfl
  · exact Or.inl rfl
  · exact Or.inr rfl

/-- No mark is a digit or a letter. The minus sign is no exception: the numbers that begin with
it go on with a digit. -/
theorem marks_apart : ∀ mark ∈ marks,
    Decimal.isDigit mark.1 = false ∧ Lexer.isNameStart mark.1 = false := by
  simp only [marks, List.forall_mem_cons, List.not_mem_nil, false_implies, implies_true]
  decide

/-- No mark stands for two tokens. Nor is a mark listed twice. -/
theorem marks_functional : ∀ mark ∈ marks, ∀ other ∈ marks, mark.1 = other.1 → mark = other := by
  simp [marks]

/-- No digit is a letter. So a name and a number are told apart by their first character. -/
theorem isNameStart_of_isDigit {character : Char} (digit : Decimal.isDigit character = true) :
    Lexer.isNameStart character = false := by
  rw [← Bool.not_eq_true]
  intro letter
  simp only [Decimal.isDigit, Bool.and_eq_true, decide_eq_true_eq, Char.le_def,
    UInt32.le_iff_toNat_le] at digit
  simp only [isNameStart_eq, Bool.or_eq_true, Bool.and_eq_true, decide_eq_true_eq, Char.le_def,
    UInt32.le_iff_toNat_le, ← Char.toNat_inj, ← Char.toNat_val] at letter
  have nine : '9'.val.toNat = 57 := rfl
  have capital : 'A'.val.toNat = 65 := rfl
  have small : 'a'.val.toNat = 97 := rfl
  have underscore : '_'.val.toNat = 95 := rfl
  omega

/-- The listed marks are no numbers. This includes the minus sign, which is no number without a
digit. -/
theorem mark_notMem_number {character : Char} {token : Token}
    (listed : (character, token) ∈ marks) :
    [character] ∉ number := by
  intro member
  obtain ⟨first, tail, digit, same | same⟩ := number_cases member
  · obtain rfl := (List.cons.inj same).1
    rw [(marks_apart _ listed).1] at digit
    cases digit
  · cases (List.cons.inj same).2

/-- The listed marks are no names. No name begins with a mark, not even with a point. -/
theorem mark_notMem_name {character : Char} {token : Token}
    (listed : (character, token) ∈ marks) :
    [character] ∉ name := by
  intro member
  obtain ⟨first, tail, same, letter⟩ := name_head member
  obtain rfl := (List.cons.inj same).1
  rw [(marks_apart _ listed).2] at letter
  cases letter

/-- No number and no name stand in front of one text. They would have a first character in
common. -/
theorem number_name_apart {first second input : List Char} (inNumber : first ∈ number)
    (inName : second ∈ name) (front : first <+: input) (otherFront : second <+: input) : False := by
  obtain ⟨digit, tail, isDigit, shape⟩ := number_cases inNumber
  obtain ⟨letter, others, rfl, isLetter⟩ := name_head inName
  obtain ⟨rest, rfl⟩ := otherFront
  rcases shape with rfl | rfl
  · obtain ⟨rfl, _⟩ := List.cons_prefix_cons.mp front
    rw [isNameStart_of_isDigit isDigit] at isLetter
    cases isLetter
  · obtain ⟨rfl, _⟩ := List.cons_prefix_cons.mp front
    exact absurd isLetter (by decide)

/-- A lexeme stands for one token only. It is this that makes a tokenized text have one row of
tokens. -/
theorem Denotes.unique {word : List Char} {first second : Token} (denotes : Denotes word first)
    (again : Denotes word second) : first = second := by
  cases denotes with
  | mark listed =>
    cases again with
    | mark other => exact congrArg Prod.snd (marks_functional _ listed _ other rfl)
    | number member => exact False.elim (mark_notMem_number listed member)
    | name member => exact False.elim (mark_notMem_name listed member)
  | number member read =>
    cases again with
    | mark listed => exact False.elim (mark_notMem_number listed member)
    | number _ other => exact congrArg Token.number (Except.ok.inj (read.symm.trans other))
    | name other =>
      exact False.elim (number_name_apart member other (List.prefix_refl _) (List.prefix_refl _))
  | name member =>
    cases again with
    | mark listed => exact False.elim (mark_notMem_name listed member)
    | number other =>
      exact False.elim (number_name_apart other member (List.prefix_refl _) (List.prefix_refl _))
    | name => rfl

/-- A lexeme is not empty. So each piece of a split takes something from the text. -/
theorem Denotes.length_pos {word : List Char} {token : Token} (denotes : Denotes word token) :
    0 < word.length := by
  cases denotes with
  | mark => exact Nat.zero_lt_one
  | number member =>
    obtain ⟨first, tail, _, rfl | rfl⟩ := number_cases member
    · exact Nat.zero_lt_succ _
    · exact Nat.zero_lt_succ _
  | name member =>
    obtain ⟨first, tail, rfl, _⟩ := name_head member
    exact Nat.zero_lt_succ _

/-- No number and no mark other than the minus sign stand in front of one text. Again the first
characters differ. -/
theorem mark_number_apart {wanted : Char} {token : Token} {word input : List Char}
    (listed : (wanted, token) ∈ marks) (notMinus : wanted ≠ '-') (member : word ∈ number)
    (front : [wanted] <+: input) (otherFront : word <+: input) : False := by
  obtain ⟨rest, rfl⟩ := front
  obtain ⟨first, tail, digit, rfl | rfl⟩ := number_cases member
  · obtain ⟨rfl, _⟩ := List.cons_prefix_cons.mp otherFront
    rw [(marks_apart _ listed).1] at digit
    cases digit
  · exact notMinus (List.cons_prefix_cons.mp otherFront).1.symm

/-- A mark other than the minus sign is the only lexeme in front of its text. For the minus sign
it is false in front of a digit. -/
theorem mark_prefers {wanted : Char} {token found : Token} {other input : List Char}
    (listed : (wanted, token) ∈ marks) (notMinus : wanted ≠ '-') (denotes : Denotes other found)
    (front : [wanted] <+: input) (otherFront : other <+: input) : other.length ≤ 1 := by
  cases denotes with
  | mark => exact Nat.le_refl 1
  | number member =>
    exact False.elim (mark_number_apart listed notMinus member front otherFront)
  | name member =>
    obtain ⟨rest, rfl⟩ := front
    obtain ⟨first, tail, rfl, letter⟩ := name_head member
    obtain ⟨rfl, _⟩ := List.cons_prefix_cons.mp otherFront
    rw [(marks_apart _ listed).2] at letter
    cases letter

/-! ## Scanning -/

/-- A mark is read exactly where it stands in front. The token is the one that the mark is
given. -/
theorem mark_eq_ok_iff (wanted : Char) (token output : Token) (input rest : List Char) :
    Lexer.mark wanted token input = .ok (output, rest) ↔
      input = wanted :: rest ∧ output = token := by
  rw [Lexer.mark, bind_eq_ok_iff]
  constructor
  · rintro ⟨character, middle, continuation, began, chosen, ended⟩
    cases chosen
    obtain ⟨front, same⟩ := (satisfy_eq_ok_iff _ _ _ _ _).mp began
    obtain rfl := (consume_eq_ok_iff _ _ _).mp front
    obtain rfl := of_decide_eq_true same
    obtain ⟨rfl, rfl⟩ := (result_eq_ok_iff _ _ _ _).mp ended
    exact ⟨rfl, rfl⟩
  · rintro ⟨rfl, rfl⟩
    refine ⟨wanted, rest, result output, ?_, rfl, rfl⟩
    exact (satisfy_eq_ok_iff (consume : Lexer.CharParser Char) (· = wanted) _ _ _).mpr
      ⟨(consume_eq_ok_iff _ _ _).mpr rfl, decide_eq_true rfl⟩

/-- The lexer scans marks. It spells one word only, with one token. -/
theorem scans_mark (wanted : Char) (token : Token) (input : List Char) :
    Scans (Lexer.mark wanted token) (fun word output => word = [wanted] ∧ output = token)
      input where
  longest := by
    intro output rest parsed
    obtain ⟨rfl, rfl⟩ := (mark_eq_ok_iff _ _ _ _ _).mp parsed
    refine ⟨[wanted], rfl, ⟨rfl, rfl⟩, ?_⟩
    rintro other found ⟨rfl, _⟩ _
    exact Nat.le_refl 1
  absent := by
    rintro reason failed _ _ ⟨rfl, _⟩ ⟨rest, rfl⟩
    have parsed := (mark_eq_ok_iff wanted token token (wanted :: rest) rest).mpr ⟨rfl, rfl⟩
    rw [List.singleton_append, parsed] at failed
    cases failed

/-- A choice between marks scans each of them. No two of them match in one place, so their order
makes no difference. -/
theorem scans_firstOf_marks (listed : List (Char × Token)) (input : List Char) :
    Scans (firstOf (listed.map fun mark => Lexer.mark mark.1 mark.2))
      (fun word output => ∃ mark ∈ listed, word = [mark.1] ∧ output = mark.2) input := by
  induction listed with
  | nil =>
    refine (scans_firstOf_nil input).congr fun word output => ⟨False.elim, ?_⟩
    rintro ⟨_, impossible, _⟩
    cases impossible
  | cons mark others inductionHypothesis =>
    refine (scans_firstOf_cons (scans_mark mark.1 mark.2 input) inductionHypothesis ?_).congr
      fun word output => by rw [List.exists_mem_cons_iff]
    rintro _ _ _ _ ⟨rfl, _⟩ ⟨_, _, rfl, _⟩ _ _
    exact Nat.le_refl 1

/-- The lexer scans numbers and reads them. That the reading of a number never fails is what
`read_number` is for. -/
theorem scans_numberToken (input : List Char) :
    Scans Lexer.numberToken (fun word output => word ∈ number ∧
      ∃ value, Decimal.read word = .ok value ∧ output = .number value) input := by
  refine scans_bind_result (scans_number input) ?_ ?_
  · intro word member
    obtain ⟨value, read⟩ := read_number member
    exact ⟨.number value, value, read, rfl⟩
  · rintro word _ _ ⟨value, read, rfl⟩
    simp only [read]

/-- The lexer scans names. The text of the token is the word, with its dots. -/
theorem scans_nameToken (input : List Char) :
    Scans Lexer.nameToken (fun word output => word ∈ name ∧ output = .name (String.ofList word))
      input := by
  refine scans_bind_result (scans_name input) ?_ ?_
  · intro word _
    exact ⟨_, rfl⟩
  · rintro word _ _ rfl
    rfl

/-- The lexemes other than the parentheses, with the tokens they stand for. They are what the
lexer tries after the parentheses. -/
def Unbracketed (word : List Char) (token : Token) : Prop :=
  (word ∈ number ∧ ∃ value, Decimal.read word = .ok value ∧ token = .number value) ∨
    (word ∈ name ∧ token = .name (String.ofList word)) ∨
      ∃ mark ∈ marks.drop 2, word = [mark.1] ∧ token = mark.2

/-- What is no parenthesis stands for its token. The converse leaves out the two parentheses. -/
theorem Unbracketed.denotes {word : List Char} {token : Token} (found : Unbracketed word token) :
    Denotes word token := by
  rcases found with ⟨member, value, read, rfl⟩ | ⟨member, rfl⟩ | ⟨mark, listed, rfl, rfl⟩
  · exact .number member read
  · exact .name member
  · exact .mark (List.mem_of_mem_drop listed)

/-- A lexeme is one of the two parentheses or none of them. The cases are those of the choice
that the lexer makes. -/
theorem denotes_iff (word : List Char) (token : Token) :
    Denotes word token ↔ (word = ['('] ∧ token = .leftParen) ∨
      (word = [')'] ∧ token = .rightParen) ∨ Unbracketed word token := by
  constructor
  · intro denotes
    cases denotes with
    | mark listed =>
      rcases listed with _ | ⟨_, _ | ⟨_, behind⟩⟩
      · exact Or.inl ⟨rfl, rfl⟩
      · exact Or.inr (Or.inl ⟨rfl, rfl⟩)
      · exact Or.inr (Or.inr (Or.inr (Or.inr ⟨_, behind, rfl, rfl⟩)))
    | number member read => exact Or.inr (Or.inr (Or.inl ⟨member, _, read, rfl⟩))
    | name member => exact Or.inr (Or.inr (Or.inr (Or.inl ⟨member, rfl⟩)))
  · rintro (⟨rfl, rfl⟩ | ⟨rfl, rfl⟩ | found)
    · exact .mark (by simp [marks])
    · exact .mark (by simp [marks])
    · exact found.denotes

/-- The alternatives behind the parentheses scan what is no parenthesis. The numbers and the
names begin differently, and no word is shorter than the mark of an operator. A number with a
minus sign is longer than the mark, and is tried before it. -/
theorem scans_unbracketed (input : List Char) :
    Scans (firstOf (Lexer.numberToken :: Lexer.nameToken ::
      (marks.drop 2).map fun mark => Lexer.mark mark.1 mark.2)) Unbracketed input := by
  have operators := scans_firstOf_marks (marks.drop 2) input
  have names := scans_firstOf_cons (scans_nameToken input) operators <| by
    rintro word _ _ _ ⟨member, rfl⟩ ⟨_, _, rfl, _⟩ _ _
    exact (Denotes.name member).length_pos
  apply scans_firstOf_cons (scans_numberToken input) names
  rintro word _ other _ ⟨member, value, read, rfl⟩ (⟨inName, _⟩ | ⟨_, _, rfl, _⟩) front otherFront
  · exact False.elim (number_name_apart member inName front otherFront)
  · exact (Denotes.number member read).length_pos

/-- The alternatives of the lexer, without the blanks before them. The order is that of the
lexer, which matters for the minus sign alone. -/
def bareTokens : List (Lexer.CharParser Token) :=
  [Lexer.mark '(' .leftParen, Lexer.mark ')' .rightParen, Lexer.numberToken, Lexer.nameToken,
    Lexer.mark '+' (.operator .add), Lexer.mark '-' (.operator .subtract),
    Lexer.mark '*' (.operator .multiply), Lexer.mark '/' (.operator .divide)]

/-- The lexer scans lexemes. A parenthesis begins nothing longer. What it scans is the relation
of lexemes and tokens, in which no order appears. -/
theorem scans_bareTokens (input : List Char) : Scans (firstOf bareTokens) Denotes input := by
  have left : ('(', Token.leftParen) ∈ marks := by simp [marks]
  have right : (')', Token.rightParen) ∈ marks := by simp [marks]
  have others := scans_unbracketed input
  have closing := scans_firstOf_cons (scans_mark ')' .rightParen input) others <| by
    rintro _ _ other found ⟨rfl, _⟩ later front otherFront
    exact mark_prefers right (by decide) later.denotes front otherFront
  have opening := scans_firstOf_cons (scans_mark '(' .leftParen input) closing <| by
    rintro _ _ other found ⟨rfl, _⟩ (⟨rfl, _⟩ | later) front otherFront
    · exact Nat.le_refl 1
    · exact mark_prefers left (by decide) later.denotes front otherFront
  apply opening.congr
  intro word output
  exact (denotes_iff word output).symm

end WindowPlacement.Lexeme
