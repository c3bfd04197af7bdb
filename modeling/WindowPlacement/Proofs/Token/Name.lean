import WindowPlacement.Proofs.Token.Number

/-!
# The language of names

A name is made of parts with single dots between them. A part begins with a letter or an
underscore; letters, digits and underscores follow.

The lexer tries a part, a dot and a further name before a part alone. A part has no dot in
it, so whatever the first alternative takes is longer than any single part.
-/

namespace WindowPlacement.Lexeme

open Computability WindowPlacement.Parser

/-- The letters and the underscore. Letters beyond ASCII are not among them. -/
def letter : Language Char := between 'A' 'Z' + between 'a' 'z' + only '_'

/-- A letter, and letters and digits behind it. It may be a single underscore. -/
def namePart : Language Char := letter * (letter + digit)∗

/-- Names: parts with single dots between them. No name begins or ends with a dot, or has two
dots in a row. -/
def name : Language Char := namePart * (only '.' * namePart)∗

/-- The characters with which a part may begin, as ranges. The lexer writes the same class with
a test for letters of ASCII. -/
theorem isNameStart_eq (character : Char) :
    Lexer.isNameStart character =
      (('A' ≤ character && character ≤ 'Z' || 'a' ≤ character && character ≤ 'z') ||
        character = '_') := by
  have capital : character.isUpper = ('A' ≤ character && character ≤ 'Z') :=
    Bool.decide_and _ _
  have small : character.isLower = ('a' ≤ character && character ≤ 'z') := rfl
  change (character.isUpper || character.isLower || decide (character = '_')) = _
  rw [capital, small]

/-- The letters are the characters with which a part may begin. It is the way from the parser,
which tests characters, to the language. -/
theorem letter_eq : letter = single Lexer.isNameStart := by
  unfold letter between only
  rw [single_add, single_add]
  congr 1
  funext character
  exact (isNameStart_eq character).symm

/-- The letters and the digits are the characters that may follow in a part. Both cases of
letters are among them, and the underscore. -/
theorem letter_add_digit_eq : letter + digit = single Lexer.isNameRest := by
  rw [letter_eq, digit, between, single_add]
  congr 1
  funext character
  rw [Bool.eq_iff_iff]
  simp [Lexer.isNameStart, Lexer.isNameRest, Char.isAlphanum, Char.isDigit, Char.le_def,
    UInt32.le_iff_toNat_le, or_right_comm]

/-- A part is a letter and any number of letters and digits. There may be nothing behind the
first one. -/
theorem mem_namePart_iff (word : List Char) :
    word ∈ namePart ↔ ∃ first tail, Lexer.isNameStart first = true ∧
      (∀ character ∈ tail, Lexer.isNameRest character = true) ∧ word = first :: tail := by
  rw [namePart, letter_add_digit_eq, letter_eq, mem_single_mul]
  simp only [mem_single_kstar]

/-- A part has no characters but letters and digits. In particular it has no dot. -/
theorem isNameRest_of_mem_namePart {word : List Char} (member : word ∈ namePart) :
    ∀ character ∈ word, Lexer.isNameRest character = true := by
  obtain ⟨first, tail, begins, follow, rfl⟩ := (mem_namePart_iff word).mp member
  intro character inside
  rcases List.mem_cons.mp inside with rfl | behind
  · simp only [Lexer.isNameStart, Bool.or_eq_true, decide_eq_true_eq] at begins
    simp only [Lexer.isNameRest, Char.isAlphanum, Bool.or_eq_true, decide_eq_true_eq]
    exact begins.imp_left Or.inl
  · exact follow character behind

/-- A name is a part, or a part, a dot and a further name. This is the equation of the parser,
in the language. -/
theorem name_eq : name = namePart * (only '.' * name) + namePart := by
  have unrolled : (only '.' * namePart)∗ = 1 + only '.' * namePart * (only '.' * namePart)∗ :=
    (Language.one_add_self_mul_kstar_eq_kstar _).symm
  calc name = namePart * (1 + only '.' * namePart * (only '.' * namePart)∗) := by
        rw [name, ← unrolled]
    _ = namePart + namePart * (only '.' * name) := by rw [mul_add, mul_one, mul_assoc, name]
    _ = namePart * (only '.' * name) + namePart := add_comm _ _

/-- A part is a name. The repetition behind it is then empty. -/
theorem mem_name_of_mem_namePart {word : List Char} (member : word ∈ namePart) : word ∈ name := by
  rw [name_eq]
  exact Or.inr member

/-- A part, a dot and a name are a name. The further name may have dots itself. -/
theorem dotted_mem_name {part rest : List Char} (inPart : part ∈ namePart) (inName : rest ∈ name) :
    part ++ '.' :: rest ∈ name := by
  rw [name_eq]
  have behind : '.' :: rest ∈ only '.' * name :=
    (mem_single_mul _ _ _).mpr ⟨'.', rest, rfl, inName, rfl⟩
  exact Or.inl (Language.append_mem_mul inPart behind)

/-- No part goes on with the dot behind another part. So where one part ends is clear before
what follows is looked at. -/
theorem separated_namePart (language : Language Char) :
    Separated namePart (only '.' * language) := by
  intro word character tail rest _ longer behind
  obtain ⟨dot, _, same, _, equal⟩ := (mem_single_mul _ _ _).mp behind
  obtain rfl : character = dot := (List.cons.inj equal).1
  obtain rfl := of_decide_eq_true same
  exact absurd (isNameRest_of_mem_namePart longer '.' (by simp)) (by decide)

/-! ## Scanning -/

/-- The lexer scans parts. It fails where no letter stands in front. -/
theorem scans_namePart (input : List Char) :
    Scans Lexer.namePart (spelled namePart) input := by
  rw [namePart, letter_add_digit_eq, letter_eq]
  apply scans_inOrder_cons (scans_one _ input) _ (separated_single _ _)
  intro _ rest _
  exact scans_inOrder_one (scans_zeroOrMore _ rest)

/-- Reading a part advances. It needs no more than that a part is not empty. -/
theorem namePart_advances : Advances Lexer.namePart := by
  apply advances_of_scans scans_namePart
  intro word member
  obtain ⟨first, tail, _, _, rfl⟩ := (mem_namePart_iff word).mp member
  exact List.cons_ne_nil first tail

/-- The first alternative of a name is a sequence. It joins the characters of its three
parts. -/
theorem nameBody_eq (self : Lexer.CharParser (List Char)) :
    Lexer.nameBody self =
      firstOf [inOrder [Lexer.namePart, one (Lexer.char '.'), self], Lexer.namePart] := by
  have same : (Parser.bind Lexer.namePart fun head =>
      .ok (Parser.bind (one (Lexer.char '.')) fun dot =>
        .ok (Parser.bind self fun tail => .ok (result (head ++ dot ++ tail))))) =
      inOrder [Lexer.namePart, one (Lexer.char '.'), self] := by
    funext input
    simp only [Parser.bind, inOrder, result]
    cases Lexer.namePart input with
    | error reason => rfl
    | ok answer =>
      cases dotted : one (Lexer.char '.') answer.2 with
      | error reason => simp only [dotted]
      | ok dot =>
        cases later : self dot.2 with
        | error reason => simp only [dotted, later]
        | ok last => simp only [dotted, later, List.append_nil, List.append_assoc]
  rw [Lexer.nameBody, same]

/-- A name advances if the names in it do. The second alternative is a part alone, which
does. -/
theorem nameBody_advances (self : Lexer.CharParser (List Char)) (advances : Advances self) :
    Advances (Lexer.nameBody self) := by
  apply firstOf_advances
  rintro parser (_ | ⟨_, _ | ⟨_, impossible⟩⟩)
  · apply bind_advances namePart_advances
    intro head continuation chosen
    cases chosen
    have dotted : Advances (one (Lexer.char '.')) :=
      bind_advances (satisfy_advances _ consume_advances) fun dot _ made => by
        cases made
        exact result_reads [dot]
    apply Advances.reads
    apply bind_advances dotted
    intro dot continuation chosen
    cases chosen
    apply Advances.reads
    apply bind_advances advances
    intro tail continuation chosen
    cases chosen
    exact result_reads _
  · exact namePart_advances
  · cases impossible

/-- What a name is depends on the names further on only. At least a letter and the dot have been
read by then. -/
theorem nameBody_reentersBehind : ReentersBehind Lexer.nameBody := by
  intro input self other agree
  have same : inOrder [Lexer.namePart, one (Lexer.char '.'), self] input =
      inOrder [Lexer.namePart, one (Lexer.char '.'), other] input := by
    cases part : Lexer.namePart input with
    | error reason => simp only [inOrder, part]
    | ok answer =>
      obtain ⟨head, middle⟩ := answer
      have suffix : middle <:+ input := (namePart_advances input head middle part).1
      cases dotted : one (Lexer.char '.') middle with
      | error reason => simp only [inOrder, part, dotted]
      | ok answer =>
        obtain ⟨dot, later⟩ := answer
        obtain ⟨point, rfl, _, _⟩ := (one_eq_ok_iff _ _ _ _).mp dotted
        have further : later <:+ input := (List.suffix_cons point later).trans suffix
        have shorter : later.length < input.length := suffix.length_le
        simp only [inOrder, part, dotted, agree later further shorter]
  simp only [nameBody_eq, firstOf, same]

/-- Names satisfy their own equation: the dot between two parts has always been read when the
lexer re-enters them. The guard of the recursion has gone. -/
theorem lexer_name_eq :
    Lexer.name = firstOf [inOrder [Lexer.namePart, one (Lexer.char '.'), Lexer.name],
      Lexer.namePart] :=
  (recursive_eq nameBody_advances fun self other _ _ input =>
    nameBody_reentersBehind input self other).trans (nameBody_eq _)

/-- The lexer scans names. Where a dot is not followed by a part, the name ends in front of the
dot.

Proof: strong induction on the length of the input. The names behind a dot stand in front of a
shorter input, where the induction applies. -/
theorem scans_name (input : List Char) : Scans Lexer.name (spelled name) input := by
  generalize size : input.length = count
  induction count using Nat.strongRecOn generalizing input with
  | ind count inductionHypothesis =>
    subst size
    have dotted : Scans (inOrder [Lexer.namePart, one (Lexer.char '.'), Lexer.name])
        (spelled (namePart * (only '.' * name))) input := by
      apply scans_inOrder_cons (scans_namePart input) _ (separated_namePart _)
      intro head middle part
      apply scans_inOrder_cons (scans_one _ middle) _ (separated_single _ _)
      intro dot rest point
      have shorter : rest.length < input.length := by
        have partAdvances := (namePart_advances input head middle part).2
        obtain ⟨_, rfl, _, _⟩ := (one_eq_ok_iff _ _ _ _).mp point
        rw [List.length_cons] at partAdvances
        omega
      exact scans_inOrder_one (inductionHypothesis rest.length shorter rest rfl)
    rw [lexer_name_eq, name_eq]
    apply scans_firstOf_add dotted (scans_firstOf_one (scans_namePart input))
    intro word inDotted part inPart front partFront
    rcases Nat.le_total part.length word.length with done | longer
    · exact done
    · have inside : word <+: part := List.prefix_of_prefix_length_le front partFront longer
      obtain ⟨head, _, behind, pointed, rfl⟩ := Language.mem_mul.mp inDotted
      obtain ⟨point, tail, same, _, rfl⟩ := (mem_single_mul _ _ _).mp pointed
      obtain rfl := of_decide_eq_true same
      have dot := isNameRest_of_mem_namePart inPart '.' (inside.subset (by simp))
      exact absurd dot (by decide)

/-- A name begins with a letter. It may be an underscore, and is no digit. -/
theorem name_head {word : List Char} (member : word ∈ name) :
    ∃ first tail, word = first :: tail ∧ Lexer.isNameStart first = true := by
  obtain ⟨part, inPart, others, _, rfl⟩ := Language.mem_mul.mp member
  obtain ⟨first, tail, begins, _, rfl⟩ := (mem_namePart_iff part).mp inPart
  exact ⟨first, tail ++ others, rfl, begins⟩

end WindowPlacement.Lexeme
