import WindowPlacement.Expr.Document
import WindowPlacement.Proofs.Document.Nesting
import WindowPlacement.Proofs.Document.Whole
import WindowPlacement.Proofs.Expr.Inlining
import WindowPlacement.Proofs.Expr.Printing

/-!
# Stored expressions

An expression is written as a tree of records and lists. Each node on a path opens a record, and
each inner node a list besides, so a tree of some depth needs one level less than twice its
depth. The writer goes as deep as the tree; the reader has a bound. Trees of up to sixty-four
nodes on a path are read back, and all deeper ones are refused.

A row of operators of one tier is as deep as it is long, because the right operand of each is the
rest of the row. So a long sum is written but not read, although nothing in it stands in
parentheses.
-/

namespace WindowPlacement

open Document Reader

namespace Expr

/-- A tree has at least one node. A leaf counts as a node. -/
theorem depth_pos (expr : Expr) : 0 < expr.depth := by
  cases expr <;> simp only [depth] <;> omega

/-- The alternatives of a node are those of its operator. The operand is read by whatever reader
the node is given, which the choice of the alternative leaves alone. -/
theorem alternative_node (operand : Reader Expr) (operator : Operator) :
    alternative
      [⟨"symbol", .single (Reader.map .symbol Reader.text)⟩,
        ⟨"number", .single (Reader.map .number Reader.float)⟩,
        nodeAlternative operand .add, nodeAlternative operand .subtract,
        nodeAlternative operand .multiply, nodeAlternative operand .divide] operator.tag =
      .ok (nodeAlternative operand operator) := by
  cases operator <;> rfl

section Node

variable {bound : Nat} {operator : Operator} {left right : Expr}

/-- A node is read back with the pair of its operands. The record of the node takes one level;
those of the list are part of what the pair needs. -/
theorem readsBack_node {levels : Nat}
    (operands : (Reader.pair (nodeDescription operator) (readerWithin bound)
      (readerWithin bound)).ReadsBack levels (.array [left.document, right.document])
        (left, right)) :
    (readerWithin (bound + 1)).ReadsBack (levels + 1) (binary operator left right).document
      (.binary operator left right) :=
  .tagged (alternative_node _ operator)
    (operands.map fun (pair : Expr × Expr) => Expr.binary operator pair.1 pair.2)

/-- A node is refused with the pair of its operands. The record takes a level, so the pair has
one less than the node. -/
theorem refuses_node {available : Nat}
    (operands : (Reader.pair (nodeDescription operator) (readerWithin bound)
      (readerWithin bound)).Refuses available (.array [left.document, right.document])) :
    (readerWithin (bound + 1)).Refuses (available + 1) (binary operator left right).document :=
  .tagged (alternative_node _ operator)
    (operands.map fun (pair : Expr × Expr) => Expr.binary operator pair.1 pair.2)

end Node

/-- A tree begins with the record of its root. So the reader sees at the first character that a
value is there, and none of the layout matters. -/
theorem begins_document (expr : Expr) : expr.document.Begins := by
  cases expr <;> exact begins_tagged _ _

/-- The reader finds a number again. It depends on the number alone and not on the tree;
`float_readsBack` has a condition under which it holds. -/
def IsKept (value : Float) : Prop := Reader.float.ReadsBack 0 (.real value) value

/-- A tree whose numbers are kept is read back, if the reader goes as deep as the tree. Each
inner node opens a record and a list. The bound is on the reader of trees and the levels are
those of the reader of documents, which are counted apart.

Proof: induction on the tree. -/
theorem readsBack {expr : Expr} {bound : Nat} (kept : ∀ value ∈ expr.numbers, IsKept value)
    (enough : expr.depth ≤ bound) :
    (readerWithin bound).ReadsBack (2 * expr.depth - 1) expr.document expr := by
  induction expr generalizing bound with
  | symbol name =>
    obtain ⟨rest, rfl⟩ := Nat.exists_eq_add_one_of_ne_zero (Nat.ne_of_gt enough)
    exact ReadsBack.tagged rfl ((ReadsBack.text name).map _)
  | number value =>
    obtain ⟨rest, rfl⟩ := Nat.exists_eq_add_one_of_ne_zero (Nat.ne_of_gt enough)
    exact ReadsBack.tagged rfl ((kept value List.mem_cons_self).map _)
  | binary operator left right leftHypothesis rightHypothesis =>
    rw [depth] at enough ⊢
    obtain ⟨rest, rfl⟩ : ∃ rest, bound = rest + 1 := ⟨bound - 1, by omega⟩
    have leftReads : (readerWithin rest).ReadsBack (2 * left.depth - 1) left.document left :=
      leftHypothesis (fun value member => kept value (List.mem_append_left _ member)) (by omega)
    have rightReads : (readerWithin rest).ReadsBack (2 * right.depth - 1) right.document right :=
      rightHypothesis (fun value member => kept value (List.mem_append_right _ member)) (by omega)
    have levels : 2 * (1 + max left.depth right.depth) - 1 =
        2 * max left.depth right.depth - 1 + 1 + 1 := by
      have nonempty := left.depth_pos
      omega
    rw [levels]
    exact readsBack_node ((leftReads.mono (by omega)).pair (rightReads.mono (by omega)))

/-- A tree that needs more levels than may be opened is refused. The numbers have to be kept,
because a number that cannot be read is reported before the depth is reached.

Proof: induction on the tree. One of the operands of a node needs too many levels as well; if it
is only the right one, then the left one has been read before. -/
theorem refuses {expr : Expr} {bound available : Nat}
    (kept : ∀ value ∈ expr.numbers, IsKept value) (bounded : available < bound)
    (tooFew : available < 2 * expr.depth - 1) :
    (readerWithin bound).Refuses available expr.document := by
  induction expr generalizing bound available with
  | symbol name =>
    obtain ⟨rest, rfl⟩ : ∃ rest, bound = rest + 1 := ⟨bound - 1, by omega⟩
    obtain rfl : available = 0 := Nat.lt_one_iff.mp tooFew
    exact Refuses.tagged_zero _ _ _
  | number value =>
    obtain ⟨rest, rfl⟩ : ∃ rest, bound = rest + 1 := ⟨bound - 1, by omega⟩
    obtain rfl : available = 0 := Nat.lt_one_iff.mp tooFew
    exact Refuses.tagged_zero _ _ _
  | binary operator left right leftHypothesis rightHypothesis =>
    rw [depth] at tooFew
    obtain ⟨rest, rfl⟩ : ∃ rest, bound = rest + 1 := ⟨bound - 1, by omega⟩
    obtain rfl | rfl | ⟨remaining, rfl⟩ :
        available = 0 ∨ available = 1 ∨ ∃ remaining, available = remaining + 2 := by
      rcases available with - | - | remaining
      · exact Or.inl rfl
      · exact Or.inr (Or.inl rfl)
      · exact Or.inr (Or.inr ⟨remaining, rfl⟩)
    · exact Refuses.tagged_zero _ _ _
    · exact refuses_node (Refuses.pair_zero _)
    · have leftKept : ∀ value ∈ left.numbers, IsKept value :=
        fun value member => kept value (List.mem_append_left _ member)
      have rightKept : ∀ value ∈ right.numbers, IsKept value :=
        fun value member => kept value (List.mem_append_right _ member)
      refine refuses_node ?_
      by_cases leftDeep : remaining < 2 * left.depth - 1
      · exact Refuses.pair_first left.begins_document
          (leftHypothesis leftKept (by omega) leftDeep)
      · have leftReads : (readerWithin rest).ReadsBack (2 * left.depth - 1) left.document left :=
          readsBack leftKept (by omega)
        have rightDeep : remaining < 2 * right.depth - 1 := by omega
        exact Refuses.pair_second leftReads (by omega) right.begins_document
          (rightHypothesis rightKept (by omega) rightDeep)

/-- The written form of a tree is read back exactly if the tree has at most sixty-four nodes on
a path. It makes no difference whether the document is written compactly or with indentation. -/
theorem read_document {expr : Expr} (kept : ∀ value ∈ expr.numbers, IsKept value) (form : Form) :
    Document.read Expr.reader (expr.document.write form 0) =
      if expr.depth ≤ 64 then .ok expr else .error .tooDeep := by
  have whole : Document.read Expr.reader (expr.document.write form 0) =
      Document.read (readerWithin (maximalLevels + 1)) (expr.document.write form 0) := rfl
  rw [whole]
  have most : maximalLevels = 127 := rfl
  split
  · exact read_write (readsBack kept (by omega)) (by omega) form
  · exact read_of_refuses (refuses kept (by omega) (by omega)) form

/-- The numbers of a tree are among its leaves. The converse holds too, but is not needed. -/
theorem mem_leaves_of_mem_numbers {expr : Expr} {value : Float} (member : value ∈ expr.numbers) :
    .value value ∈ expr.leaves := by
  induction expr with
  | symbol name => cases member
  | number other =>
    obtain rfl := List.mem_singleton.mp member
    exact List.mem_cons_self
  | binary operator left right leftHypothesis rightHypothesis =>
    exact List.mem_append.mpr ((List.mem_append.mp member).imp leftHypothesis rightHypothesis)

/-- The numbers of a tree are among the tokens that are parsed into it. So what is known of the
numbers in a text holds of those in its tree. -/
theorem mem_tokens_of_mem_numbers {tokens : List Token} {expr : Expr}
    (parsed : Grammar.parse tokens = .ok expr) {value : Float} (member : value ∈ expr.numbers) :
    .number value ∈ tokens := by
  have leaf := mem_leaves_of_mem_numbers member
  rw [(Grammar.derives_of_parse parsed).leaves] at leaf
  obtain ⟨token, inside, same⟩ := List.mem_filterMap.mp leaf
  cases token <;> cases same
  exact inside

/-- A source text is that of a tree, and the numbers in it are whole numbers below `2 ^ 32`,
their signs apart. Every such number is kept, however the source writes it. -/
def HasWholeSource (source : String) (expr : Expr) : Prop :=
  ∃ tokens, Lexer.tokenize source = .ok tokens ∧ Grammar.parse tokens = .ok expr ∧
    ∀ value, .number value ∈ tokens → IsSmallWhole value

/-- The numbers of such a tree are kept. Other numbers may be kept as well, but not all are,
which is why the source is restricted. -/
theorem HasWholeSource.kept {source : String} {expr : Expr} (sourced : HasWholeSource source expr) :
    ∀ value ∈ expr.numbers, IsKept value := by
  obtain ⟨tokens, -, parsed, whole⟩ := sourced
  exact fun value member => (whole value (mem_tokens_of_mem_numbers parsed member)).readsBack

/-- The tree of a source text whose numbers are whole and not too large is read back from its
written form, in either form, exactly if it has at most sixty-four nodes on a path. Deeper trees
are refused because of their depth, whatever they hold. The bound comes from the reader of
documents, which opens no more than a hundred and twenty-seven levels. -/
theorem read_parsed {source : String} {expr : Expr} (sourced : HasWholeSource source expr)
    (form : Form) :
    (Document.read Expr.reader (expr.document.write form 0) = .ok expr ↔ expr.depth ≤ 64) ∧
      (64 < expr.depth →
        Document.read Expr.reader (expr.document.write form 0) = .error .tooDeep) := by
  rw [read_document sourced.kept form]
  refine ⟨?_, fun deep => if_neg (Nat.not_le.mpr deep)⟩
  split
  case isTrue shallow => exact iff_of_true rfl shallow
  case isFalse deep => exact iff_of_false (by simp) deep

/-! ## Long sums -/

/-- What the text of a one is read as. It is the number 1, in the form in which the text gives
it. -/
def one : Float := Decimal.Literal.value ⟨false, ['1'], [], 0⟩

/-- The tree of a sum of ones with so many operators. There is one more leaf than there are
operators. -/
def sumOfOnes : Nat → Expr
  | 0 => .number one
  | count + 1 => .binary .add (.number one) (sumOfOnes count)

/-- The source text of a sum of ones behind the first one. Each part of it begins with a blank,
so that it may follow a number. -/
def sumTail : Nat → List Char
  | 0 => []
  | count + 1 => [' ', '+', ' ', '1'] ++ sumTail count

/-- The source text of a sum of ones with so many operators. For two operators it is `1 + 1 +
1`. -/
def sumText (count : Nat) : String := String.ofList ('1' :: sumTail count)

/-- The tree of a sum is one node deeper than it has operators. The right operand of every node
is the rest of the sum. -/
theorem depth_sumOfOnes (count : Nat) : (sumOfOnes count).depth = count + 1 := by
  induction count with
  | zero => rfl
  | succ count inductionHypothesis =>
    rw [sumOfOnes, depth, depth, inductionHypothesis]
    omega

/-- The text of a one stands for its token. The text has neither a sign nor a dot. -/
theorem denotes_one : Lexeme.Denotes ['1'] (.number one) :=
  .number (Lexeme.digit_mem_number rfl) rfl

/-- The words of a sum stand for tokens that derive its tree. All numbers among the tokens are
ones, and ones are small and whole.

Proof: induction on the number of operators. The rest of the row is the right operand of the
first one. -/
theorem exists_tokens_sumOfOnes (count : Nat) : ∃ words tokens,
    Lexeme.Spaced words (sumTail count) ∧ List.Forall₂ Lexeme.Denotes words tokens ∧
      Grammar.Derives .expression (.number one :: tokens) (sumOfOnes count) ∧
      ∀ value, .number value ∈ tokens → value = one := by
  induction count with
  | zero =>
    refine ⟨[], [], .nil, .nil, .term (.factor (.number one)), fun value impossible => ?_⟩
    cases impossible
  | succ count inductionHypothesis =>
    obtain ⟨words, tokens, spaced, denote, derived, ones⟩ := inductionHypothesis
    refine ⟨['+'] :: ['1'] :: words, .operator .add :: .number one :: tokens, ?_,
      .cons (Grammar.denotes_mark .add) (.cons denotes_one denote),
      .sum (by decide) (.factor (.number one)) derived, fun value member => ?_⟩
    · have blank : ∀ character ∈ [' '], Text.isBlank character = true := List.all_eq_true.mp rfl
      exact .cons (by decide) blank (.cons (by decide) blank spaced)
    · simp only [List.mem_cons, reduceCtorEq, false_or, Token.number.injEq] at member
      exact member.elim id (ones value)

/-- The tree of a sum of ones has a source text, whatever its length. So there are expressions
of every depth to which `read_parsed` applies. -/
theorem sumOfOnes_hasWholeSource (count : Nat) :
    HasWholeSource (sumText count) (sumOfOnes count) := by
  obtain ⟨words, tokens, spaced, denote, derived, ones⟩ := exists_tokens_sumOfOnes count
  have small : IsSmallWhole one := IsSmallWhole.literal (by decide) false
  have laidOut : Lexeme.LaidOut (['1'] :: words) (sumText count).toList := by
    rw [sumText, String.toList_ofList]
    exact .first (List.forall_mem_nil _) spaced
  refine ⟨.number one :: tokens, Lexeme.tokenize_of_laidOut laidOut (.cons denotes_one denote),
    Grammar.parse_of_derives derived, fun value member => ?_⟩
  rcases List.mem_cons.mp member with same | member
  · cases same
    exact small
  · exact ones value member ▸ small

/-- Sixty-five ones are added up in a tree that is written but not read. It has been parsed from
a text without parentheses, in which nothing looks deep. -/
theorem long_sum_not_read :
    HasWholeSource (sumText 64) (sumOfOnes 64) ∧
      Document.read Expr.reader (sumOfOnes 64).document.pretty = .error .tooDeep := by
  have sourced := sumOfOnes_hasWholeSource 64
  have deep : ¬ (sumOfOnes 64).depth ≤ 64 := by
    rw [depth_sumOfOnes]
    decide
  refine ⟨sourced, ?_⟩
  rw [Document.pretty, read_document sourced.kept, if_neg deep]

/-- Sixty-four ones are added up in a tree that is still read. It is the longest sum that is
read back. -/
theorem shorter_sum_read :
    HasWholeSource (sumText 63) (sumOfOnes 63) ∧
      Document.read Expr.reader (sumOfOnes 63).document.pretty = .ok (sumOfOnes 63) := by
  have sourced := sumOfOnes_hasWholeSource 63
  have shallow : (sumOfOnes 63).depth ≤ 64 := by
    rw [depth_sumOfOnes]
  exact ⟨sourced, (read_parsed sourced .pretty).1.mpr shallow⟩

end Expr

end WindowPlacement
