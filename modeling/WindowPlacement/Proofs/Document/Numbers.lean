import WindowPlacement.Proofs.Decimal.Digits
import WindowPlacement.Proofs.Document.ReadsBack
import WindowPlacement.Proofs.Token.Literal

/-!
# Written numbers are read back

A number is read part by part: a sign, the digits before the point, those behind it and an
exponent. A whole number that fits sixty-four bits is read back as it is.
-/

namespace WindowPlacement.Document

/-- In front of a text no digit stands. The text may be empty. -/
def EndsDigits (text : List Char) : Prop :=
  ∀ first rest, text = first :: rest → Decimal.isDigit first = false

/-- In front of a text that begins with something else no digit stands. What follows the first
character does not matter. -/
theorem EndsDigits.cons {first : Char} (other : Decimal.isDigit first = false)
    (rest : List Char) : EndsDigits (first :: rest) := by
  rintro character tail same
  obtain ⟨rfl, -⟩ := List.cons.inj same
  exact other

/-- Where a number ends, its digits end. It could also have gone on with a point or with an
exponent, which is excluded as well. -/
theorem EndsNumber.digits {text : List Char} (ends : EndsNumber text) : EndsDigits text :=
  fun first rest same => (ends first rest same).1

/-- Digits with which a number may begin: at least one, and no zero in front of another. This is
the notation of documents, which is stricter than that of source texts read elsewhere. -/
structure Proper (digits : List Char) : Prop where
  all : ∀ character ∈ digits, Decimal.isDigit character = true
  leading : digits = ['0'] ∨ ∃ first others, digits = first :: others ∧ first ≠ '0'

/-- There is at least one digit. A point alone is no number. -/
theorem Proper.ne_nil {digits : List Char} (proper : Proper digits) : digits ≠ [] := by
  rintro rfl
  obtain impossible | ⟨first, others, impossible, -⟩ := proper.leading <;> cases impossible

/-- Digits with another one than zero in front. They may be followed by as many zeros as there
are. -/
theorem Proper.cons {first : Char} {others : List Char} (leading : first ≠ '0')
    (all : ∀ character ∈ first :: others, Decimal.isDigit character = true) :
    Proper (first :: others) where
  all := all
  leading := .inr ⟨first, others, rfl, leading⟩

/-- A number may begin with the digits of a natural number. Zero has the one digit that may be a
leading zero. -/
theorem proper_digitsOf (number : Nat) : Proper (Decimal.digitsOf number) where
  all _ member := Decimal.isDigit_of_mem_digitsOf member
  leading := by
    rcases Nat.eq_zero_or_pos number with rfl | positive
    · exact .inl rfl
    · exact .inr (Decimal.digitsOf_head positive)

/-- Behind the digits of a whole number there is no fraction. No digits of a fraction have been
read then, which is not an error. -/
theorem EndsNumber.fractionDigits {rest : List Char} (ends : EndsNumber rest) :
    fractionDigits rest = .ok ([], rest) := by
  unfold Document.fractionDigits
  split
  · rename_i tail
    exact absurd List.mem_cons_self (ends '.' tail rfl).2
  · rfl

/-- Behind the digits of a number there is no exponent. The exponent is missing, and is not
zero. -/
theorem EndsNumber.exponentDigits {rest : List Char} (ends : EndsNumber rest) :
    exponentDigits rest = .ok (none, rest) := by
  cases rest with
  | nil => rfl
  | cons letter tail =>
    have other := (ends letter tail rfl).2
    simp only [List.mem_cons, List.not_mem_nil, or_false, not_or] at other
    simp only [Document.exponentDigits, other, decide_false, Bool.or_self, Bool.false_eq_true,
      if_false]

/-- At least one digit, up to where no further digit stands. All of them are taken, however many
there are. -/
theorem someDigits_append {digits rest : List Char} (nonempty : digits ≠ [])
    (all : ∀ character ∈ digits, Decimal.isDigit character = true) (ends : EndsDigits rest) :
    someDigits (digits ++ rest) = .ok (digits, rest) := by
  rw [someDigits, show Decimal.takeDigits (digits ++ rest) = (digits, rest) from
    Lexeme.takeDigits_append all ends]
  split
  · rename_i same
    exact absurd (Prod.mk.inj same).1 nonempty
  · rename_i same
    exact absurd (Prod.mk.inj same).1 nonempty
  · rename_i same
    rw [(Prod.mk.inj same).1, (Prod.mk.inj same).2]

/-- The digits before the point, up to where no further digit stands. Behind a leading zero no
digit may follow, and none does. -/
theorem Proper.wholeDigits {digits rest : List Char} (proper : Proper digits)
    (ends : EndsDigits rest) : wholeDigits (digits ++ rest) = .ok (digits, rest) := by
  rw [Document.wholeDigits, someDigits_append proper.ne_nil proper.all ends]
  split
  · rename_i second tail last same
    obtain ⟨rfl, -⟩ := Prod.mk.inj (Except.ok.inj same)
    obtain impossible | ⟨first, others, written, leading⟩ := proper.leading
    · cases impossible
    · exact absurd (List.cons.inj written).1.symm leading
  · rfl

/-- A sign in front of a magnitude, where there is one. There is no plus sign in front of a
number. -/
def withSign (negative : Bool) (magnitude : List Char) : List Char :=
  if negative then '-' :: magnitude else magnitude

/-- A number is read from the parts of which it consists. If there is neither a fraction nor an
exponent, the number is a whole one. The parts may be read in any way, which later statements
supply. -/
theorem takeNumber_eq {magnitude whole afterWhole fraction afterFraction rest : List Char}
    {exponent : Option Int} (negative : Bool)
    (wholeRead : wholeDigits magnitude = .ok (whole, afterWhole))
    (fractionRead : fractionDigits afterWhole = .ok (fraction, afterFraction))
    (exponentRead : exponentDigits afterFraction = .ok (exponent, rest)) :
    takeNumber (withSign negative magnitude) =
      if fraction.isEmpty && exponent.isNone then
        (wholeNumber negative whole).map fun value => (value, rest)
      else (realNumber negative whole fraction (exponent.getD 0)).map fun value =>
        (.real value, rest) := by
  have unsigned (others : List Char) : magnitude ≠ '-' :: others := by
    rintro rfl
    cases wholeRead
  generalize written : withSign negative magnitude = text
  rw [takeNumber.eq_def]
  split
  rename_i sign found signed
  have same : sign = negative ∧ found = magnitude := by
    subst written
    cases negative with
    | true =>
      obtain ⟨rfl, rfl⟩ := Prod.mk.inj signed
      exact ⟨rfl, rfl⟩
    | false =>
      simp only [withSign, Bool.false_eq_true, if_false] at signed
      obtain ⟨rfl, rfl⟩ := Prod.mk.inj signed
      exact ⟨rfl, rfl⟩
  obtain ⟨rfl, rfl⟩ := same
  simp only [bind, Except.bind, wholeRead, fractionRead, exponentRead]
  split
  · cases wholeNumber sign whole <;> rfl
  · cases realNumber sign whole fraction (exponent.getD 0) <;> rfl

/-- A natural number below `2 ^ 64` is read back as a whole number. A larger one is read as a
double, and is not kept exactly. -/
theorem takeNumber_digitsOf {number : Nat} (fits : number < UInt64.size) {rest : List Char}
    (ends : EndsNumber rest) :
    takeNumber (Decimal.digitsOf number ++ rest) = .ok (.whole number, rest) := by
  have read := takeNumber_eq false ((proper_digitsOf number).wholeDigits ends.digits)
    ends.fractionDigits ends.exponentDigits
  rw [withSign, if_neg (by decide)] at read
  rw [read]
  simp only [wholeNumber, Decimal.digitsValue_digitsOf, List.isEmpty_nil, Option.isNone_none,
    Bool.and_self, if_true, Bool.not_false, Bool.true_and, decide_eq_true_eq, fits, Except.map]

/-- True at the characters with which a number may begin. A point and a plus sign are not among
them. -/
def beginsNumber (character : Char) : Bool := character = '-' || Decimal.isDigit character

/-- A number does not begin with a gap or a closing bracket. So the elements of a list that are
numbers are not taken for its end. -/
theorem beginsNumber_solid {character : Char} (begins : beginsNumber character = true) :
    isGap character = false ∧ character ≠ ']' := by
  constructor
  · by_contra gap
    simp only [Bool.not_eq_false, isGap, Bool.or_eq_true, decide_eq_true_eq] at gap
    rcases gap with ((rfl | rfl) | rfl) | rfl <;> cases begins
  · rintro rfl
    cases begins

/-- What is read as a number begins like one. The empty text is no number. -/
theorem beginsNumber_of_takeNumber {text : List Char} {result : Number × List Char}
    (read : takeNumber text = .ok result) :
    ∃ first rest, text = first :: rest ∧ beginsNumber first = true := by
  cases text with
  | nil => cases read
  | cons first rest =>
    refine ⟨first, rest, rfl, ?_⟩
    by_contra other
    simp only [beginsNumber, Bool.or_eq_true, decide_eq_true_eq, not_or] at other
    have unread : wholeDigits (first :: rest) = .error .invalidNumber := by
      have none : Decimal.takeDigits (first :: rest) = ([], first :: rest) := by
        simp only [Decimal.takeDigits, List.takeWhile_cons, List.dropWhile_cons, other.2,
          if_false, Bool.false_eq_true]
      rw [wholeDigits, someDigits, none]
    have signless : takeNumber (first :: rest) = .error .invalidNumber := by
      rw [takeNumber.eq_def]
      split
      rename_i sign found signed
      split at signed
      · rename_i others same
        exact absurd (List.cons.inj same).1 other.1
      · obtain ⟨rfl, rfl⟩ := Prod.mk.inj signed
        simp only [bind, Except.bind, unread]
    rw [signless] at read
    cases read

/-- Where a number begins behind a gap, a number is read. The kind of number that was expected
matters in messages only. -/
theorem anyNumber_gap (expected : String) (levels : Nat) {gap : List Char} (margin : Gap gap)
    {first : Char} (begins : beginsNumber first = true) (rest : List Char) :
    Reader.anyNumber expected levels (gap ++ first :: rest) = takeNumber (first :: rest) := by
  rw [Reader.anyNumber, margin.skip_cons rest (beginsNumber_solid begins).1]
  exact if_pos begins

/-- A word of thirty-two bits is read back. No level is needed, since a number opens neither a
list nor a record. -/
theorem Reader.ReadsBack.word32 (value : UInt32) :
    Reader.word32.ReadsBack 0 (.natural value.toNat) value := by
  have written (form : Form) (level : Nat) :
      ((Document.natural value.toNat).write form level).toList = Decimal.digitsOf value.toNat := by
    rw [write, Nat.toString_eq_repr, Nat.toList_repr, Decimal.digitsOf]
  obtain ⟨first, others, digits⟩ :=
    List.exists_cons_of_ne_nil (Decimal.digitsOf_ne_nil value.toNat)
  have begins : beginsNumber first = true := by
    have member : first ∈ Decimal.digitsOf value.toNat := digits ▸ List.mem_cons_self
    have digit := Decimal.isDigit_of_mem_digitsOf member
    rw [beginsNumber, digit, Bool.or_true]
  refine ⟨fun form level => ⟨first, others, ?_, beginsNumber_solid begins⟩,
    fun form level available gap rest _ margin ends => ?_⟩
  · rw [written, digits]
  · have fits : value.toNat < UInt64.size := Nat.lt_trans value.toNat_lt (by decide)
    have read := takeNumber_digitsOf fits ends
    have small : (value.toNat : Int) < UInt32.size := Int.ofNat_lt.mpr value.toNat_lt
    have kept : (value.toNat : Int).toNat.toUInt32 = value := by
      rw [Int.toNat_natCast, Nat.toUInt32, UInt32.ofNat_toNat]
    rw [digits, List.cons_append] at read
    simp only [written, digits, List.append_assoc, List.cons_append, Reader.word32,
      anyNumber_gap "u32" available margin begins, read, Int.natCast_nonneg, small, decide_true,
      Bool.and_self, if_true, kept]

end WindowPlacement.Document
