import WindowPlacement.Proofs.Decimal.Shortest
import WindowPlacement.Proofs.Document.Numbers

/-!
# Written doubles are read

The text of a finite double spells a whole number and a power of ten. As long as the whole
number fits sixty-four bits, the reader takes up all of its digits: it makes a double of them,
and multiplies or divides once.
-/

namespace WindowPlacement.Document

open Decimal

/-- Digits that spell a number below `2 ^ 64` are all gathered. Digits that do not fit are given
up, with their places counted, which this leaves out.

Proof: induction on the digits. What has been gathered on the way is no larger than the whole,
so it fits as well. -/
theorem gather_eq {significand : Nat} {digits : List Char}
    (fits : spelledAfter significand digits < UInt64.size) :
    gather significand digits = (spelledAfter significand digits, []) := by
  induction digits generalizing significand with
  | nil => rfl
  | cons digit digits inductionHypothesis =>
    have next : 10 * significand + digitValue digit < UInt64.size :=
      Nat.lt_of_le_of_lt (le_spelledAfter _ digits) fits
    rw [gather, if_pos next]
    exact inductionHypothesis fits

/-- A number of which all digits are gathered is scaled by the places behind the point and by
the exponent. The sign is given back at the end. -/
theorem realNumber_eq (negative : Bool) {whole fraction : List Char} (exponent : Int)
    (fits : digitsValue (whole ++ fraction) < UInt64.size) :
    realNumber negative whole fraction exponent =
      (scaled (digitsValue (whole ++ fraction)).toUInt64.toFloat
        (exponent - fraction.length)).map (signed negative) := by
  rw [digitsValue_append] at fits ⊢
  have first : gather 0 whole = (digitsValue whole, []) :=
    gather_eq (Nat.lt_of_le_of_lt (le_spelledAfter _ fraction) fits)
  have places : ((([] : List Char).length : Int) -
      (fraction.length - ([] : List Char).length : Nat)) + exponent =
        exponent - fraction.length := by
    simp only [List.length_nil, Nat.sub_zero]
    omega
  simp only [realNumber, first, gather_eq fits, places]

/-- A point, digits and no exponent behind the whole part of a number. The fraction must have a
digit, since a point without one is refused. -/
theorem takeNumber_plain (negative : Bool) {whole fraction rest : List Char}
    (proper : Proper whole) (nonempty : fraction ≠ [])
    (all : ∀ character ∈ fraction, isDigit character = true) (ends : EndsNumber rest) :
    takeNumber (withSign negative (whole ++ ('.' :: fraction ++ rest))) =
      (realNumber negative whole fraction 0).map fun value => (.real value, rest) := by
  have wholeRead : wholeDigits (whole ++ ('.' :: fraction ++ rest)) =
      .ok (whole, '.' :: fraction ++ rest) := proper.wholeDigits (EndsDigits.cons rfl _)
  have fractionRead : fractionDigits ('.' :: fraction ++ rest) = .ok (fraction, rest) :=
    someDigits_append nonempty all ends.digits
  have some : fraction.isEmpty = false := by
    rw [List.isEmpty_eq_false_iff]
    exact nonempty
  rw [takeNumber_eq negative wholeRead fractionRead ends.exponentDigits, some]
  rfl

/-- How the exponent of a number is written, the letter in front of it apart. A plus sign is
written although it could be left out. -/
def exponentText (exponent : Int) : List Char :=
  (if exponent < 0 then '-' else '+') :: digitsOf exponent.natAbs

/-- A written exponent is read back. Neither its sign nor its size is bounded here. -/
theorem exponentDigits_append (exponent : Int) {rest : List Char} (ends : EndsNumber rest) :
    exponentDigits ('e' :: exponentText exponent ++ rest) = .ok (some exponent, rest) := by
  have digits := someDigits_append (digitsOf_ne_nil exponent.natAbs)
    (fun _ member => isDigit_of_mem_digitsOf member) ends.digits
  by_cases negative : exponent < 0
  · have value : -(exponent.natAbs : Int) = exponent := by omega
    simp only [exponentText, negative, if_true, List.cons_append, exponentDigits, decide_true,
      Bool.true_or, takeSign, digits, digitsValue_digitsOf, value, Except.map]
  · have value : (exponent.natAbs : Int) = exponent := by omega
    simp only [exponentText, negative, if_false, List.cons_append, exponentDigits, decide_true,
      Bool.true_or, if_true, takeSign, digits, digitsValue_digitsOf, value, Except.map,
      Bool.false_eq_true]

/-- A point with digits, where there are any. Without digits there is no point either. -/
def pointed (fraction : List Char) : List Char :=
  if fraction.isEmpty then [] else '.' :: fraction

/-- An exponent behind the whole part of a number, with or without a point and digits between
them. The power of ten is that of the exponent, less the places behind the point. -/
theorem takeNumber_scientific (negative : Bool) {whole fraction rest : List Char}
    (exponent : Int) (proper : Proper whole)
    (all : ∀ character ∈ fraction, isDigit character = true) (ends : EndsNumber rest) :
    takeNumber (withSign negative
        (whole ++ (pointed fraction ++ ('e' :: exponentText exponent ++ rest)))) =
      (realNumber negative whole fraction exponent).map fun value => (.real value, rest) := by
  have exponentRead := exponentDigits_append exponent ends
  generalize scale : 'e' :: exponentText exponent ++ rest = behind at exponentRead
  have letter : EndsDigits behind := scale ▸ EndsDigits.cons rfl _
  cases fraction with
  | nil =>
    have none : fractionDigits behind = .ok ([], behind) := by
      rw [← scale]
      rfl
    rw [pointed, List.isEmpty_nil, if_pos rfl, List.nil_append,
      takeNumber_eq negative (proper.wholeDigits letter) none exponentRead]
    rfl
  | cons digit digits =>
    have wholeRead : wholeDigits (whole ++ ('.' :: digit :: digits ++ behind)) =
        .ok (whole, '.' :: digit :: digits ++ behind) :=
      proper.wholeDigits (EndsDigits.cons rfl _)
    have fractionRead : fractionDigits ('.' :: digit :: digits ++ behind) =
        .ok (digit :: digits, behind) :=
      someDigits_append (List.cons_ne_nil digit digits) all letter
    rw [pointed, List.isEmpty_cons, if_neg Bool.false_ne_true,
      takeNumber_eq negative wholeRead fractionRead exponentRead]
    rfl

/-- A double is made of what the parts of its text spell together. It depends on the digits and
on the place of the last one, and not on where the point stands. -/
theorem realNumber_map (negative : Bool) {whole fraction : List Char} {exponent place : Int}
    {significand : Nat} (rest : List Char) (same : digitsValue (whole ++ fraction) = significand)
    (places : exponent - fraction.length = place) (fits : significand < UInt64.size) :
    (realNumber negative whole fraction exponent).map (fun value => (Number.real value, rest)) =
      (scaled significand.toUInt64.toFloat place).map fun magnitude =>
        (.real (signed negative magnitude), rest) := by
  rw [realNumber_eq negative exponent (same ▸ fits), same, places]
  cases scaled significand.toUInt64.toFloat place <;> rfl

/-! ## The four ways to write digits -/

/-- A zero is a digit. It stands for the rows of digits that consist of one zero. -/
theorem isDigit_zero : ∀ character ∈ ['0'], isDigit character = true :=
  List.forall_mem_singleton.mpr rfl

/-- A zero is the whole part of a number. No other digit may follow it there. -/
theorem Proper.zero : Proper ['0'] := ⟨isDigit_zero, .inl rfl⟩

section Layouts

variable {first : Char} {others rest : List Char} {lead : Int}

/-- Digits behind the point: zeros in front of them count nothing. The whole part is a single
zero. -/
theorem takeNumber_small (negative : Bool) (suffix : String)
    (all : ∀ character ∈ first :: others, isDigit character = true)
    (fits : digitsValue (first :: others) < UInt64.size) (small : lead < 0)
    (ends : EndsNumber rest) :
    takeNumber (withSign negative ((plainText suffix (first :: others) lead).toList ++ rest)) =
      (scaled (digitsValue (first :: others)).toUInt64.toFloat (lead - others.length)).map
        fun magnitude => (.real (signed negative magnitude), rest) := by
  have fraction : ∀ character ∈ List.replicate (-lead - 1).toNat '0' ++ first :: others,
      isDigit character = true := by
    intro character member
    rcases List.mem_append.mp member with zeros | digits
    · rw [List.eq_of_mem_replicate zeros]
      rfl
    · exact all character digits
  have text : (plainText suffix (first :: others) lead).toList =
      ['0'] ++ '.' :: (List.replicate (-lead - 1).toNat '0' ++ first :: others) := by
    rw [plainText, if_pos small, String.toList_ofList]
    rfl
  rw [text, List.append_assoc,
    takeNumber_plain negative .zero (List.append_ne_nil_of_right_ne_nil _ (List.cons_ne_nil _ _))
      fraction ends]
  refine realNumber_map negative rest ?_ ?_ fits
  · exact zeros_digitsValue ((-lead - 1).toNat + 1) (first :: others)
  · simp only [List.length_append, List.length_replicate, List.length_cons]
    omega

/-- Digits that end in front of the point: zeros fill up the places up to it, and one stands
behind it. The zero behind the point makes the number ten times as large, and the place makes up
for it. -/
theorem takeNumber_whole (negative : Bool) (leading : first ≠ '0')
    (all : ∀ character ∈ first :: others, isDigit character = true)
    (fits : digitsValue (first :: others) * 10 ^ ((lead - others.length).toNat + 1) <
      UInt64.size) (enough : others.length ≤ lead) (ends : EndsNumber rest) :
    takeNumber (withSign negative ((plainText ".0" (first :: others) lead).toList ++ rest)) =
      (scaled (digitsValue (first :: others) *
          10 ^ ((lead - others.length).toNat + 1)).toUInt64.toFloat (-1)).map
        fun magnitude => (.real (signed negative magnitude), rest) := by
  have filled : ∀ character ∈ first :: (others ++
      List.replicate (lead - others.length).toNat '0'), isDigit character = true := by
    intro character member
    rw [← List.cons_append] at member
    rcases List.mem_append.mp member with digits | zeros
    · exact all character digits
    · rw [List.eq_of_mem_replicate zeros]
      rfl
  have text : (plainText ".0" (first :: others) lead).toList =
      first :: (others ++ List.replicate (lead - others.length).toNat '0') ++ '.' :: ['0'] := by
    have places : lead.toNat + 1 - (first :: others).length = (lead - others.length).toNat := by
      rw [List.length_cons]
      omega
    have short : (first :: others).length ≤ lead.toNat + 1 := by
      rw [List.length_cons]
      omega
    rw [plainText, if_neg (by omega)]
    simp only [short, if_true, places, String.toList_append, String.toList_ofList,
      List.cons_append]
    rfl
  rw [text, List.append_assoc,
    takeNumber_plain negative (Proper.cons leading filled) (List.cons_ne_nil _ _)
      isDigit_zero ends]
  have value : digitsValue (first :: (others ++
      List.replicate (lead - others.length).toNat '0') ++ ['0']) =
      digitsValue (first :: others) * 10 ^ ((lead - others.length).toNat + 1) := by
    rw [← digitsValue_zeros, List.replicate_succ', ← List.append_assoc]
    rfl
  exact realNumber_map negative rest value rfl fits

/-- Digits around the point. At least one digit stands on either side. -/
theorem takeNumber_mixed (negative : Bool) (suffix : String) (leading : first ≠ '0')
    (all : ∀ character ∈ first :: others, isDigit character = true)
    (fits : digitsValue (first :: others) < UInt64.size) (positive : 0 ≤ lead)
    (more : lead < others.length) (ends : EndsNumber rest) :
    takeNumber (withSign negative ((plainText suffix (first :: others) lead).toList ++ rest)) =
      (scaled (digitsValue (first :: others)).toUInt64.toFloat (lead - others.length)).map
        fun magnitude => (.real (signed negative magnitude), rest) := by
  have digits := List.take_append_drop lead.toNat others
  have front : ∀ character ∈ first :: others.take lead.toNat, isDigit character = true := by
    intro character member
    rcases List.mem_cons.mp member with rfl | member
    · exact all _ List.mem_cons_self
    · exact all character (List.mem_cons_of_mem first (List.mem_of_mem_take member))
  have back : ∀ character ∈ others.drop lead.toNat, isDigit character = true :=
    fun character member => all character (List.mem_cons_of_mem first (List.mem_of_mem_drop member))
  have some : others.drop lead.toNat ≠ [] := by
    rw [ne_eq, List.drop_eq_nil_iff]
    omega
  have text : (plainText suffix (first :: others) lead).toList =
      first :: others.take lead.toNat ++ '.' :: others.drop lead.toNat := by
    have long : ¬ (first :: others).length ≤ lead.toNat + 1 := by
      rw [List.length_cons]
      omega
    rw [plainText, if_neg (by omega)]
    simp only [long, if_false, String.toList_ofList, List.take_succ_cons, List.drop_succ_cons]
  rw [text, List.append_assoc, takeNumber_plain negative (Proper.cons leading front) some back ends]
  refine realNumber_map negative rest ?_ ?_ fits
  · rw [List.cons_append, digits]
  · rw [List.length_drop]
    omega

/-- Digits with an exponent. The first digit is followed by a point if there are others. -/
theorem takeNumber_withExponent (negative : Bool) (leading : first ≠ '0')
    (all : ∀ character ∈ first :: others, isDigit character = true)
    (fits : digitsValue (first :: others) < UInt64.size) (ends : EndsNumber rest) :
    takeNumber (withSign negative ((scientificText "+" (first :: others) lead).toList ++ rest)) =
      (scaled (digitsValue (first :: others)).toUInt64.toFloat (lead - others.length)).map
        fun magnitude => (.real (signed negative magnitude), rest) := by
  have one : Proper [first] :=
    Proper.cons leading fun character member =>
      List.mem_singleton.mp member ▸ all first List.mem_cons_self
  have exponent : (if lead < 0 then "" else "+").toList ++ (toString lead).toList =
      exponentText lead := by
    cases lead with
    | ofNat number =>
      have positive : ¬ Int.ofNat number < 0 := Int.not_lt.mpr (Int.natCast_nonneg number)
      rw [if_neg positive, exponentText, if_neg positive]
      change '+' :: (toString number).toList = _
      rw [Nat.toString_eq_repr, Nat.toList_repr]
      rfl
    | negSucc number =>
      rw [if_pos (Int.negSucc_lt_zero number), exponentText, if_pos (Int.negSucc_lt_zero number)]
      change ("-" ++ toString (number + 1)).toList = _
      rw [String.toList_append, Nat.toString_eq_repr, Nat.toList_repr]
      rfl
  have text : (scientificText "+" (first :: others) lead).toList =
      [first] ++ (pointed others ++ ('e' :: exponentText lead)) := by
    rw [← exponent]
    simp only [scientificText, String.toList_append, String.toList_ofList, List.take_succ_cons]
    cases others with
    | nil => rfl
    | cons second others =>
      have long : ¬ (first :: second :: others).length ≤ 1 := by
        rw [List.length_cons, List.length_cons]
        omega
      rw [if_neg long, List.append_assoc, List.append_assoc, List.append_assoc]
      rfl
  rw [text, List.append_assoc, List.append_assoc,
    takeNumber_scientific negative lead one
      (fun character member => all character (List.mem_cons_of_mem first member)) ends]
  exact realNumber_map negative rest rfl rfl fits

end Layouts

/-! ## All doubles -/

/-- What the text of a double spells in a document: a whole number and a power of ten. A whole
double keeps a point and a zero, which is a digit like the others. It is the decimal that the
reader sees, which is not always the shortest one. -/
def spelled (value : Binary) : Digits :=
  if value.significand = 0 then ⟨0, -1⟩
  else
    let decimal := shortest inDocument.tie value
    let written := digitsOf decimal.significand
    let digits := withoutFinalZeros written
    let exponent := decimal.exponent + written.length - digits.length
    if inDocument.isPlain (decimal.exponent + written.length - 1) && decide (0 ≤ exponent) then
      ⟨digitsValue digits * 10 ^ (exponent.toNat + 1), -1⟩
    else ⟨digitsValue digits, exponent⟩

/-- The digits of a double without the zeros at their end, and the place of the first one. All
that is needed of the search for digits is kept in these facts. -/
structure Significant (value : Binary) (first : Char) (others : List Char) (lead : Int) :
    Prop where
  leading : first ≠ '0'
  all : ∀ character ∈ first :: others, isDigit character = true
  few : digitsValue (first :: others) < 10 ^ 17
  roundsTo : RoundsTo (Digits.toRat ⟨digitsValue (first :: others), lead - others.length⟩) value
  text : finiteText inDocument value =
    if inDocument.isPlain lead then plainText ".0" (first :: others) lead
    else scientificText "+" (first :: others) lead
  spells : spelled value =
    if inDocument.isPlain lead && decide (0 ≤ lead - others.length) then
      ⟨digitsValue (first :: others) * 10 ^ ((lead - others.length).toNat + 1), -1⟩
    else ⟨digitsValue (first :: others), lead - others.length⟩

/-- Every double other than zero has such digits. Zero has a text of its own. -/
theorem exists_significant {value : Binary} (positive : 0 < value.significand)
    (regular : value.Regular) : ∃ first others lead, Significant value first others lead := by
  obtain ⟨some, few, roundsTo⟩ := shortest_spec inDocument.tie positive regular
  obtain ⟨first, others, count, stripped, leading, all, written, number⟩ :=
    significant_digits some
  have length : ((digitsOf (shortest inDocument.tie value).significand).length : Int) =
      others.length + 1 + count := by
    rw [written, List.length_append, List.length_replicate, List.length_cons]
    push_cast
    rfl
  have size : ((first :: others).length : Int) = others.length + 1 := by
    rw [List.length_cons]
    push_cast
    rfl
  refine ⟨first, others, (shortest inDocument.tie value).exponent + others.length + count,
    leading, all, ?_, ?_, ?_, ?_⟩
  · refine Nat.lt_of_le_of_lt ?_ few
    rw [number]
    exact Nat.le_mul_of_pos_right _ (Nat.pow_pos (by decide))
  · convert roundsTo using 1
    rw [Digits.toRat, Digits.toRat, number]
    push_cast
    rw [show (shortest inDocument.tie value).exponent + others.length + count - others.length =
      count + (shortest inDocument.tie value).exponent by omega, zpow_add₀ (by norm_num),
      zpow_natCast, mul_assoc]
  · rw [finiteText, if_neg positive.ne']
    simp only [stripped, length]
    rw [show (shortest inDocument.tie value).exponent + (others.length + 1 + count) - 1 =
      (shortest inDocument.tie value).exponent + others.length + count by omega]
    rfl
  · rw [spelled, if_neg positive.ne']
    simp only [stripped, length, size]
    rw [show (shortest inDocument.tie value).exponent + (others.length + 1 + count) - 1 =
        (shortest inDocument.tie value).exponent + others.length + count by omega,
      show (shortest inDocument.tie value).exponent + (others.length + 1 + count) -
        (others.length + 1) = (shortest inDocument.tie value).exponent + others.length + count -
          others.length by omega]

/-- What the text of a double spells has seventeen digits at most. So it fits sixty-four bits,
and the reader takes up every digit. -/
theorem spelled_lt {value : Binary} (regular : value.Regular) :
    (spelled value).significand < 10 ^ 17 := by
  rcases Nat.eq_zero_or_pos value.significand with zero | positive
  · rw [spelled, if_pos zero]
    decide
  obtain ⟨first, others, lead, digits⟩ := exists_significant positive regular
  rw [digits.spells]
  split
  · rename_i whole
    simp only [inDocument, Bool.and_eq_true, decide_eq_true_eq] at whole
    calc
      digitsValue (first :: others) * 10 ^ ((lead - others.length).toNat + 1)
        < 10 ^ (first :: others).length * 10 ^ ((lead - others.length).toNat + 1) :=
          Nat.mul_lt_mul_of_pos_right (digitsValue_lt digits.all) (Nat.pow_pos (by decide))
      _ = 10 ^ ((first :: others).length + ((lead - others.length).toNat + 1)) :=
          (Nat.pow_add _ _ _).symm
      _ ≤ 10 ^ 17 := Nat.pow_le_pow_right (by decide) (by rw [List.length_cons]; omega)
  · exact digits.few

/-- What the text of a double spells is rounded to the double. A reader that rounds only once
therefore finds the double. -/
theorem spelled_roundsTo {value : Binary} (positive : 0 < value.significand)
    (regular : value.Regular) : RoundsTo (spelled value).toRat value := by
  obtain ⟨first, others, lead, digits⟩ := exists_significant positive regular
  rw [digits.spells]
  split
  · rename_i whole
    rw [Bool.and_eq_true, decide_eq_true_eq] at whole
    convert digits.roundsTo using 1
    obtain ⟨count, places⟩ := Int.eq_ofNat_of_zero_le whole.2
    rw [Digits.toRat, Digits.toRat, places, Int.toNat_natCast]
    push_cast
    rw [zpow_natCast, zpow_neg_one, pow_succ]
    ring
  · exact digits.roundsTo

/-- The text of a finite double is read as the double that is made of what the text spells.

Proof: the four ways to write digits, with a point in front of all of them, a point between
them, zeros and a point behind them, or an exponent. -/
theorem takeNumber_finiteText (negative : Bool) {value : Binary} (regular : value.Regular)
    {rest : List Char} (ends : EndsNumber rest) :
    takeNumber (withSign negative ((finiteText inDocument value).toList ++ rest)) =
      (scaled (spelled value).significand.toUInt64.toFloat (spelled value).exponent).map
        fun magnitude => (.real (signed negative magnitude), rest) := by
  rcases Nat.eq_zero_or_pos value.significand with zero | positive
  · have read : takeNumber (withSign negative (['0'] ++ ('.' :: ['0'] ++ rest))) =
        (realNumber negative ['0'] ['0'] 0).map fun value => (.real value, rest) :=
      takeNumber_plain negative .zero (List.cons_ne_nil _ _) isDigit_zero ends
    rw [finiteText, if_pos zero, spelled, if_pos zero]
    exact read.trans (realNumber_map negative rest rfl rfl (by decide))
  obtain ⟨first, others, lead, digits⟩ := exists_significant positive regular
  have fits : (spelled value).significand < UInt64.size :=
    Nat.lt_trans (spelled_lt regular) (by decide)
  rw [digits.spells] at fits ⊢
  rw [digits.text]
  by_cases plain : inDocument.isPlain lead = true
  · rw [plain, Bool.true_and] at fits ⊢
    rw [if_pos rfl]
    by_cases ended : 0 ≤ lead - others.length
    · rw [if_pos (decide_eq_true ended)] at fits ⊢
      exact takeNumber_whole negative digits.leading digits.all fits (by omega) ends
    · rw [if_neg (fun inside => ended (of_decide_eq_true inside))] at fits ⊢
      by_cases small : lead < 0
      · exact takeNumber_small negative _ digits.all fits small ends
      · exact takeNumber_mixed negative _ digits.leading digits.all fits (by omega) (by omega) ends
  · rw [Bool.not_eq_true] at plain
    rw [plain, Bool.false_and, if_neg Bool.false_ne_true] at fits ⊢
    rw [if_neg Bool.false_ne_true]
    exact takeNumber_withExponent negative digits.leading digits.all fits ends

/-- A finite double is read as the double that is made of what its text spells, if that one is
in range. Whether this is the same double is a question of the scaling. -/
theorem Reader.ReadsBack.float {value found : Float} {binary : Binary}
    (finite : magnitude value = .finite binary)
    (inRange : scaled (spelled binary).significand.toUInt64.toFloat (spelled binary).exponent =
      .ok found) :
    Reader.float.ReadsBack 0 (.real value) (signed (isNegative value) found) := by
  have written (form : Form) (level : Nat) : ((Document.real value).write form level).toList =
      withSign (isNegative value) (finiteText inDocument binary).toList := by
    rw [write, Layout.text, finite]
    simp only [String.toList_append, withSign]
    cases isNegative value <;> rfl
  have signAppend (text rest : List Char) : withSign (isNegative value) text ++ rest =
      withSign (isNegative value) (text ++ rest) := by
    cases isNegative value <;> rfl
  have read (rest : List Char) (ends : EndsNumber rest) :
      takeNumber (withSign (isNegative value) (finiteText inDocument binary).toList ++ rest) =
        .ok (.real (signed (isNegative value) found), rest) := by
    rw [signAppend, takeNumber_finiteText _ (regular_of_magnitude finite) ends, inRange]
    rfl
  obtain ⟨first, others, text, begins⟩ := beginsNumber_of_takeNumber (read [] EndsNumber.nil)
  rw [List.append_nil] at text
  refine ⟨fun form level => ⟨first, others, (written form level).trans text,
    beginsNumber_solid begins⟩, fun form level available gap rest _ margin ends => ?_⟩
  have reading := read rest ends
  rw [text, List.cons_append] at reading
  rw [written, text, List.append_assoc, List.cons_append, Reader.float, Reader.map,
    anyNumber_gap "f64" available margin begins, reading]
  rfl

end WindowPlacement.Document
