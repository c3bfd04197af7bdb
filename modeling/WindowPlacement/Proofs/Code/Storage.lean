import WindowPlacement.Code.Document
import WindowPlacement.Proofs.Document.Scaling

/-!
# Stored code

Code is read back from its text with the same operations in the same order and with the same
names. Of a pushed value the reader makes what it makes of the text of that value alone. The
digits are enough to tell the value from every other double, but the reader rounds more than
once, so a value of many digits or with a large power of ten may become a neighbour of itself.
-/

namespace WindowPlacement

open Document Reader

namespace Operation

/-- An operation with another value in the place of the one that it pushes. Names and operators
are left as they are. -/
def changeValue (change : Float → Float) : Operation → Operation
  | .push (.value value) => .push (.value (change value))
  | operation => operation

/-- An operation that pushes no value, or one that is finite. What is not finite has no digits,
and is written as something that is no number. -/
def IsStorable (operation : Operation) : Prop :=
  ∀ value, operation = .push (.value value) → value.isFinite = true

/-- An operation is read back. A value that it pushes is what the reader makes of it. The same
document is meant, not any text that stands for the same operation.

Proof: a name and a value stand behind two tags each, an operator is a tag itself. -/
theorem readsBack {operation : Operation} (storable : operation.IsStorable) :
    Operation.reader.ReadsBack 2 operation.document (operation.changeValue reread) := by
  match operation with
  | .push (.variable name) =>
    have content : Operand.reader.ReadsBack 1 (Operand.variable name).document (.variable name) :=
      .tagged rfl ((ReadsBack.text name).map _)
    exact ReadsBack.tagged rfl (content.map _)
  | .push (.value constant) =>
    obtain ⟨binary, finite⟩ := Rounding.exists_magnitude (storable constant rfl)
    have content : Operand.reader.ReadsBack 1 (Operand.value constant).document
        (.value (reread constant)) := .tagged rfl ((ReadsBack.reread finite).map _)
    exact ReadsBack.tagged rfl (content.map _)
  | .apply operator =>
    have tag : Operation.reader.ReadsBack 0 (Operation.apply operator).document
        (.apply operator) := by
      cases operator <;> exact ReadsBack.bare rfl
    exact tag.mono (Nat.zero_le 2)

/-- An operation is left as it is exactly if the value that it pushes is left as it is. For an
operation that pushes no value, there is nothing to compare. -/
theorem changeValue_eq_iff (change : Float → Float) (operation : Operation) :
    operation.changeValue change = operation ↔
      ∀ value, operation = .push (.value value) → change value = value := by
  match operation with
  | .push (.variable name) => simp [changeValue]
  | .push (.value constant) => simp [changeValue]
  | .apply operator => simp [changeValue]

end Operation

namespace Code

/-- Code with another value in the place of each one that it pushes. The number of operations
and their order stay the same. -/
def changeValues (change : Float → Float) (code : Code) : Code :=
  ⟨code.operations.map (Operation.changeValue change)⟩

/-- Code is read back, and each value in it is what the reader makes of that value. -/
theorem readsBack {code : Code} (storable : ∀ operation ∈ code.operations, operation.IsStorable) :
    Code.reader.ReadsBack 3 code.document (code.changeValues reread) := by
  have each : List.Forall₂ (Operation.reader.ReadsBack 2)
      (code.operations.map Operation.document)
      (code.operations.map (Operation.changeValue reread)) := by
    rw [List.forall₂_map_left_iff, List.forall₂_map_right_iff, List.forall₂_same]
    exact fun operation member => Operation.readsBack (storable operation member)
  exact (ReadsBack.list each).map Code.mk

/-- Code stays as it is exactly if every value in it does. -/
theorem changeValues_eq_iff (change : Float → Float) (code : Code) :
    code.changeValues change = code ↔
      ∀ value, .push (.value value) ∈ code.operations → change value = value := by
  obtain ⟨operations⟩ := code
  have same : operations.map (Operation.changeValue change) = operations ↔
      ∀ operation ∈ operations, operation.changeValue change = operation := by
    conv_lhs => rhs; rw [← List.map_id operations]
    exact List.map_inj_left
  simp only [changeValues, Code.mk.injEq, same, Operation.changeValue_eq_iff]
  constructor
  · intro each value pushed
    exact each _ pushed value rfl
  · rintro each operation member value rfl
    exact each value member

/-- Code whose values are finite can be stored. The text that is written for it, in either form,
is read as code with the same operations, each value being what the reader makes of its text. So
the code itself is read exactly if the reader finds each of its values again, which it does if
their texts have few digits. -/
theorem read_stored (code : Code) (form : Form)
    (storable : ∀ operation ∈ code.operations, operation.IsStorable) :
    Document.read Code.reader (code.document.write form 0) = .ok (code.changeValues reread) ∧
      (Document.read Code.reader (code.document.write form 0) = .ok code ↔
        ∀ value, .push (.value value) ∈ code.operations → reread value = value) ∧
      ∀ value, HasFewDigits value → reread value = value := by
  have stored : Document.read Code.reader (code.document.write form 0) =
      .ok (code.changeValues reread) := read_write (readsBack storable) (by decide) form
  refine ⟨stored, ?_, fun value => reread_of_few⟩
  rw [stored, Except.ok.injEq, changeValues_eq_iff]

/-- Code that is stored but not read back: its only value becomes a neighbour of itself. -/
theorem tiny_value_not_kept :
    Document.read Code.reader
        ((Code.mk [.push (.value (Float.ofBits 0x3B282DB34012B251))]).document.write .compact 0) =
      .ok ⟨[.push (.value (Float.ofBits 0x3B282DB34012B252))]⟩ := by
  have storable : ∀ operation ∈
      (Code.mk [.push (.value (Float.ofBits 0x3B282DB34012B251))]).operations,
      operation.IsStorable := by
    rintro operation member value rfl
    obtain rfl : value = Float.ofBits 0x3B282DB34012B251 := by
      simpa using member
    rfl
  rw [(read_stored _ .compact storable).1, changeValues, List.map_singleton,
    Operation.changeValue, reread_tiny]

end Code

end WindowPlacement
