import Mathlib.Data.List.Induction
import Mathlib.Data.Nat.Find
import WindowPlacement.Code

/-!
# The height of the stack

An instruction that pushes makes the stack one operand higher; an operator takes two
operands and leaves one, so it makes the stack one lower. How high the stack is can be
counted without carrying anything out, as long as every operator finds its two operands.

Code is supplied if that is so at each of its operators. Both notions are about the
instructions in front of a place, so they are taken apart at the last instruction.
-/

namespace WindowPlacement

namespace Operation

/-- Whether an instruction pushes an operand. What the operand is does not matter for the
height. -/
def isPush : Operation → Bool
  | .push _ => true
  | .apply _ => false

/-- Whether an instruction applies an operator. Every instruction is one of the two, and none is
both. -/
def isApply : Operation → Bool
  | .push _ => false
  | .apply _ => true

end Operation

namespace Postfix

/-- The number of pushes less the number of operators. It is negative where there are more
operators. Only the instructions count, so that the height is known before any name has a
value. -/
def height (operations : List Operation) : Int :=
  (operations.countP Operation.isPush : Int) - operations.countP Operation.isApply

/-- In front of every operator the instructions have made the stack at least two high. Operands
that lie on the stack in advance are not counted: the code has to bring its own. -/
def Supplied (operations : List Operation) : Prop :=
  ∀ index operator, operations[index]? = some (.apply operator) →
    2 ≤ height (operations.take index)

/-- The operator at the index is the first one that finds fewer than two operands. Later
operators may starve as well. This one is where a run comes to its end. -/
structure Starves (operations : List Operation) (index : Nat) : Prop where
  short : ∃ operator, operations[index]? = some (.apply operator) ∧
    height (operations.take index) < 2
  first : ∀ earlier < index, ∀ operator, operations[earlier]? = some (.apply operator) →
    2 ≤ height (operations.take earlier)

/-- No instructions leave the stack as it is. This is the base of every induction on code from
its last instruction on. -/
@[simp] theorem height_nil : height [] = 0 := rfl

/-- A push makes the stack one higher. A name that has not been looked up counts as much as a
value. -/
@[simp] theorem height_push (operand : Operand) : height [.push operand] = 1 := rfl

/-- An operator makes the stack one lower. All four operators take two operands and leave
one. -/
@[simp] theorem height_apply (operator : Operator) : height [.apply operator] = -1 := rfl

/-- The heights of two parts add up. So the height of a whole is found from those of its parts,
in whatever way it is cut. -/
@[simp] theorem height_append (first second : List Operation) :
    height (first ++ second) = height first + height second := by
  simp only [height, List.countP_append]
  omega

/-- Code is supplied if it is so without its last instruction, and that one finds two operands
if it is an operator. A last push is always supplied, since it takes nothing. -/
theorem supplied_concat (operations : List Operation) (last : Operation) :
    Supplied (operations ++ [last]) ↔
      Supplied operations ∧ ∀ operator, last = .apply operator → 2 ≤ height operations := by
  constructor
  · intro supplied
    constructor
    · intro index operator here
      have inside : index < operations.length := (List.getElem?_eq_some_iff.mp here).1
      have kept : (operations ++ [last])[index]? = some (.apply operator) := by
        rw [List.getElem?_append_left inside, here]
      have enough := supplied index operator kept
      rwa [List.take_append_of_le_length (Nat.le_of_lt inside)] at enough
    · rintro operator rfl
      have enough := supplied operations.length operator (by simp)
      rwa [List.take_left] at enough
  · rintro ⟨supplied, enough⟩ index operator here
    rcases Nat.lt_trichotomy index operations.length with inside | rfl | outside
    · rw [List.getElem?_append_left inside] at here
      rw [List.take_append_of_le_length (Nat.le_of_lt inside)]
      exact supplied index operator here
    · rw [List.take_left]
      exact enough operator (by simpa using here)
    · have beyond : (operations ++ [last]).length ≤ index := by
        rw [List.length_append, List.length_singleton]
        exact outside
      rw [List.getElem?_eq_none beyond] at here
      cases here

/-- No instructions are supplied with operands. -/
theorem supplied_nil : Supplied [] := by
  intro index operator here
  rw [List.getElem?_nil] at here
  cases here

/-- Supplied code leaves at least one operand, unless there is no instruction.

Proof: induction on the code, from its last instruction on. An operator finds two operands and
leaves one. -/
theorem Supplied.height_pos {operations : List Operation} (supplied : Supplied operations)
    (present : operations ≠ []) : 0 < height operations := by
  induction operations using List.reverseRecOn with
  | nil => exact absurd rfl present
  | append_singleton operations last inductionHypothesis =>
    obtain ⟨before, enough⟩ := (supplied_concat operations last).mp supplied
    have low : 0 ≤ height operations := by
      by_cases first : operations = []
      · simp only [first, height_nil, Int.le_refl]
      · exact Int.le_of_lt (inductionHypothesis before first)
    cases last with
    | push operand =>
      rw [height_append, height_push]
      omega
    | apply operator =>
      have two := enough operator rfl
      rw [height_append, height_apply]
      omega

/-- Code that is not supplied has a first operator that starves. There is a least index of that
kind, because indices are natural numbers. -/
theorem exists_starves {operations : List Operation} (short : ¬ Supplied operations) :
    ∃ index, Starves operations index := by
  classical
  have somewhere : ∃ index, ∃ operator, operations[index]? = some (.apply operator) ∧
      height (operations.take index) < 2 := by
    by_contra nowhere
    refine short fun index operator here => ?_
    by_contra low
    exact nowhere ⟨index, operator, here, Int.not_le.mp low⟩
  refine ⟨Nat.find somewhere, Nat.find_spec somewhere, ?_⟩
  intro earlier before operator here
  by_contra low
  exact Nat.find_min somewhere before ⟨operator, here, Int.not_le.mp low⟩

/-- What stands in front of the operator that starves is supplied. Up to there a run does not
fail for want of operands. -/
theorem Starves.supplied_take {operations : List Operation} {index : Nat}
    (starves : Starves operations index) : Supplied (operations.take index) := by
  intro earlier operator here
  have inside : earlier < index := by
    have bound := (List.getElem?_eq_some_iff.mp here).1
    rw [List.length_take] at bound
    omega
  rw [List.getElem?_take_of_lt inside] at here
  rw [List.take_take, Nat.min_eq_left (Nat.le_of_lt inside)]
  exact starves.first earlier inside operator here

end Postfix

end WindowPlacement
