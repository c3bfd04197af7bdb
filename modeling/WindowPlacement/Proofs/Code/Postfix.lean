import WindowPlacement.Proofs.Code.Height

/-!
# Postfix code and trees

Code can be read back into trees by carrying it out on a stack of trees: a push puts a
leaf on the stack, and an operator joins the two trees on top into one node. No value is
needed for this, and nothing of the code is forgotten, because the code of the trees on
the stack is the code that has been read.

The code of a tree is read back into the tree, so different trees have different code.
Code is read to its end exactly if it is supplied with operands, and then leaves as many
trees as it makes the stack high. Hence the code of trees is exactly the supplied code of
height one.
-/

namespace WindowPlacement

/-- The leaf for an operand. -/
def Expr.ofOperand : Operand → Expr
  | .variable name => .symbol name
  | .value value => .number value

namespace Postfix

/-- Carries out one instruction on a stack of trees, whose first one is on top. There is no
stack afterwards where an operator finds fewer than two trees. It fails where the machine would
run out of operands, and nowhere else. -/
def combine (stack : List Expr) : Operation → Option (List Expr)
  | .push operand => some (.ofOperand operand :: stack)
  | .apply operator =>
    match stack with
    | right :: left :: below => some (.binary operator left right :: below)
    | _ => none

/-- Carries out instructions one after another on a stack of trees. The stack is arbitrary, so
that a part of some code can be read back on what stands before it. -/
def assemble (stack : List Expr) (operations : List Operation) : Option (List Expr) :=
  operations.foldlM combine stack

/-- The code of the trees on a stack, from the lowest to the one on top. It is the code that
leads to the stack, since every tree is carried out before the next one. -/
def flatten (stack : List Expr) : List Operation := stack.reverse.flatMap Expr.operations

/-- The code of the tree on top comes last. The lowest tree of a stack is the one whose code was
carried out first. -/
theorem flatten_cons (expr : Expr) (stack : List Expr) :
    flatten (expr :: stack) = flatten stack ++ expr.operations := by
  simp [flatten]

/-! ## One instruction -/

/-- An instruction pushes a leaf, or it is an operator and joins the two trees on top. This is
all that an instruction can do. Later proofs take it apart no further. -/
theorem combine_eq_some_iff (stack next : List Expr) (operation : Operation) :
    combine stack operation = some next ↔
      (∃ operand, operation = .push operand ∧ next = .ofOperand operand :: stack) ∨
        ∃ operator right left below, operation = .apply operator ∧
          stack = right :: left :: below ∧ next = .binary operator left right :: below := by
  constructor
  · intro combined
    cases operation with
    | push operand =>
      cases combined
      exact Or.inl ⟨operand, rfl, rfl⟩
    | apply operator =>
      match stack, combined with
      | right :: left :: below, rfl => exact Or.inr ⟨operator, right, left, below, rfl, rfl, rfl⟩
  · rintro (⟨operand, rfl, rfl⟩ | ⟨operator, right, left, below, rfl, rfl, rfl⟩)
    · rfl
    · rfl

/-- The code of the trees grows by the instruction that has been carried out. Nothing is
forgotten, so that the code can be recovered from the trees. -/
theorem flatten_combine {stack next : List Expr} {operation : Operation}
    (combined : combine stack operation = some next) :
    flatten next = flatten stack ++ [operation] := by
  rcases (combine_eq_some_iff stack next operation).mp combined with
    ⟨operand, rfl, rfl⟩ | ⟨operator, right, left, below, rfl, rfl, rfl⟩
  · have leaf : (Expr.ofOperand operand).operations = [.push operand] := by
      cases operand <;> rfl
    rw [flatten_cons, leaf]
  · simp only [flatten_cons, Expr.operations, List.append_assoc]

/-- The number of trees changes as the height does. The height counts what happens on the stack,
without a stack. -/
theorem length_combine {stack next : List Expr} {operation : Operation}
    (combined : combine stack operation = some next) :
    (next.length : Int) = stack.length + height [operation] := by
  rcases (combine_eq_some_iff stack next operation).mp combined with
    ⟨operand, rfl, rfl⟩ | ⟨operator, right, left, below, rfl, rfl, rfl⟩
  · simp
  · simp only [List.length_cons, height_apply]
    omega

/-- An instruction is carried out where an operator finds two trees. A push asks for nothing. -/
theorem exists_combine {stack : List Expr} {operation : Operation}
    (enough : ∀ operator, operation = .apply operator → 2 ≤ stack.length) :
    ∃ next, combine stack operation = some next := by
  cases operation with
  | push operand => exact ⟨_, rfl⟩
  | apply operator =>
    match stack, enough operator rfl with
    | right :: left :: below, _ => exact ⟨_, rfl⟩

/-! ## Rows of instructions -/

/-- Two rows of instructions are carried out one after the other. If the first row fails, the
second one is not begun. -/
theorem assemble_append (stack : List Expr) (first second : List Operation) :
    assemble stack (first ++ second) =
      (assemble stack first).bind fun next => assemble next second := by
  simp only [assemble, List.foldlM_append]
  rfl

/-- The last instruction is carried out on what the others leave. Inductions on code go this
way, because a stack shows what stands in front of it. -/
theorem assemble_concat (stack : List Expr) (operations : List Operation) (last : Operation) :
    assemble stack (operations ++ [last]) =
      (assemble stack operations).bind fun next => combine next last := by
  rw [assemble_append]
  congr 1
  funext next
  simp [assemble]

/-- The code of a tree puts the tree on the stack.

Proof: induction on the tree. The operator of a node finds its two operands on top. -/
theorem assemble_operations (expr : Expr) (stack : List Expr) :
    assemble stack expr.operations = some (expr :: stack) := by
  induction expr generalizing stack with
  | symbol name => rfl
  | number value => rfl
  | binary operator left right leftHypothesis rightHypothesis =>
    rw [Expr.operations, assemble_concat, assemble_append, leftHypothesis, Option.bind_some,
      rightHypothesis, Option.bind_some]
    rfl

/-- The operator in front of the last one has joined the two trees on top by then. -/
example : assemble [] [.push (.variable "a"), .push (.variable "b"), .push (.variable "c"),
      .apply .subtract, .apply .add] =
    some [.binary .add (.symbol "a") (.binary .subtract (.symbol "b") (.symbol "c"))] := rfl

/-- Code that is read to its end is the code of the trees that it leaves, is supplied with
operands, and has the height of the stack. That supplied code is read to its end is stated in
`exists_assemble`.

Proof: induction on the code, from its last instruction on. -/
theorem of_assemble {operations : List Operation} {stack : List Expr}
    (assembled : assemble [] operations = some stack) :
    flatten stack = operations ∧ (stack.length : Int) = height operations ∧
      Supplied operations := by
  induction operations using List.reverseRecOn generalizing stack with
  | nil =>
    cases assembled
    exact ⟨rfl, rfl, supplied_nil⟩
  | append_singleton operations last inductionHypothesis =>
    rw [assemble_concat] at assembled
    obtain ⟨before, reached, combined⟩ := Option.bind_eq_some_iff.mp assembled
    obtain ⟨code, counted, supplied⟩ := inductionHypothesis reached
    have grown : (stack.length : Int) = before.length + height [last] := length_combine combined
    refine ⟨?_, ?_, ?_⟩
    · rw [flatten_combine combined, code]
    · rw [height_append, ← counted, grown]
    · refine (supplied_concat operations last).mpr ⟨supplied, ?_⟩
      rintro operator rfl
      rcases (combine_eq_some_iff before stack _).mp combined with
        ⟨operand, impossible, _⟩ | ⟨_, right, left, below, _, rfl, _⟩
      · cases impossible
      · rw [← counted]
        simp only [List.length_cons]
        omega

/-- Code that is supplied with operands is read to its end.

Proof: induction on the code, from its last instruction on. What stands before it leaves as many
trees as its height says, so an operator finds two of them. -/
theorem exists_assemble {operations : List Operation} (supplied : Supplied operations) :
    ∃ stack, assemble [] operations = some stack := by
  induction operations using List.reverseRecOn with
  | nil => exact ⟨[], rfl⟩
  | append_singleton operations last inductionHypothesis =>
    obtain ⟨before, enough⟩ := (supplied_concat operations last).mp supplied
    obtain ⟨stack, reached⟩ := inductionHypothesis before
    have counted : (stack.length : Int) = height operations := (of_assemble reached).2.1
    have two : ∀ operator, last = .apply operator → 2 ≤ stack.length := by
      intro operator same
      have high := enough operator same
      omega
    obtain ⟨next, combined⟩ := exists_combine two
    refine ⟨next, ?_⟩
    rw [assemble_concat, reached]
    exact combined

/-! ## Trees and their code -/

/-- Numbers are the same exactly if they have the same bits. The two zeros are different
numbers, and there is only one value that is no number. -/
theorem toBits_inj (first second : Float) : first.toBits = second.toBits ↔ first = second := by
  constructor
  · intro same
    cases first with
    | ofModel first =>
      cases second with
      | ofModel second =>
        cases first
        cases second
        cases same
        rfl
  · rintro rfl
    rfl

/-- Code and trees determine each other.

Instructions are the code of a tree exactly if every operator finds two operands and the stack
ends one high. The tree is then the only one with that code; its numbers are determined to the
bit. -/
theorem operations_bijective :
    (∀ operations : List Operation, (∃ expr : Expr, expr.operations = operations) ↔
      Supplied operations ∧ height operations = 1) ∧
    (∀ first second : Expr, first.operations = second.operations → first = second) ∧
    ∀ first second : Float, Expr.number first = .number second ↔
      first.toBits = second.toBits := by
  refine ⟨?_, ?_, ?_⟩
  · intro operations
    constructor
    · rintro ⟨expr, rfl⟩
      obtain ⟨_, counted, supplied⟩ := of_assemble (assemble_operations expr [])
      exact ⟨supplied, counted.symm⟩
    · rintro ⟨supplied, one⟩
      obtain ⟨stack, reached⟩ := exists_assemble supplied
      obtain ⟨code, counted, _⟩ := of_assemble reached
      have single : stack.length = 1 := by omega
      obtain ⟨expr, rfl⟩ := List.length_eq_one_iff.mp single
      exact ⟨expr, by simpa [flatten] using code⟩
  · intro first second same
    have read : assemble [] first.operations = assemble [] second.operations := by rw [same]
    simpa [assemble_operations] using read
  · intro first second
    rw [toBits_inj, Expr.number.injEq]

end Postfix

end WindowPlacement
