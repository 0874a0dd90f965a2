import PathQuery.Proofs.Analysis.Equations

/-!
Opening parentheses against closing ones. The analysis takes away a closing parenthesis for each
opening one at most; the scope that takes away something else instead leaves its parenthesis over.
`Leaves parts left derived` is what holds of every step that takes parts away from the front: the
surplus of opening parentheses does not grow, and when it stays the parts are what they should be.
-/

namespace PathQuery

/-- One for an opening parenthesis, and minus one for a closing one. -/
def TokenKind.parenthesis : TokenKind → Int
  | scopeStart => 1
  | scopeStop => -1
  | _ => 0

theorem Part.parenthesis_of_isOperand {part : Part} (operand : part.isOperand = true) :
    part.kind.parenthesis = 0 := by
  rcases kind_of_isOperand operand with literal | same
  · revert literal
    cases part.kind <;> simp [TokenKind.isLiteral, TokenKind.parenthesis]
  · rw [same]
    rfl

theorem Part.closesRange_of_isOperand {part : Part} (operand : part.isOperand = true) :
    part.kind.closesRange = false := by
  rcases kind_of_isOperand operand with literal | same
  · revert literal
    cases part.kind <;> simp [TokenKind.isLiteral, TokenKind.closesRange]
  · rw [same]
    rfl

namespace Analysis

def surplus : List Part → Int
  | [] => 0
  | part :: parts => part.kind.parenthesis + surplus parts

@[simp] theorem surplus_nil : surplus [] = 0 := rfl

@[simp] theorem surplus_cons (part : Part) (parts : List Part) :
    surplus (part :: parts) = part.kind.parenthesis + surplus parts := rfl

@[simp] theorem surplus_append (parts others : List Part) :
    surplus (parts ++ others) = surplus parts + surplus others := by
  induction parts with
  | nil => simp
  | cons part parts ih =>
    rw [List.cons_append, surplus_cons, surplus_cons, ih]
    omega

theorem surplus_of_isOperand {parts : List Part} (operands : ∀ part ∈ parts, part.isOperand = true) :
    surplus parts = 0 := by
  induction parts with
  | nil => rfl
  | cons part parts ih =>
    obtain ⟨operand, others⟩ := List.forall_mem_cons.mp operands
    rw [surplus_cons, part.parenthesis_of_isOperand operand, ih others]
    rfl

/-- Parts as the analysis meets them: tokens and operands, arguments behind every method. -/
structure Fit (parts : List Part) : Prop where
  met : ∀ part ∈ parts, part.isToken = true ∨ part.isOperand = true
  called : parts.IsChain fun part next => part.kind = .method → next.kind = .scopeStart

namespace Fit

variable {part : Part} {parts others : List Part}

theorem nil : Fit [] :=
  ⟨by simp, .nil⟩

theorem of_append (fit : Fit (parts ++ others)) : Fit others :=
  ⟨fun part member => fit.met part (List.mem_append_right _ member),
    (List.isChain_append.mp fit.called).2.1⟩

theorem tail (fit : Fit (part :: parts)) : Fit parts :=
  @of_append [part] parts fit

theorem drop (fit : Fit parts) (count : Nat) : Fit (parts.drop count) := by
  rw [← List.take_append_drop count parts] at fit
  exact fit.of_append

theorem cons_of_isOperand (operand : part.isOperand = true) (fit : Fit parts) :
    Fit (part :: parts) := by
  refine ⟨List.forall_mem_cons.mpr ⟨.inr operand, fit.met⟩, ?_⟩
  refine fit.called.cons fun next _ method => ?_
  rcases Part.kind_of_isOperand operand with literal | same
  · rw [method] at literal
    cases literal
  · rw [method] at same
    cases same

theorem append_of_isOperand (operands : ∀ part ∈ parts, part.isOperand = true) (fit : Fit others) :
    Fit (parts ++ others) := by
  induction parts with
  | nil => exact fit
  | cons part parts ih =>
    obtain ⟨operand, operands⟩ := List.forall_mem_cons.mp operands
    exact cons_of_isOperand operand (ih operands)

end Fit

/-- Taking parts away from the front adds no opening parentheses to what is left. When it takes no
more of them away than closing ones, the parts taken away are derived from tokens. -/
structure Leaves (parts left : List Part) (derived : List Part → Prop) : Prop where
  fit : Fit left
  surplus_le : surplus left ≤ surplus parts
  derives : surplus left = surplus parts → (∀ part ∈ parts, part.isToken = true) →
    ∃ block, parts = block ++ left ∧ derived block

namespace Leaves

variable {parts middle left : List Part} {derived more : List Part → Prop}

theorem mono (leaves : Leaves parts left derived) (implies : ∀ block, derived block → more block) :
    Leaves parts left more := by
  refine ⟨leaves.fit, leaves.surplus_le, ?_⟩
  intro same tokens
  obtain ⟨block, split, holds⟩ := leaves.derives same tokens
  exact ⟨block, split, implies block holds⟩

theorem refl (fit : Fit parts) (holds : derived []) : Leaves parts parts derived :=
  ⟨fit, Int.le_refl _, fun _ _ => ⟨[], rfl, holds⟩⟩

theorem of_lt (fit : Fit left) (fewer : surplus left < surplus parts) :
    Leaves parts left derived :=
  ⟨fit, Int.le_of_lt fewer, fun same => absurd same (Int.ne_of_lt fewer)⟩

theorem trans (first : Leaves parts middle derived) (second : Leaves middle left more) :
    Leaves parts left fun block =>
      ∃ front back, block = front ++ back ∧ derived front ∧ more back := by
  refine ⟨second.fit, Int.le_trans second.surplus_le first.surplus_le, ?_⟩
  intro same tokens
  have bounds := And.intro first.surplus_le second.surplus_le
  obtain ⟨front, rfl, derivedFront⟩ := first.derives (by omega) tokens
  obtain ⟨back, rfl, derivedBack⟩ := second.derives (by omega)
    fun part member => tokens part (List.mem_append_right _ member)
  exact ⟨front ++ back, by simp, front, back, rfl, derivedFront, derivedBack⟩

theorem single {part : Part} (fit : Fit (part :: parts)) (other : part.kind.parenthesis = 0) :
    Leaves (part :: parts) parts fun block => block = [part] ∧ part.isToken = true := by
  refine ⟨fit.tail, ?_, ?_⟩
  · rw [surplus_cons, other]
    omega
  · intro _ tokens
    exact ⟨[part], rfl, rfl, tokens part List.mem_cons_self⟩

theorem brackets {opening closing : Part} (leaves : Leaves parts (closing :: left) derived)
    (pair : opening.kind.parenthesis + closing.kind.parenthesis = 0) :
    Leaves (opening :: parts) left fun block =>
      ∃ inside, block = opening :: inside ++ [closing] ∧ derived inside := by
  have bound := leaves.surplus_le
  rw [surplus_cons] at bound
  refine ⟨leaves.fit.tail, ?_, ?_⟩
  · rw [surplus_cons]
    omega
  · intro same tokens
    rw [surplus_cons] at same
    obtain ⟨inside, rfl, holds⟩ := leaves.derives (by rw [surplus_cons]; omega)
      (List.forall_mem_cons.mp tokens).2
    exact ⟨opening :: inside ++ [closing], by simp, inside, rfl, holds⟩

end Leaves

end Analysis

end PathQuery
