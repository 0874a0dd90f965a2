import Mathlib.Data.List.Chain
import PathQuery.Expression.Tiers

/-!
The precedence of operators as a grammar on lists of operands and operators. `Phrase top tier parts
part` says that the operators of the tiers from `tier` up to `top` put the parts together to one
part, what binds tighter than that having been put together before. A list is an operator
expression when it is a phrase of all the tiers.
-/

namespace PathQuery

namespace Part

/-- Whether a part can stand beside an operator: a literal, an expression, or an empty scope. -/
def isOperand : Part → Bool
  | expression .expression _ => true
  | empty .expression => true
  | part => part.kind.isLiteral

/-- The expression that an operand is when it stands alone. An empty scope is none. -/
def value? : Part → Option Expression
  | expression .expression held => some held
  | empty .expression => none
  | literal _ value => some (.literal value)
  | _ => some (.literal .null)

def applied (left : Option Part) (operator : Part) (right : Option Part) : Part :=
  expression .expression (.operation left ⟨operator.kind, operator.render⟩ right)

theorem eq_empty_of_value {part : Part} (none : part.value? = none) : part = .empty .expression := by
  unfold value? at none
  split at none
  · cases none
  · rfl
  · cases none
  · cases none

theorem kind_of_isOperand {part : Part} (operand : part.isOperand = true) :
    part.kind.isLiteral = true ∨ part.kind = .expression := by
  unfold isOperand at operand
  split at operand
  · exact .inr rfl
  · exact .inr rfl
  · exact .inl operand

theorem precedence_of_isOperand {part : Part} (operand : part.isOperand = true) :
    part.kind.precedence? = none := by
  rcases kind_of_isOperand operand with literal | same
  · generalize part.kind = kind at literal
    cases kind <;> simp_all [TokenKind.isLiteral, TokenKind.precedence?]
  · rw [same]
    rfl

theorem isOperator_of_isOperand {part : Part} (operand : part.isOperand = true) :
    part.kind.isOperator = false := by
  rw [TokenKind.isOperator, precedence_of_isOperand operand]
  rfl

end Part

/-- The parts that the operators of the tiers from the second number up to the first put together
to one part. The tiers of `or`, `and` and `^` associate to the right and the others to the left. A
phrase of tier 9 has at most one `!`, which comes first and binds tighter than what follows. -/
inductive Phrase (top : Nat) : Nat → List Part → Part → Prop
  | operand {part : Part} : part.isOperand = true → Phrase top top [part] part
  | tighter {tier : Nat} {parts : List Part} {part : Part} : tier < top →
      Phrase top (tier + 1) parts part → Phrase top tier parts part
  | leftward {tier : Nat} {lefts rights : List Part} {left operator right : Part} : tier < top →
      tier ∈ [2, 4, 5, 6, 7, 8, 10] → operator.kind.precedence? = some tier →
      Phrase top tier lefts left → Phrase top (tier + 1) rights right →
      Phrase top tier (lefts ++ operator :: rights) (.applied (some left) operator (some right))
  | rightward {tier : Nat} {lefts rights : List Part} {left operator right : Part} : tier < top →
      tier ∈ [0, 1, 3] → operator.kind.precedence? = some tier →
      Phrase top (tier + 1) lefts left → Phrase top tier rights right →
      Phrase top tier (lefts ++ operator :: rights) (.applied (some left) operator (some right))
  | negation {rights : List Part} {operator right : Part} : 9 < top → operator.kind = .not →
      Phrase top 10 rights right →
      Phrase top 9 (operator :: rights) (.applied none operator (some right))
  | counting {lefts : List Part} {left operator : Part} : 9 < top →
      operator.kind = .increase ∨ operator.kind = .decrease → Phrase top 9 lefts left →
      Phrase top 9 (lefts ++ [operator]) (.applied (some left) operator none)

/-- Two parts may follow each other when they are not both operands. -/
def Apart (first second : Part) : Prop :=
  first.isOperand = true → second.kind.isOperator = true

theorem apart_of_isOperator {first second : Part} (operator : second.kind.isOperator = true) :
    Apart first second :=
  fun _ => operator

theorem apart_of_precedence {first second : Part} {tier : Nat}
    (operator : first.kind.precedence? = some tier) : Apart first second := by
  intro operand
  rw [Part.precedence_of_isOperand operand] at operator
  cases operator

namespace Phrase

variable {top tier : Nat} {parts : List Part} {part : Part}

theorem isOperand (phrase : Phrase top tier parts part) : part.isOperand = true := by
  induction phrase with
  | operand operand => exact operand
  | tighter _ _ ih => exact ih
  | leftward => rfl
  | rightward => rfl
  | negation => rfl
  | counting => rfl

theorem ne_nil (phrase : Phrase top tier parts part) : parts ≠ [] := by
  induction phrase with
  | tighter _ _ ih => exact ih
  | operand | leftward | rightward | negation | counting => simp

theorem tier_le (phrase : Phrase top tier parts part) : tier ≤ top := by
  cases phrase <;> omega

theorem of_top (phrase : Phrase top top parts part) : parts = [part] := by
  cases phrase with
  | operand => rfl
  | tighter lower _ | leftward lower | rightward lower | negation lower | counting lower =>
      exact absurd lower (by omega)

theorem loosen {lower : Nat} (phrase : Phrase top tier parts part) (bound : lower ≤ tier) :
    Phrase top lower parts part := by
  have inside := phrase.tier_le
  induction bound using Nat.decreasingInduction with
  | self => exact phrase
  | of_succ _ below ih => exact .tighter (Nat.lt_of_lt_of_le below inside) ih

theorem of_isOperand (operand : part.isOperand = true) (bound : tier ≤ top) :
    Phrase top tier [part] part :=
  (Phrase.operand operand).loosen bound

theorem eq_of_singleton {single : Part} (phrase : Phrase top tier [single] part) :
    single = part := by
  generalize same : [single] = parts at phrase
  induction phrase with
  | operand => exact List.singleton_inj.mp same
  | tighter _ _ ih => exact ih same
  | leftward _ _ _ lefts | rightward _ _ _ lefts =>
      have longer := List.length_pos_iff.mpr lefts.ne_nil
      have lengths := congrArg List.length same
      simp only [List.length_append, List.length_cons, List.length_nil] at lengths
      omega
  | negation _ _ rights =>
      exact absurd (List.cons.inj same).2.symm rights.ne_nil
  | counting _ _ lefts =>
      have longer := List.length_pos_iff.mpr lefts.ne_nil
      have lengths := congrArg List.length same
      simp only [List.length_append, List.length_cons, List.length_nil] at lengths
      omega

theorem eq_of_empty {kind : TokenKind} (phrase : Phrase top tier parts (.empty kind)) :
    parts = [.empty kind] := by
  generalize same : Part.empty kind = part at phrase
  induction phrase with
  | operand => rfl
  | tighter _ _ ih => exact ih same
  | leftward | rightward | negation | counting => cases same

theorem isChain (phrase : Phrase top tier parts part) : parts.IsChain Apart := by
  induction phrase with
  | operand => exact .singleton _
  | tighter _ _ ih => exact ih
  | leftward _ _ operator _ _ ihLeft ihRight | rightward _ _ operator _ _ ihLeft ihRight =>
      have isOperator := Option.isSome_of_eq_some operator
      refine ihLeft.append (ihRight.cons fun _ _ => apart_of_precedence operator) ?_
      intro first _ second next
      obtain rfl := Option.some.inj next
      exact apart_of_isOperator isOperator
  | negation _ operator _ ih =>
      refine ih.cons fun _ _ => @apart_of_precedence _ _ 9 ?_
      rw [operator]
      rfl
  | counting _ operator _ ih =>
      refine ih.append (.singleton _) ?_
      intro first _ second next
      obtain rfl := Option.some.inj next
      apply apart_of_isOperator
      rcases operator with same | same <;> rw [same] <;> rfl

end Phrase

end PathQuery
