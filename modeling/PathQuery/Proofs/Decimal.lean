import Mathlib.Algebra.Order.Ring.Int
import Mathlib.Tactic.Ring
import PathQuery.Number.Decimal
import PathQuery.Proofs.Binary64

/-!
Decimals of equal value, and the floating-point numbers of decimals. Main statements:
`normalize_spec`, `toFloat_of_integral`, `toFloat_beq_self`.
-/

namespace PathQuery.Number.Decimal

theorem ext_parts {left right : Decimal} (coefficient : left.coefficient = right.coefficient)
    (scale : left.scale = right.scale) : left = right := by
  obtain ⟨_, _, _, _⟩ := left
  obtain ⟨_, _, _, _⟩ := right
  cases coefficient
  cases scale
  rfl

theorem signed_natAbs (n : Int) :
    (if decide (n < 0) = true then -(n.natAbs : Int) else n.natAbs) = n := by
  simp only [decide_eq_true_eq]
  split <;> omega

theorem ofParts_eq (d : Decimal) : ofParts? d.coefficient d.scale = some d := by
  simp [ofParts?, d.coefficient_lt, d.scale_le]

theorem coefficientAt_mul (d : Decimal) {scale : Nat} (places : d.scale ≤ scale) :
    d.coefficientAt scale * 10 ^ d.scale = d.coefficient * 10 ^ scale := by
  obtain ⟨more, rfl⟩ := Nat.exists_eq_add_of_le places
  rw [coefficientAt, Nat.add_sub_cancel_left, Nat.pow_eq, Nat.cast_pow, pow_add]
  push_cast
  ring

theorem sameValue_iff {left right : Decimal} : left.sameValue right = true ↔
    left.coefficient * 10 ^ right.scale = right.coefficient * 10 ^ left.scale := by
  rw [sameValue, compare, beq_iff_eq, Int.compare_eq_eq]
  have first := left.coefficientAt_mul (Nat.le_max_left left.scale right.scale)
  have second := right.coefficientAt_mul (Nat.le_max_right left.scale right.scale)
  generalize max left.scale right.scale = scale at first second ⊢
  have ten : ∀ n : Nat, (10 : Int) ^ n ≠ 0 := fun n => pow_ne_zero n (by decide)
  constructor
  · intro same
    apply mul_right_cancel₀ (ten scale)
    calc left.coefficient * 10 ^ right.scale * 10 ^ scale
        = left.coefficientAt scale * 10 ^ left.scale * 10 ^ right.scale := by rw [first]; ring
      _ = right.coefficientAt scale * 10 ^ right.scale * 10 ^ left.scale := by rw [same]; ring
      _ = right.coefficient * 10 ^ left.scale * 10 ^ scale := by rw [second]; ring
  · intro same
    apply mul_right_cancel₀ (mul_ne_zero (ten left.scale) (ten right.scale))
    calc left.coefficientAt scale * (10 ^ left.scale * 10 ^ right.scale)
        = left.coefficient * 10 ^ right.scale * 10 ^ scale := by rw [← mul_assoc, first]; ring
      _ = right.coefficientAt scale * 10 ^ right.scale * 10 ^ left.scale := by
        rw [same, second]; ring
      _ = right.coefficientAt scale * (10 ^ left.scale * 10 ^ right.scale) := by ring

theorem strip_spec (coefficient : Int) (scale : Nat) :
    ∃ dropped, scale = (strip coefficient scale).2 + dropped ∧
      coefficient = (strip coefficient scale).1 * 10 ^ dropped := by
  induction scale generalizing coefficient with
  | zero => exact ⟨0, rfl, by simp [strip]⟩
  | succ scale ih =>
    rw [strip]
    split
    · rename_i zero
      obtain ⟨dropped, places, value⟩ := ih (coefficient.tdiv 10)
      refine ⟨dropped + 1, by omega, ?_⟩
      have whole := Int.tmod_add_mul_tdiv coefficient 10
      rw [pow_succ, ← mul_assoc, ← value]
      omega
    · exact ⟨0, rfl, by simp⟩

theorem normalize_spec (d : Decimal) :
    ∃ dropped, d.scale = d.normalize.scale + dropped ∧
      d.coefficient = d.normalize.coefficient * 10 ^ dropped := by
  obtain ⟨dropped, places, value⟩ := strip_spec d.coefficient d.scale
  have fits : (strip d.coefficient d.scale).1.natAbs < 0x1000000000000000000000000 ∧
      (strip d.coefficient d.scale).2 ≤ 28 := by
    have bounds := d.coefficient_lt
    have room := d.scale_le
    refine ⟨?_, by omega⟩
    rw [value, Int.natAbs_mul] at bounds
    have ten : (10 : Int) ^ dropped ≠ 0 := pow_ne_zero dropped (by decide)
    have grows := Nat.le_mul_of_pos_right (strip d.coefficient d.scale).1.natAbs
      (Int.natAbs_pos.mpr ten)
    omega
  refine ⟨dropped, ?_, ?_⟩
  · simpa [normalize, ofParts?, fits] using places
  · simpa [normalize, ofParts?, fits] using value

theorem sameValue_normalize (d : Decimal) : d.sameValue d.normalize = true := by
  obtain ⟨dropped, places, value⟩ := normalize_spec d
  rw [sameValue_iff, value, places, pow_add]
  ring

theorem proper_factor : ∀ scale ≤ 28,
    Binary64.isProper (Binary64.ofInt (Nat.pow 10 scale)).toModel.unpack = true := by
  decide +kernel

theorem no_fraction : ∀ scale ≤ 28,
    (Binary64.ofInt (0 : Nat) / Binary64.ofInt (Nat.pow 10 scale) == 0) = true := by
  decide +kernel

/-- An integer keeps its floating-point number whatever decimal places it is written with. -/
theorem toFloat_of_integral {d : Decimal} {n : Int} (integral : d.coefficient = n * 10 ^ d.scale) :
    d.toFloat = if n < 0 then -Binary64.ofInt n.natAbs else Binary64.ofInt n.natAbs := by
  have ten : 0 < Nat.pow 10 d.scale := Nat.pow_pos (by decide)
  have magnitude : d.coefficient.natAbs = n.natAbs * Nat.pow 10 d.scale := by
    rw [integral, Int.natAbs_mul, Int.natAbs_pow]
    rfl
  have sign : d.coefficient < 0 ↔ n < 0 := by
    rw [integral]
    have ten : (0 : Int) < 10 ^ d.scale := pow_pos (by decide) d.scale
    exact ⟨fun negative => neg_of_mul_neg_left negative ten.le,
      fun negative => mul_neg_of_neg_of_pos negative ten⟩
  simp only [toFloat, magnitude, Nat.mul_div_cancel _ ten, Nat.mul_mod_left, sign,
    no_fraction d.scale d.scale_le, if_true]

theorem toFloat_beq_self (d : Decimal) : (d.toFloat == d.toFloat) = true := by
  have factor := proper_factor d.scale d.scale_le
  have whole := Binary64.signed_ofNat (d.coefficient.natAbs / Nat.pow 10 d.scale)
  have fraction := Binary64.signed_div
    (Binary64.signed_ofNat (d.coefficient.natAbs % Nat.pow 10 d.scale)) factor
  have sum := Binary64.signed_mul (Binary64.signed_add whole fraction) factor
  have magnitude := Binary64.signed_div (Binary64.signed_rounded sum) factor
  -- a number of either sign is equal to itself, only what is none is not
  unfold toFloat
  simp only
  split
  · exact Binary64.beq_self_of_signed (Binary64.signed_neg (Binary64.signed_ite whole magnitude))
  · exact Binary64.beq_self_of_signed (Binary64.signed_ite whole magnitude)

end PathQuery.Number.Decimal
