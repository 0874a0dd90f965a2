import PathQuery.Number.Shortest
import PathQuery.Proofs.Binary64.Nearest

/-!
The shortest decimal of a floating-point number reads back as the number. It has decimal places
exactly if the number is no integer, as long as integers below `10 ^ 16` are left aside. Main
statements: `ofDecimal_shortest`, `exponent_shortest_neg`, `exponent_shortest_nonneg`.
-/

namespace PathQuery.Number

/-- The rational that a decimal stands for. -/
def Scientific.value (decimal : Scientific) : ℚ :=
  decimal.significand * 10 ^ decimal.exponent

namespace Binary64

section Shortening

variable {decimal : Scientific}

theorem value_withoutTrailingZeros (fuel : ℕ) :
    (withoutTrailingZeros fuel decimal).value = decimal.value := by
  induction fuel generalizing decimal with
  | zero => rfl
  | succ fuel ih =>
    rw [withoutTrailingZeros]
    split
    · rename_i zero
      have whole : (decimal.significand : ℚ) = (decimal.significand / 10 : ℕ) * 10 := by
        exact_mod_cast (Nat.div_mul_cancel (Nat.dvd_of_mod_eq_zero zero)).symm
      rw [ih, Scientific.value, Scientific.value, whole, zpow_add₀ (by norm_num), zpow_one]
      ring
    · rfl

theorem le_exponent_withoutTrailingZeros (fuel : ℕ) :
    decimal.exponent ≤ (withoutTrailingZeros fuel decimal).exponent := by
  induction fuel generalizing decimal with
  | zero => exact Int.le_refl _
  | succ fuel ih =>
    rw [withoutTrailingZeros]
    split
    · have later := @ih ⟨decimal.significand / 10, decimal.exponent + 1⟩
      dsimp only at later
      omega
    · exact Int.le_refl _

end Shortening

section Numbers

variable {x : Float} {parts : Parts} {decimal : Scientific}

theorem ofDecimal_of_value {other : Scientific} (negative : Bool) (same : decimal.value = other.value) :
    ofDecimal negative decimal.significand decimal.exponent =
      ofDecimal negative other.significand other.exponent := by
  rw [ofDecimal_eq, ofDecimal_eq]
  exact congrArg (fun value => ofMagnitude negative (magnitude value)) same

/-- Every decimal with the value of a number reads back as the number. -/
theorem ofDecimal_exact (taken : parts? x = some parts) (same : decimal.value = parts.value) :
    ofDecimal (isNegative x) decimal.significand decimal.exponent = x := by
  obtain ⟨canonical, -, finite, stored⟩ := canonical_of_parts taken
  have exact := magnitude_of_canonical canonical
  rw [ofDecimal_eq, show (decimal.significand * 10 ^ decimal.exponent : ℚ) = parts.value from same,
    show magnitude parts.value = magnitudeBits x from Int.natCast_inj.mp (exact.trans stored.symm)]
  exact (eq_ofMagnitude (Nat.le_of_lt finite)).symm

theorem value_exactDecimal (parts : Parts) : (exactDecimal parts).value = parts.value := by
  unfold exactDecimal Scientific.value Parts.value
  split
  · rename_i natural
    obtain ⟨power, same⟩ := Int.eq_ofNat_of_zero_le natural
    rw [same, Int.toNat_natCast, Nat.pow_eq, zpow_natCast]
    norm_num
  · rename_i negative
    obtain ⟨power, same⟩ := Int.exists_eq_neg_ofNat (Int.le_of_lt (Int.not_le.mp negative))
    have ten : (10 : ℚ) = 2 * 5 := by norm_num
    dsimp only
    rw [same, neg_neg, Int.toNat_natCast, Nat.pow_eq, zpow_neg, zpow_neg, zpow_natCast, zpow_natCast,
      ten, mul_pow]
    push_cast
    field_simp

theorem quotient_value (parts : Parts) :
    0 < parts.quotient.2 ∧ (parts.quotient.1 : ℚ) / parts.quotient.2 = parts.value := by
  unfold Parts.quotient Parts.value
  split
  · rename_i natural
    obtain ⟨power, same⟩ := Int.eq_ofNat_of_zero_le natural
    rw [same, Int.toNat_natCast, Nat.pow_eq, zpow_natCast]
    norm_num
  · rename_i negative
    obtain ⟨power, same⟩ := Int.exists_eq_neg_ofNat (Int.le_of_lt (Int.not_le.mp negative))
    refine ⟨Nat.pow_pos (by decide), ?_⟩
    rw [same, neg_neg, Int.toNat_natCast, Nat.pow_eq, zpow_neg, zpow_natCast, ← div_eq_mul_inv]
    norm_num

theorem natAbs_truncated (parts : Parts) :
    parts.truncated.natAbs = parts.quotient.1 / parts.quotient.2 := by
  unfold Parts.truncated
  dsimp only
  split
  · rw [Int.natAbs_neg, Int.natAbs_natCast]
  · exact Int.natAbs_natCast _

/-- An integer is its integral part. -/
theorem value_of_integral (integral : parts.isIntegral = true) :
    parts.value = parts.truncated.natAbs := by
  obtain ⟨positive, value⟩ := quotient_value parts
  have whole : parts.quotient.1 % parts.quotient.2 = 0 := by simpa [Parts.isIntegral] using integral
  have unit : (parts.quotient.2 : ℚ) ≠ 0 := by exact_mod_cast positive.ne'
  rw [← value, natAbs_truncated, Nat.cast_div (Nat.dvd_of_mod_eq_zero whole) unit]

theorem exponent_of_neighbour {numerator denominator : ℕ} {exponent : ℤ}
    (listed : decimal ∈ neighbours numerator denominator exponent) : decimal.exponent = exponent := by
  unfold neighbours at listed
  dsimp only at listed
  split_ifs at listed <;>
  · simp only [List.mem_cons, List.not_mem_nil, or_false] at listed
    rcases listed with rfl | rfl <;> rfl

/-- The decimal that is found reads back, or is the number written out in full. -/
theorem exists_found (x : Float) (parts : Parts) :
    ∃ found, shortest x parts = withoutTrailingZeros 20 found ∧
      (found = exactDecimal parts ∨ readsBack x found = true ∧
        leadingExponent parts.quotient.1 parts.quotient.2 - 16 ≤ found.exponent) := by
  have unfolded : shortest x parts = withoutTrailingZeros 20
      ((((List.range 17).flatMap fun (count : ℕ) => neighbours parts.quotient.1 parts.quotient.2
        (leadingExponent parts.quotient.1 parts.quotient.2 - (count : ℕ))).find?
          (readsBack x)).getD (exactDecimal parts)) := rfl
  refine ⟨_, unfolded, ?_⟩
  generalize searched : List.find? _ _ = result
  cases result with
  | none => exact .inl rfl
  | some found =>
    refine .inr ⟨List.find?_some searched, ?_⟩
    obtain ⟨count, few, near⟩ := List.mem_flatMap.mp (List.mem_of_find?_eq_some searched)
    have bound := List.mem_range.mp few
    have exponent := exponent_of_neighbour near
    simp only [Option.getD_some]
    omega

theorem ofDecimal_shortest (taken : parts? x = some parts) :
    ofDecimal (isNegative x) (shortest x parts).significand (shortest x parts).exponent = x := by
  obtain ⟨found, same, reads⟩ := exists_found x parts
  rw [same, ofDecimal_of_value _ (value_withoutTrailingZeros 20)]
  rcases reads with rfl | ⟨back, -⟩
  · exact ofDecimal_exact taken (value_exactDecimal parts)
  · exact ext_bits (eq_of_beq back)

/-- A decimal without decimal places reads as an integer. -/
theorem exponent_shortest_neg (taken : parts? x = some parts) (broken : parts.isIntegral = false) :
    (shortest x parts).exponent < 0 := by
  by_contra unplaced
  obtain ⟨power, same⟩ := Int.eq_ofNat_of_zero_le (Int.not_lt.mp unplaced)
  have reads := ofDecimal_shortest taken
  rw [ofDecimal_eq, same, zpow_natCast] at reads
  have natural : parts? (ofMagnitude (isNegative x)
      (magnitude (((shortest x parts).significand * 10 ^ power : ℕ) : ℚ))) = some parts := by
    push_cast
    rw [reads]
    exact taken
  have integral := integral_of_natural natural
  rw [broken] at integral
  cases integral

/-- An integer of more than sixteen digits is written without decimal places, for seventeen digits
are tried at most. -/
theorem exponent_shortest_nonneg (taken : parts? x = some parts)
    (large : 10 ^ 16 ≤ parts.truncated.natAbs) : 0 ≤ (shortest x parts).exponent := by
  obtain ⟨found, same, reads⟩ := exists_found x parts
  rw [same]
  refine Int.le_trans ?_ (le_exponent_withoutTrailingZeros 20)
  rw [natAbs_truncated] at large
  rcases reads with rfl | ⟨-, least⟩
  · unfold exactDecimal
    split
    · exact Int.le_refl _
    · rename_i negative
      obtain ⟨canonical, -⟩ := canonical_of_parts taken
      have small := canonical.small
      rw [Parts.quotient, if_neg negative] at large
      have less := Nat.div_le_self parts.significand (Nat.pow 2 (-parts.exponent).toNat)
      dsimp only at large
      omega
  · have digits : 16 < (Nat.toDigits 10 (parts.quotient.1 / parts.quotient.2)).length := by
      rw [← Nat.not_le, Nat.length_toDigits_le_iff (by decide) (by decide)]
      omega
    have above : parts.quotient.2 ≤ parts.quotient.1 := by
      by_contra below
      rw [Nat.div_eq_of_lt (Nat.not_le.mp below)] at large
      omega
    rw [leadingExponent, if_pos above] at least
    omega

end Numbers

end Binary64

end PathQuery.Number
