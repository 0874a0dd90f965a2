import PathQuery.Proofs.Binary64.Bits

/-!
Rounding to the nearest floating-point number, as a function of the rational that is rounded: the
quotient or the decimal by which the rational is given makes no difference. Main statements:
`ofQuotient_eq`, `ofDecimal_eq`, `magnitude_of_canonical`, `integral_of_natural`.
-/

namespace PathQuery.Number

/-- The integer nearest to a rational that is not negative, the even one of two equally near. -/
def nearest (q : ℚ) : ℕ :=
  if 2 * (q - ⌊q⌋₊) < 1 then ⌊q⌋₊
  else if 1 < 2 * (q - ⌊q⌋₊) then ⌊q⌋₊ + 1
  else ⌊q⌋₊ + ⌊q⌋₊ % 2

section Nearest

variable {q : ℚ} {k : ℕ}

theorem nearest_le (near : q < k + 1 / 2) : nearest q ≤ k := by
  have floor : ⌊q⌋₊ < k + 1 := (Nat.floor_lt' (Nat.succ_ne_zero k)).mpr (by push_cast; linarith)
  by_cases same : ⌊q⌋₊ = k
  · rw [nearest, if_pos (by rw [same]; linarith), same]
  · unfold nearest
    split_ifs <;> omega

theorem le_nearest (near : k - 1 / 2 < q) : k ≤ nearest q := by
  by_cases reached : (k : ℚ) ≤ q
  · have floor : k ≤ ⌊q⌋₊ := Nat.le_floor reached
    unfold nearest
    split_ifs <;> omega
  · cases k with
    | zero => exact Nat.zero_le _
    | succ k =>
      -- more than a half above the integer below it
      push_cast at near reached
      have floor : ⌊q⌋₊ = k := (Nat.floor_eq_iff (by linarith)).mpr ⟨by linarith, by linarith⟩
      rw [nearest, floor, if_neg (by linarith), if_pos (by linarith)]

theorem nearest_natCast (k : ℕ) : nearest k = k := by
  apply Nat.le_antisymm
  · exact nearest_le (by linarith)
  · exact le_nearest (by linarith)

theorem roundedQuotient_eq (n : ℕ) {d : ℕ} (pos : 0 < d) :
    roundedQuotient n d = nearest (n / d) := by
  have unit : (0 : ℚ) < d := by exact_mod_cast pos
  have rest : (n : ℚ) / d - (n / d : ℕ) = (n % d : ℕ) / d := by
    rw [eq_div_iff unit.ne', sub_mul, div_mul_cancel₀ _ unit.ne']
    have whole : (n : ℚ) = d * (n / d : ℕ) + (n % d : ℕ) := by
      exact_mod_cast (Nat.div_add_mod n d).symm
    linarith
  have less : 2 * ((n % d : ℕ) / d : ℚ) < 1 ↔ 2 * (n % d) < d := by
    rw [← mul_div_assoc, div_lt_one unit]
    exact_mod_cast Iff.rfl
  have more : 1 < 2 * ((n % d : ℕ) / d : ℚ) ↔ d < 2 * (n % d) := by
    rw [← mul_div_assoc, one_lt_div unit]
    exact_mod_cast Iff.rfl
  unfold roundedQuotient nearest
  simp only [Nat.floor_div_eq_div, rest, less, more]

end Nearest

namespace Binary64

/-- The exponent of the significand to which a positive rational is rounded. -/
def exponentFor (v : ℚ) : ℤ :=
  max (Int.log 2 v - 52) (-1074)

/-- The stored magnitude of the number nearest to a rational that is not negative; one that is as
large as that of infinity, or larger, stands for infinity. -/
def magnitude (v : ℚ) : ℕ :=
  if v = 0 then 0 else (exponentFor v + 1074).toNat * 0x10000000000000 + nearest (v / 2 ^ exponentFor v)

section Scaling

variable {v : ℚ} {n d : ℕ} {exponent : ℤ}

theorem scaledQuotient_eq (pos : 0 < d) :
    scaledQuotient n d exponent = nearest (n / d / 2 ^ exponent) := by
  unfold scaledQuotient
  split
  · rename_i natural
    obtain ⟨power, rfl⟩ := Int.eq_ofNat_of_zero_le natural
    rw [Int.toNat_natCast, Nat.pow_eq, roundedQuotient_eq n (Nat.mul_pos pos (Nat.two_pow_pos power)),
      zpow_natCast, div_div]
    norm_cast
  · rename_i negative
    obtain ⟨power, rfl⟩ := Int.exists_eq_neg_ofNat (Int.le_of_lt (Int.not_le.mp negative))
    rw [neg_neg, Int.toNat_natCast, Nat.pow_eq, roundedQuotient_eq _ pos, zpow_neg, zpow_natCast,
      div_inv_eq_mul, div_mul_eq_mul_div]
    norm_cast

/-- The logarithm of a quotient by those of its numbers. -/
theorem log_quotient (positive : 0 < n) (pos : 0 < d) :
    Int.log 2 (n / d : ℚ) = n.log2 - d.log2 ∨ Int.log 2 (n / d : ℚ) = n.log2 - d.log2 - 1 := by
  have top : (0 : ℚ) < n := by exact_mod_cast positive
  have unit : (0 : ℚ) < d := by exact_mod_cast pos
  have value : (0 : ℚ) < n / d := div_pos top unit
  have two : (2 : ℚ) ≠ 0 := by norm_num
  have topLow : (2 : ℚ) ^ (n.log2 : ℤ) ≤ n := by exact_mod_cast Nat.log2_self_le positive.ne'
  have topHigh : (n : ℚ) < 2 ^ (n.log2 + 1 : ℤ) := by exact_mod_cast Nat.lt_log2_self
  have unitLow : (2 : ℚ) ^ (d.log2 : ℤ) ≤ d := by exact_mod_cast Nat.log2_self_le pos.ne'
  have unitHigh : (d : ℚ) < 2 ^ (d.log2 + 1 : ℤ) := by exact_mod_cast Nat.lt_log2_self
  have low : ((2 : ℕ) : ℚ) ^ ((n.log2 : ℤ) - d.log2 - 1) ≤ n / d := by
    calc ((2 : ℕ) : ℚ) ^ ((n.log2 : ℤ) - d.log2 - 1)
        = 2 ^ (n.log2 : ℤ) / 2 ^ (d.log2 + 1 : ℤ) := by
          rw [← zpow_sub₀ two, ← sub_sub]
          rfl
      _ ≤ n / d := by gcongr
  have high : (n / d : ℚ) < ((2 : ℕ) : ℚ) ^ ((n.log2 : ℤ) - d.log2 + 1) := by
    calc (n / d : ℚ) < 2 ^ (n.log2 + 1 : ℤ) / 2 ^ (d.log2 : ℤ) := by gcongr
      _ = ((2 : ℕ) : ℚ) ^ ((n.log2 : ℤ) - d.log2 + 1) := by
          rw [← zpow_sub₀ two, add_sub_right_comm]
          rfl
  rw [Int.zpow_le_iff_le_log (by decide) value] at low
  rw [Int.lt_zpow_iff_log_lt (by decide) value] at high
  omega

variable (exponent) (positive : 0 < v)

include positive

theorem le_scaled_iff (k : ℕ) : ((2 ^ k : ℕ) : ℚ) ≤ v / 2 ^ exponent ↔ exponent + k ≤ Int.log 2 v := by
  rw [← Int.zpow_le_iff_le_log (by decide) positive, le_div_iff₀ (by positivity), Nat.cast_ofNat,
    zpow_add₀ (by norm_num), zpow_natCast, mul_comm]
  norm_cast

theorem scaled_lt_iff (k : ℕ) : v / 2 ^ exponent < ((2 ^ k : ℕ) : ℚ) ↔ Int.log 2 v < exponent + k := by
  rw [← not_le, le_scaled_iff exponent positive, not_le]

/-- The significand of a normal number has 53 bits, or is the next power of two. -/
theorem nearest_scaled_bounds (normal : exponent + 52 = Int.log 2 v) :
    2 ^ 52 ≤ nearest (v / 2 ^ exponent) ∧ nearest (v / 2 ^ exponent) ≤ 2 ^ 53 := by
  have low := (le_scaled_iff exponent positive 52).mpr (le_of_eq (show exponent + (52 : ℕ) = _ from normal))
  have high := (scaled_lt_iff exponent positive 53).mpr (by push_cast; omega)
  exact ⟨le_nearest (by linarith), nearest_le (by linarith)⟩

/-- A significand that is rounded up to `2 ^ 53` is halved with the next exponent. -/
theorem nearest_next (full : nearest (v / 2 ^ exponent) = 2 ^ 53)
    (below : Int.log 2 v < exponent + 53) : nearest (v / 2 ^ (exponent + 1)) = 2 ^ 52 := by
  have half : v / 2 ^ (exponent + 1) = v / 2 ^ exponent / 2 := by
    rw [zpow_add₀ (by norm_num), zpow_one, div_div]
  have high := (scaled_lt_iff exponent positive 53).mpr below
  have near : ((2 ^ 53 - 1 : ℕ) : ℚ) + 1 / 2 ≤ v / 2 ^ exponent := by
    by_contra far
    have down := nearest_le (not_le.mp far)
    omega
  rw [half]
  norm_num at near high
  apply Nat.le_antisymm
  · apply nearest_le
    norm_num
    linarith
  · apply le_nearest
    norm_num
    linarith

omit positive

theorem exponentOf_cases (positive : 0 < n) (pos : 0 < d) :
    exponentOf n d = exponentFor (n / d) ∨ exponentOf n d = exponentFor (n / d) + 1 ∧
      nearest (n / d / 2 ^ exponentFor (n / d)) = 2 ^ 53 ∧
      Int.log 2 (n / d : ℚ) < exponentFor (n / d) + 53 := by
  have value : (0 : ℚ) < n / d := by positivity
  unfold exponentOf exponentFor
  simp only [scaledQuotient_eq pos]
  have logs := log_quotient positive pos
  generalize estimate : (n.log2 : ℤ) - d.log2 - 53 = first
  rcases logs with same | less
  · -- the estimate is one too low
    have full : 2 ^ 53 ≤ nearest (n / d / 2 ^ first) :=
      le_nearest (lt_of_lt_of_le (by norm_num) ((le_scaled_iff first value 53).mpr (by push_cast; omega)))
    rw [if_neg (by omega)]
    omega
  · have exact : Int.log 2 (n / d : ℚ) - 52 = first := by omega
    rw [exact]
    split
    · exact .inl rfl
    · rename_i full
      have bounds := (nearest_scaled_bounds first value (by omega)).2
      by_cases least : first + 1 ≤ -1074
      · omega
      · rw [max_eq_left (by omega), max_eq_left (by omega)]
        exact .inr ⟨rfl, by omega, by omega⟩

/-- The quotient by which a rational is given makes no difference to how it is rounded. -/
theorem ofQuotient_eq (negative : Bool) (n : ℕ) (pos : 0 < d) :
    ofQuotient negative n d = ofMagnitude negative (magnitude (n / d)) := by
  unfold ofQuotient magnitude
  by_cases zero : n = 0
  · simp [zero]
  · have positive := Nat.pos_of_ne_zero zero
    have value : (n / d : ℚ) ≠ 0 := by positivity
    rw [if_neg zero, if_neg value]
    dsimp only
    rw [scaledQuotient_eq pos]
    rcases exponentOf_cases positive pos with same | ⟨next, full, below⟩
    · rw [same]
    · have least : -1074 ≤ exponentFor (n / d) := le_max_right _ _
      rw [next, full, nearest_next _ (by positivity) full below]
      have carried : (exponentFor (n / d) + 1 + 1074).toNat * 0x10000000000000 + 2 ^ 52 =
          (exponentFor (n / d) + 1074).toNat * 0x10000000000000 + 2 ^ 53 := by omega
      rw [carried]

end Scaling

section Ranges

variable {v : ℚ}

theorem ofMagnitude_of_le {stored : ℕ} (large : infinityBits ≤ stored) (negative : Bool) :
    ofMagnitude negative stored = infinity negative := by
  unfold infinity ofMagnitude
  rw [Nat.min_eq_right large, Nat.min_self]

theorem infinityBits_le_magnitude (large : 2 ^ (1024 : ℤ) ≤ v) : infinityBits ≤ magnitude v := by
  have positive : 0 < v := lt_of_lt_of_le (by positivity) large
  have log := (Int.zpow_le_iff_le_log (show 1 < 2 by decide) positive).mp large
  have exponent : exponentFor v = Int.log 2 v - 52 := max_eq_left (by omega)
  have bounds := nearest_scaled_bounds (exponentFor v) positive (by omega)
  rw [magnitude, if_neg positive.ne']
  unfold infinityBits
  omega

theorem magnitude_of_small (positive : 0 < v) (small : v < 2 ^ (-1075 : ℤ)) : magnitude v = 0 := by
  have log := (Int.lt_zpow_iff_log_lt (show 1 < 2 by decide) positive).mp small
  have exponent : exponentFor v = -1074 := max_eq_right (by omega)
  have half : v / 2 ^ (-1074 : ℤ) < 1 / 2 := by
    calc v / 2 ^ (-1074 : ℤ) < 2 ^ (-1075 : ℤ) / 2 ^ (-1074 : ℤ) := by gcongr
      _ = 1 / 2 := by
        rw [← zpow_sub₀ (by norm_num)]
        norm_num
  have down := nearest_le (k := 0) (show v / 2 ^ (-1074 : ℤ) < ((0 : ℕ) : ℚ) + 1 / 2 by simpa using half)
  rw [magnitude, if_neg positive.ne', exponent, Nat.le_zero.mp down]
  rfl

theorem pow_le_of_digits {n : ℕ} (positive : 0 < n) : 10 ^ ((Nat.toDigits 10 n).length - 1) ≤ n := by
  by_cases single : (Nat.toDigits 10 n).length - 1 = 0
  · rw [single]
    exact positive
  · have short := Nat.length_toDigits_le_iff (n := n) (show 1 < 10 by decide) (Nat.pos_of_ne_zero single)
    rw [← Nat.not_lt, ← short]
    omega

/-- The decimal by which a rational is given makes no difference to how it is rounded. -/
theorem ofDecimal_eq (negative : Bool) (significand : ℕ) (exponent : ℤ) :
    ofDecimal negative significand exponent =
      ofMagnitude negative (magnitude (significand * 10 ^ exponent)) := by
  by_cases zero : significand = 0
  · simp [ofDecimal, magnitude, zero]
  have positive : (0 : ℚ) < significand := by exact_mod_cast Nat.pos_of_ne_zero zero
  have ten : (10 : ℚ) ≠ 0 := by norm_num
  have many : 0 < (Nat.toDigits 10 significand).length := Nat.length_toDigits_pos
  have high : (significand : ℚ) < 10 ^ ((Nat.toDigits 10 significand).length : ℤ) := by
    exact_mod_cast (Nat.length_toDigits_le_iff (by decide) many).mp (Nat.le_refl _)
  have low : (10 : ℚ) ^ ((Nat.toDigits 10 significand).length - 1 : ℤ) ≤ significand := by
    rw [show ((Nat.toDigits 10 significand).length - 1 : ℤ) =
      ((Nat.toDigits 10 significand).length - 1 : ℕ) by omega, zpow_natCast]
    exact_mod_cast pow_le_of_digits (Nat.pos_of_ne_zero zero)
  have range : (2 : ℚ) ^ (1075 : ℤ) ≤ 10 ^ (400 : ℤ) := by
    exact_mod_cast (show 2 ^ 1075 ≤ 10 ^ 400 by decide +kernel)
  unfold ofDecimal
  rw [if_neg zero]
  generalize ((Nat.toDigits 10 significand).length : ℤ) = digits at high low
  dsimp only
  split_ifs with large small natural
  · rw [ofMagnitude_of_le (infinityBits_le_magnitude ?_)]
    calc (2 : ℚ) ^ (1024 : ℤ) ≤ 2 ^ (1075 : ℤ) := zpow_le_zpow_right₀ (by norm_num) (by decide)
      _ ≤ 10 ^ (400 : ℤ) := range
      _ ≤ 10 ^ (digits - 1 + exponent) := zpow_le_zpow_right₀ (by norm_num) (by omega)
      _ = 10 ^ (digits - 1) * 10 ^ exponent := zpow_add₀ ten _ _
      _ ≤ significand * 10 ^ exponent := by gcongr
  · rw [magnitude_of_small (by positivity)]
    calc (significand : ℚ) * 10 ^ exponent < 10 ^ digits * 10 ^ exponent := by gcongr
      _ = 10 ^ (digits + exponent) := (zpow_add₀ ten _ _).symm
      _ ≤ 10 ^ (-400 : ℤ) := zpow_le_zpow_right₀ (by norm_num) (by omega)
      _ ≤ 2 ^ (-1075 : ℤ) := by
        rw [zpow_neg, zpow_neg]
        exact inv_anti₀ (by positivity) range
  · obtain ⟨power, rfl⟩ := Int.eq_ofNat_of_zero_le natural
    rw [ofQuotient_eq negative _ (by decide), Int.toNat_natCast, Nat.pow_eq, zpow_natCast]
    norm_num
  · obtain ⟨power, rfl⟩ := Int.exists_eq_neg_ofNat (Int.le_of_lt (Int.not_le.mp natural))
    rw [neg_neg, Int.toNat_natCast, Nat.pow_eq, ofQuotient_eq negative _ (by positivity), zpow_neg,
      zpow_natCast, div_eq_mul_inv]
    norm_num

/-- The rational that the magnitude of a number is. -/
def Parts.value (parts : Parts) : ℚ :=
  parts.significand * 2 ^ parts.exponent

/-- A number is what its own value is rounded to. -/
theorem magnitude_of_canonical {parts : Parts} (canonical : parts.Canonical) :
    (magnitude parts.value : ℤ) =
      (parts.exponent + 1074) * 0x10000000000000 + parts.significand := by
  obtain ⟨small, least, long⟩ := canonical
  obtain ⟨negative, significand, exponent⟩ := parts
  dsimp only [Parts.value] at small least long ⊢
  by_cases zero : significand = 0
  · obtain rfl : exponent = -1074 := long.resolve_left (by omega)
    simp [magnitude, zero]
  · have positive : (0 : ℚ) < significand := by exact_mod_cast Nat.pos_of_ne_zero zero
    have value : (0 : ℚ) < significand * 2 ^ exponent := by positivity
    have exact : (significand * 2 ^ exponent : ℚ) / 2 ^ exponent = significand :=
      mul_div_cancel_right₀ _ (by positivity)
    have high := (scaled_lt_iff exponent value 53).mp (by
      rw [exact]
      exact_mod_cast small)
    have same : exponentFor (significand * 2 ^ exponent) = exponent := by
      unfold exponentFor
      rcases long with long | rfl
      · have low := (le_scaled_iff exponent value 52).mp (by
          rw [exact]
          exact_mod_cast long)
        omega
      · omega
    rw [magnitude, if_neg value.ne', same, exact, nearest_natCast]
    omega

theorem isIntegral_iff {parts : Parts} : parts.isIntegral = true ↔
    0 ≤ parts.exponent ∨ 2 ^ (-parts.exponent).toNat ∣ parts.significand := by
  unfold Parts.isIntegral Parts.quotient
  by_cases natural : 0 ≤ parts.exponent
  · simp [natural, Nat.mod_one]
  · simp [natural, Nat.dvd_iff_mod_eq_zero]

/-- A natural number is rounded to an integer. -/
theorem integral_of_natural {negative : Bool} {n : ℕ} {parts : Parts}
    (taken : parts? (ofMagnitude negative (magnitude n)) = some parts) : parts.isIntegral = true := by
  obtain ⟨⟨small, least, long⟩, -, finite, stored⟩ := canonical_of_parts taken
  rw [magnitudeBits_ofMagnitude] at finite stored
  rw [Nat.min_eq_left (by omega)] at stored
  rw [isIntegral_iff]
  by_cases zero : n = 0
  · have none : parts.significand = 0 := by
      simp only [zero, magnitude, Nat.cast_zero, if_true] at stored
      omega
    exact .inr (none ▸ Nat.dvd_zero _)
  · have value : (0 : ℚ) < n := by exact_mod_cast Nat.pos_of_ne_zero zero
    have log : 0 ≤ Int.log 2 (n : ℚ) := by
      rw [← Int.zpow_le_iff_le_log (by decide) value, zpow_zero]
      exact_mod_cast Nat.pos_of_ne_zero zero
    have exponent : exponentFor n = Int.log 2 (n : ℚ) - 52 := max_eq_left (by omega)
    have bounds := nearest_scaled_bounds (exponentFor n) value (by omega)
    rw [magnitude, if_neg value.ne'] at stored
    by_cases natural : 0 ≤ exponentFor n
    · exact .inl (by omega)
    · -- nothing is rounded, and the significand is a multiple of what the exponent divides by
      have below := (scaled_lt_iff (exponentFor n) value 53).mpr (by omega)
      obtain ⟨power, same⟩ := Int.exists_eq_neg_ofNat (Int.le_of_lt (Int.not_le.mp natural))
      have exact : (n : ℚ) / 2 ^ exponentFor n = (n * 2 ^ power : ℕ) := by
        rw [same, zpow_neg, zpow_natCast, div_inv_eq_mul]
        norm_cast
      rw [exact] at below bounds stored
      rw [nearest_natCast] at bounds stored
      have fits : n * 2 ^ power < 2 ^ 53 := by exact_mod_cast below
      generalize multiple : n * 2 ^ power = significand at *
      obtain ⟨held, scaled⟩ : parts.significand = significand ∧ parts.exponent = exponentFor n := by
        omega
      rw [held, scaled, same, neg_neg, Int.toNat_natCast, ← multiple]
      exact .inr (Nat.dvd_mul_left ..)

end Ranges

end Binary64

end PathQuery.Number
