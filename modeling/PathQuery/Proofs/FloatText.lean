import PathQuery.Proofs.Binary64.Shortest
import PathQuery.Proofs.Spelling

/-!
The source text of a floating-point number, as it is read. Main statement: `spells_float_iff`.
-/

namespace PathQuery

namespace Number

theorem digits_mul_pow {n : Nat} (positive : 0 < n) (zeros : Nat) :
    Nat.toDigits 10 n ++ List.replicate zeros '0' = Nat.toDigits 10 (n * 10 ^ zeros) := by
  induction zeros with
  | zero => simp
  | succ zeros ih =>
    have next := Nat.toDigits_append_toDigits (b := 10) (d := 0) (by decide)
      (Nat.mul_pos positive (Nat.pow_pos (n := zeros) (show 0 < 10 by decide))) (by decide)
    rw [List.replicate_succ', ← List.append_assoc, ih, Nat.pow_succ, ← Nat.mul_assoc,
      Nat.mul_comm _ 10]
    exact next

namespace Scientific

variable {decimal : Scientific}

theorem positional_of_places (placed : decimal.exponent < 0) :
    decimal.positional = Decimal.pointed decimal.significand (-decimal.exponent).toNat := by
  have some : 0 < (-decimal.exponent).toNat := by omega
  unfold positional Decimal.pointed digits
  generalize Nat.toDigits 10 decimal.significand = cs
  rw [if_neg (Int.not_le.mpr placed)]
  generalize (-decimal.exponent).toNat = places at some ⊢
  dsimp only
  rw [if_neg (Nat.pos_iff_ne_zero.mp some)]
  by_cases fewer : places < cs.length
  · rw [if_pos fewer, show places + 1 - cs.length = 0 by omega]
    rfl
  · -- the zeros in front are one more than the places that are to be filled
    rw [if_neg fewer, show places + 1 - cs.length = places - cs.length + 1 by omega,
      List.replicate_succ, List.cons_append, List.length_cons, List.length_append,
      List.length_replicate, show places - cs.length + cs.length + 1 - places = 1 by omega]
    rfl

theorem positional_of_integral (whole : 0 ≤ decimal.exponent) (positive : 0 < decimal.significand) :
    decimal.positional = Nat.toDigits 10 (decimal.significand * 10 ^ decimal.exponent.toNat) := by
  rw [positional, if_pos whole, digits, digits_mul_pow positive]

end Scientific

namespace Binary64

section Reading

variable {whole places : List Char} (some : whole ≠ []) (digits : ∀ c ∈ whole, c.isDigit = true)
  (numeric : ∀ c ∈ places, c.isDigit = true)

include some digits numeric

theorem unsigned_pointed (negative : Bool) :
    unsigned? negative (whole ++ '.' :: places) = .some (ofDecimal negative
      (Nat.ofDigitChars 10 (whole ++ places) 0) (-(places.length : Int))) := by
  have point : '.' ∈ (whole ++ '.' :: places).map Char.toLower :=
    List.mem_map.mpr ⟨'.', by simp, rfl⟩
  have other : ∀ name : String, '.' ∉ name.toList →
      (String.ofList ((whole ++ '.' :: places).map Char.toLower) == name) = false := by
    intro name plain
    rw [beq_eq_false_iff_ne]
    rintro rfl
    exact plain (by rwa [String.toList_ofList])
  have front : (whole ++ '.' :: places).takeWhile Char.isDigit = whole ∧
      (whole ++ '.' :: places).dropWhile Char.isDigit = '.' :: places := by
    rw [List.takeWhile_append_of_pos digits, List.dropWhile_append_of_pos digits]
    simp
  have back : places.takeWhile Char.isDigit = places ∧ places.dropWhile Char.isDigit = [] :=
    ⟨List.takeWhile_eq_self_iff.mpr numeric, List.dropWhile_eq_nil_iff.mpr numeric⟩
  unfold unsigned?
  simp only [other "inf" (by decide), other "infinity" (by decide), other "nan" (by decide), front,
    back, exponent?]
  simp [some]

theorem number_of_pointed (filled : places ≠ []) (negative : Bool) :
    PlacedPart.number? .decimalLiteral (whole ++ '.' :: places) negative =
      .ok (.float (ofDecimal negative (Nat.ofDigitChars 10 (whole ++ places) 0)
        (-(places.length : Int)))) := by
  have unmarked : PlacedPart.splitMark (whole ++ '.' :: places) = (whole ++ '.' :: places, false) := by
    have last : ∀ c ∈ (whole ++ '.' :: places).getLast?, c.isDigit = true := by
      intro c ends
      rw [List.getLast?_append_cons, List.getLast?_cons_of_ne_nil filled] at ends
      exact numeric c (List.mem_of_getLast? ends)
    unfold PlacedPart.splitMark
    split
    · rename_i mark
      cases last 'b' mark
    · rename_i mark
      cases last 'B' mark
    · rfl
  have head := @Decimal.head_of_digits whole ('.' :: places) some digits
  have read : ofText? (String.ofList (signedChars negative (whole ++ '.' :: places))) =
      unsigned? negative (whole ++ '.' :: places) := by
    unfold ofText?
    rw [String.toList_ofList]
    cases negative with
    | true => rfl
    | false =>
      obtain ⟨first, others, rfl⟩ := List.exists_cons_of_ne_nil some
      obtain ⟨minus, plus⟩ := head first rfl
      unfold signedChars
      split
      · rename_i same
        exact absurd (List.cons.inj same).1 minus
      · rename_i same
        exact absurd (List.cons.inj same).1 plus
      · rfl
  rw [unsigned_pointed some digits numeric, signedChars] at read
  simp [PlacedPart.number?, unmarked, read]

end Reading

/-- Whether a number is an integer of more than sixteen digits. -/
def WideInteger (x : Float) : Prop :=
  ∃ parts, parts? x = some parts ∧ parts.isIntegral = true ∧ 10 ^ 16 ≤ parts.truncated.natAbs

section Texts

variable {x : Float} {parts : Parts}

theorem plainText_eq (taken : parts? x = some parts) : plainText x = String.ofList
    (signedChars (isNegative x)
      (if parts.isIntegral = true ∧ parts.truncated.natAbs < 10 ^ 16 then
        Nat.toDigits 10 parts.truncated.natAbs ++ ['.', '0']
      else shortestChars x parts)) := by
  obtain ⟨-, sign, -⟩ := canonical_of_parts taken
  unfold plainText signedChars
  rw [taken]
  dsimp only
  rw [sign]
  by_cases small : parts.isIntegral = true ∧ parts.truncated.natAbs < 10 ^ 16
  · rw [if_pos small, if_pos (by simpa using small)]
    cases isNegative x <;> simp
  · rw [if_neg small, if_neg (by simpa using small)]
    cases isNegative x <;> simp

theorem integral_of_zero (zero : parts.significand = 0) :
    parts.isIntegral = true ∧ parts.truncated.natAbs = 0 := by
  have integral : parts.isIntegral = true := isIntegral_iff.mpr (.inr (zero ▸ Nat.dvd_zero _))
  have value := value_of_integral integral
  rw [Parts.value, zero, Nat.cast_zero, zero_mul] at value
  exact ⟨integral, by exact_mod_cast value.symm⟩

theorem shortest_pos (taken : parts? x = some parts) (nonzero : parts.significand ≠ 0) :
    0 < (shortest x parts).significand := by
  by_contra none
  have reads := ofDecimal_shortest taken
  rw [Nat.eq_zero_of_not_pos none, ofDecimal, if_pos rfl] at reads
  obtain ⟨canonical, -, -, stored⟩ := canonical_of_parts taken
  have least := canonical.least
  rw [← reads, magnitudeBits_ofMagnitude] at stored
  omega

/-- A number other than a wide integer is written with a point between digits. -/
theorem exists_pointed (taken : parts? x = some parts) (narrow : ¬WideInteger x) :
    ∃ whole places, plainText x = String.ofList (signedChars (isNegative x) (whole ++ '.' :: places)) ∧
      whole ≠ [] ∧ (∀ c ∈ whole, c.isDigit = true) ∧ places ≠ [] ∧
      (∀ c ∈ places, c.isDigit = true) ∧
      ofDecimal (isNegative x) (Nat.ofDigitChars 10 (whole ++ places) 0) (-(places.length : Int)) =
        x := by
  rw [plainText_eq taken]
  cases integral : parts.isIntegral with
  | true =>
    have small : parts.truncated.natAbs < 10 ^ 16 :=
      Nat.not_le.mp fun large => narrow ⟨parts, taken, integral, large⟩
    refine ⟨Nat.toDigits 10 parts.truncated.natAbs, ['0'], ?_, Nat.toDigits_ne_nil,
      isDigit_of_mem_digits _, by simp, by simp, ?_⟩
    · rw [if_pos ⟨rfl, small⟩]
    · have tenfold : Nat.ofDigitChars 10 (Nat.toDigits 10 parts.truncated.natAbs ++ ['0']) 0 =
          10 * parts.truncated.natAbs := by
        rw [Nat.ofDigitChars_append, Nat.ofDigitChars_ten_toDigits]
        rfl
      rw [tenfold]
      refine @ofDecimal_exact x parts ⟨_, _⟩ taken ?_
      rw [value_of_integral integral, Scientific.value]
      generalize parts.truncated.natAbs = n
      norm_num
      ring
  | false =>
    have placed := exponent_shortest_neg taken integral
    have nonzero : parts.significand ≠ 0 := by
      intro zero
      rw [(integral_of_zero zero).1] at integral
      cases integral
    obtain ⟨whole, places, split, some, filled, digits, numeric, length, value⟩ :=
      Decimal.pointed_eq (shortest x parts).significand
        (show 0 < (-(shortest x parts).exponent).toNat by omega)
    refine ⟨whole, places, ?_, some, digits, filled, numeric, ?_⟩
    · rw [if_neg (by simp), shortestChars, if_neg nonzero, Scientific.positional_of_places placed,
        split]
    · rw [value, length, Int.toNat_of_nonneg (by omega), neg_neg]
      exact ofDecimal_shortest taken

/-- A wide integer is written as digits alone. -/
theorem exists_digits (wide : WideInteger x) :
    ∃ n, 0 < n ∧ plainText x = String.ofList (signedChars (isNegative x) (Nat.toDigits 10 n)) := by
  obtain ⟨parts, taken, integral, large⟩ := wide
  have whole := exponent_shortest_nonneg taken large
  have nonzero : parts.significand ≠ 0 := by
    intro zero
    have none := (integral_of_zero zero).2
    omega
  have positive := shortest_pos taken nonzero
  refine ⟨_, Nat.mul_pos positive (Nat.pow_pos (n := (shortest x parts).exponent.toNat)
    (show 0 < 10 by decide)), ?_⟩
  rw [plainText_eq taken, if_neg (fun small => Nat.not_lt.mpr large small.2), shortestChars,
    if_neg nonzero, Scientific.positional_of_integral whole positive]

end Texts

end Binary64

end Number

namespace Value

open Number.Binary64

variable {x : Float}

theorem spells_pointed {parts : Parts} (taken : parts? x = some parts) (narrow : ¬WideInteger x) :
    Spells (Value.float x).literal (.literal .decimalLiteral (.float x)) := by
  obtain ⟨whole, places, text, some, digits, filled, numeric, reads⟩ := exists_pointed taken narrow
  have number := number_of_pointed some digits numeric filled (isNegative x)
  have lexed := @Token.lexed_decimal _ _ [] some digits filled numeric (.inl rfl)
  rw [reads] at number
  rw [List.append_nil] at lexed
  rw [show (Value.float x).literal = plainText x from rfl, text]
  refine spells_signed (.inr rfl) lexed number ?_
  obtain ⟨first, others, rfl⟩ := List.exists_cons_of_ne_nil some
  rintro _ ⟨⟩
  exact digits first List.mem_cons_self

theorem spells_digits (wide : WideInteger x) : ∃ n : Int,
    Spells (Value.float x).literal (.literal .integerLiteral (PlacedPart.narrowest n)) := by
  obtain ⟨n, positive, text⟩ := exists_digits wide
  have digits := Number.isDigit_of_mem_digits n
  have lexed := @Token.lexed_integer _ [] Nat.toDigits_ne_nil digits (.inl rfl)
  let value : Int := if isNegative x then -n else n
  have size : value.natAbs = n ∧ decide (value < 0) = isNegative x := by
    cases negative : isNegative x with
    | false => simp [value, negative]
    | true =>
      simp only [value, negative, if_true, decide_eq_true_eq]
      omega
  have number := @PlacedPart.number_of_digits [] (.inl rfl) value
  rw [size.1, size.2, List.append_nil] at number
  rw [List.append_nil] at lexed
  refine ⟨value, ?_⟩
  rw [show (Value.float x).literal = plainText x from rfl, text]
  refine spells_signed (.inl rfl) lexed number fun c first => ?_
  exact digits c (List.mem_of_mem_head? first)

/-- The source text of a finite floating-point number is read as a decimal literal with that number
exactly when the number is no integer of more than sixteen digits; the text of such an integer has
no point and is read as an integer. -/
theorem spells_float_iff (finite : isFinite x = true) :
    (Spells (Value.float x).literal (.literal .decimalLiteral (.float x)) ↔ ¬WideInteger x) ∧
      (WideInteger x → ∃ n : Int,
        Spells (Value.float x).literal (.literal .integerLiteral (PlacedPart.narrowest n))) := by
  obtain ⟨parts, taken⟩ := Option.isSome_iff_exists.mp finite
  refine ⟨⟨fun spells wide => ?_, spells_pointed taken⟩, spells_digits⟩
  obtain ⟨n, other⟩ := spells_digits wide
  cases spells.unique other

theorem spells_float_of_tenth :
    isFinite (ofDecimal true 1 (-1)) = true ∧ (Value.float (ofDecimal true 1 (-1))).literal = "-0.1" ∧
      Spells "-0.1" (.literal .decimalLiteral (.float (ofDecimal true 1 (-1)))) := by
  have finite : isFinite (ofDecimal true 1 (-1)) = true := by decide +kernel
  have text : (Value.float (ofDecimal true 1 (-1))).literal = "-0.1" := by decide +kernel
  have broken : (parts? (ofDecimal true 1 (-1))).all fun parts => !parts.isIntegral := by
    decide +kernel
  refine ⟨finite, text, ?_⟩
  rw [← text, (spells_float_iff finite).1]
  rintro ⟨parts, taken, integral, -⟩
  simp [taken, integral] at broken

/-- The number of a decimal literal, the text of which is read as an integer. -/
theorem not_spells_float_of_large :
    let x := ofDecimal false (10 ^ 17) (-1)
    PlacedPart.number? .decimalLiteral "10000000000000000.0".toList false = .ok (.float x) ∧
      (Value.float x).literal = "10000000000000000" ∧
      ¬Spells (Value.float x).literal (.literal .decimalLiteral (.float x)) := by
  intro x
  have number := @number_of_pointed (Nat.toDigits 10 (10 ^ 16)) ['0'] Nat.toDigits_ne_nil
    (Number.isDigit_of_mem_digits _) (by simp) (by simp) false
  rw [Nat.ofDigitChars_append, Nat.ofDigitChars_ten_toDigits] at number
  have word : "10000000000000000.0".toList = Nat.toDigits 10 (10 ^ 16) ++ ['.', '0'] := by
    decide +kernel
  have text : (Value.float x).literal = "10000000000000000" := by decide +kernel
  have large : (parts? x).any fun parts =>
      parts.isIntegral && decide (10 ^ 16 ≤ parts.truncated.natAbs) := by
    decide +kernel
  obtain ⟨parts, taken, integral⟩ := (Option.any_eq_true ..).mp large
  simp only [Bool.and_eq_true, decide_eq_true_eq] at integral
  obtain ⟨n, other⟩ := spells_digits ⟨parts, taken, integral⟩
  refine ⟨word ▸ number, text, fun spells => ?_⟩
  cases spells.unique other

end Value

end PathQuery
