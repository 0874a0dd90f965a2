import PathQuery.Proofs.Binary64

/-!
The bits of floating-point numbers. A number is its sign and its stored magnitude, and the parts of
a finite one are those that its magnitude is put together from. Main statements:
`toNat_toBits_ofMagnitude`, `eq_ofMagnitude`, `canonical_of_parts`.
-/

namespace PathQuery.Number.Binary64

open Float.Model (Format)
open Float.Model.UnpackedFloat

section Packing

variable {b : BitVec Format.binary64.numBits}

theorem packComponents_of_unpacked {exponent : BitVec Format.binary64.exponentBits}
    {mantissa : BitVec Format.binary64.mantissaBitsWithoutImplicit}
    (stored : unpackExponent b = exponent) (fraction : unpackMantissa b = mantissa) :
    packComponents .binary64 (Sign.ofBitVec (unpackSign b)) exponent mantissa = b := by
  subst stored fraction
  have sign : ∀ bit : BitVec 1, (Sign.ofBitVec bit).toBitVec = bit := by decide
  have bound : b.toNat < 2 ^ 64 := b.isLt
  rw [packComponents, sign]
  apply BitVec.eq_of_toNat_eq
  rw [BitVec.toNat_append, ← Nat.shiftLeft_add_eq_or_of_lt (BitVec.isLt _), BitVec.toNat_append,
    ← Nat.shiftLeft_add_eq_or_of_lt (BitVec.isLt _), toNat_unpackSign, toNat_unpackExponent,
    toNat_unpackMantissa, Nat.shiftLeft_eq, Nat.shiftLeft_eq]
  simp only [Format.binary64]
  omega

/-- Packing what was unpacked changes nothing, unless it is a different form of what is not a
number. -/
theorem pack_unpack (valid : Format.binary64.Valid b) : pack .binary64 (unpack .binary64 b) = b := by
  have bias : ((Format.binary64.exponentBias : Nat) : Int) = 1023 := rfl
  have width : ((Format.binary64.mantissaBitsWithoutImplicit : Nat) : Int) = 52 := rfl
  have small : (unpackMantissa b).toNat < 2 ^ 52 := (unpackMantissa b).isLt
  have narrow : (unpackExponent b).toNat < 2 ^ 11 := (unpackExponent b).isLt
  rw [unpack]
  split
  · rename_i ones
    split
    · rename_i zero
      exact packComponents_of_unpacked ones zero
    · rename_i other
      exact (valid.eq_packedNaN ones other).symm
  · rename_i number
    have below : (unpackExponent b).toNat ≠ 2 ^ 11 - 1 := fun same =>
      number (BitVec.eq_of_toNat_eq same)
    split
    · rename_i low
      have least : (unpackExponent b).toNat = 0 := by
        rw [low]
        rfl
      split
      · rename_i zero
        exact packComponents_of_unpacked low zero
      · -- a fraction has fewer bits than a significand
        have short : (unpackMantissa b).toNat.log2 + 1 ≠ Format.binary64.mantissaBits := by
          rw [show Format.binary64.mantissaBits = 53 from rfl]
          by_cases none : (unpackMantissa b).toNat = 0
          · simp [none]
          · have := (Nat.log2_lt none).mpr small
            omega
        rw [pack]
        simp only [least, bias, width]
        rw [if_neg (by decide), if_neg short]
        exact packComponents_of_unpacked low (by simp)
    · rename_i high
      have normal : (1#1 ++ unpackMantissa b).toNat = 2 ^ 52 + (unpackMantissa b).toNat := by
        rw [BitVec.toNat_append, ← Nat.shiftLeft_add_eq_or_of_lt (BitVec.isLt _)]
        rfl
      have long : (2 ^ 52 + (unpackMantissa b).toNat).log2 + 1 = Format.binary64.mantissaBits := by
        rw [show Format.binary64.mantissaBits = 53 from rfl, Nat.add_left_inj, Nat.log2_eq_iff]
        · omega
        · omega
      rw [pack]
      simp only [normal, bias, width]
      rw [show ((unpackExponent b).toNat - (1023 + 52) + 1023 + 52 : Int).toNat =
        (unpackExponent b).toNat by omega, if_neg (by simp only [Format.binary64]; omega), if_pos long]
      refine packComponents_of_unpacked (by simp) ?_
      apply BitVec.eq_of_toNat_eq
      rw [BitVec.toNat_ofNat]
      show _ = (2 ^ 52 + (unpackMantissa b).toNat) % 2 ^ 52
      omega

theorem valid_of_le {b : BitVec Format.binary64.numBits}
    (number : b.toNat % 0x8000000000000000 ≤ infinityBits) : Format.binary64.Valid b := by
  unfold infinityBits at number
  refine ⟨fun ones other => absurd ?_ other⟩
  have high := congrArg BitVec.toNat ones
  rw [toNat_unpackExponent, show (-1#(Format.binary64.exponentBits)).toNat = 2047 from rfl] at high
  apply BitVec.eq_of_toNat_eq
  rw [toNat_unpackMantissa, BitVec.toNat_zero]
  omega

end Packing

variable {x y : Float} {parts : Parts}

theorem ext_bits (same : x.toBits = y.toBits) : x = y := by
  obtain ⟨⟨bits, valid⟩⟩ := x
  obtain ⟨⟨others, validOthers⟩⟩ := y
  obtain rfl : bits = others := same
  rfl

theorem toNat_toBits_ofMagnitude (negative : Bool) (magnitude : Nat) :
    (ofMagnitude negative magnitude).toBits.toNat =
      (if negative then 0x8000000000000000 else 0) + min magnitude infinityBits := by
  have bound : (if negative then 0x8000000000000000 else 0) + min magnitude infinityBits <
      2 ^ 64 := by
    unfold infinityBits
    split <;> omega
  have stored : (UInt64.ofNat ((if negative then 0x8000000000000000 else 0) +
      min magnitude infinityBits)).toBitVec.toNat =
        (if negative then 0x8000000000000000 else 0) + min magnitude infinityBits := by
    rw [UInt64.toNat_toBitVec, UInt64.toNat_ofNat', Nat.mod_eq_of_lt bound]
  have packed := pack_unpack (b := (UInt64.ofNat ((if negative then 0x8000000000000000 else 0) +
      min magnitude infinityBits)).toBitVec) (valid_of_le (by
    rw [stored]
    unfold infinityBits
    split <;> omega))
  exact (congrArg BitVec.toNat packed).trans stored

/-- The magnitude of a number as it is stored. -/
def magnitudeBits (x : Float) : Nat :=
  x.toBits.toNat % 0x8000000000000000

theorem magnitudeBits_ofMagnitude (negative : Bool) (magnitude : Nat) :
    magnitudeBits (ofMagnitude negative magnitude) = min magnitude infinityBits := by
  unfold magnitudeBits infinityBits
  rw [toNat_toBits_ofMagnitude]
  unfold infinityBits
  split <;> omega

theorem eq_ofMagnitude (number : magnitudeBits x ≤ infinityBits) :
    x = ofMagnitude (isNegative x) (magnitudeBits x) := by
  have bound : x.toBits.toNat < 2 ^ 64 := UInt64.toNat_lt _
  apply ext_bits
  apply UInt64.toNat_inj.mp
  rw [toNat_toBits_ofMagnitude, Nat.min_eq_left number]
  unfold isNegative magnitudeBits
  simp only [decide_eq_true_eq]
  split <;> omega

/-- The significand of a finite number has 53 bits, unless the exponent is the least one. -/
structure Parts.Canonical (parts : Parts) : Prop where
  small : parts.significand < 0x20000000000000
  least : -1074 ≤ parts.exponent
  long : 0x10000000000000 ≤ parts.significand ∨ parts.exponent = -1074

theorem canonical_of_parts (taken : parts? x = some parts) :
    parts.Canonical ∧ parts.negative = isNegative x ∧ magnitudeBits x < infinityBits ∧
      (magnitudeBits x : Int) = (parts.exponent + 1074) * 0x10000000000000 + parts.significand := by
  have bound : magnitudeBits x < 0x8000000000000000 := Nat.mod_lt _ (by decide)
  have split : fields x = (magnitudeBits x / 0x10000000000000, magnitudeBits x % 0x10000000000000) :=
    rfl
  unfold parts? at taken
  rw [split] at taken
  unfold infinityBits
  split at taken
  · rename_i fraction same
    obtain ⟨stored, rest⟩ := Prod.mk.inj same
    cases taken
    exact ⟨⟨show fraction < _ by omega, Int.le_refl _, .inr rfl⟩, rfl, by omega,
      show _ = (-1074 + 1074) * 0x10000000000000 + (fraction : Int) by omega⟩
  · cases taken
  · rename_i biased fraction number other same
    obtain ⟨stored, rest⟩ := Prod.mk.inj same
    cases taken
    have normal : biased ≠ 0 ∧ biased ≠ 0x7FF := ⟨number, other⟩
    refine ⟨⟨?_, ?_, .inl (Nat.le_add_right ..)⟩, rfl, by omega, ?_⟩
    · show 0x10000000000000 + fraction < _
      omega
    · show -1074 ≤ (biased : Int) - 1075
      omega
    · show _ = ((biased : Int) - 1075 + 1074) * _ + ((0x10000000000000 + fraction : Nat) : Int)
      omega

end PathQuery.Number.Binary64
