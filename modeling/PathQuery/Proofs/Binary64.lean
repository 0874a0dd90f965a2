import Mathlib
import PathQuery.Number.Binary64

/-!
Signs of floating-point numbers. Sums, products and quotients of numbers with a plus sign have a
plus sign as well, as long as the second factor or the divisor is neither zero nor infinite; above
all they are numbers. Main statements: `beq_self_of_signed`, `signed_add`, `signed_mul`,
`signed_div`.
-/

namespace PathQuery.Number.Binary64

open Float.Model (UnpackedFloat Format)
open Float.Model.UnpackedFloat

variable {sign : Sign} {f g : UnpackedFloat}

/-- Whether a number is one and has the given sign. -/
def HasSign (sign : Sign) : UnpackedFloat → Prop
  | .notANumber => False
  | .infinity actual | .zero actual | .finite actual .. => actual = sign

/-- Whether a number is positive, and neither zero nor infinite. -/
def isProper : UnpackedFloat → Bool
  | .finite .positive .. => true
  | _ => false

theorem proper_iff : isProper f = true ↔
    ∃ mantissa exponent positive, f = .finite .positive mantissa exponent positive := by
  unfold isProper
  split <;> simp_all

theorem beq_self_of_hasSign (signed : HasSign sign f) : f.beq f = true := by
  cases f with
  | notANumber => exact signed.elim
  | infinity actual => cases actual <;> rfl
  | zero actual => rfl
  | finite actual mantissa exponent positive =>
    cases actual <;> simp [UnpackedFloat.beq, UnpackedFloat.compare]

section Packing

variable {exponent : BitVec Format.binary64.exponentBits}
  {mantissa : BitVec Format.binary64.mantissaBitsWithoutImplicit}

theorem unpackSign_packComponents {format : Format} {exponent : BitVec format.exponentBits}
    {mantissa : BitVec format.mantissaBitsWithoutImplicit} :
    unpackSign (packComponents format sign exponent mantissa) = sign.toBitVec := by
  apply BitVec.eq_of_getLsbD_eq
  intro i bound
  obtain rfl : i = 0 := by omega
  simp [unpackSign, packComponents, BitVec.getLsbD_append, BitVec.getElem_append]

section Fields

variable (b : BitVec Format.binary64.numBits)

theorem toNat_unpackSign : (unpackSign b).toNat = b.toNat / 0x8000000000000000 % 2 := by
  simp [unpackSign, BitVec.extractLsb, Nat.shiftRight_eq_div_pow]

theorem toNat_unpackExponent :
    (unpackExponent b).toNat = b.toNat / 0x10000000000000 % 0x800 := by
  simp [unpackExponent, BitVec.extractLsb, Nat.shiftRight_eq_div_pow]

theorem toNat_unpackMantissa : (unpackMantissa b).toNat = b.toNat % 0x10000000000000 := by
  simp [unpackMantissa, BitVec.extractLsb]

end Fields

theorem hasSign_unpack {b : BitVec Format.binary64.numBits}
    (signed : Sign.ofBitVec (unpackSign b) = sign)
    (number : unpackExponent b = -1#_ → unpackMantissa b = 0#_) :
    HasSign sign (unpack .binary64 b) := by
  unfold unpack
  simp only
  split
  · rename_i ones
    rw [if_pos (number ones)]
    exact signed
  · split
    · split <;> exact signed
    · exact signed

theorem sign_of_unpack {b : BitVec Format.binary64.numBits}
    (signed : HasSign sign (unpack .binary64 b)) : Sign.ofBitVec (unpackSign b) = sign := by
  unfold unpack at signed
  simp only at signed
  split at signed
  · split at signed
    · exact signed
    · exact signed.elim
  · split at signed
    · split at signed <;> exact signed
    · exact signed

theorem lt_of_hasSign {b : BitVec Format.binary64.numBits}
    (signed : HasSign .positive (unpack .binary64 b)) : b.toNat < 0x8000000000000000 := by
  -- the sign is the highest bit
  have plus := sign_of_unpack signed
  have bound : b.toNat < 2 ^ 64 := b.isLt
  by_cases clear : unpackSign b = 0#1
  · have high := congrArg BitVec.toNat clear
    rw [toNat_unpackSign, BitVec.toNat_zero] at high
    omega
  · rw [Sign.ofBitVec, if_neg clear] at plus
    cases plus

theorem hasSign_of_le {b : BitVec Format.binary64.numBits} (small : b.toNat ≤ infinityBits) :
    HasSign .positive (unpack .binary64 b) := by
  unfold infinityBits at small
  refine hasSign_unpack ?_ fun ones => ?_
  · have clear : unpackSign b = 0#1 := by
      apply BitVec.eq_of_toNat_eq
      rw [toNat_unpackSign, BitVec.toNat_zero]
      omega
    rw [clear]
    rfl
  · -- with all bits of the exponent set, only infinity itself is that small
    have high := congrArg BitVec.toNat ones
    rw [toNat_unpackExponent,
      show (-1#(Format.binary64.exponentBits)).toNat = 2047 from rfl] at high
    apply BitVec.eq_of_toNat_eq
    rw [toNat_unpackMantissa, BitVec.toNat_zero]
    omega

theorem hasSign_packComponents (number : exponent = -1#_ → mantissa = 0#_) :
    HasSign sign (unpack .binary64 (packComponents .binary64 sign exponent mantissa)) := by
  refine hasSign_unpack ?_ (by simpa using number)
  rw [unpackSign_packComponents]
  cases sign <;> rfl

theorem hasSign_pack (signed : HasSign sign f) :
    HasSign sign (unpack .binary64 (pack .binary64 f)) := by
  cases f with
  | notANumber => exact signed.elim
  | infinity actual =>
    obtain rfl : actual = sign := signed
    exact hasSign_packComponents fun _ => rfl
  | zero actual =>
    obtain rfl : actual = sign := signed
    exact hasSign_packComponents fun _ => rfl
  | finite actual mantissa exponent positive =>
    obtain rfl : actual = sign := signed
    unfold pack
    simp only
    split
    · exact hasSign_packComponents fun _ => rfl
    · rename_i small
      split
      · -- the exponent is below that of infinity here
        refine hasSign_packComponents fun ones => ?_
        have same := congrArg BitVec.toNat ones
        rw [BitVec.toNat_ofNat, Nat.mod_eq_of_lt (by omega), BitVec.neg_one_eq_allOnes,
          BitVec.toNat_allOnes] at same
        omega
      · exact hasSign_packComponents fun ones => absurd ones (by decide)

end Packing

section Operations

theorem hasSign_roundWithAccuracy {mantissa : Nat} {exponent : Int} {accuracy : Accuracy} :
    HasSign sign (roundWithAccuracy .binary64 sign mantissa exponent accuracy) := by
  unfold roundWithAccuracy
  simp only
  split <;> rfl

theorem hasSign_add (left : HasSign .positive f) (right : HasSign .positive g) :
    HasSign .positive (add .binary64 f g) := by
  cases f with
  | notANumber => exact left.elim
  | infinity actual =>
    obtain rfl : actual = .positive := left
    cases g with
    | notANumber => exact right.elim
    | infinity other =>
      obtain rfl : other = .positive := right
      rfl
    | zero | finite => rfl
  | zero actual =>
    obtain rfl : actual = .positive := left
    cases g with
    | notANumber => exact right.elim
    | infinity other | zero other | finite other =>
      obtain rfl : other = .positive := right
      rfl
  | finite actual mantissa exponent positive =>
    obtain rfl : actual = .positive := left
    cases g with
    | notANumber => exact right.elim
    | infinity other | zero other =>
      obtain rfl : other = .positive := right
      rfl
    | finite other =>
      obtain rfl : other = .positive := right
      unfold add
      simp only [UnpackedFloat.normalize]
      split
      · rename_i less
        have negative := Int.compare_eq_lt.mp less
        simp only [Sign.apply] at negative
        omega
      · rfl
      · exact hasSign_roundWithAccuracy

theorem hasSign_mul (left : HasSign .positive f) (right : isProper g = true) :
    HasSign .positive (mul .binary64 f g) := by
  obtain ⟨mantissa, exponent, positive, rfl⟩ := proper_iff.mp right
  cases f with
  | notANumber => exact left.elim
  | infinity actual | zero actual =>
    obtain rfl : actual = .positive := left
    rfl
  | finite actual =>
    obtain rfl : actual = .positive := left
    exact hasSign_roundWithAccuracy

theorem hasSign_div (left : HasSign .positive f) (right : isProper g = true) :
    HasSign .positive (div .binary64 f g) := by
  obtain ⟨mantissa, exponent, positive, rfl⟩ := proper_iff.mp right
  cases f with
  | notANumber => exact left.elim
  | infinity actual | zero actual =>
    obtain rfl : actual = .positive := left
    rfl
  | finite actual =>
    obtain rfl : actual = .positive := left
    exact hasSign_roundWithAccuracy

theorem hasSign_neg (signed : HasSign sign f) : HasSign (-sign) f.neg := by
  cases f with
  | notANumber => exact signed.elim
  | infinity | zero | finite => exact congrArg Neg.neg signed

end Operations

/-- Whether a floating-point number is a number with the given sign. -/
def Signed (sign : Sign) (x : Float) : Prop :=
  HasSign sign x.toModel.unpack

section Floats

variable {x y : Float}

theorem beq_self_of_signed (signed : Signed sign x) : (x == x) = true :=
  beq_self_of_hasSign signed

theorem signed_add (left : Signed .positive x) (right : Signed .positive y) :
    Signed .positive (x + y) :=
  hasSign_pack (hasSign_add left right)

theorem signed_mul (left : Signed .positive x) (right : isProper y.toModel.unpack = true) :
    Signed .positive (x * y) :=
  hasSign_pack (hasSign_mul left right)

theorem signed_div (left : Signed .positive x) (right : isProper y.toModel.unpack = true) :
    Signed .positive (x / y) :=
  hasSign_pack (hasSign_div left right)

theorem signed_neg (signed : Signed sign x) : Signed (-sign) (-x) :=
  hasSign_pack (hasSign_neg signed)

theorem signed_ite {condition : Prop} [Decidable condition] (first : Signed sign x)
    (second : Signed sign y) : Signed sign (if condition then x else y) := by
  split
  · exact first
  · exact second

theorem signed_ofMagnitude (magnitude : Nat) : Signed .positive (ofMagnitude false magnitude) := by
  refine hasSign_pack (hasSign_of_le ?_)
  have bound : min magnitude infinityBits < 2 ^ 64 := by
    unfold infinityBits
    omega
  show (UInt64.ofNat (0 + min magnitude infinityBits)).toBitVec.toNat ≤ infinityBits
  rw [UInt64.toNat_toBitVec, UInt64.toNat_ofNat', Nat.zero_add, Nat.mod_eq_of_lt bound]
  exact Nat.min_le_right ..

theorem signed_ofQuotient (numerator denominator : Nat) :
    Signed .positive (ofQuotient false numerator denominator) := by
  unfold ofQuotient
  split <;> exact signed_ofMagnitude _

theorem signed_ofNat (n : Nat) : Signed .positive (ofInt n) := by
  have natural : decide ((n : Int) < 0) = false := by simp
  rw [ofInt, natural]
  exact signed_ofQuotient ..

theorem isNegative_of_signed (signed : Signed .positive x) : isNegative x = false := by
  have low := lt_of_hasSign signed
  rw [isNegative, decide_eq_false_iff_not, Nat.not_le]
  exact low

theorem signed_rounded (signed : Signed .positive x) : Signed .positive (rounded x) := by
  unfold rounded
  cases taken : parts? x with
  | none => exact signed
  | some parts =>
    have plus : parts.negative = false := by
      rw [← isNegative_of_signed signed]
      unfold parts? at taken
      split at taken <;> cases taken <;> rfl
    dsimp only
    rw [plus]
    exact signed_ofQuotient ..

end Floats

end PathQuery.Number.Binary64
