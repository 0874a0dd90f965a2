import PathQuery.Number.Integer

/-!
Floating-point numbers of 64 bits as exact rationals: taking a number apart, the nearest number to a
quotient, the integral part, and the remainder of a division.
-/

namespace PathQuery.Number.Binary64

/-- The sign of a number and, when it is finite, the natural `significand` and the `exponent` such
that the magnitude is `significand * 2 ^ exponent`. -/
structure Parts where
  negative : Bool
  significand : Nat
  exponent : Int

def isNegative (x : Float) : Bool :=
  0x8000000000000000 ≤ x.toBits.toNat

/-- The exponent and the fraction as they are stored. -/
def fields (x : Float) : Nat × Nat :=
  let magnitude := x.toBits.toNat % 0x8000000000000000
  (magnitude / 0x10000000000000, magnitude % 0x10000000000000)

/-- Takes a finite number apart; `none` for infinities and for what is not a number. -/
def parts? (x : Float) : Option Parts :=
  match fields x with
  | (0, fraction) => some ⟨isNegative x, fraction, -1074⟩
  | (0x7FF, _) => none
  | (biased, fraction) => some ⟨isNegative x, 0x10000000000000 + fraction, (biased : Int) - 1075⟩

def isFinite (x : Float) : Bool :=
  (parts? x).isSome

/-- The stored magnitude of infinity. -/
def infinityBits : Nat := 0x7FF * 0x10000000000000

/-- The number with the given sign and stored magnitude. -/
def ofMagnitude (negative : Bool) (magnitude : Nat) : Float :=
  let sign := if negative then 0x8000000000000000 else 0
  Float.ofBits (UInt64.ofNat (sign + min magnitude infinityBits))

def infinity (negative : Bool) : Float :=
  ofMagnitude negative infinityBits

def nan : Float :=
  Float.ofBits 0x7FF8000000000000

/-- The quotient `numerator / (denominator * 2 ^ exponent)`, rounded to the nearest integer. -/
def scaledQuotient (numerator denominator : Nat) (exponent : Int) : Nat :=
  if 0 ≤ exponent then roundedQuotient numerator (denominator * Nat.pow 2 exponent.toNat)
  else roundedQuotient (numerator * Nat.pow 2 (-exponent).toNat) denominator

/-- The exponent with which a positive quotient has a significand of 53 bits, or the least exponent
that there is. -/
def exponentOf (numerator denominator : Nat) : Int :=
  let estimate : Int := (numerator.log2 : Int) - denominator.log2 - 53
  let exponent :=
    if scaledQuotient numerator denominator estimate < 0x20000000000000 then estimate
    else estimate + 1
  max exponent (-1074)

/-- The number nearest to a quotient, with an even significand when two are equally near, and
infinity when the quotient is too large. -/
def ofQuotient (negative : Bool) (numerator denominator : Nat) : Float :=
  if numerator = 0 then ofMagnitude negative 0
  else
    let exponent := exponentOf numerator denominator
    let significand := scaledQuotient numerator denominator exponent
    ofMagnitude negative ((exponent + 1074).toNat * 0x10000000000000 + significand)

/-- The number nearest to `significand * 10 ^ exponent`. -/
def ofDecimal (negative : Bool) (significand : Nat) (exponent : Int) : Float :=
  if significand = 0 then ofMagnitude negative 0
  else
    let digits : Int := (Nat.toDigits 10 significand).length
    if 400 < digits + exponent then infinity negative
    else if digits + exponent < -400 then ofMagnitude negative 0
    else if 0 ≤ exponent then ofQuotient negative (significand * Nat.pow 10 exponent.toNat) 1
    else ofQuotient negative significand (Nat.pow 10 (-exponent).toNat)

def ofInt (n : Int) : Float :=
  ofQuotient (n < 0) n.natAbs 1

namespace Parts

/-- The magnitude as a quotient. -/
def quotient (parts : Parts) : Nat × Nat :=
  if 0 ≤ parts.exponent then (parts.significand * Nat.pow 2 parts.exponent.toNat, 1)
  else (parts.significand, Nat.pow 2 (-parts.exponent).toNat)

def truncated (parts : Parts) : Int :=
  let (numerator, denominator) := parts.quotient
  if parts.negative then -((numerator / denominator : Nat) : Int) else (numerator / denominator : Nat)

def isIntegral (parts : Parts) : Bool :=
  let (numerator, denominator) := parts.quotient
  numerator % denominator == 0

end Parts

def truncate? (x : Float) : Option Int :=
  (parts? x).map Parts.truncated

/-- The nearest integer, a half going away from zero. -/
def rounded (x : Float) : Float :=
  match parts? x with
  | none => x
  | some parts =>
      let (numerator, denominator) := parts.quotient
      ofQuotient parts.negative ((2 * numerator + denominator) / (2 * denominator)) 1

/-- What is left of `x` after taking away `y` as often as it goes into `x`, toward zero. The result
is exact and has the sign of `x`. -/
def remainder (x y : Float) : Float :=
  match parts? x, parts? y with
  | none, _ => nan
  | some _, none => if y.isNaN then nan else x
  | some left, some right =>
      if right.significand = 0 then nan
      else
        let least := min left.exponent right.exponent
        let scaled (parts : Parts) : Nat :=
          parts.significand * Nat.pow 2 (parts.exponent - least).toNat
        let rest : Parts := ⟨left.negative, scaled left % scaled right, least⟩
        let (numerator, denominator) := rest.quotient
        ofQuotient left.negative numerator denominator

end PathQuery.Number.Binary64
