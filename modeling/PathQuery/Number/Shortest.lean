import PathQuery.Number.Binary64

/-!
The shortest decimal of a floating-point number: of the decimals that read back as the number, one
with the fewest digits, and of these the nearest.
-/

namespace PathQuery.Number

/-- The decimal `significand * 10 ^ exponent`. -/
structure Scientific where
  significand : Nat
  exponent : Int
deriving DecidableEq

namespace Scientific

def digits (decimal : Scientific) : List Char :=
  Nat.toDigits 10 decimal.significand

def leading (decimal : Scientific) : Int :=
  decimal.exponent + decimal.digits.length - 1

/-- The digits with a point where the exponent puts it, and no exponent. -/
def positional (decimal : Scientific) : List Char :=
  let digits := decimal.digits
  if 0 ≤ decimal.exponent then
    digits ++ List.replicate decimal.exponent.toNat '0'
  else
    let places := (-decimal.exponent).toNat
    if places < digits.length then
      digits.take (digits.length - places) ++ '.' :: digits.drop (digits.length - places)
    else
      '0' :: '.' :: (List.replicate (places - digits.length) '0' ++ digits)

end Scientific

namespace Binary64

/-- The exponent of the leading decimal digit of a positive quotient. -/
def leadingExponent (numerator denominator : Nat) : Int :=
  if denominator ≤ numerator then
    ((Nat.toDigits 10 (numerator / denominator)).length : Int) - 1
  else
    -(Nat.toDigits 10 ((denominator + numerator - 1) / numerator - 1)).length

/-- The decimals next to a quotient, at or below it and above it, with a given exponent, the nearer
one first. -/
def neighbours (numerator denominator : Nat) (exponent : Int) : List Scientific :=
  let (scaled, unit) :=
    if 0 ≤ exponent then (numerator, denominator * Nat.pow 10 exponent.toNat)
    else (numerator * Nat.pow 10 (-exponent).toNat, denominator)
  let below : Scientific := ⟨scaled / unit, exponent⟩
  let above : Scientific := ⟨scaled / unit + 1, exponent⟩
  if roundedQuotient scaled unit = scaled / unit then [below, above] else [above, below]

/-- Whether a decimal reads back as the magnitude of a number. -/
def readsBack (x : Float) (decimal : Scientific) : Bool :=
  (ofDecimal (isNegative x) decimal.significand decimal.exponent).toBits == x.toBits

/-- The quotient written out in full, when its denominator is a power of two. -/
def exactDecimal (parts : Parts) : Scientific :=
  if 0 ≤ parts.exponent then ⟨parts.significand * Nat.pow 2 parts.exponent.toNat, 0⟩
  else ⟨parts.significand * Nat.pow 5 (-parts.exponent).toNat, parts.exponent⟩

/-- The decimal without the zeros at its end. -/
def withoutTrailingZeros : Nat → Scientific → Scientific
  | 0, decimal => decimal
  | fuel + 1, decimal =>
      if decimal.significand % 10 = 0 then
        withoutTrailingZeros fuel ⟨decimal.significand / 10, decimal.exponent + 1⟩
      else decimal

/-- The shortest decimal of a finite number other than zero. Seventeen digits are always enough. -/
def shortest (x : Float) (parts : Parts) : Scientific :=
  let (numerator, denominator) := parts.quotient
  let leading := leadingExponent numerator denominator
  let candidates := (List.range 17).flatMap fun (count : Nat) =>
    neighbours numerator denominator (leading - (count : Nat))
  let found := (candidates.find? (readsBack x)).getD (exactDecimal parts)
  withoutTrailingZeros 20 found

end Binary64

end PathQuery.Number
