import PathQuery.Number.Binary64

/-!
Decimal numbers: a coefficient of at most 96 bits and a scale of at most 28 decimal places.

Sums, differences and products are computed exactly and then rounded to the most decimal places that
the format can hold, a half going to the even neighbour; quotients are rounded in the same way. A
result that does not fit even without decimal places is an overflow, which is written `none`.
-/

namespace PathQuery.Number

/-- The number `coefficient / 10 ^ scale`. -/
structure Decimal where
  coefficient : Int
  scale : Nat
  coefficient_lt : coefficient.natAbs < 0x1000000000000000000000000
  scale_le : scale ≤ 28

namespace Decimal

/-- The number with the given coefficient and scale, if the format holds it. -/
def ofParts? (coefficient : Int) (scale : Nat) : Option Decimal :=
  if bounds : coefficient.natAbs < 0x1000000000000000000000000 ∧ scale ≤ 28 then
    some ⟨coefficient, scale, bounds.1, bounds.2⟩
  else none

def zero : Decimal :=
  ⟨0, 0, by decide, by decide⟩

def one : Decimal :=
  ⟨1, 0, by decide, by decide⟩

/-- The integer as a decimal, if its coefficient is not too large. -/
def ofInt? (n : Int) : Option Decimal :=
  ofParts? n 0

def isZero (d : Decimal) : Bool :=
  d.coefficient == 0

/-- The coefficient that the number has with more decimal places. -/
def coefficientAt (d : Decimal) (scale : Nat) : Int :=
  d.coefficient * (Nat.pow 10 (scale - d.scale) : Nat)

/-- The order of two numbers by value, whatever their scales. -/
def compare (left right : Decimal) : Ordering :=
  let scale := max left.scale right.scale
  Ord.compare (left.coefficientAt scale) (right.coefficientAt scale)

def sameValue (left right : Decimal) : Bool :=
  left.compare right == .eq

/-- An integer with the sign of `sign` and the given magnitude. -/
def signedLike (sign : Int) (magnitude : Nat) : Int :=
  if sign < 0 then -magnitude else magnitude

/-- The number `coefficient / 10 ^ scale`, rounded to the most decimal places that fit. -/
def fit (coefficient : Int) (scale : Nat) : Option Decimal :=
  (List.range (scale + 1)).findSome? fun dropped =>
    ofParts? (signedLike coefficient (roundedQuotient coefficient.natAbs (Nat.pow 10 dropped)))
      (scale - dropped)

def negated (d : Decimal) : Decimal :=
  ⟨-d.coefficient, d.scale, by rw [Int.natAbs_neg]; exact d.coefficient_lt, d.scale_le⟩

/-- The sum. What is added to zero, or has zero added to it, keeps its decimal places. -/
def add (left right : Decimal) : Option Decimal :=
  if left.isZero then some right
  else if right.isZero then some left
  else
    let scale := max left.scale right.scale
    fit (left.coefficientAt scale + right.coefficientAt scale) scale

def sub (left right : Decimal) : Option Decimal :=
  left.add right.negated

def mul (left right : Decimal) : Option Decimal :=
  fit (left.coefficient * right.coefficient) (left.scale + right.scale)

/-- The quotient with the most decimal places that fit. The divisor is not zero. -/
def div (left right : Decimal) : Option Decimal :=
  let sign := left.coefficient * right.coefficient
  let denominator := right.coefficient.natAbs * Nat.pow 10 left.scale
  (List.range 29).findSome? fun dropped =>
    let scale := 28 - dropped
    let numerator := left.coefficient.natAbs * Nat.pow 10 (right.scale + scale)
    ofParts? (signedLike sign (roundedQuotient numerator denominator)) scale

/-- What is left after taking away the divisor as often as it goes into the number, toward zero. -/
def rem (left right : Decimal) : Option Decimal :=
  let scale := max left.scale right.scale
  ofParts? ((left.coefficientAt scale).tmod (right.coefficientAt scale)) scale

def truncate (d : Decimal) : Int :=
  d.coefficient.tdiv (Nat.pow 10 d.scale : Nat)

/-- The coefficient and scale without the zeros at the end of the decimal places. -/
def strip : Int → Nat → Int × Nat
  | coefficient, 0 => (coefficient, 0)
  | coefficient, scale + 1 =>
      if coefficient.tmod 10 = 0 then strip (coefficient.tdiv 10) scale
      else (coefficient, scale + 1)

/-- The number with the fewest decimal places that keep its value. -/
def normalize (d : Decimal) : Decimal :=
  let (coefficient, scale) := strip d.coefficient d.scale
  (ofParts? coefficient scale).getD d

def roundSignificant (d : Decimal) (count : Nat) : Option Decimal :=
  if d.isZero || count == 0 then some zero
  else
    let length := (Nat.toDigits 10 d.coefficient.natAbs).length
    if length ≤ count then some d
    else
      let dropped := length - count
      let rounded :=
        signedLike d.coefficient (roundedQuotient d.coefficient.natAbs (Nat.pow 10 dropped))
      if dropped ≤ d.scale then ofParts? rounded (d.scale - dropped)
      else ofParts? (rounded * (Nat.pow 10 (dropped - d.scale) : Nat)) 0

/-- Multiplies `product` by a power of `base`: the base is squared for every binary digit of the
exponent, and the squares of the digits that are one are multiplied up. -/
def mulPower (base product : Decimal) (exponent : Nat) : Option Decimal := do
  let product ← if exponent % 2 = 1 then product.mul base else some product
  if exponent / 2 = 0 then some product
  else mulPower (← base.mul base) product (exponent / 2)
termination_by exponent
decreasing_by omega

def powNatural (base : Decimal) (exponent : Nat) : Option Decimal :=
  if exponent = 0 then some one
  else if base.isZero then some zero
  else if base.sameValue one then some one
  else if exponent = 1 then some base
  else if exponent = 2 then base.mul base
  else (mulPower base one exponent).map normalize

/-- A power with an integer exponent, a negative one through the reciprocal. -/
def pow (base : Decimal) (exponent : Int) : Option Decimal :=
  if 0 ≤ exponent then base.powNatural exponent.toNat
  else do
    let power ← base.powNatural exponent.natAbs
    if power.isZero then none else one.div power

/-- The floating-point number of a decimal. Its integral and fractional parts are converted by
themselves, and their sum is rounded at the last decimal place. -/
def toFloat (d : Decimal) : Float :=
  let unit := Nat.pow 10 d.scale
  let whole := Binary64.ofInt (d.coefficient.natAbs / unit : Nat)
  let places := Binary64.ofInt (d.coefficient.natAbs % unit : Nat)
  let factor := Binary64.ofInt unit
  let fraction := places / factor
  let magnitude :=
    if fraction == 0 then whole else Binary64.rounded ((whole + fraction) * factor) / factor
  if d.coefficient < 0 then -magnitude else magnitude

/-- Trades factors of two in the denominator for factors of ten: the coefficient is multiplied by
five while there is room, and halved otherwise. -/
def tradeTwos : Nat → Nat → Int → Nat × Int
  | 0, coefficient, exponent => (coefficient, exponent)
  | count + 1, coefficient, exponent =>
      if coefficient % 2 = 1 && coefficient * 5 < 0x1000000000000000000000000 then
        tradeTwos count (coefficient * 5) exponent
      else tradeTwos count (coefficient / 2) (exponent + 1)

/-- Trades factors of two in the numerator for factors of ten: the coefficient is doubled while
there is room, and divided by five otherwise. -/
def tradeFives : Nat → Nat → Int → Nat × Int
  | 0, coefficient, exponent => (coefficient, exponent)
  | count + 1, coefficient, exponent =>
      if coefficient < 0x800000000000000000000000 then
        tradeFives count (coefficient * 2) (exponent - 1)
      else tradeFives count (coefficient / 5) exponent

/-- Drops decimal places, a half being rounded up, while the condition holds. -/
def dropPlaces (condition : Nat → Int → Bool) : Nat → Nat → Int → Nat × Int
  | 0, coefficient, exponent => (coefficient, exponent)
  | fuel + 1, coefficient, exponent =>
      if condition coefficient exponent then
        if coefficient / 10 = 0 then (0, 0)
        else
          let rounded := coefficient / 10 + (if 5 ≤ coefficient % 10 then 1 else 0)
          dropPlaces condition fuel rounded (exponent + 1)
      else (coefficient, exponent)

/-- The decimal of a floating-point number, with the fifteen or sixteen digits that the number
warrants. -/
def ofFloat? (x : Float) : Option Decimal := do
  let parts ← Binary64.parts? x
  let (coefficient, exponent) :=
    if parts.exponent < 0 then tradeTwos parts.exponent.natAbs parts.significand parts.exponent
    else tradeFives parts.exponent.toNat parts.significand parts.exponent
  let (coefficient, exponent) :=
    if 0 < exponent then (coefficient * Nat.pow 10 exponent.toNat, 0) else (coefficient, exponent)
  if 0x1000000000000000000000000 ≤ coefficient then none
  let (coefficient, exponent) :=
    dropPlaces (fun _ exponent => exponent < -28) exponent.natAbs coefficient exponent
  let (coefficient, exponent) :=
    dropPlaces (fun coefficient exponent => exponent < 0 && 0x10000000000000 ≤ coefficient)
      exponent.natAbs coefficient exponent
  let (coefficient, scale) := strip coefficient exponent.natAbs
  ofParts? (if parts.negative then -coefficient else coefficient) scale

end Decimal

end PathQuery.Number
