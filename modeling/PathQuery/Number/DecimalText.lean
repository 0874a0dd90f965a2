import PathQuery.Number.Decimal

/-!
Texts of decimal numbers. A number is written without zeros at the end of its decimal places; it is
read from digits with a point, and from such a text with a power of ten.
-/

namespace PathQuery.Number.Decimal

/-- The digits of a coefficient with a point before the last `scale` of them. -/
def pointed (coefficient scale : Nat) : List Char :=
  let digits := Nat.toDigits 10 coefficient
  if scale = 0 then digits
  else
    let padded := List.replicate (scale + 1 - digits.length) '0' ++ digits
    padded.take (padded.length - scale) ++ '.' :: padded.drop (padded.length - scale)

/-- The characters of a number, with all its decimal places. -/
def chars (d : Decimal) : List Char :=
  let digits := pointed d.coefficient.natAbs d.scale
  if d.coefficient < 0 then '-' :: digits else digits

/-- The text of a number, without zeros at the end of its decimal places. -/
def text (d : Decimal) : String :=
  String.ofList d.normalize.chars

/-- The magnitude read from the digits so far, rounded by the first digit of those that the format
has no room for; they may be divided by underscores. A magnitude that is too large after the
rounding gives up a decimal place, if it has one. -/
def roundedBy (coefficient scale : Nat) (rest : List Char) : Option (Nat × Nat) :=
  if !rest.all fun c => c.isDigit || c == '_' then none
  else if !(rest.find? (· != '_')).any ('5' ≤ ·) then some (coefficient, scale)
  else if coefficient + 1 < 0x1000000000000000000000000 then some (coefficient + 1, scale)
  else if scale = 0 then none
  else some ((coefficient + 5) / 10, scale - 1)

/-- Reads the rest of an unsigned number. The flags tell whether a point and whether a digit came
before. -/
def readDigits (point digit : Bool) (coefficient scale : Nat) : List Char → Option (Nat × Nat)
  | [] => if digit then some (coefficient, scale) else none
  | c :: rest =>
      if point && 28 ≤ scale then roundedBy coefficient scale (c :: rest)
      else if c.isDigit then
        let next := coefficient * 10 + (c.toNat - '0'.toNat)
        if next < 0x1000000000000000000000000 then
          readDigits point true next (if point then scale + 1 else 0) rest
        else if point then roundedBy coefficient scale (c :: rest)
        else none
      else if c == '.' && !point then readDigits true digit coefficient scale rest
      else if c == '_' && digit then readDigits point digit coefficient scale rest
      else none

/-- The number that a text without an exponent denotes. Digits that the format has no room for are
rounded off behind the point and refused before it. -/
def ofChars? (cs : List Char) : Option Decimal :=
  let read (negative : Bool) (digits : List Char) : Option Decimal := do
    let (coefficient, scale) ← readDigits false false 0 0 digits
    ofParts? (if negative then -(coefficient : Int) else coefficient) scale
  match cs with
  | '-' :: digits => read true digits
  | '+' :: digits => read false digits
  | digits => read false digits

/-- A natural number of 32 bits, which a plus sign may precede. -/
def natural32? (cs : List Char) : Option Nat := do
  let n ← natural? (match cs with
    | '+' :: digits => digits
    | digits => digits)
  if n < 0x100000000 then some n else none

/-- The number that a text with a power of ten after the mark `e` denotes. -/
def ofScientific? (cs : List Char) : Option Decimal := do
  let isMark (c : Char) : Bool := c == 'e' || c == 'E'
  let exponent ← match cs.dropWhile (!isMark ·) with
    | [] => none
    | _ :: exponent => some exponent
  let base ← ofChars? (cs.takeWhile (!isMark ·))
  match exponent with
  | '-' :: digits =>
      let places ← natural32? digits
      ofParts? base.coefficient ((base.scale + places) % 0x100000000)
  | digits =>
      let places ← natural32? digits
      if places ≤ base.scale then ofParts? base.coefficient (base.scale - places)
      else if 28 < places then none
      else do
        let shifted ← fit (base.coefficient * (Nat.pow 10 places : Nat)) base.scale
        some shifted.normalize

def ofText? (text : String) : Option Decimal :=
  match ofChars? text.toList with
  | some d => some d
  | none => ofScientific? text.toList

end PathQuery.Number.Decimal
