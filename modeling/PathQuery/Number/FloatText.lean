import PathQuery.Number.Shortest

/-!
Texts of floating-point numbers: the plain form without an exponent, the form of JSON documents, and
the forms that are read.
-/

namespace PathQuery.Number.Binary64

/-- The digits of a finite magnitude, positional and as short as can be. -/
def shortestChars (x : Float) (parts : Parts) : List Char :=
  if parts.significand = 0 then ['0'] else (shortest x parts).positional

/-- The text of a number without an exponent. A whole number below `10 ^ 16` keeps one decimal
place, so that it stays a number with a point. -/
def plainText (x : Float) : String :=
  match parts? x with
  | none => if x.isNaN then "NaN" else if isNegative x then "-inf" else "inf"
  | some parts =>
      let sign := if parts.negative then ['-'] else []
      let magnitude := parts.truncated.natAbs
      if parts.isIntegral && magnitude < 10000000000000000 then
        String.ofList (sign ++ Nat.toDigits 10 magnitude ++ ['.', '0'])
      else
        String.ofList (sign ++ shortestChars x parts)

/-- The text of a finite number in a JSON document: positional from `10 ^ -5` up to `10 ^ 16`, and
with a signed exponent elsewhere. -/
def jsonText (x : Float) (parts : Parts) : String :=
  let sign := if parts.negative then ['-'] else []
  if parts.significand = 0 then String.ofList (sign ++ ['0', '.', '0'])
  else
    let decimal := shortest x parts
    if -5 ≤ decimal.leading && decimal.leading < 16 then
      let point := if 0 ≤ decimal.exponent then ['.', '0'] else []
      String.ofList (sign ++ decimal.positional ++ point)
    else
      let mantissa := match decimal.digits with
        | [] => []
        | [digit] => [digit]
        | digit :: others => digit :: '.' :: others
      let exponent := (if decimal.leading < 0 then '-' else '+') ::
        Nat.toDigits 10 decimal.leading.natAbs
      String.ofList (sign ++ mantissa ++ 'e' :: exponent)

/-- The exponent after the mark `e`, or zero when nothing is left. -/
def exponent? : List Char → Option Int
  | [] => some 0
  | mark :: digits => if mark == 'e' || mark == 'E' then signed? digits else none

/-- The number that an unsigned text denotes: digits with or without a point and an exponent, or the
name of infinity or of what is not a number. -/
def unsigned? (negative : Bool) (cs : List Char) : Option Float :=
  let name := String.ofList (cs.map Char.toLower)
  if name == "inf" || name == "infinity" then some (infinity negative)
  else if name == "nan" then some nan
  else
    let whole := cs.takeWhile Char.isDigit
    let rest := cs.dropWhile Char.isDigit
    let (fraction, rest) := match rest with
      | '.' :: after => (after.takeWhile Char.isDigit, after.dropWhile Char.isDigit)
      | _ => ([], rest)
    if whole.isEmpty && fraction.isEmpty then none
    else
      (exponent? rest).map fun exponent =>
        ofDecimal negative (Nat.ofDigitChars 10 (whole ++ fraction) 0) (exponent - fraction.length)

def ofText? (text : String) : Option Float :=
  match text.toList with
  | '-' :: cs => unsigned? true cs
  | '+' :: cs => unsigned? false cs
  | cs => unsigned? false cs

end PathQuery.Number.Binary64
