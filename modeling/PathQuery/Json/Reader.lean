import PathQuery.Json

/-!
Reading JSON documents.

Integers that 64 bits hold are read exactly. Any other number is read in floating point: its digits
up to the last that 64 bits hold give a whole number, which is then scaled by the power of ten in
steps of at most 308 places, with one rounding for each step.
-/

namespace PathQuery.Json

/-- A reader of part of a text, which answers what it has read and the rest. -/
abbrev Reader (α : Type) := List Char → Option (α × List Char)

def isBlank (c : Char) : Bool :=
  c == ' ' || c == '\n' || c == '\t' || c == '\r'

def skipBlanks (cs : List Char) : List Char :=
  cs.dropWhile isBlank

namespace Number

/-- The powers of ten up to the largest that is a floating-point number. -/
def powerOfTen (exponent : Nat) : Float :=
  PathQuery.Number.Binary64.ofDecimal false 1 exponent

/-- A whole number scaled by a power of ten; `none` when the result is too large. Every step divides
or multiplies by at most `10 ^ 308`. -/
def scaled (x : Float) (exponent : Int) : Nat → Option Float
  | 0 => some x
  | steps + 1 =>
      if exponent.natAbs ≤ 308 then
        if 0 ≤ exponent then
          let product := x * powerOfTen exponent.toNat
          if product.isInf then none else some product
        else some (x / powerOfTen exponent.natAbs)
      else if x == 0 then some x
      else if 0 ≤ exponent then none
      else scaled (x / powerOfTen 308) (exponent + 308) steps

/-- The number `significand * 10 ^ exponent`, with its sign. After some steps of division nothing is
left, so their number need not grow with the exponent. -/
def ofParts (negative : Bool) (significand : Nat) (exponent : Int) : Option Float :=
  (scaled (PathQuery.Number.Binary64.ofInt significand) exponent 8).map fun x =>
    if negative then -x else x

/-- Reads digits while 64 bits hold the number that they make; the answer also counts them. -/
def digits (significand count : Nat) : List Char → Nat × Nat × List Char
  | c :: rest =>
      let next := significand * 10 + (c.toNat - '0'.toNat)
      if c.isDigit && next < 0x10000000000000000 then digits next (count + 1) rest
      else (significand, count, c :: rest)
  | [] => (significand, count, [])

/-- Reads an exponent, if there is one, and answers the number. -/
def exponent? (negative : Bool) (significand : Nat) (places : Int) : Reader Float
  | c :: rest =>
      if c == 'e' || c == 'E' then
        let (down, ds) := match rest with
          | '+' :: ds => (false, ds)
          | '-' :: ds => (true, ds)
          | ds => (false, ds)
        let shown := ds.takeWhile Char.isDigit
        let after := ds.dropWhile Char.isDigit
        if shown.isEmpty then none
        else
          let size := Nat.ofDigitChars 10 shown 0
          if size < 0x80000000 then
            let total : Int := if down then places - size else places + size
            (ofParts negative significand total).map (·, after)
          else if significand != 0 && !down then none
          else some (if negative then -0.0 else 0.0, after)
      else (ofParts negative significand places).map (·, c :: rest)
  | [] => (ofParts negative significand places).map (·, [])

/-- Reads the places after a point, if there is one, and an exponent. -/
def fraction? (negative : Bool) (significand : Nat) (places : Int) : Reader Float
  | '.' :: rest =>
      let (significand, count, after) := digits significand 0 rest
      let more := after.takeWhile Char.isDigit
      if count = 0 && more.isEmpty then none
      else exponent? negative significand (places - (count : Nat)) (after.drop more.length)
  | cs => exponent? negative significand places cs

def unsigned? (negative : Bool) : Reader Json := fun cs =>
  match cs with
  | [] => none
  | c :: rest =>
      if !c.isDigit then none
      else if c == '0' && (rest.head?.any Char.isDigit) then none
      else
        let (significand, _, after) := digits 0 0 cs
        let more := (after.takeWhile Char.isDigit).length
        let after := after.drop more
        let plain := !(after.head?.any fun c => c == '.' || c == 'e' || c == 'E')
        if more = 0 && plain && !negative then some (.integer significand, after)
        else if more = 0 && plain && significand ≠ 0 && significand ≤ 0x8000000000000000 then
          some (.integer (-(significand : Int)), after)
        else (fraction? negative significand more after).map fun (x, after) => (.float x, after)

end Number

def number? : Reader Json
  | '-' :: rest => Number.unsigned? true rest
  | cs => Number.unsigned? false cs

def ofNumberText? (cs : List Char) : Option Json :=
  match number? cs with
  | some (number, []) => some number
  | _ => none

def hexValue? (c : Char) : Option Nat :=
  if c.isDigit then some (c.toNat - '0'.toNat)
  else if 'a' ≤ c && c ≤ 'f' then some (c.toNat - 'a'.toNat + 10)
  else if 'A' ≤ c && c ≤ 'F' then some (c.toNat - 'A'.toNat + 10)
  else none

def hex4? : Reader Nat
  | a :: b :: c :: d :: rest => do
      let a ← hexValue? a
      let b ← hexValue? b
      let c ← hexValue? c
      let d ← hexValue? d
      return (((a * 16 + b) * 16 + c) * 16 + d, rest)
  | _ => none

/-- Reads what follows `\u`: one character, or two surrogates that make one. -/
def unicode? : Reader Char := fun cs => do
  let (first, rest) ← hex4? cs
  if first < 0xD800 || 0xE000 ≤ first then return (Char.ofNat first, rest)
  else if 0xDC00 ≤ first then none
  else
    match rest with
    | '\\' :: 'u' :: rest => do
        let (second, rest) ← hex4? rest
        if 0xDC00 ≤ second && second < 0xE000 then
          return (Char.ofNat (0x10000 + (first - 0xD800) * 0x400 + (second - 0xDC00)), rest)
        else none
    | _ => none

/-- The character that a letter after a backslash stands for. -/
def escaped? (c : Char) : Option Char :=
  match c with
  | '"' | '\\' | '/' => some c
  | 'b' => some (Char.ofNat 8)
  | 'f' => some (Char.ofNat 12)
  | 'n' => some '\n'
  | 'r' => some '\r'
  | 't' => some '\t'
  | _ => none

/-- Reads the rest of a string, up to its closing quote; the characters read are given, the last of
them first. Every step takes a character at least. -/
def stringRest? (read : List Char) : Nat → Reader String
  | 0, _ => none
  | steps + 1, cs =>
      match cs with
      | [] => none
      | '"' :: rest => some (String.ofList read.reverse, rest)
      | '\\' :: 'u' :: rest => do
          let (c, rest) ← unicode? rest
          stringRest? (c :: read) steps rest
      | '\\' :: c :: rest => do
          let c ← escaped? c
          stringRest? (c :: read) steps rest
      | c :: rest => if c.toNat < 0x20 then none else stringRest? (c :: read) steps rest

def string? : Reader String
  | '"' :: rest => stringRest? [] rest.length.succ rest
  | _ => none

mutual

/-- Reads a document in which arrays and objects are nested less than `depth` levels. -/
def value? (depth : Nat) : Nat → Reader Json
  | 0, _ => none
  | steps + 1, cs =>
      match skipBlanks cs with
      | 'n' :: 'u' :: 'l' :: 'l' :: rest => some (.null, rest)
      | 't' :: 'r' :: 'u' :: 'e' :: rest => some (.bool true, rest)
      | 'f' :: 'a' :: 'l' :: 's' :: 'e' :: rest => some (.bool false, rest)
      | '"' :: rest => (string? ('"' :: rest)).map fun (text, rest) => (.string text, rest)
      | '[' :: rest =>
          if depth ≤ 1 then none
          else
            match skipBlanks rest with
            | ']' :: rest => some (.array [], rest)
            | rest => (elements? (depth - 1) steps rest).map fun (es, rest) => (.array es, rest)
      | '\x7b' :: rest =>
          if depth ≤ 1 then none
          else
            match skipBlanks rest with
            | '\x7d' :: rest => some (.object [], rest)
            | rest => (members? (depth - 1) steps rest).map fun (ms, rest) => (ofMembers ms, rest)
      | rest => number? rest

/-- Reads elements up to the closing bracket. -/
def elements? (depth : Nat) : Nat → Reader (List Json)
  | 0, _ => none
  | steps + 1, cs => do
      let (element, rest) ← value? depth steps cs
      match skipBlanks rest with
      | ']' :: rest => some ([element], rest)
      | ',' :: rest => (elements? depth steps rest).map fun (es, rest) => (element :: es, rest)
      | _ => none

/-- Reads members up to the closing brace. -/
def members? (depth : Nat) : Nat → Reader (List (String × Json))
  | 0, _ => none
  | steps + 1, cs => do
      let (name, rest) ← string? (skipBlanks cs)
      match skipBlanks rest with
      | ':' :: rest => do
          let (member, rest) ← value? depth steps rest
          match skipBlanks rest with
          | '\x7d' :: rest => some ([(name, member)], rest)
          | ',' :: rest =>
              (members? depth steps rest).map fun (ms, rest) => ((name, member) :: ms, rest)
          | _ => none
      | _ => none

end

/-- The document that a text holds, if it holds one and no more. Arrays and objects may be nested
127 levels deep. -/
def ofText? (text : String) : Option Json :=
  let cs := text.toList
  match value? 128 (2 * cs.length + 2) cs with
  | some (document, rest) => if (skipBlanks rest).isEmpty then some document else none
  | none => none

end PathQuery.Json
