import PathQuery.Regex.Escape

/-!
Sets in brackets: characters, ranges, named sets, nested brackets and the operators `&&`, `--` and
`~~`, which group to the left. With each set goes the height of what it was read from, since the
depth of a regular expression is limited.
-/

namespace PathQuery.Regex

/-- A set that was read, and how deep what it was read from is nested. -/
structure Bracket where
  chars : CharSet
  height : Nat := 0

namespace Bracket

/-- One level more around a set. -/
def deeper (bracket : Bracket) : Bracket :=
  { bracket with height := bracket.height + 1 }

end Bracket

/-- The items of a set that were read so far. -/
structure Items where
  count : Nat := 0
  chars : CharSet := CharSet.empty
  height : Nat := 0

namespace Items

def push (items : Items) (item : Bracket) : Items :=
  ⟨items.count + 1, items.chars.union item.chars, max items.height item.height⟩

/-- The items as one set. Several of them are one level deeper than a single one. -/
def whole (items : Items) : Bracket :=
  ⟨items.chars, if items.count ≤ 1 then items.height else items.height + 1⟩

end Items

inductive SetOperator where
  | intersection
  | difference
  | symmetricDifference

def SetOperator.sign : SetOperator → String
  | intersection => "&&"
  | difference => "--"
  | symmetricDifference => "~~"

def SetOperator.apply (flags : Flags) (operator : SetOperator) (left right : Bracket) : Bracket :=
  let combine := match operator with
    | intersection => CharSet.inter
    | difference => CharSet.difference
    | symmetricDifference => CharSet.symmetricDifference
  ⟨combine (flags.folded left.chars) (flags.folded right.chars), max left.height right.height + 1⟩

/-- The named sets of the form `[:name:]`, which hold ASCII characters only. -/
def asciiTable? (name : String) : Option String :=
  match name with
  | "alnum" => some "30-39 41-5A 61-7A"
  | "alpha" => some "41-5A 61-7A"
  | "ascii" => some "0-7F"
  | "blank" => some "9 20"
  | "cntrl" => some "0-1F 7F"
  | "digit" => some "30-39"
  | "graph" => some "21-7E"
  | "lower" => some "61-7A"
  | "print" => some "20-7E"
  | "punct" => some "21-2F 3A-40 5B-60 7B-7E"
  | "space" => some "9-D 20"
  | "upper" => some "41-5A"
  | "word" => some "30-39 41-5A 5F 61-7A"
  | "xdigit" => some "30-39 41-46 61-66"
  | _ => none

/-- The named set at the start of a text, whether its complement is meant, and what comes after it.
The opening bracket has been passed. -/
def asciiSet? (rest : List Char) : Option (CharSet × Bool × List Char) :=
  match rest with
  | ':' :: '^' :: rest => named true rest
  | ':' :: rest => named false rest
  | _ => none
where
  named (negated : Bool) (rest : List Char) : Option (CharSet × Bool × List Char) :=
    match rest.dropWhile (· != ':') with
    | ':' :: ']' :: after =>
        (asciiTable? (String.ofList (rest.takeWhile (· != ':')))).map fun table =>
          (CharSet.ofTable table, negated, after)
    | _ => none

namespace Reader

/-- The set with the case folded as the flags ask, or its complement. Without the flag `u` a
complement could match a part of a character. -/
def closed (chars : CharSet) (negated : Bool) : Reader CharSet := do
  let flags ← flags
  let chars := flags.folded chars
  if !negated then return chars
  else if flags.unicode then return chars.complement
  else failure

/-- What may stand inside brackets; a condition has no place there, and without the flag `u`
neither has a character beyond ASCII. -/
def inBrackets : Escaped → Reader Escaped
  | .look _ => failure
  | .chars chars => return .chars chars
  | .literal c => do
      refuse (!(← flags).unicode && 0x80 ≤ c.toNat)
      return .literal c

/-- One character or set inside brackets. -/
def setItem : Reader Escaped := do
  let c ← next
  inBrackets (← if c == '\\' then escaped else pure (.literal c))

/-- Passes a dash if it makes a range of what stands before and after it. -/
def rangeDash : Reader Bool := do
  let flags ← flags
  match ← rest with
  | '-' :: rest =>
      if makesRange flags.verbose rest then
        moveTo rest
        return true
      else return false
  | _ => return false

def setRange : Reader CharSet := do
  let first ← setItem
  skip
  more
  if ← rangeDash then
    skip
    more
    match first, ← setItem with
    | .literal low, .literal high =>
        refuse (high < low)
        return CharSet.range low.toNat high.toNat
    | _, _ => failure
  else
    match first with
    | .literal c => return CharSet.single c
    | .chars chars => return chars
    | .look _ => return CharSet.empty

/-- Dashes at the start of a set stand for themselves, and so does a closing bracket there. -/
def leading : Reader Items := do
  let dashes ← readWhile (· == '-')
  more
  if !dashes.isEmpty then
    return dashes.foldl (fun items c => items.push ⟨CharSet.single c, 0⟩) {}
  else if ← accept "]" then
    skip
    more
    return ({} : Items).push ⟨CharSet.single ']', 0⟩
  else return {}

/-- The operator that comes next, if one does. -/
def setOperator? : Reader (Option SetOperator) := do
  if ← accept SetOperator.intersection.sign then return some .intersection
  else if ← accept SetOperator.difference.sign then return some .difference
  else if ← accept SetOperator.symmetricDifference.sign then return some .symmetricDifference
  else return none

/-- The named set that comes next after an opening bracket, if one does, and whether its complement is
meant. -/
def namedSet? : Reader (Option (CharSet × Bool)) := do
  match asciiSet? (← rest) with
  | some (chars, negated, after) =>
      moveTo after
      return some (chars, negated)
  | none => return none

mutual

/-- Reads a set after its opening bracket. -/
def bracketed : Nat → Reader Bracket
  | 0 => failure
  | fuel + 1 => do
      skip
      let negated ← accept "^"
      skip
      let bracket ← setBody fuel none (← leading)
      return { bracket with chars := ← closed bracket.chars negated }.deeper

/-- Reads the rest of a set, given the operand and operator that wait for a right operand and the
items read since. -/
def setBody : Nat → Option (Bracket × SetOperator) → Items → Reader Bracket
  | 0, _, _ => failure
  | fuel + 1, pending, items => do
      skip
      more
      let flags ← flags
      let whole := match pending with
        | some (left, operator) => operator.apply flags left items.whole
        | none => items.whole
      match ← setOperator? with
      | some operator => setBody fuel (some (whole, operator)) {}
      | none =>
          if ← accept "]" then return whole
          else if ← accept "[" then
            match ← namedSet? with
            | some (chars, negated) =>
                let chars ← closed chars negated
                setBody fuel pending (items.push ⟨chars, 0⟩)
            | none =>
                let nested ← bracketed fuel
                setBody fuel pending (items.push nested)
          else
            let chars ← setRange
            setBody fuel pending (items.push ⟨chars, 0⟩)

end

end Reader

end PathQuery.Regex
