import PathQuery.Regex
import PathQuery.Text.Blank

/-!
What the readers of regular expressions share: the text that is left with the flags in force, the
blanks and comments that the flag `x` allows, and numbers.
-/

namespace PathQuery.Regex

/-- The flags `i`, `m`, `s`, `R`, `u` and `x`. -/
structure Flags where
  ignoreCase : Bool := false
  multiLine : Bool := false
  dotMatchesNewline : Bool := false
  carriageReturn : Bool := false
  unicode : Bool := true
  verbose : Bool := false

/-- Sets the flag of the given letter. The flag `U` exchanges greedy and lazy repetition, which makes
no difference to what is matched. -/
def Flags.set? (flags : Flags) (letter : Char) (value : Bool) : Option Flags :=
  match letter with
  | 'i' => some { flags with ignoreCase := value }
  | 'm' => some { flags with multiLine := value }
  | 's' => some { flags with dotMatchesNewline := value }
  | 'R' => some { flags with carriageReturn := value }
  | 'u' => some { flags with unicode := value }
  | 'x' => some { flags with verbose := value }
  | 'U' => some flags
  | _ => none

/-- What is left to read, the flags in force, the group names used so far and how many groups
capture. -/
structure Reading where
  rest : List Char
  flags : Flags := {}
  names : List (List Char) := []
  groups : Nat := 0

/-- A reader of a part of a regular expression. -/
abbrev Reader := StateT Reading Option

/-- Passes blanks and comments. -/
def afterSpace : List Char → List Char
  | [] => []
  | c :: rest =>
      if Text.isBlank c then afterSpace rest
      else if c == '#' then afterComment rest
      else c :: rest
where
  afterComment : List Char → List Char
    | [] => []
    | c :: rest => if c == '\n' then afterSpace rest else afterComment rest

/-- The character that decides whether a dash in brackets makes a range. The flag `x` lets blanks be
passed to find it, and the mark of a comment, but not the text of one. -/
def deciding? (verbose : Bool) (rest : List Char) : Option Char :=
  if verbose then (past false rest).or rest.head? else rest.head?
where
  past (inComment : Bool) : List Char → Option Char
    | [] => none
    | c :: rest =>
        if Text.isBlank c then past inComment rest
        else if !inComment && c == '#' then past true rest
        else some c

/-- Whether a dash in brackets makes a range with what comes after it. -/
def makesRange (verbose : Bool) (rest : List Char) : Bool :=
  let c := deciding? verbose rest
  c != some ']' && c != some '-'

namespace Reader

def rest : Reader (List Char) :=
  return (← get).rest

def flags : Reader Flags :=
  return (← get).flags

def moveTo (rest : List Char) : Reader Unit :=
  modify fun reading => { reading with rest }

/-- Passes what the flag `x` lets be passed. -/
def skip : Reader Unit :=
  modify fun reading =>
    if reading.flags.verbose then { reading with rest := afterSpace reading.rest } else reading

def next : Reader Char := do
  match ← rest with
  | [] => failure
  | c :: rest => moveTo rest; return c

/-- Passes the given text if it comes next. -/
def accept (text : String) : Reader Bool := do
  match ← rest with
  | rest =>
      if text.toList.isPrefixOf rest then
        moveTo (rest.drop text.length)
        return true
      else return false

/-- Fails if the condition holds. -/
def refuse (condition : Bool) : Reader Unit :=
  if condition then failure else pure ()

/-- The next character, which is not passed. -/
def peek : Reader (Option Char) :=
  return (← rest).head?

/-- Refuses the end of the text. -/
def more : Reader Unit := do
  refuse (← rest).isEmpty

def skipBlanks : Reader Unit :=
  modify fun reading => { reading with rest := reading.rest.dropWhile Text.isBlank }

/-- The characters from here on that are accepted, with what the flag `x` allows after each. -/
def readWhile (accepts : Char → Bool) : Reader (List Char) := do
  go (← rest).length
where
  go : Nat → Reader (List Char)
    | 0 => return []
    | count + 1 => do
        if (← peek).any accepts then
          let c ← next
          skip
          return c :: (← go count)
        else return []

/-- The characters up to a closing brace, which is passed, with what the flag `x` allows after
each. -/
def upToBrace : Reader (List Char) := do
  go (← rest).length
where
  go : Nat → Reader (List Char)
    | 0 => failure
    | count + 1 => do
        let c ← next
        if c == '\x7d' then return []
        else
          skip
          return c :: (← go count)

/-- So many characters, with what the flag `x` allows after each. -/
def characters : Nat → Reader (List Char)
  | 0 => return []
  | count + 1 => do
      let c ← next
      skip
      return c :: (← characters count)

def hexDigit? (c : Char) : Option Nat :=
  if c.isDigit then some (c.toNat - '0'.toNat)
  else if 'a' ≤ c && c ≤ 'f' then some (c.toNat - 'a'.toNat + 10)
  else if 'A' ≤ c && c ≤ 'F' then some (c.toNat - 'A'.toNat + 10)
  else none

/-- The character whose code point has the given hexadecimal digits. -/
def ofHex? (digits : List Char) : Option Char := do
  if digits.isEmpty then none
  let point ← digits.foldlM (fun point digit => return point * 16 + (← hexDigit? digit)) 0
  if point.isValidChar then some (Char.ofNat point) else none

/-- So many digits, or digits in braces. It is told which of the two was read. -/
def hexDigits (count : Nat) : Reader (List Char × Bool) := do
  skip
  more
  if ← accept "\x7b" then
    skip
    let digits ← upToBrace
    skip
    return (digits, true)
  else return (← characters count, false)

/-- The character that so many digits denote, or digits in braces. -/
def hexadecimal (count : Nat) : Reader (Char × Bool) := do
  let (digits, braced) ← hexDigits count
  return (← ofHex? digits, braced)

/-- The number that digits denote. A number of more than 32 bits is refused. -/
def ofDigits? (digits : List Char) : Option (Option Nat) :=
  if digits.isEmpty then some none
  else
    let value := digits.foldl (fun value digit => value * 10 + (digit.toNat - '0'.toNat)) 0
    if value < 0x100000000 then some (some value) else none

/-- A decimal number with blanks around it. -/
def decimal : Reader (Option Nat) := do
  skipBlanks
  let digits ← readWhile Char.isDigit
  skipBlanks
  skip
  ofDigits? digits

end Reader

end PathQuery.Regex
