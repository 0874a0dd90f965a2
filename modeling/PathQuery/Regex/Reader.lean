import PathQuery.Regex.Bracket

/-!
Regular expressions as text. Characters stand for themselves; `.`, sets, conditions, groups with
flags, alternatives and repetitions have their usual meaning. Whether a repetition is greedy makes no
difference to the text that is matched, so it is not kept.
-/

namespace PathQuery.Regex

/-- A part of an expression that was read: what it means, how deep it is nested, and whether it may
be repeated, which is not so of flags. -/
structure Part where
  regex : Regex
  height : Nat := 0
  repeatable : Bool := true

namespace Part

/-- Several parts are one level deeper than the deepest of them, and a single one is itself. -/
def joined (join : List Regex → Regex) (parts : List Part) : Part :=
  match parts with
  | [part] => part
  | parts =>
      let height := parts.foldl (fun height part => max height part.height) 0
      { regex := join (parts.map Part.regex)
        height := if parts.isEmpty then 0 else height + 1 }

def around (change : Regex → Regex) (part : Part) : Part :=
  { regex := change part.regex, height := part.height + 1 }

end Part

/-- The condition of `^`. -/
def Flags.lineStart (flags : Flags) : Look :=
  if flags.multiLine then .lineStart flags.carriageReturn else .textStart

/-- The condition of `$`. -/
def Flags.lineStop (flags : Flags) : Look :=
  if flags.multiLine then .lineStop flags.carriageReturn else .textStop

/-- The set that `.` stands for. -/
def Flags.dot (flags : Flags) : CharSet :=
  if flags.dotMatchesNewline then CharSet.all
  else (CharSet.ofTable (if flags.carriageReturn then "A D" else "A")).complement

/-- What a character stands for that was read as a literal. -/
def Flags.literal (flags : Flags) (c : Char) : Regex :=
  if flags.unicode || c.toNat < 0x80 then .set (flags.folded (CharSet.single c))
  else .set (CharSet.single c)

/-- The letters and numbers that may stand in the names of groups although no set has them yet. -/
def laterLetters : CharSet :=
  CharSet.ofTable
    "88F C5C CDC A7CE-A7CF A7D2 A7D4 A7F1 10940-10959 10EC5-10EC7 10EFA-10EFB 11B60-11B67
      11DB0-11DDB 16EA0-16EB8 16EBB-16ED3 16FF2-16FF6 187F8-187FF 18D09-18D1E 18D80-18DF2
      1E6C0-1E6DE 1E6E0-1E6F5 1E6FE-1E6FF 2B73A-2B73F 2CEA2-2CEAD 323B0-33479"

/-- The numbers among them that are no letters. -/
def laterDigits : CharSet :=
  CharSet.range 0x11DE0 0x11DE9

/-- Whether a character may begin the name of a group. -/
def beginsName (c : Char) : Bool :=
  c == '_' || Unicode.Binary.alphabetic.contains c || laterLetters.contains c

/-- Whether a character may stand in the name of a group. -/
def continuesName (c : Char) : Bool :=
  beginsName c || c == '.' || c == '[' || c == ']' || laterDigits.contains c ||
    (Unicode.Category.charsOf [.decimalNumber, .letterNumber, .otherNumber]).contains c

/-- Whether characters are the name of a group. -/
def isName : List Char → Bool
  | [] => false
  | c :: cs => beginsName c && cs.all continuesName

/-- What was read after a backslash, as an expression. -/
def Flags.ofEscaped (flags : Flags) : Escaped → Regex
  | .literal c => flags.literal c
  | .chars chars => .set chars
  | .look condition => .look condition

namespace Reader

/-- Passes the mark of a lazy repetition. -/
def skipLazy : Reader Unit := do
  discard (accept "?")

/-- The least number of repetitions and the greatest one, if there is any. -/
def bounds : Reader (Nat × Option Nat) := do
  let least ← decimal
  if ← accept "," then
    skip
    if (← peek) == some '\x7d' then return (← least, none)
    else
      let least ← least
      let most ← (← decimal)
      refuse (most < least)
      return (least, some most)
  else return (← least, least)

/-- Reads the rest of a counted repetition after its opening brace. -/
def counts : Reader (Nat × Option Nat) := do
  skip
  more
  let bounds ← bounds
  refuse ((← next) != '\x7d')
  skip
  skipLazy
  return bounds

/-- Reads flags up to the character that ends them. The flags seen are listed, with a dash for the
negation, since none of them may occur twice. -/
def readFlags : Nat → List Char → Flags → Reader (Flags × List Char × Char)
  | 0, _, _ => failure
  | fuel + 1, seen, flags => do
      let c ← next
      if c == ':' || c == ')' then
        refuse (seen.head? == some '-')
        return (flags, seen, c)
      else
        refuse (seen.contains c)
        if c == '-' then readFlags fuel (c :: seen) flags
        else
          let flags ← flags.set? c (!seen.contains '-')
          readFlags fuel (c :: seen) flags

def names : Reader (List (List Char)) :=
  return (← get).names

/-- The characters up to the mark that ends a name, which is passed. -/
def label : Reader (List Char) := do
  let here ← rest
  match here.dropWhile (· != '>') with
  | _ :: after =>
      moveTo after
      return here.takeWhile (· != '>')
  | [] => failure

/-- Reads the name of a group, which no other group may have. -/
def groupName : Reader Unit := do
  let name ← label
  refuse !isName name
  refuse ((← names).contains name)
  modify fun reading => { reading with names := name :: reading.names }

/-- The number of the next group that captures. -/
def groupNumber : Reader (Option Nat) := do
  modify fun reading => { reading with groups := reading.groups + 1 }
  return some (← get).groups

/-- Refuses conditions on the text before and after. -/
def refuseLookaround : Reader Unit := do
  let here ← rest
  refuse (["?=", "?!", "?<=", "?<!"].any fun mark => mark.toList.isPrefixOf here)

/-- Reads the start of a group after its opening parenthesis: the number of the group, if it captures.
There is no more to the group if it only changes flags. Eight characters may stand there once each,
before the one that ends them. -/
def opening : Reader (Option (Option Nat)) := do
  refuseLookaround
  if ← accept "?P<" then
    groupName
    return some (← groupNumber)
  else if ← accept "?<" then
    groupName
    return some (← groupNumber)
  else if ← accept "?" then
    let (flags, seen, closer) ← readFlags 9 [] (← flags)
    modify fun reading => { reading with flags }
    if closer == ':' then return some none
    else
      refuse seen.isEmpty
      return none
  else return some (← groupNumber)

def closing : Reader Unit := do
  refuse !(← accept ")")

/-- Passes the closing parenthesis of a group, at which the flags are again what they were. -/
def close (outer : Flags) : Reader Unit := do
  closing
  modify fun reading => { reading with flags := outer }

/-- A part that needs no other: a character, a set or a condition. -/
def single : Reader Part := do
  let c ← next
  let flags ← flags
  match c with
  | '.' => if flags.unicode then return ⟨.set flags.dot, 0, true⟩ else failure
  | '^' => return ⟨.look flags.lineStart, 0, true⟩
  | '$' => return ⟨.look flags.lineStop, 0, true⟩
  | '\\' => return ⟨flags.ofEscaped (← escaped), 0, true⟩
  | c => return ⟨flags.literal c, 0, true⟩

/-- The numbers of repetitions that come next, if any do. -/
def repetition? : Reader (Option (Nat × Option Nat)) := do
  if ← accept "*" then
    skipLazy
    return some (0, none)
  else if ← accept "+" then
    skipLazy
    return some (1, none)
  else if ← accept "?" then
    skipLazy
    return some (0, some 1)
  else if ← accept "\x7b" then return some (← counts)
  else return none

mutual

/-- Reads alternatives up to a closing parenthesis or the end. -/
def alternatives : Nat → List Part → Reader Part
  | 0, _ => failure
  | fuel + 1, before => do
      let part := Part.joined concat (← sequence fuel []).reverse
      if ← accept "|" then alternatives fuel (part :: before)
      else return Part.joined oneOf (part :: before).reverse

/-- Reads the parts of a sequence; those read before are given, the latest first. -/
def sequence : Nat → List Part → Reader (List Part)
  | 0, _ => failure
  | fuel + 1, parts => do
      skip
      match ← peek with
      | none | some ')' | some '|' => return parts
      | some '(' =>
          let _ ← next
          skip
          sequence fuel ((← group fuel) :: parts)
      | some '[' =>
          let _ ← next
          let bracket ← bracketed fuel
          sequence fuel (⟨.set bracket.chars, bracket.height, true⟩ :: parts)
      | some _ =>
          match ← repetition?, parts with
          | none, parts => sequence fuel ((← single) :: parts)
          | some (least, most), part :: parts =>
              refuse !part.repeatable
              sequence fuel (part.around (.repeated · least most) :: parts)
          | some _, [] => failure

/-- Reads a group, or a change of flags, after its opening parenthesis. -/
def group : Nat → Reader Part
  | 0 => failure
  | fuel + 1 => do
      let outer ← flags
      match ← opening with
      | none => return { regex := .empty, repeatable := false }
      | some number =>
          let part ← alternatives fuel []
          close outer
          return part.around (.group number)

end

def whole? (text : List Char) : Option Part := do
  let (part, reading) ← (alternatives (4 * text.length + 4) []).run { rest := text }
  if reading.rest.isEmpty then some part else none

end Reader

end PathQuery.Regex
