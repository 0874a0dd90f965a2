import PathQuery.Regex.Reading
import PathQuery.Text.LetterCase
import PathQuery.Unicode.Lookup

/-!
What a backslash and the characters after it stand for: a character, a set or a condition. Without
the flag `u` sets hold ASCII characters only, and what could match a part of a character is refused.
-/

namespace PathQuery.Regex

/-- The characters of `\w`. -/
def wordChars : CharSet :=
  (CharSet.ofTable "30-39 41-5A 5F 61-7A").union (CharSet.ofRanges Text.wordRanges)

/-- The characters of `\d`. -/
def decimalDigits : CharSet :=
  (CharSet.ofTable "30-39").union (CharSet.ofRanges Text.digitRanges)

/-- The characters of `\s`. -/
def blanks : CharSet :=
  Unicode.Binary.whiteSpace

/-- The set with everything that differs in case only, when the flag `i` asks for it. -/
def Flags.folded (flags : Flags) (chars : CharSet) : CharSet :=
  if !flags.ignoreCase then chars
  else if flags.unicode then Text.caseClosure chars
  else Text.asciiCaseClosure chars

/-- What was read after a backslash. -/
inductive Escaped where
  | literal (c : Char)
  | chars (chars : CharSet)
  | look (look : Look)

/-- Characters that have a meaning of their own and stand for themselves after a backslash. -/
def isMeta (c : Char) : Bool :=
  "\\.+*?()|[]\x7b\x7d^$#&-~".toList.contains c

/-- Whether a backslash before the character is allowed although it changes nothing. -/
def isEscapable (c : Char) : Bool :=
  isMeta c || (c.toNat < 0x80 && !c.isAlphanum && c != '<' && c != '>')

namespace Reader

/-- The set that a letter after a backslash stands for, or its complement. -/
def shorthand (chars : CharSet) (negated : Bool) : Reader CharSet := do
  if (← flags).unicode then return if negated then chars.complement else chars
  else if negated then failure
  else return chars.inter (CharSet.range 0 0x7F)

/-- The name of a property, which is one letter or stands in braces. -/
def propertyName : Reader (List Char) := do
  skip
  if ← accept "\x7b" then
    skip
    upToBrace
  else
    let c ← next
    refuse (c == '\\')
    return [c]

/-- The set of a property. -/
def property (negated : Bool) : Reader CharSet := do
  let query ← propertyName
  let flags ← flags
  refuse !flags.unicode
  let chars := flags.folded (← Unicode.chars? query)
  return if negated then chars.complement else chars

/-- Whether a character may stand in the name of a condition. -/
def namesEdge (c : Char) : Bool :=
  c.isAlpha || c == '-'

def edge? (name : String) : Option WordEdge :=
  match name with
  | "start" => some .start
  | "end" => some .stop
  | "start-half" => some .startHalf
  | "end-half" => some .stopHalf
  | _ => none

def edgeName : Reader WordEdge := do
  let name ← readWhile namesEdge
  refuse ((← next) != '\x7d')
  edge? (String.ofList name)

/-- The condition that is named after an opening brace. What begins like no name is a repetition and
is left alone. -/
def bracedEdge (here : List Char) : Reader WordEdge := do
  skip
  more
  if (← peek).any namesEdge then edgeName
  else
    moveTo here
    return .boundary

/-- The condition of `\b`, with the name in braces that may follow it. -/
def wordEdge : Reader WordEdge := do
  let here ← rest
  if ← accept "\x7b" then bracedEdge here else return .boundary

/-- The character that digits after a backslash denote. Two digits outside braces denote a byte. -/
def codePoint (digits : Nat) : Reader Escaped := do
  let (c, braced) ← hexadecimal digits
  refuse (digits = 2 && !braced && !(← flags).unicode && 0x80 ≤ c.toNat)
  return .literal c

def escaped : Reader Escaped := do
  let c ← next
  let flags ← flags
  let word (edge : WordEdge) : Escaped := .look (.word edge !flags.unicode)
  match c with
  | 'x' => codePoint 2
  | 'u' => codePoint 4
  | 'U' => codePoint 8
  | 'p' => return .chars (← property false)
  | 'P' => return .chars (← property true)
  | 'd' => return .chars (← shorthand decimalDigits false)
  | 'D' => return .chars (← shorthand decimalDigits true)
  | 's' => return .chars (← shorthand blanks false)
  | 'S' => return .chars (← shorthand blanks true)
  | 'w' => return .chars (← shorthand wordChars false)
  | 'W' => return .chars (← shorthand wordChars true)
  | 'a' => return .literal '\x07'
  | 'f' => return .literal '\x0C'
  | 't' => return .literal '\t'
  | 'n' => return .literal '\n'
  | 'r' => return .literal '\r'
  | 'v' => return .literal '\x0B'
  | 'A' => return .look .textStart
  | 'z' => return .look .textStop
  | 'b' => return word (← wordEdge)
  | 'B' => return word .inner
  | '<' => return word .start
  | '>' => return word .stop
  | _ => if isEscapable c then return .literal c else failure

end Reader

end PathQuery.Regex
