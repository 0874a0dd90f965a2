import PathQuery.Text.Blank
import PathQuery.Token.Grammar

/-!
Lexemes: the division of a text into the pieces that the grammar finds. What lies between two
lexemes is a gap. In strict mode a gap may hold white space only; in lenient mode the text of any
other gap is kept with the lexeme after it.
-/

namespace PathQuery

/-- A part of a text by the offsets of its ends, counted in bytes of UTF-8. -/
structure Span where
  start : Nat
  stop : Nat
deriving DecidableEq

namespace Span

def merge (left right : Span) : Span :=
  ⟨min left.start right.start, max left.stop right.stop⟩

end Span

def byteLength (cs : List Char) : Nat :=
  cs.foldr (fun c bytes => c.utf8Size + bytes) 0

/-- The place of a text that comes after the given number of bytes, or after the character that an
offset divides. -/
def Cursor.advanceBytes (cursor : Cursor) : Nat → List Char → Cursor
  | 0, _ => cursor
  | _, [] => cursor
  | bytes + 1, c :: rest =>
      advanceBytes ⟨some c, rest, cursor.passed + 1⟩ (bytes + 1 - c.utf8Size) rest

/-- The first lexeme that begins at or after the given offset. -/
def Token.findAt? (text : String) (offset : Nat) : Option (TokenKind × Span) := do
  let cs := text.toList
  let place := (Cursor.start cs).advanceBytes offset cs
  let found ← find? place
  let begins := byteLength (cs.take place.passed) + byteLength found.gap
  return (found.kind, ⟨begins, begins + byteLength found.lexeme⟩)

inductive LexError where
  | invalidToken (text : String) (span : Span)
  | noTokens
  | unknownToken (text : String)
  | invalidNumber (text : String)
deriving DecidableEq

namespace LexError

def message : LexError → String
  | invalidToken text span =>
      s!"Invalid token detected in [{span.start}, {span.stop}]: '{text}'"
  | noTokens => "The query contains no identifiable tokens"
  | unknownToken text => s!"Unknown token: {text}"
  | invalidNumber text => s!"Invalid number literal: {text}"

end LexError

/-- A piece of a text, before it is known what it stands for. -/
structure Lexeme where
  text : List Char
  span : Span
  /-- The gap before the lexeme, when it holds more than white space. -/
  preamble : Option (List Char) := none

namespace Lexeme

/-- Judges a gap that begins at the given offset. -/
def gap (lenient : Bool) (offset : Nat) (cs : List Char) :
    Except LexError (Option (List Char)) :=
  if (Text.trimmed cs).isEmpty then .ok none
  else if lenient then .ok (some cs)
  else .error (.invalidToken (String.ofList cs) ⟨offset, offset + byteLength cs⟩)

/-- The lexemes from a place of a text on, whose offset is given. -/
def from? (lenient : Bool) (offset : Nat) (cursor : Cursor) : Except LexError (List Lexeme) :=
  match _ : Token.find? cursor with
  | none => do
      let _ ← gap lenient offset cursor.rest
      return []
  | some next => do
      let preamble ← gap lenient offset next.gap
      let start := offset + byteLength next.gap
      let stop := start + byteLength next.lexeme
      let lexemes ← from? lenient stop next.after
      return { text := next.lexeme, span := ⟨start, stop⟩, preamble } :: lexemes
termination_by cursor.rest.length
decreasing_by exact Token.length_find_lt ‹_›

def split? (lenient : Bool) (text : String) : Except LexError (List Lexeme) := do
  match ← from? lenient 0 (Cursor.start text.toList) with
  | [] => throw .noTokens
  | lexemes => return lexemes

end Lexeme

end PathQuery
