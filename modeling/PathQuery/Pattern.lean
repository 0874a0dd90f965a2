import PathQuery.Text.Cursor
import PathQuery.Text.WordChar

/-!
Patterns over characters and the places where their matches end. `Pattern.ends` lists those places
with the preferred one first: an alternative is preferred to the ones after it, and one more
repetition to none. The first place is the match that a leftmost-first search reports, and the list
as a whole holds every place where some match ends.
-/

namespace PathQuery

/-- A pattern over characters. -/
inductive Pattern where
  /-- Matches nowhere. -/
  | fail
  /-- Matches the empty text. -/
  | empty
  /-- One character of a class. -/
  | char (accepts : Char → Bool)
  /-- The empty text, between two characters of which a condition holds. -/
  | look (holds : Option Char → Option Char → Bool)
  /-- One pattern and then another. -/
  | seq (first second : Pattern)
  | either (preferred other : Pattern)
  /-- Any number of repetitions, more preferred to fewer. -/
  | many (body : Pattern)

namespace Pattern

/-- The cursors without those whose place occurred before. -/
def distinct : List Cursor → List Cursor
  | [] => []
  | cursor :: cursors => cursor :: (distinct cursors).filter fun other => !other.samePlace cursor

/-- Adds the places that repetitions of `next` lead to, the latest found first. A place already
found leads nowhere new. -/
def collect (next : Cursor → List Cursor) : Nat → List Cursor → Cursor → List Cursor
  | 0, found, cursor => if found.any (·.samePlace cursor) then found else cursor :: found
  | depth + 1, found, cursor =>
      if found.any (·.samePlace cursor) then found
      else
        let onward := (next cursor).filter (cursor.passed < ·.passed)
        cursor :: onward.foldl (collect next depth) found

/-- The places where matches end that begin at the given places, the preferred ones first. A place
that several matches lead to is listed once. -/
def endsFrom : Pattern → List Cursor → List Cursor
  | fail, _ => []
  | empty, cursors => cursors
  | char accepts, cursors => cursors.filterMap (Cursor.pass? accepts)
  | look holds, cursors => cursors.filter fun cursor => holds cursor.before cursor.after
  | seq first second, cursors => second.endsFrom (first.endsFrom cursors)
  | either preferred other, cursors =>
      distinct (cursors.flatMap fun cursor =>
        preferred.endsFrom [cursor] ++ other.endsFrom [cursor])
  | many body, cursors =>
      let next := fun cursor => body.endsFrom [cursor]
      (cursors.foldl (fun found cursor => collect next cursor.rest.length found cursor) []).reverse

/-- The places where a match that begins at the cursor may end, the preferred first. -/
def ends (pattern : Pattern) (cursor : Cursor) : List Cursor :=
  pattern.endsFrom [cursor]

def matchesAll (pattern : Pattern) (cs : List Char) : Bool :=
  (pattern.ends (Cursor.start cs)).any (·.rest.isEmpty)

def concat : List Pattern → Pattern
  | [] => empty
  | [pattern] => pattern
  | pattern :: patterns => seq pattern (concat patterns)

/-- The first of the patterns that matches. -/
def oneOf : List Pattern → Pattern
  | [] => fail
  | [pattern] => pattern
  | pattern :: patterns => either pattern (oneOf patterns)

def exactly (c : Char) : Pattern :=
  char (· == c)

def text (cs : String) : Pattern :=
  concat (cs.toList.map exactly)

def optional (pattern : Pattern) : Pattern :=
  either pattern empty

def oneOrMore (pattern : Pattern) : Pattern :=
  seq pattern (many pattern)

def boundary : Pattern :=
  look Text.isBoundary

end Pattern

end PathQuery
