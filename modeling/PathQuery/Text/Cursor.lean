/-!
Places in a text.
-/

namespace PathQuery

/-- A place in a text: the character before it, the characters after it, and how many characters
were passed to come here. -/
structure Cursor where
  before : Option Char
  rest : List Char
  passed : Nat

namespace Cursor

def start (cs : List Char) : Cursor :=
  ⟨none, cs, 0⟩

def after (cursor : Cursor) : Option Char :=
  cursor.rest.head?

/-- The place behind the next character, if the character is accepted. -/
def pass? (accepts : Char → Bool) (cursor : Cursor) : Option Cursor :=
  match cursor.rest with
  | [] => none
  | c :: rest => if accepts c then some ⟨some c, rest, cursor.passed + 1⟩ else none

/-- Cursors of one text are at the same place when they passed the same number of characters. -/
def samePlace (left right : Cursor) : Bool :=
  left.passed == right.passed

end Cursor

end PathQuery
