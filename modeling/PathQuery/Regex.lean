import PathQuery.Text.CharSet
import PathQuery.Text.Cursor
import PathQuery.Text.WordChar

/-!
Regular expressions. `Regex.reach` takes the places where a match may begin to the places where it
may end; `Regex.occursIn` asks whether any part of a text is matched. Sets of places are lists with
the farthest place first and no place twice, so that a repetition adds what it finds in front.
-/

namespace PathQuery

/-- What the characters around a place say about words. -/
inductive WordEdge where
  | boundary
  | inner
  | start
  | stop
  | startHalf
  | stopHalf
deriving DecidableEq

/-- Whether the condition holds of a place, given whether word characters stand before and after
it. -/
def WordEdge.holds : WordEdge → Bool → Bool → Bool
  | boundary, before, after => before != after
  | inner, before, after => before == after
  | start, before, after => !before && after
  | stop, before, after => before && !after
  | startHalf, before, _ => !before
  | stopHalf, _, after => !after

/-- A condition on the characters around a place. A line ends with a line feed, or, when carriage
returns count, with either of the two characters and with both in a row. -/
inductive Look where
  | textStart
  | textStop
  | lineStart (carriage : Bool)
  | lineStop (carriage : Bool)
  | word (edge : WordEdge) (ascii : Bool)
deriving DecidableEq

/-- Whether a condition holds between two characters; `none` stands for an end of the text. -/
def Look.holds : Look → Option Char → Option Char → Bool
  | textStart, before, _ => before.isNone
  | textStop, _, after => after.isNone
  | lineStart carriage, before, after =>
      before.isNone || before == some '\n' ||
        (carriage && before == some '\r' && after != some '\n')
  | lineStop carriage, before, after =>
      after.isNone ||
        (if carriage then after == some '\r' || (after == some '\n' && before != some '\r')
        else after == some '\n')
  | word edge ascii, before, after =>
      let isWord (c : Char) : Bool := if ascii then c.isAlphanum || c == '_' else Text.isWordChar c
      edge.holds (before.any isWord) (after.any isWord)

namespace Cursor

def union (left right : List Cursor) : List Cursor :=
  match left, right with
  | [], right => right
  | left, [] => left
  | l :: left, r :: right =>
      if r.passed < l.passed then l :: union left (r :: right)
      else if l.passed < r.passed then r :: union (l :: left) right
      else l :: union left right
termination_by left.length + right.length

def minus (left right : List Cursor) : List Cursor :=
  match left, right with
  | [], _ => []
  | left, [] => left
  | l :: left, r :: right =>
      if r.passed < l.passed then l :: minus left (r :: right)
      else if l.passed < r.passed then minus (l :: left) right
      else minus left right
termination_by left.length + right.length

/-- All places from a cursor on, the farthest first. -/
def places (cursor : Cursor) : List Cursor :=
  onward cursor.before cursor.passed [] cursor.rest
where
  /-- Puts the places before the ones that were found. -/
  onward (before : Option Char) (passed : Nat) (found : List Cursor) : List Char → List Cursor
    | [] => ⟨before, [], passed⟩ :: found
    | c :: rest => onward (some c) (passed + 1) (⟨before, c :: rest, passed⟩ :: found) rest

end Cursor

/-- A regular expression. Groups are kept, with a number when they capture, although only the text
as a whole is ever asked for. -/
inductive Regex where
  /-- The empty text. -/
  | empty
  /-- One character of a set. -/
  | set (chars : CharSet)
  /-- The empty text at a place of which a condition holds. -/
  | look (look : Look)
  | group (number : Option Nat) (body : Regex)
  /-- One expression and then another. -/
  | seq (first second : Regex)
  /-- Either of two expressions. -/
  | either (left right : Regex)
  /-- At least and at most so many repetitions. -/
  | repeated (body : Regex) (least : Nat) (most : Option Nat)

namespace Regex

/-- Takes a step a number of times. It may stop where nothing changes any more. -/
def again (step : List Cursor → List Cursor) : Nat → List Cursor → List Cursor
  | 0, places => places
  | count + 1, places =>
      let next := step places
      if next.map Cursor.passed == places.map Cursor.passed then places else again step count next

/-- Adds the places that at most so many further steps lead to. Only those that are new at a step
can lead to others. -/
def spread (step : List Cursor → List Cursor) : Nat → List Cursor → List Cursor → List Cursor
  | 0, found, _ => found
  | count + 1, found, latest =>
      match Cursor.minus (step latest) found with
      | [] => found
      | new => spread step count (Cursor.union found new) new

/-- The number of characters after the earliest of the places. -/
def room (places : List Cursor) : Nat :=
  match places.getLast? with
  | some cursor => cursor.rest.length
  | none => 0

/-- The places where matches end that begin at the given places. -/
def reach : Regex → List Cursor → List Cursor
  | empty, places => places
  | set chars, places => places.filterMap (Cursor.pass? chars.contains)
  | look condition, places =>
      places.filter fun cursor => condition.holds cursor.before cursor.after
  | group _ body, places => body.reach places
  | seq first second, places => second.reach (first.reach places)
  | either left right, places => Cursor.union (left.reach places) (right.reach places)
  | repeated body least most, places =>
      let begun := again body.reach least places
      let further := match most with
        | some most => most - least
        | none => room begun
      spread body.reach further begun begun

/-- A repetition. The repetitions `?`, `*` and `+` of one another are one of them again. -/
def loop (body : Regex) (least : Nat) (most : Option Nat) : Regex :=
  let simple (least : Nat) (most : Option Nat) : Bool := least ≤ 1 && most.all (· == 1)
  match body with
  | repeated inner innerLeast innerMost =>
      if simple least most && simple innerLeast innerMost then
        repeated inner (least * innerLeast) (most.bind fun _ => innerMost)
      else repeated body least most
  | _ => repeated body least most

/-- The expression without groups and without simple repetitions of one another. -/
def reduced : Regex → Regex
  | group _ body => body.reduced
  | seq first second => seq first.reduced second.reduced
  | either left right => either left.reduced right.reduced
  | repeated body least most => body.reduced.loop least most
  | regex => regex

/-- Whether the expression matches a part of a text, which may be empty. -/
def occursIn (regex : Regex) (cs : List Char) : Bool :=
  !(regex.reduced.reach (Cursor.start cs).places).isEmpty

def concat : List Regex → Regex
  | [] => empty
  | [regex] => regex
  | regex :: regexes => seq regex (concat regexes)

def oneOf : List Regex → Regex
  | [] => set CharSet.empty
  | [regex] => regex
  | regex :: regexes => either regex (oneOf regexes)

end Regex

end PathQuery
