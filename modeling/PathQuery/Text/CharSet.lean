/-!
Sets of characters. A set is the ascending list of the places at which membership changes, in the
order of code points without the gap that belongs to no characters. A complement only adds or drops
the first place, and one walk over the changes of two sets serves union, intersection and the two
differences.
-/

namespace PathQuery

/-- A set of characters: the ascending list of the numbers at which membership changes. Nothing
belongs to the set before the first of them. -/
structure CharSet where
  changes : List Nat
deriving DecidableEq

namespace CharSet

/-- How many characters there are. -/
def count : Nat := 0x10F800

/-- The number of characters with a smaller code point. -/
def number (point : Nat) : Nat :=
  if point < 0xD800 then point else if point < 0xE000 then 0xD800 else point - 0x800

/-- The code point of the character with a given number. -/
def pointOf (number : Nat) : Nat :=
  if number < 0xD800 then number else number + 0x800

def empty : CharSet :=
  ⟨[]⟩

def all : CharSet :=
  ⟨[0]⟩

/-- Whether a number belongs to a set, when it is known whether what comes before the given changes
does. -/
def inside (before : Bool) : List Nat → Nat → Bool
  | [], _ => before
  | change :: changes, n => if n < change then before else inside (!before) changes n

def contains (set : CharSet) (c : Char) : Bool :=
  inside false set.changes (number c.toNat)

def isEmpty (set : CharSet) : Bool :=
  set.changes.isEmpty

def complement (set : CharSet) : CharSet :=
  match set.changes with
  | 0 :: changes => ⟨changes⟩
  | changes => ⟨0 :: changes⟩

/-- The set of ascending ranges of code points, ends included. -/
def ofRanges (ranges : List (Nat × Nat)) : CharSet :=
  ⟨ranges.foldr add []⟩
where
  /-- Puts a range before the changes that follow it. -/
  add (range : Nat × Nat) (later : List Nat) : List Nat :=
    let first := number range.1
    let next := number (range.2 + 1)
    if first = next then later
    else if next = count then [first]
    else match later with
      | [] => [first, next]
      | change :: changes =>
          if change = next then first :: changes else first :: next :: change :: changes

def range (low high : Nat) : CharSet :=
  ofRanges [(low, high)]

def single (c : Char) : CharSet :=
  range c.toNat c.toNat

/-- The set of the characters with the given code points, in any order. -/
def ofPoints (points : List Nat) : CharSet :=
  ofRanges ((points.mergeSort (· ≤ ·)).eraseReps.map fun point => (point, point))

/-- A change where a combination of two sets has the values `before` and `after`. -/
def change (before after : Bool) (n : Nat) (changes : List Nat) : List Nat :=
  if before == after then changes else n :: changes

/-- The changes of a combination of two sets, from where it is known what belongs to either. -/
def merge (combine : Bool → Bool → Bool) (inLeft inRight : Bool) (left right : List Nat) :
    List Nat :=
  match left, right with
  | [], [] => []
  | l :: left, [] =>
      change (combine inLeft inRight) (combine (!inLeft) inRight) l
        (merge combine (!inLeft) inRight left [])
  | [], r :: right =>
      change (combine inLeft inRight) (combine inLeft (!inRight)) r
        (merge combine inLeft (!inRight) [] right)
  | l :: left, r :: right =>
      if l < r then
        change (combine inLeft inRight) (combine (!inLeft) inRight) l
          (merge combine (!inLeft) inRight left (r :: right))
      else if r < l then
        change (combine inLeft inRight) (combine inLeft (!inRight)) r
          (merge combine inLeft (!inRight) (l :: left) right)
      else
        change (combine inLeft inRight) (combine (!inLeft) (!inRight)) l
          (merge combine (!inLeft) (!inRight) left right)
termination_by left.length + right.length

/-- The set that a combination of membership in two sets describes, which must not hold of a
character outside both. -/
def combined (combine : Bool → Bool → Bool) (left right : CharSet) : CharSet :=
  ⟨merge combine false false left.changes right.changes⟩

def union : CharSet → CharSet → CharSet :=
  combined (· || ·)

def inter : CharSet → CharSet → CharSet :=
  combined (· && ·)

def difference : CharSet → CharSet → CharSet :=
  combined fun inLeft inRight => inLeft && !inRight

/-- The characters of exactly one of two sets. -/
def symmetricDifference : CharSet → CharSet → CharSet :=
  combined (· != ·)

def unionOf (sets : List CharSet) : CharSet :=
  sets.foldr union empty

/-- The ranges of the numbers of the characters, ends included. -/
def numberRanges (set : CharSet) : List (Nat × Nat) :=
  pairs set.changes
where
  pairs : List Nat → List (Nat × Nat)
    | [] => []
    | [first] => [(first, count - 1)]
    | first :: next :: changes => (first, next - 1) :: pairs changes

/-- The ascending ranges of the code points, ends included. -/
def ranges (set : CharSet) : List (Nat × Nat) :=
  set.numberRanges.map fun range => (pointOf range.1, pointOf range.2)

/-- The only character of the set, if it has exactly one. -/
def only? (set : CharSet) : Option Char :=
  match set.ranges with
  | [(low, high)] => if low = high then some (Char.ofNat low) else none
  | _ => none

def isAscii (set : CharSet) : Bool :=
  set.numberRanges.all fun range => range.2 < 0x80

/-- What was read of a table: the ranges, the latest first, and the parts of the one that is being
read. -/
structure TableReading where
  ranges : List (Nat × Nat) := []
  low : Option Nat := none
  high : Option Nat := none
  number : Option Nat := none

namespace TableReading

/-- Ends the entry that is being read. -/
def flush (reading : TableReading) : TableReading :=
  let ranges := match reading.low, reading.high, reading.number with
    | some low, some high, some stride =>
        (List.range ((high - low) / stride + 1)).foldl
          (fun ranges step => (low + step * stride, low + step * stride) :: ranges) reading.ranges
    | some low, none, some high => (low, high) :: reading.ranges
    | none, _, some point => (point, point) :: reading.ranges
    | _, _, none => reading.ranges
  { ranges }

def next (reading : TableReading) (c : Char) : TableReading :=
  if c == '-' then { reading with low := reading.number, number := none }
  else if c == '/' then { reading with high := reading.number, number := none }
  else if c.isDigit then
    { reading with number := some (reading.number.getD 0 * 16 + (c.toNat - '0'.toNat)) }
  else if c.isUpper then
    { reading with number := some (reading.number.getD 0 * 16 + (c.toNat - 'A'.toNat + 10)) }
  else reading.flush

end TableReading

/-- The set that a table lists: code points in hexadecimal and ranges such as `41-5A`, ascending.
An entry such as `100-136/2` stands for every second code point of a range. -/
def ofTable (table : String) : CharSet :=
  let reading := table.foldl TableReading.next {}
  ofRanges reading.flush.ranges.reverse

theorem inside_not (before : Bool) (changes : List Nat) (n : Nat) :
    inside (!before) changes n = !inside before changes n := by
  induction changes generalizing before with
  | nil => rfl
  | cons change changes ih =>
    simp only [inside]
    split
    · rfl
    · exact ih (!before)

theorem contains_complement (set : CharSet) (c : Char) :
    set.complement.contains c = !set.contains c := by
  obtain ⟨changes⟩ := set
  match changes with
  | [] => rfl
  | 0 :: changes => simp [complement, contains, inside, ← inside_not]
  | (first + 1) :: changes =>
    have same := inside_not false ((first + 1) :: changes) (number c.toNat)
    simpa [complement, contains, inside] using same

end CharSet

end PathQuery
