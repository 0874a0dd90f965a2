import PathQuery.Text.CharSet

/-!
Sets of characters in UTF-8. `CharSet.byteSequences` divides a set into products of byte ranges: a
sequence of ranges stands for the characters whose bytes lie in one range each.
-/

namespace PathQuery

/-- The bytes from one to another, ends included. -/
structure ByteRange where
  low : Nat
  high : Nat
deriving DecidableEq

namespace ByteRange

/-- How many bytes the character of a code point has. -/
def byteCount (point : Nat) : Nat :=
  if point < 0x80 then 1 else if point < 0x800 then 2 else if point < 0x10000 then 3 else 4

def bytesOf (point : Nat) : List Nat :=
  let tail (shift : Nat) : Nat := 0x80 + point / shift % 0x40
  match byteCount point with
  | 1 => [point]
  | 2 => [0xC0 + point / 0x40, tail 1]
  | 3 => [0xE0 + point / 0x1000, tail 0x40, tail 1]
  | _ => [0xF0 + point / 0x40000, tail 0x1000, tail 0x40, tail 1]

/-- Divides a range so that the points of a part are those of a block of the given size, or so that
the part lies in a single block. Larger blocks come last, which the fuel counts. -/
def blocks : Nat → Nat → Nat → Nat → List (Nat × Nat)
  | 0, _, low, high => [(low, high)]
  | fuel + 1, size, low, high =>
      if low / size = high / size then [(low, high)]
      else
        let start := (low + size - 1) / size * size
        let front := if low < start then [(low, start - 1)] else []
        if start / size = high / size then
          front ++ [(start, high)]
        else
          let stop := (high + 1) / size * size
          let back := if stop ≤ high then [(stop, high)] else []
          front ++ blocks fuel (size * 0x40) start (stop - 1) ++ back

/-- The points at which the number of bytes grows or which belong to no character lie between these
ranges. -/
def spans : List (Nat × Nat) :=
  [(0, 0x7F), (0x80, 0x7FF), (0x800, 0xD7FF), (0xE000, 0xFFFF), (0x10000, 0x10FFFF)]

/-- The byte ranges of a part of a single block in each place. -/
def ofPoints (low high : Nat) : List ByteRange :=
  (bytesOf low).zipWith ByteRange.mk (bytesOf high)

end ByteRange

/-- The sequences of byte ranges of the characters of a set, in order. -/
def CharSet.byteSequences (set : CharSet) : List (List ByteRange) :=
  set.ranges.flatMap fun range =>
    ByteRange.spans.flatMap fun span =>
      let low := max range.1 span.1
      let high := min range.2 span.2
      if high < low then []
      else if high < 0x80 then [ByteRange.ofPoints low high]
      else (ByteRange.blocks 3 0x40 low high).map fun block => ByteRange.ofPoints block.1 block.2

end PathQuery
