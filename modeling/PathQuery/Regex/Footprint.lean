import PathQuery.Regex.Shape

/-!
The memory that an automaton for a regular expression takes. The automaton works on bytes and is
counted state by state, once for reading forward, where groups leave marks, and once for reading
backward. States for the same last bytes of characters are shared as far as a small cache remembers
them, so a count depends on the states counted before.
-/

namespace PathQuery.Regex

/-- The states that were counted, and the bytes that they take beyond their own size. -/
structure Footprint where
  states : Nat := 0
  extra : Nat := 0

namespace Footprint

def bytes (footprint : Footprint) : Nat :=
  32 * footprint.states + footprint.extra

def limit : Nat := 10485760

def exceeds (footprint : Footprint) : Bool :=
  limit < footprint.bytes

/-- Counts a number of states. -/
def add (footprint : Footprint) (states : Nat) : Footprint :=
  { footprint with states := footprint.states + states }

/-- Counts bytes for the transitions of a state. -/
def grow (footprint : Footprint) (bytes : Nat) : Footprint :=
  { footprint with extra := footprint.extra + bytes }

/-- Counts transitions from a branching state, with four bytes each. -/
def branch (footprint : Footprint) (transitions : Nat) : Footprint :=
  footprint.grow (4 * transitions)

/-- Counts a state that chooses among ranges of bytes. -/
def choose (footprint : Footprint) (ranges : Nat) : Footprint :=
  (footprint.add 1).grow (8 * ranges)

end Footprint

/-- A transition on a range of bytes to a state. -/
structure Transition where
  range : ByteRange
  target : Nat
deriving DecidableEq

/-- A cache that finds again what was put in, unless something else took its slot. -/
structure SlotCache (α : Type) where
  slots : Array (Option (α × Nat))

namespace SlotCache

variable {α : Type}

def ofSize (size : Nat) : SlotCache α :=
  ⟨Array.replicate size none⟩

/-- Mixes a number into a hash value. -/
def mix (hash : UInt64) (n : Nat) : UInt64 :=
  (hash ^^^ n.toUInt64) * 1099511628211

/-- The slot of the numbers that a key consists of. -/
def slot (cache : SlotCache α) (numbers : List Nat) : Nat :=
  (numbers.foldl mix 14695981039346656037).toNat % cache.slots.size

def find? [DecidableEq α] (cache : SlotCache α) (slot : Nat) (key : α) : Option Nat :=
  match cache.slots[slot]? with
  | some (some (found, value)) => if found = key then some value else none
  | _ => none

def insert (cache : SlotCache α) (slot : Nat) (key : α) (value : Nat) : SlotCache α :=
  ⟨cache.slots.setIfInBounds slot (some (key, value))⟩

end SlotCache

/-- Characters read backward: a state for each byte range, shared where the bytes before lead to the
same state. -/
structure BackwardSet where
  footprint : Footprint
  cache : SlotCache (Nat × ByteRange)

namespace BackwardSet

/-- Counts a state that reads a byte and leads to `target`, and tells its number. -/
def read (sets : BackwardSet) (target : Nat) (range : ByteRange) : BackwardSet × Nat :=
  let slot := sets.cache.slot [target, range.low, range.high]
  match sets.cache.find? slot (target, range) with
  | some state => (sets, state)
  | none =>
      let state := sets.footprint.states
      (⟨sets.footprint.add 1, sets.cache.insert slot (target, range) state⟩, state)

/-- Counts the states of a sequence of byte ranges, from a branch to the end of the set. -/
def add (target : Nat) (sets : BackwardSet) (sequence : List ByteRange) : BackwardSet :=
  let (sets, _) := sequence.foldl (fun (sets, target) range => sets.read target range) (sets, target)
  { sets with footprint := sets.footprint.branch 1 }

end BackwardSet

/-- A state for characters that is not complete: its transitions, and the bytes of the one whose
target is not known yet. -/
structure OpenState where
  transitions : List Transition := []
  last : Option ByteRange := none

/-- Completes the last transition. -/
def OpenState.close (state : OpenState) (target : Nat) : OpenState :=
  match state.last with
  | some range => { transitions := state.transitions ++ [⟨range, target⟩] }
  | none => state

/-- Characters read forward: the states on the way of the latest sequence are open, the first of them
first; complete states are shared. -/
structure ForwardSet where
  footprint : Footprint
  cache : SlotCache (List Transition)
  path : List OpenState := [{}]

namespace ForwardSet

/-- Counts a state with the given transitions, and tells its number. -/
def state (sets : ForwardSet) (transitions : List Transition) : ForwardSet × Nat :=
  let slot := sets.cache.slot (transitions.flatMap fun transition =>
    [transition.range.low, transition.range.high, transition.target])
  match sets.cache.find? slot transitions with
  | some state => (sets, state)
  | none =>
      let state := sets.footprint.states
      let footprint := sets.footprint.choose transitions.length
      ({ sets with footprint, cache := sets.cache.insert slot transitions state }, state)

/-- Completes states, the last of them first, and tells where the first of them leads from. -/
def complete (target : Nat) (sets : ForwardSet) (states : List OpenState) : ForwardSet × Nat :=
  states.foldr (fun state (sets, target) => sets.state (state.close target).transitions)
    (sets, target)

/-- Keeps so many open states and the first after them, whose last transition is completed together
with all states after it. -/
def keep (target count : Nat) (sets : ForwardSet) : ForwardSet :=
  let (sets, target) := sets.complete target (sets.path.drop (count + 1))
  let kept := match sets.path.drop count with
    | state :: _ => [state.close target]
    | [] => []
  { sets with path := sets.path.take count ++ kept }

/-- The number of ranges at the start of a sequence that the open states have already. -/
def shared : List OpenState → List ByteRange → Nat
  | state :: states, range :: ranges =>
      if state.last = some range then shared states ranges + 1 else 0
  | _, _ => 0

/-- Counts the states of the sequences before, and opens those of another one. -/
def add (target : Nat) (sets : ForwardSet) (sequence : List ByteRange) : ForwardSet :=
  let count := shared sets.path sequence
  let sets := sets.keep target count
  match sequence.drop count, sets.path.drop count with
  | range :: ranges, state :: _ =>
      { sets with
        path := sets.path.take count ++ { state with last := some range } ::
          ranges.map fun range => { last := some range } }
  | _, _ => sets

end ForwardSet

/-- Literals that begin alike share states. A state lists its transitions in groups, a literal that
ends there being between two groups; the last group is the one that grows. -/
inductive Trie where
  | node (groups : List (List (Nat × Trie))) (growing : List (Nat × Trie))

namespace Trie

def empty : Trie :=
  node [] []

/-- Puts a byte where the order wants it. -/
def place (byte : Nat) (next : Trie) : List (Nat × Trie) → List (Nat × Trie)
  | [] => [(byte, next)]
  | entry :: entries =>
      if byte < entry.1 then (byte, next) :: entry :: entries
      else if byte = entry.1 then (byte, next) :: entries
      else entry :: place byte next entries

def insert : List Nat → Trie → Trie
  | [], node groups growing =>
      if growing.isEmpty && !groups.isEmpty && groups.all List.isEmpty then node groups growing
      else node (groups ++ [growing]) []
  | byte :: bytes, node groups growing =>
      let next := match growing.find? fun entry => entry.1 == byte with
        | some entry => entry.2
        | none => empty
      node groups (place byte (insert bytes next) growing)

mutual

/-- Counts the states of the literals. A state without transitions is the end, which is counted
once. -/
def count : Trie → Footprint → Footprint
  | node groups growing, footprint =>
      let footprint := countGroups groups footprint
      let footprint := countEntries growing footprint
      let all := groups ++ [growing]
      if all.all List.isEmpty then footprint
      else
        let filled := (all.filter fun entries => !entries.isEmpty).map List.length
        let footprint := filled.foldl
          (fun footprint entries =>
            if entries = 1 then footprint.add 1 else footprint.choose entries)
          footprint
        (footprint.add 1).branch (filled.length + groups.length)

def countGroups : List (List (Nat × Trie)) → Footprint → Footprint
  | [], footprint => footprint
  | entries :: groups, footprint => countGroups groups (countEntries entries footprint)

def countEntries : List (Nat × Trie) → Footprint → Footprint
  | [], footprint => footprint
  | (_, next) :: entries, footprint => countEntries entries (next.count footprint)

end

end Trie

namespace Shape

/-- What was counted, and whether the last state is a branching one, which a transition that is
added to it makes larger. -/
structure Counted where
  footprint : Footprint
  branches : Bool := false

namespace Counted

/-- Leads on from the last state. -/
def onward (counted : Counted) : Footprint :=
  if counted.branches then counted.footprint.branch 1 else counted.footprint

end Counted

/-- A piece of an automaton, as what it adds to a count. -/
abbrev Piece := Footprint → Counted

/-- A piece several times in a row after another one. The count ends where the limit is passed. -/
def copies (piece : Piece) : Nat → Counted → Counted
  | 0, counted => counted
  | count + 1, counted =>
      if counted.footprint.exceeds then counted else copies piece count (piece counted.onward)

def exactly (piece : Piece) : Nat → Piece
  | 0, footprint => ⟨footprint.add 1, false⟩
  | count + 1, footprint => copies piece count (piece footprint)

/-- Pieces that may each be left out with all after them. -/
def optionally (piece : Piece) : Nat → Counted → Counted
  | 0, counted => counted
  | count + 1, counted =>
      if counted.footprint.exceeds then counted
      else optionally piece count (piece ((counted.onward.add 1).branch 2))

/-- A piece repeated. The way back leads through a branching state, and through two of them when the
piece may be empty. -/
def repeating (piece : Piece) (mayBeEmpty : Bool) (least : Nat) (most : Option Nat) : Piece :=
  fun footprint =>
    match least, most with
    | 0, some 1 =>
        let counted := piece (footprint.add 1)
        ⟨(counted.onward.add 1).branch 2, false⟩
    | 0, none =>
        if mayBeEmpty then
          let counted := piece footprint
          ⟨(counted.onward.add 3).branch 4, false⟩
        else
          let counted := piece (footprint.add 1)
          ⟨counted.onward.branch 1, true⟩
    | 1, none =>
        let counted := piece footprint
        ⟨(counted.onward.add 1).branch 1, true⟩
    | least, none =>
        let counted := piece (exactly piece (least - 1) footprint).onward
        ⟨(counted.onward.add 1).branch 1, true⟩
    | least, some most =>
        let counted := exactly piece least footprint
        if least = most then counted
        else
          let counted := optionally piece (most - least)
            { counted with footprint := counted.footprint.add 1 }
          ⟨counted.onward, false⟩

/-- A set of characters. -/
def setPiece (backward : Bool) (chars : CharSet) (sequences : List (List ByteRange)) : Piece :=
  fun footprint =>
    if chars.isAscii then ⟨(footprint.add 1).choose sequences.length, false⟩
    else if backward then
      let target := footprint.states + 1
      let sets := sequences.foldl (BackwardSet.add target)
        { footprint := footprint.add 2, cache := SlotCache.ofSize 1000 }
      ⟨sets.footprint, false⟩
    else
      let target := footprint.states
      let sets := sequences.foldl (ForwardSet.add target)
        { footprint := footprint.add 1, cache := SlotCache.ofSize 10000 }
      let (sets, _) := (sets.keep target 0).complete target ((sets.keep target 0).path)
      ⟨sets.footprint, false⟩

def bytesOf (text : List Char) : List Nat :=
  text.flatMap fun c => ByteRange.bytesOf c.toNat

/-- The literals of a choice that has nothing else. -/
def literals? (options : List Shape) : Option (List (List Nat)) :=
  options.mapM fun
    | literal text => some (bytesOf text)
    | _ => none

mutual

def count (backward : Bool) : Shape → Piece
  | empty, footprint => ⟨footprint.add 1, false⟩
  | literal text, footprint => ⟨footprint.add (bytesOf text).length, false⟩
  | set chars sequences, footprint => setPiece backward chars sequences footprint
  | look _, footprint => ⟨footprint.add 1, false⟩
  | group _ body, footprint =>
      if backward then body.count backward footprint
      else ⟨(body.count backward (footprint.add 1)).onward.add 1, false⟩
  | repeated body least most, footprint =>
      repeating (body.count backward) (body.leastLength.all (· == 0)) least most footprint
  | sequence parts, footprint =>
      if backward then countBackward backward parts footprint
      else countParts backward parts footprint
  | choice options, footprint =>
      match literals? options with
      | some literals =>
          let order (bytes : List Nat) : List Nat := if backward then bytes.reverse else bytes
          let trie := literals.foldl (fun trie bytes => trie.insert (order bytes)) Trie.empty
          ⟨trie.count (footprint.add 1), false⟩
      | none => ⟨countOptions backward options 0 footprint, false⟩

def countParts (backward : Bool) : List Shape → Piece
  | [], footprint => ⟨footprint, false⟩
  | [part], footprint => part.count backward footprint
  | part :: parts, footprint => countParts backward parts (part.count backward footprint).onward

/-- Counts parts from the last to the first. -/
def countBackward (backward : Bool) : List Shape → Piece
  | [], footprint => ⟨footprint, false⟩
  | [part], footprint => part.count backward footprint
  | part :: parts, footprint => part.count backward (countBackward backward parts footprint).onward

/-- Counts alternatives, with the branch and the end that they share after the first two. -/
def countOptions (backward : Bool) : List Shape → Nat → Footprint → Footprint
  | [], _, footprint => footprint
  | option :: options, before, footprint =>
      let counted := option.count backward footprint
      let footprint := counted.onward.branch 1
      countOptions backward options (before + 1)
        (if before = 1 then footprint.add 2 else footprint)

end

/-- What the automaton for a shape takes, with its start, its end and the marks of the whole match. -/
def footprint (shape : Shape) (backward : Bool) : Footprint :=
  if backward then (shape.count true (Footprint.add {} 1)).onward.add 1
  else (shape.count false (Footprint.add {} 2)).onward.add 2

end Shape

/-- Whether automata for the expression take more memory than they may. -/
def tooLarge (regex : Regex) : Bool :=
  let shape := Shape.ofRegex regex
  (shape.footprint false).exceeds || (shape.footprint true).exceeds

end PathQuery.Regex
