import PathQuery.Expression.Tiers

/-!
The analysis of parts: what expression a list of parts is.

A range of parts goes up to what closes it. It is read from left to right at first: scopes, calls,
list literals and paths with their indexes become single parts, and what stands between brackets is
a range of its own. Then its operators are taken tier by tier. A range is analyzed when all of it
has come to one expression; the rest of an unfinished one stays among the parts.
-/

namespace PathQuery.Analysis

open Tiers (Range)

/-- The first reading of a range: the parts before the range, the nearest first, and the parts of
the range read so far, the last of them first. -/
structure Reading where
  before : List Part
  seen : List Part
  /-- Whether nothing was read yet. -/
  fresh : Bool
  /-- What the last call, list, path or scope came to. -/
  last : Option Expression

namespace Reading

def size (reading : Reading) : Nat :=
  reading.before.length + reading.seen.length

def keep (reading : Reading) (part : Part) : Reading :=
  { reading with seen := part :: reading.seen, fresh := false }

/-- Reads what other parts have become. When nothing of the range is left before it, it is the
first part of the range only if the range begins with it and `bounded` holds: otherwise it counts
as a part before the range. -/
def put (reading : Reading) (part : Part) (bounded : Bool) : Reading :=
  if reading.seen.isEmpty && !(reading.fresh && bounded) then
    { reading with before := part :: reading.before, fresh := false }
  else reading.keep part

/-- The reading when the next part does not take the place of what the range begins with. -/
def displaced (reading : Reading) : Reading :=
  { reading with fresh := false }

/-- The call that a path after it starts from, which is taken out of the reading. -/
def takeCall (reading : Reading) : List Segment × Reading :=
  match reading.last, reading.seen, reading.before with
  | some (.call ..), .expression _ call :: seen, _ =>
      ([.expression call], { reading with seen })
  | some (.call ..), [], .expression _ call :: before =>
      ([.expression call], { reading with before })
  | _, _, _ => ([], reading)

theorem size_keep (reading : Reading) (part : Part) :
    (reading.keep part).size = reading.size + 1 := by
  simp [keep, size]
  omega

theorem size_put (reading : Reading) (part : Part) (bounded : Bool) :
    (reading.put part bounded).size = reading.size + 1 := by
  unfold put
  split
  · simp [size]
    omega
  · exact size_keep reading part

theorem size_takeCall_le (reading : Reading) : reading.takeCall.2.size ≤ reading.size := by
  unfold takeCall
  split <;> simp_all [size]

end Reading

def splitSlashes : List Char → List (List Char)
  | [] => [[]]
  | c :: cs =>
      if c == '/' then [] :: splitSlashes cs
      else
        match splitSlashes cs with
        | piece :: pieces => (c :: piece) :: pieces
        | [] => [[c]]

/-- The names of a path. A leading slash stays with the first of them. -/
def pathNames (text : String) : List Segment :=
  let pieces := match text.toList with
    | '/' :: rest =>
        match splitSlashes rest with
        | piece :: pieces => ('/' :: piece) :: pieces
        | [] => []
    | cs => splitSlashes cs
  pieces.map fun piece => .name (String.ofList piece)

def literals? : List Expression → Option (List Value)
  | [] => some []
  | .literal value :: expressions => (literals? expressions).map (value :: ·)
  | _ :: _ => none

def listMethod : String := "list"

/-- A list: a literal if its elements are literals, and a call otherwise. -/
def listOf (elements : List Expression) : Expression :=
  match literals? elements with
  | some values => .literal (.array values)
  | none => .call (.name listMethod) elements

def targetOf : Part → Target
  | .expression _ expression => .expression expression
  | part => .name part.render

def opensScope (parts : List Part) : Bool :=
  parts.head?.any (·.kind == .scopeStart)

mutual

/-- Analyzes the range at the start of `parts` between brackets. The answer is what it came to, and
the parts left, among which those of the range come first. -/
def inner (parts : List Part) :
    Except ParseError { answer : Option Expression × List Part //
      answer.2.length ≤ parts.length } := do
  let ⟨(reading, rest), size⟩ ← read ⟨[], [], true, none⟩ parts
  match resolving : Tiers.resolve ⟨reading.before, reading.seen.reverse, reading.last⟩ with
  | .error error => throw error
  | .ok range =>
      return ⟨(range.value, range.before.reverse ++ range.parts ++ rest), by
        have bound := Tiers.size_resolve_le resolving
        simp only [Range.size, Reading.size, List.length_reverse, List.length_nil,
          List.length_append] at bound size ⊢
        omega⟩
termination_by 4 * parts.length + 2

/-- Reads a range from left to right, up to what closes it. -/
def read (reading : Reading) : (parts : List Part) →
    Except ParseError { answer : Reading × List Part //
      answer.1.size + answer.2.length ≤ reading.size + parts.length ∧
        answer.2.length ≤ parts.length }
  | [] => return ⟨(reading, []), by simp⟩
  | part :: rest => do
      if part.kind.closesRange then return ⟨(reading, part :: rest), by simp⟩
      else if part.kind == .scopeStart then
        let ⟨(child, left), (shorter : left.length ≤ rest.length)⟩ ← inner rest
        let next := { reading.put (.ofAnalysis child) true with last := child }
        let ⟨answer, bounds⟩ ← read next (left.drop (1 + child.toList.length))
        return ⟨answer, by
          have grown : next.size = reading.size + 1 := reading.size_put (.ofAnalysis child) true
          simp only [List.length_drop, List.length_cons] at *
          omega⟩
      else if part.kind == .method then
        let ⟨(call, chained, left), shorter⟩ ← calls (targetOf part) rest
        have shorter : left.length + 2 ≤ rest.length := shorter
        let start := if chained then reading.displaced else reading
        let next := { start.put (Tiers.folded call) (!left.isEmpty) with last := some call }
        let ⟨answer, bounds⟩ ← read next left
        return ⟨answer, by
          have grown : next.size = reading.size + 1 := by
            have same : start.size = reading.size := by
              simp only [start, Reading.displaced]
              split <;> rfl
            exact (start.size_put (Tiers.folded call) (!left.isEmpty)).trans (by rw [same])
          simp only [List.length_cons] at *
          omega⟩
      else if part.kind == .indexStart then
        let ⟨(elements, left), shorter⟩ ←
          listed .indexStop .emptyElement (.unclosedIndexes 1) (part :: rest)
        have shorter : left.length + 2 ≤ rest.length + 1 := shorter
        let list := listOf elements
        let next := { reading.put (Tiers.folded list) (!left.isEmpty) with last := some list }
        let ⟨answer, bounds⟩ ← read next left
        return ⟨answer, by
          have grown : next.size = reading.size + 1 :=
            reading.size_put (Tiers.folded list) (!left.isEmpty)
          simp only [List.length_cons] at *
          omega⟩
      else if part.kind == .path then
        let ⟨(segments, left), shorter⟩ ←
          path (reading.takeCall.1 ++ pathNames part.render) rest
        have shorter : left.length ≤ rest.length := shorter
        let remaining := reading.takeCall.2
        have fewer : remaining.size ≤ reading.size := reading.size_takeCall_le
        if opensScope left then
          let ⟨(call, _, after), still⟩ ← calls (.expression (.path segments)) left
          have still : after.length + 2 ≤ left.length := still
          let next := { remaining.displaced.put (Tiers.folded call) (!after.isEmpty) with
            last := some call }
          let ⟨answer, bounds⟩ ← read next after
          return ⟨answer, by
            have grown : next.size = remaining.size + 1 :=
              remaining.displaced.size_put (Tiers.folded call) (!after.isEmpty)
            simp only [List.length_cons] at *
            omega⟩
        else
          let next := { remaining.put (Tiers.folded (.path segments)) (!left.isEmpty) with
            last := some (.path segments) }
          let ⟨answer, bounds⟩ ← read next left
          return ⟨answer, by
            have grown : next.size = remaining.size + 1 :=
              remaining.size_put (Tiers.folded (.path segments)) (!left.isEmpty)
            simp only [List.length_cons] at *
            omega⟩
      else
        let ⟨answer, bounds⟩ ← read (reading.keep part) rest
        return ⟨answer, by
          have grown := reading.size_keep part
          simp only [List.length_cons] at *
          omega⟩
termination_by parts => 4 * parts.length + 1

/-- Reads expressions between an opening bracket, which comes first, and its `closer`. -/
def listed (closer : TokenKind) (emptyError missingError : ParseError) : (parts : List Part) →
    Except ParseError { answer : List Expression × List Part //
      answer.2.length + 2 ≤ parts.length }
  | [] => throw missingError
  | [_] => throw emptyError
  | _ :: next :: rest => do
      if next.kind == closer then return ⟨([], rest), by simp⟩
      else
        let ⟨answer, shorter⟩ ← items closer emptyError missingError (next :: rest)
        return ⟨answer, by simp only [List.length_cons] at *; omega⟩
termination_by parts => 4 * parts.length

/-- Reads expressions with separators between them, up to the `closer`. -/
def items (closer : TokenKind) (emptyError missingError : ParseError) (parts : List Part) :
    Except ParseError { answer : List Expression × List Part //
      answer.2.length + 2 ≤ parts.length } := do
  let ⟨(value, left), shorter⟩ ← inner parts
  match value with
  | none => throw emptyError
  | some value =>
      match split : left with
      | _ :: token :: rest =>
          have shorter : rest.length + 2 ≤ parts.length := by
            simp only [split, List.length_cons] at shorter; omega
          if token.kind == closer then
            return ⟨([value], rest), by simp only [split, List.length_cons] at *; omega⟩
          else if token.kind == .separator then
            let ⟨(values, left), still⟩ ← items closer emptyError missingError rest
            return ⟨(value :: values, left), by simp only [split, List.length_cons] at *; omega⟩
          else throw (.danglingToken token.render)
      | _ => throw missingError
termination_by 4 * parts.length + 3

/-- Reads the arguments of a call, and those of the calls of what it answers. The answer also tells
whether there was more than one call. -/
def calls (target : Target) (parts : List Part) :
    Except ParseError { answer : Expression × Bool × List Part //
      answer.2.2.length + 2 ≤ parts.length } := do
  let name := target.text
  let ⟨(arguments, left), shorter⟩ ←
    listed .scopeStop (.emptyArgument name) (.missingMethodEnd name) parts
  have shorter : left.length + 2 ≤ parts.length := shorter
  let call := Expression.call target arguments
  if opensScope left then
    let ⟨(last, _, left), still⟩ ← calls (.expression call) left
    return ⟨(last, true, left), by simp only at *; omega⟩
  else return ⟨(call, false, left), shorter⟩
termination_by 4 * parts.length + 1

/-- Reads further names, indexes and filters of a path with the given segments. -/
def path (segments : List Segment) : (parts : List Part) →
    Except ParseError { answer : List Segment × List Part //
      answer.2.length ≤ parts.length }
  | [] => return ⟨(segments, []), by simp⟩
  | part :: rest => do
      if part.kind == .path then
        let ⟨answer, shorter⟩ ← path (segments ++ pathNames part.render) rest
        return ⟨answer, by simp only [List.length_cons]; omega⟩
      else if part.kind == .indexStart then
        let ⟨(value, left), shorter⟩ ← inner rest
        match value with
        | none => throw (.emptyIndex (Segment.pathText true segments))
        | some index =>
            match split : left with
            | _ :: closer :: after =>
                have shorter : after.length + 2 ≤ rest.length := by
                  simp only [split, List.length_cons] at shorter; omega
                if closer.kind == .indexStop then
                  let ⟨answer, still⟩ ← path (segments ++ [.expression index]) after
                  return ⟨answer, by simp only [split, List.length_cons] at *; omega⟩
                else throw (.danglingToken closer.render)
            | _ => throw (.missingIndexEnd (Segment.pathText true segments))
      else return ⟨(segments, part :: rest), by simp⟩
termination_by parts => 4 * parts.length + 1

end

/-- Analyzes expressions with separators between them, after the given parts, of which the nearest
comes first. The answer is what they came to and the parts that are left of everything. -/
def separated (before : List Part) (parts : List Part) :
    Except ParseError (List Expression × List Part) := do
  let ⟨(reading, rest), bounds⟩ ← read ⟨before, [], true, none⟩ parts
  let range ← Tiers.resolve ⟨reading.before, reading.seen.reverse, reading.last⟩
  match range.value with
  | none => throw .emptyExpression
  | some value =>
      let passed := (rest.takeWhile (·.kind != .separator)).reverse ++ range.parts.reverse ++
        range.before
      match split : rest.dropWhile (·.kind != .separator) with
      | [] => return ([value], passed.reverse)
      | _ :: next =>
          have fewer : next.length < parts.length := by
            have kept := (List.dropWhile_sublist (·.kind != .separator) (l := rest)).length_le
            have bound : rest.length ≤ parts.length := bounds.2
            simp only [split, List.length_cons] at kept
            omega
          let (values, left) ← separated passed next
          return (value :: values, left)
termination_by parts.length

def analyze (parts : List Part) : Except ParseError Expression := do
  let (values, left) ← separated [] parts
  match left.drop values.length, values with
  | extra :: _, _ => throw (.danglingToken extra.render)
  | [], [value] => return value
  | [], values => return listOf values

end PathQuery.Analysis
