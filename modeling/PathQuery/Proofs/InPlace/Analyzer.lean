import PathQuery.Expression.Analysis
import PathQuery.Proofs.TokenList.Cursors

/-!
The analysis as it edits a token list in place. Expressions lie at addresses, so that two of them
can be the same one; a run ends in a fault when it edits at a node that is not in the list, or when
the pass of a tier meets an operator of a tighter one or leaves one of its own behind.

A run that never ends comes to `none`.
-/

namespace PathQuery

def Part.literal? : Part → Option Value
  | literal _ value => some value
  | _ => none

namespace InPlace

/-- A node of the list, by its number. -/
abbrev Node := Nat

/-- Where a run has come to in the list: at a node, or at the end. -/
abbrev Place := Option Node

abbrev Node.place (node : Node) : Place :=
  some node

/-- An expression at its address. -/
structure Shared where
  expression : Expression
  address : Nat

def Shared.same : Option Shared → Option Shared → Bool
  | some first, some second => first.address == second.address
  | _, _ => false

/-- A part of the list, and the address of the expression that it holds if it holds one. -/
structure Cell where
  part : Part
  address : Nat := 0

namespace Cell

def shared? (cell : Cell) : Option Shared :=
  cell.part.expression?.map (⟨·, cell.address⟩)

def holding (kind : TokenKind) : Option Shared → Cell
  | some shared => ⟨.expression kind shared.expression, shared.address⟩
  | none => ⟨.empty kind, 0⟩

end Cell

structure Memory where
  list : TokenList Cell
  /-- How many expressions were made. -/
  made : Nat := 0

inductive Fault where
  | parse (error : ParseError)
  /-- An edit at a node that is not in the list. -/
  | dead
  /-- An operator of a tighter tier than the one of the pass. -/
  | precedence (operator : String) (found tier : Nat)
  /-- An operator that the passes up to that of a tier have left in their range. -/
  | leftover (operator : String) (tier : Nat)

abbrev Run := StateT Memory (ExceptT Fault Option)

def ofParse {α : Type} : Except ParseError α → Run α
  | .ok value => return value
  | .error error => throw (.parse error)

def cell (id : Node) : Run Cell := do
  match (← get).list.part? id with
  | some cell => return cell
  | none => throw .dead

def next (id : Node) : Run Place :=
  return (← get).list.next? id

def prev (id : Node) : Run Place :=
  return (← get).list.prev? id

/-- Where a node has led to since it was removed, if it was removed. -/
def removedTo (id : Node) : Run (Option Place) :=
  return (← get).list.removedTo? id

instance (list : TokenList Cell) (edit : Edit Cell) : Decidable (list.Admits edit) :=
  match edit with
  | .insertBefore .. | .insertAfter .. | .remove .. | .removeInReverse .. =>
      inferInstanceAs (Decidable (_ ∧ _))
  | .pushBack _ => inferInstanceAs (Decidable True)

/-- Edits the list, and answers the new node, or the neighbour of the removed one. -/
def edit (edit : Edit Cell) : Run Place := do
  let memory ← get
  if memory.list.Admits edit then
    let (answer, list) := memory.list.edit edit
    set { memory with list }
    return answer
  else throw .dead

def removeAt : Place → Run Place
  | none => return none
  | some id => edit (.remove id)

/-- Puts an expression at a new address. -/
def share (expression : Expression) : Run Shared :=
  modifyGet fun memory => (⟨expression, memory.made⟩, { memory with made := memory.made + 1 })

def cellAt : Place → Run (Option Cell)
  | none => return none
  | some id => return some (← cell id)

/-- Follows the places that removed nodes lead to. -/
def Node.normalize (id : Node) : Run Place := do
  match ← removedTo id with
  | none => return some id
  | some none => return none
  | some (some next) => next |>.normalize
partial_fixpoint

/-- The last node along the links from a node on. -/
def Node.lastFrom (id : Node) : Run Place := do
  match ← next id with
  | none => return some id
  | some following => following |>.lastFrom
partial_fixpoint

def Place.firstSeparator : Place → Run Place
  | none => return none
  | some id => do
      if (← cell id).part.kind == .separator then return some id
      else (← next id) |>.firstSeparator
partial_fixpoint

section Passes

def checkTier (tier : Nat) (part : Part) : Run (Option Nat) :=
  match part.kind.precedence? with
  | some found =>
      if tier < found then throw (.precedence part.render found tier) else return some found
  | none => return none

/-- Takes the operands of an operator out of the list. -/
def fold (token : Node) : Run Shared := do
  let here ← cell token
  let operator : Operator := ⟨here.part.kind, here.part.render⟩
  let before ← prev token
  let left ← ofParse (Tiers.leftOperand? operator ((← cellAt before).map (·.part)))
  let after ← next token
  let right ← ofParse (Tiers.rightOperand? operator ((← cellAt after).map (·.part)))
  let _ ← removeAt (left.bind fun _ => before)
  let _ ← removeAt (right.bind fun _ => after)
  share (.operation left operator right)

/-- Visits a part that is no operator, after a neighbour and what that came to. -/
def visit (here : Cell) (last : Option Shared) (neighbour : Place) : Run (Option Shared) := do
  match here.part with
  | .expression .expression expression =>
      if Shared.same last ((← cellAt neighbour).bind Cell.shared?) then
        throw (.parse (.danglingToken here.part.render))
      else return some ⟨expression, here.address⟩
  | .empty .expression => return none
  | part =>
      if !part.kind.isLiteral then throw (.parse (.unresolvedToken part.kind part.render))
      else
        match last with
        | some ⟨.operation left operator right, _⟩ =>
            throw (.parse (.unexpectedOperand
              (Expression.operation left operator right).text part.render))
        | _ => return some (← share (.literal (part.literal?.getD .null)))

def Place.forward (tier : Nat) (stop : Option Node) (last : Option Shared) :
    Place → Run (Option Shared)
  | none => return last
  | some token => do
      let here ← cell token
      if here.part.kind.closesRange || some token == stop then return last
      else
        match ← checkTier tier here.part with
        | none =>
            let value ← visit here last (← prev token)
            (← next token) |>.forward tier stop value
        | some found =>
            if found < tier then (← next token) |>.forward tier stop none
            else
              let operation ← fold token
              let _ ← edit (.insertBefore token (.holding .expression (some operation)))
              (← edit (.remove token)) |>.forward tier stop (some operation)
partial_fixpoint

/-- Whether a node stands right before the start of a range. -/
def precedes (token : Node) : (start : Place) → Run Bool
  | none => return false
  | some start => return (← prev start) == some token

def Place.backward (tier : Nat) (start : Option Node) (last : Option Shared) :
    Place → Run (Option Shared)
  | none => return last
  | some token => do
      let here ← cell token
      if here.part.kind.opensRange then return last
      else if ← precedes token start then return last
      else
        match ← checkTier tier here.part with
        | none =>
            let value ← visit here last (← next token)
            (← prev token) |>.backward tier start value
        | some found =>
            if found < tier then (← prev token) |>.backward tier start none
            else
              let operation ← fold token
              let _ ← edit (.insertAfter token (.holding .expression (some operation)))
              (← edit (.removeInReverse token)) |>.backward tier start (some operation)
partial_fixpoint

/-- Where the pass from right to left begins. -/
def lastOf : (start stop : Place) → Run Place
  | _, some stop => prev stop
  | some start, none => start.lastFrom
  | none, none => return none

/-- Looks for operators that the passes up to that of a tier should have folded. -/
def Place.ensureFolded (tier : Nat) (stop : Option Node) : Place → Run Unit
  | none => return ()
  | some token => do
      if some token == stop then return ()
      else
        let here ← cell token
        if here.part.kind.precedence?.any (tier ≤ ·) then throw (.leftover here.part.render tier)
        else (← next token) |>.ensureFolded tier stop
partial_fixpoint

def pass (tier : Nat) (start stop : Place) : Run (Option Shared) :=
  match associativity tier with
  | .left => start.forward tier stop none
  | .right => do (← lastOf start stop).backward tier start none

def resolveBelow (start : Node) (stop : Place) : Nat → Option Shared → Run (Option Shared)
  | 0, last => return last
  | tier + 1, last => do
      let resolved ← pass tier (← start.normalize) stop
      (← start.normalize).ensureFolded tier stop
      resolveBelow start stop tier (resolved <|> last)

end Passes

/-- Puts an expression into the list before a node or at its end. Before an opening parenthesis it
becomes the method of a call, from which the reading goes on. The answer is where to go on, and the
new node if it stays as it is. -/
def splice (place : Place) (expression : Shared) (callable : Bool) :
    Run (Place × Option Node) := do
  match place with
  | some id =>
      if callable && (← cell id).part.kind == .scopeStart then
        return (← edit (.insertBefore id (.holding .method (some expression))), none)
      else return (some id, ← edit (.insertBefore id (.holding .expression (some expression))))
  | none =>
      let _ ← edit (.pushBack (.holding .expression (some expression)))
      return (none, none)

/-- Takes the call before a path out of the list, if the path is to be read from what it answers. -/
def takeCall (token : Node) (last : Option Shared) : Run (List Segment) := do
  match last with
  | some ⟨.call .., address⟩ =>
      let before ← prev token
      match (← cellAt before).bind Cell.shared? with
      | some found =>
          if found.address == address then
            let _ ← removeAt before
            return [.expression found.expression]
          else return []
      | none => return []
  | _ => return []

/-- What the reading of one part comes to: where to go on, the new node that may be the first one
of the range, and the last expression. -/
structure Step where
  cursor : Place
  inserted : Option Node
  last : Option Shared

/-- What the reading of a range comes to: its first node, what closes it, and the last
expression. -/
structure Bounds where
  start : Node
  stop : Place
  last : Option Shared

mutual

def Place.range : (start : Place) → Run (Option Shared)
  | none => return none
  | some start => do
      let bounds ← start.place |>.read start none
      resolveBelow bounds.start bounds.stop (maxTier + 1) bounds.last
partial_fixpoint

def Place.read (start : Node) (last : Option Shared) : Place → Run Bounds
  | none => return ⟨start, none, last⟩
  | some token => do
      let here ← cell token
      if here.part.kind.closesRange then return ⟨start, some token, last⟩
      else
        let step ← token |>.advance here last
        let start := if token == start then step.inserted.getD start else start
        step.cursor |>.read start step.last
partial_fixpoint

def Node.advance (token : Node) (here : Cell) (last : Option Shared) : Run Step := do
  match here.part.kind with
  | .scopeStart =>
      let child ← (← next token) |>.range
      let inserted ← edit (.insertBefore token (.holding .expression child))
      let after ← edit (.remove token)
      let after ← if child.isSome then removeAt after else pure after
      return ⟨← removeAt after, inserted, child⟩
  | .method =>
      (← edit (.remove token)) |>.call (Analysis.targetOf here.part)
  | .indexStart =>
      let (elements, after) ← token.place |>.collect .indexStop .emptyElement (.unclosedIndexes 1)
      let literal ← share (Analysis.listOf elements)
      let (cursor, inserted) ← splice after literal false
      return ⟨cursor, inserted, some literal⟩
  | .path =>
      let (segments, after) ← token.place |>.path (← takeCall token last)
      let found ← share (.path segments)
      let (cursor, inserted) ← splice after found true
      return ⟨cursor, inserted, if inserted.isSome || cursor.isNone then some found else last⟩
  | _ => return ⟨← next token, none, last⟩
partial_fixpoint

def Place.call (target : Target) (opener : Place) : Run Step := do
  let (arguments, after) ← opener |>.collect .scopeStop (.emptyArgument target.text)
    (.missingMethodEnd target.text)
  let method ← share (.call target arguments)
  let (cursor, inserted) ← splice after method true
  return ⟨cursor, inserted, some method⟩
partial_fixpoint

def Place.collect (closer : TokenKind) (emptyError missingError : ParseError) :
    (opener : Place) → Run (List Expression × Place)
  | none => throw (.parse missingError)
  | some opener => do
      if (← cellAt (← next opener)).any (·.part.kind == closer) then
        match ← edit (.remove opener) with
        | none => throw (.parse missingError)
        | some closing => return ([], ← edit (.remove closing))
      else opener |>.items closer emptyError missingError
partial_fixpoint

/-- Takes expressions out of the list up to the closer, each with what stands before it. -/
def Node.items (closer : TokenKind) (emptyError missingError : ParseError) (token : Node) :
    Run (List Expression × Place) := do
  if (← cell token).part.kind == closer then return ([], ← edit (.remove token))
  else
    let value ← (← next token) |>.range
    let after ← edit (.remove token)
    match value with
    | none => throw (.parse emptyError)
    | some value =>
        match ← removeAt after with
        | none => throw (.parse missingError)
        | some token =>
            let here ← cell token
            if here.part.kind == closer || here.part.kind == .separator then
              let (values, after) ← token |>.items closer emptyError missingError
              return (value.expression :: values, after)
            else throw (.parse (.danglingToken here.part.render))
partial_fixpoint

def Node.index (segments : List Segment) (opener : Node) : Run (Expression × Place) := do
  let value ← (← next opener) |>.range
  let after ← edit (.remove opener)
  match value with
  | none => throw (.parse (.emptyIndex (Segment.pathText true segments)))
  | some value =>
      match ← removeAt after with
      | none => throw (.parse (.missingIndexEnd (Segment.pathText true segments)))
      | some closer =>
          let here ← cell closer
          if here.part.kind == .indexStop then return (value.expression, ← edit (.remove closer))
          else throw (.parse (.danglingToken here.part.render))
partial_fixpoint

def Place.path (segments : List Segment) : Place → Run (List Segment × Place)
  | none => return (segments, none)
  | some token => do
      let here ← cell token
      match here.part.kind with
      | .path =>
          (← edit (.remove token)) |>.path (segments ++ Analysis.pathNames here.part.render)
      | .indexStart =>
          let (value, after) ← token |>.index segments
          after |>.path (segments ++ [.expression value])
      | _ => return (segments, some token)
partial_fixpoint

end

def Place.separated (start : Place) : Run (List Expression) := do
  match ← start.range with
  | none => throw (.parse .emptyExpression)
  | some value =>
      match ← Place.firstSeparator (← get).list.head with
      | none => return [value.expression]
      | some separator =>
          let values ← (← edit (.remove separator)) |>.separated
          return value.expression :: values
partial_fixpoint

def whole : Run Expression := do
  let values ← Place.separated (← get).list.head
  match (← get).list.parts.drop values.length, values with
  | extra :: _, _ => throw (.parse (.danglingToken extra.part.render))
  | [], [value] => return value
  | [], values => return Analysis.listOf values

/-- Analyzes parts in a list of their own. -/
def analyze (parts : List Part) : Option (Except Fault Expression) :=
  (whole.run { list := .ofParts (parts.map fun part => { part }) }).run.map (·.map Prod.fst)

end InPlace

end PathQuery
