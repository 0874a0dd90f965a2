import PathQuery.Proofs.InPlace.Reading

/-!
Whole ranges in place: they are read from one part to the next, and then their operators are taken.
Main statement: `agrees_all`.
-/

namespace PathQuery

namespace Tiers

theorem resolveBelow_of_nil {range : Range} (finished : range.parts = []) (tiers : Nat) :
    resolveBelow tiers range = .ok range := by
  induction tiers with
  | zero => rfl
  | succ tier ih =>
    rw [resolveBelow, resolveTier_of_nil finished]
    exact ih

end Tiers

namespace Analysis

/-- What the range at the start of some parts comes to, behind others of which the nearest comes
first, and the parts that are left. -/
def ranged (before parts : List Part) : Except ParseError (Tiers.Range × List Part) := do
  let (reading, rest) ← answer (read ⟨before, [], true, none⟩ parts)
  let range ← Tiers.resolve reading.range
  return (range, rest)

theorem inner_eq_ranged (parts : List Part) : answer (inner parts) = (do
    let (range, rest) ← ranged [] parts
    return (range.value, range.whole ++ rest)) := by
  rw [inner_eq, ranged, Reading.start]
  cases answer (read ⟨[], [], true, none⟩ parts) with
  | error => rfl
  | ok found =>
    obtain ⟨reading, rest⟩ := found
    show Tiers.resolve reading.range >>= _ = (Tiers.resolve reading.range >>= _) >>= _
    cases Tiers.resolve reading.range <;> rfl

end Analysis

namespace InPlace

open Analysis (Tokens answer)

section Splices

variable {memory : Memory} {earlier rest : List Entry}

theorem advance_method {token : Nat} {here : Cell} {last : Option Shared}
    (method : here.part.kind = .method) : Node.advance token here last = (do
      Place.call (Analysis.targetOf here.part) (← edit (.remove token))) := by
  rw [Node.advance, method]

theorem share_ends (expression : Expression) : share expression memory =
    pure (⟨expression, memory.made⟩, { memory with made := memory.made + 1 }) := rfl

theorem splice_ends (represents : memory.list.Represents (earlier ++ rest)) (shared : Shared)
    {callable : Bool} (stays : callable = true → Analysis.opensScope (parts rest) = false) :
    ∃ after, splice (firstNode rest) shared callable memory =
        pure ((firstNode rest, (firstNode rest).map fun _ => memory.list.nodes.size), after) ∧
      Passage memory.list after.list (earlier ++ [shared.entry memory.list.nodes.size])
        rest rest := by
  cases rest with
  | nil =>
    rw [List.append_nil] at represents
    obtain ⟨after, ends, inserted⟩ :=
      pushBack_passage represents (.holding .expression (some shared))
    refine ⟨after, ?_, inserted⟩
    rw [firstNode_nil, splice, bind_ends ends]
    rfl
  | cons opening rest =>
    obtain ⟨after, ends, inserted⟩ :=
      insertBefore_passage represents (.holding .expression (some shared))
    refine ⟨after, ?_, inserted⟩
    rw [firstNode_cons, splice, bind_ends (cell_ends represents), if_neg, bind_ends ends]
    · rfl
    · intro both
      rw [Bool.and_eq_true] at both
      have opens : Analysis.opensScope (parts (opening :: rest)) = true := both.2
      rw [stays both.1] at opens
      cases opens

/-- Before a parenthesis an expression becomes the method of a call, which is read next. -/
theorem splice_method (represents : memory.list.Represents (earlier ++ rest)) (shared : Shared)
    (opens : Analysis.opensScope (parts rest) = true) :
    ∃ middle after, splice (firstNode rest) shared true memory =
        pure ((some memory.list.nodes.size, none), middle) ∧
      Passage memory.list after.list earlier rest rest ∧
      ∀ start < memory.list.nodes.size, ∀ last,
        Place.read start last (some memory.list.nodes.size) middle =
          (Place.call (.expression shared.expression) (firstNode rest) >>= fun step =>
            Place.read start step.last step.cursor) after := by
  cases rest with
  | nil => cases opens
  | cons opening rest =>
    obtain ⟨middle, inserts, inserted⟩ :=
      insertBefore_passage represents (.holding .method (some shared))
    have wide := inserted.represents
    rw [List.append_assoc, List.singleton_append] at wide
    obtain ⟨after, removes, removed, -⟩ := remove_passage wide
    refine ⟨middle, after, ?_, ?_, ?_⟩
    · rw [firstNode_cons, splice, bind_ends (cell_ends represents), if_pos, bind_ends inserts]
      · rfl
      · exact opens
    · exact .of_first (inserted.persists.trans removed.persists) removed.represents rfl
    · intro start bound last
      have other : (memory.list.nodes.size == start) = false :=
        beq_false_of_ne (Nat.ne_of_gt bound)
      rw [Place.read, bind_ends (cell_ends wide)]
      have ends : Node.advance memory.list.nodes.size (.holding .method (some shared)) last middle =
          Place.call (.expression shared.expression) (firstNode (opening :: rest)) after := by
        rw [advance_method rfl, bind_ends removes]
        rfl
      show (Node.advance memory.list.nodes.size _ last >>= fun step =>
        Place.read (if memory.list.nodes.size == start then step.inserted.getD start else start)
          step.last step.cursor) middle = _
      simp only [other, Bool.false_eq_true, if_false]
      show (Node.advance _ _ _ middle >>= _) = (Place.call _ _ after >>= _)
      rw [ends]

end Splices

/-- What reading a range comes to: the range has been read up to what closes it. -/
structure ReadTo (memory : Memory) (context : List Entry)
    (expected : Analysis.Reading × List Part) (found : Bounds) (after : Memory) : Prop where
  ends : ∃ before seen rest, Reads after.list found.start context before seen rest expected.1 ∧
    parts rest = expected.2 ∧ found.stop = firstNode rest ∧ Closed rest
  value : found.last.map (·.expression) = expected.1.last
  persists : Persists memory.list after.list

theorem ReadTo.of_persists {memory middle after : Memory} {context : List Entry}
    {expected : Analysis.Reading × List Part} {found : Bounds}
    (persists : Persists memory.list middle.list)
    (readTo : ReadTo middle context expected found after) :
    ReadTo memory context expected found after :=
  ⟨readTo.ends, readTo.value, persists.trans readTo.persists⟩

section Ends

variable {memory : Memory} {start : Nat} {last : Option Shared}
  {earlier context before seen rest operands : List Entry} {token : Entry}
  {reading : Analysis.Reading}

theorem mirrors_closed (reads : Reads memory.list start context before seen rest reading)
    (closed : Closed rest) (value : last.map (·.expression) = reading.last) :
    Mirrors (Place.read start last (firstNode rest)) memory
      (answer (Analysis.read reading (parts rest))) (ReadTo memory context) := by
  have done : ReadTo memory context (reading, parts rest) ⟨start, firstNode rest, last⟩ memory :=
    ⟨⟨before, seen, rest, reads, rfl, rfl, closed⟩, value, .refl _⟩
  cases rest with
  | nil =>
    rw [firstNode_nil, Place.read, parts_nil, Analysis.read_nil]
    exact .pure done
  | cons closing rest =>
    have closes := (closed closing rfl).2
    rw [firstNode_cons, Place.read, parts_cons, Analysis.read_closes closes]
    apply Mirrors.step (cell_ends reads.represents)
    rw [if_pos closes]
    exact .pure done

/-- What is no bracket, name or separator stays where it is. -/
theorem keep_ends (represents : memory.list.Represents (earlier ++ token :: rest))
    (inner : token.1.part.Inner (maxTier + 1)) (other : token.1.part.kind.isStructural = false) :
    Place.read start last (some token.2) memory =
      Place.read start last (firstNode rest) memory := by
  have advances : Node.advance token.2 token.1 last = (do
      return ⟨← next token.2, none, last⟩) := by
    rw [Node.advance]
    revert other
    cases token.1.part.kind <;> simp [TokenKind.isStructural]
  rw [Place.read, bind_ends (cell_ends represents), inner.closes, if_neg Bool.false_ne_true,
    advances, bind_assoc, bind_ends (next_ends represents)]
  show Place.read (if token.2 == start then start else start) last (firstNode rest) memory = _
  rw [ite_self]

theorem isStructural_of_isOperand {part : Part} (operand : part.isOperand = true) :
    part.kind.isStructural = false := by
  rcases Part.kind_of_isOperand operand with literal | same
  · revert literal
    cases part.kind <;> simp [TokenKind.isLiteral, TokenKind.isStructural]
  · rw [same]
    rfl

/-- Operands before what closes a range are read as they are. -/
theorem mirrors_operands
    (reads : Reads memory.list start context before seen (operands ++ rest) reading)
    (each : ∀ entry ∈ operands, entry.1.part.isOperand = true ∧ entry.1.part.Proper)
    (closed : Closed rest) (value : last.map (·.expression) = reading.last) :
    Mirrors (Place.read start last (firstNode (operands ++ rest))) memory
      (answer (Analysis.read reading (parts (operands ++ rest)))) (ReadTo memory context) := by
  induction operands generalizing seen reading with
  | nil => exact mirrors_closed reads closed value
  | cons operand operands ih =>
    obtain ⟨⟨operates, proper⟩, others⟩ := List.forall_mem_cons.mp each
    have other := isStructural_of_isOperand operates
    have inner := Part.inner_of_proper proper other
    rw [List.cons_append, firstNode_cons, parts_cons, Analysis.read_keep other]
    rw [List.cons_append] at reads
    apply Mirrors.of_eq (keep_ends reads.represents inner other)
    exact ih (reads.keep inner) others value

end Ends

/-- What is known of a range in place before its next part is read. -/
structure Ready (memory : Memory) (start : Nat) (last : Option Shared)
    (context before seen rest : List Entry) (reading : Analysis.Reading) : Prop where
  reads : Reads memory.list start context before seen rest reading
  begins : Begins memory.list start seen rest reading.fresh
  value : last.map (·.expression) = reading.last
  held : Held last ((context ++ before ++ seen).getLast?.map Prod.fst)

/-- All ranges of which fewer parts than the given number are left are read in place as they should
be. -/
def Goes (count : Nat) : Prop :=
  ∀ ⦃memory start last context before seen rest reading⦄, rest.length < count →
    Barrier context → Tokens (parts rest) →
    Ready memory start last context before seen rest reading →
    Mirrors (Place.read start last (firstNode rest)) memory
      (answer (Analysis.read reading (parts rest))) (ReadTo memory context)

section Steps

variable {count : Nat} {memory after : Memory} {start : Nat} {last : Option Shared}
  {context before seen rest old new : List Entry} {token : Entry} {reading : Analysis.Reading}

theorem part_holding (child : Option Shared) :
    (Cell.holding .expression child).part = .ofAnalysis (child.map (·.expression)) := by
  cases child <;> rfl

theorem held_holding (child : Option Shared) :
    Held child (some (Cell.holding .expression child)) := by
  cases child with
  | none => exact fun _ none => (Option.not_mem_none _ none).elim
  | some shared =>
    rintro _ ⟨⟩ _ ⟨⟩
    rfl

theorem ready_put {child : Option Shared} {node : Nat}
    (reads : Reads memory.list start context before seen old reading)
    (passage : Passage memory.list after.list
      (context ++ before ++ seen ++ [(.holding .expression child, node)]) old new)
    (gone : seen = [] → Gone after.list start) (bounded : Bool) :
    ∃ ahead kept, Ready after (if reading.fresh && bounded then node else start) child context ahead
      kept new { reading.put (.ofAnalysis (child.map (·.expression))) bounded with
        last := child.map (·.expression) } := by
  have inner : (Cell.holding .expression child).part.Inner (maxTier + 1) := by
    rw [part_holding]
    exact Part.inner_ofAnalysis _
  obtain ⟨ahead, kept, whole, moved, starts⟩ :=
    reads.put passage gone inner bounded (child.map (·.expression))
  have held : Held child ((context ++ ahead ++ kept).getLast?.map Prod.fst) := by
    rw [whole, List.getLast?_concat]
    exact held_holding child
  have fresh : (reading.put (Cell.holding .expression child).part bounded).fresh = false := by
    unfold Analysis.Reading.put
    split <;> rfl
  rw [part_holding] at moved fresh
  exact ⟨ahead, kept, moved, fresh ▸ starts, rfl, held⟩

/-- After what has been read became a new node, the reading goes on behind it. -/
theorem Goes.put (goes : Goes count) (barrier : Barrier context) (tokens : Tokens (parts new))
    (fewer : new.length < count) {child : Option Shared} {node : Nat}
    (reads : Reads memory.list start context before seen old reading)
    (passage : Passage memory.list after.list
      (context ++ before ++ seen ++ [(.holding .expression child, node)]) old new)
    (gone : seen = [] → Gone after.list start) (bounded : Bool) :
    Mirrors (Place.read (if reading.fresh && bounded then node else start) child (firstNode new))
      after (answer (Analysis.read { reading.put (.ofAnalysis (child.map (·.expression))) bounded with
        last := child.map (·.expression) } (parts new))) (ReadTo memory context) := by
  obtain ⟨ahead, kept, ready⟩ := ready_put reads passage gone bounded
  exact (goes fewer barrier tokens ready).mono fun _ _ _ _ readTo =>
    readTo.of_persists passage.persists

/-- Once its next node is removed, a range of which nothing is left starts at a removed one. -/
theorem Begins.onward {list other : TokenList Cell} {fresh : Bool}
    (begins : Begins list start seen (token :: rest) fresh) (persists : Persists list other)
    (removed : Gone other token.2) : seen = [] → Gone other start := by
  intro empty
  cases fresh with
  | true =>
    obtain rfl : token.2 = start := Option.some.inj (begins.first rfl)
    exact removed
  | false => exact (begins.gone rfl empty).persists persists

/-- Removes the closing bracket of a scope, after what the scope came to. -/
def closeScope (child : Option Shared) (place : Option Nat) : Run (Option Nat) := do
  let place ← if child.isSome then removeAt place else pure place
  removeAt place

theorem closeScope_ends {earlier : List Entry} (child : Option Shared)
    (represents : memory.list.Represents (earlier ++ old)) :
    ∃ after, closeScope child (firstNode old) memory =
        pure (firstNode (old.drop (1 + child.toList.length)), after) ∧
      Passage memory.list after.list earlier old (old.drop (1 + child.toList.length)) := by
  cases child with
  | none => exact removeAt_ends represents
  | some shared =>
    obtain ⟨middle, ends, first⟩ := removeAt_ends represents
    obtain ⟨after, closes, second⟩ := removeAt_ends first.represents
    rw [List.drop_drop] at closes second
    refine ⟨after, ?_, first.trans second⟩
    show (removeAt (firstNode old) >>= fun place => removeAt place) memory = _
    rw [bind_ends ends]
    exact closes

theorem advance_scope {token : Nat} {here : Cell} (opens : here.part.kind = .scopeStart) :
    Node.advance token here last = (do
      let child ← Place.range (← next token)
      let inserted ← edit (.insertBefore token (.holding .expression child))
      let cursor ← closeScope child (← edit (.remove token))
      return ⟨cursor, inserted, child⟩) := by
  rw [Node.advance, opens]
  refine bind_congr fun place => bind_congr fun child => ?_
  cases child <;> simp [closeScope]

/-- A scope may leave operands, before what closes it with all behind that. -/
theorem exists_of_trails {kept : List Entry} (tokens : Tokens (parts rest))
    (trails : Analysis.Trails (parts rest) (parts kept)) :
    ∃ operands behind, kept = operands ++ behind ∧
      (∀ entry ∈ operands, entry.1.part.isOperand = true ∧ entry.1.part.Proper) ∧
      Closed behind ∧ parts behind <:+ parts rest := by
  obtain ⟨_, _, split, each, stops, suffix⟩ := trails
  obtain ⟨operands, behind, rfl, rfl, rfl⟩ := List.map_eq_append_iff.mp split
  refine ⟨operands, behind, rfl, fun entry member => each _ (List.mem_map_of_mem member), ?_,
    suffix⟩
  intro closing first
  cases behind with
  | nil => cases first
  | cons _ behind =>
    obtain rfl := Option.some.inj first
    have token := tokens.each _ (suffix.subset List.mem_cons_self)
    exact ⟨token.1, stops _ rfl⟩

theorem Goes.scope (agrees : Agrees count) (goes : Goes count) (barrier : Barrier context)
    (fewer : rest.length < count) (tokens : Tokens (parts (token :: rest)))
    (ready : Ready memory start last context before seen (token :: rest) reading)
    (opens : token.1.part.kind = .scopeStart) :
    Mirrors (Place.read start last (some token.2)) memory
      (answer (Analysis.read reading (parts (token :: rest)))) (ReadTo memory context) := by
  have tokensRest : Tokens (parts rest) := tokens.of_suffix (List.suffix_cons _ _)
  have represents := ready.reads.represents
  have starts := ready.reads.starts_iff ready.begins
  rw [Place.read, parts_cons, Analysis.read_scope opens]
  apply Mirrors.step (cell_ends represents)
  rw [if_neg (by rw [opens]; exact Bool.false_ne_true), advance_scope opens]
  simp only [bind_assoc]
  apply Mirrors.step (next_ends represents)
  refine (agrees memory _ token rest fewer tokensRest (tokens.each _ List.mem_cons_self).1
    (by rw [opens]; rfl) represents).bind ?_
  rintro ⟨_, _⟩ child middle analyzed ⟨rfl, kept, rfl, passage⟩
  obtain ⟨_, final, inserts, removes, taken, gone⟩ :=
    supplant_ends (.holding .expression child) passage.represents
  apply Mirrors.step inserts
  apply Mirrors.step removes
  obtain ⟨last, closes, closed⟩ := closeScope_ends child taken.represents
  apply Mirrors.step closes
  have persists := (passage.persists.trans taken.persists).trans closed.persists
  obtain ⟨ahead, seen, ready⟩ := ready_put (ready.reads.passage passage) (taken.trans closed)
    (ready.begins.onward persists (gone.persists closed.persists)) true
  have bounded : (if reading.fresh then middle.list.nodes.size else start) =
      if reading.fresh && true then middle.list.nodes.size else start := by
    rw [Bool.and_true]
  have whole : (Option.map (·.expression) child).toList.length = child.toList.length := by
    cases child <;> rfl
  rw [starts]
  show Mirrors (Place.read (if reading.fresh then middle.list.nodes.size else start) child
    (firstNode (kept.drop (1 + child.toList.length)))) last (answer (Analysis.read _
      ((parts kept).drop (1 + (Option.map (·.expression) child).toList.length)))) _
  rw [bounded, whole, ← parts_drop]
  obtain ⟨operands, behind, rfl, each, ended, suffix⟩ :=
    exists_of_trails tokensRest (Analysis.suffix_of_inner tokensRest analyzed)
  by_cases within : 1 + child.toList.length ≤ operands.length
  · rw [List.drop_append_of_le_length within] at ready ⊢
    have later := mirrors_operands ready.reads
      (fun entry member => each entry (List.mem_of_mem_drop member)) ended ready.value
    exact later.mono fun _ _ _ _ readTo => readTo.of_persists persists
  · rw [List.drop_append, List.drop_eq_nil_of_le (by omega), List.nil_append] at ready ⊢
    have shorter : (behind.drop (1 + child.toList.length - operands.length)).length ≤
        rest.length := by
      have bound := length_le_of_suffix suffix
      rw [List.length_drop]
      omega
    have tokensLater :
        Tokens (parts (behind.drop (1 + child.toList.length - operands.length))) := by
      rw [parts_drop]
      exact tokensRest.of_suffix ((List.drop_suffix _ _).trans suffix)
    exact (goes (by omega) barrier tokensLater ready).mono fun _ _ _ _ readTo =>
      readTo.of_persists persists

/-- A range starts at a new node only if something stands behind that. -/
theorem start_of_splice (fresh : Bool) (node : Nat) :
    (if fresh then ((firstNode new).map fun _ => node).getD start else start) =
      if fresh && !(parts new).isEmpty then node else start := by
  cases fresh <;> cases new <;> rfl

/-- An expression that was taken out of the list comes back as a new node. -/
theorem Goes.splice (goes : Goes count) (barrier : Barrier context) (tokens : Tokens (parts new))
    (fewer : new.length < count) (reads : Reads memory.list start context before seen new reading)
    (gone : seen = [] → Gone memory.list start) (expression : Expression) {callable : Bool}
    (stays : callable = true → Analysis.opensScope (parts new) = false) :
    ∃ node after, splice (firstNode new) ⟨expression, memory.made⟩ callable
        { memory with made := memory.made + 1 } =
          pure ((firstNode new, (firstNode new).map fun _ => node), after) ∧
      Mirrors (Place.read
        (if reading.fresh then ((firstNode new).map fun _ => node).getD start else start)
          (some ⟨expression, memory.made⟩) (firstNode new)) after
        (answer (Analysis.read { reading.put (.ofAnalysis (some expression)) (!(parts new).isEmpty)
          with last := some expression } (parts new))) (ReadTo memory context) := by
  have represents : { memory with made := memory.made + 1 }.list.Represents
      (context ++ before ++ seen ++ new) := reads.represents
  obtain ⟨after, ends, passage⟩ := splice_ends represents ⟨expression, memory.made⟩ stays
  refine ⟨memory.list.nodes.size, after, ends, ?_⟩
  rw [start_of_splice]
  exact goes.put barrier tokens fewer reads passage
    (fun empty => (gone empty).persists passage.persists) _

/-- Before a parenthesis such an expression is called, and is no node of its own. -/
theorem Reads.spliceMethod (reads : Reads memory.list start context before seen new reading)
    (expression : Expression) (scope : Analysis.opensScope (parts new) = true) :
    ∃ first after, splice (firstNode new) ⟨expression, memory.made⟩ true
        { memory with made := memory.made + 1 } =
          pure ((some memory.list.nodes.size, none), first) ∧
      Passage memory.list after.list (context ++ before ++ seen) new new ∧
      ∀ (fresh : Bool) (last : Option Shared),
        Place.read (if fresh then start else start) last (some memory.list.nodes.size) first =
          (Place.call (.expression expression) (firstNode new) >>= fun step =>
            Place.read start step.last step.cursor) after := by
  have represents : { memory with made := memory.made + 1 }.list.Represents
      (context ++ before ++ seen ++ new) := reads.represents
  obtain ⟨first, after, ends, emitted, goesOn⟩ :=
    splice_method represents ⟨expression, memory.made⟩ scope
  refine ⟨first, after, ends, emitted, fun fresh last => ?_⟩
  rw [ite_self]
  exact goesOn start reads.stands.lt_size last

theorem advance_index {token : Nat} {here : Cell} (opens : here.part.kind = .indexStart) :
    Node.advance token here last = (do
      let (elements, after) ←
        Place.collect .indexStop .emptyElement (.unclosedIndexes 1) (some token)
      let literal ← share (Analysis.listOf elements)
      let (cursor, inserted) ← splice after literal false
      return ⟨cursor, inserted, some literal⟩) := by
  rw [Node.advance, opens]

theorem suffix_of_listed {closer : TokenKind} {emptyError missingError : ParseError}
    {opening : Part} {parts left : List Part} {values : List Expression} (tokens : Tokens parts)
    (closes : closer.closesRange = true)
    (found : answer (Analysis.listed closer emptyError missingError (opening :: parts)) =
      .ok (values, left)) : left <:+ parts :=
  ((Analysis.keeps_all (parts.length + 1)).listed closes (Nat.lt_succ_self _) tokens found).2

theorem Goes.index (agrees : Agrees count) (goes : Goes count) (barrier : Barrier context)
    (fewer : rest.length < count) (tokens : Tokens (parts (token :: rest)))
    (ready : Ready memory start last context before seen (token :: rest) reading)
    (opens : token.1.part.kind = .indexStart) :
    Mirrors (Place.read start last (some token.2)) memory
      (answer (Analysis.read reading (parts (token :: rest)))) (ReadTo memory context) := by
  have tokensRest : Tokens (parts rest) := tokens.of_suffix (List.suffix_cons _ _)
  have represents := ready.reads.represents
  rw [Place.read, parts_cons, Analysis.read_index opens]
  apply Mirrors.step (cell_ends represents)
  rw [if_neg (by rw [opens]; exact Bool.false_ne_true), advance_index opens,
    ready.reads.starts_iff ready.begins]
  simp only [bind_assoc]
  refine (agrees.collect fewer tokensRest (tokens.each _ List.mem_cons_self).1
    (by rw [opens]; rfl) (by rw [opens]; decide) represents).bind ?_
  rintro ⟨_, _⟩ ⟨elements, _⟩ middle listed ⟨⟨rfl, new, rfl, rfl, passage⟩, gone⟩
  have suffix : parts new <:+ parts rest := suffix_of_listed tokensRest rfl listed
  have shorter := length_le_of_suffix suffix
  have stays : false = true → Analysis.opensScope (parts new) = false :=
    fun callable => absurd callable Bool.false_ne_true
  obtain ⟨node, after, ends, later⟩ := goes.splice barrier (tokensRest.of_suffix suffix) (by omega)
    (ready.reads.passage passage) (ready.begins.onward passage.persists gone)
    (Analysis.listOf elements) stays
  apply Mirrors.step (share_ends _)
  apply Mirrors.step ends
  exact later.mono fun _ _ _ _ readTo => readTo.of_persists passage.persists

theorem kind_of_opensScope {parts : List Part} (opens : Analysis.opensScope parts = true) :
    ∀ part ∈ parts.head?, part.kind = .scopeStart := by
  intro part first
  unfold Analysis.opensScope at opens
  rw [show parts.head? = some part from first] at opens
  exact eq_of_beq opens

/-- A call before a parenthesis becomes the method of the call behind it. -/
theorem Goes.calls (agrees : Agrees count) (goes : Goes count) (barrier : Barrier context)
    (fewer : rest.length < count) (tokens : Tokens (parts rest))
    (called : ∀ part ∈ (parts rest).head?, part.kind = .scopeStart)
    (reads : Reads memory.list start context before seen rest reading)
    (gone : seen = [] → Gone memory.list start) (target : Target) :
    Mirrors (Place.call target (firstNode rest) >>= fun step =>
        Place.read (if reading.fresh then step.inserted.getD start else start) step.last
          step.cursor)
      memory (Analysis.readMethod reading target (parts rest)) (ReadTo memory context) := by
  induction length : rest.length using Nat.strong_induction_on
    generalizing memory rest reading target with
  | _ size ih =>
    rw [Place.call, Analysis.readMethod]
    simp only [bind_assoc]
    cases rest with
    | nil =>
      rw [firstNode_nil, Place.collect, parts_nil, Analysis.listed]
      rfl
    | cons opening rest =>
      simp only [List.length_cons] at length fewer
      have opens : opening.1.part.kind = .scopeStart := called _ rfl
      have tokensRest : Tokens (parts rest) := tokens.of_suffix (List.suffix_cons _ _)
      have token := (tokens.each _ List.mem_cons_self).1
      refine (agrees.collect (by omega) tokensRest token (by rw [opens]; rfl)
        (by rw [opens]; decide) reads.represents).bind ?_
      rintro ⟨_, _⟩ ⟨arguments, _⟩ middle listed ⟨⟨rfl, new, rfl, rfl, passage⟩, -⟩
      have suffix : parts new <:+ parts rest := suffix_of_listed tokensRest rfl listed
      have shorter := length_le_of_suffix suffix
      have moved := reads.passage passage
      have lost := fun empty => (gone empty).persists passage.persists
      have tokensNew := tokensRest.of_suffix suffix
      apply Mirrors.step (share_ends _)
      dsimp only
      cases scope : Analysis.opensScope (parts new) with
      | false =>
        obtain ⟨node, after, ends, later⟩ := goes.splice barrier tokensNew (by omega) moved lost
          (.call target arguments) (fun _ => scope)
        apply Mirrors.step ends
        exact later.mono fun _ _ _ _ readTo => readTo.of_persists passage.persists
      | true =>
        obtain ⟨first, after, ends, emitted, goesOn⟩ :=
          moved.spliceMethod (.call target arguments) scope
        apply Mirrors.step ends
        rw [if_pos rfl, Analysis.readCall_eq]
        apply Mirrors.of_eq (goesOn reading.fresh _)
        have later := ih new.length (by omega) (by omega) tokensNew (kind_of_opensScope scope)
          (moved.passage emitted).displaced (fun empty => (lost empty).persists emitted.persists)
          (.expression (.call target arguments)) rfl
        exact later.mono fun _ _ _ _ readTo =>
          readTo.of_persists (passage.persists.trans emitted.persists)

theorem Goes.method (agrees : Agrees count) (goes : Goes count) (barrier : Barrier context)
    (fewer : rest.length < count) (tokens : Tokens (parts (token :: rest)))
    (ready : Ready memory start last context before seen (token :: rest) reading)
    (method : token.1.part.kind = .method) :
    Mirrors (Place.read start last (some token.2)) memory
      (answer (Analysis.read reading (parts (token :: rest)))) (ReadTo memory context) := by
  have tokensRest : Tokens (parts rest) := tokens.of_suffix (List.suffix_cons _ _)
  have represents := ready.reads.represents
  have called : ∀ part ∈ (parts rest).head?, part.kind = .scopeStart := by
    intro part first
    have chain := tokens.fit.called
    rw [parts_cons, List.isChain_cons] at chain
    exact chain.1 part first method
  rw [Place.read, parts_cons, Analysis.read_method_eq method]
  apply Mirrors.step (cell_ends represents)
  rw [if_neg (by rw [method]; exact Bool.false_ne_true), advance_method method,
    ready.reads.starts_iff ready.begins]
  simp only [bind_assoc]
  obtain ⟨after, ends, removed, gone⟩ := remove_passage represents
  apply Mirrors.step ends
  have later := goes.calls agrees barrier fewer tokensRest called (ready.reads.passage removed)
    (ready.begins.onward removed.persists gone) (Analysis.targetOf token.1.part)
  exact later.mono fun _ _ _ _ readTo => readTo.of_persists removed.persists

theorem advance_path {token : Nat} {here : Cell} (name : here.part.kind = .path) :
    Node.advance token here last = (do
      let (segments, after) ← Place.path (← takeCall token last) (some token)
      let found ← share (.path segments)
      let (cursor, inserted) ← splice after found true
      return ⟨cursor, inserted,
        if inserted.isSome || cursor.isNone then some found else last⟩) := by
  rw [Node.advance, name]

theorem path_ends {earlier : List Entry} (segments : List Segment)
    (represents : memory.list.Represents (earlier ++ token :: rest))
    (name : token.1.part.kind = .path) :
    ∃ after, Place.path segments (some token.2) memory =
        Place.path (segments ++ Analysis.pathNames token.1.part.render) (firstNode rest) after ∧
      Passage memory.list after.list earlier (token :: rest) rest ∧ Gone after.list token.2 := by
  obtain ⟨after, ends, removed⟩ := remove_passage represents
  refine ⟨after, ?_, removed⟩
  rw [Place.path, bind_ends (cell_ends represents), name]
  exact bind_ends ends _

theorem Goes.path (agrees : Agrees count) (goes : Goes count) (barrier : Barrier context)
    (fewer : rest.length < count) (tokens : Tokens (parts (token :: rest)))
    (ready : Ready memory start last context before seen (token :: rest) reading)
    (name : token.1.part.kind = .path) :
    Mirrors (Place.read start last (some token.2)) memory
      (answer (Analysis.read reading (parts (token :: rest)))) (ReadTo memory context) := by
  have tokensRest : Tokens (parts rest) := tokens.of_suffix (List.suffix_cons _ _)
  rw [Place.read, parts_cons, Analysis.read_path name, Analysis.readPath]
  apply Mirrors.step (cell_ends ready.reads.represents)
  rw [if_neg (by rw [name]; exact Bool.false_ne_true), advance_path name]
  simp only [bind_assoc]
  obtain ⟨ahead, kept, free, takes, reads, begins, persists⟩ :=
    takeCall_ends barrier ready.reads ready.begins ready.value ready.held
  apply Mirrors.step takes
  rw [reads.starts_iff begins]
  obtain ⟨middle, ends, removed, gone⟩ := path_ends reading.takeCall.1 reads.represents name
  refine (Mirrors.of_eq ends (agrees.path (by omega) tokensRest removed.represents)).bind ?_
  rintro ⟨_, _⟩ ⟨segments, _⟩ after found ⟨rfl, new, rfl, rfl, passage⟩
  have suffix : parts new <:+ parts rest := Analysis.suffix_of_path tokensRest found
  have shorter := length_le_of_suffix suffix
  have moved := reads.passage (removed.trans passage)
  have lost := begins.onward (removed.trans passage).persists (gone.persists passage.persists)
  have tokensNew := tokensRest.of_suffix suffix
  replace persists := persists.trans (removed.trans passage).persists
  apply Mirrors.step (share_ends _)
  dsimp only
  cases scope : Analysis.opensScope (parts new) with
  | false =>
    obtain ⟨node, final, ends, later⟩ := goes.splice barrier tokensNew (by omega) moved lost
      (.path segments) (fun _ => scope)
    have newest : (if ((firstNode new).map fun _ => node).isSome || (firstNode new).isNone then
        some (Shared.mk (.path segments) after.made) else last) =
          some ⟨.path segments, after.made⟩ := by
      cases new <;> rfl
    apply Mirrors.step ends
    show Mirrors (Place.read _ (if ((firstNode new).map fun _ => node).isSome ||
        (firstNode new).isNone then
      some (Shared.mk (.path segments) after.made) else last) (firstNode new)) final _ _
    rw [newest]
    exact later.mono fun _ _ _ _ readTo => readTo.of_persists persists
  | true =>
    obtain ⟨first, final, ends, emitted, goesOn⟩ := moved.spliceMethod (.path segments) scope
    apply Mirrors.step ends
    rw [if_pos rfl, Analysis.readCall_eq]
    apply Mirrors.of_eq (goesOn reading.takeCall.2.fresh last)
    have later := goes.calls agrees barrier (by omega) tokensNew (kind_of_opensScope scope)
      (moved.passage emitted).displaced (fun empty => (lost empty).persists emitted.persists)
      (.expression (.path segments))
    exact later.mono fun _ _ _ _ readTo => readTo.of_persists (persists.trans emitted.persists)

theorem Ready.keep (ready : Ready memory start last context before seen (token :: rest) reading)
    (isToken : token.1.part.isToken = true) (inner : token.1.part.Inner (maxTier + 1)) :
    Ready memory start last context before (seen ++ [token]) rest (reading.keep token.1.part) := by
  have plain : token.1.part.expression? = none := by
    cases whole : token.1.part with
    | expression =>
      rw [whole] at isToken
      cases isToken
    | literal | text | empty => rfl
  refine ⟨ready.reads.keep inner, begins_of_begun fun none => absurd none (by simp), ready.value,
    ?_⟩
  rw [← List.append_assoc, List.getLast?_concat]
  intro shared _ other found
  rw [Option.map_some, Option.bind_some, Cell.shared?, plain] at found
  cases found

theorem goes_succ (agrees : Agrees count) (goes : Goes count) : Goes (count + 1) := by
  intro memory start last context before seen rest reading fewer barrier tokens ready
  cases rest with
  | nil => exact mirrors_closed ready.reads (by simp [Closed]) ready.value
  | cons token rest =>
    have fewer : rest.length < count := Nat.lt_of_succ_lt_succ fewer
    have tokensRest : Tokens (parts rest) := tokens.of_suffix (List.suffix_cons _ _)
    obtain ⟨isToken, proper⟩ := tokens.each _ List.mem_cons_self
    by_cases closes : token.1.part.kind.closesRange = true
    · refine mirrors_closed ready.reads ?_ ready.value
      rintro _ ⟨⟩
      exact ⟨isToken, closes⟩
    by_cases opens : token.1.part.kind = .scopeStart
    · exact goes.scope agrees barrier fewer tokens ready opens
    by_cases method : token.1.part.kind = .method
    · exact goes.method agrees barrier fewer tokens ready method
    by_cases index : token.1.part.kind = .indexStart
    · exact goes.index agrees barrier fewer tokens ready index
    by_cases name : token.1.part.kind = .path
    · exact goes.path agrees barrier fewer tokens ready name
    have other : token.1.part.kind.isStructural = false := by
      revert closes opens method index name
      cases token.1.part.kind <;> simp [TokenKind.closesRange, TokenKind.isStructural]
    have inner := Part.inner_of_proper proper other
    rw [parts_cons, Analysis.read_keep other]
    apply Mirrors.of_eq (keep_ends ready.reads.represents inner other)
    exact goes fewer barrier tokensRest (ready.keep isToken inner)

theorem goes_of_agrees (agrees : Agrees count) {bound : Nat} (within : bound ≤ count + 1) :
    Goes bound := by
  induction bound with
  | zero =>
    intro _ _ _ _ _ _ _ _ fewer
    exact absurd fewer (Nat.not_lt_zero _)
  | succ bound ih =>
    have fewer : Agrees bound := fun memory earlier opening rest shorter =>
      agrees memory earlier opening rest (by omega)
    exact goes_succ fewer (ih (by omega))

/-- What a whole range comes to in place. -/
structure Ranged (memory : Memory) (context : List Entry) (expected : Tiers.Range × List Part)
    (found : Option Shared) (after : Memory) : Prop where
  value : found.map (·.expression) = expected.1.value
  stands : ∃ before seen rest, after.list.Represents (context ++ before ++ (seen ++ rest)) ∧
    parts before = expected.1.before.reverse ∧ parts seen = expected.1.parts ∧
    parts rest = expected.2
  clear : ∀ part ∈ expected.1.before ++ expected.1.parts, part.kind ≠ .separator
  persists : Persists memory.list after.list

theorem ReadTo.resolve {middle : Memory} {left : List Part} {bounds : Bounds}
    (readTo : ReadTo memory context (reading, left) bounds middle) (barrier : Barrier context) :
    Mirrors (resolveBelow bounds.start bounds.stop (maxTier + 1) bounds.last) middle (do
      let range ← Tiers.resolve reading.range
      return (range, left)) (Ranged memory context) := by
  obtain ⟨⟨before, seen, behind, reads, rfl, stops, closed⟩, value, persists⟩ := readTo
  have resolves : Mirrors (resolveBelow bounds.start (firstNode behind) (maxTier + 1) bounds.last)
      middle _ _ := mirrors_resolve barrier closed (maxTier + 1) reads.stands reads.inner
  have same : (⟨(parts before).reverse, parts seen, bounds.last.map (·.expression)⟩ : Tiers.Range) =
      reading.range := by
    rw [Analysis.Reading.range, ← reads.passed, reads.ahead, List.reverse_reverse, value]
  rw [same, ← stops] at resolves
  rw [← bind_pure (resolveBelow _ _ _ _)]
  refine resolves.bind ?_
  rintro range found after resolving ⟨⟨ahead, kept, stands, aheadSame, keptSame⟩, result, later⟩
  refine .pure ⟨result, ⟨ahead, kept, behind, stands.represents, aheadSame, keptSame, rfl⟩, ?_,
    persists.trans later⟩
  rw [List.forall_mem_append]
  constructor
  · have folded (value : Expression) : (Tiers.folded value).kind ≠ .separator :=
      TokenKind.noConfusion
    exact Tiers.before_resolveBelow folded resolving reads.clear
  · have pending : ∀ part ∈ reading.range.parts, part.Inner (maxTier + 1) := by
      rw [← same]
      intro part member
      obtain ⟨entry, present, rfl⟩ := List.mem_map.mp member
      exact reads.inner entry present
    intro part member separates
    have closes := (Tiers.inner_resolveBelow resolving pending part member).closes
    rw [separates] at closes
    cases closes

theorem Goes.range {ahead : List Entry} (goes : Goes count) (barrier : Barrier context)
    (fewer : rest.length < count) (tokens : Tokens (parts rest))
    (clear : ∀ entry ∈ ahead, entry.1.part.kind ≠ .separator)
    (represents : memory.list.Represents (context ++ ahead ++ rest)) :
    Mirrors (Place.range (firstNode rest)) memory
      (Analysis.ranged (parts ahead).reverse (parts rest)) (Ranged memory context) := by
  have clearParts : ∀ part ∈ (parts ahead).reverse, part.kind ≠ .separator := by
    intro part member
    obtain ⟨entry, present, rfl⟩ := List.mem_map.mp (List.mem_reverse.mp member)
    exact clear entry present
  cases rest with
  | nil =>
    have resolves : Tiers.resolve (Analysis.Reading.range ⟨(parts ahead).reverse, [], true, none⟩) =
        .ok ⟨(parts ahead).reverse, [], none⟩ := Tiers.resolveBelow_of_nil rfl _
    rw [firstNode_nil, Place.range, parts_nil, Analysis.ranged, Analysis.read_nil]
    show Mirrors _ _ (Tiers.resolve (Analysis.Reading.range ⟨(parts ahead).reverse, [], true, none⟩)
      >>= fun range => pure (range, [])) _
    rw [resolves]
    refine .pure ⟨rfl, ⟨ahead, [], [], represents, ?_, rfl, rfl⟩, ?_, .refl _⟩
    · rw [List.reverse_reverse]
    · simpa using clearParts
  | cons next rest =>
    have ready : Ready memory next.2 none context ahead [] (next :: rest)
        ⟨(parts ahead).reverse, [], true, none⟩ := by
      refine ⟨⟨⟨represents, 0, ?_⟩, rfl, rfl, by simp, fun _ => rfl, clearParts⟩,
        ⟨fun _ => rfl, fun begun => absurd begun Bool.false_ne_true.symm⟩, rfl, held_none⟩
      exact replaced_first represents
    rw [firstNode_cons, Place.range, Analysis.ranged]
    refine (goes fewer barrier tokens ready).bind ?_
    rintro ⟨reading, _⟩ bounds middle - readTo
    exact readTo.resolve barrier

theorem agrees_succ (agrees : Agrees count) : Agrees (count + 1) := by
  intro memory earlier opening rest fewer tokens token opens represents
  have barrier : Barrier (earlier ++ [opening]) := by
    intro entry last
    rw [List.getLast?_concat] at last
    cases last
    exact ⟨token, opens⟩
  have ranges : Mirrors (Place.range (firstNode rest)) memory (Analysis.ranged [] (parts rest))
      (Ranged memory (earlier ++ [opening])) := by
    have clear : ∀ entry ∈ ([] : List Entry), entry.1.part.kind ≠ .separator := by simp
    have goes : Goes (count + 1) := goes_of_agrees agrees (Nat.le_refl _)
    apply goes.range barrier fewer tokens clear
    simpa using represents
  rw [← bind_pure (Place.range _), Analysis.inner_eq_ranged]
  refine ranges.bind ?_
  rintro ⟨range, _⟩ found after -
    ⟨value, ⟨before, seen, behind, whole, ahead, passed, rfl⟩, -, persists⟩
  rw [List.append_assoc earlier, List.append_assoc earlier] at whole
  refine .pure ⟨value, before ++ (seen ++ behind), ?_, .of_first persists ?_ rfl⟩
  · simp [ahead, passed, Tiers.Range.whole]
  · simpa using whole

theorem agrees_all (count : Nat) : Agrees count := by
  induction count with
  | zero => exact fun _ _ _ _ fewer => absurd fewer (Nat.not_lt_zero _)
  | succ count ih => exact agrees_succ ih

theorem goes_all (count : Nat) : Goes count :=
  goes_of_agrees (agrees_all count) (Nat.le_succ count)

end Steps

end InPlace

end PathQuery
