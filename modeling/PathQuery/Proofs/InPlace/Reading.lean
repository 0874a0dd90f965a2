import PathQuery.Proofs.InPlace.Brackets

/-!
How far the first reading of a range has come in place. What has been read stands between what is
before the range and the tokens to come. The range starts at its first node; once that has become an
expression before the range, the removed node leads to where the range starts.
-/

namespace PathQuery

namespace Analysis

variable {reading : Reading} {part : Part} {rest : List Part}

/-- The reading goes on after the call of a target. Each further call is of what the one before it
answers. -/
def readMethod (reading : Reading) (target : Target) (parts : List Part) :
    Except ParseError (Reading × List Part) := do
  let (arguments, left) ← answer
    (listed .scopeStop (.emptyArgument target.text) (.missingMethodEnd target.text) parts)
  if opensScope left then readCall reading (.expression (.call target arguments)) left
  else answer (read { reading.put (.ofAnalysis (some (.call target arguments))) (!left.isEmpty) with
    last := some (.call target arguments) } left)

theorem read_method_eq (method : part.kind = .method) :
    answer (read reading (part :: rest)) = readMethod reading (targetOf part) rest := by
  rw [read_method method, calls_eq, readMethod]
  cases answer (listed .scopeStop (.emptyArgument (targetOf part).text)
    (.missingMethodEnd (targetOf part).text) rest) with
  | error => rfl
  | ok found =>
    obtain ⟨arguments, left⟩ := found
    show (if opensScope left then _ else _) >>= _ = if opensScope left then _ else _
    split
    · rw [readCall]
      cases answer (calls (.expression (.call (targetOf part) arguments)) left) <;> rfl
    · rfl

theorem readCall_eq (target : Target) :
    readCall reading target rest = readMethod reading.displaced target rest := by
  rw [readCall, calls_eq, readMethod]
  cases answer (listed .scopeStop (.emptyArgument target.text) (.missingMethodEnd target.text)
    rest) with
  | error => rfl
  | ok found =>
    obtain ⟨arguments, left⟩ := found
    show (if opensScope left then _ else _) >>= _ = if opensScope left then _ else _
    split
    · rw [readCall]
      cases answer (calls (.expression (.call target arguments)) left) <;> rfl
    · rfl

/-- A reading without the last part that it has read. -/
def Reading.withoutRecent (reading : Reading) : Reading :=
  match reading.seen with
  | _ :: seen => { reading with seen }
  | [] => { reading with before := reading.before.drop 1 }

theorem Reading.takeCall_of_call {target : Target} {arguments : List Expression} {call : Expression}
    (last : reading.last = some (.call target arguments))
    (recent : reading.view.head?.bind Part.expression? = some call) :
    reading.takeCall = ([.expression call], reading.withoutRecent) := by
  obtain ⟨before, seen, fresh, value⟩ := reading
  obtain rfl : value = _ := last
  cases seen with
  | cons part seen =>
    cases part <;> cases recent
    rfl
  | nil =>
    cases before with
    | nil => cases recent
    | cons part before =>
      cases part <;> cases recent
      rfl

theorem Reading.takeCall_of_none (recent : reading.view.head?.bind Part.expression? = none) :
    reading.takeCall = ([], reading) := by
  unfold takeCall
  split
  · rename_i seen
    rw [view, seen] at recent
    cases recent
  · rename_i seen before
    rw [view, seen, before] at recent
    cases recent
  · rfl

theorem Reading.takeCall_of_other
    (other : ∀ target arguments, reading.last ≠ some (.call target arguments)) :
    reading.takeCall = ([], reading) := by
  unfold takeCall
  split
  · rename_i last _
    exact absurd last (other _ _)
  · rename_i last _ _
    exact absurd last (other _ _)
  · rfl

end Analysis

namespace InPlace

open Analysis (Tokens answer)

/-- Whether a range that is read in place is as far as a reading is. -/
structure Reads (list : TokenList Cell) (start : Nat) (context before seen rest : List Entry)
    (reading : Analysis.Reading) : Prop where
  stands : Stands list start (context ++ before) (seen ++ rest)
  ahead : (parts before).reverse = reading.before
  passed : (parts seen).reverse = reading.seen
  inner : ∀ entry ∈ seen, entry.1.part.Inner (maxTier + 1)
  unread : reading.fresh = true → seen = []
  clear : ∀ part ∈ reading.before, part.kind ≠ .separator

/-- Whether the next node is the one where the range starts just when nothing was read. -/
structure Begins (list : TokenList Cell) (start : Nat) (seen rest : List Entry) (fresh : Bool) :
    Prop where
  first : fresh = true → firstNode rest = some start
  gone : fresh = false → seen = [] → Gone list start

theorem unread_of_begun {seen : List Entry} (fresh : false = true) : seen = [] :=
  absurd fresh Bool.false_ne_true

theorem begins_of_begun {list : TokenList Cell} {start : Nat} {seen rest : List Entry}
    (gone : seen = [] → Gone list start) : Begins list start seen rest false :=
  ⟨fun fresh => absurd fresh Bool.false_ne_true, fun _ => gone⟩

section Readings

variable {list other : TokenList Cell} {start : Nat} {context before seen rest old new : List Entry}
  {token entry : Entry} {reading : Analysis.Reading}

theorem Stands.first_of_live (stands : Stands list start before rest) (live : list.IsLive start) :
    firstNode rest = some start := by
  obtain ⟨steps, leads⟩ := stands.leads
  generalize firstNode rest = found at leads
  cases leads with
  | live => rfl
  | step leads => exact absurd live (Gone.not_live ⟨_, leads⟩)

theorem Stands.live_or_gone (stands : Stands list start before rest) :
    list.IsLive start ∨ Gone list start := by
  obtain ⟨steps, leads⟩ := stands.leads
  generalize firstNode rest = found at leads
  cases leads with
  | live live => exact .inl live
  | step leads => exact .inr ⟨_, leads⟩

theorem Stands.lt_size (stands : Stands list start before rest) : start < list.nodes.size := by
  rcases stands.live_or_gone with live | ⟨next, leads⟩
  · exact live.1
  · obtain ⟨node, found, -⟩ := Option.bind_eq_some_iff.mp leads
    exact (Array.getElem?_eq_some_iff.mp found).1

/-- Where all that was seen of a range is removed, so is the node where it started. -/
theorem Stands.gone {others : List Entry} (stands : Stands list start before (seen ++ rest))
    (nonempty : seen ≠ []) (later : Stands other start others rest) : Gone other start := by
  refine later.live_or_gone.resolve_left fun live => ?_
  have member := mem_of_firstNode (later.first_of_live live)
  have present : start ∈ (before ++ (seen ++ rest)).map Prod.snd := by
    simp [member]
  have first := stands.first_of_live (stands.represents.mem_iff.mp present)
  rw [firstNode_append nonempty] at first
  have once := stands.represents.once
  rw [List.map_append, List.map_append] at once
  have apart := (List.nodup_append'.mp (List.nodup_append'.mp once).2.1).2.2
  exact apart (mem_of_firstNode first) member

theorem Reads.represents (reads : Reads list start context before seen rest reading) :
    list.Represents (context ++ before ++ seen ++ rest) := by
  rw [List.append_assoc _ seen]
  exact reads.stands.represents

theorem Reads.displaced (reads : Reads list start context before seen rest reading) :
    Reads list start context before seen rest reading.displaced :=
  ⟨reads.stands, reads.ahead, reads.passed, reads.inner, unread_of_begun, reads.clear⟩

theorem Reads.relast (reads : Reads list start context before seen rest reading)
    (last : Option Expression) :
    Reads list start context before seen rest { reading with last := last } :=
  ⟨reads.stands, reads.ahead, reads.passed, reads.inner, reads.unread, reads.clear⟩

theorem Reads.passage (reads : Reads list start context before seen old reading)
    (passage : Passage list other (context ++ before ++ seen) old new) :
    Reads other start context before seen new reading :=
  ⟨reads.stands.passage passage, reads.ahead, reads.passed, reads.inner, reads.unread, reads.clear⟩

theorem Reads.starts_iff (reads : Reads list start context before seen (token :: rest) reading)
    (begins : Begins list start seen (token :: rest) reading.fresh) :
    (token.2 == start) = reading.fresh := by
  cases fresh : reading.fresh with
  | true => simpa using begins.first fresh
  | false =>
    rw [beq_eq_false_iff_ne]
    rintro rfl
    have live := live_of_middle reads.represents
    by_cases empty : seen = []
    · exact (begins.gone fresh empty).not_live live
    · have first := reads.stands.first_of_live live
      rw [firstNode_append empty] at first
      have once := reads.represents.once
      simp only [List.map_append, List.map_cons] at once
      have apart := (List.nodup_append'.mp once).2.2
      exact apart (List.mem_append_right _ (mem_of_firstNode first)) List.mem_cons_self

theorem Reads.keep (reads : Reads list start context before seen (token :: rest) reading)
    (inner : token.1.part.Inner (maxTier + 1)) :
    Reads list start context before (seen ++ [token]) rest (reading.keep token.1.part) := by
  refine ⟨?_, reads.ahead, ?_, ?_, unread_of_begun, reads.clear⟩
  · rw [List.append_assoc]
    exact reads.stands
  · rw [parts_append, List.reverse_append, reads.passed]
    rfl
  · intro entry member
    rcases List.mem_append.mp member with old | new
    · exact reads.inner entry old
    · rwa [List.mem_singleton.mp new]

theorem put_of_unseen {part : Part} {bounded : Bool} (unseen : reading.seen = [])
    (here : (reading.fresh && bounded) = false) : reading.put part bounded =
      { reading with before := part :: reading.before, fresh := false } := by
  unfold Analysis.Reading.put
  rw [unseen, here]
  rfl

theorem put_of_seen {part : Part} {bounded : Bool}
    (seen : reading.seen ≠ [] ∨ (reading.fresh && bounded) = true) :
    reading.put part bounded = reading.keep part := by
  unfold Analysis.Reading.put
  apply if_neg
  rcases seen with nonempty | here
  · simp [nonempty]
  · simp [here]

/-- A new node in front of the range, before anything of the range was read. -/
theorem Reads.putBefore (reads : Reads list start context before [] old reading)
    (passage : Passage list other (context ++ before ++ [entry]) old new)
    (inner : entry.1.part.Inner (maxTier + 1)) (last : Option Expression) :
    Reads other start context (before ++ [entry]) [] new
      ⟨entry.1.part :: reading.before, reading.seen, false, last⟩ := by
  have stands : Stands list start (context ++ before) old := reads.stands
  have moved := stands.carry passage
  rw [List.append_assoc] at moved
  refine ⟨moved, ?_, reads.passed, by simp, fun _ => rfl, ?_⟩
  · rw [parts_append, List.reverse_append, reads.ahead]
    rfl
  · refine List.forall_mem_cons.mpr ⟨fun same => ?_, reads.clear⟩
    have closes := inner.closes
    rw [same] at closes
    cases closes

/-- A new node behind those that were read. -/
theorem Reads.putBehind (reads : Reads list start context before seen old reading)
    (passage : Passage list other (context ++ before ++ seen ++ [entry]) old new)
    (nonempty : seen ≠ []) (inner : entry.1.part.Inner (maxTier + 1)) :
    Reads other start context before (seen ++ [entry]) new (reading.keep entry.1.part) := by
  have represents := passage.represents
  rw [List.append_assoc (context ++ before), List.append_assoc] at represents
  have kept : firstNode (seen ++ old) = firstNode (seen ++ [entry] ++ new) := by
    rw [List.append_assoc, firstNode_append nonempty, firstNode_append nonempty]
  have moved := reads.stands.carry (.of_first passage.persists represents kept)
  rw [List.append_assoc] at moved
  have arrived : Reads other start context before seen (entry :: new) reading :=
    ⟨moved, reads.ahead, reads.passed, reads.inner, reads.unread, reads.clear⟩
  exact arrived.keep inner

/-- What is read becomes a new node, at which the range starts if it has begun there. -/
theorem Reads.put (reads : Reads list start context before seen old reading)
    (passage : Passage list other (context ++ before ++ seen ++ [entry]) old new)
    (gone : seen = [] → Gone other start) (inner : entry.1.part.Inner (maxTier + 1))
    (bounded : Bool) (last : Option Expression) :
    ∃ ahead kept, context ++ ahead ++ kept = context ++ before ++ seen ++ [entry] ∧
      Reads other (if reading.fresh && bounded then entry.2 else start) context ahead kept new
        { reading.put entry.1.part bounded with last := last } ∧
      Begins other (if reading.fresh && bounded then entry.2 else start) kept new false := by
  have represents := passage.represents
  by_cases empty : seen = []
  · subst empty
    have unseen : reading.seen = [] := by
      rw [← reads.passed]
      rfl
    rw [List.append_nil] at passage represents ⊢
    cases here : reading.fresh && bounded with
    | true =>
      rw [put_of_seen (.inr here), if_pos rfl]
      rw [List.append_assoc] at represents
      have arrived : Reads other entry.2 context before [] (entry :: new) reading :=
        ⟨⟨represents, 0, replaced_first represents⟩, reads.ahead, reads.passed, reads.inner,
          reads.unread, reads.clear⟩
      exact ⟨before, [entry], rfl, (arrived.keep inner).relast last,
        begins_of_begun fun none => absurd none (List.cons_ne_nil _ _)⟩
    | false =>
      rw [put_of_unseen unseen here, if_neg Bool.false_ne_true]
      exact ⟨before ++ [entry], [], by simp, reads.putBefore passage inner last,
        begins_of_begun gone⟩
  · have fresh : reading.fresh = false := by
      by_contra fresh
      exact empty (reads.unread (by simpa using fresh))
    have nonempty : reading.seen ≠ [] := by
      rw [← reads.passed]
      simpa [parts] using empty
    rw [put_of_seen (.inl nonempty), fresh, Bool.false_and, if_neg Bool.false_ne_true]
    exact ⟨before, seen ++ [entry], by simp, (reads.putBehind passage empty inner).relast last,
      begins_of_begun fun none => absurd none (by simp)⟩

end Readings

section Edits

variable {memory : Memory} {start : Nat} {last : Option Shared}
  {earlier context before seen rest old new : List Entry} {token : Entry}
  {reading : Analysis.Reading}

theorem Reads.withoutRecent (reads : Reads memory.list start context before seen old reading)
    (begins : Begins memory.list start seen old reading.fresh) (nonempty : before ++ seen ≠ []) :
    ∃ ahead kept found after, removeAt (lastNode (context ++ before ++ seen)) memory =
        pure (found, after) ∧
      Reads after.list start context ahead kept old reading.withoutRecent ∧
      Begins after.list start kept old reading.fresh ∧ Persists memory.list after.list := by
  have present : context ++ before ++ seen ≠ [] := by
    rw [List.append_assoc]
    exact List.append_ne_nil_of_right_ne_nil _ nonempty
  obtain ⟨after, ends, stands, persists, -, -⟩ := removeLast_ends reads.stands present
  rw [withoutLast_append nonempty] at stands
  obtain ⟨read, behind, fresh, value⟩ := reading
  obtain ⟨whole, rfl, rfl, inner, unread, clear⟩ := reads
  refine ⟨(withoutLast before seen).1, (withoutLast before seen).2, _, after, ends, ?_⟩
  cases seen using List.reverseRecOn with
  | nil =>
    refine ⟨⟨stands, ?_, rfl, by simp [withoutLast], fun _ => rfl, ?_⟩, ?_, persists⟩
    · show (parts before.dropLast).reverse = (parts before).reverse.drop 1
      simp [parts, List.dropLast_eq_take]
    · exact fun part member => clear part (List.mem_of_mem_drop member)
    · exact ⟨begins.first, fun displaced _ => (begins.gone displaced rfl).persists persists⟩
  | append_singleton kept recent =>
    rw [withoutLast_concat] at stands ⊢
    have reduced : Analysis.Reading.withoutRecent
        ⟨(parts before).reverse, (parts (kept ++ [recent])).reverse, fresh, value⟩ =
          ⟨(parts before).reverse, (parts kept).reverse, fresh, value⟩ := by
      rw [parts_append, List.reverse_append]
      rfl
    rw [reduced]
    refine ⟨⟨stands, rfl, rfl, ?_, ?_, clear⟩, ⟨begins.first, ?_⟩, persists⟩
    · exact fun entry member => inner entry (List.mem_append_left _ member)
    · intro fresh
      simpa using unread fresh
    · rintro - rfl
      exact whole.gone (by simp) stands

theorem Reads.recent (barrier : Barrier context)
    (reads : Reads memory.list start context before seen old reading) :
    (((context ++ before ++ seen).getLast?.map Prod.fst).bind Cell.shared?).map
        (·.expression) = reading.view.head?.bind Part.expression? := by
  rw [Analysis.Reading.view, ← reads.ahead, ← reads.passed, ← List.reverse_append, ← parts_append,
    List.head?_reverse, List.append_assoc]
  generalize before ++ seen = inside
  cases inside using List.reverseRecOn with
  | nil =>
    rw [List.append_nil]
    cases last : context.getLast? with
    | none => rfl
    | some entry =>
      have plain := alike_none (barrier entry last).1 (.inl (barrier entry last).2)
      have unheld : entry.1.part.expression? = none := by
        simpa using plain.holds
      simp [Cell.shared?, unheld]
  | append_singleton inside entry =>
    rw [← List.append_assoc, List.getLast?_concat, parts_append, parts_cons, parts_nil,
      List.getLast?_concat]
    show (entry.1.part.expression?.map _).map _ = entry.1.part.expression?
    rw [Option.map_map]
    exact Option.map_id'

/-- The call that a path starts from is the very one that the node before it holds. -/
theorem takeCall_ends (barrier : Barrier context)
    (reads : Reads memory.list start context before seen (token :: rest) reading)
    (begins : Begins memory.list start seen (token :: rest) reading.fresh)
    (value : last.map (·.expression) = reading.last)
    (held : Held last ((context ++ before ++ seen).getLast?.map Prod.fst)) :
    ∃ ahead kept after, takeCall token.2 last memory = pure (reading.takeCall.1, after) ∧
      Reads after.list start context ahead kept (token :: rest) reading.takeCall.2 ∧
      Begins after.list start kept (token :: rest) reading.takeCall.2.fresh ∧
      Persists memory.list after.list := by
  have stays : takeCall token.2 last memory = pure ([], memory) → reading.takeCall = ([], reading) →
      ∃ ahead kept after, takeCall token.2 last memory = pure (reading.takeCall.1, after) ∧
        Reads after.list start context ahead kept (token :: rest) reading.takeCall.2 ∧
        Begins after.list start kept (token :: rest) reading.takeCall.2.fresh ∧
        Persists memory.list after.list := by
    intro ends same
    rw [same]
    exact ⟨before, seen, memory, ends, reads, begins, .refl _⟩
  have other : (∀ target arguments, reading.last ≠ some (.call target arguments)) →
      reading.takeCall = ([], reading) := reading.takeCall_of_other
  rw [← value] at other
  cases last with
  | none => exact stays rfl (other (by simp))
  | some shared =>
    obtain ⟨expression, address⟩ := shared
    cases expression with
    | literal | path | operation => exact stays rfl (other (by simp))
    | call target arguments =>
      have recent := reads.recent barrier
      have reached {run : Place → Option Cell → Run (List Segment)} :
          (do let before ← prev token.2; let cell ← cellAt before; run before cell) memory =
            run (lastNode (context ++ before ++ seen))
              ((context ++ before ++ seen).getLast?.map Prod.fst) memory := by
        rw [bind_ends (prev_ends reads.represents),
          bind_ends (cellAt_lastNode reads.represents)]
      cases found : ((context ++ before ++ seen).getLast?.map Prod.fst).bind Cell.shared? with
      | none =>
        rw [found] at recent
        refine stays ?_ (reading.takeCall_of_none recent.symm)
        rw [takeCall, reached, found]
        rfl
      | some call =>
        have same := held _ rfl call found
        rw [found] at recent
        have nonempty : before ++ seen ≠ [] := by
          intro empty
          obtain ⟨rfl, rfl⟩ := List.append_eq_nil_iff.mp empty
          rw [Analysis.Reading.view, ← reads.ahead, ← reads.passed] at recent
          cases recent
        obtain ⟨ahead, kept, _, after, ends, moved, starts, persists⟩ :=
          reads.withoutRecent begins nonempty
        have taken := Analysis.Reading.takeCall_of_call value.symm recent.symm
        have fresh : reading.withoutRecent.fresh = reading.fresh := by
          unfold Analysis.Reading.withoutRecent
          split <;> rfl
        rw [taken]
        refine ⟨ahead, kept, after, ?_, moved, fresh ▸ starts, persists⟩
        rw [takeCall, reached, found]
        dsimp only
        rw [← same, if_pos (beq_self_eq_true _), bind_ends ends]
        rfl

end Edits

end InPlace

end PathQuery
