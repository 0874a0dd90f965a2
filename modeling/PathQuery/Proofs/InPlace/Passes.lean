import PathQuery.Proofs.InPlace.Operands

/-!
The passes over a range in place: each comes to what it comes to on the parts, and ends before the
range or at what closes it. Main statement: `mirrors_resolve`.
-/

namespace PathQuery

namespace InPlace

/-- What a pass over a range comes to: the range that is left, with the nodes around it. -/
structure Resolved (memory : Memory) (start : Nat) (context rest : List Entry)
    (range : Tiers.Range) (found : Option Shared) (after : Memory) : Prop where
  stands : ∃ before seen, Stands after.list start (context ++ before) (seen ++ rest) ∧
    parts before = range.before.reverse ∧ parts seen = range.parts
  value : found.map (·.expression) = range.value
  persists : Persists memory.list after.list

theorem Resolved.of_persists {memory middle after : Memory} {start : Nat}
    {context rest : List Entry} {range : Tiers.Range} {found : Option Shared}
    (persists : Persists memory.list middle.list)
    (resolved : Resolved middle start context rest range found after) :
    Resolved memory start context rest range found after :=
  ⟨resolved.stands, resolved.value, persists.trans resolved.persists⟩

theorem pair_bind {α β γ : Type} (first : Except ParseError α) (second : Except ParseError β)
    (next : α → β → Except ParseError γ) :
    (first >>= fun value => second >>= fun other => next value other) =
      (do let value ← first; let other ← second; return (value, other)) >>=
        fun values => next values.1 values.2 := by
  cases first with
  | error => rfl
  | ok => cases second <;> rfl

theorem bind_map {α β γ : Type} (first : Except ParseError α) (change : α → β)
    (next : β → Except ParseError γ) :
    first.map change >>= next = first >>= fun value => next (change value) := by
  cases first <;> rfl

section Forward

variable {memory : Memory} {start tier : Nat} {context before done todo rest : List Entry}
  {token : Entry} {last : Option Shared}

theorem ne_firstNode_rest {list : TokenList Cell} {earlier : List Entry}
    (represents : list.Represents (earlier ++ token :: (todo ++ rest))) :
    some token.2 ≠ firstNode rest := by
  have once := represents.once
  rw [List.map_append, List.map_cons, List.nodup_middle, List.nodup_cons] at once
  apply ne_firstNode
  intro member
  exact once.1 (by simp [member])

theorem mirrors_checkTier {part : Part} (inner : part.Inner (tier + 1)) :
    checkTier tier part memory = pure (part.kind.precedence?, memory) := by
  unfold checkTier
  cases tiered : part.kind.precedence? with
  | none => rfl
  | some found =>
    have bound := Nat.not_lt.mpr (Nat.le_of_lt_succ (inner.looser found tiered))
    simp only [bound, if_false]
    rfl

/-- An operator gives way to its operation, and the pass goes on behind it. -/
theorem mirrors_supplant {α β : Type} {related : β → α → Memory → Prop}
    {onward : Shared → Place → Run α} {expected : Option Part → Option Part → Except ParseError β}
    (barrier : Barrier context) (closed : Closed rest)
    (stands : Stands memory.list start (context ++ before) (done ++ token :: (todo ++ rest)))
    (goesOn : ∀ left right operation node final,
      operation.expression = .operation left ⟨token.1.part.kind, token.1.part.render⟩ right →
      Stands final.list start
        (context ++ (settle (operation.entry node) (withoutOperand left before done).1
          (withoutOperand left before done).2).1)
        ((settle (operation.entry node) (withoutOperand left before done).1
          (withoutOperand left before done).2).2 ++ (todo.drop right.toList.length ++ rest)) →
      Persists memory.list final.list →
      Mirrors (onward operation (firstNode (todo.drop right.toList.length ++ rest))) final
        (expected left right) related) :
    Mirrors (do
      let operation ← fold token.2
      let _ ← edit (.insertBefore token.2 (.holding .expression (some operation)))
      onward operation (← edit (.remove token.2))) memory (do
      let left ← Tiers.leftOperand? ⟨token.1.part.kind, token.1.part.render⟩
        ((parts done).reverse ++ (parts before).reverse).head?
      let right ← Tiers.rightOperand? ⟨token.1.part.kind, token.1.part.render⟩ (parts todo).head?
      expected left right) related := by
  rw [pair_bind]
  refine (mirrors_fold barrier closed stands).bind ?_
  rintro ⟨left, right⟩ operation after - folds
  have represents := folds.stands.represents
  rw [← List.append_assoc] at represents
  obtain ⟨middle, final, inserts, removes, passage, -⟩ :=
    supplant_ends (.holding .expression (some operation)) represents
  apply Mirrors.step inserts
  apply Mirrors.step removes
  have settled := folds.stands.settle passage
  rw [settle_append] at settled
  exact goesOn left right operation _ final folds.expression settled
    (folds.persists.trans passage.persists)

/-- The pass ends behind the range, at what closes it or at the end of the list. -/
theorem forward_ends {earlier : List Entry} (closed : Closed rest)
    (represents : memory.list.Represents (earlier ++ rest)) :
    Place.forward tier (firstNode rest) last (firstNode rest) memory = pure (last, memory) := by
  cases rest with
  | nil =>
    rw [firstNode_nil, Place.forward]
    rfl
  | cons entry rest =>
    rw [firstNode_cons, Place.forward, bind_ends (cell_ends represents), (closed entry rfl).2]
    rfl

theorem mirrors_forward (barrier : Barrier context) (closed : Closed rest)
    (stands : Stands memory.list start (context ++ before) (done ++ (todo ++ rest)))
    (inner : ∀ entry ∈ todo, entry.1.part.Inner (tier + 1))
    (held : Held last ((context ++ before ++ done).getLast?.map Prod.fst)) :
    Mirrors (Place.forward tier (firstNode rest) last (firstNode (todo ++ rest))) memory
      (Tiers.forward tier (parts before).reverse (parts done).reverse
        (last.map (·.expression)) (parts todo)) (Resolved memory start context rest) := by
  induction length : todo.length using Nat.strong_induction_on
    generalizing memory before done todo last with
  | _ size ih =>
    cases todo with
    | nil =>
      have represents := stands.represents
      rw [← List.append_assoc] at represents
      exact ⟨last, memory, forward_ends closed represents, ⟨before, done, stands, by simp, by simp⟩,
        rfl, .refl _⟩
    | cons token todo =>
      obtain ⟨innerToken, innerTodo⟩ := List.forall_mem_cons.mp inner
      have represents := stands.represents
      rw [List.cons_append, ← List.append_assoc] at represents
      have beyond := ne_firstNode_rest represents
      have fewer : todo.length < size := by
        simp only [List.length_cons] at length
        omega
      have recent :
          (context ++ before ++ (done ++ [token])).getLast?.map Prod.fst = some token.1 := by
        rw [← List.append_assoc, List.getLast?_concat]
        rfl
      rw [List.cons_append, firstNode_cons, parts_cons]
      rw [Place.forward]
      apply Mirrors.step (cell_ends represents)
      rw [innerToken.closes, beq_false_of_ne beyond]
      apply Mirrors.step (mirrors_checkTier innerToken)
      cases tiered : token.1.part.kind.precedence? with
      | none =>
        rw [Tiers.forward, tiered]
        apply Mirrors.step (prev_ends represents)
        refine (mirrors_visit (cellAt_lastNode represents) held (alike_before barrier)
          innerToken.holds).bind ?_
        rintro _ found after - ⟨rfl, heldNow, unchanged⟩
        rw [← unchanged] at represents stands
        rw [List.cons_append, List.append_cons] at stands
        apply Mirrors.step (next_ends represents)
        have moved := ih todo.length fewer stands innerTodo (by rwa [recent]) rfl
        rw [parts_append, List.reverse_append] at moved
        exact moved.mono fun _ _ _ _ resolved => resolved.of_persists (unchanged ▸ .refl _)
      | some found =>
        dsimp only
        split
        case isTrue looser =>
          rw [Tiers.forward, tiered]
          simp only [looser, if_true]
          apply Mirrors.step (next_ends represents)
          rw [List.cons_append, List.append_cons] at stands
          have moved := ih todo.length fewer stands innerTodo held_none rfl
          rw [parts_append, List.reverse_append] at moved
          exact moved
        case isFalse tight =>
          rw [List.cons_append] at stands
          rw [Tiers.forward_operator tiered tight]
          refine mirrors_supplant barrier closed stands ?_
          intro left right operation node final folded settled persists
          rw [← folded]
          dsimp only
          rw [place_parts operation node left, ← parts_drop]
          have still : ∀ entry ∈ todo.drop right.toList.length, entry.1.part.Inner (tier + 1) :=
            fun entry member => innerTodo entry (List.mem_of_mem_drop member)
          have shorter : (todo.drop right.toList.length).length < size := by
            rw [List.length_drop]
            omega
          refine (ih _ shorter settled still ?_ rfl).mono ?_
          · rw [List.append_assoc, getLast_settle]
            rintro _ ⟨⟩ _ ⟨⟩
            rfl
          · intro _ _ _ _ resolved
            exact resolved.of_persists persists

end Forward

/-- Whether a node is the first of some entries that stand behind others, or, once all of them are
taken away, stands where they began. -/
structure Edge (list : TokenList Cell) (first : Nat) (front todo : List Entry) : Prop where
  begins : todo ≠ [] → firstNode todo = some first
  before : list.prev? first = lastNode front
  bound : first < list.nodes.size

section Backward

variable {memory after final : Memory} {start first tier : Nat}
  {context before done todo rest later : List Entry} {token : Entry} {last : Option Shared}

theorem Edge.init {list : TokenList Cell} (edge : Edge list first before (todo ++ [token])) :
    Edge list first before todo := by
  refine ⟨fun nonempty => ?_, edge.before, edge.bound⟩
  rw [← edge.begins (by simp), firstNode_append nonempty]

/-- The first node is the last one that is left, or one of those before it. -/
theorem Edge.place {list : TokenList Cell} (edge : Edge list first before (todo ++ [token])) :
    todo = [] ∧ token.2 = first ∨ todo ≠ [] ∧ first ∈ todo.map Prod.snd := by
  by_cases unseen : todo = []
  · subst unseen
    exact .inl ⟨rfl, Option.some.inj (edge.begins (by simp))⟩
  · exact .inr ⟨unseen, mem_of_firstNode (edge.init.begins unseen)⟩

/-- No node of the range precedes its first node. -/
theorem Edge.inside (edge : Edge memory.list first before (todo ++ [token]))
    (represents : memory.list.Represents (before ++ todo ++ token :: later)) :
    precedes token.2 (some first) memory = pure (false, memory) := by
  show (pure (memory.list.prev? first == some token.2, memory) :
    ExceptT Fault Option (Bool × Memory)) = _
  rw [edge.before, beq_false_of_ne]
  apply ne_lastNode
  have once := represents.once
  rw [List.map_append, List.map_append, List.map_cons, List.nodup_middle, List.nodup_cons] at once
  exact fun member => once.1 (by simp [member])

/-- A fold and the node in its operator's place leave the first node where it is, or what was in
front of it in front of where it was. -/
theorem Edge.supplanted {operands : Option Part × Option Part} {found : Shared}
    (edge : Edge memory.list first (context ++ before) (todo ++ [token]))
    (represents : memory.list.Represents (context ++ before ++ todo ++ token :: (done ++ rest)))
    (folds : Folded memory start context before todo done rest token operands found after)
    (kept : after.list.Represents (context ++ (withoutOperand operands.1 before todo).1 ++
      (withoutOperand operands.1 before todo).2 ++
      token :: (done.drop operands.2.toList.length ++ rest)))
    (frames : Frames after.list final.list (done.drop operands.2.toList.length ++ rest))
    (size : final.list.nodes.size = after.list.nodes.size + 1) :
    Edge final.list first (context ++ (withoutOperand operands.1 before todo).1)
      (withoutOperand operands.1 before todo).2 := by
  have shorter := @withoutOperand_initial before todo operands.1
  have once := represents.once
  rw [List.map_append, List.map_append, List.map_cons, List.nodup_middle, List.nodup_cons,
    List.mem_append, List.mem_append, List.nodup_append'] at once
  obtain ⟨apart, -, -, disjoint⟩ := once
  refine ⟨?_, ?_, ?_⟩
  · intro nonempty
    obtain ⟨tail, whole⟩ := shorter
    rw [← firstNode_append nonempty, whole]
    apply edge.init.begins
    rintro rfl
    exact nonempty (List.append_eq_nil_iff.mp whole).1
  · have outside : first ∉ (done ++ rest).map Prod.snd := by
      obtain ⟨-, rfl⟩ | ⟨-, member⟩ := edge.place
      · exact fun member => apart (.inr member)
      · exact disjoint (List.mem_append_right _ member)
    have sublist := ((List.drop_sublist operands.2.toList.length done).append_right rest).map
      Prod.snd
    rw [frames first (folds.size ▸ edge.bound) (mt (fun member => sublist.subset member) outside)]
    obtain ⟨rfl, rfl⟩ | ⟨nonempty, member⟩ := edge.place
    · have prev := kept.unlink.1
      rw [List.prefix_nil.mp shorter, List.append_nil, getLast_map] at prev
      exact prev
    · rw [withoutOperand_of_ne_nil operands.1 nonempty, ← edge.before]
      apply folds.frames first edge.bound
      rw [List.map_cons, List.mem_cons, not_or]
      refine ⟨?_, outside⟩
      rintro rfl
      exact apart (.inl (.inr member))
  · rw [size, folds.size]
    exact Nat.lt_succ_of_lt edge.bound

/-- An operator gives way to its operation, and the pass goes on in front of it. -/
theorem mirrors_supplantAfter {α β : Type} {related : β → α → Memory → Prop}
    {onward : Shared → Place → Run α} {expected : Option Part → Option Part → Except ParseError β}
    (barrier : Barrier context) (closed : Closed rest)
    (stands : Stands memory.list start (context ++ before) (todo ++ token :: (done ++ rest)))
    (edge : Edge memory.list first (context ++ before) (todo ++ [token]))
    (goesOn : ∀ left right operation node final,
      operation.expression = .operation left ⟨token.1.part.kind, token.1.part.render⟩ right →
      Stands final.list start (context ++ (withoutOperand left before todo).1)
        ((withoutOperand left before todo).2 ++
          ((operation.entry node :: done.drop right.toList.length) ++ rest)) →
      Edge final.list first (context ++ (withoutOperand left before todo).1)
        (withoutOperand left before todo).2 →
      Persists memory.list final.list →
      Mirrors (onward operation (lastNode (context ++ (withoutOperand left before todo).1 ++
        (withoutOperand left before todo).2))) final (expected left right) related) :
    Mirrors (do
      let operation ← fold token.2
      let _ ← edit (.insertAfter token.2 (.holding .expression (some operation)))
      onward operation (← edit (.removeInReverse token.2))) memory (do
      let left ← Tiers.leftOperand? ⟨token.1.part.kind, token.1.part.render⟩
        ((parts todo).reverse ++ (parts before).reverse).head?
      let right ← Tiers.rightOperand? ⟨token.1.part.kind, token.1.part.render⟩ (parts done).head?
      expected left right) related := by
  have represents := stands.represents
  rw [← List.append_assoc] at represents
  rw [pair_bind]
  refine (mirrors_fold barrier closed stands).bind ?_
  rintro ⟨left, right⟩ operation after - folds
  have kept := folds.stands.represents
  rw [← List.append_assoc] at kept
  obtain ⟨middle, final, inserts, removes, passage, frames, size⟩ :=
    supplantAfter_ends (.holding .expression (some operation)) kept
  apply Mirrors.step inserts
  apply Mirrors.step removes
  exact goesOn left right operation _ final folds.expression (folds.stands.passage passage)
    (edge.supplanted represents folds kept frames size) (folds.persists.trans passage.persists)

/-- The pass ends in front of the range, at its first node, which may be gone, or at the end of the
list. -/
theorem backward_ends {earlier : List Entry} (represents : memory.list.Represents (earlier ++ rest))
    (edge : memory.list.prev? first = lastNode earlier) :
    Place.backward tier (some first) last (lastNode earlier) memory = pure (last, memory) := by
  cases earlier using List.reverseRecOn with
  | nil =>
    rw [lastNode_nil, Place.backward]
    rfl
  | append_singleton earlier entry =>
    rw [List.append_assoc, List.singleton_append] at represents
    rw [lastNode_concat] at edge ⊢
    rw [Place.backward, bind_ends (cell_ends represents)]
    split
    · rfl
    · have stops : precedes entry.2 (some first) memory = pure (true, memory) := by
        show (pure (memory.list.prev? first == some entry.2, memory) :
          ExceptT Fault Option (Bool × Memory)) = _
        rw [edge, beq_self_eq_true]
      rw [bind_ends stops]
      rfl

theorem mirrors_backward (barrier : Barrier context) (closed : Closed rest)
    (stands : Stands memory.list start (context ++ before) (todo ++ (done ++ rest)))
    (inner : ∀ entry ∈ todo, entry.1.part.Inner (tier + 1))
    (held : Held last ((done ++ rest).head?.map Prod.fst))
    (edge : Edge memory.list first (context ++ before) todo) :
    Mirrors (Place.backward tier (some first) last (lastNode (context ++ before ++ todo))) memory
      (Tiers.backward tier (parts before).reverse (parts done) (last.map (·.expression))
        (parts todo).reverse) (Resolved memory start context rest) := by
  induction length : todo.length using Nat.strong_induction_on
    generalizing memory before done todo last with
  | _ size ih =>
    cases todo using List.reverseRecOn with
    | nil =>
      rw [List.append_nil]
      refine ⟨last, memory, backward_ends stands.represents edge.before,
        ⟨before, done, stands, ?_, rfl⟩, rfl, .refl _⟩
      rw [List.reverse_reverse]
    | append_singleton todo token =>
      rw [List.append_assoc, List.singleton_append] at stands
      have represents := stands.represents
      rw [← List.append_assoc] at represents
      have innerToken := inner token (by simp)
      have innerTodo : ∀ entry ∈ todo, entry.1.part.Inner (tier + 1) :=
        fun entry member => inner entry (List.mem_append_left _ member)
      have fewer : todo.length < size := by
        rw [List.length_append, List.length_singleton] at length
        omega
      have behind := represents
      rw [List.append_cons] at behind
      rw [← List.append_assoc, lastNode_concat, parts_append, List.reverse_append, parts_cons,
        parts_nil, List.reverse_singleton, List.singleton_append]
      rw [Place.backward]
      apply Mirrors.step (cell_ends represents)
      rw [innerToken.opens]
      apply Mirrors.step (edge.inside represents)
      apply Mirrors.step (mirrors_checkTier innerToken)
      cases tiered : token.1.part.kind.precedence? with
      | none =>
        rw [Tiers.backward, tiered]
        apply Mirrors.step (next_ends represents)
        refine (mirrors_visit (cellAt_firstNode behind) held (alike_after closed)
          innerToken.holds).bind ?_
        rintro _ found after - ⟨rfl, heldNow, unchanged⟩
        rw [← unchanged] at represents stands edge
        apply Mirrors.step (prev_ends represents)
        replace heldNow : Held found (((token :: done) ++ rest).head?.map Prod.fst) := heldNow
        refine (ih todo.length fewer stands innerTodo heldNow edge.init rfl).mono ?_
        exact fun _ _ _ _ resolved => resolved.of_persists (unchanged ▸ .refl _)
      | some found =>
        dsimp only
        split
        case isTrue looser =>
          rw [Tiers.backward, tiered]
          simp only [looser, if_true]
          apply Mirrors.step (prev_ends represents)
          have onward : Stands memory.list start (context ++ before)
              (todo ++ ((token :: done) ++ rest)) := stands
          exact ih todo.length fewer onward innerTodo held_none edge.init rfl
        case isFalse tight =>
          rw [Tiers.backward_operator tiered tight]
          refine mirrors_supplantAfter barrier closed stands edge ?_
          intro left right operation node final folded supplanted edgeNow persists
          have shorter := @withoutOperand_initial before todo left
          rw [withoutOperand_parts left, ← folded, ← parts_drop]
          have innerLeft : ∀ entry ∈ (withoutOperand left before todo).2,
              entry.1.part.Inner (tier + 1) :=
            fun entry member => innerTodo entry (shorter.subset member)
          refine (ih _ (Nat.lt_of_le_of_lt shorter.length_le fewer) supplanted innerLeft ?_ edgeNow
            rfl).mono ?_
          · rintro _ ⟨⟩ _ ⟨⟩
            rfl
          · intro _ _ _ _ resolved
            exact resolved.of_persists persists

end Backward

section Resolution

variable {memory : Memory} {start tier : Nat} {context earlier before seen rest : List Entry}

theorem normalize_ends {steps node : Nat} {found : Option Nat}
    (leads : memory.list.Replaced steps (some node) found) :
    Node.normalize node memory = pure (found, memory) := by
  have looks (node : Node) : removedTo node memory = pure (memory.list.removedTo? node, memory) :=
    rfl
  generalize place : some node = found? at leads
  induction leads generalizing node with
  | ended => cases place
  | live live =>
    cases place
    rw [Node.normalize, bind_ends (looks _), TokenList.removedTo_of_live live]
    rfl
  | @step _ _ next _ leads others ih =>
    cases place
    rw [Node.normalize, bind_ends (looks _), leads]
    cases next with
    | none =>
      cases others
      rfl
    | some next => exact ih rfl

theorem lastFrom_ends {entry : Entry} {later : List Entry}
    (represents : memory.list.Represents (earlier ++ entry :: later)) :
    Node.lastFrom entry.2 memory = pure (lastNode (entry :: later), memory) := by
  induction later generalizing earlier entry with
  | nil =>
    rw [Node.lastFrom, bind_ends (next_ends represents)]
    rfl
  | cons next later ih =>
    have same : lastNode (entry :: next :: later) = lastNode (next :: later) :=
      @lastNode_append [entry] (next :: later) (List.cons_ne_nil next later)
    rw [Node.lastFrom, bind_ends (next_ends represents), same]
    rw [List.append_cons] at represents
    exact ih represents

theorem lastOf_ends (represents : memory.list.Represents (before ++ (seen ++ rest)))
    (nonempty : seen ++ rest ≠ []) :
    lastOf (firstNode (seen ++ rest)) (firstNode rest) memory =
      pure (lastNode (before ++ seen), memory) := by
  cases rest with
  | nil =>
    rw [List.append_nil] at represents nonempty ⊢
    cases seen with
    | nil => exact absurd rfl nonempty
    | cons entry seen =>
      rw [lastNode_append (List.cons_ne_nil entry seen)]
      exact lastFrom_ends represents
  | cons entry rest =>
    rw [← List.append_assoc] at represents
    exact prev_ends represents

theorem ensureFolded_ends (represents : memory.list.Represents (earlier ++ (seen ++ rest)))
    (folded : ∀ entry ∈ seen, entry.1.part.Inner tier) :
    Place.ensureFolded tier (firstNode rest) (firstNode (seen ++ rest)) memory =
      pure ((), memory) := by
  induction seen generalizing earlier with
  | nil =>
    rw [List.nil_append]
    cases rest with
    | nil =>
      rw [firstNode_nil, Place.ensureFolded]
      rfl
    | cons entry rest =>
      rw [firstNode_cons, Place.ensureFolded, if_pos (beq_self_eq_true _)]
      rfl
  | cons entry seen ih =>
    obtain ⟨inner, others⟩ := List.forall_mem_cons.mp folded
    rw [List.cons_append] at represents
    rw [List.cons_append, firstNode_cons, Place.ensureFolded,
      if_neg (by simpa using ne_firstNode_rest represents), bind_ends (cell_ends represents)]
    have looser : entry.1.part.kind.precedence?.any (tier ≤ ·) = false := by
      cases tiered : entry.1.part.kind.precedence? with
      | none => rfl
      | some found =>
        have bound := inner.looser found tiered
        simpa using bound
    rw [looser, if_neg Bool.false_ne_true, bind_ends (next_ends represents)]
    rw [List.append_cons] at represents
    exact ih represents others

theorem mirrors_pass (barrier : Barrier context) (closed : Closed rest)
    (stands : Stands memory.list start (context ++ before) (seen ++ rest))
    (inner : ∀ entry ∈ seen, entry.1.part.Inner (tier + 1)) (value : Option Expression) :
    Mirrors (pass tier (firstNode (seen ++ rest)) (firstNode rest)) memory
      (Tiers.pass tier ⟨(parts before).reverse, parts seen, value⟩)
      (Resolved memory start context rest) := by
  unfold pass Tiers.pass
  cases associativity tier with
  | left =>
    have stands : Stands memory.list start (context ++ before) ([] ++ (seen ++ rest)) := stands
    exact mirrors_forward barrier closed stands inner held_none
  | right =>
    have represents := stands.represents
    cases whole : seen ++ rest with
    | nil =>
      obtain ⟨rfl, rfl⟩ := List.append_eq_nil_iff.mp whole
      refine ⟨none, memory, ?_, ⟨before, [], stands, ?_, rfl⟩, rfl, .refl _⟩
      · show Place.backward tier none none none memory = _
        rw [Place.backward]
        rfl
      · rw [List.reverse_reverse]
    | cons entry later =>
      have starts := represents
      rw [whole] at starts
      have edge := starts.unlink.1
      rw [getLast_map] at edge
      have first : firstNode (seen ++ rest) = some entry.2 := by
        rw [whole]
        rfl
      have stands : Stands memory.list start (context ++ before) (seen ++ ([] ++ rest)) := stands
      rw [← whole]
      apply Mirrors.step (lastOf_ends represents (by simp [whole]))
      rw [first]
      refine mirrors_backward barrier closed stands inner held_none
        ⟨fun nonempty => ?_, edge, starts.lt_size (by simp)⟩
      rw [← first, firstNode_append nonempty]

theorem mirrors_resolve (barrier : Barrier context) (closed : Closed rest) (tiers : Nat)
    {last : Option Shared}
    (stands : Stands memory.list start (context ++ before) (seen ++ rest))
    (inner : ∀ entry ∈ seen, entry.1.part.Inner tiers) :
    Mirrors (resolveBelow start (firstNode rest) tiers last) memory
      (Tiers.resolveBelow tiers ⟨(parts before).reverse, parts seen, last.map (·.expression)⟩)
      (Resolved memory start context rest) := by
  induction tiers generalizing memory before seen last with
  | zero =>
    refine ⟨last, memory, rfl, ⟨before, seen, stands, ?_, rfl⟩, rfl, .refl _⟩
    rw [List.reverse_reverse]
  | succ tier ih =>
    obtain ⟨steps, leads⟩ := stands.leads
    rw [resolveBelow]
    apply Mirrors.step (normalize_ends leads)
    rw [Tiers.resolveBelow, Tiers.resolveTier, bind_map]
    refine (mirrors_pass barrier closed stands inner _).bind ?_
    rintro range found after passing ⟨⟨others, kept, stands, othersSame, keptSame⟩, same, persists⟩
    have passed := Tiers.inner_pass passing fun part member => by
      obtain ⟨entry, present, rfl⟩ := List.mem_map.mp member
      exact inner entry present
    obtain ⟨steps, leads⟩ := stands.leads
    have folded : ∀ entry ∈ kept, entry.1.part.Inner tier := fun entry member =>
      passed _ (keptSame ▸ List.mem_map_of_mem member)
    apply Mirrors.step (normalize_ends leads)
    apply Mirrors.step (ensureFolded_ends stands.represents folded)
    have value : (found <|> last).map (·.expression) =
        (range.value <|> last.map (·.expression)) := by
      rw [← same]
      cases found <;> rfl
    have settled : Mirrors (resolveBelow start (firstNode rest) tier (found <|> last)) after _ _ :=
      ih stands folded
    rw [othersSame, List.reverse_reverse, keptSame, value] at settled
    exact settled.mono fun _ _ _ _ resolved => resolved.of_persists persists

end Resolution

end InPlace

end PathQuery
