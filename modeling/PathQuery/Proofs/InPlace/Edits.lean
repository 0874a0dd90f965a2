import PathQuery.Proofs.InPlace.Analyzer

/-!
Runs against what is expected of them, and what single edits do to the nodes of the list. An edit
may only touch the nodes behind some earlier ones: in a `Passage` these give way to others, and
cursors to the first of them lead to the first of the others.
-/

namespace PathQuery.InPlace

section Runs

variable {α β γ δ : Type} {run : Run α} {memory after : Memory} {found : α}
  {expected : Except ParseError β} {related : β → α → Memory → Prop}

/-- Whether a run fails with the expected error, or ends in something that is related to the
expected value. -/
def Mirrors (run : Run α) (memory : Memory) (expected : Except ParseError β)
    (related : β → α → Memory → Prop) : Prop :=
  match expected with
  | .error error => run memory = throw (.parse error)
  | .ok value => ∃ found after, run memory = pure (found, after) ∧ related value found after

theorem bind_ends (ends : run memory = pure (found, after)) (next : α → Run γ) :
    (run >>= next) memory = next found after := by
  show (run memory >>= fun result => next result.1 result.2) = next found after
  rw [ends]
  rfl

theorem get_ends (memory : Memory) : (get : Run Memory) memory = pure (memory, memory) :=
  rfl

namespace Mirrors

theorem step {next : α → Run γ} {expected : Except ParseError δ}
    {related : δ → γ → Memory → Prop} (ends : run memory = pure (found, after))
    (rest : Mirrors (next found) after expected related) :
    Mirrors (run >>= next) memory expected related := by
  unfold Mirrors at rest ⊢
  rwa [bind_ends ends]

theorem bind {next : α → Run γ} {expectedNext : β → Except ParseError δ}
    {relatedNext : δ → γ → Memory → Prop} (first : Mirrors run memory expected related)
    (rest : ∀ value found after, expected = .ok value → related value found after →
      Mirrors (next found) after (expectedNext value) relatedNext) :
    Mirrors (run >>= next) memory (expected >>= expectedNext) relatedNext := by
  cases expected with
  | error error =>
    show (run memory >>= fun result => next result.1 result.2) = throw (.parse error)
    rw [show run memory = throw (.parse error) from first]
    rfl
  | ok value =>
    obtain ⟨found, after, ends, holds⟩ := first
    exact step ends (rest value found after rfl holds)

theorem pure {value : β} (holds : related value found memory) :
    Mirrors (pure found) memory (.ok value) related :=
  ⟨found, memory, rfl, holds⟩

theorem of_eq {other : Run α} (same : run memory = other after)
    (mirrors : Mirrors other after expected related) : Mirrors run memory expected related := by
  unfold Mirrors at mirrors ⊢
  rwa [same]

theorem mono {weaker : β → α → Memory → Prop} (mirrors : Mirrors run memory expected related)
    (implies : ∀ value found after, expected = .ok value → related value found after →
      weaker value found after) : Mirrors run memory expected weaker := by
  cases expected with
  | error => exact mirrors
  | ok value =>
    obtain ⟨found, after, ends, holds⟩ := mirrors
    exact ⟨found, after, ends, implies value found after rfl holds⟩

theorem ofParse (expected : Except ParseError α) :
    Mirrors (InPlace.ofParse expected) memory expected
      fun value found after => value = found ∧ memory = after := by
  cases expected with
  | error => rfl
  | ok value => exact ⟨value, memory, rfl, rfl, rfl⟩

end Mirrors

end Runs

/-- A cell and its node. -/
abbrev Entry := Cell × Nat

def parts (entries : List Entry) : List Part :=
  entries.map (·.1.part)

def firstNode (entries : List Entry) : Option Nat :=
  entries.head?.map Prod.snd

def lastNode (entries : List Entry) : Option Nat :=
  entries.getLast?.map Prod.snd

/-- An expression in a cell of its own. -/
def Shared.entry (shared : Shared) (node : Nat) : Entry :=
  (.holding .expression (some shared), node)

section Entries

variable {entry : Entry} {entries others : List Entry}

@[simp] theorem parts_nil : parts [] = [] := rfl

@[simp] theorem parts_cons : parts (entry :: entries) = entry.1.part :: parts entries := rfl

@[simp] theorem parts_append : parts (entries ++ others) = parts entries ++ parts others :=
  List.map_append

@[simp] theorem length_parts : (parts entries).length = entries.length :=
  List.length_map _

theorem length_le_of_suffix (suffix : parts others <:+ parts entries) :
    others.length ≤ entries.length := by
  simpa using suffix.length_le

@[simp] theorem parts_drop (count : Nat) :
    parts (entries.drop count) = (parts entries).drop count :=
  List.map_drop

@[simp] theorem firstNode_nil : firstNode [] = none := rfl

@[simp] theorem firstNode_cons : firstNode (entry :: entries) = some entry.2 := rfl

@[simp] theorem lastNode_nil : lastNode [] = none := rfl

@[simp] theorem lastNode_concat : lastNode (entries ++ [entry]) = some entry.2 := by
  simp [lastNode]

theorem firstNode_append (nonempty : entries ≠ []) :
    firstNode (entries ++ others) = firstNode entries := by
  cases entries with
  | nil => exact absurd rfl nonempty
  | cons => rfl

theorem lastNode_append (nonempty : others ≠ []) :
    lastNode (entries ++ others) = lastNode others := by
  rw [lastNode, List.getLast?_append_of_ne_nil _ nonempty]
  rfl

theorem mem_of_firstNode {id : Nat} (first : firstNode entries = some id) :
    id ∈ entries.map Prod.snd := by
  obtain ⟨entry, head, rfl⟩ := Option.map_eq_some_iff.mp first
  exact List.mem_map_of_mem (List.mem_of_head? head)

theorem ne_firstNode {id : Nat} (other : id ∉ entries.map Prod.snd) :
    some id ≠ firstNode entries :=
  fun same => other (mem_of_firstNode same.symm)

theorem ne_lastNode {id : Nat} (other : id ∉ entries.map Prod.snd) :
    lastNode entries ≠ some id := by
  intro same
  obtain ⟨entry, last, rfl⟩ := Option.map_eq_some_iff.mp same
  exact other (List.mem_map_of_mem (List.mem_of_getLast? last))

theorem head_map (entries : List Entry) : (entries.map Prod.snd).head? = firstNode entries :=
  List.head?_map

theorem getLast_map (entries : List Entry) : (entries.map Prod.snd).getLast? = lastNode entries :=
  List.getLast?_map

end Entries

/-- Whether what was removed from one list is removed from another one as well, and leads to the
same node there. -/
def Persists (list other : TokenList Cell) : Prop :=
  ∀ id next, list.removedTo? id = some next → other.removedTo? id = some next

theorem Persists.refl (list : TokenList Cell) : Persists list list :=
  fun _ _ leads => leads

theorem Persists.trans {list middle other : TokenList Cell} (first : Persists list middle)
    (second : Persists middle other) : Persists list other :=
  fun id next leads => second id next (first id next leads)

/-- Whether a node was removed from a list. -/
def Gone (list : TokenList Cell) (node : Nat) : Prop :=
  ∃ next, list.removedTo? node = some next

theorem Gone.persists {list other : TokenList Cell} {node : Nat} (gone : Gone list node)
    (persists : Persists list other) : Gone other node := by
  obtain ⟨next, leads⟩ := gone
  exact ⟨next, persists node next leads⟩

theorem Gone.not_live {list : TokenList Cell} {node : Nat} (gone : Gone list node) :
    ¬list.IsLive node := by
  intro live
  obtain ⟨next, leads⟩ := gone
  rw [TokenList.removedTo_of_live live] at leads
  cases leads

/-- Whether the nodes but those of some entries have the nodes before them that they had. -/
def Frames (list other : TokenList Cell) (changed : List Entry) : Prop :=
  ∀ id < list.nodes.size, id ∉ changed.map Prod.snd → other.prev? id = list.prev? id

/-- Whether the nodes behind some earlier ones have given way to others. -/
structure Passage (list other : TokenList Cell) (earlier old new : List Entry) : Prop where
  represents : other.Represents (earlier ++ new)
  persists : Persists list other
  leads : ∃ steps, other.Replaced steps (firstNode old) (firstNode new)

section Passages

variable {list middle other : TokenList Cell} {earlier old new later : List Entry} {entry : Entry}
  {held : Cell}

theorem replaced_first (represents : list.Represents (earlier ++ later)) :
    list.Replaced 0 (firstNode later) (firstNode later) := by
  rw [← head_map]
  exact TokenList.replaced_live represents (List.map_append ..)

theorem Passage.refl (represents : list.Represents (earlier ++ later)) :
    Passage list list earlier later later :=
  ⟨represents, .refl list, 0, replaced_first represents⟩

theorem Passage.trans {before between : List Entry} (first : Passage list middle before old between)
    (second : Passage middle other earlier between new) : Passage list other earlier old new := by
  obtain ⟨steps, leads⟩ := first.leads
  obtain ⟨more, further⟩ := second.leads
  refine ⟨second.represents, first.persists.trans second.persists, steps + more, ?_⟩
  exact leads.onward second.persists further

/-- Where the first node stays, nothing leads elsewhere. -/
theorem Passage.of_first (persists : Persists list other)
    (represents : other.Represents (earlier ++ new)) (same : firstNode old = firstNode new) :
    Passage list other earlier old new := by
  refine ⟨represents, persists, 0, ?_⟩
  rw [same]
  exact replaced_first represents

variable {memory : Memory}

theorem mem_of_middle : (entry.1, entry.2) ∈ earlier ++ entry :: later := by
  simp

theorem cell_ends (represents : memory.list.Represents (earlier ++ entry :: later)) :
    cell entry.2 memory = pure (entry.1, memory) := by
  have held := (represents.held entry.1 entry.2).mp mem_of_middle
  rw [cell, bind_ends (get_ends memory), TokenList.part_of_held held]
  rfl

theorem next_ends (represents : memory.list.Represents (earlier ++ entry :: later)) :
    next entry.2 memory = pure (firstNode later, memory) := by
  rw [← head_map, ← represents.unlink.2.1]
  rfl

theorem prev_ends (represents : memory.list.Represents (earlier ++ entry :: later)) :
    prev entry.2 memory = pure (lastNode earlier, memory) := by
  rw [← getLast_map, ← represents.unlink.1]
  rfl

theorem edit_ends (change : Edit Cell) (admitted : memory.list.Admits change) :
    edit change memory =
      pure ((memory.list.edit change).1, { memory with list := (memory.list.edit change).2 }) := by
  show (if memory.list.Admits change then _ else _ : Run (Option Nat)) memory = _
  rw [if_pos admitted]
  rfl

theorem live_of_middle (represents : list.Represents (earlier ++ entry :: later)) :
    list.IsLive entry.2 :=
  represents.mem_iff.mp (by simp)

theorem persists_unlink (live : list.IsLive entry.2) : Persists list (list.unlink entry.2) :=
  fun _ _ => TokenList.removedTo_unlink_of_removed live

theorem passage_unlink (represents : list.Represents (earlier ++ entry :: later)) :
    Passage list (list.unlink entry.2) earlier (entry :: later) later := by
  obtain ⟨-, next, kept⟩ := represents.unlink
  have live := live_of_middle represents
  refine ⟨kept, persists_unlink live, 1, ?_⟩
  apply TokenList.Replaced.step
  · rw [TokenList.removedTo_unlink live.1, if_pos rfl]
  · rw [next, head_map]
    exact replaced_first kept

theorem gone_unlink (live : list.IsLive entry.2) : Gone (list.unlink entry.2) entry.2 :=
  ⟨_, (TokenList.removedTo_unlink live.1 entry.2).trans (if_pos rfl)⟩

theorem frames_unlink (represents : list.Represents (earlier ++ entry :: later)) :
    Frames list (list.unlink entry.2) later := by
  obtain ⟨prev, next, -⟩ := represents.unlink
  have bound : ∀ id ∈ (earlier ++ entry :: later).map Prod.snd, id < list.nodes.size :=
    fun id => represents.lt_size
  simp only [List.map_append, List.map_cons] at bound
  have validPrev : list.IsPlace (list.prev? entry.2) := fun id last =>
    bound id (List.mem_append_left _ (List.mem_of_getLast? (prev ▸ last)))
  have validNext : list.IsPlace (list.next? entry.2) := fun id first =>
    bound id (List.mem_append_right _ (List.mem_cons_of_mem _ (List.mem_of_head? (next ▸ first))))
  obtain ⟨-, before, -⟩ := TokenList.unlink_spec validPrev validNext
  intro id _ other
  have same := before (some id)
  rwa [next, head_map, if_neg (ne_firstNode other)] at same

/-- A node that is inserted belongs to the earlier ones. -/
theorem passage_insert (represents : list.Represents (earlier ++ later)) (held : Cell) :
    Passage list (list.insertBetween (lastNode earlier) (firstNode later) held).2
      (earlier ++ [(held, list.nodes.size)]) later later := by
  have inserted := represents.insert held
  rw [head_map, getLast_map, List.append_cons] at inserted
  apply Passage.of_first _ inserted rfl
  intro id next leads
  rwa [TokenList.removedTo_insertBetween]

theorem frames_insert (represents : list.Represents (earlier ++ later)) (held : Cell) :
    Frames list (list.insertBetween (lastNode earlier) (firstNode later) held).2 later := by
  have bound : ∀ id ∈ (earlier ++ later).map Prod.snd, id < list.nodes.size :=
    fun id => represents.lt_size
  rw [List.map_append] at bound
  rw [← head_map, ← getLast_map]
  have validPrev : list.IsPlace (earlier.map Prod.snd).getLast? := fun id last =>
    bound id (List.mem_append_left _ (List.mem_of_getLast? last))
  have validNext : list.IsPlace (later.map Prod.snd).head? := fun id first =>
    bound id (List.mem_append_right _ (List.mem_of_head? first))
  obtain ⟨-, before, -⟩ := TokenList.insertBetween_spec validPrev validNext held
  intro id present other
  have same := before (some id)
  rw [head_map, if_neg (ne_firstNode other), if_neg] at same
  · rw [head_map]
    exact same
  · simp only [Option.some.injEq]
    omega

theorem remove_ends (represents : memory.list.Represents (earlier ++ entry :: later)) :
    edit (.remove entry.2) memory =
      pure (firstNode later, { memory with list := memory.list.unlink entry.2 }) := by
  rw [edit_ends (.remove entry.2) (live_of_middle represents), ← head_map,
    ← represents.unlink.2.1]
  rfl

theorem removeInReverse_ends (represents : memory.list.Represents (earlier ++ entry :: later)) :
    edit (.removeInReverse entry.2) memory =
      pure (lastNode earlier, { memory with list := memory.list.unlink entry.2 }) := by
  rw [edit_ends (.removeInReverse entry.2) (live_of_middle represents), ← getLast_map,
    ← represents.unlink.1]
  rfl

theorem insertBefore_ends (represents : memory.list.Represents (earlier ++ entry :: later)) :
    edit (.insertBefore entry.2 held) memory = pure (some memory.list.nodes.size,
      { memory with list :=
        (memory.list.insertBetween (lastNode earlier) (firstNode (entry :: later)) held).2 }) := by
  rw [edit_ends (.insertBefore entry.2 held) (live_of_middle represents), ← getLast_map,
    ← represents.unlink.1]
  rfl

theorem insertAfter_ends (represents : memory.list.Represents (earlier ++ entry :: later)) :
    edit (.insertAfter entry.2 held) memory = pure (some memory.list.nodes.size,
      { memory with list :=
        (memory.list.insertBetween (lastNode (earlier ++ [entry])) (firstNode later)
          held).2 }) := by
  rw [edit_ends (.insertAfter entry.2 held) (live_of_middle represents), lastNode_concat,
    ← head_map, ← represents.unlink.2.1]
  rfl

theorem pushBack_ends (represents : memory.list.Represents earlier) :
    edit (.pushBack held) memory = pure (some memory.list.nodes.size,
      { memory with list :=
        (memory.list.insertBetween (lastNode earlier) (firstNode []) held).2 }) := by
  rw [edit_ends (.pushBack held) trivial, ← getLast_map, ← represents.ends.2]
  rfl

theorem remove_passage (represents : memory.list.Represents (earlier ++ entry :: later)) :
    ∃ after, edit (.remove entry.2) memory = pure (firstNode later, after) ∧
      Passage memory.list after.list earlier (entry :: later) later ∧ Gone after.list entry.2 :=
  ⟨_, remove_ends represents, passage_unlink represents, gone_unlink (live_of_middle represents)⟩

theorem insertBefore_passage (represents : memory.list.Represents (earlier ++ entry :: later))
    (held : Cell) : ∃ after, edit (.insertBefore entry.2 held) memory =
        pure (some memory.list.nodes.size, after) ∧
      Passage memory.list after.list (earlier ++ [(held, memory.list.nodes.size)])
        (entry :: later) (entry :: later) :=
  ⟨_, insertBefore_ends represents, passage_insert represents held⟩

theorem pushBack_passage (represents : memory.list.Represents earlier) (held : Cell) :
    ∃ after, edit (.pushBack held) memory = pure (some memory.list.nodes.size, after) ∧
      Passage memory.list after.list (earlier ++ [(held, memory.list.nodes.size)]) [] [] := by
  have whole := represents
  rw [← List.append_nil earlier] at whole
  exact ⟨_, pushBack_ends represents, passage_insert whole held⟩

/-- Removing what a cursor stands at, which may be the end of the list. -/
theorem removeAt_ends (represents : memory.list.Represents (earlier ++ later)) :
    ∃ after, removeAt (firstNode later) memory = pure (firstNode (later.drop 1), after) ∧
      Passage memory.list after.list earlier later (later.drop 1) := by
  cases later with
  | nil => exact ⟨memory, rfl, .refl represents⟩
  | cons entry later => exact ⟨_, remove_ends represents, passage_unlink represents⟩

end Passages

end PathQuery.InPlace
