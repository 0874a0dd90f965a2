import PathQuery.Proofs.TokenList

/-!
Cursors to nodes that were removed. Whatever happens to a list after a removal, the replacements
lead from the removed node to the place between what preceded it and what followed it. Main
statement: `TokenList.normalize_between`.
-/

namespace PathQuery

namespace TokenList

variable {α : Type} {list other : TokenList α} {sequence : TokenSequence α} {id : Nat}

/-- Where a removed node leads: to the node that followed it, or to the end of the list. -/
def removedTo? (list : TokenList α) (id : Nat) : Option (Option Nat) :=
  list.nodes[id]?.bind fun node => if node.removed then some node.replacement else none

/-- Whether the replacements of removed nodes lead from one place to another in so many steps, and
no further. -/
inductive Replaced (list : TokenList α) : Nat → Option Nat → Option Nat → Prop
  | ended : Replaced list 0 none none
  | live {id : Nat} : list.IsLive id → Replaced list 0 (some id) (some id)
  | step {steps id : Nat} {next found : Option Nat} : list.removedTo? id = some next →
      Replaced list steps next found → Replaced list (steps + 1) (some id) found

section Changes

variable {change : ListNode α → ListNode α} {prev next : Option Nat}

theorem removedTo_modify (keepsMark : ∀ node, (change node).removed = node.removed)
    (keeps : ∀ node, (change node).replacement = node.replacement) (node : Nat) :
    (list.modify id change).removedTo? node = list.removedTo? node := by
  simp only [removedTo?, getElem_modify]
  split
  · cases list.nodes[node]? <;> simp [keepsMark, keeps]
  · rfl

theorem removedTo_link (node : Nat) :
    (list.link prev next).removedTo? node = list.removedTo? node := by
  have leads : (list.leadTo prev next).removedTo? node = list.removedTo? node := by
    cases prev with
    | none => rfl
    | some id =>
      rw [leadTo]
      apply removedTo_modify <;> exact fun _ => rfl
  rw [link_eq, ← leads]
  cases next with
  | none => rfl
  | some id =>
    rw [leadBack]
    apply removedTo_modify <;> exact fun _ => rfl

theorem removedTo_insertBetween (part : α) (node : Nat) :
    (list.insertBetween prev next part).2.removedTo? node = list.removedTo? node := by
  rw [insertBetween_eq, removedTo_link, removedTo_link]
  simp only [removedTo?, grow, Array.getElem?_push]
  split
  · rename_i last
    rw [last, Array.getElem?_eq_none (Nat.le_refl _)]
    rfl
  · rfl

theorem removedTo_unlink (present : id < list.nodes.size) (node : Nat) :
    (list.unlink id).removedTo? node =
      if node = id then some (list.next? id) else list.removedTo? node := by
  dsimp only [unlink]
  by_cases same : node = id
  · subst same
    have still : node < (list.link (list.prev? node) (list.next? node)).nodes.size := by
      rwa [size_link]
    rw [removedTo?, getElem_modify, if_pos rfl, Array.getElem?_eq_getElem still]
    simp
  · rw [if_neg same, removedTo?, getElem_modify, if_neg (Ne.symm same)]
    exact removedTo_link node

theorem removedTo_of_live (live : list.IsLive id) : list.removedTo? id = none := by
  have unmarked := live.2
  unfold isRemoved at unmarked
  unfold removedTo?
  cases found : list.nodes[id]? with
  | none => rfl
  | some held =>
    rw [found] at unmarked
    simpa using unmarked

/-- What was removed before a node is not that node, and leads where it led. -/
theorem removedTo_unlink_of_removed (live : list.IsLive id) {node : Nat} {next : Option Nat}
    (leads : list.removedTo? node = some next) :
    (list.unlink id).removedTo? node = some next := by
  rw [removedTo_unlink live.1, if_neg, leads]
  rintro rfl
  rw [removedTo_of_live live] at leads
  cases leads

end Changes

namespace Replaced

variable {steps more : Nat} {place found last : Option Nat}

/-- Marks that stay lead on to where another list leads from the place that they led to. -/
theorem onward (replaced : list.Replaced steps place found)
    (keeps : ∀ node next, list.removedTo? node = some next → other.removedTo? node = some next)
    (further : other.Replaced more found last) : other.Replaced (steps + more) place last := by
  induction replaced with
  | ended => simpa using further
  | live => simpa using further
  | step leads _ ih =>
    rw [Nat.add_right_comm]
    apply Replaced.step (keeps _ _ leads)
    exact ih further

theorem normalizeWithin (replaced : list.Replaced steps (some id) found) {limit : Nat}
    (enough : steps < limit) : list.normalizeWithin limit id = found := by
  generalize start : some id = place at replaced
  induction replaced generalizing id limit with
  | ended => cases start
  | live live =>
    cases start
    cases limit with
    | zero => omega
    | succ limit =>
      obtain ⟨part, held⟩ := isLive_iff.mp live
      obtain ⟨node, present, same⟩ := Option.map_eq_some_iff.mp held
      simp [TokenList.normalizeWithin, present, (Prod.mk.inj same).2]
  | step leads others ih =>
    cases start
    cases limit with
    | zero => omega
    | succ limit =>
      obtain ⟨node, present, same⟩ := Option.bind_eq_some_iff.mp leads
      obtain ⟨removed, same⟩ := Option.ite_none_right_eq_some.mp same
      obtain rfl := Option.some.inj same
      simp only [TokenList.normalizeWithin, present, removed, if_true]
      cases next : node.replacement with
      | none =>
        rw [next] at others
        cases others
        rfl
      | some follower =>
        rw [Option.bind_some]
        exact ih (by omega) next.symm

end Replaced

/-- Whether a removed node leads to the place between two parts of a list, of which the first holds
none of the nodes that followed it and the second none of those that preceded it. -/
structure Brings (list : TokenList α) (ids : List Nat) (id : Nat) (before after : List Nat) :
    Prop where
  known : ∀ node ∈ before ++ after, node < list.nodes.size
  divided : ∃ steps front back, ids = front ++ back ∧
    list.Replaced steps (some id) back.head? ∧ steps + ids.length ≤ list.nodes.size ∧
      (∀ node ∈ before, node ∉ back) ∧ ∀ node ∈ after, node ∉ front

section Divisions

variable {earlier later front back : List Nat}

/-- What is new to a list belongs to its second part only if something of that part precedes it. -/
theorem exists_division_insert (whole : earlier ++ later = front ++ back) (new : Nat) :
    ∃ first second, earlier ++ new :: later = first ++ second ∧ second.head? = back.head? ∧
      (∀ node ∈ first, node = new ∨ node ∈ front) ∧ ∀ node ∈ second, node = new ∨ node ∈ back := by
  rcases List.append_eq_append_iff.mp whole with ⟨middle, rfl, rfl⟩ | ⟨middle, rfl, rfl⟩
  · refine ⟨earlier ++ new :: middle, back, by simp, rfl, ?_, fun _ => .inr⟩
    intro node member
    simp only [List.mem_append, List.mem_cons] at member ⊢
    tauto
  · cases middle with
    | nil =>
      refine ⟨front ++ [new], later, by simp, rfl, fun node member => ?_, fun _ => .inr⟩
      simpa [or_comm] using member
    | cons head middle =>
      refine ⟨front, head :: middle ++ new :: later, by simp, rfl, fun _ => .inr, ?_⟩
      intro node member
      simp only [List.mem_append, List.mem_cons] at member ⊢
      tauto

theorem exists_division_erase {gone : Nat} (whole : earlier ++ gone :: later = front ++ back) :
    ∃ first second, earlier ++ later = first ++ second ∧ first ⊆ front ∧ second ⊆ back ∧
      (second.head? = back.head? ∨ back.head? = some gone ∧ second.head? = later.head?) := by
  rcases List.append_eq_append_iff.mp whole with ⟨middle, rfl, same⟩ | ⟨middle, rfl, rfl⟩
  · cases middle with
    | nil =>
      obtain rfl : gone :: later = back := same
      exact ⟨earlier, later, rfl, by simp, by simp, .inr ⟨rfl, rfl⟩⟩
    | cons head middle =>
      obtain ⟨rfl, rfl⟩ := List.cons.inj same
      exact ⟨earlier ++ middle, back, by simp, by simp, by simp, .inl rfl⟩
  · cases middle with
    | nil => exact ⟨front, later, by simp, by simp, by simp, .inr ⟨rfl, rfl⟩⟩
    | cons head middle =>
      refine ⟨front, head :: middle ++ later, by simp, by simp, ?_, .inl rfl⟩
      exact ((List.sublist_cons_self gone later).append_left _).subset

end Divisions

section Steps

variable {before after : List Nat} {entries earlier later : List (α × Nat)} {held : α}

theorem replaced_live (represents : list.Represents entries) {front back : List Nat}
    (whole : entries.map Prod.snd = front ++ back) : list.Replaced 0 back.head? back.head? := by
  cases back with
  | nil => exact .ended
  | cons node back =>
    apply Replaced.live
    rw [← represents.mem_iff, whole]
    simp

/-- The node itself leads to what followed it when it was removed. -/
theorem brings_unlink (represents : list.Represents (earlier ++ (held, id) :: later)) :
    (list.unlink id).Brings ((earlier ++ later).map Prod.snd) id (earlier.map Prod.snd)
      (later.map Prod.snd) := by
  obtain ⟨-, next, kept⟩ := represents.unlink
  have present : id < list.nodes.size := represents.lt_size (by simp)
  have whole : (earlier ++ later).map Prod.snd = earlier.map Prod.snd ++ later.map Prod.snd := by
    simp
  have once := kept.once
  rw [whole] at once
  have apart := (List.nodup_append'.mp once).2.2
  constructor
  · intro node member
    rw [← whole] at member
    exact kept.lt_size member
  · have room := represents.length_le
    refine ⟨1, _, _, whole, ?_, ?_, fun node first second => apart first second,
      fun node second first => apart first second⟩
    · apply Replaced.step
      · rw [removedTo_unlink present, if_pos rfl]
      · rw [next]
        exact replaced_live kept whole
    · simp only [List.length_append, List.length_cons, List.length_map, size_unlink] at room ⊢
      omega

theorem Brings.insert (part : α) (represents : list.Represents (earlier ++ later))
    (brings : list.Brings ((earlier ++ later).map Prod.snd) id before after) :
    (list.insertBetween (earlier.map Prod.snd).getLast? (later.map Prod.snd).head?
      part).2.Brings ((earlier ++ (part, list.nodes.size) :: later).map Prod.snd) id before after := by
  obtain ⟨known, steps, front, back, whole, replaced, room, apartBefore, apartAfter⟩ := brings
  have fresh : ∀ node ∈ before ++ after, node ≠ list.nodes.size := fun node member =>
    Nat.ne_of_lt (known node member)
  rw [List.forall_mem_append] at fresh
  have inserted := represents.insert part
  constructor
  · intro node member
    rw [size_insertBetween]
    exact Nat.lt_succ_of_lt (known node member)
  rw [List.map_append] at whole
  obtain ⟨first, second, divided, same, inFirst, inSecond⟩ :=
    exists_division_insert whole list.nodes.size
  have split : (earlier ++ (part, list.nodes.size) :: later).map Prod.snd = first ++ second := by
    rw [← divided, List.map_append, List.map_cons]
  refine ⟨steps, first, second, split, ?_, ?_, ?_, ?_⟩
  · have live := replaced_live inserted split
    rw [same] at live ⊢
    refine replaced.onward (fun node next leads => ?_) live
    rwa [removedTo_insertBetween]
  · simp only [List.length_append, List.length_cons, List.length_map, size_insertBetween] at room ⊢
    omega
  · intro node member inside
    rcases inSecond node inside with rfl | old
    · exact fresh.1 _ member rfl
    · exact apartBefore node member old
  · intro node member inside
    rcases inFirst node inside with rfl | old
    · exact fresh.2 _ member rfl
    · exact apartAfter node member old

theorem Brings.unlink {gone : Nat} (represents : list.Represents (earlier ++ (held, gone) :: later))
    (brings : list.Brings ((earlier ++ (held, gone) :: later).map Prod.snd) id before after) :
    (list.unlink gone).Brings ((earlier ++ later).map Prod.snd) id before after := by
  obtain ⟨-, next, kept⟩ := represents.unlink
  have present : gone < list.nodes.size := represents.lt_size (by simp)
  obtain ⟨known, steps, front, back, whole, replaced, room, apartBefore, apartAfter⟩ := brings
  have keeps : ∀ node next, list.removedTo? node = some next →
      (list.unlink gone).removedTo? node = some next := fun _ _ =>
    removedTo_unlink_of_removed (represents.mem_iff.mp (by simp))
  constructor
  · intro node member
    rw [size_unlink]
    exact known node member
  rw [List.map_append, List.map_cons] at whole
  obtain ⟨first, second, divided, inFirst, inSecond, moved⟩ := exists_division_erase whole
  have split : (earlier ++ later).map Prod.snd = first ++ second := by
    rw [← divided, List.map_append]
  have live := replaced_live kept split
  have apart : (∀ node ∈ before, node ∉ second) ∧ ∀ node ∈ after, node ∉ first :=
    ⟨fun node member inside => apartBefore node member (inSecond inside),
      fun node member inside => apartAfter node member (inFirst inside)⟩
  simp only [List.length_append, List.length_cons, List.length_map] at room
  rcases moved with same | ⟨led, follows⟩
  · rw [same] at live
    refine ⟨steps, first, second, split, same ▸ replaced.onward keeps live, ?_, apart⟩
    simp only [List.length_append, List.length_map, size_unlink]
    omega
  · have step : (list.unlink gone).Replaced 1 back.head? second.head? := by
      rw [led]
      apply Replaced.step
      · rw [removedTo_unlink present, if_pos rfl]
      · rw [next, ← follows]
        exact live
    refine ⟨steps + 1, first, second, split, replaced.onward keeps step, ?_, apart⟩
    simp only [List.length_append, List.length_map, size_unlink]
    omega

end Steps

section Runs

variable {sequence : TokenSequence α} {before after : List Nat}

/-- What an edit does: it puts a new node between two parts of the list, or takes one out. -/
theorem Tracks.cases_edit (tracks : list.Tracks sequence) (edit : Edit α)
    (admitted : list.Admits edit) :
    (∃ earlier later part, sequence.entries = earlier ++ later ∧
        (list.edit edit).2 = (list.insertBetween (earlier.map Prod.snd).getLast?
          (later.map Prod.snd).head? part).2 ∧
        (sequence.edit edit).entries = earlier ++ (part, list.nodes.size) :: later) ∨
      ∃ earlier held id later, sequence.entries = earlier ++ (held, id) :: later ∧
        (list.edit edit).2 = list.unlink id ∧
        (sequence.edit edit).entries = earlier ++ later := by
  have represents := tracks.represents
  have split : ∀ id, list.IsLive id → ∃ earlier part later,
      SplitAt sequence earlier part id later := fun id live =>
    splitAt_of_mem represents.once (represents.mem_iff.mpr live)
  rw [← tracks.made]
  cases edit with
  | insertBefore id part =>
    obtain ⟨earlier, held, later, split⟩ := split id admitted
    rw [split.whole] at represents
    refine .inl ⟨earlier, (held, id) :: later, part, split.whole, ?_, split.insertBefore⟩
    rw [TokenList.edit, insertBefore, represents.unlink.1]
    rfl
  | insertAfter id part =>
    obtain ⟨earlier, held, later, split⟩ := split id admitted
    rw [split.whole] at represents
    refine .inl ⟨earlier ++ [(held, id)], later, part, by simp [split.whole], ?_,
      split.insertAfter⟩
    rw [TokenList.edit, insertAfter, represents.unlink.2.1]
    simp
  | remove id =>
    obtain ⟨earlier, held, later, split⟩ := split id admitted
    exact .inr ⟨earlier, held, id, later, split.whole, rfl, split.remove⟩
  | removeInReverse id =>
    obtain ⟨earlier, held, later, split⟩ := split id admitted
    exact .inr ⟨earlier, held, id, later, split.whole, rfl, split.remove⟩
  | pushBack part =>
    refine .inl ⟨sequence.entries, [], part, by simp, ?_, List.insertIdx_length_self ..⟩
    rw [TokenList.edit, pushBack, represents.ends.2]
    rfl

theorem Brings.edit (tracks : list.Tracks sequence) (edit : Edit α) (admitted : list.Admits edit)
    (brings : list.Brings sequence.ids id before after) :
    (list.edit edit).2.Brings (sequence.edit edit).ids id before after := by
  have represents := tracks.represents
  unfold TokenSequence.ids at brings ⊢
  rcases tracks.cases_edit edit admitted with
    ⟨earlier, later, part, whole, list_eq, entries⟩ | ⟨earlier, held, gone, later, whole, list_eq, entries⟩
  · rw [whole] at represents brings
    rw [list_eq, entries]
    exact brings.insert part represents
  · rw [whole] at represents brings
    rw [list_eq, entries]
    exact brings.unlink represents

theorem Brings.editAll (tracks : list.Tracks sequence) {edits : List (Edit α)}
    (admitted : list.AdmitsAll edits) (brings : list.Brings sequence.ids id before after) :
    (list.editAll edits).Brings (sequence.editAll edits).ids id before after := by
  induction edits generalizing list sequence with
  | nil => exact brings
  | cons edit edits ih =>
    obtain ⟨first, others⟩ := admitted
    exact ih (tracks.edit edit first).2 others (brings.edit tracks edit first)

theorem admitsAll_append {edits more : List (Edit α)} :
    list.AdmitsAll (edits ++ more) ↔
      list.AdmitsAll edits ∧ (list.editAll edits).AdmitsAll more := by
  induction edits generalizing list with
  | nil => exact (and_iff_right trivial).symm
  | cons edit edits ih =>
    rw [List.cons_append, AdmitsAll, AdmitsAll, ih, and_assoc]
    rfl

/-- A removed node is brought back to the place between the nodes that preceded it and those that
followed it when it was removed, whatever was edited since then: the answer stands after all of the
former that are left and no later than any of the latter, and without an answer none of the latter
is left. -/
theorem normalize_between (parts : List α) (edits more : List (Edit α)) (removal : Edit α) (id : Nat)
    (removes : removal = .remove id ∨ removal = .removeInReverse id)
    (admitted : (ofParts parts).AdmitsAll (edits ++ removal :: more)) :
    let list := (ofParts parts).editAll (edits ++ removal :: more)
    ∃ before after, ((ofParts parts).editAll edits).live = before ++ id :: after ∧
      (∃ steps, list.Replaced steps (some id) (list.normalize id)) ∧
      match list.normalize id with
      | some found => list.IsLive found ∧ ∃ front back, list.live = front ++ found :: back ∧
          (∀ node ∈ before, list.IsLive node → node ∈ front) ∧
          ∀ node ∈ after, list.IsLive node → node ∈ found :: back
      | none => ∀ node ∈ after, ¬list.IsLive node := by
  intro list
  obtain ⟨first, removable, others⟩ := admitsAll_append.mp admitted
  have tracks := (tracks_ofParts parts).editAll first
  have later : list = (((ofParts parts).editAll edits).edit removal).2.editAll more := by
    simp [list, editAll]
  generalize (ofParts parts).editAll edits = earlier at *
  generalize (TokenSequence.ofParts parts).editAll edits = sequence at *
  have node : earlier.IsLive id := by
    rcases removes with rfl | rfl <;> exact removable
  obtain ⟨ahead, held, behind, split⟩ :=
    splitAt_of_mem tracks.represents.once (tracks.represents.mem_iff.mpr node)
  have represents := tracks.represents
  rw [split.whole] at represents
  -- right after the removal the node leads to what followed it
  have starts : (earlier.edit removal).2.Brings (sequence.edit removal).ids id
      (ahead.map Prod.snd) (behind.map Prod.snd) := by
    have brings := brings_unlink represents
    rw [← split.remove] at brings
    rcases removes with rfl | rfl <;> exact brings
  obtain ⟨-, steps, front, back, whole, replaced, room, apartBefore, apartAfter⟩ :=
    starts.editAll (tracks.edit removal removable).2 others
  have refined := ((tracks.edit removal removable).2.editAll others).represents
  rw [← later] at replaced room refined
  have live : list.live = front ++ back := refined.live_eq.trans whole
  have answer : list.normalize id = back.head? := replaced.normalizeWithin (by omega)
  have left : ∀ node, list.IsLive node → node ∈ front ∨ node ∈ back := by
    intro node isLive
    rw [← List.mem_append, ← live, refined.live_eq]
    exact refined.mem_iff.mpr isLive
  refine ⟨ahead.map Prod.snd, behind.map Prod.snd, ?_, ⟨steps, answer ▸ replaced⟩, ?_⟩
  · rw [represents.live_eq]
    simp
  rw [answer]
  cases back with
  | nil =>
    intro node member isLive
    exact apartAfter node member ((left node isLive).resolve_right List.not_mem_nil)
  | cons found back =>
    refine ⟨?_, front, back, live, ?_, ?_⟩
    · rw [← refined.mem_iff, ← refined.live_eq, live]
      simp
    · intro node member isLive
      exact (left node isLive).resolve_right (apartBefore node member)
    · intro node member isLive
      exact (left node isLive).resolve_left (apartAfter node member)

/-- Edits after a removal: new nodes around its place, and the removal of what followed. -/
def crowd : List (Edit Nat) :=
  [.insertBefore 3 8, .removeInReverse 3, .insertAfter 0 9]

theorem normalize_between_of_crowd :
    (ofParts [1, 2, 3]).AdmitsAll ([.insertAfter 1 7] ++ .remove 1 :: crowd) ∧
      let list := (ofParts [1, 2, 3]).editAll ([.insertAfter 1 7] ++ .remove 1 :: crowd)
      list.normalize 1 = some 2 ∧ ∃ front back, list.live = front ++ 2 :: back ∧ 0 ∈ front := by
  have admitted : (ofParts [1, 2, 3]).AdmitsAll ([.insertAfter 1 7] ++ .remove 1 :: crowd) := by
    refine ⟨?_, ?_, ?_, ?_, ?_, trivial⟩ <;> exact ⟨by decide, by decide⟩
  refine ⟨admitted, ?_⟩
  intro list
  have answer : list.normalize 1 = some 2 := by decide
  obtain ⟨before, after, live, -, placed⟩ :=
    normalize_between [1, 2, 3] [.insertAfter 1 7] crowd (.remove 1) 1 (.inl rfl) admitted
  rw [answer] at placed
  obtain ⟨-, front, back, split, first, -⟩ := placed
  have preceded : 0 ∈ before := by
    have whole : ((ofParts [1, 2, 3]).editAll [.insertAfter 1 7]).live = [0, 1, 3, 2] := by
      decide
    rw [whole] at live
    cases before with
    | nil => simp at live
    | cons head before =>
      rw [List.cons_append] at live
      rw [← (List.cons.inj live).1]
      exact List.mem_cons_self
  exact ⟨answer, front, back, split, first 0 preceded ⟨by decide, by decide⟩⟩

end Runs

end TokenList

end PathQuery
