import Mathlib.Data.List.Perm.Subperm
import PathQuery.Proofs.TokenList.Links

/-!
Token lists as sequences. Edits of a list by its links do the same as insertions and deletions in a
sequence by positions. Main statement: `TokenList.refines_sequence`.
-/

namespace PathQuery

variable {α : Type}

/-- An edit of a list at one of its nodes, or at its end. -/
inductive Edit (α : Type) where
  | insertBefore (id : Nat) (part : α)
  | insertAfter (id : Nat) (part : α)
  | remove (id : Nat)
  | removeInReverse (id : Nat)
  | pushBack (part : α)

/-- A sequence of parts with the numbers that they were given, and how many numbers were given. -/
structure TokenSequence (α : Type) where
  entries : List (α × Nat) := []
  made : Nat := 0

namespace TokenSequence

variable (sequence : TokenSequence α)

def ofParts (parts : List α) : TokenSequence α where
  entries := parts.zipIdx
  made := parts.length

def ids : List Nat :=
  sequence.entries.map Prod.snd

def parts : List α :=
  sequence.entries.map Prod.fst

def position (id : Nat) : Nat :=
  sequence.ids.idxOf id

def insertAt (position : Nat) (part : α) : TokenSequence α where
  entries := sequence.entries.insertIdx position (part, sequence.made)
  made := sequence.made + 1

def removeAt (position : Nat) : TokenSequence α :=
  { sequence with entries := sequence.entries.eraseIdx position }

def edit : Edit α → TokenSequence α
  | .insertBefore id part => sequence.insertAt (sequence.position id) part
  | .insertAfter id part => sequence.insertAt (sequence.position id + 1) part
  | .remove id | .removeInReverse id => sequence.removeAt (sequence.position id)
  | .pushBack part => sequence.insertAt sequence.entries.length part

/-- What an edit answers: the number of the new part, or the one that follows or precedes the
removed one. -/
def answer : Edit α → Option Nat
  | .insertBefore .. | .insertAfter .. | .pushBack _ => some sequence.made
  | .remove id => sequence.ids[sequence.position id + 1]?
  | .removeInReverse id =>
      if sequence.position id = 0 then none else sequence.ids[sequence.position id - 1]?

def editAll (edits : List (Edit α)) : TokenSequence α :=
  edits.foldl edit sequence

end TokenSequence

namespace TokenList

/-- Whether a node is there and was not removed. -/
def IsLive (list : TokenList α) (id : Nat) : Prop :=
  id < list.nodes.size ∧ list.isRemoved id = false

/-- Whether an edit is at a node that was not removed, or at the end. -/
def Admits (list : TokenList α) : Edit α → Prop
  | .insertBefore id _ | .insertAfter id _ | .remove id | .removeInReverse id => list.IsLive id
  | .pushBack _ => True

/-- Edits a list, and answers the new node, or the neighbour of the removed one. -/
def edit (list : TokenList α) : Edit α → Option Nat × TokenList α
  | .insertBefore node part => (list.insertBefore node part).map some id
  | .insertAfter node part => (list.insertAfter node part).map some id
  | .remove node => list.remove node
  | .removeInReverse node => list.removeInReverse node
  | .pushBack part => (list.pushBack part).map some id

def editAll (list : TokenList α) (edits : List (Edit α)) : TokenList α :=
  edits.foldl (fun list edit => (list.edit edit).2) list

/-- Whether each of some edits is admitted after those before it. -/
def AdmitsAll (list : TokenList α) : List (Edit α) → Prop
  | [] => True
  | edit :: edits => list.Admits edit ∧ (list.edit edit).2.AdmitsAll edits

/-- Whether steps from a node on lead through the given nodes and then end. -/
inductive Leads (step : Nat → Option Nat) : Option Nat → List Nat → Prop
  | done : Leads step none []
  | step {id : Nat} {ids : List Nat} : Leads step (step id) ids → Leads step (some id) (id :: ids)

/-- Whether a list is a sequence in all that can be read from it and that edits of it answer. -/
structure Refines (list : TokenList α) (sequence : TokenSequence α) : Prop where
  forward : Leads list.next? list.head sequence.ids
  backward : Leads list.prev? list.tail sequence.ids.reverse
  live : ∀ id, id ∈ sequence.ids ↔ list.IsLive id
  once : sequence.ids.Nodup
  parts : list.parts = sequence.parts
  head : list.head = sequence.ids.head?
  tail : list.tail = sequence.ids.getLast?
  answer : ∀ edit, list.Admits edit → (list.edit edit).1 = sequence.answer edit

section Positions

variable {sequence : TokenSequence α} {earlier later : List (α × Nat)} {part new : α} {id : Nat}

theorem insertIdx_length_append {β : Type} (front back : List β) (element : β) :
    (front ++ back).insertIdx front.length element = front ++ element :: back := by
  induction front with
  | nil => rfl
  | cons first front ih =>
    rw [List.cons_append, List.length_cons, List.insertIdx_succ_cons, ih]
    rfl

/-- A sequence that is taken apart at one of its entries. -/
structure SplitAt (sequence : TokenSequence α) (earlier : List (α × Nat)) (part : α) (id : Nat)
    (later : List (α × Nat)) : Prop where
  whole : sequence.entries = earlier ++ (part, id) :: later
  position : sequence.position id = earlier.length

theorem splitAt_of_mem (once : sequence.ids.Nodup) (member : id ∈ sequence.ids) :
    ∃ earlier part later, SplitAt sequence earlier part id later := by
  obtain ⟨⟨part, node⟩, present, rfl⟩ := List.mem_map.mp member
  obtain ⟨earlier, later, whole⟩ := List.append_of_mem present
  refine ⟨earlier, part, later, whole, ?_⟩
  have ids : sequence.ids = earlier.map Prod.snd ++ node :: later.map Prod.snd := by
    simp [TokenSequence.ids, whole]
  rw [ids, List.nodup_middle, List.nodup_cons, List.mem_append, not_or] at once
  rw [TokenSequence.position, ids, List.idxOf_append_of_notMem once.1.1, List.idxOf_cons_self,
    List.length_map, Nat.add_zero]

namespace SplitAt

variable (split : SplitAt sequence earlier part id later)

include split

theorem insertBefore : (sequence.edit (.insertBefore id new)).entries =
    earlier ++ (new, sequence.made) :: (part, id) :: later := by
  rw [TokenSequence.edit, TokenSequence.insertAt, split.position, split.whole,
    insertIdx_length_append]

theorem insertAfter : (sequence.edit (.insertAfter id new)).entries =
    (earlier ++ [(part, id)]) ++ (new, sequence.made) :: later := by
  have length : (earlier ++ [(part, id)]).length = earlier.length + 1 := by simp
  rw [TokenSequence.edit, TokenSequence.insertAt, split.position, split.whole, ← length,
    List.append_cons, insertIdx_length_append]

theorem remove : (sequence.removeAt (sequence.position id)).entries = earlier ++ later := by
  rw [TokenSequence.removeAt, split.position, split.whole,
    List.eraseIdx_append_of_length_le (Nat.le_refl _), Nat.sub_self]
  rfl

theorem ids : sequence.ids = earlier.map Prod.snd ++ id :: later.map Prod.snd := by
  simp [TokenSequence.ids, split.whole]

theorem following : sequence.answer (.remove id) = (later.map Prod.snd).head? := by
  rw [TokenSequence.answer, split.position, split.ids, List.getElem?_append_right (by simp)]
  simp [List.head?_eq_getElem?]

theorem preceding : sequence.answer (.removeInReverse id) = (earlier.map Prod.snd).getLast? := by
  rw [TokenSequence.answer, split.position, split.ids]
  cases earlier using List.reverseRecOn with
  | nil => rfl
  | append_singleton earlier entry => simp

end SplitAt

end Positions

section Reading

variable {list : TokenList α} {entries : List (α × Nat)} {ids : List Nat} {start : Option Nat}

theorem leads_of_trailing (chain : (trailing ids).IsChain list.Joined) :
    Leads list.next? ids.head? ids := by
  induction ids with
  | nil => exact .done
  | cons id ids ih =>
    have whole : trailing (id :: ids) = some id :: ids.head? :: (trailing ids).tail := by
      rw [← trailing_eq]
      rfl
    rw [whole, List.isChain_cons_cons, ← trailing_eq] at chain
    have next : list.next? id = ids.head? := chain.1.1
    refine .step ?_
    rw [next]
    exact ih chain.2

theorem leads_of_leading (chain : (leading ids).IsChain list.Joined) :
    Leads list.prev? ids.getLast? ids.reverse := by
  induction ids using List.reverseRecOn with
  | nil => exact .done
  | append_singleton ids id ih =>
    have whole : leading (ids ++ [id]) = leading ids ++ [some id] := by simp [leading]
    rw [whole, List.isChain_append] at chain
    have prev : list.prev? id = ids.getLast? :=
      (chain.2.2 _ (by rw [leading_eq, List.getLast?_concat]; rfl) _ rfl).2
    rw [List.getLast?_concat, List.reverse_append, List.reverse_singleton]
    refine .step ?_
    rw [prev]
    exact ih chain.1

theorem walk_of_leads {limit : Nat} (leads : Leads list.next? start ids)
    (enough : ids.length ≤ limit) : list.walk limit start = ids := by
  induction leads generalizing limit with
  | done => cases limit <;> rfl
  | step leads ih =>
    cases limit with
    | zero => cases enough
    | succ limit => rw [walk, ih (Nat.le_of_succ_le_succ enough)]

theorem isLive_iff {id : Nat} : list.IsLive id ↔ ∃ part, list.held? id = some (part, false) := by
  unfold IsLive isRemoved held?
  by_cases present : id < list.nodes.size
  · simp [present]
  · simp [present]

theorem part_of_held {id : Nat} {part : α} {removed : Bool}
    (held : list.held? id = some (part, removed)) : list.part? id = some part := by
  obtain ⟨node, present, same⟩ := Option.map_eq_some_iff.mp held
  rw [part?, present, Option.map_some, (Prod.mk.inj same).1]

namespace Represents

variable (represents : list.Represents entries)

include represents

theorem mem_iff {id : Nat} : id ∈ entries.map Prod.snd ↔ list.IsLive id := by
  rw [isLive_iff, List.mem_map]
  constructor
  · rintro ⟨⟨part, id⟩, member, rfl⟩
    exact ⟨part, (represents.held part id).mp member⟩
  · rintro ⟨part, held⟩
    exact ⟨(part, id), (represents.held part id).mpr held, rfl⟩

theorem ends : list.head = (entries.map Prod.snd).head? ∧
    list.tail = (entries.map Prod.snd).getLast? := by
  have linked := represents.linked
  constructor
  · rw [path, trailing_eq, List.isChain_cons_cons] at linked
    exact linked.1.1
  · have whole : path (entries.map Prod.snd) = leading (entries.map Prod.snd) ++ [none] := rfl
    rw [whole, List.isChain_append] at linked
    exact (linked.2.2 _ (by rw [leading_eq, List.getLast?_concat]; rfl) _ rfl).2

theorem forward : Leads list.next? list.head (entries.map Prod.snd) := by
  rw [represents.ends.1]
  exact leads_of_trailing (List.isChain_of_isChain_cons represents.linked)

theorem backward : Leads list.prev? list.tail (entries.map Prod.snd).reverse := by
  rw [represents.ends.2]
  have whole : path (entries.map Prod.snd) = leading (entries.map Prod.snd) ++ [none] := rfl
  have linked := represents.linked
  rw [whole, List.isChain_append] at linked
  exact leads_of_leading linked.1

theorem length_le : entries.length ≤ list.nodes.size := by
  have inside : entries.map Prod.snd ⊆ List.range list.nodes.size := fun id member =>
    List.mem_range.mpr (represents.lt_size member)
  simpa using (List.subperm_of_subset represents.once inside).length_le

theorem live_eq : list.live = entries.map Prod.snd := by
  apply walk_of_leads represents.forward
  rw [List.length_map]
  exact represents.length_le

theorem parts_eq : list.parts = entries.map Prod.fst := by
  rw [parts, represents.live_eq, List.filterMap_map, ← List.filterMap_eq_map]
  refine List.filterMap_congr fun entry member => ?_
  exact part_of_held ((represents.held entry.1 entry.2).mp member)

end Represents

end Reading

section Steps

variable {list : TokenList α} {sequence : TokenSequence α}

/-- Whether a list has the nodes of a sequence, and as many nodes as numbers were given. -/
structure Tracks (list : TokenList α) (sequence : TokenSequence α) : Prop where
  represents : list.Represents sequence.entries
  made : sequence.made = list.nodes.size

theorem Tracks.made_edit (tracks : list.Tracks sequence) (edit : Edit α) :
    (sequence.edit edit).made = (list.edit edit).2.nodes.size := by
  have made := tracks.made
  cases edit <;>
    simp [TokenSequence.edit, TokenSequence.insertAt, TokenSequence.removeAt, edit, insertBefore,
      insertAfter, pushBack, remove, removeInReverse, made]

theorem Tracks.edit (tracks : list.Tracks sequence) (edit : Edit α)
    (admitted : list.Admits edit) :
    (list.edit edit).1 = sequence.answer edit ∧ (list.edit edit).2.Tracks (sequence.edit edit) := by
  have split : ∀ id, list.IsLive id → ∃ earlier part later,
      SplitAt sequence earlier part id later := fun id live =>
    splitAt_of_mem tracks.represents.once (tracks.represents.mem_iff.mpr live)
  have represents := tracks.represents
  cases edit with
  | insertBefore id part =>
    obtain ⟨earlier, held, later, split⟩ := split id admitted
    rw [split.whole] at represents
    have grown := represents.insert part
    rw [List.map_cons, List.head?_cons, ← represents.unlink.1, ← tracks.made,
      ← split.insertBefore] at grown
    exact ⟨congrArg some tracks.made.symm, grown, tracks.made_edit _⟩
  | insertAfter id part =>
    obtain ⟨earlier, held, later, split⟩ := split id admitted
    rw [split.whole] at represents
    have next := represents.unlink.2.1
    rw [List.append_cons] at represents
    have grown := represents.insert part
    rw [List.map_append, List.map_singleton, List.getLast?_concat, ← next, ← tracks.made,
      ← split.insertAfter] at grown
    exact ⟨congrArg some tracks.made.symm, grown, tracks.made_edit _⟩
  | remove id =>
    obtain ⟨earlier, held, later, split⟩ := split id admitted
    rw [split.whole] at represents
    obtain ⟨prev, next, kept⟩ := represents.unlink
    rw [← split.remove] at kept
    exact ⟨next.trans split.following.symm, kept, tracks.made_edit _⟩
  | removeInReverse id =>
    obtain ⟨earlier, held, later, split⟩ := split id admitted
    rw [split.whole] at represents
    obtain ⟨prev, next, kept⟩ := represents.unlink
    rw [← split.remove] at kept
    exact ⟨prev.trans split.preceding.symm, kept, tracks.made_edit _⟩
  | pushBack part =>
    have last := represents.ends.2
    rw [← List.append_nil sequence.entries] at represents
    have grown := represents.insert part
    rw [List.map_nil, List.head?_nil, ← last, ← tracks.made, ← List.insertIdx_length_self] at grown
    exact ⟨congrArg some tracks.made.symm, grown, tracks.made_edit _⟩

theorem Tracks.editAll (tracks : list.Tracks sequence) {edits : List (Edit α)}
    (admitted : list.AdmitsAll edits) :
    (list.editAll edits).Tracks (sequence.editAll edits) := by
  induction edits generalizing list sequence with
  | nil => exact tracks
  | cons edit edits ih =>
    obtain ⟨first, others⟩ := admitted
    exact ih (tracks.edit edit first).2 others

theorem tracks_ofParts (parts : List α) : (ofParts parts).Tracks (.ofParts parts) := by
  induction parts using List.reverseRecOn with
  | nil =>
    refine ⟨⟨.cons_cons ⟨rfl, rfl⟩ (.singleton _), .nil, ?_⟩, rfl⟩
    simp [TokenSequence.ofParts, held?, ofParts]
  | append_singleton parts part ih =>
    have pushed := (ih.edit (.pushBack part) trivial).2
    have list : ofParts (parts ++ [part]) = ((ofParts parts).edit (.pushBack part)).2 := by
      simp [ofParts, edit]
    have sequence : TokenSequence.ofParts (parts ++ [part]) =
        (TokenSequence.ofParts parts).edit (.pushBack part) := by
      simp only [TokenSequence.edit, TokenSequence.insertAt, List.insertIdx_length_self]
      simp [TokenSequence.ofParts, List.zipIdx_append]
    rwa [list, sequence]

theorem Tracks.refines (tracks : list.Tracks sequence) : list.Refines sequence where
  forward := tracks.represents.forward
  backward := tracks.represents.backward
  live _ := tracks.represents.mem_iff
  once := tracks.represents.once
  parts := tracks.represents.parts_eq
  head := tracks.represents.ends.1
  tail := tracks.represents.ends.2
  answer _ admitted := (tracks.edit _ admitted).1

/-- A list that is edited at nodes that were not removed is the sequence that the same edits make:
the links lead through it in both directions and then end, its nodes are those that were not
removed, and removals answer its neighbours. -/
theorem refines_sequence (parts : List α) (edits : List (Edit α))
    (admitted : (ofParts parts).AdmitsAll edits) :
    ((ofParts parts).editAll edits).Refines ((TokenSequence.ofParts parts).editAll edits) :=
  ((tracks_ofParts parts).editAll admitted).refines

/-- Edits that leave nothing of a list and start it again. -/
def restart : List (Edit Nat) :=
  [.remove 0, .removeInReverse 1, .pushBack 3, .insertBefore 2 4, .insertAfter 2 5,
    .removeInReverse 2]

theorem refines_of_restart : (ofParts [1, 2]).AdmitsAll restart ∧
    ((ofParts [1, 2]).editAll restart).Refines ((TokenSequence.ofParts [1, 2]).editAll restart) ∧
    ((ofParts [1, 2]).editAll restart).parts = [4, 5] := by
  have admitted : (ofParts [1, 2]).AdmitsAll restart := by
    refine ⟨?_, ?_, trivial, ?_, ?_, ?_, trivial⟩ <;> exact ⟨by decide, by decide⟩
  have refines := refines_sequence [1, 2] restart admitted
  exact ⟨admitted, refines, refines.parts.trans (by decide)⟩

end Steps

end TokenList

end PathQuery
