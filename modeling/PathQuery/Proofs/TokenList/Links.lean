import Mathlib.Data.List.Chain
import Mathlib.Data.List.Induction
import Mathlib.Data.List.Nodup
import Mathlib.Data.Option.Basic
import PathQuery.TokenList

/-!
The links of a token list. The ends of a list count as one more place, before its first node and
after its last one, so that the links lead from place to place in both directions. Main statements:
`Represents.insert` and `Represents.unlink`.
-/

namespace PathQuery

namespace TokenList

variable {α : Type} {list other : TokenList α} {prev next place : Option Nat} {id : Nat}
  {part : α} {front back ids : List Nat}

/-- The place after a place, which is a node or, as `none`, the ends of the list. -/
def after? (list : TokenList α) : Option Nat → Option Nat
  | none => list.head
  | some id => list.next? id

/-- The place before a place. -/
def before? (list : TokenList α) : Option Nat → Option Nat
  | none => list.tail
  | some id => list.prev? id

/-- The part of a node, and whether the node was removed. -/
def held? (list : TokenList α) (id : Nat) : Option (α × Bool) :=
  list.nodes[id]?.map fun node => (node.part, node.removed)

/-- Whether a place is the ends of a list or one of its nodes, removed ones included. -/
def IsPlace (list : TokenList α) (place : Option Nat) : Prop :=
  ∀ id ∈ place, id < list.nodes.size

/-- Whether the links lead from one place to another and back. -/
def Joined (list : TokenList α) (place next : Option Nat) : Prop :=
  list.after? place = next ∧ list.before? next = place

section Modification

variable {change : ListNode α → ListNode α}

@[simp] theorem size_modify : (list.modify id change).nodes.size = list.nodes.size := by
  simp [modify]

theorem getElem_modify (node : Nat) :
    (list.modify id change).nodes[node]? =
      if id = node then list.nodes[node]?.map change else list.nodes[node]? := by
  simp [modify, Array.getElem?_modify]

theorem held_modify (keepsPart : ∀ node, (change node).part = node.part)
    (keepsMark : ∀ node, (change node).removed = node.removed) (node : Nat) :
    (list.modify id change).held? node = list.held? node := by
  simp only [held?, getElem_modify]
  split
  · cases list.nodes[node]? <;> simp [keepsPart, keepsMark]
  · rfl

theorem after_modify (keeps : ∀ node, (change node).next = node.next) (place : Option Nat) :
    (list.modify id change).after? place = list.after? place := by
  cases place with
  | none => rfl
  | some node =>
    simp only [after?, next?, getElem_modify]
    split
    · cases list.nodes[node]? <;> simp [keeps]
    · rfl

theorem before_modify (keeps : ∀ node, (change node).prev = node.prev) (place : Option Nat) :
    (list.modify id change).before? place = list.before? place := by
  cases place with
  | none => rfl
  | some node =>
    simp only [before?, prev?, getElem_modify]
    split
    · cases list.nodes[node]? <;> simp [keeps]
    · rfl

end Modification

section Link

/-- Makes one place follow another, in this direction only. -/
def leadTo (list : TokenList α) (prev next : Option Nat) : TokenList α :=
  match prev with
  | some id => list.modify id fun node => { node with next }
  | none => { list with head := next }

/-- Makes one place precede another, in this direction only. -/
def leadBack (list : TokenList α) (prev next : Option Nat) : TokenList α :=
  match next with
  | some id => list.modify id fun node => { node with prev }
  | none => { list with tail := prev }

theorem link_eq (prev next : Option Nat) :
    list.link prev next = (list.leadTo prev next).leadBack prev next := by
  cases prev <;> cases next <;> rfl

@[simp] theorem size_leadTo : (list.leadTo prev next).nodes.size = list.nodes.size := by
  cases prev <;> simp [leadTo]

@[simp] theorem size_leadBack : (list.leadBack prev next).nodes.size = list.nodes.size := by
  cases next <;> simp [leadBack]

@[simp] theorem size_link : (list.link prev next).nodes.size = list.nodes.size := by
  rw [link_eq, size_leadBack, size_leadTo]

theorem held_link (node : Nat) : (list.link prev next).held? node = list.held? node := by
  have leads : (list.leadTo prev next).held? node = list.held? node := by
    cases prev with
    | none => rfl
    | some id =>
      rw [leadTo]
      refine held_modify ?_ ?_ node <;> exact fun _ => rfl
  rw [link_eq, ← leads]
  cases next with
  | none => rfl
  | some id =>
    rw [leadBack]
    refine held_modify ?_ ?_ node <;> exact fun _ => rfl

theorem after_leadTo (valid : list.IsPlace prev) (place : Option Nat) :
    (list.leadTo prev next).after? place = if place = prev then next else list.after? place := by
  cases prev with
  | none => cases place <;> rfl
  | some id =>
    have present : id < list.nodes.size := valid id rfl
    cases place with
    | none => rfl
    | some node =>
      simp only [leadTo, after?, next?, getElem_modify, Option.some.injEq]
      by_cases same : node = id
      · simp [same, present]
      · simp [same, Ne.symm same]

theorem before_leadBack (valid : list.IsPlace next) (place : Option Nat) :
    (list.leadBack prev next).before? place =
      if place = next then prev else list.before? place := by
  cases next with
  | none => cases place <;> rfl
  | some id =>
    have present : id < list.nodes.size := valid id rfl
    cases place with
    | none => rfl
    | some node =>
      simp only [leadBack, before?, prev?, getElem_modify, Option.some.injEq]
      by_cases same : node = id
      · simp [same, present]
      · simp [same, Ne.symm same]

theorem after_leadBack (place : Option Nat) :
    (list.leadBack prev next).after? place = list.after? place := by
  cases next with
  | none => cases place <;> rfl
  | some id =>
    rw [leadBack]
    refine after_modify ?_ place
    exact fun _ => rfl

theorem before_leadTo (place : Option Nat) :
    (list.leadTo prev next).before? place = list.before? place := by
  cases prev with
  | none => cases place <;> rfl
  | some id =>
    rw [leadTo]
    refine before_modify ?_ place
    exact fun _ => rfl

theorem after_link (valid : list.IsPlace prev) (place : Option Nat) :
    (list.link prev next).after? place = if place = prev then next else list.after? place := by
  rw [link_eq, after_leadBack, after_leadTo valid]

theorem before_link (valid : list.IsPlace next) (place : Option Nat) :
    (list.link prev next).before? place = if place = next then prev else list.before? place := by
  have still : (list.leadTo prev next).IsPlace next := by simpa [IsPlace] using valid
  rw [link_eq, before_leadBack still, before_leadTo]

end Link

section Growth

variable {node : ListNode α}

/-- Adds a node that no link leads to. -/
def grow (list : TokenList α) (node : ListNode α) : TokenList α :=
  { list with nodes := list.nodes.push node }

theorem insertBetween_eq (list : TokenList α) (prev next : Option Nat) (part : α) :
    list.insertBetween prev next part =
      (list.nodes.size, ((list.grow { part, prev, next }).link prev (some list.nodes.size)).link
        (some list.nodes.size) next) := by
  rfl

@[simp] theorem size_grow : (list.grow node).nodes.size = list.nodes.size + 1 := by
  simp [grow]

theorem after_grow (place : Option Nat) :
    (list.grow node).after? place =
      if place = some list.nodes.size then node.next else list.after? place := by
  cases place with
  | none => rfl
  | some id =>
    simp only [grow, after?, next?, Array.getElem?_push, Option.some.injEq]
    split <;> rfl

theorem before_grow (place : Option Nat) :
    (list.grow node).before? place =
      if place = some list.nodes.size then node.prev else list.before? place := by
  cases place with
  | none => rfl
  | some id =>
    simp only [grow, before?, prev?, Array.getElem?_push, Option.some.injEq]
    split <;> rfl

theorem held_grow (id : Nat) :
    (list.grow node).held? id =
      if id = list.nodes.size then some (node.part, node.removed) else list.held? id := by
  simp only [grow, held?, Array.getElem?_push]
  split <;> rfl

theorem IsPlace.grow (valid : list.IsPlace place) (node : ListNode α) :
    (list.grow node).IsPlace place := by
  intro id member
  rw [size_grow]
  exact Nat.lt_succ_of_lt (valid id member)

end Growth

section Edits

@[simp] theorem size_insertBetween :
    (list.insertBetween prev next part).2.nodes.size = list.nodes.size + 1 := by
  simp [insertBetween_eq]

@[simp] theorem size_unlink : (list.unlink id).nodes.size = list.nodes.size := by
  simp [unlink]

/-- What an insertion changes: the links of the new node and those to it. -/
theorem insertBetween_spec (validPrev : list.IsPlace prev) (validNext : list.IsPlace next)
    (part : α) :
    let id := list.nodes.size
    let after := (list.insertBetween prev next part).2
    (∀ place, after.after? place =
        if place = some id then next else if place = prev then some id else list.after? place) ∧
      (∀ place, after.before? place =
        if place = next then some id else if place = some id then prev else list.before? place) ∧
      ∀ node, after.held? node = if node = id then some (part, false) else list.held? node := by
  intro id after
  have new : (list.grow { part, prev, next }).IsPlace (some id) := by
    rintro _ ⟨⟩
    simp [id]
  have grownPrev := validPrev.grow { part, prev, next }
  have grownNext := validNext.grow { part, prev, next }
  have placed : ∀ {place before behind}, (list.grow { part, prev, next }).IsPlace place →
      ((list.grow { part, prev, next }).link before behind).IsPlace place := by
    intro place before behind valid
    simpa [IsPlace] using valid
  unfold after
  rw [insertBetween_eq]
  refine ⟨fun place => ?_, fun place => ?_, fun node => ?_⟩
  · rw [after_link (placed new), after_link grownPrev, after_grow]
    split <;> rfl
  · rw [before_link (placed grownNext), before_link new, before_grow]
    grind
  · rw [held_link, held_link, held_grow]

/-- What a removal changes: the links around the node, and its mark. -/
theorem unlink_spec (validPrev : list.IsPlace (list.prev? id))
    (validNext : list.IsPlace (list.next? id)) :
    (∀ place, (list.unlink id).after? place =
        if place = list.prev? id then list.next? id else list.after? place) ∧
      (∀ place, (list.unlink id).before? place =
        if place = list.next? id then list.prev? id else list.before? place) ∧
      ∀ node, (list.unlink id).held? node =
        if node = id then (list.held? id).map fun held => (held.1, true) else list.held? node := by
  dsimp only [unlink]
  refine ⟨fun place => ?_, fun place => ?_, fun node => ?_⟩
  · rw [after_modify, after_link validPrev]
    exact fun _ => rfl
  · rw [before_modify, before_link validNext]
    exact fun _ => rfl
  · rw [held?, getElem_modify]
    by_cases same : node = id
    · subst same
      have still : (list.link (list.prev? node) (list.next? node)).held? node = list.held? node :=
        held_link node
      rw [if_pos rfl, if_pos rfl, ← still, held?, Option.map_map, Option.map_map]
      rfl
    · rw [if_neg same, if_neg (Ne.symm same), ← held?, held_link]

end Edits

section Paths

variable {R S : Option Nat → Option Nat → Prop} {entries : List (α × Nat)}

/-- The places from the ends of the list through some nodes. -/
def leading (ids : List Nat) : List (Option Nat) :=
  none :: ids.map some

/-- The places through some nodes to the ends of the list. -/
def trailing (ids : List Nat) : List (Option Nat) :=
  ids.map some ++ [none]

theorem leading_eq (ids : List Nat) :
    leading ids = (leading ids).dropLast ++ [ids.getLast?] := by
  induction ids using List.reverseRecOn with
  | nil => rfl
  | append_singleton ids id =>
    have whole : leading (ids ++ [id]) = leading ids ++ [some id] := by simp [leading]
    rw [whole, List.dropLast_concat, List.getLast?_concat]

theorem trailing_eq (ids : List Nat) : trailing ids = ids.head? :: (trailing ids).tail := by
  cases ids <;> rfl

/-- The places from the ends of the list through all nodes and back to the ends. -/
def path (ids : List Nat) : List (Option Nat) :=
  none :: trailing ids

theorem path_append (front back : List Nat) :
    path (front ++ back) = leading front ++ trailing back := by
  simp [path, leading, trailing]

theorem isChain_append : (path (front ++ back)).IsChain R ↔
    (leading front).IsChain R ∧ R front.getLast? back.head? ∧ (trailing back).IsChain R := by
  rw [path_append, List.isChain_append, leading_eq front, trailing_eq back]
  simp only [List.getLast?_concat, List.head?_cons, Option.mem_some, forall_eq']
  tauto

theorem isChain_middle : (path (front ++ id :: back)).IsChain R ↔
    (leading front).IsChain R ∧ R front.getLast? (some id) ∧ R (some id) back.head? ∧
      (trailing back).IsChain R := by
  have tail : trailing (id :: back) = some id :: trailing back := rfl
  rw [isChain_append, tail, List.isChain_cons, trailing_eq back]
  simp

theorem nodup_leading (once : ids.Nodup) : (leading ids).Nodup := by
  simpa [leading] using once.map (Option.some_injective Nat)

theorem nodup_trailing (once : ids.Nodup) : (trailing ids).Nodup := by
  have apart := List.nodup_append_comm.mp (nodup_leading once : ([none] ++ ids.map some).Nodup)
  exact apart

theorem isChain_of_inner {places : List (Option Nat)} (chain : places.IsChain R)
    (keeps : ∀ place ∈ places.dropLast, ∀ next ∈ places.tail, R place next → S place next) :
    places.IsChain S := by
  induction places with
  | nil => exact .nil
  | cons first places ih =>
    cases places with
    | nil => exact .singleton first
    | cons second places =>
      rw [List.isChain_cons_cons] at chain ⊢
      refine ⟨keeps first (by simp) second (by simp) chain.1, ih chain.2 ?_⟩
      intro place inside next behind
      exact keeps place (by simp [inside]) next (List.mem_of_mem_tail behind)

/-- When links change only between two parts of a path, those within the parts stay. -/
theorem isChain_frame (list other : TokenList α) (once : (front ++ back).Nodup)
    (after : ∀ place ∈ path (front ++ back), place ≠ front.getLast? →
      other.after? place = list.after? place)
    (before : ∀ place ∈ path (front ++ back), place ≠ back.head? →
      other.before? place = list.before? place) :
    ((leading front).IsChain list.Joined → (leading front).IsChain other.Joined) ∧
      ((trailing back).IsChain list.Joined → (trailing back).IsChain other.Joined) := by
  obtain ⟨onceFront, onceBack, apart⟩ := List.nodup_append'.mp once
  rw [path_append] at after before
  have keeps : ∀ {place following}, place ∈ leading front ++ trailing back →
      following ∈ leading front ++ trailing back → place ≠ front.getLast? →
      following ≠ back.head? → list.Joined place following → other.Joined place following := by
    intro place following member memberNext last first joined
    exact ⟨(after place member last).trans joined.1,
      (before following memberNext first).trans joined.2⟩
  constructor
  · intro chain
    refine isChain_of_inner chain fun place inside following behind => ?_
    refine keeps (List.mem_append_left _ (List.dropLast_subset _ inside))
      (List.mem_append_left _ (List.mem_of_mem_tail behind)) ?_ ?_
    · rintro rfl
      have once := nodup_leading onceFront
      rw [leading_eq front] at once
      exact (List.nodup_append'.mp once).2.2 inside (List.mem_singleton_self _)
    · intro same
      obtain ⟨id, member, rfl⟩ := List.mem_map.mp (behind : following ∈ front.map some)
      exact apart member (List.mem_of_head? same.symm)
  · intro chain
    refine isChain_of_inner chain fun place inside following behind => ?_
    refine keeps (List.mem_append_right _ (List.dropLast_subset _ inside))
      (List.mem_append_right _ (List.mem_of_mem_tail behind)) ?_ ?_
    · intro same
      rw [trailing, List.dropLast_concat] at inside
      obtain ⟨id, member, rfl⟩ := List.mem_map.mp inside
      exact apart (List.mem_of_getLast? same.symm) member
    · rintro rfl
      have once := nodup_trailing onceBack
      rw [trailing_eq back] at once
      exact (List.nodup_cons.mp once).1 behind

end Paths

/-- Whether the nodes of a list that were not removed are the given ones, in this order, with these
parts. -/
structure Represents (list : TokenList α) (entries : List (α × Nat)) : Prop where
  linked : (path (entries.map Prod.snd)).IsChain list.Joined
  once : (entries.map Prod.snd).Nodup
  held : ∀ part id, (part, id) ∈ entries ↔ list.held? id = some (part, false)

namespace Represents

variable {entries earlier later : List (α × Nat)}

theorem lt_size (represents : list.Represents entries) {id : Nat}
    (member : id ∈ entries.map Prod.snd) : id < list.nodes.size := by
  obtain ⟨⟨part, node⟩, present, rfl⟩ := List.mem_map.mp member
  have held := (represents.held part node).mp present
  by_contra outside
  rw [held?, Array.getElem?_eq_none (Nat.le_of_not_lt outside)] at held
  cases held

/-- A node that is inserted between two parts of a list stands between them. -/
theorem insert (represents : list.Represents (earlier ++ later)) (part : α) :
    (list.insertBetween (earlier.map Prod.snd).getLast? (later.map Prod.snd).head?
      part).2.Represents (earlier ++ (part, list.nodes.size) :: later) := by
  have linked := represents.linked
  have once := represents.once
  have bound : ∀ id ∈ (earlier ++ later).map Prod.snd, id < list.nodes.size :=
    fun id => represents.lt_size
  rw [List.map_append] at linked once bound
  have fresh : list.nodes.size ∉ earlier.map Prod.snd ++ later.map Prod.snd := fun member =>
    Nat.lt_irrefl _ (bound _ member)
  obtain ⟨leads, -, trails⟩ := isChain_append.mp linked
  have validPrev : list.IsPlace (earlier.map Prod.snd).getLast? := fun id last =>
    bound id (List.mem_append_left _ (List.mem_of_getLast? last))
  have validNext : list.IsPlace (later.map Prod.snd).head? := fun id first =>
    bound id (List.mem_append_right _ (List.mem_of_head? first))
  obtain ⟨after, before, held⟩ := insertBetween_spec validPrev validNext part
  have old : ∀ place ∈ path (earlier.map Prod.snd ++ later.map Prod.snd),
      place ≠ some list.nodes.size := by
    rintro place member rfl
    exact fresh (by simpa [path, trailing] using member)
  generalize list.insertBetween (earlier.map Prod.snd).getLast? (later.map Prod.snd).head? part =
    inserted at *
  obtain ⟨keepsLeads, keepsTrails⟩ := isChain_frame list inserted.2 once
    (fun place member last => by rw [after, if_neg (old place member), if_neg last])
    (fun place member first => by rw [before, if_neg first, if_neg (old place member)])
  have newPrev : (earlier.map Prod.snd).getLast? ≠ some list.nodes.size := fun same =>
    Nat.lt_irrefl _ (validPrev _ same)
  have newNext : (later.map Prod.snd).head? ≠ some list.nodes.size := fun same =>
    Nat.lt_irrefl _ (validNext _ same)
  constructor
  · rw [List.map_append, List.map_cons, isChain_middle]
    refine ⟨keepsLeads leads, ⟨?_, ?_⟩, ⟨?_, ?_⟩, keepsTrails trails⟩
    · rw [after, if_neg newPrev, if_pos rfl]
    · rw [before, if_neg (Ne.symm newNext), if_pos rfl]
    · rw [after, if_pos rfl]
    · rw [before, if_pos rfl]
  · rw [List.map_append, List.map_cons, List.nodup_middle]
    exact List.nodup_cons.mpr ⟨fresh, once⟩
  · intro other id
    have stale : (other, list.nodes.size) ∉ earlier ++ later := fun member =>
      fresh (by simpa using List.mem_map_of_mem (f := Prod.snd) member)
    rw [held, List.mem_append, List.mem_cons, or_left_comm, ← List.mem_append]
    by_cases same : id = list.nodes.size
    · subst same
      simp [stale, eq_comm]
    · simp [same, ← represents.held]

/-- A node that is removed leaves its neighbours together. -/
theorem unlink {part : α} (represents : list.Represents (earlier ++ (part, id) :: later)) :
    list.prev? id = (earlier.map Prod.snd).getLast? ∧
      list.next? id = (later.map Prod.snd).head? ∧
      (list.unlink id).Represents (earlier ++ later) := by
  have linked := represents.linked
  have once := represents.once
  have bound : ∀ node ∈ (earlier ++ (part, id) :: later).map Prod.snd, node < list.nodes.size :=
    fun node => represents.lt_size
  rw [List.map_append, List.map_cons] at linked once bound
  obtain ⟨leads, ⟨-, prev⟩, ⟨next, -⟩, trails⟩ := isChain_middle.mp linked
  rw [List.nodup_middle, List.nodup_cons] at once
  obtain ⟨fresh, once⟩ := once
  change list.prev? id = _ at prev
  change list.next? id = _ at next
  have validPrev : list.IsPlace (list.prev? id) := fun node last =>
    bound node (List.mem_append_left _ (List.mem_of_getLast? (prev ▸ last)))
  have validNext : list.IsPlace (list.next? id) := fun node first =>
    bound node (List.mem_append_right _
      (List.mem_cons_of_mem id (List.mem_of_head? (next ▸ first))))
  obtain ⟨after, before, held⟩ := unlink_spec validPrev validNext
  rw [prev, next] at after before
  obtain ⟨keepsLeads, keepsTrails⟩ := isChain_frame list (list.unlink id) once
    (fun place member last => by rw [after, if_neg last])
    (fun place member first => by rw [before, if_neg first])
  refine ⟨prev, next, ?_, ?_, ?_⟩
  · rw [List.map_append, isChain_append]
    refine ⟨keepsLeads leads, ⟨?_, ?_⟩, keepsTrails trails⟩
    · rw [after, if_pos rfl]
    · rw [before, if_pos rfl]
  · rwa [List.map_append]
  · intro other node
    rw [held]
    by_cases same : node = id
    · subst same
      rw [if_pos rfl]
      refine iff_of_false (fun member => fresh ?_) ?_
      · simpa using List.mem_map_of_mem (f := Prod.snd) member
      · cases list.held? node <;> simp
    · rw [if_neg same, ← represents.held, List.mem_append, List.mem_append, List.mem_cons]
      simp [same]

end Represents

end TokenList

end PathQuery
