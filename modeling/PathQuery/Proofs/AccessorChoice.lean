import Mathlib.Data.List.Induction
import PathQuery.Accessor

/-!
The choices of a registry of accessors in the course of registrations and uses. A choice is that for
the first value of its most specific kind since the last registration. Main statement:
`AccessorRegistry.resolve_follows`.
-/

namespace PathQuery

/-- The most specific kind of context that a value is. -/
def ContextType.first (value : Value) : ContextType :=
  (lineage value).headD .any

/-- Whether an accessor is the latest for the earliest kind of a lineage that there is one for, or
that of the host, if there is none. The accessors stand with the latest first. -/
inductive Accessor.Follows (accessors : List Accessor) (lineage : List ContextType) :
    Accessor → Prop
  | chosen {accessor : Accessor} {earlier later : List ContextType} {newer older : List Accessor} :
      lineage = earlier ++ accessor.type :: later → accessors = newer ++ accessor :: older →
      (∀ other ∈ accessors, other.type ∉ earlier) → (∀ other ∈ newer, other.type ≠ accessor.type) →
      Follows accessors lineage accessor
  | fallback : (∀ other ∈ accessors, other.type ∉ lineage) → Follows accessors lineage Accessor.host

theorem Accessor.Follows.type_mem {accessors : List Accessor} {lineage : List ContextType}
    {accessor : Accessor} (follows : accessor.Follows accessors lineage) :
    accessor.type ∈ lineage ∨ accessor = Accessor.host := by
  cases follows with
  | chosen split => exact .inl (by simp [split])
  | fallback => exact .inr rfl

theorem AccessorRegistry.follows_select (registry : AccessorRegistry)
    (lineage : List ContextType) :
    Accessor.Follows registry.accessors lineage (registry.select lineage) := by
  unfold select
  cases found : lineage.findSome? fun type => registry.accessors.find? (·.type == type) with
  | none =>
    apply Accessor.Follows.fallback
    intro other member inside
    have absent := List.findSome?_eq_none_iff.mp found other.type inside
    exact List.find?_eq_none.mp absent other member (beq_self_eq_true other.type)
  | some accessor =>
    obtain ⟨earlier, type, later, split, first, before⟩ := List.findSome?_eq_some_iff.mp found
    obtain ⟨same, newer, older, whole, newest⟩ := List.find?_eq_some_iff_append.mp first
    obtain rfl := eq_of_beq same
    apply Accessor.Follows.chosen split whole
    · intro other member inside
      have absent := before other.type inside
      exact List.find?_eq_none.mp absent other member (beq_self_eq_true other.type)
    · intro other member
      simpa using newest other member

/-- The values that share their most specific kind with one that is not a host object have its
lineage. -/
theorem ContextType.lineage_of_first {value other : Value} (plain : ∀ ref, value ≠ .host ref)
    (same : first other = first value) : lineage other = lineage value := by
  unfold first lineage specific at *
  cases value with
  | host ref => exact absurd rfl (plain ref)
  | _ =>
    cases other with
    | host ref =>
      -- a host object without types is no more than any value
      cases types : ref.types with
      | nil => simp_all
      | cons type types => simp [types] at same
    | _ => simp_all

namespace AccessorRegistry

/-- What happens to a registry. -/
inductive Event where
  | register (accessor : Accessor)
  | resolve (value : Value)
  | has (host : Host) (context : Value) (name : String)
  | hasValue (host : Host) (context : Value) (name : String)
  | get (host : Host) (context : Value) (name : String)
  | names (host : Host) (context : Value)
  | note (host : Host) (context : Value) (field note : String)
  | set (host : Host) (context : Value) (name : String) (value : Value)

def after (registry : AccessorRegistry) : Event → AccessorRegistry
  | .register accessor => registry.register accessor
  | .resolve value => ((resolve value).run registry).2
  | .has host context name => ((has host context name).run registry).2
  | .hasValue host context name => ((hasValue host context name).run registry).2
  | .get host context name => ((get host context name).run registry).2
  | .names host context => ((names host context).run registry).2
  | .note host context field note =>
      ((AccessorRegistry.note host context field note).run registry).2
  | .set host context name value => ((set host context name value).run registry).2

/-- A registry of the given accessors after some events. -/
def afterAll (accessors : List Accessor) (events : List Event) : AccessorRegistry :=
  events.foldl after { accessors }

/-- The accessors that are registered, the latest first. -/
def registered (accessors : List Accessor) (events : List Event) : List Accessor :=
  events.foldl (fun accessors event =>
    match event with
    | .register accessor => accessor :: accessors
    | _ => accessors) accessors

/-- The values that accessors were chosen for since the last registration. -/
def Event.resolved (values : List Value) : Event → List Value
  | .register _ => []
  | .resolve value | .set _ value _ _ => values ++ [value]
  | .has _ value _ | .hasValue _ value _ | .get _ value _ | .names _ value | .note _ value _ _ =>
      if value.isNull then values else values ++ [value]

def resolvedAll (events : List Event) : List Value :=
  events.foldl Event.resolved []

/-- The first of the values that shares its most specific kind with a value, or that value. -/
def forerunner (values : List Value) (value : Value) : Value :=
  (values.find? (ContextType.first · == ContextType.first value)).getD value

section Steps

variable {registry : AccessorRegistry} {values : List Value} {value : Value} {event : Event}
  {accessor : Accessor} {accessors : List Accessor} {events : List Event}

theorem resolve_of_chosen
    (chosen : registry.chosen.lookup (ContextType.first value) = some accessor) :
    (resolve value).run registry = (accessor, registry) := by
  unfold ContextType.first at chosen
  simp only [resolve, StateT.run_bind, StateT.run_get, pure_bind, chosen]
  rfl

theorem resolve_of_fresh (fresh : registry.chosen.lookup (ContextType.first value) = none) :
    (resolve value).run registry =
      let accessor := registry.select (ContextType.lineage value)
      (accessor, { registry with
        chosen := (ContextType.first value, accessor) :: registry.chosen }) := by
  unfold ContextType.first at fresh
  simp only [resolve, StateT.run_bind, StateT.run_get, pure_bind, fresh]
  rfl

/-- Whether the choices of a registry are those for the first values of their kinds. -/
def Remembers (registry : AccessorRegistry) (values : List Value) : Prop :=
  ∀ type, registry.chosen.lookup type =
    (values.find? (ContextType.first · == type)).map fun value =>
      registry.select (ContextType.lineage value)

theorem resolve_of_remembers (remembers : Remembers registry values) :
    ((resolve value).run registry).1 =
      registry.select (ContextType.lineage (forerunner values value)) := by
  have chosen := remembers (ContextType.first value)
  unfold forerunner
  cases found : values.find? (ContextType.first · == ContextType.first value) with
  | none =>
    rw [found] at chosen
    rw [resolve_of_fresh chosen]
    rfl
  | some other =>
    rw [found] at chosen
    rw [resolve_of_chosen chosen]
    rfl

theorem Remembers.resolve (remembers : Remembers registry values) :
    Remembers ((resolve value).run registry).2 (values ++ [value]) := by
  intro type
  have chosen := remembers (ContextType.first value)
  rw [List.find?_append]
  cases found : values.find? (ContextType.first · == ContextType.first value) with
  | none =>
    rw [found] at chosen
    rw [resolve_of_fresh chosen]
    by_cases same : type = ContextType.first value
    · subst same
      rw [found, List.lookup_cons_self, Option.none_or, List.find?_singleton]
      simp [select]
    · rw [List.lookup_cons, beq_false_of_ne same, List.find?_singleton,
        beq_false_of_ne (Ne.symm same)]
      simpa [select] using remembers type
  | some other =>
    rw [found] at chosen
    rw [resolve_of_chosen chosen, remembers type]
    by_cases same : type = ContextType.first value
    · subst same
      rw [found, Option.some_or]
    · rw [List.find?_singleton, beq_false_of_ne (Ne.symm same)]
      simp

theorem Remembers.ask {α : Type} {ofNull : α} {question : Accessor → α}
    (remembers : Remembers registry values) :
    Remembers ((ask value ofNull question).run registry).2
      (if value.isNull then values else values ++ [value]) := by
  unfold AccessorRegistry.ask
  by_cases null : value.isNull = true
  · rw [if_pos null, if_pos null]
    exact remembers
  · rw [if_neg null, if_neg null]
    exact remembers.resolve

theorem Remembers.after (remembers : Remembers registry values) :
    Remembers (registry.after event) (event.resolved values) := by
  cases event with
  | register accessor => exact fun type => rfl
  | resolve value => exact remembers.resolve
  | set host context name value => exact remembers.resolve
  | has | hasValue | get | names | note => exact remembers.ask

theorem remembers_afterAll : Remembers (afterAll accessors events) (resolvedAll events) := by
  unfold afterAll resolvedAll
  induction events using List.reverseRecOn with
  | nil => exact fun type => rfl
  | append_singleton events event ih =>
    rw [List.foldl_append, List.foldl_append]
    exact ih.after

end Steps

section Answer

variable {registry : AccessorRegistry} {values : List Value} {value : Value}
  {accessors : List Accessor} {events : List Event}

theorem accessors_resolve : ((resolve value).run registry).2.accessors = registry.accessors := by
  cases chosen : registry.chosen.lookup (ContextType.first value) with
  | none => rw [resolve_of_fresh chosen]
  | some accessor => rw [resolve_of_chosen chosen]

theorem accessors_ask {α : Type} {ofNull : α} {question : Accessor → α} :
    ((ask value ofNull question).run registry).2.accessors = registry.accessors := by
  unfold ask
  by_cases null : value.isNull = true
  · rw [if_pos null]
    rfl
  · rw [if_neg null]
    exact accessors_resolve

theorem accessors_afterAll :
    (afterAll accessors events).accessors = registered accessors events := by
  unfold afterAll registered
  induction events using List.reverseRecOn with
  | nil => rfl
  | append_singleton events event ih =>
    rw [List.foldl_append, List.foldl_append, ← ih]
    cases event with
    | register accessor => rfl
    | resolve value => exact accessors_resolve
    | set host context name value => exact accessors_resolve
    | has | hasValue | get | names | note => exact accessors_ask

theorem lineage_forerunner
    (alike : ∀ other ∈ values, ContextType.first other = ContextType.first value →
      ContextType.lineage other = ContextType.lineage value) :
    ContextType.lineage (forerunner values value) = ContextType.lineage value := by
  unfold forerunner
  cases found : values.find? (ContextType.first · == ContextType.first value) with
  | none => rfl
  | some other =>
    have same := List.find?_some found
    exact alike other (List.mem_of_find?_eq_some found) (eq_of_beq same)

/-- In the course of registrations and uses, the accessor of a value follows the lineage of the
first value of its most specific kind since the last registration. This is the lineage of the value
itself when the values of this kind have the same lineage, and for all values but host objects. -/
theorem resolve_follows (accessors : List Accessor) (events : List Event) (value : Value) :
    let accessor := ((resolve value).run (afterAll accessors events)).1
    let known := registered accessors events
    let values := resolvedAll events
    accessor.Follows known (ContextType.lineage (forerunner values value)) ∧
      ((∀ other ∈ values, ContextType.first other = ContextType.first value →
          ContextType.lineage other = ContextType.lineage value) →
        accessor.Follows known (ContextType.lineage value)) ∧
      ((∀ ref, value ≠ .host ref) → accessor.Follows known (ContextType.lineage value)) := by
  intro accessor known values
  have follows : accessor.Follows known (ContextType.lineage (forerunner values value)) := by
    unfold accessor known
    rw [resolve_of_remembers remembers_afterAll, ← accessors_afterAll]
    exact follows_select _ _
  have own : (∀ other ∈ values, ContextType.first other = ContextType.first value →
      ContextType.lineage other = ContextType.lineage value) →
      accessor.Follows known (ContextType.lineage value) := by
    intro alike
    rwa [lineage_forerunner alike] at follows
  exact ⟨follows, own, fun plain => own fun other _ same => ContextType.lineage_of_first plain same⟩

/-- An accessor whose members are all the name of its kind of context. -/
def tagged (type : ContextType) : Accessor where
  type
  has _ _ _ := .ok true
  get _ _ _ := .ok (.string type.name)

/-- A host object of the given types. -/
def object (types : List String) : Value :=
  .host { handle := 0, types, text := "" }

theorem resolve_follows_machine :
    let accessors := [tagged (.host "Machine"), tagged (.host "Person")]
    let events := [.resolve (object ["Robot", "Machine"]), .resolve (object ["Employee", "Person"])]
    let value := object ["Robot", "Machine"]
    ((resolve value).run (afterAll accessors events)).1.Follows
      (registered accessors events) (ContextType.lineage value) := by
  intro accessors events value
  refine (resolve_follows _ _ _).2.1 ?_
  intro other member same
  rcases List.mem_cons.mp member with rfl | member
  · rfl
  · obtain rfl := List.mem_singleton.mp member
    exact absurd same (by decide)

/-- A choice for one object stands for another of the same type that has a different lineage. -/
theorem not_follows_of_shared_type :
    let accessors := [tagged (.host "Machine"), tagged (.host "Person")]
    let events := [.resolve (object ["Employee", "Person"])]
    let value := object ["Employee", "Machine"]
    ¬((resolve value).run (afterAll accessors events)).1.Follows
      (registered accessors events) (ContextType.lineage value) := by
  intro accessors events value follows
  rcases follows.type_mem with inside | host
  · exact absurd inside (by decide)
  · exact absurd (congrArg Accessor.type host) (by decide)

end Answer

end AccessorRegistry

end PathQuery
