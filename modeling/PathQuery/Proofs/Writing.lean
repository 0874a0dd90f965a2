import Mathlib.Data.String.Basic
import PathQuery.Proofs.Members

/-!
Members that are written through the standard accessors: which of them can be written, and what else
stays as it was. Main statement: `AccessorRegistry.set_changes`.
-/

namespace PathQuery

namespace Fields

variable {α : Type} {name : String} {held : α} {fields : List (String × α)}

theorem mem_keys_insert {key : String} :
    key ∈ (insert name held fields).map Prod.fst ↔ key = name ∨ key ∈ fields.map Prod.fst := by
  induction fields with
  | nil => simp [insert]
  | cons field fields ih =>
    obtain ⟨first, other⟩ := field
    rw [insert]
    split
    · rename_i same
      simp [same]
    · split
      · simp
      · simp only [List.map_cons, List.mem_cons, ih]
        tauto

theorem sorted_insert (sorted : (fields.map Prod.fst).Pairwise (· < ·)) :
    ((insert name held fields).map Prod.fst).Pairwise (· < ·) := by
  induction fields with
  | nil => simp [insert]
  | cons field fields ih =>
    obtain ⟨first, other⟩ := field
    obtain ⟨least, others⟩ := List.pairwise_cons.mp sorted
    rw [insert]
    split
    · rename_i same
      subst same
      exact sorted
    · rename_i different
      split
      · rename_i before
        apply List.Pairwise.cons _ sorted
        intro key member
        rcases List.mem_cons.mp member with rfl | later
        · exact before
        · exact lt_trans before (least key later)
      · rename_i notBefore
        apply List.Pairwise.cons _ (ih others)
        intro key member
        rcases mem_keys_insert.mp member with rfl | old
        · exact lt_of_le_of_ne (le_of_not_gt notBefore) different
        · exact least key old

end Fields

namespace Value

variable {host : Host} {context value after : Value} {name other : String}

/-- What a value becomes when a member is written: an object gets a field, and an array another
element at a position that it has. -/
inductive Writes (name : String) (value : Value) : Value → Value → Prop
  | field (fields : List (String × Value)) :
      Writes name value (.object fields) (.object (Fields.insert name value fields))
  | element {elements : List Value} {position : Nat} : Accessor.position? name = some position →
      position < elements.length →
      Writes name value (.array elements) (.array (elements.set position value))

/-- Whether another name stands for another member of a value. -/
def Apart (context : Value) (name other : String) : Prop :=
  match context with
  | .array _ => Accessor.position? other ≠ Accessor.position? name
  | _ => other ≠ name

/-- Whether names that are listed before and after a member is written are the same, but for that of
a new field of an object. -/
def Gains (context : Value) (name : String) (before after : Option (List String)) : Prop :=
  match context with
  | .object _ => ∃ keys listed, before = some keys ∧ after = some listed ∧
      (∀ key, key ∈ listed ↔ key = name ∨ key ∈ keys) ∧
      (keys.Pairwise (· < ·) → listed.Pairwise (· < ·))
  | _ => after = before

/-- The accessor of a value among the standard ones. -/
def accessor (context : Value) : Accessor :=
  AccessorRegistry.standard.select (ContextType.lineage context)

theorem accessor_set (plain : ∀ ref, context ≠ .host ref) :
    (∃ after, Writes name value context after ∧
        context.accessor.set host context name value = .ok (after, host)) ∨
      (∀ after, ¬Writes name value context after) ∧
        context.accessor.set host context name value = .error (Accessor.cannotSet name
          (if context.isList then "this collection" else context.type.name)) := by
  cases context with
  | object fields => exact .inl ⟨_, .field fields, rfl⟩
  | array elements =>
    show (∃ after, _ ∧ Accessor.collection.set host (.array elements) name value = _) ∨
      _ ∧ Accessor.collection.set host (.array elements) name value = _
    cases known : Accessor.position? name with
    | none =>
      refine .inr ⟨?_, by simp [Accessor.collection, known, isList]⟩
      rintro after ⟨⟩
      rename_i same _
      cases known.symm.trans same
    | some position =>
      by_cases bound : position < elements.length
      · exact .inl ⟨_, .element known bound, by simp [Accessor.collection, known, bound]⟩
      · refine .inr ⟨?_, by simp [Accessor.collection, known, bound, isList]⟩
        rintro after ⟨⟩
        rename_i same inside
        obtain rfl := Option.some.inj (same.symm.trans known)
        exact bound inside
  | sequence => exact .inr ⟨nofun, rfl⟩
  | host ref => exact absurd rfl (plain ref)
  | _ => exact .inr ⟨nofun, rfl⟩

namespace Writes

variable (writes : Writes name value context after)

include writes

theorem get_same (prompt : ∀ handle outcome, value ≠ .deferred handle outcome) :
    after.accessor.get host after name = .ok value := by
  cases writes with
  | field fields =>
    show Except.ok ((Fields.get? name (Fields.insert name value fields)).getD .null) = _
    simp
  | @element elements position known bound =>
    have resolved : value.resolved = .ok value := by
      unfold Value.resolved
      split
      · exact absurd rfl (prompt _ _)
      · rfl
    show Accessor.collection.get host (.array (elements.set position value)) name = _
    simp [Accessor.collection, known, elements?, bound, resolved]

theorem has_same : after.accessor.has host after name = .ok true := by
  cases writes with
  | field fields =>
    show Except.ok (Fields.get? name (Fields.insert name value fields)).isSome = _
    simp
  | @element elements position known bound =>
    show Accessor.collection.has host (.array (elements.set position value)) name = _
    simp [Accessor.collection, known, elements?, bound]

theorem get_apart (apart : context.Apart name other) :
    after.accessor.get host after other = context.accessor.get host context other := by
  cases writes with
  | field fields =>
    show Except.ok ((Fields.get? other (Fields.insert name value fields)).getD .null) =
      Except.ok ((Fields.get? other fields).getD .null)
    rw [Fields.get_insert, if_neg apart]
  | @element elements position known bound =>
    show Accessor.collection.get host (.array (elements.set position value)) other =
      Accessor.collection.get host (.array elements) other
    cases denoted : Accessor.position? other with
    | none => simp [Accessor.collection, denoted]
    | some place =>
      have different : position ≠ place := by
        rintro rfl
        exact apart (denoted.trans known.symm)
      simp [Accessor.collection, denoted, elements?, List.getElem?_set_ne different]

theorem has_apart (apart : context.Apart name other) :
    after.accessor.has host after other = context.accessor.has host context other := by
  cases writes with
  | field fields =>
    show Except.ok (Fields.get? other (Fields.insert name value fields)).isSome =
      Except.ok (Fields.get? other fields).isSome
    rw [Fields.get_insert, if_neg apart]
  | @element elements position known bound =>
    show Accessor.collection.has host (.array (elements.set position value)) other =
      Accessor.collection.has host (.array elements) other
    cases denoted : Accessor.position? other <;> simp [Accessor.collection, denoted, elements?]

/-- Writing leaves the number of elements as it is. -/
theorem size : after.elements?.map List.length = context.elements?.map List.length := by
  cases writes <;> simp [elements?]

theorem gains : Gains context name (context.accessor.names host context)
    (after.accessor.names host after) := by
  cases writes with
  | field fields =>
    refine ⟨_, _, rfl, rfl, fun key => Fields.mem_keys_insert, Fields.sorted_insert⟩
  | @element elements position known bound =>
    show Accessor.collection.names host (.array (elements.set position value)) =
      Accessor.collection.names host (.array elements)
    simp [Accessor.collection, elements?]

end Writes

end Value

namespace AccessorRegistry

variable {registry : AccessorRegistry}

theorem Standard.resolve (standard : registry.Standard) (value : Value) :
    Standard ((AccessorRegistry.resolve value).run registry).2 := by
  obtain ⟨same, values, remembers⟩ := standard
  exact ⟨accessors_resolve.trans same, _, remembers.resolve⟩

theorem ask_of_shown {α : Type} (standard : registry.Standard) {value : Value} (ofNull : α)
    (shown : value.isNull = false) (question : Accessor → α) :
    ((AccessorRegistry.ask value ofNull question).run registry).1 = question value.accessor := by
  rw [ask_of_standard standard, shown]
  rfl

/-- A member that is written through the standard accessors, whatever these were used for before,
holds what was written, and nothing else changes: members with other names, the names that are
listed, but for that of a new field, the number of elements, and the host. Members that can be
written are all those of objects, and those of arrays at positions that they have. -/
theorem set_changes (standard : registry.Standard) (host : Host) {context value : Value}
    {name : String} (plain : ∀ ref, context ≠ .host ref)
    (prompt : ∀ handle outcome, value ≠ .deferred handle outcome) :
    ((set host context name value).run registry).2.Standard ∧
      match ((set host context name value).run registry).1 with
      | .error error => (∀ after, ¬Value.Writes name value context after) ∧
          error = Accessor.cannotSet name
            (if context.isList then "this collection" else context.type.name)
      | .ok (after, kept) => Value.Writes name value context after ∧ kept = host ∧
          after.elements?.map List.length = context.elements?.map List.length ∧
          ∀ later : AccessorRegistry, later.Standard →
            ((get host after name).run later).1 = .ok value ∧
            ((has host after name).run later).1 = .ok true ∧
            (∀ other, context.Apart name other →
              ((get host after other).run later).1 = ((get host context other).run later).1 ∧
              ((has host after other).run later).1 = ((has host context other).run later).1) ∧
            context.Gains name ((names host context).run later).1
              ((names host after).run later).1 := by
  refine ⟨standard.resolve context, ?_⟩
  have answer : ((set host context name value).run registry).1 =
      context.accessor.set host context name value := by
    rw [Value.accessor, ← resolve_of_standard standard]
    rfl
  rw [answer]
  rcases Value.accessor_set plain with ⟨after, writes, came⟩ | ⟨never, came⟩
  · rw [came]
    refine ⟨writes, rfl, writes.size, fun later standard => ?_⟩
    have shown : context.isNull = false ∧ after.isNull = false := by
      cases writes <;> exact ⟨rfl, rfl⟩
    simp only [get, has, names, ask_of_shown standard _ shown.1, ask_of_shown standard _ shown.2]
    exact ⟨writes.get_same prompt, writes.has_same,
      fun other apart => ⟨writes.get_apart apart, writes.has_apart apart⟩, writes.gains⟩
  · rw [came]
    exact ⟨never, rfl⟩

theorem set_changes_of_position :
    let row := Value.array [.integer 1, .null]
    standard.Standard ∧ (∀ ref, row ≠ .host ref) ∧
      (∀ handle outcome, Value.string "x" ≠ .deferred handle outcome) ∧
      ∃ after, ((set {} row "$01" (.string "x")).run standard).1 = .ok (after, {}) ∧
        ((get {} after "$01").run standard).1 = .ok (.string "x") ∧
        ((get {} after "$0").run standard).1 = ((get {} row "$0").run standard).1 ∧
        ((names {} after).run standard).1 = ((names {} row).run standard).1 := by
  intro row
  refine ⟨standard_standard, nofun, nofun, .array [.integer 1, .string "x"], rfl, ?_⟩
  obtain ⟨-, changed⟩ :=
    @set_changes standard standard_standard {} row (.string "x") "$01" nofun nofun
  obtain ⟨-, -, -, changed⟩ := changed
  obtain ⟨written, -, kept, listed⟩ := changed standard standard_standard
  have apart : row.Apart "$01" "$0" :=
    show Accessor.position? "$0" ≠ Accessor.position? "$01" by decide
  exact ⟨written, (kept "$0" apart).1, listed⟩

end AccessorRegistry

end PathQuery
