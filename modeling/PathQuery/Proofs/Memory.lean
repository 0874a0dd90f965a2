import PathQuery.Proofs.Determined
import PathQuery.Proofs.Members
import PathQuery.Proofs.Steady

/-!
What registries remember, and that it makes no difference. Main statement:
`Registries.governs_regime`: members and methods are found the same, until an accessor is chosen for
a kind of value whose values have different ones.
-/

namespace PathQuery

open Evaluation

/-- The values of a kind that is not one of host objects have one lineage. -/
theorem ContextType.lineage_of_not_host {value other : Value}
    (plain : ∀ name, first value ≠ .host name)
    (same : first other = first value) : lineage other = lineage value := by
  have untyped : ∀ ref : HostRef, (∀ name, first (.host ref) ≠ .host name) →
      lineage (.host ref) = [.any] := by
    intro ref plain
    cases types : ref.types with
    | nil => simp [lineage, specific, types]
    | cons type types =>
      exact absurd (by simp [first, lineage, specific, types]) (plain type)
  by_cases mine : ∀ ref, value ≠ .host ref
  · exact lineage_of_first mine same
  · obtain ⟨ref, rfl⟩ := not_forall_not.mp mine
    by_cases theirs : ∀ ref, other ≠ .host ref
    · exact (lineage_of_first theirs same.symm).symm
    · obtain ⟨ref, rfl⟩ := not_forall_not.mp theirs
      rw [untyped _ plain, untyped _ (same ▸ plain)]

namespace AccessorRegistry

/-- Whether a registry has the same accessor for all values of a kind. -/
def Certain (registry : AccessorRegistry) (kind : ContextType) : Prop :=
  ∀ value other, ContextType.first value = kind → ContextType.first other = kind →
    ((resolve value).run registry).1 = ((resolve other).run registry).1

variable {registry : AccessorRegistry} {kind : ContextType}

theorem certain_of_chosen {accessor : Accessor}
    (chosen : registry.chosen.lookup kind = some accessor) :
    registry.Certain kind := by
  intro value other mine theirs
  rw [resolve_of_chosen (by rw [mine]; exact chosen),
    resolve_of_chosen (by rw [theirs]; exact chosen)]

theorem certain_of_not_host (plain : ∀ name, kind ≠ .host name) : registry.Certain kind := by
  rintro value other rfl theirs
  have lineage := ContextType.lineage_of_not_host plain theirs
  cases chosen : registry.chosen.lookup (ContextType.first value) with
  | some accessor => rw [resolve_of_chosen chosen, resolve_of_chosen (theirs ▸ chosen)]
  | none => rw [resolve_of_fresh chosen, resolve_of_fresh (theirs ▸ chosen), lineage]

theorem certain_of_standard (standard : registry.Standard) : registry.Certain kind := by
  intro value other mine theirs
  rw [resolve_of_standard standard, resolve_of_standard standard]
  exact standard_select_of_first (theirs.trans mine.symm).symm

theorem lookup_resolve (registry : AccessorRegistry) (value : Value) (kind : ContextType) :
    ((resolve value).run registry).2.chosen.lookup kind =
      if kind = ContextType.first value then some ((resolve value).run registry).1
      else registry.chosen.lookup kind := by
  cases chosen : registry.chosen.lookup (ContextType.first value) with
  | some accessor =>
    rw [resolve_of_chosen chosen]
    split
    · next same => rw [same, chosen]
    · rfl
  | none =>
    rw [resolve_of_fresh chosen]
    dsimp only
    split
    · next same => rw [same, List.lookup_cons_self]
    · next other => rw [List.lookup_cons, beq_false_of_ne other]

/-- A choice that was made for a value holds for the values of its kind, and for no others. -/
theorem resolve_resolve (registry : AccessorRegistry) (value other : Value) :
    ((resolve other).run ((resolve value).run registry).2).1 =
      if ContextType.first other = ContextType.first value then ((resolve value).run registry).1
      else ((resolve other).run registry).1 := by
  have held := lookup_resolve registry value (ContextType.first other)
  split at held
  · next same => rw [if_pos same, resolve_of_chosen held]
  · next differ =>
    rw [if_neg differ]
    cases chosen : registry.chosen.lookup (ContextType.first other) with
    | some accessor => rw [resolve_of_chosen chosen, resolve_of_chosen (held.trans chosen)]
    | none =>
      rw [resolve_of_fresh chosen, resolve_of_fresh (held.trans chosen)]
      simp only [select, accessors_resolve]

/-- Whether a registry that was another before has chosen no accessor for a kind of host objects that
it had none for. -/
def MeetsNoHosts (registry next : AccessorRegistry) : Prop :=
  ∀ name, registry.chosen.lookup (.host name) = none → next.chosen.lookup (.host name) = none

theorem MeetsNoHosts.lookup_eq_none {next : AccessorRegistry} (meets : registry.MeetsNoHosts next)
    (uncertain : ¬registry.Certain kind) : next.chosen.lookup kind = none := by
  cases kind with
  | host name =>
    apply meets
    rw [Option.eq_none_iff_forall_ne_some]
    exact fun accessor chosen => uncertain (certain_of_chosen chosen)
  | _ => exact absurd (certain_of_not_host (by simp)) uncertain

end AccessorRegistry

/-- The registries that answer as the given ones do after calls that have been answered, and those
that have chosen an accessor for a kind of value that the given ones are not certain about. -/
def Registries.regime (settings : Settings) (base : Registries) : Regime where
  kept registries :=
    (∀ value, base.accessors.Certain (ContextType.first value) →
      ((AccessorRegistry.resolve value).run registries.accessors).1 =
        ((AccessorRegistry.resolve value).run base.accessors).1) ∧
      base.methods.Served settings registries.methods
  spoiled registries :=
    ∃ kind, ¬base.accessors.Certain kind ∧ registries.accessors.chosen.lookup kind ≠ none

namespace Registries

variable {environment : Environment} {settings : Settings} {base : Registries}

theorem kept_base : (base.regime settings).kept base :=
  ⟨fun _ _ => rfl, .refl⟩

theorem outcome_member {value : Value} (present : value.isNull = false) (name : String)
    (registries : Registries) :
    outcome (member environment value name) registries =
      (((AccessorRegistry.resolve value).run registries.accessors).1.get environment.host value name
          >>= Value.resolved,
        { registries with
          accessors := ((AccessorRegistry.resolve value).run registries.accessors).2 }) := by
  unfold member AccessorRegistry.get AccessorRegistry.ask
  rw [if_neg (by simp [present])]
  rfl

theorem determined_member (value : Value) (name : String) :
    (base.regime settings).Determined (member environment value name) := by
  cases present : value.isNull with
  | true =>
    have null : member environment value name = pure .null := by
      unfold member AccessorRegistry.get AccessorRegistry.ask
      rw [if_pos present]
      rfl
    rw [null]
    exact ⟨Regime.spoils_pure Value.null, _, Regime.comes_pure Value.null⟩
  | false =>
    have asked := @outcome_member environment value present name
    refine ⟨?_, ((AccessorRegistry.resolve value).run base.accessors).1.get environment.host value
      name >>= Value.resolved, ?_⟩
    · rintro registries ⟨kind, uncertain, chosen⟩
      refine ⟨kind, uncertain, ?_⟩
      rw [asked, AccessorRegistry.lookup_resolve]
      split
      · exact Option.some_ne_none _
      · exact chosen
    · rintro registries ⟨accessors, served⟩
      rw [asked]
      by_cases certain : base.accessors.Certain (ContextType.first value)
      · rw [accessors value certain]
        refine .inr ⟨rfl, fun _ _ => ⟨fun other sure => ?_, served⟩⟩
        rw [AccessorRegistry.resolve_resolve]
        split
        · next same => rw [accessors value certain, certain value other rfl same]
        · exact accessors other sure
      · -- one accessor has been chosen where values of the kind would have different ones
        refine .inl ⟨_, certain, ?_⟩
        rw [AccessorRegistry.lookup_resolve, if_pos rfl]
        exact Option.some_ne_none _

theorem determined_method (steady : base.methods.Steady environment.settings) (name : String)
    (arity : Nat) :
    (base.regime environment.settings).Determined (method environment name arity) where
  spoils _ spoiled := spoiled
  comes := by
    refine ⟨((MethodRegistry.resolve environment.settings name arity).run base.methods).1, ?_⟩
    rintro registries ⟨accessors, served⟩
    have same := steady registries.methods served name arity
    refine .inr ⟨same, fun found came => ⟨accessors, ?_⟩⟩
    exact .answered served (same.trans came)

/-- Registries whose methods are steady govern evaluation. -/
theorem governs_regime (steady : base.methods.Steady environment.settings) :
    (base.regime environment.settings).Governs environment where
  member := determined_member
  method := determined_method steady

theorem not_spoiled_of_standard (standard : base.accessors.Standard) (registries : Registries) :
    ¬(base.regime settings).spoiled registries :=
  fun ⟨_, uncertain, _⟩ => uncertain (AccessorRegistry.certain_of_standard standard)

theorem not_spoiled_of_meetsNoHosts {registries : Registries}
    (meets : base.accessors.MeetsNoHosts registries.accessors) :
    ¬(base.regime settings).spoiled registries :=
  fun ⟨_, uncertain, chosen⟩ => chosen (meets.lookup_eq_none uncertain)

theorem member_of_standard (standard : base.accessors.Standard) {registries : Registries}
    (kept : (base.regime settings).kept registries) (value : Value) (name : String) :
    (outcome (member environment value name) registries).1 = value.member environment.host name := by
  have clean := @not_spoiled_of_standard settings base standard
  obtain ⟨after, came, -⟩ := settles_member environment value name base standard
  rw [(determined_member value name).result_eq kept kept_base (clean _) (clean _), came]

end Registries

end PathQuery
