import PathQuery.Proofs.AccessorChoice
import PathQuery.Proofs.Outcome

/-!
Members of values as the standard accessors read them, whatever they have read before. Computations
that read nothing but members always come to the same. Main statement: `settles_member`.
-/

namespace PathQuery

namespace AccessorRegistry

theorem standard_select_host (ref : HostRef) :
    standard.select (ContextType.lineage (.host ref)) = Accessor.host := by
  have unknown : ((ContextType.lineage (.host ref)).findSome? fun type =>
      standard.accessors.find? (·.type == type)) = none := by
    rw [List.findSome?_eq_none_iff]
    intro type member
    simp only [ContextType.lineage, ContextType.specific, List.mem_append, List.mem_map,
      List.mem_singleton] at member
    rcases member with ⟨name, -, rfl⟩ | rfl <;> rfl
  rw [select, unknown, Option.getD_none]

theorem standard_select_of_first {value other : Value}
    (same : ContextType.first other = ContextType.first value) :
    standard.select (ContextType.lineage other) = standard.select (ContextType.lineage value) := by
  by_cases plain : ∀ ref, value ≠ .host ref
  · rw [ContextType.lineage_of_first plain same]
  · by_cases plainOther : ∀ ref, other ≠ .host ref
    · rw [ContextType.lineage_of_first plainOther same.symm]
    · obtain ⟨ref, rfl⟩ := not_forall_not.mp plain
      obtain ⟨refOther, rfl⟩ := not_forall_not.mp plainOther
      rw [standard_select_host, standard_select_host]

/-- Whether a registry has the standard accessors, and no choices but those among them. -/
def Standard (registry : AccessorRegistry) : Prop :=
  registry.accessors = standard.accessors ∧ ∃ values, Remembers registry values

theorem standard_standard : Standard standard :=
  ⟨rfl, [], fun _ => rfl⟩

theorem select_of_standard {registry : AccessorRegistry} (standard : Standard registry)
    (lineage : List ContextType) :
    registry.select lineage = AccessorRegistry.standard.select lineage := by
  simp only [select, standard.1]

theorem resolve_of_standard {registry : AccessorRegistry} (standard : Standard registry)
    (value : Value) :
    ((resolve value).run registry).1 =
      AccessorRegistry.standard.select (ContextType.lineage value) := by
  obtain ⟨same, values, remembers⟩ := standard
  rw [resolve_of_remembers remembers, select_of_standard ⟨same, values, remembers⟩]
  apply standard_select_of_first
  unfold forerunner
  cases found : values.find? (ContextType.first · == ContextType.first value) with
  | none => rfl
  | some other => simpa using List.find?_some found

theorem Standard.ask {α : Type} {registry : AccessorRegistry} {value : Value} {ofNull : α}
    {question : Accessor → α} (standard : Standard registry) :
    Standard ((AccessorRegistry.ask value ofNull question).run registry).2 := by
  obtain ⟨same, values, remembers⟩ := standard
  exact ⟨accessors_ask.trans same, _, remembers.ask⟩

theorem ask_of_standard {α : Type} {registry : AccessorRegistry} (standard : Standard registry)
    (value : Value) (ofNull : α) (question : Accessor → α) :
    ((AccessorRegistry.ask value ofNull question).run registry).1 =
      if value.isNull then ofNull
      else question (AccessorRegistry.standard.select (ContextType.lineage value)) := by
  unfold AccessorRegistry.ask
  by_cases null : value.isNull = true
  · rw [if_pos null, if_pos null]
    rfl
  · rw [if_neg null, if_neg null, ← resolve_of_standard standard]
    rfl

end AccessorRegistry

/-- A member of a value as the standard accessors read it. -/
def Value.member (host : Host) (value : Value) (name : String) : Except EvalError Value :=
  (if value.isNull then .ok .null
    else (AccessorRegistry.standard.select (ContextType.lineage value)).get host value name) >>=
  Value.resolved

namespace Evaluation

variable {α β : Type}

/-- Whether a computation always comes to a result, and leaves the standard accessors behind, if it
begins with these. -/
def Settles (computation : Evaluation α) (result : Except EvalError α) : Prop :=
  ∀ registries : Registries, registries.accessors.Standard →
    ∃ after, outcome computation registries = (result, after) ∧ after.accessors.Standard

theorem settles_lift (result : Except EvalError α) :
    Settles (liftM result : Evaluation α) result :=
  fun registries standard => ⟨registries, rfl, standard⟩

theorem settles_pure (value : α) : Settles (pure value) (.ok value) :=
  fun registries standard => ⟨registries, rfl, standard⟩

theorem settles_throw (error : EvalError) : Settles (throw error : Evaluation α) (.error error) :=
  fun registries standard => ⟨registries, rfl, standard⟩

theorem Settles.bind {computation : Evaluation α} {next : α → Evaluation β}
    {result : Except EvalError α} {following : α → Except EvalError β}
    (first : Settles computation result)
    (rest : ∀ value, result = .ok value → Settles (next value) (following value)) :
    Settles (computation >>= next) (result >>= following) := by
  intro registries standard
  obtain ⟨between, came, standard⟩ := first registries standard
  rw [outcome_bind, came]
  cases result with
  | error error => exact ⟨between, rfl, standard⟩
  | ok value => exact rest value rfl between standard

theorem Settles.within {computation : Evaluation α} {result : Except EvalError α}
    (expression : Unit → String) (settles : Settles computation result) :
    Settles (within expression computation)
      (result.mapError fun error => error.within (expression ())) := by
  intro registries standard
  obtain ⟨after, came, standard⟩ := settles registries standard
  refine ⟨after, ?_, standard⟩
  rw [outcome_within, came]
  cases result <;> rfl

theorem settles_member (environment : Environment) (value : Value) (name : String) :
    Settles (member environment value name) (value.member environment.host name) := by
  intro registries standard
  have answer := AccessorRegistry.ask_of_standard standard value (.ok .null) fun accessor =>
    accessor.get environment.host value name
  refine ⟨_, Prod.ext ?_ rfl, standard.ask⟩
  show (((AccessorRegistry.get environment.host value name).run registries.accessors).1 >>=
    Value.resolved) = _
  rw [AccessorRegistry.get, answer]
  rfl

end Evaluation

end PathQuery
