import PathQuery.Evaluation.Path

/-!
What a computation comes to from given registries, and which registries it leaves behind.
-/

namespace PathQuery.Evaluation

variable {α β : Type}

/-- What a computation comes to from given registries, with the registries after it. -/
def outcome (computation : Evaluation α) (registries : Registries) :
    Except EvalError α × Registries :=
  computation.run.run registries

@[simp] theorem outcome_pure (value : α) (registries : Registries) :
    outcome (pure value) registries = (.ok value, registries) := by
  rfl

@[simp] theorem outcome_throw (error : EvalError) (registries : Registries) :
    outcome (throw error : Evaluation α) registries = (.error error, registries) := by
  rfl

@[simp] theorem outcome_lift (result : Except EvalError α) (registries : Registries) :
    outcome (liftM result : Evaluation α) registries = (result, registries) := by
  rfl

theorem exists_outcome {computation : Evaluation α} {registries : Registries}
    {result : Except EvalError α} (came : (outcome computation registries).1 = result) :
    ∃ after, outcome computation registries = (result, after) :=
  ⟨_, Prod.ext came rfl⟩

theorem lift_ok_bind (value : α) (next : α → Evaluation β) :
    (liftM (.ok value : Except EvalError α) : Evaluation α) >>= next = next value := by
  rfl

theorem outcome_bind (computation : Evaluation α) (next : α → Evaluation β)
    (registries : Registries) :
    outcome (computation >>= next) registries =
      match outcome computation registries with
      | (.ok value, after) => outcome (next value) after
      | (.error error, after) => (.error error, after) := by
  unfold outcome
  rw [ExceptT.run_bind, StateT.run_bind]
  rcases computation.run.run registries with ⟨result, after⟩
  cases result <;> rfl

theorem outcome_bind_congr {computation : Evaluation α} {next other : α → Evaluation β}
    {registries : Registries}
    (same : ∀ value after, outcome computation registries = (.ok value, after) →
      outcome (next value) after = outcome (other value) after) :
    outcome (computation >>= next) registries = outcome (computation >>= other) registries := by
  rw [outcome_bind, outcome_bind]
  rcases result : outcome computation registries with ⟨_ | value, after⟩
  · rfl
  · exact same value after result

theorem outcome_bind_ok {computation : Evaluation α} {next : α → Evaluation β} {value : α}
    {registries after : Registries} (first : outcome computation registries = (.ok value, after)) :
    outcome (computation >>= next) registries = outcome (next value) after := by
  rw [outcome_bind, first]

theorem outcome_within (expression : Unit → String) (computation : Evaluation α)
    (registries : Registries) :
    outcome (within expression computation) registries =
      match outcome computation registries with
      | (.ok value, after) => (.ok value, after)
      | (.error error, after) => (.error (error.within (expression ())), after) := by
  unfold outcome within ExceptT.adapt
  rw [ExceptT.run_mk, StateT.run_map]
  change (fun ran : Except EvalError α × Registries =>
    (ran.1.mapError fun error => error.within (expression ()), ran.2))
      (computation.run.run registries) = _
  rcases computation.run.run registries with ⟨result, after⟩
  cases result <;> rfl

theorem outcome_within_snd (expression : Unit → String) (computation : Evaluation α)
    (registries : Registries) :
    (outcome (within expression computation) registries).2 = (outcome computation registries).2 := by
  rw [outcome_within]
  rcases outcome computation registries with ⟨_ | _, after⟩ <;> rfl

theorem outcome_within_eq_ok_iff {expression : Unit → String} {computation : Evaluation α}
    {registries : Registries} {value : α} :
    (outcome (within expression computation) registries).1 = .ok value ↔
      (outcome computation registries).1 = .ok value := by
  rw [outcome_within]
  rcases outcome computation registries with ⟨_ | _, after⟩ <;> simp

end PathQuery.Evaluation
