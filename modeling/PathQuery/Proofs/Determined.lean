import Mathlib.Tactic.ByContra
import Mathlib.Tactic.Choose
import PathQuery.Proofs.Composed
import PathQuery.Proofs.Outcome

/-!
Computations whose results do not depend on what the registries remember. Main statement:
`Regime.Governs.determined`: where members and methods are found the same, every computation comes to
the same.
-/

namespace PathQuery

open Evaluation

/-- Registries that are alike for the computations that follow, and those of which nothing more is
known. -/
structure Regime where
  kept : Registries → Prop
  spoiled : Registries → Prop

namespace Regime

variable (regime : Regime) {α β : Type}

/-- Whether a computation leaves registries spoiled that are so. -/
def Spoils (computation : Evaluation α) : Prop :=
  ∀ registries, regime.spoiled registries → regime.spoiled (outcome computation registries).2

/-- Whether a computation that begins with kept registries comes to a result and keeps them if that
is a value, or spoils them. -/
def Comes (computation : Evaluation α) (result : Except EvalError α) : Prop :=
  ∀ registries, regime.kept registries →
    regime.spoiled (outcome computation registries).2 ∨
      (outcome computation registries).1 = result ∧
        ∀ value, result = .ok value → regime.kept (outcome computation registries).2

/-- Whether a computation comes to the same from all kept registries. -/
structure Determined (computation : Evaluation α) : Prop where
  spoils : regime.Spoils computation
  comes : ∃ result, regime.Comes computation result

/-- Whether requests come to the same from all kept registries. -/
structure Governs (environment : Environment) : Prop where
  member : ∀ value name, regime.Determined (member environment value name)
  method : ∀ name arity, regime.Determined (method environment name arity)

variable {regime} {computation : Evaluation α} {next : α → Evaluation β}
  {result : Except EvalError α} {following : α → Except EvalError β}

theorem comes_lift (result : Except EvalError α) :
    regime.Comes (liftM result : Evaluation α) result :=
  fun _ kept => .inr ⟨rfl, fun _ _ => kept⟩

theorem comes_pure (value : α) : regime.Comes (pure value) (.ok value) :=
  comes_lift (.ok value)

theorem spoils_lift (result : Except EvalError α) :
    regime.Spoils (liftM result : Evaluation α) :=
  fun _ spoiled => spoiled

theorem spoils_pure (value : α) : regime.Spoils (pure value) :=
  spoils_lift (.ok value)

theorem Spoils.bind (first : regime.Spoils computation)
    (rest : ∀ value, regime.Spoils (next value)) : regime.Spoils (computation >>= next) := by
  intro registries spoiled
  have between := first registries spoiled
  rw [outcome_bind]
  rcases ran : outcome computation registries with ⟨error | value, after⟩ <;> rw [ran] at between
  · exact between
  · exact rest value after between

theorem Comes.bind (first : regime.Comes computation result)
    (rest : ∀ value, result = .ok value → regime.Comes (next value) (following value))
    (spoils : ∀ value, regime.Spoils (next value)) :
    regime.Comes (computation >>= next) (result >>= following) := by
  intro registries kept
  rw [outcome_bind]
  have came := first registries kept
  rcases ran : outcome computation registries with ⟨error | value, after⟩ <;> rw [ran] at came
  · rcases came with spoiled | ⟨rfl, -⟩
    · exact .inl spoiled
    · exact .inr ⟨rfl, fun _ failed => by cases failed⟩
  · rcases came with spoiled | ⟨rfl, kept⟩
    · exact .inl (spoils value after spoiled)
    · exact rest value rfl after (kept value rfl)

theorem Spoils.within (expression : Unit → String) (spoils : regime.Spoils computation) :
    regime.Spoils (within expression computation) := by
  intro registries spoiled
  have after := spoils registries spoiled
  rw [outcome_within]
  rcases ran : outcome computation registries with ⟨error | value, left⟩ <;> rwa [ran] at after

theorem Comes.within (expression : Unit → String) (comes : regime.Comes computation result) :
    regime.Comes (within expression computation)
      (result.mapError fun error => error.within (expression ())) := by
  intro registries kept
  have came := comes registries kept
  rw [outcome_within]
  rcases ran : outcome computation registries with ⟨error | value, after⟩ <;> rw [ran] at came
  · rcases came with spoiled | ⟨rfl, -⟩
    · exact .inl spoiled
    · exact .inr ⟨rfl, fun _ failed => by cases failed⟩
  · rcases came with spoiled | ⟨rfl, kept⟩
    · exact .inl spoiled
    · exact .inr ⟨rfl, fun _ _ => kept value rfl⟩

theorem Determined.bind (first : regime.Determined computation)
    (rest : ∀ value, regime.Determined (next value)) : regime.Determined (computation >>= next) := by
  obtain ⟨result, came⟩ := first.comes
  choose following comes using fun value => (rest value).comes
  exact ⟨first.spoils.bind fun value => (rest value).spoils,
    _, came.bind (fun value _ => comes value) fun value => (rest value).spoils⟩

/-- Where requests come to the same, every computation that is composed of them does. -/
theorem Governs.determined {environment : Environment} (governs : regime.Governs environment)
    (composed : Composed environment computation) : regime.Determined computation := by
  induction composed with
  | lift result => exact ⟨spoils_lift result, result, comes_lift result⟩
  | member value name => exact governs.member value name
  | method name arity => exact governs.method name arity
  | bind _ _ first rest => exact first.bind rest
  | within expression _ ih =>
    obtain ⟨spoils, result, comes⟩ := ih
    exact ⟨spoils.within expression, _, comes.within expression⟩

/-- A determined computation comes to the same from kept registries that it does not spoil. -/
theorem Determined.result_eq (determined : regime.Determined computation)
    {registries others : Registries} (kept : regime.kept registries) (also : regime.kept others)
    (clean : ¬regime.spoiled (outcome computation registries).2)
    (cleanOther : ¬regime.spoiled (outcome computation others).2) :
    (outcome computation registries).1 = (outcome computation others).1 := by
  obtain ⟨result, comes⟩ := determined.comes
  have one := (comes registries kept).resolve_left clean
  have two := (comes others also).resolve_left cleanOther
  rw [one.1, two.1]

/-- What a determined computation comes to has the properties of all values that it comes to. -/
theorem Determined.comes_among (determined : regime.Determined computation) {good : α → Prop}
    (among : ∀ registries, regime.kept registries → ∀ value,
      (outcome computation registries).1 = .ok value → good value) :
    ∃ result, regime.Comes computation result ∧ ∀ value, result = .ok value → good value := by
  obtain ⟨result, comes⟩ := determined.comes
  by_cases clean : ∃ registries, regime.kept registries ∧
      ¬regime.spoiled (outcome computation registries).2
  · obtain ⟨registries, kept, clean⟩ := clean
    have ended := (comes registries kept).resolve_left clean
    exact ⟨result, comes, fun value came => among registries kept value (ended.1.trans came)⟩
  · -- where every run spoils the registries any result will do
    refine ⟨.error .invalidContext, fun registries kept => .inl ?_, fun _ came => by cases came⟩
    by_contra unspoiled
    exact clean ⟨registries, kept, unspoiled⟩

theorem Determined.keeps (determined : regime.Determined computation) {registries after : Registries}
    {value : α} (kept : regime.kept registries)
    (came : outcome computation registries = (.ok value, after)) (clean : ¬regime.spoiled after) :
    regime.kept after := by
  obtain ⟨result, comes⟩ := determined.comes
  have ended := comes registries kept
  rw [came] at ended
  obtain ⟨rfl, kept⟩ := ended.resolve_left clean
  exact kept value rfl

end Regime

end PathQuery
