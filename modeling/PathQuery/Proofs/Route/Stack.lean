import PathQuery.Proofs.Route.Tower

/-!
Paths against a stack of contexts. Main statement: `Route.evaluate_onStack_iff`, a path comes to what
it comes to on a stack in all contexts just when its steps up are tracked.
-/

namespace PathQuery

open Evaluation

namespace Route

/-- A path whose steps up are tracked comes to what it comes to on a stack, in all contexts in which
it goes on from contexts only. A path that does so wherever it goes on from objects is tracked. -/
theorem evaluate_onStack_iff (environment : Environment)
    (parents : environment.settings.parentLookup = false)
    (roots : environment.settings.rootLookup = false) (route : Route) :
    (route.tracked = true → ∀ context scope registries,
      route.Reads (·.isContext = true) environment context scope registries →
        outcome (route.expression.evaluate environment context scope) registries =
          outcome (within (fun _ => route.expression.text)
            (route.onStack environment context scope)) registries) ∧
    ("$this" ∉ Step.keys route.steps →
      (∀ context scope registries,
        route.Reads (∃ fields, · = .object fields) environment context scope registries →
          outcome (route.expression.evaluate environment context scope) registries =
            outcome (within (fun _ => route.expression.text)
              (route.onStack environment context scope)) registries) →
      route.tracked = true) := by
  have evaluated : ∀ context scope, route.expression.evaluate environment context scope =
      within (fun _ => route.expression.text)
        (Segment.walk environment true route.segments (scope.enter context)) := fun _ _ => rfl
  refine ⟨?_, ?_⟩
  · intro tracked context scope registries reads
    rw [evaluated, outcome_within, outcome_within,
      outcome_of_tracked parents roots route tracked context scope registries reads]
  · intro other agrees
    rw [← Bool.not_eq_false]
    intro untracked
    obtain ⟨context, scope, registries, lower, higher, reads, walked, stacked, differ⟩ :=
      outcome_ne_of_untracked route parents roots untracked other
    have same := agrees context scope registries reads
    rw [evaluated, outcome_within, outcome_within, walked, stacked] at same
    exact differ (by simpa using same)

/-- The path `../a/b/../c`. -/
def fromParent : Route where
  absolute := false
  steps := [.up, .name "a", .name "b", .up, .name "c"]
  plain := by decide
  ending := by decide
  beginning := nofun

theorem evaluate_fromParent :
    let parent := Value.object [("a", .object [("b", .object []), ("c", .integer 1)])]
    let scope : Scope := { frames := [⟨parent, false⟩] }
    fromParent.tracked = true ∧
      fromParent.Reads (·.isContext = true) {} .null scope settled ∧
      outcome (fromParent.expression.evaluate {} .null scope) settled =
        (.ok (.integer 1), settled) := by
  intro parent scope
  have reads : fromParent.Reads (·.isContext = true) {} .null scope settled :=
    Step.reads_of_read rfl (fun _ => rfl) (Step.reads_of_read rfl (fun _ => rfl)
      (Step.reads_of_read rfl (absurd rfl) trivial))
  refine ⟨by decide, reads, ?_⟩
  rw [(evaluate_onStack_iff {} rfl rfl fromParent).1 (by decide) .null scope settled reads]
  rfl

/-- The path `a/../b/../c`. -/
def twiceUp : Route where
  absolute := false
  steps := [.name "a", .up, .name "b", .up, .name "c"]
  plain := by decide
  ending := by decide
  beginning := nofun

/-- The second step up leads to the context that was entered first. -/
theorem evaluate_twiceUp_ne :
    let context := Value.object
      [("a", .object [("c", .integer 1)]), ("b", .object []), ("c", .integer 2)]
    twiceUp.Reads (∃ fields, · = .object fields) {} context {} settled ∧
      outcome (twiceUp.expression.evaluate {} context {}) settled =
        (.ok (.integer 1), settled) ∧
      outcome (within (fun _ => twiceUp.expression.text) (twiceUp.onStack {} context {})) settled =
        (.ok (.integer 2), settled) := by
  intro context
  refine ⟨?_, ?_, rfl⟩
  · exact Step.reads_of_read rfl (fun _ => ⟨_, rfl⟩) (Step.reads_of_read rfl (fun _ => ⟨_, rfl⟩)
      (Step.reads_of_read rfl (absurd rfl) trivial))
  · change outcome (within (fun _ => twiceUp.expression.text)
      (Segment.walk {} true twiceUp.segments (Scope.enter {} context))) settled = _
    rw [walk_segments rfl rfl twiceUp (by decide)]
    rfl

end Route

end PathQuery
