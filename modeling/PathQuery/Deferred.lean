import PathQuery.Value

/-!
Computations that are put off. A computation runs when its value is asked for, and again as long as
it fails; once it has succeeded its value is kept.
-/

namespace PathQuery

/-- A computation by its outcomes, how often it has run, and the value that is kept. -/
structure Deferred where
  /-- The outcome of each run, by the number of runs before it. -/
  compute : Nat → Except EvalError Value
  runs : Nat := 0
  kept : Option Value := none

namespace Deferred

/-- Asks for the value. -/
def resolve : StateM Deferred (Except EvalError Value) := do
  let deferred ← get
  match deferred.kept with
  | some value => return .ok value
  | none =>
      let outcome := deferred.compute deferred.runs
      set { deferred with runs := deferred.runs + 1, kept := outcome.toOption }
      return outcome

end Deferred

end PathQuery
