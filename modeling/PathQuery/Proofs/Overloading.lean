import PathQuery.Evaluation.Operation

/-!
Operators that the host leaves alone. Main statement: `Environment.Unclaimed.operated`, their value
is the one that their rule gives.
-/

namespace PathQuery

open Evaluation

namespace Environment

/-- The host takes over no operator with the given left operand. -/
def Unclaimed (environment : Environment) (left : Value) : Prop :=
  ∀ operator right, overloaded? environment operator left right = none

variable {environment : Environment} {left : Value}

theorem unclaimed_of_disabled (disabled : environment.settings.operatorOverloading = false)
    (left : Value) : environment.Unclaimed left := by
  intro operator right
  simp [overloaded?, disabled]

/-- With overloading, neither an executor nor the left operand itself may know the operator. -/
theorem unclaimed_of_silent
    (executors : ∀ executor ∈ environment.executors, ∀ operator right,
      executor left operator right = none)
    (object : ∀ ref, left = .host ref → ∀ operator right,
      (environment.host.object ref).operate operator right = none) :
    environment.Unclaimed left := by
  intro operator right
  have asked : environment.executors.findSome? (fun executor => executor left operator right) =
      none :=
    List.findSome?_eq_none_iff.mpr fun executor member => executors executor member operator right
  unfold overloaded?
  rw [asked]
  cases left with
  | host ref => simp [object ref rfl]
  | _ => simp

theorem Unclaimed.operated (unclaimed : environment.Unclaimed left) (operator : TokenKind)
    (right : Value) :
    operated environment operator left right = applied environment operator left right := by
  rw [Evaluation.operated, unclaimed operator right]
  rfl

end Environment

end PathQuery
