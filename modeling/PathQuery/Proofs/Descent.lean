import PathQuery.Evaluation
import PathQuery.Proofs.Outcome

/-!
How paths go on: the first segment reads a value in a context, and the others are applied to it.
Main statement: `Segment.outcome_of_evaluate`, a path goes on from what a path of its first segment
comes to.
-/

namespace PathQuery

open Evaluation

/-- What an expression comes to in a context, computed if it was put off. -/
def Expression.computed (environment : Environment) (expression : Expression) (context : Value)
    (scope : Scope) : Evaluation Value := do
  let value ← expression.evaluate environment context scope
  value.resolved

/-- Whether what an element comes to is not put off again. -/
def Value.Prompt (element : Value) : Prop :=
  ∀ value, element.resolved = .ok value → value.resolved = .ok value

namespace Segment

/-- Whether a segment reads a value. -/
def Reads : Segment → Prop
  | .name key => key ≠ "." ∧ key ≠ ".."
  | .expression _ => True

/-- What the first segment of a path reads, with the context that it is read in. -/
def first (environment : Environment) : Segment → Scope → Evaluation (Value × Value)
  | .name key, scope =>
      seek environment (bareName key) (sources environment.settings true key scope scope.frames)
  | .expression receiver, scope =>
      match scope.frames with
      | [] => throw .invalidContext
      | frame :: _ => do
          let value ← receiver.evaluate environment frame.value scope
          return (← value.resolved, frame.value)

variable {environment : Environment} {segment : Segment}

theorem walk_first (reads : segment.Reads) (segments : List Segment) (scope : Scope) :
    walk environment true (segment :: segments) scope = (do
      let (value, context) ← first environment segment scope
      descend environment segments value context false scope) := by
  cases segment with
  | name key =>
    rw [walk, named, if_neg (by simpa using reads.1), climbed, if_neg (by simpa using reads.2)]
    rfl
  | expression receiver =>
    rw [walk, first]
    cases scope.frames with
    | nil => rfl
    | cons frame frames => simp only [bind_assoc, pure_bind]

theorem walk_of_not_reads (special : ¬segment.Reads) (scope : Scope) :
    ∃ error, walk environment true [segment] scope = throw error := by
  cases segment with
  | name key =>
    by_cases here : key = "."
    · exact ⟨.danglingSegment ".", by simp [walk, named, here]⟩
    · obtain rfl : key = ".." := Decidable.byContradiction fun up => special ⟨here, up⟩
      exact ⟨.danglingSegment "..", by simp [walk, named, climbed]⟩
  | expression => exact absurd trivial special

/-- What a path of one segment comes to is what this segment reads. -/
theorem first_of_evaluate {context value : Value} {scope : Scope} {registries after : Registries}
    (came : outcome ((Expression.path [segment]).evaluate environment context scope) registries =
      (.ok value, after)) :
    segment.Reads ∧ ∃ origin,
      outcome (first environment segment (scope.enter context)) registries =
        (.ok (value, origin), after) := by
  rw [Expression.evaluate, outcome_within] at came
  by_cases reads : segment.Reads
  · refine ⟨reads, ?_⟩
    rw [walk_first reads, outcome_bind] at came
    rcases found : outcome (first environment segment (scope.enter context)) registries with
      ⟨error | ⟨read, origin⟩, between⟩
    · simp [found] at came
    · simp only [found, descend, outcome_pure, Prod.mk.injEq, Except.ok.injEq] at came
      obtain ⟨rfl, rfl⟩ := came
      exact ⟨origin, rfl⟩
  · obtain ⟨error, failed⟩ := @walk_of_not_reads environment segment reads
      (scope.enter context)
    simp [failed] at came

theorem outcome_of_first (reads : segment.Reads) {context value origin : Value} {scope : Scope}
    {registries after : Registries}
    (found : outcome (first environment segment (scope.enter context)) registries =
      (.ok (value, origin), after)) (segments : List Segment) :
    outcome ((Expression.path (segment :: segments)).evaluate environment context scope) registries =
      outcome (within (fun _ => (Expression.path (segment :: segments)).text)
        (descend environment segments value origin false (scope.enter context))) after := by
  rw [Expression.evaluate, outcome_within, outcome_within, walk_first reads, outcome_bind_ok found]

/-- A path goes on from what a path of its first segment comes to. -/
theorem outcome_of_evaluate {context value : Value} {scope : Scope} {registries after : Registries}
    (came : outcome ((Expression.path [segment]).evaluate environment context scope) registries =
      (.ok value, after)) :
    ∃ origin, ∀ segments,
      outcome ((Expression.path (segment :: segments)).evaluate environment context scope)
          registries =
        outcome (within (fun _ => (Expression.path (segment :: segments)).text)
          (descend environment segments value origin false (scope.enter context))) after := by
  obtain ⟨reads, origin, found⟩ := first_of_evaluate came
  exact ⟨origin, outcome_of_first reads found⟩

section Index

variable {value origin : Value} {concatenated : Bool} {scope : Scope} {index : Expression}
  {elements : List Value}

theorem descend_of_null (segments : List Segment) :
    descend environment segments .null origin concatenated scope = pure (atNull segments) := by
  have null : Value.null.isNull = true := rfl
  cases segments with
  | nil => simp [descend, atNull]
  | cons segment segments =>
    cases segment with
    | name => simp [descend, atNull, null]
    | expression => rw [descend, if_pos null]

theorem descend_position (positional : isPositional index = true)
    (held : value.elements? = some elements) (segments : List Segment) :
    descend environment (.expression index :: segments) value origin concatenated scope = (do
      let position ← index.computed environment origin scope
      let element ← elementAt environment index elements position
      descend environment segments element origin false scope) := by
  cases value <;> cases held <;>
    simp [descend, indexed, Expression.computed, Value.isNull, Value.elements?, positional]

theorem descend_filter (filters : isPositional index = false)
    (held : value.elements? = some elements) (segments : List Segment) :
    descend environment (.expression index :: segments) value origin concatenated scope = (do
      let elements ← elementsOf value
      let kept ← filtered environment.converter
        (fun element => index.computed environment element scope) elements
      descend environment segments (.array kept) origin true scope) := by
  cases value <;> cases held <;>
    simp [descend, indexed, Expression.computed, Value.isNull, Value.elements?, filters]

end Index

end Segment

end PathQuery
