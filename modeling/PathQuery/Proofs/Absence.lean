import PathQuery.Proofs.Acceptance
import PathQuery.Proofs.Descent
import PathQuery.Proofs.Congruence
import PathQuery.Proofs.Route.Tower

/-!
Filters of lists that are missing. A path that filters null comes to an empty list, whatever stands
behind the filter; one that filters an empty list goes on with an empty list. Main statement:
`Segment.evaluate_absent`, when both come to the same.
-/

namespace PathQuery

open Evaluation

/-- Whether a segment filters the lists that it is applied to. -/
def Segment.isFilter : Segment → Bool
  | .expression index => !isPositional index
  | .name _ => false

namespace Evaluation

/-- A list without elements has none at any position. -/
theorem elementAt_nil {environment : Environment} {index : Expression} {position value : Value}
    (came : elementAt environment index [] position = .ok value) : value = .null := by
  unfold elementAt at came
  split at came
  · cases came
  · split at came
    · cases came
    · split at came
      · cases came
      · split at came <;> cases came <;> rfl

end Evaluation

namespace Segment

variable {environment : Environment} {value origin : Value} {concatenated : Bool} {scope : Scope}

theorem descend_isFilter_nil {segment : Segment} (filters : segment.isFilter = true)
    (hollow : value.elements? = some []) (segments : List Segment) :
    descend environment (segment :: segments) value origin concatenated scope =
      descend environment segments (.array []) origin true scope := by
  cases segment with
  | name => cases filters
  | expression index =>
    have none : elementsOf value = .ok [] := by
      rw [elementsOf, hollow]
      rfl
    rw [descend_filter (by simpa [isFilter] using filters) hollow, none]
    rfl

/-- Filters leave an empty list as it is. -/
theorem descend_dropWhile_isFilter (segments : List Segment) :
    descend environment segments (.array []) origin true scope =
      descend environment (segments.dropWhile isFilter) (.array []) origin true scope := by
  induction segments with
  | nil => rfl
  | cons segment segments ih =>
    by_cases filters : segment.isFilter = true
    · rw [descend_isFilter_nil filters rfl, List.dropWhile_cons_of_pos filters, ih]
    · rw [List.dropWhile_cons_of_neg filters]

/-- A name behind a filter goes to the elements, of which an empty list has none. -/
theorem descend_name_nil (byDefault : environment.settings = {}) (name : String)
    (segments : List Segment) :
    descend environment (.name name :: segments) (.array []) origin true scope =
      pure (.array []) := by
  have joined : selectsElement environment.settings true (bareName name) = false := by
    rw [byDefault]
    rfl
  simp [descend, Value.isNull, Value.isList, joined]
  rfl

/-- An index takes nothing but null from an empty list. -/
theorem descend_position_nil {index : Expression} (positional : isPositional index = true)
    (hollow : value.elements? = some []) (segments : List Segment) :
    descend environment (.expression index :: segments) value origin concatenated scope =
      descend environment [.expression index] value origin concatenated scope >>= fun _ =>
        pure (atNull segments) := by
  rw [descend_position positional hollow, descend_position positional hollow]
  simp only [bind_assoc]
  congr 1
  funext position
  cases found : elementAt environment index [] position with
  | error => rfl
  | ok element =>
    obtain rfl := elementAt_nil found
    rw [lift_ok_bind, lift_ok_bind, descend_of_null, descend_of_null, pure_bind]

theorem atNull_eq_array_iff (segments : List Segment) :
    atNull segments = .array [] ↔ segments.head?.any isFilter = true := by
  rcases segments with _ | ⟨_ | index, segments⟩
  · simp [atNull]
  · simp [atNull, isFilter]
  · cases positional : isPositional index <;> simp [atNull, isFilter, positional]

/-- Which segments behind a filter come to an empty list, if the filter is applied to one. -/
theorem descend_nil_eq_iff (byDefault : environment.settings = {}) (segments : List Segment)
    (hollow : value.elements? = some []) (registries : Registries) :
    (outcome (descend environment segments (.array []) origin true scope) registries).1 =
        .ok (.array []) ↔
      ∀ index behind, segments.dropWhile isFilter = .expression index :: behind →
        (∃ element, (outcome (descend environment [.expression index] value origin false scope)
          registries).1 = .ok element) ∧ behind.head?.any isFilter = true := by
  rw [descend_dropWhile_isFilter]
  have first := List.head?_dropWhile_not isFilter segments
  rcases remain : segments.dropWhile isFilter with _ | ⟨name | index, behind⟩
  · simp [descend]
  · simp [descend_name_nil byDefault]
  · have positional : isPositional index = true := by
      rw [remain] at first
      simpa [isFilter] using first
    -- where the list came from makes no difference to an index, it has no elements
    have same : descend environment [.expression index] (.array []) origin true scope =
        descend environment [.expression index] value origin false scope := by
      rw [descend_position positional rfl, descend_position positional hollow]
    rw [descend_position_nil positional rfl, same, outcome_bind]
    rcases came : outcome (descend environment [.expression index] value origin false scope)
      registries with ⟨error | element, after⟩ <;>
      simp [came, atNull_eq_array_iff]

end Segment

/-- A path that filters null comes to an empty list; one that filters an empty list comes to the
same, unless an index follows its filters that fails or has no filter behind it. -/
theorem Segment.evaluate_absent {environment : Environment} (byDefault : environment.settings = {})
    {segment : Segment} {filter : Expression} (filters : isPositional filter = false)
    (rest : List Segment) {absent empty list : Value} {scope : Scope} {registries : Registries}
    (missing : (outcome ((Expression.path [segment]).evaluate environment absent scope)
      registries).1 = .ok .null)
    (held : (outcome ((Expression.path [segment]).evaluate environment empty scope)
      registries).1 = .ok list)
    (hollow : list.elements? = some []) :
    let result := fun (segments : List Segment) (context : Value) =>
      (outcome ((Expression.path (segment :: segments)).evaluate environment context scope)
        registries).1
    result (.expression filter :: rest) absent = .ok (.array []) ∧
      (result (.expression filter :: rest) absent = result (.expression filter :: rest) empty ↔
        ∀ index behind, rest.dropWhile Segment.isFilter = .expression index :: behind →
          (∃ element, result [.expression index] empty = .ok element) ∧
            behind.head?.any Segment.isFilter = true) := by
  intro result
  obtain ⟨after, came⟩ := exists_outcome missing
  obtain ⟨behind, read⟩ := exists_outcome held
  obtain ⟨_, ofNull⟩ := Segment.outcome_of_evaluate came
  obtain ⟨origin, ofList⟩ := Segment.outcome_of_evaluate read
  have none : result (.expression filter :: rest) absent = .ok (.array []) := by
    simp only [result, ofNull, outcome_within_eq_ok_iff, descend_of_null, outcome_pure, atNull,
      filters]
    rfl
  refine ⟨none, ?_⟩
  rw [none, eq_comm]
  simp only [result, ofList, outcome_within_eq_ok_iff]
  rw [descend_isFilter_nil (by simpa [isFilter] using filters) hollow]
  exact descend_nil_eq_iff byDefault rest hollow _

/-- Whether the member `x` of a context is greater than one. -/
def Expression.exceedsOne : Expression :=
  .operation (some (.expression .expression (.path [.name "x"]))) ⟨.greater, ">"⟩
    (some (.literal .integerLiteral (.integer 1)))

theorem Segment.evaluate_absent_of_filtered_index :
    let result := fun segments context =>
      (outcome ((Expression.path (.name "a" :: segments)).evaluate {} context {}) settled).1
    let filter := Segment.expression .exceedsOne
    let segments := [filter, .expression (.literal (.integer 0)), filter]
    let empty := Value.object [("a", .array [])]
    result [] .null = .ok .null ∧ result [] empty = .ok (.array []) ∧
      result segments .null = .ok (.array []) ∧ result segments .null = result segments empty := by
  intro result filter segments empty
  have missing : result [] .null = .ok .null := by with_unfolding_all rfl
  have held : result [] empty = .ok (.array []) := by with_unfolding_all rfl
  obtain ⟨none, same⟩ := Segment.evaluate_absent rfl (show isPositional .exceedsOne = false by rfl)
    [.expression (.literal (.integer 0)), filter] missing held rfl
  refine ⟨missing, held, none, same.mpr ?_⟩
  intro index behind split
  cases split
  exact ⟨⟨.null, by with_unfolding_all rfl⟩, rfl⟩

/-- An index behind a filter takes an element of an empty list, but is passed over where the list is
missing. -/
theorem Segment.evaluate_absent_index_ne :
    let path := Expression.path
      [.name "a", .expression .exceedsOne, .expression (.literal (.integer 0))]
    let result := fun context => (outcome (path.evaluate {} context {}) settled).1
    (∃ expression, parse? {} "a[x > 1][0]" = .ok expression ∧ expression.same path = true) ∧
      result (.object []) = .ok (.array []) ∧ result (.object [("a", .array [])]) = .ok .null := by
  intro path result
  refine ⟨?_, by with_unfolding_all rfl, by with_unfolding_all rfl⟩
  obtain ⟨parts, expression, accepted, same⟩ := Accepted.of_passes {} "a[x > 1][0]"
    (fun _ expression => expression.same path) (by decide +kernel)
  exact ⟨expression, accepted.parsed, same⟩

end PathQuery
