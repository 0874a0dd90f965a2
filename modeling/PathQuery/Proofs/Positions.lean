import PathQuery.Proofs.Descent
import PathQuery.Proofs.Laziness
import PathQuery.Proofs.Memory
import PathQuery.Proofs.ShortCircuit
import PathQuery.Proofs.Truncation

/-!
Elements of lists by their positions. Main statement: `Segment.evaluate_position`, a name such as
`$N` and an index `[N]` are the same step.
-/

namespace PathQuery

open Evaluation

theorem Value.prompt_getD {elements : List Value} (prompt : ∀ element ∈ elements, element.Prompt)
    (n : Nat) : (elements.getD n .null).Prompt := by
  rw [List.getD_eq_getElem?_getD]
  cases found : elements[n]? with
  | none =>
    intro value came
    cases came
    rfl
  | some element => exact prompt element (List.mem_of_getElem? found)

theorem Conversion.convert_integral {value : Value} {n : Int} {m : Int64}
    (integral : value.integral? = some n) (wide : Number.int64? n = some m) :
    convert value .long = .ok (.long m) := by
  have content : value.type ∈ routes ∧ toInteger? value = some n := by
    cases value with
    | integer | long | bigInteger => exact ⟨by simp [routes, Value.type], integral⟩
    | _ => cases integral
  have denotes : IntegerType.long.Denotes (.long m) n := Number.toInt_of_int64 wide ▸ .long m
  exact (convert_integer .long content.1 content.2).trans (IntegerType.fit_eq_ok_iff.mpr denotes)

/-- An index that is a natural number of 63 bits takes the element at this position. -/
theorem Evaluation.elementAt_integral {environment : Environment}
    (standard : environment.converter = Conversion.standard) {position : Value} {n : Nat}
    (integral : position.integral? = some (n : Int)) (small : n < 2 ^ 63) (index : Expression)
    (elements : List Value) :
    elementAt environment index elements position = (elements.getD n .null).resolved := by
  obtain ⟨m, wide⟩ : ∃ m, Number.int64? (n : Int) = some m := by
    refine ⟨Int64.ofInt n, if_pos ?_⟩
    simp only [Bool.and_eq_true, decide_eq_true_eq]
    omega
  have same := Number.toInt_of_int64 wide
  have present : position.isNull = false := by
    cases position <;> first | rfl | cases integral
  have positive : ¬m < 0 := by
    rw [Int64.lt_iff_toInt_lt, same]
    simp
  have converted := Conversion.convert_integral integral wide
  simp only [elementAt, present, standard, Conversion.standard, converted, Value.int64?, positive,
    same]
  simp

section Steps

variable {environment : Environment} {value origin : Value} {concatenated : Bool} {scope : Scope}
  {elements : List Value} {n : Nat}

theorem Segment.descend_dollar (byDefault : environment.settings = {})
    (isList : value.elements? = some elements) {name : String}
    (position : Accessor.position? (bareName name) = some n) (segments : List Segment) :
    descend environment (.name name :: segments) value origin false scope = (do
      let element ← member environment value (bareName name)
      descend environment segments element origin false scope) := by
  have selects : selectsElement environment.settings false (bareName name) = true := by
    rw [byDefault, selectsElement, position]
    rfl
  have list : value.isList = true := by rw [Value.isList_eq_isSome, isList]; rfl
  simp [descend, Value.isNull_of_elements isList, list, selects]

theorem Segment.descend_integral (standard : environment.converter = Conversion.standard)
    (isList : value.elements? = some elements) {position : Value}
    (integral : position.integral? = some (n : Int)) (small : n < 2 ^ 63)
    (segments : List Segment) :
    descend environment (.expression (.literal position) :: segments) value origin concatenated
        scope = (do
      let element ← (elements.getD n .null).resolved
      descend environment segments element origin false scope) := by
  have positional : isPositional (.literal position) = true := by
    cases position <;> first | rfl | cases integral
  have itself : (Expression.literal position).computed environment origin scope = pure position := by
    rw [Expression.computed, Expression.evaluate]
    cases position <;> first | rfl | cases integral
  rw [descend_position positional isList, itself, pure_bind,
    elementAt_integral standard integral small]

theorem Value.member_dollar (isList : value.elements? = some elements)
    (prompt : ∀ element ∈ elements, element.Prompt) (host : Host) {name : String}
    (position : Accessor.position? name = some n) :
    value.member host name = (elements.getD n .null).resolved := by
  rw [Value.member_of_elements isList, position]
  dsimp only
  have settled := Value.prompt_getD prompt n
  cases came : (elements.getD n .null).resolved with
  | error error => rfl
  | ok element => exact settled element came

end Steps

/-- On a list, a name that stands for a position is the same step as an index in brackets that is the
same number. -/
theorem Segment.evaluate_position {environment : Environment}
    (byDefault : environment.settings = {}) (standard : environment.converter = Conversion.standard)
    {registries : Registries} (accessors : registries.accessors.Standard)
    {segment : Segment} {context list : Value} {scope : Scope} {elements : List Value}
    (held : (outcome ((Expression.path [segment]).evaluate environment context scope)
      registries).1 = .ok list)
    (isList : list.elements? = some elements) (prompt : ∀ element ∈ elements, element.Prompt)
    {name : String} {position : Value} {n : Nat}
    (named : Accessor.position? (bareName name) = some n)
    (integral : position.integral? = some (n : Int)) (small : n < 2 ^ 63) (rest : List Segment) :
    let result := fun segments => (outcome ((Expression.path (segment :: segments)).evaluate
      environment context scope) registries).1.mapError EvalError.rootCause
    result (.name name :: rest) = result (.expression (.literal position) :: rest) := by
  intro result
  obtain ⟨after, came⟩ := exists_outcome held
  obtain ⟨origin, goes⟩ := Segment.outcome_of_evaluate came
  have causes : ∀ segments, result segments = (outcome (descend environment segments list origin
      false (scope.enter context)) after).1.mapError EvalError.rootCause := by
    intro segments
    simp only [result, goes]
    exact congrArg Prod.fst (alike_within _ _ after)
  have governs : (registries.regime environment.settings).Governs environment := by
    apply Registries.governs_regime
    apply MethodRegistry.steady_of_impartial
    intro loads
    rw [byDefault] at loads
    cases loads
  have clean := @Registries.not_spoiled_of_standard environment.settings registries accessors
  have kept := (governs.determined (Expression.composed environment _ context scope)).keeps
    Registries.kept_base came (clean after)
  have behind := (Segment.composed environment rest).descend
  rw [causes, causes, descend_dollar byDefault isList named,
    descend_integral standard isList integral small]
  -- both take the same element, and reading it as a member only leaves its accessor behind
  have read : (outcome (member environment list (bareName name)) after).1 =
      list.member environment.host (bareName name) :=
    Registries.member_of_standard accessors kept list (bareName name)
  have taken := read.trans (Value.member_dollar isList prompt environment.host named)
  rw [outcome_bind, outcome_bind, outcome_lift, ← taken]
  rcases reads : outcome (member environment list (bareName name)) after with
    ⟨error | element, between⟩
  · rfl
  · have keptBetween := (governs.member list (bareName name)).keeps kept reads (clean between)
    have same := (governs.determined (behind element origin false (scope.enter context))).result_eq
      keptBetween kept (clean _) (clean _)
    exact congrArg (Except.mapError EvalError.rootCause) same

theorem Segment.evaluate_position_of_row :
    let registries : Registries := { methods := {} }
    let rows := [Value.object [("cell", .integer 5)]]
    let context := Value.object [("rows", .sequence 0 rows)]
    let outcomeOf := fun segments => outcome
      ((Expression.path (.name "rows" :: segments)).evaluate {} context {}) registries
    let index := Segment.expression (.literal (.integer 0))
    registries.accessors.Standard ∧ (outcomeOf []).1 = .ok (.sequence 0 rows) ∧
      (∀ row ∈ rows, row.Prompt) ∧ Accessor.position? (bareName "$0") = some 0 ∧
      (outcomeOf [.name "$0", .name "cell"]).1.mapError EvalError.rootCause =
        (outcomeOf [index, .name "cell"]).1.mapError EvalError.rootCause := by
  intro registries rows context outcomeOf index
  have accessors := AccessorRegistry.standard_standard
  have held : (outcomeOf []).1 = .ok (.sequence 0 rows) := by with_unfolding_all rfl
  have prompt : ∀ row ∈ rows, row.Prompt := by
    intro row member value came
    obtain rfl := List.mem_singleton.mp member
    cases came
    rfl
  have named : Accessor.position? (bareName "$0") = some 0 := by decide +kernel
  refine ⟨accessors, held, prompt, named, ?_⟩
  exact Segment.evaluate_position rfl rfl accessors held rfl prompt named rfl (by decide)
    [.name "cell"]

end PathQuery
