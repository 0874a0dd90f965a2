import PathQuery.Proofs.Blame.Bare

/-!
What operators compute is bare, if the operators of the host are.
-/

namespace PathQuery.Evaluation

variable {environment : Environment} {converter : Converter}

theorem bareResult_converted (bare : converter.Bare) {value : Value} (held : value.bare = true)
    (type : ValueType) : BareResult (converted converter value type) :=
  (bare value type held).mapError fun _ _ => rfl

section Arithmetic

theorem bareFailure_wideResult (operator : TokenKind) (a b : Int) :
    BareFailure (wideResult operator a b) := by
  unfold wideResult
  split
  · trivial
  · split <;> trivial

theorem bareFailure_integerResult (operator : TokenKind) (a b : Int) :
    BareFailure (integerResult operator a b) := by
  unfold integerResult
  split <;> first | trivial | split <;> trivial

theorem numericResult_bare (precision : Nat) (operator : TokenKind) (left right : Value) :
    BareResult (numericResult precision operator left right) := by
  unfold numericResult
  extract_lets fitted
  have fits {α : Type} (result : Option α) {value : α → Value}
      (scalar : ∀ fitting, (value fitting).bare = true) : BareResult (fitted result value) := by
    cases result with
    | none => rfl
    | some fitting => exact scalar fitting
  split
  · exact (bareFailure_wideResult operator _ _).bind fun _ _ => fits _ fun _ => rfl
  · exact (bareFailure_wideResult operator _ _).bind fun _ _ => fits _ fun _ => rfl
  · exact (bareFailure_integerResult operator _ _).map fun _ _ => rfl
  · rfl
  · split
    · rfl
    · exact fits _ fun _ => rfl
  · rfl

theorem arithmetic_bare (bare : environment.Bare) (operator : TokenKind) (left : Value)
    {right : Value} (held : right.bare = true) :
    BareResult (arithmetic environment operator left right) := by
  unfold arithmetic
  split
  · rfl
  · split
    · rfl
    · exact (bareResult_converted bare.converter held left.type).bind fun _ _ =>
        numericResult_bare _ operator left _

theorem widen_bare (bare : environment.Bare) {left : Value} (held : left.bare = true)
    (right : Value) : BareResult (widen environment left right) := by
  unfold widen
  split
  · split
    · exact bareResult_converted bare.converter held _
    · exact held
  · exact held

theorem widened_bare (bare : environment.Bare) (operator : TokenKind) {left right : Value}
    (leftHeld : left.bare = true) (rightHeld : right.bare = true) :
    BareResult (widened environment operator left right) :=
  (widen_bare bare leftHeld right).bind fun _ _ => arithmetic_bare bare operator _ rightHeld

theorem add_bare (bare : environment.Bare) {left right : Value} (leftHeld : left.bare = true)
    (rightHeld : right.bare = true) : BareResult (add environment left right) := by
  unfold add
  split
  · rfl
  · rfl
  · rfl
  · exact widened_bare bare .add leftHeld rightHeld

theorem subtract_bare (bare : environment.Bare) {left right : Value} (leftHeld : left.bare = true)
    (rightHeld : right.bare = true) : BareResult (subtract environment left right) := by
  have rest (left : Value) (held : left.bare = true) :
      BareResult (widened environment .subtract left right) :=
    widened_bare bare .subtract held rightHeld
  unfold subtract
  split
  · split
    · exact (bareResult_converted bare.converter rfl right.type).bind rest
    · exact rest (.long 0) rfl
  · split
    · exact rest left leftHeld
    · exact (bareResult_converted bare.converter leftHeld .float).bind rest

theorem bareFailure_exponent (bare : converter.Bare) {value : Value} (held : value.bare = true) :
    BareFailure (exponent converter value) := by
  refine (bareResult_converted bare held .integer).bind fun converted _ => ?_
  cases converted.int64? <;> trivial

theorem power_bare (bare : environment.Bare) {left right : Value} (leftHeld : left.bare = true)
    (rightHeld : right.bare = true) : BareResult (power environment left right) := by
  unfold power
  extract_lets converter
  split
  · rfl
  · refine (widen_bare bare leftHeld right).bind fun left held => ?_
    split
    · refine (bareFailure_exponent bare.converter rightHeld).bind fun n _ => ?_
      split <;> rfl
    · refine (bareFailure_exponent bare.converter rightHeld).bind fun n _ => ?_
      split <;> rfl
    · split
      · refine (bareResult_converted bare.converter rightHeld left.type).bind fun right _ => ?_
        split
        · exact bareResult_converted bare.converter rfl left.type
        · rfl
      · rfl

end Arithmetic

section Comparison

theorem bareFailure_strictTruth (converter : Converter) (value : Value) :
    BareFailure (strictTruth converter value) := by
  unfold strictTruth
  split
  · trivial
  · split <;> trivial

theorem bareFailure_order (converter : Converter) (left right : Value) :
    BareFailure (order? converter left right) := by
  unfold order?
  have conversion :
      BareFailure ((converter.convert right left.type).mapError EvalError.conversion) := by
    cases converter.convert right left.type <;> trivial
  refine conversion.bind fun right _ => ?_
  split <;> trivial

theorem bareFailure_isElement (converter : Converter) (needle : Value) {elements : List Value}
    (bare : ∀ element ∈ elements, element.bare = true) :
    BareFailure (isElement converter needle elements) := by
  induction elements with
  | nil => trivial
  | cons element elements ih =>
    rw [List.forall_mem_cons] at bare
    have resolved := Value.bareResult_resolved bare.1
    rw [isElement]
    split
    · next error failed => rwa [failed] at resolved
    · split
      · trivial
      · exact ih bare.2

theorem bareFailure_contains (converter : Converter) {whole : Value} (bare : whole.bare = true)
    (needle : Value) : BareFailure (contains converter whole needle) := by
  unfold contains
  split
  · next elements list =>
    exact bareFailure_isElement converter needle (Value.bare_of_mem_elements bare list)
  · split <;> trivial

end Comparison

theorem bareFailure_matchesPattern (left right : Value) :
    BareFailure (matchesPattern left right) := by
  unfold matchesPattern
  split <;> trivial

theorem combined_bare (converter : Converter) (combine : Bool → Bool → Bool) (left right : Value) :
    BareResult (combined converter combine left right) :=
  (bareFailure_strictTruth converter left).bind fun _ _ =>
    (bareFailure_strictTruth converter right).bind fun _ _ => rfl

theorem compared_bare (converter : Converter) (operator : TokenKind) (left right : Value) :
    BareResult (compared converter operator left right) := by
  unfold compared
  split
  · rfl
  · exact (bareFailure_order converter left right).map fun _ _ => rfl

theorem bare_of_decided {operator : TokenKind} {left value : Value}
    (decided : decided? converter operator left = some value) : value.bare = true := by
  unfold decided? at decided
  split at decided
  · split at decided <;> cases decided
    rfl
  · split at decided <;> cases decided
    rfl
  · cases decided

theorem applied_bare (bare : environment.Bare) (operator : TokenKind) {left right : Value}
    (leftHeld : left.bare = true) (rightHeld : right.bare = true) :
    BareResult (applied environment operator left right) := by
  have decided {result : Except EvalError Bool} (f : Bool → Bool)
      (yields : BareFailure result) : BareResult (result.map fun b => .boolean (f b)) := by
    cases result with
    | ok b => rfl
    | error error => exact yields
  cases operator with
  | add => exact add_bare bare leftHeld rightHeld
  | subtract => exact subtract_bare bare leftHeld rightHeld
  | multiply | divide | modulo => exact widened_bare bare _ leftHeld rightHeld
  | power => exact power_bare bare leftHeld rightHeld
  | increase | decrease => exact arithmetic_bare bare _ left rfl
  | bitwiseAnd | bitwiseOr | xor | notXor => exact combined_bare environment.converter _ left right
  | greater | greaterOrEquals | lesser | lesserOrEquals =>
    exact compared_bare environment.converter _ left right
  | isIn => exact decided id (bareFailure_contains environment.converter rightHeld left)
  | notIn => exact decided (!·) (bareFailure_contains environment.converter rightHeld left)
  | matching =>
    rw [applied]
    split
    · rfl
    · exact decided id (bareFailure_matchesPattern left right)
  | notMatching =>
    rw [applied]
    split
    · rfl
    · exact decided (!·) (bareFailure_matchesPattern left right)
  | _ => rfl

theorem operated_bare (bare : environment.Bare) (operator : TokenKind) {left right : Value}
    (leftHeld : left.bare = true) (rightHeld : right.bare = true) :
    BareResult (operated environment operator left right) := by
  unfold operated overloaded?
  split
  · split
    · next executor answered =>
      obtain ⟨executor, member, answered⟩ := List.exists_of_findSome?_eq_some answered
      exact bare.executors executor member left operator right _ leftHeld rightHeld answered
    · split
      · next ref _ =>
        cases answered : (environment.host.object ref).operate operator right with
        | none => exact applied_bare bare operator leftHeld rightHeld
        | some result => exact bare.host.operate ref operator right result rightHeld answered
      · exact applied_bare bare operator leftHeld rightHeld
  · exact applied_bare bare operator leftHeld rightHeld

end PathQuery.Evaluation
