import PathQuery.Proofs.Conversion
import PathQuery.Proofs.Overloading

/-!
Membership, equality and order. Main statements: `operated_membership`, a value is in a list if it
is equal to an element, and `operated_comparison`, of the operators `<`, `==` and `>` exactly one
holds for values of an ordered type.
-/

namespace PathQuery

open Evaluation

section Membership

/-- The operator `==` finds a value equal to what an element of a list comes to. -/
def Environment.Equates (environment : Environment) (needle element : Value) : Prop :=
  ∃ value, element.resolved = .ok value ∧
    operated environment .equals needle value = .ok (.boolean true)

namespace Evaluation

variable {converter : Converter} {needle : Value} {front : List Value}

theorem isFound_eq_equal (converter : Converter) (needle element : Value) :
    isFound converter needle element = equal converter needle element := by
  rw [isFound, equal, Bool.or_comm, Bool.and_comm]

theorem isElement_of_found
    (computed : ∀ element ∈ front, ∃ value, element.resolved = .ok value)
    (found : ∃ element ∈ front, ∃ value, element.resolved = .ok value ∧
      equal converter needle value = true) (rest : List Value) :
    isElement converter needle (front ++ rest) = .ok true := by
  induction front with
  | nil =>
    obtain ⟨element, member, -⟩ := found
    cases member
  | cons element front ih =>
    rw [List.forall_mem_cons] at computed
    obtain ⟨value, came⟩ := computed.1
    rw [List.cons_append, isElement, came]
    dsimp only
    rw [isFound_eq_equal]
    split
    · rfl
    · next missed =>
      -- the first element is another value, so the one that is equal stands behind it
      refine ih computed.2 ?_
      obtain ⟨holder, member, held, settled, same⟩ := found
      rcases List.mem_cons.mp member with rfl | member
      · rw [came] at settled
        cases settled
        exact absurd same missed
      · exact ⟨holder, member, held, settled, same⟩

theorem isElement_of_missed
    (computed : ∀ element ∈ front, ∃ value, element.resolved = .ok value)
    (missed : ¬∃ element ∈ front, ∃ value, element.resolved = .ok value ∧
      equal converter needle value = true) (rest : List Value) :
    isElement converter needle (front ++ rest) = isElement converter needle rest := by
  induction front with
  | nil => rfl
  | cons element front ih =>
    rw [List.forall_mem_cons] at computed
    obtain ⟨value, came⟩ := computed.1
    have other : ¬equal converter needle value = true :=
      fun same => missed ⟨element, List.mem_cons_self, value, came, same⟩
    rw [List.cons_append, isElement, came]
    dsimp only
    rw [isFound_eq_equal, if_neg other]
    refine ih computed.2 ?_
    rintro ⟨holder, member, held⟩
    exact missed ⟨holder, List.mem_cons_of_mem element member, held⟩

theorem contains_of_elements {list : Value} {elements : List Value}
    (isList : list.elements? = some elements) :
    contains converter list needle = isElement converter needle elements := by
  unfold contains
  rw [isList]

end Evaluation

section

variable {environment : Environment} {needle list : Value} {elements : List Value}
  (unclaimed : environment.Unclaimed needle)

include unclaimed

theorem Environment.Unclaimed.equates_iff (element : Value) :
    environment.Equates needle element ↔ ∃ value, element.resolved = .ok value ∧
      equal environment.converter needle value = true := by
  simp [Environment.Equates, unclaimed.operated, applied]

/-- A value is in a list exactly if it is equal to one of the elements. An element that cannot be
computed makes the operators fail, unless the value is found before it. -/
theorem operated_membership (isList : list.elements? = some elements) :
    ((∀ element ∈ elements, ∃ value, element.resolved = .ok value) →
      ∃ found, operated environment .isIn needle list = .ok (.boolean found) ∧
        operated environment .notIn needle list = .ok (.boolean !found) ∧
        (found = true ↔ ∃ element ∈ elements, environment.Equates needle element)) ∧
    ∀ front failing rest error, elements = front ++ failing :: rest →
      (∀ element ∈ front, ∃ value, element.resolved = .ok value) →
      failing.resolved = .error error →
      ((∃ element ∈ front, environment.Equates needle element) →
        operated environment .isIn needle list = .ok (.boolean true) ∧
          operated environment .notIn needle list = .ok (.boolean false)) ∧
      ((¬∃ element ∈ front, environment.Equates needle element) →
        operated environment .isIn needle list = .error error ∧
          operated environment .notIn needle list = .error error) := by
  have isIn : operated environment .isIn needle list =
      (isElement environment.converter needle elements).map .boolean := by
    rw [unclaimed.operated, applied, contains_of_elements isList]
  have notIn : operated environment .notIn needle list =
      (isElement environment.converter needle elements).map fun found => .boolean !found := by
    rw [unclaimed.operated, applied, contains_of_elements isList]
  simp only [isIn, notIn, unclaimed.equates_iff]
  constructor
  · intro computed
    by_cases found : ∃ element ∈ elements, ∃ value, element.resolved = .ok value ∧
        equal environment.converter needle value = true
    · have result := isElement_of_found computed found []
      rw [List.append_nil] at result
      exact ⟨true, by rw [result]; rfl, by rw [result]; rfl, iff_of_true rfl found⟩
    · have result := isElement_of_missed computed found []
      rw [List.append_nil] at result
      exact ⟨false, by rw [result]; rfl, by rw [result]; rfl, iff_of_false Bool.false_ne_true found⟩
  · rintro front failing rest error rfl computed failed
    constructor
    · intro found
      rw [isElement_of_found computed found]
      exact ⟨rfl, rfl⟩
    · intro missed
      rw [isElement_of_missed computed missed, isElement, failed]
      exact ⟨rfl, rfl⟩

end

/-- The value is found in what a deferred element comes to, before one that cannot be computed. -/
theorem operated_membership_of_deferred :
    let front : List Value := [.boolean true, .null, .deferred 0 (.ok (.long 2))]
    let list := Value.sequence 2 (front ++ [.deferred 1 (.error .invalidContext)])
    Environment.Unclaimed {} (.integer 2) ∧
      operated {} .isIn (.integer 2) list = .ok (.boolean true) ∧
      operated {} .notIn (.integer 2) list = .ok (.boolean false) := by
  intro front list
  have unclaimed : Environment.Unclaimed {} (.integer 2) :=
    Environment.unclaimed_of_silent nofun nofun
  have computed : ∀ element ∈ front, ∃ value, element.resolved = .ok value := by
    simp [front, Value.resolved]
  have equates : Environment.Equates {} (.integer 2) (.deferred 0 (.ok (.long 2))) :=
    ⟨.long 2, rfl, rfl⟩
  have isList : list.elements? = some (front ++ [.deferred 1 (.error .invalidContext)]) := rfl
  have result := (operated_membership unclaimed isList).2 front _ [] _ rfl computed rfl
  exact ⟨unclaimed, result.1 ⟨_, by simp [front], equates⟩⟩

end Membership

section Order

/-- The types whose values are ordered, each with equality as its own. -/
def ValueType.ordered : List ValueType :=
  [.integer, .long, .bigInteger, .decimal, .string, .boolean, .date]

def TokenKind.orderings : List TokenKind :=
  [.lesser, .lesserOrEquals, .greater, .greaterOrEquals]

namespace Evaluation

variable {converter : Converter} {left right converted : Value}

/-- Values of an ordered type are equal exactly if neither comes before the other. -/
theorem order_of_type (ordered : left.type ∈ ValueType.ordered)
    (came : converter.convert right left.type = .ok converted)
    (same : converted.type = left.type) :
    ∃ order, order? converter left right = .ok (some order) ∧
      (matching left converted = true ↔ order = .eq) := by
  unfold order?
  rw [came]
  cases left with
  | integer a =>
    cases converted with
    | integer b => exact ⟨_, rfl, by simp [matching, Value.same, Int32.toInt_inj]⟩
    | _ => cases same
  | long a =>
    cases converted with
    | long b => exact ⟨_, rfl, by simp [matching, Value.same, Int64.toInt_inj]⟩
    | _ => cases same
  | bigInteger a =>
    cases converted with
    | bigInteger b => exact ⟨_, rfl, by simp [matching, Value.same]⟩
    | _ => cases same
  | decimal a =>
    cases converted with
    | decimal b => exact ⟨_, rfl, by simp [matching, Value.same, Number.Decimal.sameValue]⟩
    | _ => cases same
  | string a =>
    cases converted with
    | string b => exact ⟨_, rfl, by simp [matching, Value.same]⟩
    | _ => cases same
  | boolean a =>
    cases converted with
    | boolean b => exact ⟨_, rfl, by simp [matching, Value.same]⟩
    | _ => cases same
  | date a =>
    cases converted with
    | date b => exact ⟨_, rfl, by simp [matching]⟩
    | _ => cases same
  | _ => simp [ValueType.ordered, Value.type] at ordered

/-- Null has no place among the values of an ordered type. -/
theorem order_of_null (ordered : left.type ∈ ValueType.ordered)
    (came : converter.convert right left.type = .ok .null) :
    matching left .null = false ∧ ∃ error, order? converter left right = .error error := by
  unfold order?
  rw [came]
  cases left with
  | integer | long | bigInteger | decimal | string | boolean | date =>
    exact ⟨by simp [matching, Value.same], _, rfl⟩
  | _ => simp [ValueType.ordered, Value.type] at ordered

theorem compared_of_present (operator : TokenKind) (left_present : left.isNull = false)
    (right_present : right.isNull = false) :
    compared converter operator left right =
      (order? converter left right).map fun order => .boolean (order.any (isOrder operator)) := by
  simp [compared, left_present, right_present]

theorem equal_of_converted (left_present : left.isNull = false)
    (right_present : right.isNull = false)
    (came : converter.convert right left.type = .ok converted) :
    equal converter left right = matching left converted := by
  simp [equal, left_present, right_present, came]

theorem applied_ordering (environment : Environment) {operator : TokenKind}
    (ordering : operator ∈ TokenKind.orderings) (left right : Value) :
    applied environment operator left right =
      compared environment.converter operator left right := by
  simp only [TokenKind.orderings, List.mem_cons, List.not_mem_nil, or_false] at ordering
  rcases ordering with rfl | rfl | rfl | rfl <;> rfl

end Evaluation

/-- An operator answers two operands with a truth value. -/
def Environment.Answers (environment : Environment) (operator : TokenKind) (left right : Value)
    (verdict : Bool) : Prop :=
  operated environment operator left right = .ok (.boolean verdict)

theorem isNull_of_ordered {left : Value} (ordered : left.type ∈ ValueType.ordered) :
    left.isNull = false := by
  cases left with
  | null => simp [ValueType.ordered, Value.type] at ordered
  | _ => rfl

section

variable {environment : Environment} {left right : Value}
  (standard : environment.converter = Conversion.standard)
  (unclaimed : environment.Unclaimed left) (ordered : left.type ∈ ValueType.ordered)
  (present : right.isNull = false)

include standard unclaimed ordered present

theorem answers_of_converts (converts : Conversion.Converts right left.type) :
    ∃ less equal greater, [less, equal, greater].count true = 1 ∧
      environment.Answers .lesser left right less ∧
      environment.Answers .equals left right equal ∧
      environment.Answers .greater left right greater ∧
      environment.Answers .lesserOrEquals left right (less || equal) ∧
      environment.Answers .greaterOrEquals left right (greater || equal) ∧
      environment.Answers .notEquals left right !equal := by
  obtain ⟨converted, came, real⟩ := converts
  have same : converted.type = left.type :=
    (Conversion.type_of_leads (Conversion.leads_of_convert came)).resolve_left (by simp [real])
  replace came : environment.converter.convert right left.type = .ok converted := by
    rw [standard]
    exact came
  obtain ⟨order, found, equates⟩ := order_of_type ordered came same
  have compares (operator : TokenKind) (ordering : operator ∈ TokenKind.orderings) :
      environment.Answers operator left right (isOrder operator order) := by
    rw [Environment.Answers, unclaimed.operated, applied_ordering environment ordering,
      compared_of_present operator (isNull_of_ordered ordered) present, found]
    rfl
  have equals : equal environment.converter left right = (order == .eq) := by
    rw [equal_of_converted (isNull_of_ordered ordered) present came, Bool.eq_iff_iff, equates,
      beq_iff_eq]
  have equalsAnswer : environment.Answers .equals left right (order == .eq) := by
    rw [Environment.Answers, unclaimed.operated, applied, equals]
  have differs : environment.Answers .notEquals left right !(order == .eq) := by
    rw [Environment.Answers, unclaimed.operated, applied, equals]
  refine ⟨order == .lt, order == .eq, order == .gt, ?_, compares .lesser (by decide),
    equalsAnswer, compares .greater (by decide), ?_, ?_, differs⟩
  · cases order <;> rfl
  · have answer := compares .lesserOrEquals (by decide)
    cases order <;> exact answer
  · have answer := compares .greaterOrEquals (by decide)
    cases order <;> exact answer

theorem answers_of_not_converts (unconverted : ¬Conversion.Converts right left.type) :
    environment.Answers .equals left right false ∧
      environment.Answers .notEquals left right true ∧
      ∀ operator ∈ TokenKind.orderings,
        ∃ error, operated environment operator left right = .error error := by
  have apart : equal environment.converter left right = false ∧
      ∃ error, order? environment.converter left right = .error error := by
    -- equality takes a failed conversion for a difference, the orderings report it
    rcases Conversion.convert_of_not_converts unconverted with ⟨error, came⟩ | came
    · replace came : environment.converter.convert right left.type = .error error := by
        rw [standard]
        exact came
      exact ⟨by simp [equal, isNull_of_ordered ordered, present, came],
        .conversion error, by rw [order?, came]; rfl⟩
    · replace came : environment.converter.convert right left.type = .ok .null := by
        rw [standard]
        exact came
      obtain ⟨other, fails⟩ := order_of_null ordered came
      exact ⟨by rw [equal_of_converted (isNull_of_ordered ordered) present came, other], fails⟩
  obtain ⟨unequal, error, failed⟩ := apart
  refine ⟨?_, ?_, fun operator ordering => ?_⟩
  · rw [Environment.Answers, unclaimed.operated, applied, unequal]
  · rw [Environment.Answers, unclaimed.operated, applied, unequal]
    rfl
  · rw [unclaimed.operated, applied_ordering environment ordering,
      compared_of_present operator (isNull_of_ordered ordered) present, failed]
    exact ⟨error, rfl⟩

end

/-- With a left operand of an ordered type, exactly one of the operators `<`, `==` and `>` holds if
the right operand has a counterpart in that type, and the others follow from these; otherwise the
operands are not equal, and the orderings fail. No ordering holds for null. -/
theorem operated_comparison {environment : Environment}
    (standard : environment.converter = Conversion.standard) :
    (∀ left right, environment.Unclaimed left → left.type ∈ ValueType.ordered →
      right.isNull = false →
      (Conversion.Converts right left.type →
        ∃ less equal greater, [less, equal, greater].count true = 1 ∧
          environment.Answers .lesser left right less ∧
          environment.Answers .equals left right equal ∧
          environment.Answers .greater left right greater ∧
          environment.Answers .lesserOrEquals left right (less || equal) ∧
          environment.Answers .greaterOrEquals left right (greater || equal) ∧
          environment.Answers .notEquals left right !equal) ∧
      (¬Conversion.Converts right left.type →
        environment.Answers .equals left right false ∧
          environment.Answers .notEquals left right true ∧
          ∀ operator ∈ TokenKind.orderings,
            ∃ error, operated environment operator left right = .error error)) ∧
    ∀ left right, environment.Unclaimed left → left.isNull = true ∨ right.isNull = true →
      ∀ operator ∈ TokenKind.orderings, environment.Answers operator left right false := by
  constructor
  · intro left right unclaimed ordered present
    exact ⟨answers_of_converts standard unclaimed ordered present,
      answers_of_not_converts standard unclaimed ordered present⟩
  · intro left right unclaimed absent operator ordering
    rw [Environment.Answers, unclaimed.operated, applied_ordering environment ordering, compared,
      if_pos (by simpa using absent)]

/-- Long integers are compared with the integral part of a decimal. -/
theorem operated_comparison_of_decimal :
    let environment : Environment := { settings := { operatorOverloading := false } }
    let left := Value.long (-2)
    let right := Value.decimal ⟨-25, 1, by decide, by decide⟩
    environment.Unclaimed left ∧ Conversion.Converts right left.type ∧
      ∃ less equal greater, [less, equal, greater].count true = 1 ∧
        environment.Answers .lesser left right less ∧
        environment.Answers .equals left right equal ∧
        environment.Answers .greater left right greater ∧
        environment.Answers .lesserOrEquals left right (less || equal) ∧
        environment.Answers .greaterOrEquals left right (greater || equal) ∧
        environment.Answers .notEquals left right !equal := by
  intro environment left right
  have standard : environment.converter = Conversion.standard := rfl
  have unclaimed : environment.Unclaimed left := Environment.unclaimed_of_disabled rfl left
  have converts : Conversion.Converts right left.type := ⟨.long (-2), rfl, rfl⟩
  have comparison := (operated_comparison standard).1 left right unclaimed (by decide) rfl
  exact ⟨unclaimed, converts, comparison.1 converts⟩

end Order

end PathQuery
