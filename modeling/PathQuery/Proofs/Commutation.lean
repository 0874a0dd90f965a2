import PathQuery.Proofs.Truncation

/-!
Sums and products of exact numbers of mixed types. Main statement: `operated_commutes`, with
widening neither depends on the order of the operands.
-/

namespace PathQuery

open Evaluation

/-- The types of exact numbers, each wider than the ones before it. -/
def ValueType.exact : List ValueType :=
  [.integer, .long, .bigInteger, .decimal]

/-- The wider one of two types of exact numbers. -/
def ValueType.wider (left right : ValueType) : ValueType :=
  if exact.idxOf left < exact.idxOf right then right else left

/-- Two results are the same: values of one type that are equal, or one error. -/
def SameResult : Except EvalError Value → Except EvalError Value → Prop
  | .ok first, .ok second => first.type = second.type ∧ first.same second = true
  | .error first, .error second => first = second
  | _, _ => False

namespace ValueType

theorem wider_comm : ∀ left ∈ exact, ∀ right ∈ exact, wider left right = wider right left := by
  decide

theorem wider_mem : ∀ left ∈ exact, ∀ right ∈ exact, wider left right ∈ exact := by
  decide

theorem wider_cases (left right : ValueType) : wider left right = left ∨ wider left right = right := by
  unfold wider
  split
  · exact .inr rfl
  · exact .inl rfl

/-- A left operand is widened just when its own type is not the wider one. -/
theorem richer_of_exact : ∀ left ∈ exact, ∀ right ∈ exact,
    richer? left right = if wider left right = left then none else some (wider left right) := by
  decide

theorem exact_subset_routes : ∀ type ∈ exact, type ∈ Conversion.routes := by
  decide

theorem isNumeric_of_exact : ∀ type ∈ exact, type.isNumeric = true := by
  decide

end ValueType

namespace Number.Decimal

theorem sameValue_of_isZero {left right : Decimal} (first : left.isZero = true)
    (second : right.isZero = true) : left.sameValue right = true := by
  simp only [isZero, beq_iff_eq] at first second
  rw [sameValue_iff, first, second, Int.zero_mul, Int.zero_mul]

theorem sameValue_refl (d : Decimal) : d.sameValue d = true :=
  sameValue_iff.mpr rfl

/-- A sum with zero has the decimal places of the other number, and of two zeros those of the
second, so sums of zeros are equal in value only. -/
theorem add_comm_of_not_zeros {left right : Decimal}
    (other : ¬(left.isZero = true ∧ right.isZero = true)) : left.add right = right.add left := by
  unfold add
  by_cases first : left.isZero = true
  · have second : ¬right.isZero = true := fun second => other ⟨first, second⟩
    rw [if_pos first, if_neg second, if_pos first]
  · by_cases second : right.isZero = true
    · rw [if_neg first, if_pos second, if_pos second]
    · rw [if_neg first, if_neg second, if_neg second, if_neg first, Nat.max_comm]
      dsimp only
      rw [Int.add_comm]

theorem mul_comm (left right : Decimal) : left.mul right = right.mul left := by
  rw [mul, mul, Int.mul_comm, Nat.add_comm]

end Number.Decimal

namespace Evaluation

/-- The operators of which the order of the operands makes no difference. -/
def commuting : List TokenKind := [.add, .multiply]

/-- The result of an operator for operands that are both brought to a type first. -/
def resultIn (environment : Environment) (operator : TokenKind) (type : ValueType)
    (left right : Value) : Except EvalError Value := do
  let left ← converted environment.converter left type
  let right ← converted environment.converter right type
  numericResult environment.settings.decimalPrecision operator left right

variable {environment : Environment} {operator : TokenKind} {left right : Value}

theorem mem_commuting : operator ∈ commuting ↔ operator = .add ∨ operator = .multiply := by
  simp [commuting]

section Results

variable (commutes : operator ∈ commuting)

include commutes

theorem wideResult_comm (a b : Int) : wideResult operator a b = wideResult operator b a := by
  rcases mem_commuting.mp commutes with rfl | rfl
  · simp [wideResult, wideResult?, divides, Int.add_comm]
  · simp [wideResult, wideResult?, divides, Int.mul_comm]

theorem integerResult_comm (a b : Int) : integerResult operator a b = integerResult operator b a := by
  rcases mem_commuting.mp commutes with rfl | rfl
  · exact congrArg Except.ok (Int.add_comm a b)
  · exact congrArg Except.ok (Int.mul_comm a b)

theorem decimalResult_comm (precision : Nat) (a b : Number.Decimal) :
    decimalResult? operator precision a b = decimalResult? operator precision b a ∨
      ∃ first second, decimalResult? operator precision a b = some first ∧
        decimalResult? operator precision b a = some second ∧ first.sameValue second = true := by
  rcases mem_commuting.mp commutes with rfl | rfl
  · by_cases zeros : a.isZero = true ∧ b.isZero = true
    · refine .inr ⟨b, a, ?_, ?_, Number.Decimal.sameValue_of_isZero zeros.2 zeros.1⟩
      · simp [decimalResult?, Number.Decimal.add, zeros]
      · simp [decimalResult?, Number.Decimal.add, zeros]
    · exact .inl (Number.Decimal.add_comm_of_not_zeros zeros)
  · exact .inl (Number.Decimal.mul_comm a b)

/-- The results of exact numbers of one type. -/
theorem numericResult_commutes (exact : left.type ∈ ValueType.exact) (same : right.type = left.type)
    (precision : Nat) :
    SameResult (numericResult precision operator left right)
        (numericResult precision operator right left) ∧
      ∀ result, numericResult precision operator left right = .ok result →
        result.type = left.type := by
  cases left with
  | integer a =>
    cases right with
    | integer b =>
      dsimp only [numericResult]
      rw [wideResult_comm commutes b.toInt]
      cases wideResult operator a.toInt b.toInt with
      | error => exact ⟨rfl, fun _ came => by cases came⟩
      | ok n =>
        cases held : Number.int32? n with
        | none => simp [held, SameResult, bind, Except.bind]
        | some m => simp [held, SameResult, bind, Except.bind, Value.same, Value.type]
    | _ => cases same
  | long a =>
    cases right with
    | long b =>
      dsimp only [numericResult]
      rw [wideResult_comm commutes b.toInt]
      cases wideResult operator a.toInt b.toInt with
      | error => exact ⟨rfl, fun _ came => by cases came⟩
      | ok n =>
        cases held : Number.int64? n with
        | none => simp [held, SameResult, bind, Except.bind]
        | some m => simp [held, SameResult, bind, Except.bind, Value.same, Value.type]
    | _ => cases same
  | bigInteger a =>
    cases right with
    | bigInteger b =>
      dsimp only [numericResult]
      rw [integerResult_comm commutes b]
      cases integerResult operator a b with
      | error => exact ⟨rfl, fun _ came => by cases came⟩
      | ok n => simp [SameResult, Except.map, Value.same, Value.type]
    | _ => cases same
  | decimal a =>
    cases right with
    | decimal b =>
      have multiplies : divides operator = false := by
        rcases mem_commuting.mp commutes with rfl | rfl <;> rfl
      dsimp only [numericResult]
      simp only [multiplies, Bool.false_and]
      rcases decimalResult_comm commutes precision a b with equal | ⟨first, second, one, other, equal⟩
      · rw [equal]
        cases decimalResult? operator precision b a with
        | none => exact ⟨rfl, fun _ came => by cases came⟩
        | some d => simp [SameResult, Value.same, Value.type, Number.Decimal.sameValue_refl]
      · rw [one, other]
        simp [SameResult, Value.same, Value.type, equal]
    | _ => cases same
  | _ => simp [ValueType.exact, Value.type] at exact

end Results

section Widening

variable (standard : environment.converter = Conversion.standard)
  (isLeft : left.type ∈ ValueType.exact) (isRight : right.type ∈ ValueType.exact)

theorem isNull_of_exact {value : Value} (exact : value.type ∈ ValueType.exact) :
    value.isNull = false := by
  cases value with
  | null => simp [ValueType.exact, Value.type] at exact
  | _ => rfl

include standard

theorem converted_itself {value : Value} (exact : value.type ∈ ValueType.exact) :
    converted environment.converter value value.type = .ok value := by
  have itself := Conversion.convert_itself (ValueType.exact_subset_routes _ exact)
  rw [converted, standard]
  exact congrArg (Except.mapError EvalError.conversion) itself

theorem type_of_converted {value result : Value} {target : ValueType}
    (exact : value.type ∈ ValueType.exact) (aim : target ∈ ValueType.exact)
    (came : converted environment.converter value target = .ok result) : result.type = target := by
  rw [converted, standard] at came
  have route := ValueType.exact_subset_routes _ exact
  by_cases same : value.type = target
  · subst same
    have itself := Conversion.convert_itself route
    simp only [Conversion.standard, itself, Except.mapError] at came
    cases came
    rfl
  · have other := Conversion.convert_of_other route (ValueType.exact_subset_routes _ aim) same
    simp only [Conversion.standard, other] at came
    cases found : Conversion.toType? value target with
    | none =>
      rw [found] at came
      cases came
    | some counterpart =>
      rw [found] at came
      cases came
      exact Conversion.type_of_toType found

include isLeft isRight

/-- An operator brings both operands to the wider one of their types. -/
theorem widened_of_exact (widens : environment.settings.alwaysWidenNumerics = true) :
    widened environment operator left right =
      resultIn environment operator (ValueType.wider left.type right.type) left right := by
  have numeric : left.isNumeric = true := ValueType.isNumeric_of_exact _ isLeft
  have numericRight : right.isNumeric = true := ValueType.isNumeric_of_exact _ isRight
  have computes {first : Value} (exact : first.type ∈ ValueType.exact) :
      arithmetic environment operator first right =
        (converted environment.converter right first.type).bind
          (numericResult environment.settings.decimalPrecision operator first) := by
    have number : first.isNumeric = true := ValueType.isNumeric_of_exact _ exact
    simp [arithmetic, isNull_of_exact exact, isNull_of_exact isRight, number, bind]
  have widening := ValueType.richer_of_exact _ isLeft _ isRight
  by_cases own : ValueType.wider left.type right.type = left.type
  · have stays : widen environment left right = .ok left := by
      simp [widen, widens, numeric, numericRight, widening, own]
    rw [widened, stays, resultIn, own, converted_itself standard isLeft]
    exact computes isLeft
  · have grows : widen environment left right =
        converted environment.converter left (ValueType.wider left.type right.type) := by
      simp [widen, widens, numeric, numericRight, widening, own]
    have aim := ValueType.wider_mem _ isLeft _ isRight
    rw [widened, grows, resultIn]
    cases came : converted environment.converter left (ValueType.wider left.type right.type) with
    | error error => rfl
    | ok first =>
      have grown := type_of_converted standard isLeft aim came
      rw [← grown] at aim ⊢
      exact computes aim

/-- One of the two conversions leaves its operand as it is, so only the other one can fail, and in
either order it fails in the same way. -/
theorem resultIn_commutes (commutes : operator ∈ commuting) :
    let type := ValueType.wider left.type right.type
    SameResult (resultIn environment operator type left right)
        (resultIn environment operator type right left) ∧
      ∀ result, resultIn environment operator type left right = .ok result →
        result.type = type := by
  intro type
  have aim : type ∈ ValueType.exact := ValueType.wider_mem _ isLeft _ isRight
  have single : (∃ first, converted environment.converter left type = .ok first) ∨
      ∃ second, converted environment.converter right type = .ok second := by
    rcases ValueType.wider_cases left.type right.type with own | own
    · exact .inl ⟨left, by rw [← converted_itself standard isLeft, ← own]⟩
    · exact .inr ⟨right, by rw [← converted_itself standard isRight, ← own]⟩
  unfold resultIn
  cases one : converted environment.converter left type with
  | error error =>
    obtain ⟨second, other⟩ := single.resolve_left (by simp [one])
    rw [other]
    exact ⟨rfl, nofun⟩
  | ok first =>
    cases other : converted environment.converter right type with
    | error error => exact ⟨rfl, nofun⟩
    | ok second =>
      have grown := type_of_converted standard isLeft aim one
      have matching := (type_of_converted standard isRight aim other).trans grown.symm
      rw [← grown] at aim ⊢
      exact numericResult_commutes commutes aim matching _

end Widening

end Evaluation

/-- With widening, a sum and a product of exact numbers are the same in either order of the
operands, or fail with the same error, and they have the wider one of the types of the operands. -/
theorem operated_commutes {environment : Environment}
    (standard : environment.converter = Conversion.standard)
    (widens : environment.settings.alwaysWidenNumerics = true) {left right : Value}
    (isLeft : left.type ∈ ValueType.exact) (isRight : right.type ∈ ValueType.exact)
    (unclaimedLeft : environment.Unclaimed left) (unclaimedRight : environment.Unclaimed right) :
    ∀ operator ∈ commuting,
      SameResult (operated environment operator left right)
          (operated environment operator right left) ∧
        ∀ result, operated environment operator left right = .ok result →
          result.type = ValueType.wider left.type right.type := by
  intro operator commutes
  have applies {first second : Value} (isFirst : first.type ∈ ValueType.exact)
      (isSecond : second.type ∈ ValueType.exact) (unclaimed : environment.Unclaimed first) :
      operated environment operator first second =
        resultIn environment operator (ValueType.wider first.type second.type) first second := by
    rw [unclaimed.operated, ← widened_of_exact standard isFirst isSecond widens]
    rcases mem_commuting.mp commutes with rfl | rfl
    · cases first with
      | null | string => simp [ValueType.exact, Value.type] at isFirst
      | _ => rfl
    · rfl
  rw [applies isLeft isRight unclaimedLeft, applies isRight isLeft unclaimedRight,
    ValueType.wider_comm _ isRight _ isLeft]
  exact resultIn_commutes standard isLeft isRight commutes

/-- A big integer that no decimal can hold is refused on either side of a decimal. -/
theorem operated_commutes_of_too_large :
    let environment : Environment :=
      { settings := { alwaysWidenNumerics := true, operatorOverloading := false } }
    let large := Value.bigInteger (2 ^ 96)
    let half := Value.decimal ⟨5, 1, by decide, by decide⟩
    let refused := EvalError.conversion (.failed "79228162514264337593543950336" .decimal)
    SameResult (operated environment .add large half) (operated environment .add half large) ∧
      operated environment .add large half = .error refused ∧
      operated environment .add half large = .error refused := by
  intro environment large half refused
  have commutes := @operated_commutes environment rfl rfl large half (by decide) (by decide)
    (Environment.unclaimed_of_disabled rfl _) (Environment.unclaimed_of_disabled rfl _)
  have fails : operated environment .add large half = .error refused := by rfl
  have same := (commutes .add (by decide)).1
  refine ⟨same, fails, ?_⟩
  rw [fails] at same
  cases came : operated environment .add half large with
  | ok => simp [came, SameResult] at same
  | error error =>
    rw [came] at same
    exact congrArg Except.error same.symm

end PathQuery
