import PathQuery.Proofs.Conversion
import PathQuery.Proofs.Decimal
import PathQuery.Proofs.Integers
import PathQuery.Proofs.Lexing.Decimals
import PathQuery.Proofs.Lexing.Identifiers

/-!
Conversion of numbers to integers. Main statement: `convert_truncates`, a number is converted to its
integral part, directly and by way of other types.
-/

namespace PathQuery

namespace Text

/-- A text without white space is left as it is. -/
theorem trimmed_of_solid {cs : List Char} (solid : ∀ c ∈ cs, isBlank c = false) :
    trimmed cs = cs := by
  have kept : ∀ cs : List Char, (∀ c ∈ cs, isBlank c = false) → cs.dropWhile isBlank = cs := by
    intro cs solid
    cases cs with
    | nil => rfl
    | cons c cs => simp [solid c List.mem_cons_self]
  rw [trimmed, kept cs solid, kept, List.reverse_reverse]
  exact fun c member => solid c (List.mem_reverse.mp member)

end Text

namespace Number

theorem isBlank_of_isDigit {c : Char} (digit : c.isDigit = true) : Text.isBlank c = false :=
  isBlank_of_isNameChar (by simp [isNameChar, Token.isAlphanum_of_isDigit digit])

theorem solid_integerChars (n : Int) : ∀ c ∈ integerChars n, Text.isBlank c = false := by
  have digits : ∀ c ∈ Nat.toDigits 10 n.natAbs, Text.isBlank c = false :=
    fun c member => isBlank_of_isDigit (isDigit_of_mem_digits n.natAbs c member)
  unfold integerChars
  split
  · exact List.forall_mem_cons.mpr ⟨rfl, digits⟩
  · exact digits

/-- A text with a point in it denotes no integer. -/
theorem integer_of_point {cs : List Char} (point : '.' ∈ cs) : integer? cs = none := by
  have groups : ∀ cs : List Char, '.' ∈ cs → grouped? cs = none := by
    intro cs point
    have mixed : ¬cs.all (fun c => c.isDigit || c == '_') = true := by
      intro all
      cases List.all_eq_true.mp all '.' point
    unfold grouped?
    split
    · rfl
    · rw [if_neg mixed, ite_self]
  unfold integer?
  split
  · rw [groups _ (by simpa using point)]
    rfl
  · rw [groups _ (by simpa using point)]
    rfl
  · rw [groups _ point]
    rfl

end Number

namespace Number.Decimal

theorem truncate_normalize (d : Decimal) : d.normalize.truncate = d.truncate := by
  obtain ⟨dropped, places, coefficient⟩ := d.normalize_spec
  have unit : ((Nat.pow 10 (d.normalize.scale + dropped) : Nat) : Int) =
      (Nat.pow 10 d.normalize.scale : Nat) * 10 ^ dropped := by
    rw [Nat.pow_eq, pow_add]
    push_cast
    rfl
  rw [truncate, truncate, coefficient, places, unit,
    Int.mul_tdiv_mul_of_pos_left _ _ (by positivity)]

theorem truncate_eq (d : Decimal) : d.truncate = towardZero (d.coefficient / 10 ^ d.scale) := by
  have unit : ((Nat.pow 10 d.scale : Nat) : Int) = 10 ^ d.scale := by simp
  rw [truncate, unit, ← towardZero_div]
  push_cast
  rfl

theorem ofChars_chars {d : Decimal} (placed : 0 < d.scale) : ofChars? d.chars = some d := by
  obtain ⟨whole, places, split, some, -, digits, numeric, length, value⟩ :=
    pointed_eq d.coefficient.natAbs placed
  have room := d.coefficient_lt
  rw [← value] at room
  have read := readDigits_pointed digits some numeric room (length ▸ d.scale_le)
  rw [value, length] at read
  have signed := ofChars_signed (decide (d.coefficient < 0)) read (head_of_digits some digits)
  rw [signed_natAbs, ofParts_eq] at signed
  rw [chars, split]
  simpa using signed

theorem chars_of_integral {d : Decimal} (integral : d.scale = 0) :
    d.chars = integerChars d.coefficient := by
  rw [chars, pointed, if_pos integral]
  rfl

theorem solid_chars (d : Decimal) : ∀ c ∈ d.chars, Text.isBlank c = false := by
  by_cases integral : d.scale = 0
  · rw [chars_of_integral integral]
    exact solid_integerChars d.coefficient
  · obtain ⟨whole, places, split, -, -, digits, numeric, -, -⟩ :=
      pointed_eq d.coefficient.natAbs (Nat.pos_of_ne_zero integral)
    have solid : ∀ c ∈ whole ++ '.' :: places, Text.isBlank c = false := by
      rw [List.forall_mem_append, List.forall_mem_cons]
      exact ⟨fun c member => isBlank_of_isDigit (digits c member), rfl,
        fun c member => isBlank_of_isDigit (numeric c member)⟩
    rw [chars, split]
    split
    · exact List.forall_mem_cons.mpr ⟨rfl, solid⟩
    · exact solid

theorem point_mem_chars {d : Decimal} (placed : 0 < d.scale) : '.' ∈ d.chars := by
  obtain ⟨whole, places, split, -⟩ := pointed_eq d.coefficient.natAbs placed
  rw [chars, split]
  split <;> simp

theorem truncate_of_ofInt {n : Int} {d : Decimal} (held : ofInt? n = some d) : d.truncate = n := by
  unfold ofInt? ofParts? at held
  split at held
  · cases held
    simp [truncate]
  · cases held

/-- A decimal is written with digits that have the same integral part. -/
theorem toInteger_chars (d : Decimal) :
    Conversion.toInteger? (.string (String.ofList d.chars)) = some d.truncate := by
  rw [Conversion.toInteger?, String.toList_ofList, Text.trimmed_of_solid d.solid_chars]
  by_cases integral : d.scale = 0
  · rw [chars_of_integral integral, integer_chars, truncate, integral]
    simp
  · have placed := Nat.pos_of_ne_zero integral
    rw [integer_of_point (point_mem_chars placed)]
    dsimp only
    rw [ofText?, String.toList_ofList, ofChars_chars placed]
    rfl

end Number.Decimal

/-- The number that a value is, apart from floating-point numbers. -/
def Value.rational? : Value → Option ℚ
  | .integer n => some n.toInt
  | .long n => some n.toInt
  | .bigInteger n => some n
  | .decimal d => some (d.coefficient / 10 ^ d.scale)
  | _ => none

namespace Conversion

variable {value converted : Value} {q : ℚ}

theorem toInteger_of_rational (exact : value.rational? = some q) :
    toInteger? value = some (towardZero q) := by
  cases value with
  | integer | long | bigInteger =>
    cases exact
    rw [toInteger?, towardZero_intCast]
  | decimal d =>
    cases exact
    rw [toInteger?, d.truncate_eq]
  | _ => cases exact

theorem toInteger_of_denotes {kind : IntegerType} {n : Int} (denotes : kind.Denotes value n) :
    toInteger? value = some n := by
  cases denotes <;> rfl

theorem toInteger_text (exact : value.rational? = some q) :
    toInteger? (.string value.text) = toInteger? value := by
  have whole (n : Int) : toInteger? (.string (Number.integerText n)) = some n := by
    simp [toInteger?, Number.integerText, Text.trimmed_of_solid (Number.solid_integerChars n),
      Number.integer_chars]
  cases value with
  | integer n => exact whole n.toInt
  | long n => exact whole n.toInt
  | bigInteger n => exact whole n
  | decimal d =>
    rw [toInteger?, ← d.truncate_normalize]
    exact d.normalize.toInteger_chars
  | _ => cases exact

theorem toType_integer (kind : IntegerType) (value : Value) :
    toType? value kind.type = (toInteger? value).bind fun n =>
      if kind.Holds n then some (kind.value n) else none := by
  cases content : toInteger? value with
  | none => cases kind <;> simp [toType?, IntegerType.type, content]
  | some n =>
    cases kind with
    | integer =>
      simp [toType?, IntegerType.type, IntegerType.value, content, IntegerType.int32_eq, apply_ite]
    | long =>
      simp [toType?, IntegerType.type, IntegerType.value, content, IntegerType.int64_eq, apply_ite]
    | bigInteger =>
      simp [toType?, IntegerType.type, IntegerType.value, content, IntegerType.Holds]

/-- The types by way of which a number may be converted to an integer. -/
def routes : List ValueType :=
  [.integer, .long, .bigInteger, .decimal, .string]

theorem denotes_of_type {kind : IntegerType} {n : Int} (same : value.type = kind.type)
    (content : toInteger? value = some n) : kind.Denotes value n := by
  cases kind with
  | integer =>
    cases value with
    | integer m =>
      cases content
      exact .integer m
    | _ => cases same
  | long =>
    cases value with
    | long m =>
      cases content
      exact .long m
    | _ => cases same
  | bigInteger =>
    cases value with
    | bigInteger m =>
      cases content
      exact .bigInteger _
    | _ => cases same

theorem possible_of_routes :
    ∀ source ∈ routes, ∀ target ∈ routes, possible source target = true := by
  decide

theorem integerType_mem_routes (kind : IntegerType) : kind.type ∈ routes := by
  cases kind <;> decide

theorem settled_of_route (route : value.type ∈ routes) : value.type ≠ .deferred :=
  ne_of_mem_of_not_mem route (by decide)

theorem convert_itself (route : value.type ∈ routes) : convert value value.type = .ok value := by
  rw [convert_of_settled (settled_of_route route), if_pos (by simp)]

theorem convert_of_other {target : ValueType} (route : value.type ∈ routes)
    (aim : target ∈ routes) (other : value.type ≠ target) :
    convert value target =
      (toType? value target).elim (.error (.failed value.text target)) .ok := by
  have path := possible_of_routes value.type route target aim
  have present : value.isNull = false := by
    cases value with
    | null => simp [routes, Value.type] at route
    | _ => rfl
  rw [convert_of_settled (settled_of_route route), if_neg (by simp [present, other]),
    if_neg (by simp [path])]

/-- A value with an integral part is converted to it, if the type has room for it. -/
theorem convert_integer (kind : IntegerType) {n : Int} (route : value.type ∈ routes)
    (content : toInteger? value = some n) :
    convert value kind.type = kind.fit (.failed value.text kind.type) n := by
  by_cases same : value.type = kind.type
  · have denotes := denotes_of_type same content
    rw [IntegerType.fit_eq_ok_iff.mpr denotes, ← same, convert_itself route]
  · rw [convert_of_other route (integerType_mem_routes kind) same, toType_integer, content,
      IntegerType.fit]
    by_cases room : kind.Holds n <;> simp [room]

theorem route_of_rational (exact : value.rational? = some q) : value.type ∈ routes := by
  cases value with
  | integer | long | bigInteger | decimal => simp [routes, Value.type]
  | _ => cases exact

theorem toInteger_of_toDecimal {d : Number.Decimal} (exact : value.rational? = some q)
    (other : value.type ≠ .decimal) (held : toDecimal? value = some d) :
    toInteger? (.decimal d) = toInteger? value := by
  cases value with
  | integer | long | bigInteger =>
    exact congrArg some (Number.Decimal.truncate_of_ofInt held)
  | decimal => exact absurd rfl other
  | _ => cases exact

/-- On every route a number keeps its integral part. -/
theorem toInteger_of_convert {route : ValueType} (exact : value.rational? = some q)
    (passes : route ∈ routes) (came : convert value route = .ok converted) :
    converted.type ∈ routes ∧ toInteger? converted = toInteger? value := by
  have own := route_of_rational exact
  have content := toInteger_of_rational exact
  by_cases same : value.type = route
  · rw [← same, convert_itself own] at came
    cases came
    exact ⟨own, rfl⟩
  have byInteger (kind : IntegerType) (target : route = kind.type) :
      converted.type ∈ routes ∧ toInteger? converted = toInteger? value := by
    subst target
    rw [convert_integer kind own content, IntegerType.fit_eq_ok_iff] at came
    exact ⟨came.type ▸ passes, (toInteger_of_denotes came).trans content.symm⟩
  have counterpart := convert_of_other own passes same
  rw [came] at counterpart
  simp only [routes, List.mem_cons, List.not_mem_nil, or_false] at passes
  rcases passes with rfl | rfl | rfl | rfl | rfl
  · exact byInteger .integer rfl
  · exact byInteger .long rfl
  · exact byInteger .bigInteger rfl
  · rw [toType?] at counterpart
    cases held : toDecimal? value with
    | none =>
      rw [held] at counterpart
      cases counterpart
    | some d =>
      rw [held] at counterpart
      cases counterpart
      exact ⟨by simp [routes, Value.type], toInteger_of_toDecimal exact same held⟩
  · cases counterpart
    exact ⟨by simp [routes, Value.type], toInteger_text exact⟩

end Conversion

/-- An integer or decimal is converted to its integral part if the target has room for that, and
fails otherwise. It does not matter by way of which other types. -/
theorem convert_truncates {value : Value} {q : ℚ} (exact : value.rational? = some q)
    (kind : IntegerType) :
    Conversion.standard.convert value kind.type =
      kind.fit (.failed value.text kind.type) (towardZero q) ∧
    (∀ n, kind.Holds n → kind.Denotes (kind.value n) n) ∧
    ∀ route ∈ Conversion.routes, ∀ converted,
      Conversion.standard.convert value route = .ok converted →
      (Conversion.standard.convert converted kind.type).toOption =
        (Conversion.standard.convert value kind.type).toOption := by
  have content := Conversion.toInteger_of_rational exact
  have direct := Conversion.convert_integer kind (Conversion.route_of_rational exact) content
  refine ⟨direct, fun n => IntegerType.denotes_value, ?_⟩
  intro route passes converted came
  obtain ⟨next, same⟩ := Conversion.toInteger_of_convert exact passes came
  have detour := Conversion.convert_integer kind next (same.trans content)
  simp only [Conversion.standard, detour, direct, IntegerType.fit]
  split <;> rfl

/-- A negative fraction, directly and by way of its text. -/
theorem convert_truncates_fraction :
    let value := Value.decimal ⟨-25, 1, by decide, by decide⟩
    Conversion.standard.convert value .string = .ok (.string "-2.5") ∧
      Conversion.standard.convert value .integer = .ok (.integer (-2)) ∧
      (Conversion.standard.convert (.string "-2.5") .integer).toOption = some (.integer (-2)) := by
  intro value
  have exact : value.rational? = some (((-25 : Int) : ℚ) / 10 ^ 1) := rfl
  have integral : towardZero (((-25 : Int) : ℚ) / 10 ^ 1) = -2 := by
    simpa using towardZero_div (-25) 10
  have text : Conversion.standard.convert value .string = .ok (.string "-2.5") := by
    rfl
  obtain ⟨direct, -, routes⟩ := convert_truncates exact .integer
  rw [integral] at direct
  exact ⟨text, direct, (routes .string (by decide) _ text).trans (by
    rw [direct]
    rfl)⟩

end PathQuery
