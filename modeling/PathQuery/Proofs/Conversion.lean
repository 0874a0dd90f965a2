import PathQuery.Conversion

/-!
What a value is converted to by the standard conversions. Main statements: `leads_of_convert`, a
converted value is the value itself, its counterpart in the target, or either of these for what a
deferred value comes to, and `convert_of_settled`, the result for a value that is not deferred.
-/

namespace PathQuery.Conversion

/-- The ways from a value to what it is converted to. -/
inductive Leads (target : ValueType) : Value → Value → Prop
  | computed {handle : Nat} {value converted : Value} : Leads target value converted →
      Leads target (.deferred handle (.ok value)) converted
  | itself {value : Value} : value.isNull = true ∨ value.type = target → Leads target value value
  | counterpart {value converted : Value} : toType? value target = some converted →
      Leads target value converted

variable {value converted : Value} {target : ValueType}

theorem leads_of_convert (came : convert value target = .ok converted) :
    Leads target value converted := by
  fun_induction convert value target with
  | case1 handle value target ih => exact .computed (ih came)
  | case2 => cases came
  | case3 value target _ _ same =>
    cases came
    exact .itself (by simpa using same)
  | case4 => cases came
  | case5 value target _ _ _ _ result found =>
    cases came
    exact .counterpart found
  | case6 => cases came

theorem convert_of_settled (settled : value.type ≠ .deferred) (target : ValueType) :
    convert value target =
      if value.isNull || value.type == target then .ok value
      else if !possible value.type target then .error (.noPath value.type target)
      else (toType? value target).elim (.error (.failed value.text target)) .ok := by
  cases value with
  | deferred => exact absurd rfl settled
  | _ =>
    rw [convert]
    · cases toType? _ target <;> rfl
    · exact nofun
    · exact nofun

/-- A value has a counterpart in a type: it converts to one, and not to null. -/
def Converts (value : Value) (type : ValueType) : Prop :=
  ∃ converted, convert value type = .ok converted ∧ converted.isNull = false

theorem type_of_toType (counterpart : toType? value target = some converted) :
    converted.type = target := by
  cases target with
  | string =>
    cases counterpart
    rfl
  | boolean | integer | long | bigInteger | float | decimal | date | array =>
    obtain ⟨content, -, rfl⟩ := Option.map_eq_some_iff.mp counterpart
    rfl
  | _ => cases counterpart

/-- Only null, and what comes to null, is converted to null. -/
theorem type_of_leads (leads : Leads target value converted) :
    converted.isNull = true ∨ converted.type = target := by
  induction leads with
  | computed _ ih => exact ih
  | itself same => exact same
  | counterpart found => exact .inr (type_of_toType found)

theorem convert_of_not_converts (unconverted : ¬Converts value target) :
    (∃ error, convert value target = .error error) ∨ convert value target = .ok .null := by
  cases came : convert value target with
  | error error => exact .inl ⟨error, rfl⟩
  | ok converted =>
    cases converted with
    | null => exact .inr rfl
    | _ => exact absurd ⟨_, came, rfl⟩ unconverted

end PathQuery.Conversion
