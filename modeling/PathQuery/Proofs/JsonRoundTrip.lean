import PathQuery.Value.Json

/-!
Documents that are read as values and written back. Main statement: `Json.ofValue_ofJson`.
-/

namespace PathQuery.Json

mutual

/-- The numbers in a document. -/
def numbers : Json → List Json
  | integer n => [integer n]
  | float x => [float x]
  | array elements => numbersOf elements
  | object members => numbersOfMembers members
  | null | bool _ | string _ => []

def numbersOf : List Json → List Json
  | [] => []
  | element :: elements => numbers element ++ numbersOf elements

def numbersOfMembers : List (String × Json) → List Json
  | [] => []
  | (_, member) :: members => numbers member ++ numbersOfMembers members

end

/-- Whether a number is one that documents hold: an integer of 64 bits, with or without a sign, or a
finite floating-point number. -/
def isHeld : Json → Bool
  | integer n => holdsInteger n
  | float x => Number.Binary64.isFinite x
  | _ => false

/-- Whether a number is no integer above those of 64 bits with a sign. -/
def IsSigned (number : Json) : Prop :=
  ∀ n, number = integer n → n < 0x8000000000000000

section Documents

variable {hosts : HostRef → Json}

theorem ofFloat_ne_integer (x : Float) (n : Int) : ofFloat x ≠ integer n := by
  unfold ofFloat
  split <;> nofun

/-- An integer is read as the narrowest one that holds it. Written back, one that needs all 64 bits
without a sign becomes a floating-point number. -/
theorem ofValue_ofInteger {n : Int} (held : isHeld (integer n) = true) :
    ofValueWith hosts (Value.ofJson (integer n)) = integer n ↔ IsSigned (integer n) := by
  have least : -0x8000000000000000 ≤ n := by
    simp only [isHeld, holdsInteger, Bool.and_eq_true, decide_eq_true_eq] at held
    exact held.1
  have signed : IsSigned (integer n) ↔ n < 0x8000000000000000 :=
    ⟨fun signed => signed n rfl, fun bound m same => integer.inj same ▸ bound⟩
  rw [signed, Value.ofJson]
  cases small : Number.int32? n with
  | some m =>
    have same := Number.toInt_of_int32 small
    have bound := m.toInt_lt
    refine iff_of_true ?_ (by omega)
    dsimp only
    rw [ofValueWith, same]
  | none =>
    cases medium : Number.int64? n with
    | some m =>
      have same := Number.toInt_of_int64 medium
      have bound := m.toInt_lt
      refine iff_of_true ?_ (by omega)
      dsimp only
      rw [ofValueWith, same]
    | none =>
      refine iff_of_false ?_ fun bound => ?_
      · dsimp only
        rw [ofValueWith, ofInt, medium]
        exact ofFloat_ne_integer _ n
      · simp only [Number.int64?, Bool.and_eq_true, decide_eq_true_eq, ite_eq_right_iff,
          reduceCtorEq, imp_false, not_and] at medium
        exact medium least bound

theorem ofValue_ofFloat {x : Float} (held : isHeld (float x) = true) :
    ofValueWith hosts (Value.ofJson (float x)) = float x ↔ IsSigned (float x) := by
  have finite : Number.Binary64.isFinite x = true := held
  refine iff_of_true ?_ nofun
  rw [Value.ofJson, ofValueWith, ofFloat, if_pos finite]

mutual

theorem ofValueWith_ofJson : ∀ json : Json, (∀ number ∈ json.numbers, number.isHeld = true) →
    (ofValueWith hosts (Value.ofJson json) = json ↔ ∀ number ∈ json.numbers, number.IsSigned)
  | null, _ | bool _, _ | string _, _ => by
    simp [Value.ofJson, ofValueWith, numbers]
  | integer n, held => by
    rw [numbers] at held ⊢
    rw [List.forall_mem_singleton] at held ⊢
    exact ofValue_ofInteger held
  | float x, held => by
    rw [numbers] at held ⊢
    rw [List.forall_mem_singleton] at held ⊢
    exact ofValue_ofFloat held
  | array elements, held => by
    rw [Value.ofJson, ofValueWith, numbers, array.injEq]
    exact ofElementsWith_ofJson elements held
  | object members, held => by
    rw [Value.ofJson, ofValueWith, numbers, object.injEq]
    exact ofFieldsWith_ofJson members held

theorem ofElementsWith_ofJson : ∀ elements : List Json,
    (∀ number ∈ numbersOf elements, number.isHeld = true) →
    (ofElementsWith hosts (Value.ofJsonElements elements) = elements ↔
      ∀ number ∈ numbersOf elements, number.IsSigned)
  | [], _ => by
    simp [Value.ofJsonElements, ofElementsWith, numbersOf]
  | element :: elements, held => by
    rw [numbersOf, List.forall_mem_append] at held
    rw [Value.ofJsonElements, ofElementsWith, numbersOf, List.forall_mem_append, List.cons.injEq,
      ofValueWith_ofJson element held.1, ofElementsWith_ofJson elements held.2]

theorem ofFieldsWith_ofJson : ∀ members : List (String × Json),
    (∀ number ∈ numbersOfMembers members, number.isHeld = true) →
    (ofFieldsWith hosts (Value.ofJsonMembers members) = members ↔
      ∀ number ∈ numbersOfMembers members, number.IsSigned)
  | [], _ => by
    simp [Value.ofJsonMembers, ofFieldsWith, numbersOfMembers]
  | (name, member) :: members, held => by
    rw [numbersOfMembers, List.forall_mem_append] at held
    rw [Value.ofJsonMembers, ofFieldsWith, numbersOfMembers, List.forall_mem_append,
      List.cons.injEq, Prod.mk.injEq, ofValueWith_ofJson member held.1,
      ofFieldsWith_ofJson members held.2, and_iff_right rfl]

end

end Documents

/-- A document that is read as a value is written back as it was just when no integer in it needs
all 64 bits without a sign. -/
theorem ofValue_ofJson (host : Host) (json : Json)
    (held : ∀ number ∈ json.numbers, number.isHeld = true) :
    ofValue host (Value.ofJson json) = json ↔ ∀ number ∈ json.numbers, number.IsSigned :=
  ofValueWith_ofJson json held

theorem ofValue_ofJson_nested :
    let json := object [("a", array [integer 2147483648, float 2.5, null]),
      ("b", object [("c", integer (-9223372036854775808)), ("d", string "e")])]
    (∀ number ∈ json.numbers, number.isHeld = true) ∧ ofValue {} (Value.ofJson json) = json := by
  intro json
  have numbers : json.numbers =
      [integer 2147483648, float 2.5, integer (-9223372036854775808)] := rfl
  have held : ∀ number ∈ json.numbers, number.isHeld = true := by
    simp only [numbers, List.forall_mem_cons, List.not_mem_nil, false_implies, implies_true,
      and_true]
    exact ⟨by decide, by decide +kernel, by decide⟩
  refine ⟨held, (ofValue_ofJson {} json held).mpr ?_⟩
  simp [numbers, IsSigned]

/-- The greatest integer that a document can hold is not written back. -/
theorem ofValue_ofJson_ne_of_greatest :
    (∀ number ∈ (integer 18446744073709551615).numbers, number.isHeld = true) ∧
      ofValue {} (Value.ofJson (integer 18446744073709551615)) = float 18446744073709551616 ∧
      ofValue {} (Value.ofJson (integer 18446744073709551615)) ≠ integer 18446744073709551615 := by
  have written : ofValue {} (Value.ofJson (integer 18446744073709551615)) =
      float 18446744073709551616 := by
    rfl
  refine ⟨?_, written, ?_⟩
  · simp [numbers, isHeld, holdsInteger]
  · rw [written]
    nofun

end PathQuery.Json
