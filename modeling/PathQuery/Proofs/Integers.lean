import Mathlib.Data.Rat.Floor
import Mathlib.Tactic.Positivity
import PathQuery.Proofs.Overloading

/-!
Arithmetic of integers. Main statement: `operated_integers`, the operators come to the exact integer
if the type has room for it, and to an error otherwise.
-/

namespace PathQuery

open Evaluation

/-- The integer next to a number in the direction of zero. -/
def towardZero (q : ℚ) : Int :=
  if q < 0 then ⌈q⌉ else ⌊q⌋

theorem towardZero_neg (q : ℚ) : towardZero (-q) = -towardZero q := by
  unfold towardZero
  rcases lt_trichotomy q 0 with negative | rfl | positive
  · rw [if_neg (by linarith), if_pos negative, Int.floor_neg]
  · simp
  · rw [if_pos (by linarith), if_neg (by linarith), Int.ceil_neg]

theorem towardZero_natCast_div (m k : Nat) : towardZero (m / k) = m / k := by
  rw [towardZero, if_neg (not_lt.mpr (by positivity)), Rat.floor_natCast_div_natCast]

/-- The truncating division of integers rounds their quotient toward zero. -/
theorem towardZero_div (a b : Int) : towardZero (a / b) = a.tdiv b := by
  obtain ⟨m, rfl | rfl⟩ := a.eq_nat_or_neg <;> obtain ⟨k, rfl | rfl⟩ := b.eq_nat_or_neg <;>
    simp [neg_div, div_neg, towardZero_neg, towardZero_natCast_div, Int.tdiv_neg, Int.neg_tdiv]

@[simp] theorem towardZero_intCast (n : Int) : towardZero n = n := by
  simpa using towardZero_div n 1

/-- The types of integers. -/
inductive IntegerType where
  | integer
  | long
  | bigInteger

namespace IntegerType

def type : IntegerType → ValueType
  | integer => .integer
  | long => .long
  | bigInteger => .bigInteger

/-- The type has room for an integer. -/
def Holds : IntegerType → Int → Prop
  | integer, n => -2 ^ 31 ≤ n ∧ n < 2 ^ 31
  | long, n => -2 ^ 63 ≤ n ∧ n < 2 ^ 63
  | bigInteger, _ => True

instance : (kind : IntegerType) → (n : Int) → Decidable (kind.Holds n)
  | integer, n => inferInstanceAs (Decidable (-2 ^ 31 ≤ n ∧ n < 2 ^ 31))
  | long, n => inferInstanceAs (Decidable (-2 ^ 63 ≤ n ∧ n < 2 ^ 63))
  | bigInteger, _ => inferInstanceAs (Decidable True)

/-- A value is of the type and has an integer as its content. -/
inductive Denotes : IntegerType → Value → Int → Prop
  | integer (n : Int32) : Denotes .integer (.integer n) n.toInt
  | long (n : Int64) : Denotes .long (.long n) n.toInt
  | bigInteger (n : Int) : Denotes .bigInteger (.bigInteger n) n

/-- The value of the type for an integer that it has room for. -/
def value : IntegerType → Int → Value
  | integer, n => .integer (Int32.ofInt n)
  | long, n => .long (Int64.ofInt n)
  | bigInteger, n => .bigInteger n

/-- The value of the type for an integer, or a failure if the type has no room for it. -/
def fit {ε : Type} (kind : IntegerType) (failure : ε) (n : Int) : Except ε Value :=
  if kind.Holds n then .ok (kind.value n) else .error failure

variable {kind : IntegerType} {value : Value} {n : Int}

theorem denotes_value (holds : kind.Holds n) : kind.Denotes (kind.value n) n := by
  cases kind with
  | integer =>
    have content := Int32.toInt_ofInt_of_le holds.1 holds.2
    have denotes := Denotes.integer (Int32.ofInt n)
    rwa [content] at denotes
  | long =>
    have content := Int64.toInt_ofInt_of_le holds.1 holds.2
    have denotes := Denotes.long (Int64.ofInt n)
    rwa [content] at denotes
  | bigInteger => exact .bigInteger n

theorem Denotes.holds (denotes : kind.Denotes value n) : kind.Holds n := by
  cases denotes with
  | integer n => exact ⟨n.le_toInt, n.toInt_lt⟩
  | long n => exact ⟨n.le_toInt, n.toInt_lt⟩
  | bigInteger => trivial

theorem Denotes.eq_value (denotes : kind.Denotes value n) : value = kind.value n := by
  cases denotes with
  | integer n => rw [IntegerType.value, Int32.ofInt_toInt]
  | long n => rw [IntegerType.value, Int64.ofInt_toInt]
  | bigInteger => rfl

theorem Denotes.type (denotes : kind.Denotes value n) : value.type = kind.type := by
  cases denotes <;> rfl

theorem fit_eq_ok_iff {ε : Type} {failure : ε} :
    kind.fit failure n = .ok value ↔ kind.Denotes value n := by
  unfold fit
  constructor
  · intro came
    split at came
    · next room =>
      cases came
      exact denotes_value room
    · cases came
  · intro denotes
    rw [if_pos denotes.holds, ← denotes.eq_value]

theorem int32_eq (n : Int) :
    Number.int32? n = if integer.Holds n then some (Int32.ofInt n) else none := by
  have bounds : (-0x80000000 ≤ n && n < 0x80000000) = decide (integer.Holds n) := by
    rw [Bool.eq_iff_iff, decide_eq_true_eq]
    simp [Holds]
  rw [Number.int32?, bounds]
  simp only [decide_eq_true_eq]

theorem int64_eq (n : Int) :
    Number.int64? n = if long.Holds n then some (Int64.ofInt n) else none := by
  have bounds : (-0x8000000000000000 ≤ n && n < 0x8000000000000000) = decide (long.Holds n) := by
    rw [Bool.eq_iff_iff, decide_eq_true_eq]
    simp [Holds]
  rw [Number.int64?, bounds]
  simp only [decide_eq_true_eq]

end IntegerType

/-- Integers stay as they are in their own type, and the integer 1 has a counterpart in it. -/
structure Converter.KeepsIntegers (converter : Converter) (kind : IntegerType) : Prop where
  keeps {value : Value} {n : Int} : kind.Denotes value n →
    converter.convert value kind.type = .ok value
  one : converter.convert (.integer 1) kind.type = .ok (kind.value 1)

theorem Conversion.standard_keepsIntegers (kind : IntegerType) :
    Conversion.standard.KeepsIntegers kind where
  keeps denotes := by
    cases denotes <;> rfl
  one := by
    cases kind <;> rfl

section Arithmetic

/-- The operators that come to an integer for integers, but for powers. -/
def TokenKind.basicOperators : List TokenKind :=
  [.add, .subtract, .multiply, .divide, .modulo]

/-- The exact result of an operator for integers, if the divisor is not zero. A remainder is what
the quotient, rounded toward zero, leaves of the dividend. -/
def exactResult? : TokenKind → Int → Int → Option Int
  | .add, a, b => some (a + b)
  | .subtract, a, b => some (a - b)
  | .multiply, a, b => some (a * b)
  | .divide, a, b => if b = 0 then none else some (towardZero (a / b))
  | .modulo, a, b => if b = 0 then none else some (a - b * towardZero (a / b))
  | _, _, _ => none

/-- What an operator comes to in a type of integers. -/
def IntegerType.result (kind : IntegerType) (operator : TokenKind) :
    Option Int → Except EvalError Value
  | none => .error divisionByZero
  | some n => kind.fit (overflow operator) n

theorem TokenKind.mem_basicOperators {operator : TokenKind} :
    operator ∈ basicOperators ↔ operator = .add ∨ operator = .subtract ∨ operator = .multiply ∨
      operator = .divide ∨ operator = .modulo := by
  simp [basicOperators]

namespace Evaluation

variable {operator : TokenKind} (basic : operator ∈ TokenKind.basicOperators) {a b : Int}

include basic

theorem integerResult_eq (a b : Int) :
    integerResult operator a b =
      match exactResult? operator a b with
      | some n => .ok n
      | none => .error divisionByZero := by
  have remainder : a.tmod b = a - b * towardZero (a / b) := by
    rw [towardZero_div, Int.tmod_def]
  rcases TokenKind.mem_basicOperators.mp basic with rfl | rfl | rfl | rfl | rfl
  · rfl
  · rfl
  · rfl
  · by_cases zero : b = 0 <;> simp [integerResult, exactResult?, zero, towardZero_div]
  · by_cases zero : b = 0 <;> simp [integerResult, exactResult?, zero, remainder]

theorem exactResult_eq_none (a b : Int) :
    exactResult? operator a b = none ↔ (divides operator && b == 0) = true := by
  rcases TokenKind.mem_basicOperators.mp basic with rfl | rfl | rfl | rfl | rfl <;>
    simp [exactResult?, divides]

/-- No result of numbers of 64 bits needs more than 128 bits. -/
theorem wideResult_of_small (left : a.natAbs ≤ 2 ^ 63) (right : b.natAbs ≤ 2 ^ 63) {n : Int}
    (exact : exactResult? operator a b = some n) : wideResult? operator a b = some n := by
  have wide : ∀ m : Int, m.natAbs ≤ 2 ^ 126 → Number.int128? m = some m := by
    intro m small
    rw [Number.int128?, if_pos (by simp; omega)]
  have quotient : (a.tdiv b).natAbs ≤ 2 ^ 126 := by
    have smaller := Int.natAbs_tdiv_le_natAbs a b
    omega
  rcases TokenKind.mem_basicOperators.mp basic with rfl | rfl | rfl | rfl | rfl
  · cases exact
    exact wide _ (by omega)
  · cases exact
    exact wide _ (by omega)
  · cases exact
    refine wide _ ?_
    rw [Int.natAbs_mul]
    exact (Nat.mul_le_mul left right).trans (by decide)
  · obtain ⟨-, exact⟩ := Option.ite_none_left_eq_some.mp exact
    rw [towardZero_div] at exact
    cases exact
    exact wide _ quotient
  · obtain ⟨-, exact⟩ := Option.ite_none_left_eq_some.mp exact
    rw [towardZero_div, ← Int.tmod_def] at exact
    cases exact
    simp [wideResult?, wide _ quotient]

theorem wideResult_eq (left : a.natAbs ≤ 2 ^ 63) (right : b.natAbs ≤ 2 ^ 63) :
    wideResult operator a b = integerResult operator a b := by
  rw [integerResult_eq basic, wideResult]
  cases exact : exactResult? operator a b with
  | some n =>
    have divisible : ¬(divides operator && b == 0) = true := by
      rw [← exactResult_eq_none basic a, exact]
      exact nofun
    rw [if_neg divisible, wideResult_of_small basic left right exact]
  | none => rw [if_pos ((exactResult_eq_none basic a b).mp exact)]

end Evaluation

namespace IntegerType

theorem natAbs_le {kind : IntegerType} (fixed : kind ≠ .bigInteger) {n : Int}
    (holds : kind.Holds n) : n.natAbs ≤ 2 ^ 63 := by
  cases kind with
  | integer =>
    obtain ⟨lower, upper⟩ := holds
    omega
  | long =>
    obtain ⟨lower, upper⟩ := holds
    omega
  | bigInteger => exact absurd rfl fixed

end IntegerType

section

variable {environment : Environment} {kind : IntegerType} {operator : TokenKind}
  {left right converted : Value} {a b : Int}

theorem numericResult_integers (basic : operator ∈ TokenKind.basicOperators)
    (isLeft : kind.Denotes left a) (isRight : kind.Denotes right b) (precision : Nat) :
    numericResult precision operator left right =
      kind.result operator (exactResult? operator a b) := by
  have wide (fixed : kind ≠ .bigInteger) : wideResult operator a b = integerResult operator a b :=
    wideResult_eq basic (IntegerType.natAbs_le fixed isLeft.holds)
      (IntegerType.natAbs_le fixed isRight.holds)
  have exact := integerResult_eq basic a b
  cases isLeft with
  | integer =>
    cases isRight
    rw [numericResult, wide nofun, exact]
    cases exactResult? operator _ _ with
    | none => rfl
    | some n =>
      by_cases room : IntegerType.integer.Holds n <;>
        simp [IntegerType.result, IntegerType.fit, IntegerType.value, IntegerType.int32_eq, room,
          bind, Except.bind]
  | long =>
    cases isRight
    rw [numericResult, wide nofun, exact]
    cases exactResult? operator _ _ with
    | none => rfl
    | some n =>
      by_cases room : IntegerType.long.Holds n <;>
        simp [IntegerType.result, IntegerType.fit, IntegerType.value, IntegerType.int64_eq, room,
          bind, Except.bind]
  | bigInteger =>
    cases isRight
    rw [numericResult, exact]
    cases exactResult? operator _ _ <;> rfl

theorem arithmetic_integers (basic : operator ∈ TokenKind.basicOperators)
    (isLeft : kind.Denotes left a) (present : right.isNull = false)
    (came : environment.converter.convert right kind.type = .ok converted)
    (isRight : kind.Denotes converted b) :
    arithmetic environment operator left right =
      kind.result operator (exactResult? operator a b) := by
  have real : left.isNull = false := by cases isLeft <;> rfl
  have numeric : left.isNumeric = true := by cases isLeft <;> rfl
  rw [← numericResult_integers basic isLeft isRight environment.settings.decimalPrecision]
  simp [arithmetic, Evaluation.converted, real, present, numeric, isLeft.type, came,
    Except.mapError, bind, Except.bind]

/-- Operands of one type are not widened. -/
theorem widen_integers (isLeft : kind.Denotes left a) (isRight : kind.Denotes right b) :
    widen environment left right = .ok left := by
  unfold widen
  cases isLeft <;> cases isRight <;> split <;> rfl

theorem applied_integers (basic : operator ∈ TokenKind.basicOperators)
    (isLeft : kind.Denotes left a) (isRight : kind.Denotes right b) :
    applied environment operator left right = arithmetic environment operator left right := by
  have widens (operator : TokenKind) : widened environment operator left right =
      arithmetic environment operator left right := by
    rw [widened, widen_integers isLeft isRight]
    rfl
  rcases TokenKind.mem_basicOperators.mp basic with rfl | rfl | rfl | rfl | rfl
  · rw [applied, ← widens]
    cases isLeft <;> rfl
  · rw [applied, ← widens]
    cases isLeft <;> rfl
  · exact widens .multiply
  · exact widens .divide
  · exact widens .modulo

end

/-- The basic operators come to the exact integer in the type of the operands if the type has room
for it, and otherwise to an overflow, or to a division by zero if the divisor is zero; so do `++`
and `--` with the integer 1. The computation in 128 bits has room for every result. -/
theorem operated_integers {environment : Environment} {kind : IntegerType}
    (integral : environment.converter.KeepsIntegers kind) {left : Value} {a : Int}
    (isLeft : kind.Denotes left a) (unclaimed : environment.Unclaimed left) :
    (∀ operator ∈ TokenKind.basicOperators, ∀ right b, kind.Denotes right b →
      operated environment operator left right =
        kind.result operator (exactResult? operator a b)) ∧
    (∀ right, operated environment .increase left right = kind.result .add (some (a + 1))) ∧
    (∀ right, operated environment .decrease left right = kind.result .subtract (some (a - 1))) ∧
    (∀ n, kind.Holds n → kind.Denotes (kind.value n) n) ∧
    (kind ≠ .bigInteger → ∀ operator ∈ TokenKind.basicOperators, ∀ b n, kind.Holds b →
      exactResult? operator a b = some n → wideResult? operator a b = some n) := by
  have one : kind.Denotes (kind.value 1) 1 :=
    IntegerType.denotes_value (by cases kind <;> simp [IntegerType.Holds])
  refine ⟨?_, ?_, ?_, fun n => IntegerType.denotes_value, ?_⟩
  · intro operator basic right b isRight
    have present : right.isNull = false := by cases isRight <;> rfl
    rw [unclaimed.operated, applied_integers basic isLeft isRight,
      arithmetic_integers basic isLeft present (integral.keeps isRight) isRight]
  · intro right
    rw [unclaimed.operated, applied,
      arithmetic_integers (by decide) isLeft rfl integral.one one]
    rfl
  · intro right
    rw [unclaimed.operated, applied,
      arithmetic_integers (by decide) isLeft rfl integral.one one]
    rfl
  · intro fixed operator basic b n holds exact
    exact wideResult_of_small basic (IntegerType.natAbs_le fixed isLeft.holds)
      (IntegerType.natAbs_le fixed holds) exact

/-- The least long integer divided by -1 overflows, but leaves the remainder zero. -/
theorem operated_integers_of_least :
    let least := Value.long (-0x8000000000000000)
    IntegerType.long.Denotes least (-2 ^ 63) ∧ Environment.Unclaimed {} least ∧
      operated {} .divide least (.long (-1)) = .error (overflow .divide) ∧
      operated {} .modulo least (.long (-1)) = .ok (.long 0) := by
  intro least
  have isLeft : IntegerType.long.Denotes least (-2 ^ 63) := .long _
  have isRight : IntegerType.long.Denotes (.long (-1)) (-1) := .long _
  have unclaimed : Environment.Unclaimed {} least := Environment.unclaimed_of_silent nofun nofun
  have integral : ({} : Environment).converter.KeepsIntegers .long :=
    Conversion.standard_keepsIntegers .long
  have results := (operated_integers integral isLeft unclaimed).1
  have quotient : towardZero ((-2 ^ 63 : Int) / (-1 : Int)) = 2 ^ 63 := towardZero_div _ _
  refine ⟨isLeft, unclaimed, (results .divide (by decide) _ _ isRight).trans ?_,
    (results .modulo (by decide) _ _ isRight).trans ?_⟩
  · rw [exactResult?, if_neg (by decide), quotient]
    rfl
  · rw [exactResult?, if_neg (by decide), quotient]
    rfl

end Arithmetic

end PathQuery
