import PathQuery.Proofs.Lexing.Literals

/-!
The digits of integers, read back. Main statement: `number_of_digits`.
-/

namespace PathQuery

namespace Number

variable (n : Nat)

theorem isDigit_of_mem_digits : ∀ c ∈ Nat.toDigits 10 n, c.isDigit = true := fun _ member =>
  Nat.isDigit_of_mem_toDigits (by decide) (by decide) member

theorem grouped_digits : grouped? (Nat.toDigits 10 n) = some n := by
  have digit := isDigit_of_mem_digits n
  have kept : (Nat.toDigits 10 n).filter (· != '_') = Nat.toDigits 10 n := by
    refine List.filter_eq_self.mpr fun c member => ?_
    have numeric := digit c member
    rw [bne_iff_ne]
    rintro rfl
    cases numeric
  have all : (Nat.toDigits 10 n).all (fun c => c.isDigit || c == '_') = true := by
    rw [List.all_eq_true]
    intro c member
    simp [digit c member]
  unfold grouped?
  split
  · rename_i others split
    have numeric := digit '_' (by simp [split])
    cases numeric
  · simp only [all, kept, Nat.ofDigitChars_ten_toDigits]
    simp [Nat.toDigits_ne_nil]

theorem integer_digits : integer? (Nat.toDigits 10 n) = some (n : Int) := by
  have digit := isDigit_of_mem_digits n
  unfold integer?
  split
  · rename_i others split
    have numeric := digit '-' (by simp [split])
    cases numeric
  · rename_i others split
    have numeric := digit '+' (by simp [split])
    cases numeric
  · rw [grouped_digits]
    rfl

theorem integer_chars (n : Int) : integer? (integerChars n) = some n := by
  unfold integerChars
  split
  · rw [integer?, grouped_digits]
    show some (-(n.natAbs : Int)) = some n
    rw [Option.some.injEq]
    omega
  · rw [integer_digits, Option.some.injEq]
    omega

end Number

namespace PlacedPart

/-- The value of a number without the mark of unlimited size, or with it. -/
def valueOf (mark : List Char) (n : Int) : Value :=
  if mark.isEmpty then narrowest n else .bigInteger n

theorem valueOf_integer (n : Int32) : valueOf [] n.toInt = .integer n := by
  have lower := n.le_toInt
  have upper := n.toInt_lt
  have small : Number.int32? n.toInt = some n := by
    rw [Number.int32?, if_pos (by simp; omega), Int32.ofInt_toInt]
  simp [valueOf, narrowest, small]

theorem valueOf_long {n : Int64} (wide : Number.int32? n.toInt = none) :
    valueOf [] n.toInt = .long n := by
  have lower := n.le_toInt
  have upper := n.toInt_lt
  have medium : Number.int64? n.toInt = some n := by
    rw [Number.int64?, if_pos (by simp; omega), Int64.ofInt_toInt]
  simp [valueOf, narrowest, wide, medium]

@[simp] theorem valueOf_marked (n : Int) : valueOf ['b'] n = .bigInteger n := rfl

theorem splitMark_digits {digits mark : List Char} (numeric : ∀ c ∈ digits, c.isDigit = true)
    (marked : mark = [] ∨ mark = ['b']) :
    splitMark (digits ++ mark) = (digits, !mark.isEmpty) := by
  rcases marked with rfl | rfl
  · rw [List.append_nil, splitMark]
    split
    · rename_i last
      have digit := numeric _ (List.mem_of_getLast? last)
      cases digit
    · rename_i last
      have digit := numeric _ (List.mem_of_getLast? last)
      cases digit
    · rfl
  · simp [splitMark]

theorem number_of_digits {mark : List Char} (marked : mark = [] ∨ mark = ['b']) (n : Int) :
    number? .integerLiteral (Nat.toDigits 10 n.natAbs ++ mark) (decide (n < 0)) =
      .ok (valueOf mark n) := by
  have split := splitMark_digits (Number.isDigit_of_mem_digits n.natAbs) marked
  have value : Number.integer? (if decide (n < 0) = true then '-' :: Nat.toDigits 10 n.natAbs
      else Nat.toDigits 10 n.natAbs) = some n := by
    simpa [Number.integerChars] using Number.integer_chars n
  unfold number?
  simp only [split, value]
  rcases marked with rfl | rfl <;> simp [valueOf]

end PlacedPart

end PathQuery
