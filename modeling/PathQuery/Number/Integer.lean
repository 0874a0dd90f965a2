/-!
Integers: rounded quotients, fixed widths, and the texts that denote integers.
-/

namespace PathQuery.Number

/-- The integer nearest to a quotient, the even one of two equally near. -/
def roundedQuotient (numerator denominator : Nat) : Nat :=
  let quotient := numerator / denominator
  let twice := 2 * (numerator % denominator)
  if twice < denominator then quotient
  else if denominator < twice then quotient + 1
  else quotient + quotient % 2

def int32? (n : Int) : Option Int32 :=
  if -0x80000000 ≤ n && n < 0x80000000 then some (Int32.ofInt n) else none

def int64? (n : Int) : Option Int64 :=
  if -0x8000000000000000 ≤ n && n < 0x8000000000000000 then some (Int64.ofInt n) else none

/-- The integer itself, if it has 128 bits. -/
def int128? (n : Int) : Option Int :=
  if -0x80000000000000000000000000000000 ≤ n && n < 0x80000000000000000000000000000000 then some n
  else none

theorem toInt_of_int32 {n : Int} {m : Int32} (small : int32? n = some m) : m.toInt = n := by
  obtain ⟨bounds, held⟩ := Option.ite_none_right_eq_some.mp small
  obtain rfl := Option.some.inj held
  simp only [Bool.and_eq_true, decide_eq_true_eq] at bounds
  exact Int32.toInt_ofInt_of_le bounds.1 bounds.2

theorem toInt_of_int64 {n : Int} {m : Int64} (medium : int64? n = some m) : m.toInt = n := by
  obtain ⟨bounds, held⟩ := Option.ite_none_right_eq_some.mp medium
  obtain rfl := Option.some.inj held
  simp only [Bool.and_eq_true, decide_eq_true_eq] at bounds
  exact Int64.toInt_ofInt_of_le bounds.1 bounds.2

def power (base : Int) (exponent : Nat) : Int :=
  let magnitude : Int := Nat.pow base.natAbs exponent
  if base < 0 && exponent % 2 = 1 then -magnitude else magnitude

/-- The number that decimal digits denote; there must be one digit at least. -/
def natural? (digits : List Char) : Option Nat :=
  if !digits.isEmpty && digits.all Char.isDigit then some (Nat.ofDigitChars 10 digits 0) else none

/-- A number that may have a sign before its digits. -/
def signed? : List Char → Option Int
  | '-' :: digits => (natural? digits).map fun n => -(n : Int)
  | '+' :: digits => (natural? digits).map Int.ofNat
  | digits => (natural? digits).map Int.ofNat

/-- A number whose digits may be set apart by underscores, though not before the first digit. -/
def grouped? : List Char → Option Nat
  | '_' :: _ => none
  | digits =>
      if digits.isEmpty then none
      else if digits.all fun c => c.isDigit || c == '_' then
        some (Nat.ofDigitChars 10 (digits.filter (· != '_')) 0)
      else none

/-- An integer of any size: a minus sign or a plus sign, and digits with underscores. -/
def integer? : List Char → Option Int
  | '-' :: digits => (grouped? digits).map fun n => -(n : Int)
  | '+' :: digits => (grouped? digits).map Int.ofNat
  | digits => (grouped? digits).map Int.ofNat

/-- The decimal digits of an integer, with a minus sign before those of a negative one. -/
def integerChars (n : Int) : List Char :=
  if n < 0 then '-' :: Nat.toDigits 10 n.natAbs else Nat.toDigits 10 n.natAbs

def integerText (n : Int) : String :=
  String.ofList (integerChars n)

end PathQuery.Number
