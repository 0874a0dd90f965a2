import PathQuery.Evaluation.Error
import PathQuery.Fields
import PathQuery.Number.Decimal
import PathQuery.Number.Integer
import PathQuery.Time.Instant

/-!
The values that expressions compute with.

Numbers keep the type that they were written or computed in. Sequences, deferred values, functions
and host objects have an identity, their handle, and are equal only to themselves; all other values
are equal when they have the same type and content.
-/

namespace PathQuery

open Number (Decimal)

/-- A parameter of a function: the type that arguments are converted to, if any, and whether the
parameter collects the remaining arguments. -/
structure Parameter where
  type? : Option ValueType := none
  variadic : Bool := false
deriving DecidableEq

/-- A function of the host. Its handle says which one. -/
structure FunctionRef where
  handle : Nat
  name : String
  parameters : List Parameter

/-- An object of the host: its handle, the names of its types, the most specific first, and its
text. -/
structure HostRef where
  handle : Nat
  types : List String
  text : String

inductive Value where
  | null
  | boolean (b : Bool)
  | integer (n : Int32)
  | long (n : Int64)
  | bigInteger (n : Int)
  | float (x : Float)
  | decimal (d : Decimal)
  | string (text : String)
  | date (instant : Time.Instant)
  | array (elements : List Value)
  /-- Named fields, which are sorted, each name once. -/
  | object (fields : List (String × Value))
  /-- Elements that are produced on demand, as often as needed. -/
  | sequence (handle : Nat) (elements : List Value)
  /-- What a computation that is put off comes to. -/
  | deferred (handle : Nat) (outcome : Except EvalError Value)
  | function (ref : FunctionRef)
  | host (ref : HostRef)
deriving Inhabited

namespace Value

def type : Value → ValueType
  | null => .null
  | boolean _ => .boolean
  | integer _ => .integer
  | long _ => .long
  | bigInteger _ => .bigInteger
  | float _ => .float
  | decimal _ => .decimal
  | string _ => .string
  | date _ => .date
  | array _ => .array
  | object _ => .object
  | sequence .. => .sequence
  | deferred .. => .deferred
  | function _ => .function
  | host _ => .host

def isNull : Value → Bool
  | null => true
  | _ => false

def isNumeric (value : Value) : Bool :=
  value.type.isNumeric

/-- Whether a value has elements. -/
def isList : Value → Bool
  | array _ | sequence .. => true
  | _ => false

def bool? : Value → Option Bool
  | boolean b => some b
  | _ => none

def string? : Value → Option String
  | string text => some text
  | _ => none

/-- The elements of an array or a sequence. -/
def elements? : Value → Option (List Value)
  | array elements | sequence _ elements => some elements
  | _ => none

def integral? : Value → Option Int
  | integer n => some n.toInt
  | long n => some n.toInt
  | bigInteger n => some n
  | _ => none

/-- The integral part of a number, if it has 64 bits. That of a finite floating-point number is
brought into the range. -/
def int64? : Value → Option Int64
  | integer n => some n.toInt64
  | long n => some n
  | bigInteger n => Number.int64? n
  | float x => (Number.Binary64.truncate? x).bind fun n =>
      Number.int64? (max (-0x8000000000000000) (min (0x8000000000000000 - 1) n))
  | decimal d => Number.int64? d.truncate
  | _ => none

/-- The floating-point number nearest to a number. -/
def float? : Value → Option Float
  | integer n => some (Number.Binary64.ofInt n.toInt)
  | long n => some (Number.Binary64.ofInt n.toInt)
  | bigInteger n => some (Number.Binary64.ofInt n)
  | float x => some x
  | decimal d => some d.toFloat
  | _ => none

/-- What a deferred value comes to; every other value is itself. -/
def resolved : Value → Except EvalError Value
  | deferred _ outcome => outcome
  | value => .ok value

mutual

/-- Whether two values are equal. -/
def same : Value → Value → Bool
  | null, null => true
  | boolean a, boolean b => a == b
  | integer a, integer b => a == b
  | long a, long b => a == b
  | bigInteger a, bigInteger b => a == b
  | float a, float b => a == b
  | decimal a, decimal b => a.sameValue b
  | string a, string b => a == b
  | date a, date b => a == b
  | array as, array bs => sameElements as bs
  | object as, object bs => sameFields as bs
  | sequence a _, sequence b _ => a == b
  | deferred a _, deferred b _ => a == b
  | function a, function b => a.handle == b.handle
  | host a, host b => a.handle == b.handle
  | _, _ => false

/-- Whether two lists have equal elements. -/
def sameElements : List Value → List Value → Bool
  | [], [] => true
  | a :: as, b :: bs => same a b && sameElements as bs
  | _, _ => false

/-- Whether the same names hold equal values. -/
def sameFields : List (String × Value) → List (String × Value) → Bool
  | [], [] => true
  | (key, a) :: as, (other, b) :: bs => key == other && same a b && sameFields as bs
  | _, _ => false

end

/-- Equality of literals: integers of any type are equal by value, floating-point numbers and
decimals by their floating-point value. -/
def sameLiteral : Value → Value → Bool
  | array as, array bs => sameLiterals as bs
  | a, b =>
      match a.integral?, b.integral? with
      | some m, some n => m == n
      | _, _ =>
          match a, b with
          | float _, float _ | float _, decimal _ | decimal _, float _ | decimal _, decimal _ =>
              a.float? == b.float?
          | _, _ => same a b
where
  /-- Whether two lists have equal literals. -/
  sameLiterals : List Value → List Value → Bool
    | [], [] => true
    | a :: as, b :: bs => sameLiteral a b && sameLiterals as bs
    | _, _ => false

/-- The object with the given fields, of which the last of one name counts. -/
def ofFields (entries : List (String × Value)) : Value :=
  object (Fields.ofList entries)

end Value

end PathQuery
