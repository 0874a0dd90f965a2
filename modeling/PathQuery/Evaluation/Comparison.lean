import PathQuery.Evaluation.Environment

/-!
Truth, equality, order and membership of values. The right operand of a comparison is converted to
the type of the left one.
-/

namespace PathQuery.Evaluation

def toBool? (converter : Converter) (value : Value) : Option Bool :=
  match converter.convert value .boolean with
  | .ok converted => converted.bool?
  | .error _ => none

/-- Whether a value counts as true: null does not, and a value that converts to no truth does. -/
def truth (converter : Converter) (value : Value) : Bool :=
  !value.isNull && (toBool? converter value).getD true

/-- The truth of a value that must convert to one, where null is false. -/
def strictTruth (converter : Converter) (value : Value) : Except EvalError Bool :=
  if value.isNull then .ok false
  else
    match converter.convert value .boolean with
    | .ok converted => .ok (converted.bool? == some true)
    | .error error => .error (.conversion error)

/-- Whether two floating-point numbers are equal up to rounding errors. -/
def close (a b : Float) : Bool :=
  a == b ||
    let difference := (a - b).abs
    difference < 1e-20 || difference ≤ (if a.abs < b.abs then b.abs else a.abs) * 1e-15

/-- Equality of values of one type: floating-point numbers up to rounding errors, dates to the
millisecond. -/
def matching : Value → Value → Bool
  | .float a, .float b => close a b
  | .date a, .date b => a.millis == b.millis
  | a, b => a.same b

/-- Whether two values are equal, the right one after conversion to the type of the left one. Null
is equal to null only. -/
def equal (converter : Converter) (left right : Value) : Bool :=
  if left.isNull || right.isNull then left.isNull && right.isNull
  else
    match converter.convert right left.type with
    | .ok right => matching left right
    | .error _ => false

/-- The order of two floating-point numbers, if they have one. -/
def floatOrder? (a b : Float) : Option Ordering :=
  if a < b then some .lt
  else if a == b then some .eq
  else if b < a then some .gt
  else none

/-- The order of two values, the right one after conversion to the type of the left one. -/
def order? (converter : Converter) (left right : Value) :
    Except EvalError (Option Ordering) := do
  let right ← (converter.convert right left.type).mapError EvalError.conversion
  match left, right with
  | .integer a, .integer b => return some (compare a.toInt b.toInt)
  | .long a, .long b => return some (compare a.toInt b.toInt)
  | .bigInteger a, .bigInteger b => return some (compare a b)
  | .float a, .float b => return floatOrder? a b
  | .decimal a, .decimal b => return some (a.compare b)
  | .string a, .string b => return some (compare a b)
  | .date a, .date b => return some (compare a.millis b.millis)
  | .boolean a, .boolean b => return some (compare a b)
  | _, _ => throw (.unsupported s!"{left.type.name} values have no ordering")

def isOrder (operator : TokenKind) (order : Ordering) : Bool :=
  match operator with
  | .greater => order == .gt
  | .greaterOrEquals => order != .lt
  | .lesser => order == .lt
  | _ => order != .gt

/-- Whether an element of a list is the value that is looked for. Null is found by null only, and an
element that does not convert to the type of the value is passed over. -/
def isFound (converter : Converter) (needle element : Value) : Bool :=
  if element.isNull || needle.isNull then element.isNull && needle.isNull
  else
    match converter.convert element needle.type with
    | .ok candidate => matching needle candidate
    | .error _ => false

/-- Whether one of the elements, which are computed up to there, is the value that is looked for. -/
def isElement (converter : Converter) (needle : Value) : List Value → Except EvalError Bool
  | [] => .ok false
  | element :: elements =>
      match element.resolved with
      | .error error => .error error
      | .ok element =>
          if isFound converter needle element then .ok true
          else isElement converter needle elements

/-- Whether a value is in a list, or its text in a text, whatever the case of letters. -/
def contains (converter : Converter) (whole needle : Value) : Except EvalError Bool :=
  match whole.elements? with
  | some elements => isElement converter needle elements
  | none =>
      match whole with
      | .null => .ok false
      | .string text =>
          .ok (!needle.isNull && Text.contains (Text.lower text) (Text.lower needle.text))
      | _ => .error (.unsupported s!"membership in {whole.type.name}")

end PathQuery.Evaluation
