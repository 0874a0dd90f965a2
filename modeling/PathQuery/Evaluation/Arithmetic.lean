import PathQuery.Evaluation.Environment

/-!
Arithmetic. The left operand decides the type of a computation, and the right one is converted to
it. Integers of fixed width are computed with in 128 bits and do not wrap around: a result that does
not fit is an overflow.
-/

namespace PathQuery.Evaluation

/-- An operand that arithmetic needs is null. -/
def missingOperand (operator : TokenKind) : EvalError :=
  .arithmetic s!"{operator.name} with a null operand"

/-- The result does not fit its type. -/
def overflow (operator : TokenKind) : EvalError :=
  .arithmetic s!"{operator.name} overflows"

/-- The operator has no meaning for operands of these types. -/
def undefinedFor (operator : TokenKind) (left right : Value) : EvalError :=
  .unsupported s!"{operator.name} is not defined for {left.type.name} and {right.type.name}"

def divisionByZero : EvalError :=
  .arithmetic "division by zero"

def converted (converter : Converter) (value : Value) (type : ValueType) :
    Except EvalError Value :=
  (converter.convert value type).mapError EvalError.conversion

def divides (operator : TokenKind) : Bool :=
  operator == .divide || operator == .modulo

/-- The result in 128 bits, if it fits. A remainder comes with its quotient, and does not fit unless
the quotient does. -/
def wideResult? (operator : TokenKind) (a b : Int) : Option Int :=
  match operator with
  | .add => Number.int128? (a + b)
  | .subtract => Number.int128? (a - b)
  | .multiply => Number.int128? (a * b)
  | .divide => Number.int128? (a.tdiv b)
  | _ => (Number.int128? (a.tdiv b)).map fun _ => a.tmod b

/-- The result for integers of fixed width, in 128 bits. Quotients are rounded toward zero, and
remainders have the sign of the dividend. -/
def wideResult (operator : TokenKind) (a b : Int) : Except EvalError Int :=
  if divides operator && b == 0 then .error divisionByZero
  else
    match wideResult? operator a b with
    | some n => .ok n
    | none => .error (overflow operator)

/-- The exact result for integers of any size. Quotients are rounded toward zero, and remainders
have the sign of the dividend. -/
def integerResult (operator : TokenKind) (a b : Int) : Except EvalError Int :=
  match operator with
  | .add => .ok (a + b)
  | .subtract => .ok (a - b)
  | .multiply => .ok (a * b)
  | .divide => if b = 0 then .error divisionByZero else .ok (a.tdiv b)
  | _ => if b = 0 then .error divisionByZero else .ok (a.tmod b)

def floatResult (operator : TokenKind) (a b : Float) : Float :=
  match operator with
  | .add => a + b
  | .subtract => a - b
  | .multiply => a * b
  | .divide => a / b
  | _ => Number.Binary64.remainder a b

/-- The result for decimals, if it fits. Quotients keep a number of significant digits, or all of
them if the number is zero. -/
def decimalResult? (operator : TokenKind) (precision : Nat) (a b : Number.Decimal) :
    Option Number.Decimal :=
  match operator with
  | .add => a.add b
  | .subtract => a.sub b
  | .multiply => a.mul b
  | .divide =>
      (a.div b).bind fun quotient =>
        if precision = 0 then some quotient else quotient.roundSignificant precision
  | _ => a.rem b

def numericResult (precision : Nat) (operator : TokenKind) (left right : Value) :
    Except EvalError Value :=
  let fitted {α : Type} (result : Option α) (value : α → Value) : Except EvalError Value :=
    match result with
    | some fitting => .ok (value fitting)
    | none => .error (overflow operator)
  match left, right with
  | .integer a, .integer b => do
      fitted (Number.int32? (← wideResult operator a.toInt b.toInt)) .integer
  | .long a, .long b => do
      fitted (Number.int64? (← wideResult operator a.toInt b.toInt)) .long
  | .bigInteger a, .bigInteger b => (integerResult operator a b).map .bigInteger
  | .float a, .float b => .ok (.float (floatResult operator a b))
  | .decimal a, .decimal b =>
      if divides operator && b.isZero then .error divisionByZero
      else fitted (decimalResult? operator precision a b) .decimal
  | _, _ => .error (undefinedFor operator left right)

/-- Applies `+`, `-`, `*`, `/` or `%` in the type of the left operand. -/
def arithmetic (environment : Environment) (operator : TokenKind) (left right : Value) :
    Except EvalError Value :=
  if left.isNull || right.isNull then .error (missingOperand operator)
  else if !left.isNumeric then .error (undefinedFor operator left right)
  else do
    let right ← converted environment.converter right left.type
    numericResult environment.settings.decimalPrecision operator left right

/-- The richer numeric type that a left operand takes on from a right one. -/
def richer? : ValueType → ValueType → Option ValueType
  | .decimal, _ => none
  | _, .decimal => some .decimal
  | .bigInteger, _ => none
  | _, .bigInteger => some .bigInteger
  | .float, _ => none
  | _, .float => some .float
  | .integer, .long => some .long
  | _, _ => none

/-- The left operand in the richer numeric type of the right one, if the settings ask for it. -/
def widen (environment : Environment) (left right : Value) : Except EvalError Value :=
  if environment.settings.alwaysWidenNumerics && left.isNumeric && right.isNumeric then
    match richer? left.type right.type with
    | some type => converted environment.converter left type
    | none => .ok left
  else .ok left

def widened (environment : Environment) (operator : TokenKind) (left right : Value) :
    Except EvalError Value := do
  arithmetic environment operator (← widen environment left right) right

/-- Adds numbers, or appends the text of any value to a text. Before a text null is a text too. -/
def add (environment : Environment) (left right : Value) : Except EvalError Value :=
  match left, right with
  | .string text, _ => .ok (.string (text ++ right.text))
  | .null, .string text => .ok (.string (Value.null.text ++ text))
  | .null, _ => .error (missingOperand .add)
  | _, _ => widened environment .add left right

/-- Subtracts. Null on the left is zero, and what is no number there is read as one. -/
def subtract (environment : Environment) (left right : Value) : Except EvalError Value := do
  let left ←
    if left.isNull then
      if right.isNumeric then converted environment.converter (.long 0) right.type
      else pure (.long 0)
    else if left.isNumeric then pure left
    else converted environment.converter left .float
  widened environment .subtract left right

def exponent (converter : Converter) (value : Value) : Except EvalError Int64 := do
  match (← converted converter value .integer).int64? with
  | some n => return n
  | none => throw (.arithmetic s!"invalid exponent '{value.text}'")

/-- Raises to a power. Integers of any size and decimals take an integer exponent; other numbers are
raised as floating-point numbers, and the result is converted back. -/
def power (environment : Environment) (left right : Value) : Except EvalError Value :=
  let converter := environment.converter
  if left.isNull || right.isNull then .error (missingOperand .power)
  else do
    let left ← widen environment left right
    match left with
    | .bigInteger base => do
        let n ← exponent converter right
        if 0 ≤ n.toInt && n.toInt < 0x100000000 then
          return .bigInteger (Number.power base n.toInt.toNat)
        else throw (.arithmetic s!"invalid exponent '{Number.integerText n.toInt}'")
    | .decimal base => do
        let n ← exponent converter right
        match base.pow n.toInt with
        | some result => return .decimal result
        | none => throw (overflow .power)
    | _ =>
        if left.isNumeric then do
          let right ← converted converter right left.type
          match left.float?, right.float? with
          | some base, some n => converted converter (.float (base.pow n)) left.type
          | _, _ => throw (undefinedFor .power left right)
        else throw (undefinedFor .power left right)

end PathQuery.Evaluation
