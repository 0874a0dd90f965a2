import PathQuery.Evaluation.Arithmetic
import PathQuery.Evaluation.Comparison
import PathQuery.Regex.Text

/-!
What operators compute from the values of their operands. An operand that an operator does not take
is null.
-/

namespace PathQuery.Evaluation

def decided? (converter : Converter) (operator : TokenKind) (left : Value) : Option Value :=
  match operator with
  | .logicalAnd => if truth converter left then none else some (.boolean false)
  | .logicalOr => if truth converter left then some (.boolean true) else none
  | _ => none

/-- What the host makes of an operator: its executors are asked in order, and then the left operand,
if it is a host object. -/
def overloaded? (environment : Environment) (operator : TokenKind) (left right : Value) :
    Option (Except EvalError Value) :=
  if environment.settings.operatorOverloading then
    match environment.executors.findSome? fun executor => executor left operator right with
    | some outcome => some outcome
    | none =>
        match left with
        | .host ref => (environment.host.object ref).operate operator right
        | _ => none
  else none

def combined (converter : Converter) (combine : Bool → Bool → Bool) (left right : Value) :
    Except EvalError Value := do
  let left ← strictTruth converter left
  let right ← strictTruth converter right
  return .boolean (combine left right)

/-- Whether the whole text of a value matches the pattern that the text of another value is. -/
def matchesPattern (left right : Value) : Except EvalError Bool :=
  match Regex.anchored? right.text with
  | some regex => .ok (regex.occursIn left.text.toList)
  | none => .error (.pattern right.text)

/-- Whether the order of two values is the one that an operator asks for. Null has no order. -/
def compared (converter : Converter) (operator : TokenKind) (left right : Value) :
    Except EvalError Value :=
  if left.isNull || right.isNull then .ok (.boolean false)
  else (order? converter left right).map fun order => .boolean (order.any (isOrder operator))

def applied (environment : Environment) (operator : TokenKind) (left right : Value) :
    Except EvalError Value :=
  let converter := environment.converter
  match operator with
  | .add => add environment left right
  | .subtract => subtract environment left right
  | .multiply | .divide | .modulo => widened environment operator left right
  | .power => power environment left right
  | .increase => arithmetic environment .add left (.integer 1)
  | .decrease => arithmetic environment .subtract left (.integer 1)
  | .bitwiseAnd => combined converter (· && ·) left right
  | .bitwiseOr => combined converter (· || ·) left right
  | .xor => combined converter (· != ·) left right
  | .notXor => combined converter (· == ·) left right
  | .logicalAnd => .ok (.boolean (truth converter left && truth converter right))
  | .logicalOr => .ok (.boolean (truth converter left || truth converter right))
  | .not => .ok (.boolean !truth converter right)
  | .equals => .ok (.boolean (equal converter left right))
  | .notEquals => .ok (.boolean !equal converter left right)
  | .greater | .greaterOrEquals | .lesser | .lesserOrEquals =>
      compared converter operator left right
  | .isIn => (contains converter right left).map .boolean
  | .notIn => (contains converter right left).map fun found => .boolean !found
  | .matching =>
      if left.isNull then .ok (.boolean false) else (matchesPattern left right).map .boolean
  | .notMatching =>
      if left.isNull then .ok (.boolean true)
      else (matchesPattern left right).map fun found => .boolean !found
  | _ => .error (.unsupported s!"{operator.name} has no evaluation rule")

/-- The value of an operator: the host is asked before its rule is applied. -/
def operated (environment : Environment) (operator : TokenKind) (left right : Value) :
    Except EvalError Value :=
  (overloaded? environment operator left right).getD (applied environment operator left right)

end PathQuery.Evaluation
