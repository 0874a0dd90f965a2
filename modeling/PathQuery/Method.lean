import PathQuery.Conversion

/-!
Methods: functions with declared parameters. A method fits a number of arguments exactly, or through
a last parameter that collects the rest, or by completing the arguments with nulls.
-/

namespace PathQuery

/-- How a method fits a number of arguments. -/
inductive Fit where
  | exact
  | variadic
  /-- This many arguments are missing at the end. -/
  | nullCompleted (missing : Nat)
deriving DecidableEq

namespace Fit

/-- The place of a fit in the order of preference, the best fit first. -/
def rank : Fit → Nat
  | exact => 0
  | variadic => 1
  | nullCompleted missing => missing + 2

/-- How parameters fit a number of arguments. -/
def of? (parameters : List Parameter) (arity : Nat) (nullCompletion : Bool) : Option Fit :=
  let count := parameters.length
  if (parameters.getLast?.map Parameter.variadic).getD false then
    if count ≤ arity + 1 then some variadic else none
  else if count = arity then some exact
  else if nullCompletion && arity < count then some (nullCompleted (count - arity))
  else none

end Fit

structure Method where
  name : String
  parameters : List Parameter
  body : List Value → Except EvalError Value

/-- Methods that belong together, for bare names or for names in a namespace. -/
structure MethodGroup where
  space? : Option String := none
  methods : List Method

namespace Method

def coerce (converter : Converter) (parameter : Parameter) (argument : Value) :
    Except ConversionError Value :=
  match parameter.type? with
  | some type => converter.convert argument type
  | none => .ok argument

/-- Values for parameters. A variadic parameter takes all arguments that are left, as an array; a
parameter without an argument takes null. -/
def bind (converter : Converter) :
    List Parameter → List Value → Except ConversionError (List Value)
  | [], _ => .ok []
  | parameter :: parameters, arguments =>
      if parameter.variadic then do
        let rest ← arguments.mapM (coerce converter parameter)
        return .array rest :: (← bind converter parameters [])
      else do
        let first ← coerce converter parameter (arguments.headD .null)
        return first :: (← bind converter parameters arguments.tail)

def call (converter : Converter) (method : Method) (arguments : List Value) :
    Except EvalError Value := do
  let bound ← (bind converter method.parameters arguments).mapError EvalError.conversion
  method.body bound

def any : Parameter := {}

def ofType (type : ValueType) : Parameter :=
  { type? := some type }

def rest : Parameter :=
  { variadic := true }

end Method

/-- A method of the language itself. It reads its values by their positions, and has no result when
there is no value at a position that it reads. -/
structure StandardMethod where
  name : String
  parameters : List Parameter
  read : List Value → Option (Except EvalError Value)

def StandardMethod.method (standard : StandardMethod) : Method where
  name := standard.name
  parameters := standard.parameters
  body values := (standard.read values).getD (.ok .null)

end PathQuery
