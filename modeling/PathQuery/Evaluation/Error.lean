import PathQuery.Value.Type

/-!
Why a conversion or an evaluation fails.
-/

namespace PathQuery

inductive ConversionError where
  /-- No value of the one type has a counterpart of the other. -/
  | noPath (source target : ValueType)
  /-- This value, whose text is given, has none. -/
  | failed (value : String) (target : ValueType)
deriving DecidableEq

namespace ConversionError

def message : ConversionError → String
  | noPath source target => s!"No conversion from {source.name} to {target.name}"
  | failed value target => s!"Cannot convert '{value}' to {target.name}"

end ConversionError

inductive EvalError where
  /-- The failure of an expression, given by its text, and what made it fail. -/
  | operation (expression : String) (cause : Option EvalError)
  | unresolvedMethod (name : String) (arity : Nat)
  | invocation (name reason : String)
  | invalidContext
  | danglingSegment (segment : String)
  | nullIndex (index : String)
  | invalidIndex (index value : String)
  | unresolvedKey (key : String)
  | arithmetic (reason : String)
  | unsupported (reason : String)
  | pattern (text : String)
  | conversion (error : ConversionError)
  /-- A failure that host code reports. -/
  | host (reason : String)

namespace EvalError

def message : EvalError → String
  | operation expression _ => s!"Could not perform operation: {expression}"
  | unresolvedMethod name arity =>
      s!"The method '{name}' can not be resolved for {arity} arguments"
  | invocation name reason => s!"Invocation of '{name}' failed: {reason}"
  | invalidContext => "Referencing an invalid context"
  | danglingSegment segment => s!"The path can't end with '{segment}'"
  | nullIndex index => s!"The index can not be null: {index}"
  | invalidIndex index value => s!"Invalid index '{value}' in: {index}"
  | unresolvedKey key => s!"Could not resolve key: {key}"
  | arithmetic reason => s!"Arithmetic error: {reason}"
  | unsupported reason => s!"Unsupported: {reason}"
  | pattern text => s!"Invalid regular expression '{text}'"
  | conversion error => error.message
  | host reason => reason

def rootCause : EvalError → EvalError
  | operation _ (some cause) => cause.rootCause
  | error => error

/-- The error of the expression with the given text, unless a part of it was named already. -/
def within (expression : String) : EvalError → EvalError
  | operation inner cause => operation inner cause
  | cause => operation expression (some cause)

end EvalError

end PathQuery
