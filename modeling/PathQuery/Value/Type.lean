/-!
The types of values, which are also what a value can be converted to.
-/

namespace PathQuery

inductive ValueType where
  | null
  | boolean
  | integer
  | long
  | bigInteger
  | float
  | decimal
  | string
  | date
  | array
  | object
  | sequence
  | deferred
  | function
  | host
deriving DecidableEq

namespace ValueType

/-- The name of a type, as messages show it. -/
def name : ValueType → String
  | null => "null"
  | boolean => "boolean"
  | integer => "integer"
  | long => "long"
  | bigInteger => "big integer"
  | float => "float"
  | decimal => "decimal"
  | string => "string"
  | date => "date"
  | array => "array"
  | object => "object"
  | sequence => "sequence"
  | deferred => "deferred"
  | function => "function"
  | host => "host object"

/-- All types. -/
def all : List ValueType :=
  [null, boolean, integer, long, bigInteger, float, decimal, string, date, array, object, sequence,
    deferred, function, host]

def ofName? (text : String) : Option ValueType :=
  all.find? (·.name == text)

/-- Whether values of the type are numbers. -/
def isNumeric : ValueType → Bool
  | integer | long | bigInteger | float | decimal => true
  | _ => false

end ValueType

end PathQuery
