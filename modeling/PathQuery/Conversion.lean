import PathQuery.Time.LayoutReader
import PathQuery.Value.Text

/-!
Conversion of values to other types. Operators convert their right operand to the type of the left
one, and calls convert arguments to the types of parameters.
-/

namespace PathQuery

/-- A way of converting values: the counterpart of a value in a type, and whether values of the one
type can have a counterpart in the other. -/
structure Converter where
  convert : Value → ValueType → Except ConversionError Value
  canConvert : ValueType → ValueType → Bool

namespace Conversion

/-- Whether values of the one type can have a counterpart of the other. That some can does not mean
that all do. -/
def possible (source target : ValueType) : Bool :=
  source == target || source == .null || source == .deferred ||
    match target with
    | .string => source.isNumeric || source == .boolean || source == .date
    | .boolean => source.isNumeric || source == .string
    | .integer | .long | .bigInteger => source.isNumeric || source == .string || source == .date
    | .float | .decimal => source.isNumeric || source == .string
    | .date =>
        source == .string || source == .integer || source == .long || source == .bigInteger
    | .array => source == .sequence
    | _ => false

/-- The truth that a text names, in letters of any case. -/
def textToBool? (text : String) : Option Bool :=
  let word := (Text.trim text).map Char.toLower
  if word == "true" then some true
  else if word == "false" then some false
  else none

/-- A number is true unless it is zero. -/
def toBool? : Value → Option Bool
  | .boolean b => some b
  | .string text => textToBool? text
  | .decimal d => some !d.isZero
  | value => value.float?.map (· != 0)

/-- The integral part of a number, or of the number that a text denotes; the milliseconds of a
date. -/
def toInteger? : Value → Option Int
  | .integer n => some n.toInt
  | .long n => some n.toInt
  | .bigInteger n => some n
  | .float x => Number.Binary64.truncate? x
  | .decimal d => some d.truncate
  | .string text =>
      let cs := Text.trimmed text.toList
      match Number.integer? cs with
      | some n => some n
      | none => (Number.Decimal.ofText? (String.ofList cs)).map Number.Decimal.truncate
  | .date instant => some instant.millis
  | _ => none

def toFloat? : Value → Option Float
  | .string text => Number.Binary64.ofText? (Text.trim text)
  | value => value.float?

def toDecimal? : Value → Option Number.Decimal
  | .integer n => Number.Decimal.ofInt? n.toInt
  | .long n => Number.Decimal.ofInt? n.toInt
  | .bigInteger n => Number.Decimal.ofInt? n
  | .float x => Number.Decimal.ofFloat? x
  | .string text => Number.Decimal.ofText? (Text.trim text)
  | _ => none

/-- The date that a text gives, or that lies a number of milliseconds after the start of 1970. -/
def toDate? : Value → Option Time.Instant
  | .string text => Time.readDate? text
  | value => do
      let n ← value.integral?
      let _ ← Number.int64? n
      Time.Instant.ofMillis? n

def toType? (value : Value) : ValueType → Option Value
  | .string => some (.string value.text)
  | .boolean => (toBool? value).map .boolean
  | .integer => ((toInteger? value).bind Number.int32?).map .integer
  | .long => ((toInteger? value).bind Number.int64?).map .long
  | .bigInteger => (toInteger? value).map .bigInteger
  | .float => (toFloat? value).map .float
  | .decimal => (toDecimal? value).map .decimal
  | .date => (toDate? value).map .date
  | .array => value.elements?.map .array
  | _ => none

/-- Converts a value. Null and values of the type itself stay as they are, and deferred values are
computed first. -/
def convert : Value → ValueType → Except ConversionError Value
  | .deferred _ (.ok value), target => convert value target
  | .deferred handle (.error error), target =>
      .error (.failed (Value.deferred handle (.error error)).text target)
  | value, target =>
      if value.isNull || value.type == target then .ok value
      else if !possible value.type target then .error (.noPath value.type target)
      else
        match toType? value target with
        | some converted => .ok converted
        | none => .error (.failed value.text target)

/-- The conversions between numbers, truth values, texts and dates, and of sequences to arrays. -/
def standard : Converter :=
  ⟨convert, possible⟩

end Conversion

end PathQuery
