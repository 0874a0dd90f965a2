import PathQuery.Host
import PathQuery.Json.Reader
import PathQuery.Number.DecimalText

/-!
Values as JSON documents and JSON documents as values. A number becomes the narrowest integer that
holds it, or a floating-point number.
-/

namespace PathQuery

mutual

/-- The value of a document. -/
def Value.ofJson : Json → Value
  | .null => .null
  | .bool b => .boolean b
  | .integer n =>
      match Number.int32? n, Number.int64? n with
      | some small, _ => .integer small
      | none, some medium => .long medium
      | none, none => .bigInteger n
  | .float x => .float x
  | .string text => .string text
  | .array elements => .array (Value.ofJsonElements elements)
  | .object members => .object (Value.ofJsonMembers members)

def Value.ofJsonElements : List Json → List Value
  | [] => []
  | element :: elements => Value.ofJson element :: Value.ofJsonElements elements

def Value.ofJsonMembers : List (String × Json) → List (String × Value)
  | [] => []
  | (name, member) :: members => (name, Value.ofJson member) :: Value.ofJsonMembers members

end

namespace Json

/-- An integer, as a floating-point number if 64 bits do not hold it. -/
def ofInt (n : Int) : Json :=
  match Number.int64? n with
  | some _ => .integer n
  | none => ofFloat (Number.Binary64.ofInt n)

def ofDecimal (d : Number.Decimal) : Json :=
  (ofNumberText? d.normalize.chars).getD (ofFloat d.toFloat)

mutual

/-- The document of a value, where a function gives those of host objects. -/
def ofValueWith (object : HostRef → Json) : Value → Json
  | .null => .null
  | .boolean b => .bool b
  | .integer n => .integer n.toInt
  | .long n => .integer n.toInt
  | .bigInteger n => ofInt n
  | .float x => ofFloat x
  | .decimal d => ofDecimal d
  | .string text => .string text
  | .date instant => .string instant.text
  | .array elements => .array (ofElementsWith object elements)
  | .object fields => .object (ofFieldsWith object fields)
  | .sequence _ elements => .array (ofElementsWith object elements)
  | .deferred _ (.ok value) => ofValueWith object value
  | .deferred _ (.error _) => .null
  | .function _ => .null
  | .host ref => object ref

def ofElementsWith (object : HostRef → Json) : List Value → List Json
  | [] => []
  | element :: elements => ofValueWith object element :: ofElementsWith object elements

def ofFieldsWith (object : HostRef → Json) : List (String × Value) → List (String × Json)
  | [] => []
  | (name, value) :: fields => (name, ofValueWith object value) :: ofFieldsWith object fields

end

/-- The document of a host object, in which host objects are nested up to the given depth. -/
def ofHostObject (host : Host) : Nat → HostRef → Json
  | 0, _ => .null
  | depth + 1, ref =>
      ofMembers ((host.fieldNames ref).map fun name =>
        (name, ((host.field ref name).map (ofValueWith (ofHostObject host depth))).getD .null))

/-- The document of a value. Host objects that are nested without end have none. -/
def ofValue (host : Host) (value : Value) : Json :=
  ofValueWith (ofHostObject host host.objects.size) value

end Json

end PathQuery
