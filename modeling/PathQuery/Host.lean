import PathQuery.Token.Kind
import PathQuery.Value

/-!
What the host of an evaluation provides: the bodies of its functions, and its objects. Values refer
to both by number.
-/

namespace PathQuery

structure Members where
  field : String → Option Value := fun _ => none
  names : List String := []

/-- A host object: its members, how one of them is written, what is noted about them, and the
operators that it knows, which get their right operand. -/
structure HostObject where
  members : Members := {}
  write : Members → String → Value → Except EvalError Members
  note : String → String → Option Value := fun _ _ => none
  operate : TokenKind → Value → Option (Except EvalError Value) := fun _ _ => none

structure Host where
  functions : Array (List Value → Except EvalError Value) := #[]
  objects : Array HostObject := #[]

namespace HostRef

/-- Why a member of a host object can not be written. -/
def readOnly (types : List String) (name : String) : EvalError :=
  .unsupported s!"member '{name}' of {types.headD ValueType.host.name} is read-only"

end HostRef

namespace Host

/-- The object with the given number. One that the host does not have has no members. -/
def object (host : Host) (ref : HostRef) : HostObject :=
  host.objects.getD ref.handle { write := fun _ name _ => .error (HostRef.readOnly ref.types name) }

def field (host : Host) (ref : HostRef) (name : String) : Option Value :=
  (host.object ref).members.field name

def fieldNames (host : Host) (ref : HostRef) : List String :=
  (host.object ref).members.names

def setField (host : Host) (ref : HostRef) (name : String) (value : Value) :
    Except EvalError Host := do
  let object := host.object ref
  let members ← object.write object.members name value
  return { host with objects := host.objects.setIfInBounds ref.handle { object with members } }

/-- Calls a function. One that the host does not have answers null. -/
def invoke (host : Host) (handle : Nat) (arguments : List Value) : Except EvalError Value :=
  (host.functions.getD handle fun _ => .ok .null) arguments

end Host

end PathQuery
