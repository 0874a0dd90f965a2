import PathQuery.Host

/-!
Accessors: how the members of a value are read, tested and written.

Every value has a lineage, the kinds of context that it is, the most specific first. The accessor of
a value is the one for the earliest kind of its lineage; of several accessors for one kind it is the
latest. A registry remembers its choices by the first kind of the lineage.
-/

namespace PathQuery

inductive ContextType where
  | any
  /-- Objects. -/
  | map
  /-- Arrays and sequences. -/
  | collection
  | list
  | sequence
  /-- Null, truth values, numbers, texts and dates. -/
  | scalar
  /-- A type of host objects, by its name. -/
  | host (name : String)
deriving DecidableEq

namespace ContextType

def name : ContextType → String
  | any => "Any"
  | map => "Map"
  | collection => "Collection"
  | list => "List"
  | sequence => "Sequence"
  | scalar => "Scalar"
  | host name => name

/-- The kinds of context that a value is, apart from the kind of all values. -/
def specific : Value → List ContextType
  | .object _ => [map]
  | .array _ => [list, collection]
  | .sequence .. => [sequence, collection]
  | .host ref => ref.types.map host
  | .function _ => []
  | .deferred .. => []
  | _ => [scalar]

/-- The kinds of context that a value is, the most specific first. -/
def lineage (value : Value) : List ContextType :=
  specific value ++ [any]

end ContextType

def Accessor.cannotSet (name place : String) : EvalError :=
  .unsupported s!"cannot set '{name}' on {place}"

/-- Reads, tests and writes the members of one kind of context. -/
structure Accessor where
  type : ContextType
  /-- Whether there is such a member, even if it is null. -/
  has : Host → Value → String → Except EvalError Bool
  /-- The member, or null if there is none. -/
  get : Host → Value → String → Except EvalError Value
  /-- Whether the member has been given a value. -/
  hasValue : Host → Value → String → Except EvalError Bool := has
  /-- The names of all members, if they can be listed. -/
  names : Host → Value → Option (List String) := fun _ _ => none
  /-- Writes a member of a value or of the host that the value belongs to. -/
  set : Host → Value → String → Value → Except EvalError (Value × Host) :=
    fun _ context name _ => .error (Accessor.cannotSet name context.type.name)
  /-- What is noted about a member. -/
  note : Host → Value → String → String → Option Value := fun _ _ _ _ => none

namespace Accessor

def map : Accessor where
  type := .map
  has _ context name := .ok <|
    match context with
    | .object fields => (Fields.get? name fields).isSome
    | _ => false
  get _ context name := .ok <|
    match context with
    | .object fields => (Fields.get? name fields).getD .null
    | _ => .null
  names _ context :=
    match context with
    | .object fields => some (fields.map (·.1))
    | _ => none
  set host context name value :=
    match context with
    | .object fields => .ok (.object (Fields.insert name value fields), host)
    | _ => .error (cannotSet name context.type.name)

/-- The position that a name such as `$0` or `$12` stands for. -/
def position? (name : String) : Option Nat :=
  match name.toList with
  | '$' :: digits => (Number.natural? digits).filter (· < 0x10000000000000000)
  | _ => none

/-- Members of an array or a sequence are its elements, by their positions. -/
def collection : Accessor where
  type := .collection
  has _ context name := .ok <|
    match position? name, context.elements? with
    | some position, some elements => position < elements.length
    | _, _ => false
  get _ context name :=
    match position? name, context.elements? with
    | some position, some elements => (elements.getD position .null).resolved
    | _, _ => .ok .null
  names _ context :=
    context.elements?.map fun elements =>
      (List.range elements.length).map fun (position : Nat) => "$" ++ Number.integerText (position : Nat)
  set host context name value :=
    match context, position? name with
    | .array elements, some position =>
        if position < elements.length then .ok (.array (elements.set position value), host)
        else .error (cannotSet name "this collection")
    | _, _ => .error (cannotSet name "this collection")

/-- Members of a host object are those that it answers itself; other values have none. -/
def host : Accessor where
  type := .any
  has host context name := .ok <|
    match context with
    | .host ref => (host.fieldNames ref).contains name || (host.field ref name).isSome
    | _ => false
  get host context name := .ok <|
    match context with
    | .host ref => (host.field ref name).getD .null
    | _ => .null
  hasValue host context name := .ok <|
    match context with
    | .host ref => (host.field ref name).any (!·.isNull)
    | _ => false
  names host context :=
    match context with
    | .host ref => some (host.fieldNames ref)
    | _ => none
  set host context name value :=
    match context with
    | .host ref => (host.setField ref name value).map (context, ·)
    | _ => .error (cannotSet name context.type.name)
  note host context field note :=
    match context with
    | .host ref => (host.object ref).note field note
    | _ => none

end Accessor

/-- Accessors, the latest first, and the choices that were made among them, by the first kind of the
lineage. -/
structure AccessorRegistry where
  accessors : List Accessor := []
  chosen : List (ContextType × Accessor) := []

namespace AccessorRegistry

def standard : AccessorRegistry where
  accessors := [Accessor.collection, Accessor.map]

/-- Adds an accessor and forgets all choices. -/
def register (accessor : Accessor) (registry : AccessorRegistry) : AccessorRegistry :=
  { accessors := accessor :: registry.accessors }

/-- The latest accessor for the earliest kind of a lineage that there is one for. -/
def select (registry : AccessorRegistry) (lineage : List ContextType) : Accessor :=
  (lineage.findSome? fun type => registry.accessors.find? (·.type == type)).getD Accessor.host

def resolve (value : Value) : StateM AccessorRegistry Accessor := do
  let lineage := ContextType.lineage value
  let key := lineage.headD .any
  let registry ← get
  match registry.chosen.lookup key with
  | some accessor => return accessor
  | none =>
      let accessor := registry.select lineage
      set { registry with chosen := (key, accessor) :: registry.chosen }
      return accessor

def ask {α : Type} (value : Value) (ofNull : α) (question : Accessor → α) :
    StateM AccessorRegistry α := do
  if value.isNull then return ofNull
  return question (← resolve value)

def has (host : Host) (context : Value) (name : String) :
    StateM AccessorRegistry (Except EvalError Bool) :=
  ask context (.ok false) fun accessor => accessor.has host context name

def hasValue (host : Host) (context : Value) (name : String) :
    StateM AccessorRegistry (Except EvalError Bool) :=
  ask context (.ok false) fun accessor => accessor.hasValue host context name

def get (host : Host) (context : Value) (name : String) :
    StateM AccessorRegistry (Except EvalError Value) :=
  ask context (.ok .null) fun accessor => accessor.get host context name

def names (host : Host) (context : Value) : StateM AccessorRegistry (Option (List String)) :=
  ask context (some []) fun accessor => accessor.names host context

def note (host : Host) (context : Value) (field note : String) :
    StateM AccessorRegistry (Option Value) :=
  ask context none fun accessor => accessor.note host context field note

def set (host : Host) (context : Value) (name : String) (value : Value) :
    StateM AccessorRegistry (Except EvalError (Value × Host)) := do
  return (← resolve context).set host context name value

def cachedCount (registry : AccessorRegistry) : Nat :=
  registry.chosen.length

end AccessorRegistry

end PathQuery
