import PathQuery.Method.Core
import PathQuery.Method.Date
import PathQuery.Settings

/-!
The registry of methods: which method a name stands for in a call with a number of arguments.

A name is bare or has a namespace before its last point. Of the methods of that name that fit the
call, the one that fits best is chosen, and of equally good ones the earliest. A registry remembers
its choices until groups are registered or the loader is set.
-/

namespace PathQuery

/-- What a choice of a method depends on, apart from the groups. -/
structure MethodCall where
  name : String
  arity : Nat
  caseSensitive : Bool
  nullCompletion : Bool
deriving DecidableEq

namespace MethodCall

def ofSettings (name : String) (arity : Nat) (settings : Settings) : MethodCall :=
  ⟨name, arity, settings.caseSensitiveMethods, settings.nullCompletion⟩

/-- The namespace before the last point of the name, if it has one, and the bare name. -/
def parts (call : MethodCall) : Option String × String :=
  let reversed := call.name.toList.reverse
  let bare := String.ofList (reversed.takeWhile (· != '.')).reverse
  match reversed.dropWhile (· != '.') with
  | [] => (none, bare)
  | _ :: space => (some (String.ofList space.reverse), bare)

/-- Whether two names are the same one for the call. -/
def sameName (call : MethodCall) (left right : String) : Bool :=
  if call.caseSensitive then left == right
  else left.map Char.toLower == right.map Char.toLower

/-- Whether the call goes to a group. -/
def addresses (call : MethodCall) (group : MethodGroup) : Bool :=
  match call.parts.1, group.space? with
  | none, none => true
  | some wanted, some actual => call.sameName wanted actual
  | _, _ => false

def fit? (call : MethodCall) (method : Method) : Option Fit :=
  if call.sameName method.name call.parts.2 then
    Fit.of? method.parameters call.arity call.nullCompletion
  else none

def candidates (call : MethodCall) (groups : List MethodGroup) : List (Fit × Method) :=
  ((groups.filter call.addresses).flatMap MethodGroup.methods).filterMap fun method =>
    (call.fit? method).map (·, method)

/-- The earliest of the best candidates. -/
def best? : List (Fit × Method) → Option (Fit × Method)
  | [] => none
  | first :: others =>
      match best? others with
      | none => some first
      | some other => if other.1.rank < first.1.rank then some other else some first

def find? (call : MethodCall) (groups : List MethodGroup) : Option Method :=
  (best? (call.candidates groups)).map (·.2)

end MethodCall

/-- Groups of methods in the order of their registration, a loader of namespaces that no group has,
and the choices that were made. -/
structure MethodRegistry where
  groups : List MethodGroup := []
  load : String → Option MethodGroup := fun _ => none
  chosen : List (MethodCall × Method) := []

namespace MethodRegistry

def standard (now : Time.Instant) : MethodRegistry where
  groups := [Method.core, Method.dates now]

/-- Adds a group and forgets all choices. -/
def register (group : MethodGroup) (registry : MethodRegistry) : MethodRegistry :=
  { registry with groups := registry.groups ++ [group], chosen := [] }

def setLoader (load : String → Option MethodGroup) (registry : MethodRegistry) :
    MethodRegistry :=
  { registry with load, chosen := [] }

/-- Loads the namespace of a call if no group has it. -/
def loadFor (call : MethodCall) (registry : MethodRegistry) : MethodRegistry :=
  match call.parts.1 with
  | none => registry
  | some space =>
      if registry.groups.any call.addresses then registry
      else
        match registry.load space with
        | some group => { registry with groups := registry.groups ++ [group] }
        | none => registry

/-- The method for a name in a call with a number of arguments. -/
def resolve (settings : Settings) (name : String) (arity : Nat) :
    StateM MethodRegistry (Except EvalError Method) := do
  let call := MethodCall.ofSettings name arity settings
  match (← get).chosen.lookup call with
  | some method => return .ok method
  | none =>
      if settings.anyNamespace then modify (loadFor call)
      let registry ← get
      match call.find? registry.groups with
      | some method =>
          set { registry with chosen := (call, method) :: registry.chosen }
          return .ok method
      | none => return .error (.unresolvedMethod name arity)

def cachedCount (registry : MethodRegistry) : Nat :=
  registry.chosen.length

end MethodRegistry

end PathQuery
