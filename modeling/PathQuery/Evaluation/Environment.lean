import PathQuery.Accessor
import PathQuery.Method.Registry

/-!
What an evaluation consults, the contexts that it has entered, and the computations that evaluation
consists of. The registries change in the course of an evaluation, because they remember their
choices, also when it fails.
-/

namespace PathQuery

/-- An operator of the host: the outcome for two operands, if it supports them. -/
abbrev Executor := Value → TokenKind → Value → Option (Except EvalError Value)

structure Environment where
  settings : Settings := {}
  converter : Converter := Conversion.standard
  /-- The operators of the host, of which the earlier are asked first. -/
  executors : List Executor := []
  host : Host := {}

structure Registries where
  accessors : AccessorRegistry := .standard
  methods : MethodRegistry

structure Frame where
  value : Value
  root : Bool := false

/-- The contexts that have been entered, the innermost first, and whether the next one is going to
be a root. -/
structure Scope where
  frames : List Frame := []
  pendingRoot : Bool := false

namespace Scope

def enter (scope : Scope) (value : Value) : Scope where
  frames := ⟨value, scope.pendingRoot⟩ :: scope.frames

/-- Makes the next context that is entered a root. -/
def registerRoot (scope : Scope) : Scope :=
  { scope with pendingRoot := true }

/-- Takes the mark back, if no context has been entered since. -/
def unregisterRoot (scope : Scope) : Scope :=
  { scope with pendingRoot := false }

/-- The frames from the nearest root on, or the outermost frame if there is no root. -/
def fromRoot : List Frame → List Frame
  | [] => []
  | [frame] => [frame]
  | frame :: parents => if frame.root then frame :: parents else fromRoot parents

end Scope

/-- A computation that may fail and that changes the registries either way. -/
abbrev Evaluation := ExceptT EvalError (StateM Registries)

namespace Evaluation

def member (environment : Environment) (context : Value) (name : String) : Evaluation Value :=
  ExceptT.mk do
    let registries ← get
    let (outcome, accessors) :=
      (AccessorRegistry.get environment.host context name).run registries.accessors
    set { registries with accessors }
    return outcome >>= Value.resolved

def method (environment : Environment) (name : String) (arity : Nat) : Evaluation Method :=
  ExceptT.mk do
    let registries ← get
    let (outcome, methods) :=
      (MethodRegistry.resolve environment.settings name arity).run registries.methods
    set { registries with methods }
    return outcome

/-- Names an expression in the failures of its computation. -/
def within {α : Type} (expression : Unit → String) (computation : Evaluation α) : Evaluation α :=
  ExceptT.adapt (fun error => error.within (expression ())) computation

end Evaluation

end PathQuery
