import PathQuery.Evaluation

/-!
The engine: evaluates expressions by its settings, with methods, accessors and operators that can be
added to it.
-/

namespace PathQuery

/-- What evaluations consult, and the registries that they change. -/
structure Engine where
  environment : Environment := {}
  registries : Registries

namespace Engine

/-- An engine with the standard conversions, accessors and methods, at the given time. -/
def standard (settings : Settings) (now : Time.Instant) : Engine where
  environment := { settings }
  registries := { methods := .standard now }

def registerMethods (group : MethodGroup) (engine : Engine) : Engine :=
  { engine with registries.methods := engine.registries.methods.register group }

def setLoader (load : String → Option MethodGroup) (engine : Engine) : Engine :=
  { engine with registries.methods := engine.registries.methods.setLoader load }

def registerAccessor (accessor : Accessor) (engine : Engine) : Engine :=
  { engine with registries.accessors := engine.registries.accessors.register accessor }

/-- Adds an operator of the host, which is asked after those added before. -/
def registerExecutor (executor : Executor) (engine : Engine) : Engine :=
  { engine with environment.executors := engine.environment.executors ++ [executor] }

def evaluate (engine : Engine) (expression : Expression) (context : Value) (scope : Scope := {}) :
    Except EvalError Value × Engine :=
  let (outcome, registries) :=
    ((expression.evaluate engine.environment context scope).run).run engine.registries
  (outcome, { engine with registries })

end Engine

end PathQuery
