import PathQuery.Engine

/-!
Bare errors, which name no expression, and hosts that report no others: their values, functions,
objects, accessors, methods, operators and conversions.
-/

namespace PathQuery

/-- Whether an error names no expression. -/
def EvalError.bare : EvalError → Bool
  | .operation .. => false
  | _ => true

mutual

/-- Whether the computations that a value puts off, if they fail, fail with bare errors. -/
def Value.bare : Value → Bool
  | .array elements => Value.allBare elements
  | .object fields => Value.fieldsBare fields
  | .sequence _ elements => Value.allBare elements
  | .deferred _ (.ok value) => value.bare
  | .deferred _ (.error error) => error.bare
  | _ => true
termination_by structural value => value

def Value.allBare : List Value → Bool
  | [] => true
  | value :: values => value.bare && Value.allBare values
termination_by structural values => values

def Value.fieldsBare : List (String × Value) → Bool
  | [] => true
  | (_, value) :: fields => value.bare && Value.fieldsBare fields
termination_by structural fields => fields

end

section Yields

variable {ε ε' α β : Type} {good : α → Prop} {bad : ε → Prop}

/-- Whether a result is a value or an error that the respective property holds of. -/
def Yields (good : α → Prop) (bad : ε → Prop) : Except ε α → Prop
  | .ok value => good value
  | .error error => bad error

@[simp] theorem yields_ok {value : α} : Yields good bad (.ok value) ↔ good value :=
  Iff.rfl

@[simp] theorem yields_pure {value : α} : Yields good bad (pure value) ↔ good value :=
  Iff.rfl

theorem Yields.weaken {bad' : ε → Prop} {result : Except ε α} (yields : Yields good bad result)
    (errors : ∀ error, bad error → bad' error) : Yields good bad' result := by
  cases result with
  | ok value => exact yields
  | error error => exact errors error yields

theorem Yields.bind {good' : β → Prop} {result : Except ε α} {next : α → Except ε β}
    (first : Yields good bad result) (rest : ∀ value, good value → Yields good' bad (next value)) :
    Yields good' bad (result >>= next) := by
  cases result with
  | ok value => exact rest value first
  | error error => exact first

theorem Yields.map {good' : β → Prop} {result : Except ε α} {f : α → β}
    (yields : Yields good bad result) (values : ∀ value, good value → good' (f value)) :
    Yields good' bad (result.map f) := by
  cases result with
  | ok value => exact values value yields
  | error error => exact yields

theorem Yields.mapError {bad' : ε' → Prop} {result : Except ε α} {f : ε → ε'}
    (yields : Yields good bad result) (errors : ∀ error, bad error → bad' (f error)) :
    Yields good bad' (result.mapError f) := by
  cases result with
  | ok value => exact yields
  | error error => exact errors error yields

theorem yields_mapM {good : β → Prop} {values : List α} {f : α → Except ε β}
    (each : ∀ value ∈ values, Yields good bad (f value)) :
    Yields (fun results => ∀ result ∈ results, good result) bad (values.mapM f) := by
  induction values with
  | nil => simp
  | cons value values ih =>
    rw [List.forall_mem_cons] at each
    rw [List.mapM_cons]
    refine each.1.bind fun result first => (ih each.2).bind fun results rest => ?_
    exact List.forall_mem_cons.mpr ⟨first, rest⟩

end Yields

/-- Whether a result is a bare value or a bare error. -/
abbrev BareResult (result : Except EvalError Value) : Prop :=
  Yields (fun value => value.bare = true) (fun error => error.bare = true) result

/-- Whether a result, if it is an error, is a bare one. -/
abbrev BareFailure {α : Type} (result : Except EvalError α) : Prop :=
  Yields (fun _ => True) (fun error => error.bare = true) result

namespace Value

@[simp] theorem allBare_iff {values : List Value} :
    allBare values = true ↔ ∀ value ∈ values, value.bare = true := by
  induction values with
  | nil => simp [allBare]
  | cons value values ih => simp [allBare, ih]

@[simp] theorem fieldsBare_iff {fields : List (String × Value)} :
    fieldsBare fields = true ↔ ∀ field ∈ fields, field.2.bare = true := by
  induction fields with
  | nil => simp [fieldsBare]
  | cons field fields ih => simp [fieldsBare, ih]

@[simp] theorem bare_array {elements : List Value} :
    (array elements).bare = true ↔ ∀ element ∈ elements, element.bare = true := by
  rw [bare, allBare_iff]

@[simp] theorem bare_sequence {handle : Nat} {elements : List Value} :
    (sequence handle elements).bare = true ↔ ∀ element ∈ elements, element.bare = true := by
  rw [bare, allBare_iff]

@[simp] theorem bare_object {fields : List (String × Value)} :
    (object fields).bare = true ↔ ∀ field ∈ fields, field.2.bare = true := by
  rw [bare, fieldsBare_iff]

@[simp] theorem bare_deferred {handle : Nat} {result : Except EvalError Value} :
    (deferred handle result).bare = true ↔ BareResult result := by
  cases result <;> rfl

theorem bare_array_map {α : Type} {values : List α} {f : α → Value}
    (bare : ∀ value, (f value).bare = true) : (array (values.map f)).bare = true := by
  simp [bare]

theorem bareResult_resolved {value : Value} (bare : value.bare = true) :
    BareResult value.resolved := by
  cases value with
  | deferred handle result => exact bare_deferred.mp bare
  | _ => exact bare

theorem bare_of_mem_elements {value : Value} {elements : List Value} (bare : value.bare = true)
    (list : value.elements? = some elements) : ∀ element ∈ elements, element.bare = true := by
  cases value <;> simp only [elements?, reduceCtorEq, Option.some.injEq] at list <;> subst list
  · exact bare_array.mp bare
  · exact bare_sequence.mp bare

theorem bare_getD {values : List Value} (bare : ∀ value ∈ values, value.bare = true)
    (position : Nat) : (values.getD position .null).bare = true := by
  rw [List.getD_eq_getElem?_getD]
  cases held : values[position]? with
  | none => rfl
  | some value => exact bare value (List.mem_of_getElem? held)

theorem bare_headD {values : List Value} (bare : ∀ value ∈ values, value.bare = true) :
    (values.headD .null).bare = true := by
  cases values with
  | nil => rfl
  | cons value values => exact bare value List.mem_cons_self

theorem bare_get {fields : List (String × Value)} (bare : ∀ field ∈ fields, field.2.bare = true)
    (name : String) : ((Fields.get? name fields).getD .null).bare = true := by
  induction fields with
  | nil => rfl
  | cons field fields ih =>
    rw [List.forall_mem_cons] at bare
    rw [Fields.get?]
    split
    · exact bare.1
    · exact ih bare.2

end Value

/-- Whether conversions do not turn bare values into others. -/
def Converter.Bare (converter : Converter) : Prop :=
  ∀ (value : Value) (target : ValueType), value.bare = true →
    Yields (fun converted => converted.bare = true) (fun _ => True) (converter.convert value target)

/-- Whether the functions, members and operators of a host are bare. -/
structure Host.Bare (host : Host) : Prop where
  invoke : ∀ handle arguments, Value.allBare arguments = true →
    BareResult (host.invoke handle arguments)
  field : ∀ ref name value, host.field ref name = some value → value.bare = true
  operate : ∀ (ref : HostRef) operator right result, right.bare = true →
    (host.object ref).operate operator right = some result → BareResult result

/-- Whether the members that an accessor reads are bare. -/
def Accessor.Bare (host : Host) (accessor : Accessor) : Prop :=
  ∀ (context : Value) (name : String), context.bare = true →
    BareResult (accessor.get host context name)

structure AccessorRegistry.Bare (host : Host) (registry : AccessorRegistry) : Prop where
  accessors : ∀ accessor ∈ registry.accessors, accessor.Bare host
  chosen : ∀ choice ∈ registry.chosen, choice.2.Bare host

def Method.Bare (method : Method) : Prop :=
  ∀ arguments, Value.allBare arguments = true → BareResult (method.body arguments)

def MethodGroup.Bare (group : MethodGroup) : Prop :=
  ∀ method ∈ group.methods, method.Bare

structure MethodRegistry.Bare (registry : MethodRegistry) : Prop where
  groups : ∀ group ∈ registry.groups, group.Bare
  load : ∀ space group, registry.load space = some group → group.Bare
  chosen : ∀ choice ∈ registry.chosen, choice.2.Bare

def Executor.Bare (executor : Executor) : Prop :=
  ∀ left operator right result, left.bare = true → right.bare = true →
    executor left operator right = some result → BareResult result

structure Environment.Bare (environment : Environment) : Prop where
  converter : environment.converter.Bare
  executors : ∀ executor ∈ environment.executors, Executor.Bare executor
  host : environment.host.Bare

structure Registries.Bare (host : Host) (registries : Registries) : Prop where
  accessors : registries.accessors.Bare host
  methods : registries.methods.Bare

def Scope.Bare (scope : Scope) : Prop :=
  ∀ frame ∈ scope.frames, frame.value.bare = true

structure Engine.Bare (engine : Engine) : Prop where
  environment : engine.environment.Bare
  registries : engine.registries.Bare engine.environment.host

end PathQuery
