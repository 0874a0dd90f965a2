import PathQuery.Evaluation

/-!
What evaluation consists of: results that are known, and requests for members and methods, one after
the other. Main statement: `Expression.composed`. A property that these steps keep holds of every
evaluation.
-/

namespace PathQuery

namespace Evaluation

/-- Computations that ask the registries for nothing but members and methods. -/
inductive Composed (environment : Environment) : {α : Type} → Evaluation α → Prop
  | lift {α : Type} (result : Except EvalError α) :
      Composed environment (liftM result : Evaluation α)
  | member (value : Value) (name : String) : Composed environment (member environment value name)
  | method (name : String) (arity : Nat) : Composed environment (method environment name arity)
  | bind {α β : Type} {computation : Evaluation α} {next : α → Evaluation β} :
      Composed environment computation → (∀ value, Composed environment (next value)) →
        Composed environment (computation >>= next)
  | within {α : Type} {computation : Evaluation α} (expression : Unit → String) :
      Composed environment computation → Composed environment (within expression computation)

section Steps

variable {environment : Environment} {α β : Type}

theorem Composed.pure (value : α) : Composed environment (pure value : Evaluation α) :=
  .lift (.ok value)

theorem Composed.throw (error : EvalError) : Composed environment (throw error : Evaluation α) :=
  .lift (.error error)

theorem composed_mapM {f : α → Evaluation β} (each : ∀ value, Composed environment (f value))
    (values : List α) : Composed environment (values.mapM f) := by
  induction values with
  | nil => exact .pure []
  | cons value values ih =>
    rw [List.mapM_cons]
    exact (each value).bind fun result => ih.bind fun results => .pure (result :: results)

theorem composed_read (name : String) (context : Value) :
    Composed environment (read environment name context) := by
  unfold read
  split
  · exact .pure context
  · exact .member context name

theorem composed_seek (name : String) (frames : List Frame) :
    Composed environment (seek environment name frames) := by
  induction frames with
  | nil => exact .pure _
  | cons frame frames ih =>
    rw [seek]
    refine (composed_read name frame.value).bind fun value => ?_
    split
    · exact ih
    · exact .pure _

theorem composed_filtered (converter : Converter) {verdict : Value → Evaluation Value}
    (each : ∀ element, Composed environment (verdict element)) (elements : List Value) :
    Composed environment (filtered converter verdict elements) := by
  induction elements with
  | nil => exact .pure []
  | cons element elements ih =>
    rw [filtered]
    exact (each element).bind fun verdict => ih.bind fun kept => .pure _

theorem composed_indexed (index : Expression) {evaluate : Value → Evaluation Value}
    (each : ∀ context, Composed environment (evaluate context)) (value context : Value)
    (concatenated : Bool) :
    Composed environment (indexed environment index evaluate value context concatenated) := by
  unfold indexed
  split
  · refine (each context).bind fun key => ?_
    split
    · exact .pure _
    · exact (Composed.lift _).bind fun held => .pure _
  · refine (each context).bind fun key => ?_
    split
    · exact .throw _
    · exact (Composed.member _ key.text).bind fun held => .pure _
  · split
    · exact (each context).bind fun position => (Composed.lift _).bind fun element => .pure _
    · exact (Composed.lift _).bind fun elements =>
        (composed_filtered _ each elements).bind fun kept => .pure _

theorem composed_methodOf (arity : Nat) (value : Value) :
    Composed environment (methodOf environment arity value) := by
  unfold methodOf
  split
  · split
    · exact .pure _
    · exact .throw _
  · exact .method _ arity
  · exact .throw _

/-- Whether what becomes of a path after a name is composed of requests. -/
structure Continuation.Composed (environment : Environment) (next : Continuation) : Prop where
  stay : ∀ scope, Evaluation.Composed environment (next.stay scope)
  climb : ∀ frames scope, Evaluation.Composed environment (next.climb frames scope)
  descend : ∀ value context scope,
    Evaluation.Composed environment (next.descend value context scope)

variable {next : Continuation}

theorem composed_climbed (onward : next.Composed environment) (first : Bool) (name : String)
    (last : Bool) (frames : List Frame) (scope : Scope) :
    Composed environment (climbed environment first name last next frames scope) := by
  unfold climbed
  split
  · split
    · exact .throw _
    · split
      · exact .throw _
      · exact onward.climb _ scope
  · exact (composed_seek _ _).bind fun found => onward.descend _ _ scope

theorem composed_named (onward : next.Composed environment) (first : Bool) (name : String)
    (last : Bool) (scope : Scope) :
    Composed environment (named environment first name last next scope) := by
  unfold named
  split
  · split
    · exact .throw _
    · exact onward.stay scope
  · exact composed_climbed onward first name last scope.frames scope

end Steps

end Evaluation

open Evaluation

namespace Segment

/-- Whether what segments do is composed of requests. -/
structure Composed (environment : Environment) (segments : List Segment) : Prop where
  walk : ∀ first scope, Evaluation.Composed environment (walk environment first segments scope)
  climb : ∀ frames scope, Evaluation.Composed environment (climb environment segments frames scope)
  descend : ∀ value context concatenated scope,
    Evaluation.Composed environment (descend environment segments value context concatenated scope)

namespace Composed

variable {environment : Environment} {segments : List Segment}

theorem nil : Composed environment [] where
  walk first scope := by
    rw [Segment.walk]
    exact .pure _
  climb frames scope := by
    rw [Segment.climb]
    exact .pure _
  descend value context concatenated scope := by
    rw [Segment.descend]
    exact .pure _

theorem expression {index : Expression}
    (evaluates : ∀ context scope,
      Evaluation.Composed environment (index.evaluate environment context scope))
    (rest : Composed environment segments) :
    Composed environment (.expression index :: segments) where
  walk first scope := by
    rw [Segment.walk]
    split
    · exact .throw _
    · exact (evaluates _ scope).bind fun value => (Evaluation.Composed.lift _).bind fun value =>
        rest.descend value _ false scope
  climb frames scope := by
    rw [Segment.climb]
    exact .throw _
  descend value context concatenated scope := by
    rw [Segment.descend]
    split
    · exact .pure _
    · have each (context : Value) := (evaluates context scope).bind fun value =>
        Evaluation.Composed.lift value.resolved
      exact (composed_indexed index each value context concatenated).bind fun found =>
        rest.descend _ context _ scope

theorem onward (rest : Composed environment segments) :
    Continuation.Composed environment
      { stay := fun scope => Segment.walk environment false segments scope
        climb := fun frames scope => Segment.climb environment segments frames scope
        descend := fun value context scope =>
          Segment.descend environment segments value context false scope } where
  stay := rest.walk false
  climb := rest.climb
  descend value context := rest.descend value context false

theorem name (key : String) (rest : Composed environment segments) :
    Composed environment (.name key :: segments) where
  walk first scope := by
    rw [Segment.walk]
    exact composed_named rest.onward first key _ scope
  climb frames scope := by
    rw [Segment.climb]
    exact composed_climbed rest.onward false key _ frames scope
  descend value context concatenated scope := by
    have enters (value : Value) :=
      composed_named rest.onward false key segments.isEmpty (scope.enter value)
    rw [Segment.descend]
    split
    · exact .pure _
    · split
      · exact enters value
      · split
        · exact (Evaluation.Composed.member value _).bind fun element =>
            rest.descend element context false scope
        · exact (Evaluation.Composed.lift _).bind fun elements =>
            (composed_mapM enters _).bind fun results => .pure _

end Composed

end Segment

section Induction

variable (environment : Environment)

mutual

-- By induction over the expression, one case for each way in which it is built.
theorem Expression.composed : ∀ (expression : Expression) (context : Value) (scope : Scope),
    Composed environment (expression.evaluate environment context scope)
  | .literal value, context, scope => by
    rw [Expression.evaluate]
    exact .pure value
  | .path segments, context, scope => by
    rw [Expression.evaluate]
    exact .within _ ((Segment.composed segments).walk true _)
  | .call target arguments, context, scope => by
    rw [Expression.evaluate]
    refine .within _ ?_
    refine (Expression.composed_evaluateAll arguments context scope).bind fun values => ?_
    exact (target.composed values.length context scope).bind fun method => .lift _
  | .operation left operator right, context, scope => by
    rw [Expression.evaluate]
    refine .within _ ?_
    refine (Part.composed_operand left _ context scope).bind fun left => ?_
    split
    · exact .pure _
    · exact (Part.composed_operand right _ context scope).bind fun right => .lift _
termination_by structural expression => expression

theorem Expression.composed_evaluateAll :
    ∀ (expressions : List Expression) (context : Value) (scope : Scope),
      Composed environment (Expression.evaluateAll environment expressions context scope)
  | [], context, scope => by
    rw [Expression.evaluateAll]
    exact .pure []
  | expression :: expressions, context, scope => by
    rw [Expression.evaluateAll]
    refine (expression.composed context scope).bind fun value => ?_
    exact (Expression.composed_evaluateAll expressions context scope).bind fun values => .pure _
termination_by structural expressions => expressions

theorem Target.composed : ∀ (target : Target) (arity : Nat) (context : Value) (scope : Scope),
    Composed environment (target.method environment arity context scope)
  | .name name, arity, context, scope => by
    rw [Target.method]
    exact .method name arity
  | .expression expression, arity, context, scope => by
    rw [Target.method]
    exact (expression.composed context scope).bind fun value =>
      (Composed.lift _).bind fun value => composed_methodOf arity value
termination_by structural target => target

theorem Part.composed_operand :
    ∀ (operand : Option Part) (taken : Bool) (context : Value) (scope : Scope),
      Composed environment (Part.operand environment taken operand context scope)
  | none, taken, context, scope => by
    rw [Part.operand]
    exact .pure _
  | some part, taken, context, scope => by
    rw [Part.operand]
    split
    · exact part.composed context scope
    · exact .pure _
termination_by structural operand => operand

theorem Part.composed : ∀ (part : Part) (context : Value) (scope : Scope),
    Composed environment (part.evaluate environment context scope)
  | .literal kind value, context, scope => by
    rw [Part.evaluate]
    exact .pure value
  | .expression kind expression, context, scope => by
    rw [Part.evaluate]
    exact (expression.composed context scope).bind fun value => .lift _
  | .empty kind, context, scope => by
    rw [Part.evaluate]
    exact .pure _
  | .text kind text, context, scope => by
    rw [Part.evaluate]
    exact .throw _
termination_by structural part => part

theorem Segment.composed : ∀ segments : List Segment, Segment.Composed environment segments
  | [] => .nil
  | .expression index :: segments => .expression index.composed (Segment.composed segments)
  | .name key :: segments => .name key (Segment.composed segments)
termination_by structural segments => segments

end

end Induction

end PathQuery
