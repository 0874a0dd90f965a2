import PathQuery.Proofs.Blame.Steps
import PathQuery.Proofs.Leaves

/-!
Which expression a failure names. Main statement: `evaluate_blames`, a failure names one part of the
expression, once, and that part has failed with it.
-/

namespace PathQuery

open Evaluation

mutual

/-- An expression and what stands in it at any depth: operands, expressions in brackets, receivers,
arguments and the targets of calls. -/
def Expression.subexpressions : Expression → List Expression
  | .literal value => [.literal value]
  | .path segments => .path segments :: Segment.subexpressions segments
  | .call target arguments =>
      .call target arguments :: (target.subexpressions ++ Expression.allSubexpressions arguments)
  | .operation left operator right =>
      .operation left operator right ::
        (Part.operandSubexpressions left ++ Part.operandSubexpressions right)
termination_by structural expression => expression

def Expression.allSubexpressions : List Expression → List Expression
  | [] => []
  | expression :: expressions =>
      expression.subexpressions ++ Expression.allSubexpressions expressions
termination_by structural expressions => expressions

def Segment.subexpressions : List Segment → List Expression
  | [] => []
  | .name _ :: segments => Segment.subexpressions segments
  | .expression expression :: segments =>
      expression.subexpressions ++ Segment.subexpressions segments
termination_by structural segments => segments

def Target.subexpressions : Target → List Expression
  | .name _ => []
  | .expression expression => expression.subexpressions
termination_by structural target => target

def Part.operandSubexpressions : Option Part → List Expression
  | some (.expression _ expression) => expression.subexpressions
  | _ => []
termination_by structural part => part

end

/-- Whether an error names an expression, with a cause that names none, and the expression fails
with it somewhere. -/
structure Blames (environment : Environment) (error : EvalError) (part : Expression) : Prop where
  names : ∃ cause, error = .operation part.text (some cause) ∧ cause.bare = true
  failed : ∃ context scope registries,
    (outcome (part.evaluate environment context scope) registries).1 = .error error

/-- Whether an error blames one of some expressions. -/
def Located (environment : Environment) (parts : List Expression) (error : EvalError) : Prop :=
  ∃ part ∈ parts, Blames environment error part

/-- Whether an error is one that nothing has been named in, or blames one of some expressions. -/
def Faults (environment : Environment) (parts : List Expression) (error : EvalError) : Prop :=
  error.bare = true ∨ Located environment parts error

/-- Whether a leaf is a bare literal, or no literal. -/
def Leaf.bare : Leaf → Bool
  | .literal value => value.bare
  | _ => true

mutual

theorem Value.bare_of_leaves : ∀ value : Value, (∀ leaf ∈ value.leaves, leaf.bare = true) →
    value.bare = true
  | .array elements, literals => by
    rw [Value.leaves] at literals
    exact Value.bare_array.mpr (Value.allBare_iff.mp (Value.allBare_of_leaves elements literals))
  | .object fields, literals => literals (.literal (.object fields)) (by simp [Value.leaves])
  | .sequence handle elements, literals =>
    literals (.literal (.sequence handle elements)) (by simp [Value.leaves])
  | .deferred handle result, literals =>
    literals (.literal (.deferred handle result)) (by simp [Value.leaves])
  | .null, _ | .boolean _, _ | .integer _, _ | .long _, _ | .bigInteger _, _ | .float _, _
  | .decimal _, _ | .string _, _ | .date _, _ | .function _, _ | .host _, _ => rfl
termination_by structural value => value

theorem Value.allBare_of_leaves : ∀ values : List Value,
    (∀ leaf ∈ Value.allLeaves values, leaf.bare = true) → Value.allBare values = true
  | [], _ => rfl
  | value :: values, literals => by
    rw [Value.allLeaves, List.forall_mem_append] at literals
    rw [Value.allBare, Value.bare_of_leaves value literals.1,
      Value.allBare_of_leaves values literals.2, Bool.and_self]
termination_by structural values => values

end

section Naming

variable {environment : Environment} {parts others : List Expression}

theorem ensures_bare {α : Type} {host : Host} {good : α → Prop} {computation : Evaluation α}
    (ensures : Ensures host good (fun error => error.bare = true) computation) :
    Ensures host good (Faults environment parts) computation :=
  ensures.weaken fun _ => .inl

theorem ensures_located {α : Type} {host : Host} {good : α → Prop} {computation : Evaluation α}
    (ensures : Ensures host good (Located environment parts) computation)
    (subset : parts ⊆ others) : Ensures host good (Faults environment others) computation :=
  ensures.weaken fun _ ⟨part, member, blames⟩ => .inr ⟨part, subset member, blames⟩

theorem ensures_resolved {host : Host} {computation : Evaluation Value}
    (ensures : EnsuresValue host (Faults environment parts) computation) :
    EnsuresValue host (Faults environment parts)
      (computation >>= fun value => liftM value.resolved) :=
  ensures.bind fun _ bare => ensures_bare (ensures_lift (Value.bareResult_resolved bare))

/-- An expression that names itself in the errors of a computation does so in the bare ones, and
passes on those that blame a part of it. -/
theorem ensures_of_within {expression : Expression} {context : Value} {scope : Scope}
    {body : Evaluation Value}
    (evaluates : expression.evaluate environment context scope =
      within (fun _ => expression.text) body)
    (ensures : EnsuresValue environment.host (Faults environment parts) body) :
    EnsuresValue environment.host (Located environment (expression :: parts))
      (expression.evaluate environment context scope) := by
  intro registries bare
  have kept := ensures registries bare
  have came : outcome (expression.evaluate environment context scope) registries =
      outcome (within (fun _ => expression.text) body) registries := by rw [evaluates]
  rw [outcome_within] at came
  rcases ran : outcome body registries with ⟨error | value, after⟩ <;> rw [ran] at kept came
  · rw [came]
    refine ⟨?_, kept.2⟩
    -- a bare error is named here, and these registries are where the expression fails with it
    rcases kept.1 with unnamed | ⟨part, member, blames⟩
    · have named : error.within expression.text = .operation expression.text (some error) := by
        cases error with
        | operation => cases unnamed
        | _ => rfl
      refine ⟨expression, List.mem_cons_self, ⟨error, named, unnamed⟩, ?_⟩
      exact ⟨context, scope, registries, by rw [came]⟩
    · obtain ⟨cause, rfl, _⟩ := blames.names
      exact ⟨part, List.mem_cons_of_mem _ member, blames⟩
  · rw [came]
    exact kept

end Naming

section Paths

variable {environment : Environment} {parts : List Expression} {segments : List Segment}

theorem Scope.Bare.enter {scope : Scope} (bare : scope.Bare) {value : Value}
    (held : value.bare = true) : (scope.enter value).Bare :=
  List.forall_mem_cons.mpr ⟨held, bare⟩

/-- Whether segments come to bare values or blame one of some expressions. -/
structure Segment.Keeps (environment : Environment) (parts : List Expression)
    (segments : List Segment) : Prop where
  walk : ∀ (first : Bool) (scope : Scope), scope.Bare →
    EnsuresValue environment.host (Faults environment parts)
      (Segment.walk environment first segments scope)
  climb : ∀ (frames : List Frame) (scope : Scope), (∀ frame ∈ frames, frame.value.bare = true) →
    scope.Bare →
      EnsuresValue environment.host (Faults environment parts)
        (Segment.climb environment segments frames scope)
  descend : ∀ (value context : Value) (concatenated : Bool) (scope : Scope), value.bare = true →
    context.bare = true → scope.Bare →
      EnsuresValue environment.host (Faults environment parts)
        (Segment.descend environment segments value context concatenated scope)

namespace Segment.Keeps

theorem nil : Keeps environment parts [] where
  walk first scope _ := by
    rw [Segment.walk]
    exact ensures_pure rfl
  climb frames scope _ _ := by
    rw [Segment.climb]
    exact ensures_pure rfl
  descend value context concatenated scope held _ _ := by
    rw [Segment.descend]
    exact ensures_pure held

/-- An expression that evaluates to bare values or blames one of the expressions may stand before
segments that do so. -/
theorem expression (bare : environment.Bare) {index : Expression}
    (evaluates : ∀ (context : Value) (scope : Scope), context.bare = true → scope.Bare →
      EnsuresValue environment.host (Faults environment parts)
        (index.evaluate environment context scope))
    (rest : Keeps environment parts segments) :
    Keeps environment parts (.expression index :: segments) where
  walk first scope entered := by
    rw [Segment.walk]
    split
    · exact ensures_throw (.inl rfl)
    · next frame outer frames =>
      have held := entered frame (by simp [frames])
      refine (evaluates frame.value scope held entered).bind fun value bare => ?_
      have resolves := Value.bareResult_resolved bare
      refine (ensures_bare (ensures_lift resolves)).bind fun value bare => ?_
      exact rest.descend value frame.value false scope bare held entered
  climb frames scope _ _ := by
    rw [Segment.climb]
    exact ensures_throw (.inl rfl)
  descend value context concatenated scope held around entered := by
    rw [Segment.descend]
    split
    · exact ensures_pure (bare_atNull (.expression index :: segments))
    · have resolves (context : Value) (around : context.bare = true) :=
        ensures_resolved (evaluates context scope around entered)
      refine (ensures_indexed bare.host (fun _ => .inl) index resolves held around
        concatenated).bind fun indexed bare => ?_
      exact rest.descend _ context _ scope bare around entered

/-- Going on with the segments after a name. -/
theorem onward (rest : Keeps environment parts segments) :
    Continuation.Keeps environment.host (Faults environment parts)
      { stay := fun scope => Segment.walk environment false segments scope
        climb := fun frames scope => Segment.climb environment segments frames scope
        descend := fun value context scope =>
          Segment.descend environment segments value context false scope } where
  stay := rest.walk false
  climb := rest.climb
  descend value context := rest.descend value context false

theorem name (bare : environment.Bare) (key : String) (rest : Keeps environment parts segments) :
    Keeps environment parts (.name key :: segments) where
  walk first scope entered := by
    rw [Segment.walk]
    exact ensures_named bare.host (fun _ => .inl) rest.onward first key _ entered
  climb frames scope held entered := by
    rw [Segment.climb]
    exact ensures_climbed bare.host (fun _ => .inl) rest.onward false key _ held entered
  descend value context concatenated scope held around entered := by
    have enters (value : Value) (held : value.bare = true) :=
      ensures_named bare.host (fun _ => .inl) rest.onward false key segments.isEmpty
        (entered.enter held)
    rw [Segment.descend]
    split
    · exact ensures_pure rfl
    · split
      · exact enters value held
      · split
        · refine (ensures_bare (ensures_member bare.host held (bareName key))).bind
            fun element bare => ?_
          exact rest.descend element context false scope bare around entered
        · refine (ensures_bare (ensures_lift (yields_elementsOf held))).bind
            fun elements bare => ?_
          refine (ensures_mapM fun element member => enters element
            (bare element (List.mem_of_mem_filter member))).bind fun results bare => ?_
          exact ensures_pure (Value.bare_array.mpr (bare_of_mem_spliced bare))

end Segment.Keeps

end Paths

section Induction

variable {environment : Environment}

mutual

-- By induction over the expression. Each part begins with the bare registries that the one before
-- it has left, and blames itself or a part of it.
theorem Expression.ensures_evaluate (bare : environment.Bare) : ∀ expression : Expression,
    (∀ leaf ∈ expression.leaves, leaf.bare = true) → ∀ (context : Value) (scope : Scope),
      context.bare = true → scope.Bare →
        EnsuresValue environment.host (Located environment expression.subexpressions)
          (expression.evaluate environment context scope)
  | .literal value, literals, context, scope, _, _ => by
    rw [Expression.evaluate]
    exact ensures_pure (Value.bare_of_leaves value literals)
  | .path segments, literals, context, scope, held, entered => by
    apply ensures_of_within (by rw [Expression.evaluate])
    have keeps := Segment.keeps bare segments (List.Subset.refl _) literals
    exact keeps.walk true _ (entered.enter held)
  | .call target arguments, literals, context, scope, held, entered => by
    rw [Expression.leaves, List.forall_mem_append] at literals
    apply ensures_of_within (by rw [Expression.evaluate])
    refine (Expression.ensures_evaluateAll bare arguments (List.subset_append_right _ _) literals.2
      context scope held entered).bind fun values bound => ?_
    refine (Target.ensures_method bare target (List.subset_append_left _ _) literals.1 values.length
      context scope held entered).bind fun method sound => ?_
    exact ensures_bare (ensures_lift (sound.call bare.converter bound))
  | .operation left operator right, literals, context, scope, held, entered => by
    rw [Expression.leaves, List.forall_mem_append, List.forall_mem_cons] at literals
    apply ensures_of_within (by rw [Expression.evaluate])
    refine (Part.ensures_operand bare left (List.subset_append_left _ _) literals.1 _ context scope
      held entered).bind fun left leftHeld => ?_
    split
    · next value decided => exact ensures_pure (bare_of_decided decided)
    · refine (Part.ensures_operand bare right (List.subset_append_right _ _) literals.2.2 _ context
        scope held entered).bind fun right rightHeld => ?_
      exact ensures_bare (ensures_lift (operated_bare bare operator.kind leftHeld rightHeld))
termination_by structural expression => expression

theorem Expression.ensures_evaluateAll (bare : environment.Bare) :
    ∀ (expressions : List Expression) {parts : List Expression},
      Expression.allSubexpressions expressions ⊆ parts →
      (∀ leaf ∈ Expression.allLeaves expressions, leaf.bare = true) →
      ∀ (context : Value) (scope : Scope), context.bare = true → scope.Bare →
        Ensures environment.host (fun values => ∀ value ∈ values, value.bare = true)
          (Faults environment parts)
          (Expression.evaluateAll environment expressions context scope)
  | [], parts, _, _, context, scope, _, _ => by
    rw [Expression.evaluateAll]
    exact ensures_pure (by simp)
  | expression :: expressions, parts, within, literals, context, scope, held, entered => by
    rw [Expression.allSubexpressions, List.append_subset] at within
    rw [Expression.allLeaves, List.forall_mem_append] at literals
    rw [Expression.evaluateAll]
    have evaluates :=
      Expression.ensures_evaluate bare expression literals.1 context scope held entered
    refine (ensures_located evaluates within.1).bind fun value first => ?_
    refine (Expression.ensures_evaluateAll bare expressions within.2 literals.2 context scope held
      entered).bind fun values rest => ?_
    exact ensures_pure (List.forall_mem_cons.mpr ⟨first, rest⟩)
termination_by structural expressions => expressions

theorem Target.ensures_method (bare : environment.Bare) :
    ∀ (target : Target) {parts : List Expression}, target.subexpressions ⊆ parts →
      (∀ leaf ∈ target.leaves, leaf.bare = true) →
      ∀ (arity : Nat) (context : Value) (scope : Scope), context.bare = true → scope.Bare →
        Ensures environment.host Method.Bare (Faults environment parts)
          (target.method environment arity context scope)
  | .name name, parts, _, _, arity, context, scope, _, _ => by
    rw [Target.method]
    exact ensures_bare (ensures_method environment name arity)
  | .expression expression, parts, within, literals, arity, context, scope, held, entered => by
    rw [Target.subexpressions] at within
    rw [Target.method]
    have evaluates :=
      Expression.ensures_evaluate bare expression literals context scope held entered
    refine (ensures_located evaluates within).bind fun value came => ?_
    refine (ensures_bare (ensures_lift (Value.bareResult_resolved came))).bind fun value _ => ?_
    exact ensures_bare (ensures_methodOf bare.host arity value)
termination_by structural target => target

theorem Part.ensures_operand (bare : environment.Bare) :
    ∀ (operand : Option Part) {parts : List Expression},
      Part.operandSubexpressions operand ⊆ parts →
      (∀ leaf ∈ Part.operandLeaves operand, leaf.bare = true) →
      ∀ (taken : Bool) (context : Value) (scope : Scope), context.bare = true → scope.Bare →
        EnsuresValue environment.host (Faults environment parts)
          (Part.operand environment taken operand context scope)
  | none, parts, _, _, taken, context, scope, _, _ => by
    rw [Part.operand]
    exact ensures_pure rfl
  | some part, parts, within, literals, taken, context, scope, held, entered => by
    rw [Part.operand]
    split
    · exact Part.ensures_evaluate bare part within literals context scope held entered
    · exact ensures_pure rfl
termination_by structural operand => operand

theorem Part.ensures_evaluate (bare : environment.Bare) :
    ∀ (part : Part) {parts : List Expression},
      Part.operandSubexpressions (some part) ⊆ parts →
      (∀ leaf ∈ Part.operandLeaves (some part), leaf.bare = true) →
      ∀ (context : Value) (scope : Scope), context.bare = true → scope.Bare →
        EnsuresValue environment.host (Faults environment parts)
          (part.evaluate environment context scope)
  | .literal kind value, parts, _, literals, context, scope, _, _ => by
    rw [Part.evaluate]
    exact ensures_pure (Value.bare_of_leaves value literals)
  | .expression kind expression, parts, within, literals, context, scope, held, entered => by
    rw [Part.operandSubexpressions] at within
    rw [Part.operandLeaves] at literals
    rw [Part.evaluate]
    have evaluates :=
      Expression.ensures_evaluate bare expression literals context scope held entered
    exact ensures_resolved (ensures_located evaluates within)
  | .empty kind, parts, _, _, context, scope, _, _ => by
    rw [Part.evaluate]
    exact ensures_pure rfl
  | .text kind text, parts, _, _, context, scope, _, _ => by
    rw [Part.evaluate]
    exact ensures_throw (.inl rfl)
termination_by structural part => part

theorem Segment.keeps (bare : environment.Bare) :
    ∀ (segments : List Segment) {parts : List Expression},
      Segment.subexpressions segments ⊆ parts →
      (∀ leaf ∈ Segment.allLeaves segments, leaf.bare = true) →
        Segment.Keeps environment parts segments
  | [], parts, _, _ => .nil
  | .expression index :: segments, parts, within, literals => by
    rw [Segment.subexpressions, List.append_subset] at within
    rw [Segment.allLeaves, List.forall_mem_append] at literals
    refine .expression bare ?_ (Segment.keeps bare segments within.2 literals.2)
    exact fun context scope held entered => ensures_located
      (Expression.ensures_evaluate bare index literals.1 context scope held entered) within.1
  | .name name :: segments, parts, within, literals => by
    rw [Segment.subexpressions] at within
    rw [Segment.allLeaves, List.forall_mem_cons] at literals
    exact .name bare name (Segment.keeps bare segments within literals.2)
termination_by structural segments => segments

end

end Induction

section Engine

variable {engine : Engine} {expression : Expression} {context : Value} {scope : Scope}

/-- Evaluation leaves a bare engine behind, and comes to bare values. -/
theorem Engine.Bare.evaluate (bare : engine.Bare)
    (literals : ∀ leaf ∈ expression.leaves, leaf.bare = true) (held : context.bare = true)
    (entered : scope.Bare) :
    (∀ value, (engine.evaluate expression context scope).1 = .ok value → value.bare = true) ∧
      (engine.evaluate expression context scope).2.Bare := by
  have ⟨yields, after⟩ := Expression.ensures_evaluate bare.environment expression literals context
    scope held entered engine.registries bare.registries
  refine ⟨fun value came => ?_, bare.environment, after⟩
  change (outcome _ engine.registries).1 = _ at came
  rwa [came] at yields

/-- A literal never fails. If another expression fails, on a host that reports bare errors only,
then with an error that names the expression or a part of it, which has failed with that error, and
gives a cause that names no other. -/
theorem evaluate_blames :
    (∀ (engine : Engine) (value context : Value) (scope : Scope),
      engine.evaluate (.literal value) context scope = (.ok value, engine)) ∧
    ∀ (engine : Engine) (expression : Expression) (context : Value) (scope : Scope),
      engine.Bare → (∀ leaf ∈ expression.leaves, leaf.bare = true) → context.bare = true →
        scope.Bare → ∀ error, (engine.evaluate expression context scope).1 = .error error →
          ∃ part ∈ expression.subexpressions, Blames engine.environment error part := by
  refine ⟨fun engine value context scope => rfl, ?_⟩
  intro engine expression context scope bare literals held entered error failed
  have ⟨yields, _⟩ := Expression.ensures_evaluate bare.environment expression literals context scope
    held entered engine.registries bare.registries
  change (outcome _ engine.registries).1 = _ at failed
  rwa [failed] at yields

/-- An operator of the host fails in an operand of a product. -/
theorem evaluate_blames_operand :
    let offline : Executor := fun _ operator _ =>
      if operator = .add then some (.error (.host "offline")) else none
    let engine := (Engine.standard {} ⟨0, 0, by decide, by decide⟩).registerExecutor offline
    let literal := fun n => some (Part.literal .integerLiteral (.integer n))
    let sum := Expression.operation (literal 1) ⟨.add, "+"⟩ (literal 2)
    let product := Expression.operation (literal 3) ⟨.multiply, "*"⟩
      (some (.expression .expression sum))
    let error := EvalError.operation sum.text (some (.host "offline"))
    (engine.evaluate product .null).1 = .error error ∧
      ∃ part ∈ product.subexpressions, Blames engine.environment error part := by
  intro offline engine literal sum product error
  have came : (engine.evaluate product .null).1 = .error error := by rfl
  have failing : offline.Bare := by
    intro left operator right result _ _ answered
    obtain ⟨_, same⟩ := Option.ite_none_right_eq_some.mp answered
    rw [← Option.some.inj same]
    rfl
  have bare : engine.Bare := (Engine.standard_bare _ _).registerExecutor failing
  refine ⟨came, evaluate_blames.2 engine product .null {} bare ?_ rfl ?_ error came⟩
  · decide
  · simp [Scope.Bare]

end Engine

end PathQuery
