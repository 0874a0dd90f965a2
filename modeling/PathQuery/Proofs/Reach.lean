import PathQuery.Engine
import PathQuery.Proofs.Members

/-!
What paths of names and positions reach with the standard accessors, and what their values are put
together from where a name goes to the elements of a list. Main statement: `evaluate_path`.
-/

namespace PathQuery

open Evaluation

/-- A segment of a path without expressions: a name, `$N` among them, or a literal in brackets that
selects by its position or key. -/
inductive Stage where
  | name (name : String)
  | position (index : Value) (positional : isPositional (.literal index) = true)

def Stage.segment : Stage → Segment
  | .name key => .name key
  | .position index _ => .expression (.literal index)

def Stage.path (stages : List Stage) : Expression :=
  .path (stages.map Stage.segment)

/-- What a path reaches: one value, or what it reaches from each element of a list. -/
inductive Reach where
  | single (value : Value)
  | each (reaches : List Reach)

namespace Reach

mutual

/-- The value that is put together from what was reached. -/
def whole : Reach → Value
  | .single value => value
  | .each reaches => .array (spliced (wholes reaches))

def wholes : List Reach → List Value
  | [] => []
  | reach :: reaches => reach.whole :: wholes reaches

end

end Reach

section Reading

def Value.read (host : Host) (context : Value) (name : String) : Except EvalError Value :=
  if name == "$this" then return context else context.member host name

/-- The value of a name in the first frame in which it is not null. -/
def sought (host : Host) (name : String) : List Frame → Except EvalError Value
  | [] => return .null
  | frame :: frames => do
      let value ← frame.value.read host name
      if value.isNull then sought host name frames else return value

/-- What a literal in brackets selects from a value that is not null. -/
def selected (environment : Environment) (index value : Value) : Except EvalError Value :=
  match value, value.elements? with
  | .object fields, _ => do
      let key ← index.resolved
      if key.isNull then return .null
      ((Fields.get? key.text fields).getD .null).resolved
  | _, none => do
      let key ← index.resolved
      if key.isNull then throw (.unresolvedKey (Expression.literal index).text)
      value.member environment.host key.text
  | _, some elements => do
      let position ← index.resolved
      elementAt environment (.literal index) elements position

end Reading

namespace Stage

/-- Goes on after a name that is not `.`, from frames that begin with the present one. -/
def turned (environment : Environment) (first : Bool) (name : String) (last : Bool)
    (climb : List Frame → Except EvalError Reach) (descend : Value → Except EvalError Reach)
    (frames : List Frame) (scope : Scope) : Except EvalError Reach :=
  if name == ".." then
    if last then throw (.danglingSegment "..")
    else
      match frames.tail with
      | [] => throw .invalidContext
      | parents => climb parents
  else do
    let value ←
      sought environment.host (bareName name) (sources environment.settings first name scope frames)
    descend value

/-- Goes on after a name from the innermost context. -/
def passed (environment : Environment) (first : Bool) (name : String) (last : Bool)
    (stay : Scope → Except EvalError Reach) (climb : List Frame → Scope → Except EvalError Reach)
    (descend : Value → Scope → Except EvalError Reach) (scope : Scope) : Except EvalError Reach :=
  if name == "." then
    if last then throw (.danglingSegment ".") else stay scope
  else turned environment first name last (climb · scope) (descend · scope) scope.frames scope

mutual

/-- What stages reach from the innermost context. -/
def walk (environment : Environment) (first : Bool) :
    List Stage → Scope → Except EvalError Reach
  | [], _ => return .single .null
  | .position index _ :: stages, scope =>
      match scope.frames with
      | [] => throw .invalidContext
      | _ :: _ => do descend environment stages (← index.resolved) scope
  | .name key :: stages, scope =>
      passed environment first key stages.isEmpty (fun scope => walk environment false stages scope)
        (fun frames scope => climb environment stages frames scope)
        (fun value scope => descend environment stages value scope) scope
termination_by structural stages => stages

/-- What stages reach from the frames to which `..` has led. -/
def climb (environment : Environment) :
    List Stage → List Frame → Scope → Except EvalError Reach
  | [], _, _ => return .single .null
  | .position .. :: _, _, _ => throw (.danglingSegment "..")
  | .name key :: stages, frames, scope =>
      turned environment false key stages.isEmpty
        (fun frames => climb environment stages frames scope)
        (fun value => descend environment stages value scope) frames scope
termination_by structural stages => stages

/-- What stages reach from a value. -/
def descend (environment : Environment) :
    List Stage → Value → Scope → Except EvalError Reach
  | [], value, _ => return .single value
  | .position index _ :: stages, value, scope =>
      if value.isNull then return .single .null
      else do descend environment stages (← selected environment index value) scope
  | .name key :: stages, value, scope =>
      let enter := fun value =>
        passed environment false key stages.isEmpty
          (fun scope => walk environment false stages scope)
          (fun frames scope => climb environment stages frames scope)
          (fun value scope => descend environment stages value scope) (scope.enter value)
      if value.isNull then return .single .null
      else if !value.isList then enter value
      else if selectsElement environment.settings false (bareName key) then do
        descend environment stages (← value.member environment.host (bareName key)) scope
      else do
        let elements ← elementsOf value
        return .each (← (elements.filter (!·.isNull)).mapM enter)
termination_by structural stages => stages

end

/-- What a path reaches from a context inside of others; its failures name the path. -/
def reached (environment : Environment) (stages : List Stage) (context : Value)
    (scope : Scope := {}) : Except EvalError Reach :=
  (walk environment true stages (scope.enter context)).mapError fun error =>
    error.within (path stages).text

end Stage

namespace Evaluation

/-- Whether a computation always comes to the value of what is reached. -/
def Reaches (computation : Evaluation Value) (reached : Except EvalError Reach) : Prop :=
  Settles computation (reached.map Reach.whole)

variable {α : Type} {environment : Environment}

theorem reaches_single (value : Value) : Reaches (pure value) (.ok (.single value)) :=
  settles_pure value

theorem reaches_throw (error : EvalError) : Reaches (throw error) (.error error) :=
  settles_throw error

theorem reaches_bind {computation : Evaluation α} {next : α → Evaluation Value}
    {result : Except EvalError α} {following : α → Except EvalError Reach}
    (first : Settles computation result)
    (rest : ∀ value, result = .ok value → Reaches (next value) (following value)) :
    Reaches (computation >>= next) (result >>= following) := by
  have settles := first.bind rest
  cases result <;> exact settles

theorem reaches_stop {next : α → Evaluation Value} (error : EvalError) :
    Reaches (throw error >>= next) (.error error) := by
  intro registries standard
  refine ⟨registries, ?_, standard⟩
  rw [outcome_bind, outcome_throw]
  rfl

theorem settles_read (name : String) (context : Value) :
    Settles (read environment name context) (context.read environment.host name) := by
  unfold read Value.read
  split
  · exact settles_pure context
  · exact settles_member environment context name

theorem reaches_seek {next : Value → Value → Evaluation Value}
    {following : Value → Except EvalError Reach} (name : String) (frames : List Frame)
    (rest : ∀ value context, Reaches (next value context) (following value)) :
    Reaches (seek environment name frames >>= fun found => next found.1 found.2)
      (sought environment.host name frames >>= following) := by
  induction frames with
  | nil => exact rest .null .null
  | cons frame frames ih =>
    rw [seek, sought, bind_assoc, bind_assoc]
    refine reaches_bind (settles_read name frame.value) fun value _ => ?_
    by_cases null : value.isNull = true
    · rw [if_pos null, if_pos null]
      exact ih
    · rw [if_neg null, if_neg null]
      exact rest value frame.value

theorem reaches_climbed {first : Bool} {name : String} {last : Bool} {next : Continuation}
    {climb : List Frame → Except EvalError Reach} {descend : Value → Except EvalError Reach}
    {scope : Scope} (climbs : ∀ frames, Reaches (next.climb frames scope) (climb frames))
    (descends : ∀ value context, Reaches (next.descend value context scope) (descend value))
    (frames : List Frame) :
    Reaches (climbed environment first name last next frames scope)
      (Stage.turned environment first name last climb descend frames scope) := by
  unfold climbed Stage.turned
  by_cases up : (name == "..") = true
  · rw [if_pos up, if_pos up]
    cases last with
    | true => exact reaches_throw _
    | false =>
      cases frames.tail with
      | nil => exact reaches_throw _
      | cons parent parents => exact climbs (parent :: parents)
  · rw [if_neg up, if_neg up]
    exact reaches_seek _ _ descends

theorem reaches_named {first : Bool} {name : String} {last : Bool} {next : Continuation}
    {stay : Scope → Except EvalError Reach} {climb : List Frame → Scope → Except EvalError Reach}
    {descend : Value → Scope → Except EvalError Reach} {scope : Scope}
    (stays : Reaches (next.stay scope) (stay scope))
    (climbs : ∀ frames, Reaches (next.climb frames scope) (climb frames scope))
    (descends : ∀ value context, Reaches (next.descend value context scope) (descend value scope)) :
    Reaches (named environment first name last next scope)
      (Stage.passed environment first name last stay climb descend scope) := by
  unfold named Stage.passed
  by_cases here : (name == ".") = true
  · rw [if_pos here, if_pos here]
    cases last with
    | true => exact reaches_throw _
    | false => exact stays
  · rw [if_neg here, if_neg here]
    exact reaches_climbed climbs descends scope.frames

theorem settles_mapM {enter : Value → Evaluation Value} {reach : Value → Except EvalError Reach}
    (reaches : ∀ value, Reaches (enter value) (reach value)) (values : List Value) :
    Settles (values.mapM enter) ((values.mapM reach).map Reach.wholes) := by
  induction values with
  | nil => exact settles_pure []
  | cons value values ih =>
    rw [List.mapM_cons, List.mapM_cons]
    have settles := Settles.bind (reaches value) fun whole _ => ih.bind fun wholes _ =>
      settles_pure (whole :: wholes)
    cases first : reach value with
    | error error =>
      rw [first] at settles
      exact settles
    | ok reached =>
      rw [first] at settles
      cases others : values.mapM reach <;>
      · rw [others] at settles
        exact settles

theorem reaches_each {computation : Evaluation (List Value)}
    {result : Except EvalError (List Reach)}
    (settles : Settles computation (result.map Reach.wholes)) :
    Reaches (computation >>= fun values => pure (.array (spliced values)))
      (result >>= fun reaches => pure (.each reaches)) := by
  have puts := settles.bind fun values _ => settles_pure (Value.array (spliced values))
  cases result <;> exact puts

theorem settles_literal (index context : Value) (scope : Scope) :
    Settles (do
      let value ← (Expression.literal index).evaluate environment context scope
      value.resolved) index.resolved := by
  unfold Expression.evaluate
  exact settles_lift index.resolved

theorem reaches_indexed {index : Value} (positional : isPositional (.literal index) = true)
    {evaluate : Value → Evaluation Value}
    (literal : ∀ context, Settles (evaluate context) index.resolved)
    {next : Value × Bool → Evaluation Value} {following : Value → Except EvalError Reach}
    (rest : ∀ value, Reaches (next (value, false)) (following value)) (value context : Value) :
    Reaches (indexed environment (.literal index) evaluate value context false >>= next)
      (selected environment index value >>= following) := by
  unfold indexed selected
  -- only a filter would be evaluated in the elements
  cases value with
  | object fields =>
    simp only [bind_assoc]
    refine reaches_bind (literal context) fun key _ => ?_
    by_cases null : key.isNull = true
    · simpa [null] using rest .null
    · simpa [null] using reaches_bind (settles_lift _) fun held _ => rest held
  | array elements =>
    simp only [Value.elements?, positional, if_true, bind_assoc]
    refine reaches_bind (literal context) fun position _ => ?_
    exact reaches_bind (settles_lift _) fun element _ => rest element
  | sequence handle elements =>
    simp only [Value.elements?, positional, if_true, bind_assoc]
    refine reaches_bind (literal context) fun position _ => ?_
    exact reaches_bind (settles_lift _) fun element _ => rest element
  | _ =>
    simp only [Value.elements?, bind_assoc]
    refine reaches_bind (literal context) fun key _ => ?_
    by_cases null : key.isNull = true
    · simp only [null, if_true]
      exact reaches_stop _
    · simpa [null] using
        reaches_bind (settles_member environment _ key.text) fun held _ => rest held

/-- How segments go on after a name. -/
def onward (environment : Environment) (segments : List Segment) : Continuation where
  stay scope := Segment.walk environment false segments scope
  climb frames scope := Segment.climb environment segments frames scope
  descend value context scope := Segment.descend environment segments value context false scope

/-- What segments come to is what stages reach. -/
structure Follows (environment : Environment) (stages : List Stage) : Prop where
  walk : ∀ first scope,
    Reaches (Segment.walk environment first (stages.map Stage.segment) scope)
      (Stage.walk environment first stages scope)
  climb : ∀ frames scope,
    Reaches (Segment.climb environment (stages.map Stage.segment) frames scope)
      (Stage.climb environment stages frames scope)
  descend : ∀ value context scope,
    Reaches (Segment.descend environment (stages.map Stage.segment) value context false scope)
      (Stage.descend environment stages value scope)

variable {stages : List Stage}

theorem Follows.named (follows : Follows environment stages) (first : Bool) (key : String)
    (scope : Scope) :
    Reaches
      (named environment first key (stages.map Stage.segment).isEmpty
        (onward environment (stages.map Stage.segment)) scope)
      (Stage.passed environment first key stages.isEmpty
        (fun scope => Stage.walk environment false stages scope)
        (fun frames scope => Stage.climb environment stages frames scope)
        (fun value scope => Stage.descend environment stages value scope) scope) := by
  rw [List.isEmpty_map]
  exact reaches_named (follows.walk false scope) (fun frames => follows.climb frames scope)
    fun value context => follows.descend value context scope

theorem follows_name (follows : Follows environment stages) (key : String) :
    Follows environment (.name key :: stages) where
  walk first scope := by
    rw [List.map_cons, Stage.segment, Segment.walk, Stage.walk]
    exact follows.named first key scope
  climb frames scope := by
    rw [List.map_cons, Stage.segment, Segment.climb, Stage.climb, List.isEmpty_map]
    exact reaches_climbed (fun frames => follows.climb frames scope)
      (fun value context => follows.descend value context scope) frames
  descend value context scope := by
    rw [List.map_cons, Stage.segment, Segment.descend, Stage.descend]
    have enters := fun value => follows.named false key (scope.enter value)
    by_cases null : value.isNull = true
    · rw [if_pos null, if_pos null]
      exact reaches_single .null
    rw [if_neg null, if_neg null]
    by_cases single : (!value.isList) = true
    · rw [if_pos single, if_pos single]
      exact enters value
    rw [if_neg single, if_neg single]
    by_cases selects : selectsElement environment.settings false (bareName key) = true
    · rw [if_pos selects, if_pos selects]
      exact reaches_bind (settles_member environment value (bareName key))
        fun element _ => follows.descend element context scope
    rw [if_neg selects, if_neg selects]
    refine reaches_bind (settles_lift (elementsOf value)) fun elements _ => ?_
    exact reaches_each (settles_mapM enters _)

theorem follows_position (follows : Follows environment stages) (index : Value)
    (positional : isPositional (.literal index) = true) :
    Follows environment (.position index positional :: stages) where
  walk first scope := by
    rw [List.map_cons, Stage.segment, Segment.walk, Stage.walk]
    cases scope.frames with
    | nil => exact reaches_throw _
    | cons frame frames =>
      dsimp only
      rw [← bind_assoc]
      exact reaches_bind (settles_literal index frame.value scope)
        fun value _ => follows.descend value frame.value scope
  climb frames scope := by
    rw [List.map_cons, Stage.segment, Segment.climb, Stage.climb]
    exact reaches_throw _
  descend value context scope := by
    rw [List.map_cons, Stage.segment, Segment.descend, Stage.descend]
    by_cases null : value.isNull = true
    · rw [if_pos null, if_pos null, atNull, if_pos positional]
      exact reaches_single .null
    · rw [if_neg null, if_neg null]
      exact reaches_indexed positional (fun context => settles_literal index context scope)
        (fun value => follows.descend value context scope) value context

theorem follows_stages (stages : List Stage) : Follows environment stages := by
  induction stages with
  | nil =>
    constructor
    · intro first scope
      exact reaches_single .null
    · intro frames scope
      exact reaches_single .null
    · intro value context scope
      exact reaches_single value
  | cons stage stages ih =>
    cases stage with
    | name key => exact follows_name ih key
    | position index positional => exact follows_position ih index positional

theorem reaches_path (environment : Environment) (stages : List Stage) (context : Value)
    (scope : Scope) :
    Reaches ((Stage.path stages).evaluate environment context scope)
      (Stage.reached environment stages context scope) := by
  have follows : Follows environment stages := follows_stages stages
  have settles := (follows.walk true (scope.enter context)).within fun _ =>
    (Stage.path stages).text
  unfold Reaches Stage.reached
  rw [Stage.path, Expression.evaluate]
  cases came : Stage.walk environment true stages (scope.enter context) <;>
  · rw [came] at settles
    exact settles

end Evaluation

/-- An engine with the standard accessors evaluates a path to what it reaches. -/
theorem evaluate_path (settings : Settings) (now : Time.Instant) (stages : List Stage)
    (context : Value) :
    ((Engine.standard settings now).evaluate (Stage.path stages) context).1 =
      (Stage.reached { settings } stages context).map Reach.whole := by
  obtain ⟨after, came, -⟩ := reaches_path { settings } stages context {}
    (Engine.standard settings now).registries AccessorRegistry.standard_standard
  exact congrArg Prod.fst came

end PathQuery
