import PathQuery.Proofs.Congruence

/-!
Paths in a context that has sequences in the place of arrays. Main statement: `evaluate_of_lazier`.
-/

namespace PathQuery

open Evaluation Value

section Outcomes

variable {α β γ δ : Type}

/-- Whether two outcomes are the same failure, or values that are related. -/
inductive Agree (R : α → β → Prop) : Except EvalError α → Except EvalError β → Prop
  | ok {value : α} {other : β} : R value other → Agree R (.ok value) (.ok other)
  | error (error : EvalError) : Agree R (.error error) (.error error)

variable {R : α → β → Prop} {S : γ → δ → Prop}
  {outcome : Except EvalError α} {other : Except EvalError β}

theorem Agree.bind {next : α → Except EvalError γ} {following : β → Except EvalError δ}
    (agree : Agree R outcome other)
    (rest : ∀ value other, R value other → Agree S (next value) (following other)) :
    Agree S (outcome >>= next) (other >>= following) := by
  cases agree with
  | ok related => exact rest _ _ related
  | error error => exact .error error

theorem Agree.refl {R : α → α → Prop} (same : ∀ value, R value value)
    (outcome : Except EvalError α) : Agree R outcome outcome := by
  cases outcome with
  | ok value => exact .ok (same value)
  | error error => exact .error error

theorem agree_mapM {f : α → Except EvalError γ} {g : β → Except EvalError δ}
    (related : ∀ value other, R value other → Agree S (f value) (g other)) {values : List α}
    {others : List β} (each : List.Forall₂ R values others) :
    Agree (List.Forall₂ S) (values.mapM f) (others.mapM g) := by
  induction each with
  | nil => exact .ok .nil
  | cons first _ ih =>
    rw [List.mapM_cons, List.mapM_cons]
    exact (related _ _ first).bind fun _ _ head => ih.bind fun _ _ tail => .ok (.cons head tail)

theorem Agree.mapError (agree : Agree R outcome other) (f : EvalError → EvalError) :
    Agree R (outcome.mapError f) (other.mapError f) := by
  cases agree with
  | ok related => exact .ok related
  | error error => exact .error (f error)

theorem Agree.error_iff (agree : Agree R outcome other) (error : EvalError) :
    outcome = .error error ↔ other = .error error := by
  cases agree with
  | ok => constructor <;> intro failed <;> cases failed
  | error same => exact ⟨congrArg _ ∘ Except.error.inj, congrArg _ ∘ Except.error.inj⟩

end Outcomes

namespace Value

theorem resolved_of_elements {value : Value} {elements : List Value}
    (isList : value.elements? = some elements) : value.resolved = .ok value := by
  cases value <;> first | rfl | cases isList

theorem member_object (host : Host) (fields : List (String × Value)) (name : String) :
    (Value.object fields).member host name = ((Fields.get? name fields).getD .null).resolved := by
  rfl

theorem member_of_elements {value : Value} {elements : List Value}
    (isList : value.elements? = some elements) (host : Host) (name : String) :
    value.member host name =
      (match Accessor.position? name with
        | some position => (elements.getD position .null).resolved
        | none => .ok .null) >>= resolved := by
  cases value <;> cases isList <;>
  · cases position : Accessor.position? name <;>
    · unfold member
      simp only [isNull, Bool.false_eq_true, if_false]
      show Accessor.collection.get host _ name >>= resolved = _
      simp only [Accessor.collection, position, elements?]

namespace Lazier

variable {value other : Value}

theorem resolved (lazier : value.Lazier other) :
    Agree Lazier value.resolved other.resolved := by
  cases lazier with
  | plain => exact Agree.refl .refl _
  | object names held => exact .ok (.object names held)
  | list isList isOther kind elements =>
    rw [resolved_of_elements isList, resolved_of_elements isOther]
    exact .ok (.list isList isOther kind elements)

theorem getD {elements others : List Value} (each : List.Forall₂ Lazier elements others)
    (position : Nat) : (elements.getD position .null).Lazier (others.getD position .null) := by
  induction each generalizing position with
  | nil => exact .refl _
  | cons first _ ih =>
    cases position with
    | zero => exact first
    | succ position => exact ih position

theorem field {fields others : List (String × Value)}
    (names : fields.map Prod.fst = others.map Prod.fst)
    (held : List.Forall₂ Lazier (fields.map Prod.snd) (others.map Prod.snd)) (name : String) :
    ((Fields.get? name fields).getD .null).Lazier ((Fields.get? name others).getD .null) := by
  induction fields generalizing others with
  | nil =>
    obtain rfl : others = [] := by simpa using names.symm
    exact .refl _
  | cons field fields ih =>
    cases others with
    | nil => cases names
    | cons other others =>
      obtain ⟨key, value⟩ := field
      obtain ⟨keyOther, valueOther⟩ := other
      obtain ⟨rfl, behind⟩ : key = keyOther ∧ fields.map Prod.fst = others.map Prod.fst := by
        simpa using names
      cases held with
      | cons first held =>
        rw [Fields.get?, Fields.get?]
        by_cases same : key = name
        · rw [if_pos same, if_pos same]
          exact first
        · rw [if_neg same, if_neg same]
          exact ih behind held

theorem member (lazier : value.Lazier other) (host : Host) (name : String) :
    Agree Lazier (value.member host name) (other.member host name) := by
  cases lazier with
  | plain => exact Agree.refl .refl _
  | object names held =>
    rw [member_object, member_object]
    exact (field names held name).resolved
  | list isList isOther _ elements =>
    rw [member_of_elements isList, member_of_elements isOther]
    refine Agree.bind ?_ fun _ _ => resolved
    cases Accessor.position? name with
    | none => exact .ok (.refl _)
    | some position => exact (getD elements position).resolved

theorem read (lazier : value.Lazier other) (host : Host) (name : String) :
    Agree Lazier (value.read host name) (other.read host name) := by
  unfold Value.read
  split
  · exact .ok lazier
  · exact lazier.member host name

theorem elementsOf (lazier : value.Lazier other) :
    Agree (List.Forall₂ Lazier) (elementsOf value) (elementsOf other) := by
  unfold Evaluation.elementsOf
  cases lazier with
  | plain => exact Agree.refl (Congruent.refl_elements fun _ => .inl rfl) _
  | object => exact .ok .nil
  | list isList isOther _ elements =>
    rw [isList, isOther]
    exact agree_mapM (fun value other (lazier : Lazier value other) => lazier.resolved) elements

theorem elementAt {elements others : List Value} (each : List.Forall₂ Lazier elements others)
    (environment : Environment) (index : Expression) (position : Value) :
    Agree Lazier (elementAt environment index elements position)
      (Evaluation.elementAt environment index others position) := by
  unfold Evaluation.elementAt
  by_cases null : position.isNull = true
  · rw [if_pos null, if_pos null]
    exact .error _
  rw [if_neg null, if_neg null]
  cases environment.converter.convert position .long with
  | error => exact .error _
  | ok converted =>
    cases found : converted.int64? with
    | none =>
      simp only [found]
      exact .error _
    | some n =>
      simp only [found]
      by_cases negative : n < 0
      · rw [if_pos negative, if_pos negative]
        exact .ok (.refl _)
      · rw [if_neg negative, if_neg negative]
        exact (getD each _).resolved

theorem selected (lazier : value.Lazier other) (environment : Environment) (index : Value) :
    Agree Lazier (selected environment index value)
      (PathQuery.selected environment index other) := by
  have keyed : ∀ {next following : Value → Except EvalError Value},
      (∀ key, Agree Lazier (next key) (following key)) →
      Agree Lazier (index.resolved >>= next) (index.resolved >>= following) := by
    intro next following rest
    refine Agree.bind (Agree.refl (fun _ => rfl) index.resolved) ?_
    rintro key _ rfl
    exact rest key
  cases lazier with
  | plain => exact Agree.refl .refl _
  | object names held =>
    refine keyed fun key => ?_
    by_cases null : key.isNull = true
    · rw [if_pos null, if_pos null]
      exact .ok (.refl _)
    · rw [if_neg null, if_neg null]
      exact (field names held key.text).resolved
  | list isList isOther _ elements =>
    cases value <;> cases isList <;> cases other <;> cases isOther <;>
      exact keyed fun position => elementAt elements environment _ position

end Lazier

end Value

/-- Whether two frames are the same but for sequences in the place of some arrays. -/
def Frame.Lazier (frame other : Frame) : Prop :=
  frame.value.Lazier other.value ∧ frame.root = other.root

structure Scope.Lazier (scope other : Scope) : Prop where
  frames : List.Forall₂ Frame.Lazier scope.frames other.frames
  pendingRoot : scope.pendingRoot = other.pendingRoot

section Frames

variable {frames others : List Frame} {scope other : Scope}

theorem Scope.Lazier.enter {value valueOther : Value} (scopes : scope.Lazier other)
    (lazier : value.Lazier valueOther) : (scope.enter value).Lazier (other.enter valueOther) :=
  ⟨.cons ⟨lazier, scopes.pendingRoot⟩ scopes.frames, rfl⟩

theorem fromRoot_lazier (each : List.Forall₂ Frame.Lazier frames others) :
    List.Forall₂ Frame.Lazier (Scope.fromRoot frames) (Scope.fromRoot others) := by
  induction each with
  | nil => exact .nil
  | cons first rest ih =>
    cases rest with
    | nil => exact .cons first .nil
    | cons second rest =>
      have step : ∀ (frame next : Frame) (outer : List Frame),
          Scope.fromRoot (frame :: next :: outer) =
            if frame.root then frame :: next :: outer else Scope.fromRoot (next :: outer) :=
        fun _ _ _ => rfl
      rw [step, step, first.2]
      split
      · exact .cons first (.cons second rest)
      · exact ih

theorem sources_lazier (settings : Settings) (first : Bool) (name : String)
    (scopes : scope.Lazier other) (each : List.Forall₂ Frame.Lazier frames others) :
    List.Forall₂ Frame.Lazier (sources settings first name scope frames)
      (sources settings first name other others) := by
  have roots := fromRoot_lazier scopes.frames
  have started : List.Forall₂ Frame.Lazier
      (if name.startsWith "/" then Scope.fromRoot scope.frames else frames)
      (if name.startsWith "/" then Scope.fromRoot other.frames else others) := by
    split
    · exact roots
    · exact each
  unfold sources
  by_cases starts : first = true
  · rw [if_pos starts, if_pos starts]
    by_cases parents : settings.parentLookup = true
    · rw [if_pos parents, if_pos parents]
      exact started
    · rw [if_neg parents, if_neg parents]
      by_cases outermost : settings.rootLookup = true
      · rw [if_pos outermost, if_pos outermost]
        exact List.rel_append (List.forall₂_take 1 started) (List.forall₂_take 1 roots)
      · rw [if_neg outermost, if_neg outermost]
        exact List.forall₂_take 1 started
  · rw [if_neg starts, if_neg starts]
    exact List.forall₂_take 1 each

theorem sought_lazier (host : Host) (name : String)
    (each : List.Forall₂ Frame.Lazier frames others) :
    Agree Value.Lazier (sought host name frames) (sought host name others) := by
  induction each with
  | nil => exact .ok (.refl _)
  | cons first _ ih =>
    rw [sought, sought]
    refine (first.1.read host name).bind fun value other lazier => ?_
    rw [lazier.isNull_eq]
    split
    · exact ih
    · exact .ok lazier

end Frames

section Reached

variable {reached other : Except EvalError Reach}

/-- The number of elements that came to a sequence, if there was no failure. -/
def Reach.sequencesOf : Except EvalError Reach → Nat
  | .ok reach => reach.sequences
  | .error _ => 0

theorem Reach.alike_iff_sequences (agree : Agree Reach.Lazier reached other) :
    Agree Alike (reached.map whole) (other.map whole) ↔
      sequencesOf reached = sequencesOf other := by
  cases agree with
  | error error => exact iff_of_true (.error error) rfl
  | ok lazier =>
    rw [sequencesOf, sequencesOf, ← lazier.alike_iff]
    constructor
    · rintro ⟨alike⟩
      exact alike
    · exact .ok

theorem Reach.sequencesOf_le (agree : Agree Reach.Lazier reached other) :
    sequencesOf reached ≤ sequencesOf other := by
  cases agree with
  | error => exact Nat.le_refl _
  | ok lazier => exact lazier.sequences_le

theorem Reach.isList_whole (agree : Agree Reach.Lazier reached other) :
    Agree (fun value other => value.isList = other.isList) (reached.map whole)
      (other.map whole) := by
  cases agree with
  | error error => exact .error error
  | ok lazier => exact .ok lazier.isList_whole

end Reached

namespace Stage

theorem turned_lazier {environment : Environment} {first : Bool} {name : String} {last : Bool}
    {climb climbOther : List Frame → Except EvalError Reach}
    {descend descendOther : Value → Except EvalError Reach} {scope other : Scope}
    {frames others : List Frame}
    (climbs : ∀ frames others, List.Forall₂ Frame.Lazier frames others →
      Agree Reach.Lazier (climb frames) (climbOther others))
    (descends : ∀ value other, Value.Lazier value other →
      Agree Reach.Lazier (descend value) (descendOther other))
    (scopes : scope.Lazier other) (each : List.Forall₂ Frame.Lazier frames others) :
    Agree Reach.Lazier (turned environment first name last climb descend frames scope)
      (turned environment first name last climbOther descendOther others other) := by
  unfold turned
  by_cases up : (name == "..") = true
  · rw [if_pos up, if_pos up]
    cases last with
    | true => exact .error _
    | false =>
      cases each with
      | nil => exact .error _
      | cons _ behind =>
        cases behind with
        | nil => exact .error _
        | cons second behind => exact climbs _ _ (.cons second behind)
  · rw [if_neg up, if_neg up]
    exact (sought_lazier _ _ (sources_lazier _ _ _ scopes each)).bind descends

theorem passed_lazier {environment : Environment} {first : Bool} {name : String} {last : Bool}
    {stay : Scope → Except EvalError Reach} {climb : List Frame → Scope → Except EvalError Reach}
    {descend : Value → Scope → Except EvalError Reach}
    (stays : ∀ scope other, scope.Lazier other → Agree Reach.Lazier (stay scope) (stay other))
    (climbs : ∀ frames others scope other, List.Forall₂ Frame.Lazier frames others →
      scope.Lazier other → Agree Reach.Lazier (climb frames scope) (climb others other))
    (descends : ∀ value valueOther scope other, Value.Lazier value valueOther →
      scope.Lazier other → Agree Reach.Lazier (descend value scope) (descend valueOther other))
    {scope other : Scope} (scopes : scope.Lazier other) :
    Agree Reach.Lazier (passed environment first name last stay climb descend scope)
      (passed environment first name last stay climb descend other) := by
  unfold passed
  split
  · split
    · exact .error _
    · exact stays _ _ scopes
  · exact turned_lazier (fun _ _ frames => climbs _ _ _ _ frames scopes)
      (fun _ _ lazier => descends _ _ _ _ lazier scopes) scopes scopes.frames

/-- What stages reach from lazier values and in lazier frames is lazier. -/
structure Preserves (environment : Environment) (stages : List Stage) : Prop where
  walk : ∀ first scope other, scope.Lazier other →
    Agree Reach.Lazier (walk environment first stages scope) (walk environment first stages other)
  climb : ∀ frames others scope other, List.Forall₂ Frame.Lazier frames others →
    scope.Lazier other →
    Agree Reach.Lazier (climb environment stages frames scope)
      (climb environment stages others other)
  descend : ∀ value valueOther scope other, Value.Lazier value valueOther → scope.Lazier other →
    Agree Reach.Lazier (descend environment stages value scope)
      (descend environment stages valueOther other)

variable {environment : Environment} {stages : List Stage}

theorem Preserves.passed (preserves : Preserves environment stages) (first : Bool) (key : String)
    {scope other : Scope} (scopes : scope.Lazier other) :
    Agree Reach.Lazier
      (Stage.passed environment first key stages.isEmpty
        (fun scope => Stage.walk environment false stages scope)
        (fun frames scope => Stage.climb environment stages frames scope)
        (fun value scope => Stage.descend environment stages value scope) scope)
      (Stage.passed environment first key stages.isEmpty
        (fun scope => Stage.walk environment false stages scope)
        (fun frames scope => Stage.climb environment stages frames scope)
        (fun value scope => Stage.descend environment stages value scope) other) :=
  passed_lazier (preserves.walk false) preserves.climb preserves.descend scopes

theorem preserves_name (preserves : Preserves environment stages) (key : String) :
    Preserves environment (.name key :: stages) where
  walk first scope other scopes := by
    rw [Stage.walk, Stage.walk]
    exact preserves.passed first key scopes
  climb frames others scope other each scopes := by
    rw [Stage.climb, Stage.climb]
    exact turned_lazier (fun _ _ frames => preserves.climb _ _ _ _ frames scopes)
      (fun _ _ lazier => preserves.descend _ _ _ _ lazier scopes) scopes each
  descend value valueOther scope other lazier scopes := by
    rw [Stage.descend, Stage.descend, lazier.isNull_eq, lazier.isList_eq]
    by_cases null : valueOther.isNull = true
    · rw [if_pos null, if_pos null]
      exact .ok (.single (.refl _))
    rw [if_neg null, if_neg null]
    by_cases single : (!valueOther.isList) = true
    · rw [if_pos single, if_pos single]
      exact preserves.passed false key (scopes.enter lazier)
    rw [if_neg single, if_neg single]
    by_cases selects : selectsElement environment.settings false (bareName key) = true
    · rw [if_pos selects, if_pos selects]
      exact (lazier.member _ _).bind fun _ _ lazier => preserves.descend _ _ _ _ lazier scopes
    rw [if_neg selects, if_neg selects]
    refine lazier.elementsOf.bind fun elements others each => ?_
    have entered : List.Forall₂ Value.Lazier (elements.filter (!·.isNull))
        (others.filter (!·.isNull)) :=
      List.rel_filter (fun _ _ (lazier : Value.Lazier _ _) => by simp [lazier.isNull_eq]) each
    refine (agree_mapM (fun _ _ lazier => ?_) entered).bind fun _ _ each => .ok (.each each)
    exact preserves.passed false key (scopes.enter lazier)

theorem preserves_position (preserves : Preserves environment stages) (index : Value)
    (positional : isPositional (.literal index) = true) :
    Preserves environment (.position index positional :: stages) where
  walk first scope other scopes := by
    rw [Stage.walk, Stage.walk]
    -- only whether there is a frame counts, a literal is the same in each
    have each := scopes.frames
    generalize scope.frames = frames, other.frames = others at each
    cases each with
    | nil => exact .error _
    | cons =>
      exact (Agree.refl .refl index.resolved).bind fun _ _ lazier =>
        preserves.descend _ _ _ _ lazier scopes
  climb frames others scope other each scopes := by
    rw [Stage.climb, Stage.climb]
    exact .error _
  descend value valueOther scope other lazier scopes := by
    rw [Stage.descend, Stage.descend, lazier.isNull_eq]
    split
    · exact .ok (.single (.refl _))
    · exact (lazier.selected _ _).bind fun _ _ lazier => preserves.descend _ _ _ _ lazier scopes

theorem preserves_stages (stages : List Stage) : Preserves environment stages := by
  induction stages with
  | nil =>
    constructor
    · intro first scope other scopes
      exact .ok (.single (.refl _))
    · intro frames others scope other each scopes
      exact .ok (.single (.refl _))
    · intro value valueOther scope other lazier scopes
      exact .ok (.single lazier)
  | cons stage stages ih =>
    cases stage with
    | name key => exact preserves_name ih key
    | position index positional => exact preserves_position ih index positional

theorem reached_lazier (environment : Environment) (stages : List Stage) {context other : Value}
    (lazier : context.Lazier other) :
    Agree Reach.Lazier (reached environment stages context) (reached environment stages other) :=
  ((preserves_stages stages).walk true _ _ (Scope.Lazier.enter ⟨.nil, rfl⟩ lazier)).mapError _

/-- The number of elements that a path goes on from with a name and that come to a sequence. -/
def sequences (environment : Environment) (stages : List Stage) (context : Value) : Nat :=
  Reach.sequencesOf (reached environment stages context)

end Stage

/-- A path fails in the same way where arrays are replaced by sequences of their elements, and comes
to a value that is alike exactly if no more of the elements that it goes to come to a sequence. -/
theorem evaluate_of_lazier (settings : Settings) (now : Time.Instant) (stages : List Stage)
    {context other : Value} (lazier : context.Lazier other) :
    let outcome := fun context =>
      ((Engine.standard settings now).evaluate (Stage.path stages) context).1
    (∀ context, outcome context =
      (Stage.reached { settings } stages context).map Reach.whole) ∧
    (∀ error, outcome context = .error error ↔ outcome other = .error error) ∧
    (Agree Alike (outcome context) (outcome other) ↔
      Stage.sequences { settings } stages context = Stage.sequences { settings } stages other) ∧
    (Stage.sequences { settings } stages other = 0 →
      Agree Alike (outcome context) (outcome other)) := by
  intro outcome
  have come := evaluate_path settings now stages
  have agree := Stage.reached_lazier { settings } stages lazier
  have alike := Reach.alike_iff_sequences agree
  have fewer := Reach.sequencesOf_le agree
  refine ⟨come, ?_⟩
  simp only [outcome, come]
  refine ⟨(Reach.isList_whole agree).error_iff, alike, ?_⟩
  intro none
  rw [Stage.sequences] at none
  exact alike.mpr (by omega)

/-- A table whose rows and cells are lists of the given kind. -/
def table (list : List Value → Value) : Value :=
  .object [("rows", list [.object [("cells", list [.integer 1, .integer 2])]])]

theorem table_lazier : (table .array).Lazier (table (.sequence 0)) := by
  have cells : (Value.object [("cells", .array [.integer 1, .integer 2])]).Lazier
      (.object [("cells", .sequence 0 [.integer 1, .integer 2])]) :=
    .object rfl (.cons (.list rfl rfl (.inr ⟨rfl, rfl⟩)
      (Congruent.refl_elements (fun _ => .inl rfl) _)) .nil)
  exact .object rfl (.cons (.list rfl rfl (.inr ⟨rfl, rfl⟩) (.cons cells .nil)) .nil)

theorem evaluate_of_lazier_first_cells :
    let stages : List Stage := [.name "rows", .name "cells", .position (.integer 0) rfl]
    let outcome := fun context =>
      ((Engine.standard {} ⟨0, 0, by decide, by decide⟩).evaluate (Stage.path stages) context).1
    (table .array).Lazier (table (.sequence 0)) ∧
      Agree Alike (outcome (table .array)) (outcome (table (.sequence 0))) := by
  intro stages outcome
  obtain ⟨-, -, -, alike⟩ := evaluate_of_lazier {} ⟨0, 0, by decide, by decide⟩ stages table_lazier
  exact ⟨table_lazier, alike (by decide +kernel)⟩

/-- The cells of all rows are joined if they are arrays, but not if they are sequences. -/
theorem not_alike_of_cells :
    let outcome := fun context =>
      ((Engine.standard {} ⟨0, 0, by decide, by decide⟩).evaluate
        (Stage.path [.name "rows", .name "cells"]) context).1
    (table .array).Lazier (table (.sequence 0)) ∧
      (outcome (table .array)).toOption.map Value.text = some "[1, 2]" ∧
      (outcome (table (.sequence 0))).toOption.map Value.text = some "[[1, 2]]" ∧
      ¬Agree Alike (outcome (table .array)) (outcome (table (.sequence 0))) := by
  intro outcome
  refine ⟨table_lazier, by decide +kernel, by decide +kernel, ?_⟩
  simp only [outcome, evaluate_path]
  rw [Reach.alike_iff_sequences (Stage.reached_lazier _ _ table_lazier)]
  decide +kernel

end PathQuery
