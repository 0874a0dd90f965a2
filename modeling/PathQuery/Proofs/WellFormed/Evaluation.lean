import PathQuery.Evaluation
import PathQuery.Proofs.Acceptance
import PathQuery.Proofs.WellFormed.Analysis
import PathQuery.Proofs.WellFormed.Names

/-!
The evaluation of well-formed expressions. Evaluation has two arms for what no text should lead to:
an operand that is the text of a token, and a path without segments. `evaluateWith` leaves open what
these arms come to. Main statement: `evaluate_of_parse`, expressions that come from a text are well
formed, and their evaluation takes neither arm.
-/

namespace PathQuery

open Evaluation

/-- What evaluation comes to where an expression is not well formed. -/
structure Lapses where
  /-- At an operand that is the text of a token. -/
  token : TokenKind → String → Evaluation Value
  /-- At a path that has no segments. -/
  segments : Evaluation Value

namespace Lapses

def standard : Lapses where
  token kind text := throw (.unsupported s!"unresolved {kind.name} token '{text}'")
  segments := return .null

end Lapses

mutual

def Expression.evaluateWith (lapses : Lapses) (environment : Environment) :
    Expression → Value → Scope → Evaluation Value
  | .literal value, _, _ => return value
  | .path segments, context, scope =>
      within (fun _ => (Expression.path segments).text)
        (Segment.walkWith lapses environment true segments (scope.enter context))
  | .call target arguments, context, scope =>
      within (fun _ => (Expression.call target arguments).text) do
        let values ← Expression.evaluateAllWith lapses environment arguments context scope
        let method ← target.methodWith lapses environment values.length context scope
        method.call environment.converter values
  | .operation left operator right, context, scope =>
      within (fun _ => (Expression.operation left operator right).text) do
        let kind := operator.kind
        let left ← Part.operandWith lapses environment kind.takesLeft left context scope
        match decided? environment.converter kind left with
        | some value => return value
        | none =>
            let right ← Part.operandWith lapses environment kind.takesRight right context scope
            operated environment kind left right
termination_by structural expression => expression

def Expression.evaluateAllWith (lapses : Lapses) (environment : Environment) :
    List Expression → Value → Scope → Evaluation (List Value)
  | [], _, _ => return []
  | expression :: expressions, context, scope => do
      let value ← expression.evaluateWith lapses environment context scope
      return value ::
        (← Expression.evaluateAllWith lapses environment expressions context scope)
termination_by structural expressions => expressions

def Target.methodWith (lapses : Lapses) (environment : Environment) :
    Target → Nat → Value → Scope → Evaluation Method
  | .name name, arity, _, _ => Evaluation.method environment name arity
  | .expression expression, arity, context, scope => do
      let value ← expression.evaluateWith lapses environment context scope
      methodOf environment arity (← value.resolved)
termination_by structural target => target

def Part.operandWith (lapses : Lapses) (environment : Environment) (taken : Bool) :
    Option Part → Value → Scope → Evaluation Value
  | some part, context, scope =>
      if taken then part.evaluateWith lapses environment context scope else return .null
  | none, _, _ => return .null
termination_by structural part => part

def Part.evaluateWith (lapses : Lapses) (environment : Environment) :
    Part → Value → Scope → Evaluation Value
  | .literal _ value, _, _ => return value
  | .expression _ expression, context, scope => do
      let value ← expression.evaluateWith lapses environment context scope
      value.resolved
  | .empty _, _, _ => return .null
  | .text kind text, _, _ => lapses.token kind text
termination_by structural part => part

def Segment.walkWith (lapses : Lapses) (environment : Environment) (first : Bool) :
    List Segment → Scope → Evaluation Value
  | [], _ => lapses.segments
  | .expression receiver :: segments, scope =>
      match scope.frames with
      | [] => throw .invalidContext
      | frame :: _ => do
          let value ← receiver.evaluateWith lapses environment frame.value scope
          Segment.descendWith lapses environment segments (← value.resolved) frame.value false
            scope
  | .name name :: segments, scope =>
      named environment first name segments.isEmpty
        { stay := fun scope => Segment.walkWith lapses environment false segments scope
          climb := fun frames scope => Segment.climbWith lapses environment segments frames scope
          descend := fun value context scope =>
            Segment.descendWith lapses environment segments value context false scope }
        scope
termination_by structural segments => segments

def Segment.climbWith (lapses : Lapses) (environment : Environment) :
    List Segment → List Frame → Scope → Evaluation Value
  | [], _, _ => lapses.segments
  | .expression _ :: _, _, _ => throw (.danglingSegment "..")
  | .name name :: segments, frames, scope =>
      climbed environment false name segments.isEmpty
        { stay := fun scope => Segment.walkWith lapses environment false segments scope
          climb := fun frames scope => Segment.climbWith lapses environment segments frames scope
          descend := fun value context scope =>
            Segment.descendWith lapses environment segments value context false scope }
        frames scope
termination_by structural segments => segments

def Segment.descendWith (lapses : Lapses) (environment : Environment) :
    List Segment → Value → Value → Bool → Scope → Evaluation Value
  | [], value, _, _, _ => return value
  | .expression index :: segments, value, context, concatenated, scope =>
      if value.isNull then return atNull (.expression index :: segments)
      else do
        let evaluate := fun context => do
          let value ← index.evaluateWith lapses environment context scope
          value.resolved
        let (value, concatenated) ←
          indexed environment index evaluate value context concatenated
        Segment.descendWith lapses environment segments value context concatenated scope
  | .name name :: segments, value, context, concatenated, scope =>
      let enter := fun value =>
        named environment false name segments.isEmpty
          { stay := fun scope => Segment.walkWith lapses environment false segments scope
            climb := fun frames scope => Segment.climbWith lapses environment segments frames scope
            descend := fun value context scope =>
              Segment.descendWith lapses environment segments value context false scope }
          (scope.enter value)
      if value.isNull then return .null
      else if !value.isList then enter value
      else if selectsElement environment.settings concatenated (bareName name) then do
        let element ← member environment value (bareName name)
        Segment.descendWith lapses environment segments element context false scope
      else do
        let elements ← elementsOf value
        let results ← (elements.filter (!·.isNull)).mapM enter
        return .array (spliced results)
termination_by structural segments => segments

end

namespace Evaluation

theorem climbed_congr {environment : Environment} {first last : Bool} {name : String}
    {next other : Continuation} {frames : List Frame} {scope : Scope}
    (climb : last = false → next.climb = other.climb) (descend : next.descend = other.descend) :
    climbed environment first name last next frames scope =
      climbed environment first name last other frames scope := by
  unfold climbed
  rw [descend]
  cases last with
  | true => rfl
  | false => rw [climb rfl]

theorem named_congr {environment : Environment} {first last : Bool} {name : String}
    {next other : Continuation} {scope : Scope} (stay : last = false → next.stay = other.stay)
    (climb : last = false → next.climb = other.climb) (descend : next.descend = other.descend) :
    named environment first name last next scope =
      named environment first name last other scope := by
  unfold named
  rw [climbed_congr climb descend]
  cases last with
  | true => rfl
  | false => rw [stay rfl]

end Evaluation

/-- What makes the evaluation of something stay the same: that it is well formed, or that the lapses
are those of evaluation itself. -/
def Lapses.Spared (lapses : Lapses) (formed : Bool) : Prop :=
  lapses = .standard ∨ formed = true

namespace Lapses.Spared

variable {lapses : Lapses} {formed other : Bool}

theorem mono (spared : lapses.Spared formed) (implies : formed = true → other = true) :
    lapses.Spared other :=
  spared.imp_right implies

theorem left (spared : lapses.Spared (formed && other)) : lapses.Spared formed :=
  spared.mono fun both => (Bool.and_eq_true_iff.mp both).1

theorem right (spared : lapses.Spared (formed && other)) : lapses.Spared other :=
  spared.mono fun both => (Bool.and_eq_true_iff.mp both).2

theorem eq_standard (spared : lapses.Spared false) : lapses = .standard := by
  rcases spared with same | impossible
  · exact same
  · cases impossible

end Lapses.Spared

section Agreement

variable {lapses : Lapses} {environment : Environment}

mutual

theorem Expression.evaluateWith_eq : ∀ expression : Expression,
    lapses.Spared expression.wellFormed →
      expression.evaluateWith lapses environment = expression.evaluate environment
  | .literal value, _ => by
    funext context scope
    rw [Expression.evaluateWith, Expression.evaluate]
  | .path segments, spared => by
    funext context scope
    have nonempty : lapses.Spared (!segments.isEmpty && Segment.allWellFormed segments) := by
      refine spared.mono fun formed => ?_
      obtain ⟨begins, formed⟩ := Bool.and_eq_true_iff.mp formed
      cases segments with
      | nil => cases begins
      | cons => simpa using formed
    rw [Expression.evaluateWith, Expression.evaluate, Segment.walkWith_eq segments true nonempty]
  | .call target arguments, spared => by
    funext context scope
    rw [Expression.evaluateWith, Expression.evaluate, Target.methodWith_eq target spared.left,
      Expression.evaluateAllWith_eq arguments spared.right]
  | .operation left operator right, spared => by
    funext context scope
    have lefts := Part.operandWith_eq operator.kind.takesLeft left spared.left.right
    have rights := Part.operandWith_eq operator.kind.takesRight right spared.right
    rw [Expression.evaluateWith, Expression.evaluate]
    simp only [lefts, rights] <;> rfl
termination_by structural expression => expression

theorem Expression.evaluateAllWith_eq : ∀ expressions : List Expression,
    lapses.Spared (Expression.allWellFormed expressions) →
      Expression.evaluateAllWith lapses environment expressions =
        Expression.evaluateAll environment expressions
  | [], _ => by
    funext context scope
    rw [Expression.evaluateAllWith, Expression.evaluateAll]
  | expression :: expressions, spared => by
    funext context scope
    rw [Expression.evaluateAllWith, Expression.evaluateAll,
      Expression.evaluateWith_eq expression spared.left,
      Expression.evaluateAllWith_eq expressions spared.right]
termination_by structural expressions => expressions

theorem Target.methodWith_eq : ∀ target : Target, lapses.Spared target.wellFormed →
    target.methodWith lapses environment = target.method environment
  | .name name, _ => by
    funext arity context scope
    rw [Target.methodWith, Target.method]
  | .expression expression, spared => by
    funext arity context scope
    rw [Target.methodWith, Target.method, Expression.evaluateWith_eq expression spared.right]
termination_by structural target => target

theorem Part.operandWith_eq (taken : Bool) : ∀ operand : Option Part,
    lapses.Spared (Part.operandWellFormed taken operand) →
      Part.operandWith lapses environment taken operand = Part.operand environment taken operand
  | none, _ => by
    funext context scope
    rw [Part.operandWith, Part.operand]
  | some part, spared => by
    funext context scope
    rw [Part.operandWith, Part.operand, Part.evaluateWith_eq part spared.right]
termination_by structural operand => operand

theorem Part.evaluateWith_eq : ∀ part : Part, lapses.Spared part.wellFormed →
    part.evaluateWith lapses environment = part.evaluate environment
  | .literal kind value, _ => by
    funext context scope
    rw [Part.evaluateWith, Part.evaluate]
  | .expression kind expression, spared => by
    funext context scope
    rw [Part.evaluateWith, Part.evaluate, Expression.evaluateWith_eq expression spared]
  | .empty kind, _ => by
    funext context scope
    rw [Part.evaluateWith, Part.evaluate]
  | .text kind text, spared => by
    funext context scope
    rw [Part.evaluateWith, Part.evaluate, spared.eq_standard, Lapses.standard]
termination_by structural part => part

theorem Segment.walkWith_eq : ∀ (segments : List Segment) (first : Bool),
    lapses.Spared (!segments.isEmpty && Segment.allWellFormed segments) →
      Segment.walkWith lapses environment first segments =
        Segment.walk environment first segments
  | [], first, spared => by
    funext scope
    rw [Segment.walkWith, Segment.walk, spared.eq_standard, Lapses.standard]
  | .expression receiver :: segments, first, spared => by
    funext scope
    rw [Segment.walkWith, Segment.walk, Expression.evaluateWith_eq receiver spared.right.left,
      Segment.descendWith_eq segments spared.right.right] <;> rfl
  | .name name :: segments, first, spared => by
    funext scope
    have others : segments.isEmpty = false →
        lapses.Spared (!segments.isEmpty && Segment.allWellFormed segments) := fun some =>
      spared.right.right.mono fun formed => by simp [some, formed]
    rw [Segment.walkWith, Segment.walk]
    apply named_congr
    · intro some
      rw [Segment.walkWith_eq segments false (others some)]
    · intro some
      rw [Segment.climbWith_eq segments (others some)]
    · rw [Segment.descendWith_eq segments spared.right.right]
termination_by structural segments => segments

theorem Segment.climbWith_eq : ∀ segments : List Segment,
    lapses.Spared (!segments.isEmpty && Segment.allWellFormed segments) →
      Segment.climbWith lapses environment segments = Segment.climb environment segments
  | [], spared => by
    funext frames scope
    rw [Segment.climbWith, Segment.climb, spared.eq_standard, Lapses.standard]
  | .expression receiver :: segments, spared => by
    funext frames scope
    rw [Segment.climbWith, Segment.climb]
  | .name name :: segments, spared => by
    funext frames scope
    have others : segments.isEmpty = false →
        lapses.Spared (!segments.isEmpty && Segment.allWellFormed segments) := fun some =>
      spared.right.right.mono fun formed => by simp [some, formed]
    rw [Segment.climbWith, Segment.climb]
    apply climbed_congr
    · intro some
      rw [Segment.climbWith_eq segments (others some)]
    · rw [Segment.descendWith_eq segments spared.right.right]
termination_by structural segments => segments

theorem Segment.descendWith_eq : ∀ segments : List Segment,
    lapses.Spared (Segment.allWellFormed segments) →
      Segment.descendWith lapses environment segments = Segment.descend environment segments
  | [], spared => by
    funext value context concatenated scope
    rw [Segment.descendWith, Segment.descend]
  | .expression index :: segments, spared => by
    funext value context concatenated scope
    rw [Segment.descendWith, Segment.descend, Expression.evaluateWith_eq index spared.left,
      Segment.descendWith_eq segments spared.right]
  | .name name :: segments, spared => by
    funext value context concatenated scope
    have others : segments.isEmpty = false →
        lapses.Spared (!segments.isEmpty && Segment.allWellFormed segments) := fun some =>
      spared.right.mono fun formed => by simp [some, formed]
    have enter : ∀ scope, named environment false name segments.isEmpty
          { stay := fun scope => Segment.walkWith lapses environment false segments scope
            climb := fun frames scope => Segment.climbWith lapses environment segments frames scope
            descend := fun value context scope =>
              Segment.descendWith lapses environment segments value context false scope } scope =
        named environment false name segments.isEmpty
          { stay := fun scope => Segment.walk environment false segments scope
            climb := fun frames scope => Segment.climb environment segments frames scope
            descend := fun value context scope =>
              Segment.descend environment segments value context false scope } scope := by
      intro scope
      apply named_congr
      · intro some
        rw [Segment.walkWith_eq segments false (others some)]
      · intro some
        rw [Segment.climbWith_eq segments (others some)]
      · rw [Segment.descendWith_eq segments spared.right]
    rw [Segment.descendWith, Segment.descend]
    simp only [enter]
    rw [Segment.descendWith_eq segments spared.right]
termination_by structural segments => segments

end

end Agreement

/-- An expression that comes from a text is well formed, and its evaluation never gets to an operand
that is the text of a token, or to a path without segments. -/
theorem evaluate_of_parse :
    (∀ (expression : Expression) (environment : Environment),
      expression.evaluateWith .standard environment = expression.evaluate environment) ∧
    ∀ (options : ParserOptions) (text : String) (expression : Expression),
      parse? options text = .ok expression →
      expression.wellFormed = true ∧ ∀ (lapses : Lapses) (environment : Environment),
        expression.evaluateWith lapses environment = expression.evaluate environment := by
  refine ⟨fun expression environment => Expression.evaluateWith_eq expression (.inl rfl), ?_⟩
  intro options text expression parsed
  obtain ⟨placed, lexed, parsed⟩ := Tiers.bind_eq_ok.mp parsed
  obtain ⟨_, -, analyzed⟩ := Tiers.bind_eq_ok.mp parsed
  have interpreted : PlacedPart.ofText? options.lenient text = .ok placed := by
    revert lexed
    cases PlacedPart.ofText? options.lenient text <;> simp [Except.mapError]
  have formed : expression.wellFormed = true := by
    refine Analysis.wellFormed_of_analyze ⟨PlacedPart.fit_of_text interpreted, ?_⟩ analyzed
    exact fun part member => ⟨PlacedPart.isToken_of_text interpreted part member,
      PlacedPart.proper_of_text interpreted part member⟩
  exact ⟨formed, fun lapses environment => Expression.evaluateWith_eq expression (.inr formed)⟩

theorem evaluate_of_path_after_call : ∃ expression,
    parse? {} "f(1)/a[b > 2](!c, d++) + /e" = .ok expression ∧ expression.wellFormed = true ∧
      ∀ (lapses : Lapses) (environment : Environment),
        expression.evaluateWith lapses environment = expression.evaluate environment := by
  obtain ⟨parts, expression, accepted, -⟩ := Accepted.of_passes {} "f(1)/a[b > 2](!c, d++) + /e"
    (fun _ _ => true) (by decide +kernel)
  exact ⟨expression, accepted.parsed, evaluate_of_parse.2 {} _ expression accepted.parsed⟩

end PathQuery
