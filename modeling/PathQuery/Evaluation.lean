import PathQuery.Evaluation.Operation
import PathQuery.Evaluation.Path

/-!
The value of an expression in a context.

A path enters the context that it is read in, and each value that a name is read from. Every failure
of an expression that is not a literal names that expression, or the part of it that failed.
-/

namespace PathQuery

open Evaluation

/-- The method that a value stands for in a call with a number of arguments: a function stands for
itself, and a text for the method of that name. -/
def Evaluation.methodOf (environment : Environment) (arity : Nat) : Value → Evaluation Method
  | .function ref =>
      match Fit.of? ref.parameters arity environment.settings.nullCompletion with
      | some _ => return ⟨ref.name, ref.parameters, environment.host.invoke ref.handle⟩
      | none => throw (.unresolvedMethod ref.name arity)
  | .string name => method environment name arity
  | value => throw (.unsupported s!"{value.type.name} '{value.text}' is not callable")

mutual

def Expression.evaluate (environment : Environment) :
    Expression → Value → Scope → Evaluation Value
  | .literal value, _, _ => return value
  | .path segments, context, scope =>
      within (fun _ => (Expression.path segments).text)
        (Segment.walk environment true segments (scope.enter context))
  | .call target arguments, context, scope =>
      within (fun _ => (Expression.call target arguments).text) do
        let values ← Expression.evaluateAll environment arguments context scope
        let method ← target.method environment values.length context scope
        method.call environment.converter values
  | .operation left operator right, context, scope =>
      within (fun _ => (Expression.operation left operator right).text) do
        let kind := operator.kind
        let left ← Part.operand environment kind.takesLeft left context scope
        match decided? environment.converter kind left with
        | some value => return value
        | none =>
            let right ← Part.operand environment kind.takesRight right context scope
            operated environment kind left right
termination_by structural expression => expression

def Expression.evaluateAll (environment : Environment) :
    List Expression → Value → Scope → Evaluation (List Value)
  | [], _, _ => return []
  | expression :: expressions, context, scope => do
      let value ← expression.evaluate environment context scope
      return value :: (← Expression.evaluateAll environment expressions context scope)
termination_by structural expressions => expressions

def Target.method (environment : Environment) :
    Target → Nat → Value → Scope → Evaluation Method
  | .name name, arity, _, _ => Evaluation.method environment name arity
  | .expression expression, arity, context, scope => do
      let value ← expression.evaluate environment context scope
      methodOf environment arity (← value.resolved)
termination_by structural target => target

/-- The value of an operand, which is null if the operator does not take it. -/
def Part.operand (environment : Environment) (taken : Bool) :
    Option Part → Value → Scope → Evaluation Value
  | some part, context, scope =>
      if taken then part.evaluate environment context scope else return .null
  | none, _, _ => return .null
termination_by structural part => part

def Part.evaluate (environment : Environment) : Part → Value → Scope → Evaluation Value
  | .literal _ value, _, _ => return value
  | .expression _ expression, context, scope => do
      let value ← expression.evaluate environment context scope
      value.resolved
  | .empty _, _, _ => return .null
  | .text kind text, _, _ => throw (.unsupported s!"unresolved {kind.name} token '{text}'")
termination_by structural part => part

def Segment.walk (environment : Environment) (first : Bool) :
    List Segment → Scope → Evaluation Value
  | [], _ => return .null
  | .expression receiver :: segments, scope =>
      match scope.frames with
      | [] => throw .invalidContext
      | frame :: _ => do
          let value ← receiver.evaluate environment frame.value scope
          Segment.descend environment segments (← value.resolved) frame.value false scope
  | .name name :: segments, scope =>
      named environment first name segments.isEmpty
        { stay := fun scope => Segment.walk environment false segments scope
          climb := fun frames scope => Segment.climb environment segments frames scope
          descend := fun value context scope =>
            Segment.descend environment segments value context false scope }
        scope
termination_by structural segments => segments

/-- Resolves segments in frames around the innermost context, to which `..` has led. -/
def Segment.climb (environment : Environment) :
    List Segment → List Frame → Scope → Evaluation Value
  | [], _, _ => return .null
  | .expression _ :: _, _, _ => throw (.danglingSegment "..")
  | .name name :: segments, frames, scope =>
      climbed environment false name segments.isEmpty
        { stay := fun scope => Segment.walk environment false segments scope
          climb := fun frames scope => Segment.climb environment segments frames scope
          descend := fun value context scope =>
            Segment.descend environment segments value context false scope }
        frames scope
termination_by structural segments => segments

/-- Applies segments to a value that was read in a context. An expression in brackets is evaluated in
that context, or as a filter in each element; a name enters the value, or each element of a list. -/
def Segment.descend (environment : Environment) :
    List Segment → Value → Value → Bool → Scope → Evaluation Value
  | [], value, _, _, _ => return value
  | .expression index :: segments, value, context, concatenated, scope =>
      if value.isNull then return atNull (.expression index :: segments)
      else do
        let evaluate := fun context => do
          let value ← index.evaluate environment context scope
          value.resolved
        let (value, concatenated) ←
          indexed environment index evaluate value context concatenated
        Segment.descend environment segments value context concatenated scope
  | .name name :: segments, value, context, concatenated, scope =>
      let enter := fun value =>
        named environment false name segments.isEmpty
          { stay := fun scope => Segment.walk environment false segments scope
            climb := fun frames scope => Segment.climb environment segments frames scope
            descend := fun value context scope =>
              Segment.descend environment segments value context false scope }
          (scope.enter value)
      if value.isNull then return .null
      else if !value.isList then enter value
      else if selectsElement environment.settings concatenated (bareName name) then do
        let element ← member environment value (bareName name)
        Segment.descend environment segments element context false scope
      else do
        let elements ← elementsOf value
        let results ← (elements.filter (!·.isNull)).mapM enter
        return .array (spliced results)
termination_by structural segments => segments

end

end PathQuery
