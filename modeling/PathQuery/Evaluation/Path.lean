import PathQuery.Evaluation.Environment
import PathQuery.Expression

/-!
The steps of paths, as far as they do not depend on what the segments after them come to. A name is
read from a context; an index or a filter is applied to a value.
-/

namespace PathQuery.Evaluation

/-- Whether an index in brackets selects an element by its position. Other expressions filter. -/
def isPositional : Expression → Bool
  | .literal (.boolean _) => false
  | .literal _ => true
  | .path _ => true
  | .operation _ operator _ => operator.kind.isArithmetic
  | .call .. => false

/-- What a path comes to at null: before a filter it is an empty list. -/
def atNull : List Segment → Value
  | .expression index :: _ => if isPositional index then .null else .array []
  | _ => .null

/-- The elements of a list, computed as far as they were put off. -/
def elementsOf (value : Value) : Except EvalError (List Value) :=
  (value.elements?.getD []).mapM Value.resolved

/-- The name of a segment without the slash before it. -/
def bareName (name : String) : String :=
  match name.toList with
  | '/' :: rest => String.ofList rest
  | _ => name

def read (environment : Environment) (name : String) (context : Value) : Evaluation Value :=
  if name == "$this" then pure context else member environment context name

/-- Reads a name in one frame after the other, until it is not null, and answers the context as
well. -/
def seek (environment : Environment) (name : String) : List Frame → Evaluation (Value × Value)
  | [] => return (.null, .null)
  | frame :: frames => do
      let value ← read environment name frame.value
      if value.isNull then seek environment name frames else return (value, frame.value)

/-- The frames in which a name is read. The first name of a path is also read in the contexts around
it, if the settings ask for it, and from the root if it begins with a slash. -/
def sources (settings : Settings) (first : Bool) (name : String) (scope : Scope)
    (frames : List Frame) : List Frame :=
  if first then
    let frames := if name.startsWith "/" then Scope.fromRoot scope.frames else frames
    if settings.parentLookup then frames
    else if settings.rootLookup then frames.take 1 ++ (Scope.fromRoot scope.frames).take 1
    else frames.take 1
  else frames.take 1

/-- What becomes of a path after a name. -/
structure Continuation where
  /-- Goes on with the names that follow in the same context. -/
  stay : Scope → Evaluation Value
  /-- Goes on in the frames around the present one. -/
  climb : List Frame → Scope → Evaluation Value
  /-- Goes on with a value that was read in a context. -/
  descend : Value → Value → Scope → Evaluation Value

/-- Resolves a name in frames that begin with the present one: `..` leads to the frame around it, and
any other name is read. -/
def climbed (environment : Environment) (first : Bool) (name : String) (last : Bool)
    (next : Continuation) (frames : List Frame) (scope : Scope) : Evaluation Value :=
  if name == ".." then
    if last then throw (.danglingSegment "..")
    else
      match frames.tail with
      | [] => throw .invalidContext
      | parents => next.climb parents scope
  else do
    let (value, context) ←
      seek environment (bareName name) (sources environment.settings first name scope frames)
    next.descend value context scope

/-- Resolves a name in the innermost context, where `.` stays. -/
def named (environment : Environment) (first : Bool) (name : String) (last : Bool)
    (next : Continuation) (scope : Scope) : Evaluation Value :=
  if name == "." then
    if last then throw (.danglingSegment ".") else next.stay scope
  else climbed environment first name last next scope.frames scope

/-- Whether a name after a list selects an element of it rather than going to the elements. -/
def selectsElement (settings : Settings) (concatenated : Bool) (name : String) : Bool :=
  (!concatenated || settings.neverConcatenateDollarIndex) &&
    !settings.alwaysConcatenateDollarIndex && (Accessor.position? name).isSome

/-- Appends what an element came to, an array by its elements. -/
def spliced (results : List Value) : List Value :=
  results.flatMap fun
    | .array elements => elements
    | value => [value]

def elementAt (environment : Environment) (index : Expression) (elements : List Value)
    (position : Value) : Except EvalError Value :=
  let invalid : EvalError := .invalidIndex index.text position.text
  if position.isNull then .error (.nullIndex index.text)
  else
    match environment.converter.convert position .long with
    | .error _ => .error invalid
    | .ok converted =>
        match converted.int64? with
        | none => .error invalid
        | some n => if n < 0 then .ok .null else (elements.getD n.toInt.toNat .null).resolved

/-- Whether a filter keeps an element of which it came to the given value. -/
def keeps (converter : Converter) (verdict : Value) : Bool :=
  !verdict.isNull &&
    match converter.convert verdict .boolean with
    | .ok converted => converted.bool? == some true
    | .error _ => false

def filtered (converter : Converter) (verdict : Value → Evaluation Value) :
    List Value → Evaluation (List Value)
  | [] => return []
  | element :: elements => do
      let keep := keeps converter (← verdict element)
      let kept ← filtered converter verdict elements
      return if keep then element :: kept else kept

/-- Applies an expression in brackets to a value that is not null: a key on an object, a position or
a filter on a list. The expression is evaluated in a given context. Answers the result and whether it
is what a filter kept. -/
def indexed (environment : Environment) (index : Expression) (evaluate : Value → Evaluation Value)
    (value context : Value) (concatenated : Bool) : Evaluation (Value × Bool) := do
  match value, value.elements? with
  | .object fields, _ => do
      let key ← evaluate context
      if key.isNull then return (.null, concatenated)
      let held ← ((Fields.get? key.text fields).getD .null).resolved
      return (held, concatenated)
  | _, none => do
      let key ← evaluate context
      if key.isNull then throw (.unresolvedKey index.text)
      return (← member environment value key.text, concatenated)
  | _, some elements =>
      if isPositional index then do
        let position ← evaluate context
        return (← elementAt environment index elements position, false)
      else do
        let elements ← elementsOf value
        return (.array (← filtered environment.converter evaluate elements), true)

end PathQuery.Evaluation
