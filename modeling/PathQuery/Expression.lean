import PathQuery.Token.Kind
import PathQuery.Value.Text

/-!
Expressions: literals, paths, calls and operators with their operands.

Expressions are written back as source text. Parentheses are not kept from the source; they are set
where an operand is itself an operator expression of another tier, or stands on the right without
its tier associating to the right.
-/

namespace PathQuery

/-- An operator as it was spelled. -/
structure Operator where
  kind : TokenKind
  spelling : String
deriving DecidableEq

namespace Operator

def tier (operator : Operator) : Nat :=
  operator.kind.precedence?.getD 0

end Operator

mutual

inductive Expression where
  | literal (value : Value)
  /-- A path through the context. -/
  | path (segments : List Segment)
  | call (target : Target) (arguments : List Expression)
  | operation (left : Option Part) (operator : Operator) (right : Option Part)

/-- A step of a path: a name, or an index or filter in brackets. As the first step an expression
gives what the path starts from. -/
inductive Segment where
  | name (name : String)
  | expression (expression : Expression)

inductive Target where
  | name (name : String)
  | expression (expression : Expression)

/-- A token that has been read. -/
inductive Part where
  | literal (kind : TokenKind) (value : Value)
  | text (kind : TokenKind) (text : String)
  | expression (kind : TokenKind) (expression : Expression)
  /-- A scope with nothing in it. -/
  | empty (kind : TokenKind)

end

instance : Inhabited Expression :=
  ⟨.literal .null⟩

instance : Inhabited Part :=
  ⟨.empty .unknown⟩

namespace Part

def kind : Part → TokenKind
  | literal kind _ => kind
  | text kind _ => kind
  | expression kind _ => kind
  | empty kind => kind

def expression? : Part → Option Expression
  | expression _ held => some held
  | _ => none

/-- A part that holds what an analysis came to. -/
def ofAnalysis : Option Expression → Part
  | some analyzed => expression .expression analyzed
  | none => empty .expression

end Part

/-- Whether an operand that is an operator expression itself stands in parentheses. -/
def parenthesized (outer inner : Operator) (leading : Bool) : Bool :=
  let named := outer.kind == .naming || inner.kind == .naming
  (!named && outer.tier != inner.tier) || (!leading && !isRightTier inner.tier)

mutual

def Expression.text : Expression → String
  | .literal value => value.literal
  | .path segments => Segment.pathText true segments
  | .call target arguments =>
      target.text ++ "(" ++ ", ".intercalate (Expression.texts arguments) ++ ")"
  | .operation left operator right =>
      Part.leftText operator left ++ operator.spelling ++ Part.rightText operator right

def Expression.texts : List Expression → List String
  | [] => []
  | expression :: expressions => expression.text :: Expression.texts expressions

/-- The source text of the segments of a path, of which the first may begin with a slash. -/
def Segment.pathText (first : Bool) : List Segment → String
  | [] => ""
  | .name name :: segments =>
      (if first || name.startsWith "/" then name else "/" ++ name) ++
        Segment.pathText false segments
  | .expression expression :: segments =>
      (if first then expression.text else "[" ++ expression.text ++ "]") ++
        Segment.pathText false segments

def Target.text : Target → String
  | .name name => name
  | .expression expression => expression.text

def Part.render : Part → String
  | .literal _ value => value.literal
  | .text _ text => text
  | .expression _ expression => expression.text
  | .empty _ => ""

def Part.operandText (outer : Operator) (leading : Bool) : Part → String
  | .expression _ (.operation left inner right) =>
      let text := Part.leftText inner left ++ inner.spelling ++ Part.rightText inner right
      if parenthesized outer inner leading then "(" ++ text ++ ")" else text
  | .expression _ expression => expression.text
  | .literal _ value => value.literal
  | .text _ text => text
  | .empty _ => ""

/-- The source text of a left operand, with a space after it. -/
def Part.leftText (operator : Operator) : Option Part → String
  | none => ""
  | some part => Part.operandText operator true part ++ " "

def Part.rightText (operator : Operator) : Option Part → String
  | none => ""
  | some part => " " ++ Part.operandText operator false part

end

mutual

def Expression.same : Expression → Expression → Bool
  | .literal a, .literal b => a.sameLiteral b
  | .path as, .path bs => Segment.sameAll as bs
  | .call target as, .call other bs => target.same other && Expression.sameAll as bs
  | .operation left operator right, .operation left' operator' right' =>
      Part.sameOperand left left' && operator == operator' && Part.sameOperand right right'
  | _, _ => false
termination_by structural left => left

def Expression.sameAll : List Expression → List Expression → Bool
  | [], [] => true
  | a :: as, b :: bs => a.same b && Expression.sameAll as bs
  | _, _ => false
termination_by structural left => left

def Segment.sameAll : List Segment → List Segment → Bool
  | [], [] => true
  | .name a :: as, .name b :: bs => a == b && Segment.sameAll as bs
  | .expression a :: as, .expression b :: bs => a.same b && Segment.sameAll as bs
  | _, _ => false
termination_by structural left => left

def Target.same : Target → Target → Bool
  | .name a, .name b => a == b
  | .expression a, .expression b => a.same b
  | _, _ => false
termination_by structural left => left

def Part.same : Part → Part → Bool
  | .literal kind a, .literal kind' b => kind == kind' && a.sameLiteral b
  | .text kind a, .text kind' b => kind == kind' && a == b
  | .expression kind a, .expression kind' b => kind == kind' && a.same b
  | .empty kind, .empty kind' => kind == kind'
  | _, _ => false
termination_by structural left => left

def Part.sameOperand : Option Part → Option Part → Bool
  | none, none => true
  | some a, some b => a.same b
  | _, _ => false
termination_by structural left => left

end

end PathQuery
