/-!
The kinds of tokens and the precedence of operators. Operators of a higher tier bind tighter.
-/

namespace PathQuery

inductive TokenKind where
  /-- A lexeme that the grammar does not know. -/
  | unknown
  | stringLiteral
  | integerLiteral
  | decimalLiteral
  | trueLiteral
  | falseLiteral
  | nullLiteral
  /-- A path, such as `a/b`, `../x` or `$this`. -/
  | path
  /-- The name of a method that is called. -/
  | method
  | scopeStart
  | scopeStop
  | indexStart
  | indexStop
  | separator
  /-- An expression that has been analyzed. -/
  | expression
  | naming
  | logicalOr
  | logicalAnd
  | bitwiseOr
  | xor
  | notXor
  | bitwiseAnd
  | equals
  | notEquals
  | matching
  | notMatching
  | isIn
  | notIn
  | greaterOrEquals
  | greater
  | lesserOrEquals
  | lesser
  | add
  | subtract
  | divide
  | multiply
  | modulo
  | power
  | increase
  | decrease
  | not
  | compose
deriving DecidableEq

namespace TokenKind

/-- The name of a kind, as messages show it. -/
def name : TokenKind → String
  | unknown => "UNKNOWN"
  | stringLiteral => "STRING"
  | integerLiteral => "NUMBER_INTEGER"
  | decimalLiteral => "NUMBER_DECIMAL"
  | trueLiteral => "BOOLEAN_TRUE"
  | falseLiteral => "BOOLEAN_FALSE"
  | nullLiteral => "NULL"
  | path => "VARIABLE"
  | method => "METHOD"
  | scopeStart => "SCOPE_START"
  | scopeStop => "SCOPE_STOP"
  | indexStart => "INDEX_START"
  | indexStop => "INDEX_STOP"
  | separator => "SEPARATOR"
  | expression => "OPERATION"
  | naming => "NAMING"
  | logicalOr => "LOGICAL_OR"
  | logicalAnd => "LOGICAL_AND"
  | bitwiseOr => "BITWISE_OR"
  | xor => "XOR"
  | notXor => "NOT_XOR"
  | bitwiseAnd => "BITWISE_AND"
  | equals => "EQUALS"
  | notEquals => "NOT_EQUALS"
  | matching => "MATCHES"
  | notMatching => "NOT_MATCHES"
  | isIn => "IN"
  | notIn => "NOT_IN"
  | greaterOrEquals => "GREATER_OR_EQUALS"
  | greater => "GREATER"
  | lesserOrEquals => "LESSER_OR_EQUALS"
  | lesser => "LESSER"
  | add => "ADD"
  | subtract => "SUBTRACT"
  | divide => "DIVIDE"
  | multiply => "MULTIPLY"
  | modulo => "MOD"
  | power => "POWER"
  | increase => "INCREASE"
  | decrease => "DECREASE"
  | not => "NOT"
  | compose => "COMPOSE"

def all : List TokenKind :=
  [unknown, stringLiteral, integerLiteral, decimalLiteral, trueLiteral, falseLiteral, nullLiteral,
    path, method, scopeStart, scopeStop, indexStart, indexStop, separator, expression, naming,
    logicalOr, logicalAnd, bitwiseOr, xor, notXor, bitwiseAnd, equals, notEquals, matching,
    notMatching, isIn, notIn, greaterOrEquals, greater, lesserOrEquals, lesser, add, subtract,
    divide, multiply, modulo, power, increase, decrease, not, compose]

def ofName? (text : String) : Option TokenKind :=
  all.find? (·.name == text)

/-- The tier of an operator, from 0 to 10; `none` for all other kinds. -/
def precedence? : TokenKind → Option Nat
  | naming | logicalOr => some 0
  | logicalAnd => some 1
  | bitwiseOr => some 2
  | xor | notXor => some 3
  | bitwiseAnd => some 4
  | equals | notEquals | matching | notMatching | isIn | notIn | greaterOrEquals | greater
  | lesserOrEquals | lesser => some 5
  | add | subtract => some 6
  | divide | multiply | modulo => some 7
  | power => some 8
  | increase | decrease | not => some 9
  | compose => some 10
  | _ => none

def isOperator (kind : TokenKind) : Bool :=
  kind.precedence?.isSome

def isLiteral : TokenKind → Bool
  | stringLiteral | integerLiteral | decimalLiteral | trueLiteral | falseLiteral
  | nullLiteral => true
  | _ => false

/-- Whether an operator computes a number, so that an index made with it is a position. -/
def isArithmetic : TokenKind → Bool
  | add | subtract | multiply | divide | power | modulo => true
  | _ => false

def opensRange : TokenKind → Bool
  | scopeStart | separator | indexStart => true
  | _ => false

def closesRange : TokenKind → Bool
  | scopeStop | separator | indexStop => true
  | _ => false

def takesLeft (kind : TokenKind) : Bool :=
  kind.isOperator && kind != not

def takesRight (kind : TokenKind) : Bool :=
  kind.isOperator && kind != increase && kind != decrease

theorem mem_all (kind : TokenKind) : kind ∈ all := by
  cases kind <;> decide

end TokenKind

/-- The side from which the operators of a tier take their operands first. -/
inductive Associativity where
  | left
  | right
deriving DecidableEq

def maxTier : Nat := 10

/-- Whether the operators of a tier associate to the right: those of `or`, `and` and `^` do, so
that chains of them are decided by the leftmost operands. -/
def isRightTier (tier : Nat) : Bool :=
  [TokenKind.logicalAnd, .logicalOr, .xor].any (·.precedence? == some tier)

def associativity (tier : Nat) : Associativity :=
  if isRightTier tier then .right else .left

end PathQuery
