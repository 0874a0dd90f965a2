import PathQuery.Expression
import PathQuery.Number.DecimalText
import PathQuery.Number.FloatText
import PathQuery.Token.Lexeme

/-!
Lexemes read as parts of an expression: literals get their values, and a minus sign that cannot be
a subtraction becomes the sign of the number after it.
-/

namespace PathQuery

structure PlacedPart where
  part : Part
  span : Span

namespace PlacedPart

/-- The characters that the inside of a quoted text stands for. -/
def unescape : List Char → List Char
  | '\\' :: c :: rest =>
      if c == 't' then '\t' :: unescape rest
      else if c == 'n' then '\n' :: unescape rest
      else if c == 'r' then '\r' :: unescape rest
      else if c == '\\' || c == '"' || c == '\'' then c :: unescape rest
      else '\\' :: c :: unescape rest
  | c :: rest => c :: unescape rest
  | [] => []

/-- The text that a string literal stands for. -/
def unquote (lexeme : List Char) : String :=
  String.ofList (unescape (lexeme.drop 1).dropLast)

/-- The digits of a number, and whether the mark of unlimited size follows them. -/
def splitMark (lexeme : List Char) : List Char × Bool :=
  match lexeme.getLast? with
  | some 'b' | some 'B' => (lexeme.dropLast, true)
  | _ => (lexeme, false)

def narrowest (n : Int) : Value :=
  match Number.int32? n, Number.int64? n with
  | some small, _ => .integer small
  | none, some medium => .long medium
  | none, none => .bigInteger n

/-- The value of a number, its sign included. -/
def number? (kind : TokenKind) (lexeme : List Char) (negative : Bool) : Except LexError Value :=
  let (digits, big) := splitMark lexeme
  let signed (cs : List Char) := if negative then '-' :: cs else cs
  let value? : Option Value :=
    if kind == .decimalLiteral then
      if big then (Number.Decimal.ofChars? (signed digits)).map .decimal
      else (Number.Binary64.ofText? (String.ofList (signed digits))).map .float
    else
      (Number.integer? (signed digits)).map fun n => if big then .bigInteger n else narrowest n
  match value? with
  | some value => .ok value
  | none => .error (.invalidNumber (String.ofList (signed lexeme)))

/-- The minus sign that belongs to a number after the given parts, of which the last comes first:
one that has nothing before it that could be a left operand. -/
def sign? : List PlacedPart → Option Span
  | minus :: before =>
      let free := match before.head? with
        | none => true
        | some previous =>
            previous.part.kind.isOperator || previous.part.kind.opensRange
      if minus.part.kind == .subtract && free then some minus.span else none
  | [] => none

/-- Adds the part of one lexeme to the parts before it, of which the last comes first. -/
def add? (lenient : Bool) (parts : List PlacedPart) (lexeme : Lexeme) (beforeScope : Bool) :
    Except LexError (List PlacedPart) :=
  let literal (kind : TokenKind) (value : Value) : List PlacedPart :=
    ⟨.literal kind value, lexeme.span⟩ :: parts
  let text := String.ofList lexeme.text
  match Token.identify? lexeme.text beforeScope with
  | none =>
      if lenient then .ok (⟨.text .unknown text, lexeme.span⟩ :: parts)
      else .error (.unknownToken text)
  | some .stringLiteral => .ok (literal .stringLiteral (.string (unquote lexeme.text)))
  | some .trueLiteral => .ok (literal .trueLiteral (.boolean true))
  | some .falseLiteral => .ok (literal .falseLiteral (.boolean false))
  | some .nullLiteral => .ok (literal .nullLiteral .null)
  | some kind =>
      if kind == .integerLiteral || kind == .decimalLiteral then
        match sign? parts with
        | some span => do
            let value ← number? kind lexeme.text true
            return ⟨.literal kind value, span.merge lexeme.span⟩ :: parts.drop 1
        | none => do
            let value ← number? kind lexeme.text false
            return literal kind value
      else .ok (⟨.text kind text, lexeme.span⟩ :: parts)

def addAll? (lenient : Bool) (parts : List PlacedPart) :
    List Lexeme → Except LexError (List PlacedPart)
  | [] => .ok parts
  | lexeme :: lexemes => do
      let beforeScope := lexemes.head?.any (·.text == ['('])
      addAll? lenient (← add? lenient parts lexeme beforeScope) lexemes

def ofLexemes? (lenient : Bool) (lexemes : List Lexeme) : Except LexError (List PlacedPart) :=
  (addAll? lenient [] lexemes).map List.reverse

def ofText? (lenient : Bool) (text : String) : Except LexError (List PlacedPart) := do
  ofLexemes? lenient (← Lexeme.split? lenient text)

end PlacedPart

end PathQuery
