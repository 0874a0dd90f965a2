import PathQuery.Number.DecimalText
import PathQuery.Number.FloatText
import PathQuery.Value

/-!
Texts of values, in two forms. The plain form takes part in concatenation, names fields and appears
in messages. The literal form is the source text of a value: strings are quoted, and numbers of
unlimited size have their mark.
-/

namespace PathQuery.Value

/-- The quote for a string: the single one if only the double one occurs in it. -/
def quoteFor (cs : List Char) : Char :=
  if cs.contains '"' && !cs.contains '\'' then '\'' else '"'

/-- One character of a quoted string. -/
def escape (quote c : Char) : List Char :=
  if c == '\\' then ['\\', '\\']
  else if c == '\n' then ['\\', 'n']
  else if c == '\r' then ['\\', 'r']
  else if c == '\t' then ['\\', 't']
  else if c == quote then ['\\', c]
  else [c]

/-- A string between quotes. -/
def quote (text : String) : String :=
  let mark := quoteFor text.toList
  String.ofList (mark :: (text.toList.flatMap (escape mark) ++ [mark]))

/-- The source text of a decimal, with a point and the mark of unlimited size. -/
def decimalLiteral (d : Number.Decimal) : String :=
  if d.text.toList.contains '.' then d.text ++ "b" else d.text ++ ".0b"

mutual

def print (literal : Bool) : Value → String
  | null => "null"
  | boolean b => if b then "true" else "false"
  | integer n => Number.integerText n.toInt
  | long n => Number.integerText n.toInt
  | bigInteger n =>
      if literal then Number.integerText n ++ "b" else Number.integerText n
  | float x => Number.Binary64.plainText x
  | decimal d => if literal then decimalLiteral d else d.text
  | string text => if literal then quote text else text
  | date instant => if literal then quote instant.text else instant.text
  | array elements => "[" ++ ", ".intercalate (printElements literal elements) ++ "]"
  | object fields => "\x7b" ++ ", ".intercalate (printFields literal fields) ++ "\x7d"
  | sequence _ elements => "[" ++ ", ".intercalate (printElements literal elements) ++ "]"
  | deferred _ (.ok value) => print literal value
  | deferred _ (.error _) => "<deferred>"
  | function ref => ref.name ++ "()"
  | host ref => ref.text

/-- The texts of values. -/
def printElements (literal : Bool) : List Value → List String
  | [] => []
  | value :: values => print literal value :: printElements literal values

def printFields (literal : Bool) : List (String × Value) → List String
  | [] => []
  | (name, value) :: fields =>
      (name ++ "=" ++ print literal value) :: printFields literal fields

end

def text (value : Value) : String :=
  value.print false

def literal (value : Value) : String :=
  value.print true

end PathQuery.Value
