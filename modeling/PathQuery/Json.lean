import PathQuery.Fields
import PathQuery.Number.FloatText
import PathQuery.Number.Integer

/-!
JSON documents and their compact text: no spaces, and the members of objects sorted by name.
-/

namespace PathQuery

/-- A JSON document. A number is an integer of 64 bits, with or without a sign, or a finite
floating-point number. -/
inductive Json where
  | null
  | bool (b : Bool)
  | integer (n : Int)
  | float (x : Float)
  | string (text : String)
  | array (elements : List Json)
  | object (members : List (String × Json))
deriving Inhabited

namespace Json

def holdsInteger (n : Int) : Bool :=
  -0x8000000000000000 ≤ n && n < 0x10000000000000000

/-- A floating-point number, or `null` when it is not finite. -/
def ofFloat (x : Float) : Json :=
  if Number.Binary64.isFinite x then float x else null

def ofMembers (members : List (String × Json)) : Json :=
  object (Fields.ofList members)

def hexDigit (n : Nat) : Char :=
  (Nat.digitChar n)

def escape (c : Char) : List Char :=
  if c == '"' then ['\\', '"']
  else if c == '\\' then ['\\', '\\']
  else if c == '\n' then ['\\', 'n']
  else if c == '\r' then ['\\', 'r']
  else if c == '\t' then ['\\', 't']
  else if c.toNat == 8 then ['\\', 'b']
  else if c.toNat == 12 then ['\\', 'f']
  else if c.toNat < 0x20 then
    ['\\', 'u', '0', '0', hexDigit (c.toNat / 16), hexDigit (c.toNat % 16)]
  else [c]

def quote (text : String) : String :=
  String.ofList ('"' :: (text.toList.flatMap escape ++ ['"']))

mutual

def compact : Json → String
  | null => "null"
  | bool b => if b then "true" else "false"
  | integer n => Number.integerText n
  | float x =>
      match Number.Binary64.parts? x with
      | some parts => Number.Binary64.jsonText x parts
      | none => "null"
  | string text => quote text
  | array elements => "[" ++ ",".intercalate (compactElements elements) ++ "]"
  | object members => "\x7b" ++ ",".intercalate (compactMembers members) ++ "\x7d"

def compactElements : List Json → List String
  | [] => []
  | element :: elements => compact element :: compactElements elements

def compactMembers : List (String × Json) → List String
  | [] => []
  | (name, member) :: members =>
      (quote name ++ ":" ++ compact member) :: compactMembers members

end

end Json

end PathQuery
