import PathQuery.Expression.Analysis
import PathQuery.Expression.Part
import PathQuery.Settings

/-!
The parser: text to expression. A parser keeps the expressions that it has answered, by their text,
and answers the same one when the text comes again.
-/

namespace PathQuery

/-- Counts of scopes and indexes that are open, and of those that were closed without being
opened. -/
structure Balance where
  scopes : Nat := 0
  unopenedScopes : Nat := 0
  indexes : Nat := 0
  unopenedIndexes : Nat := 0

namespace Balance

def add? (options : ParserOptions) (balance : Balance) (kind : TokenKind) :
    Except ParseError Balance :=
  match kind with
  | .scopeStart => .ok { balance with scopes := balance.scopes + 1 }
  | .scopeStop =>
      if balance.scopes = 0 then .ok { balance with unopenedScopes := balance.unopenedScopes + 1 }
      else .ok { balance with scopes := balance.scopes - 1 }
  | .indexStart => .ok { balance with indexes := balance.indexes + 1 }
  | .indexStop =>
      if balance.indexes = 0 then
        .ok { balance with unopenedIndexes := balance.unopenedIndexes + 1 }
      else .ok { balance with indexes := balance.indexes - 1 }
  | .separator =>
      if balance.scopes = 0 && balance.indexes = 0 && !options.allowUnscopedSeparators then
        .error .unscopedSeparator
      else .ok balance
  | _ => .ok balance

/-- What is wrong with a balance at the end of a text. -/
def check (balance : Balance) : Except ParseError Unit :=
  if 0 < balance.unopenedScopes then .error (.unopenedScopes balance.unopenedScopes)
  else if 0 < balance.scopes then .error (.unclosedScopes balance.scopes)
  else if 0 < balance.unopenedIndexes then .error (.unopenedIndexes balance.unopenedIndexes)
  else if 0 < balance.indexes then .error (.unclosedIndexes balance.indexes)
  else .ok ()

end Balance

/-- Checks that scopes and indexes are balanced and that separators stand inside of them. -/
def validate (options : ParserOptions) (parts : List Part) : Except ParseError Unit := do
  let balance ← (parts.map Part.kind).foldlM (Balance.add? options) {}
  balance.check

def parse? (options : ParserOptions) (text : String) : Except ParseError Expression := do
  let placed ← (PlacedPart.ofText? options.lenient text).mapError ParseError.lex
  let parts := placed.map PlacedPart.part
  validate options parts
  Analysis.analyze parts

/-- An expression that a parser has answered. Two answers are the same one when they have the same
identity. -/
structure Tree where
  identity : Nat
  expression : Expression

/-- A parser: its settings, its answers by text, and how many expressions it has made. -/
structure Parser where
  options : ParserOptions := {}
  cache : List (String × Tree) := []
  made : Nat := 0

namespace Parser

def parseUncached (text : String) (parser : Parser) : Except ParseError Tree × Parser :=
  match parse? parser.options text with
  | .ok expression =>
      (.ok ⟨parser.made, expression⟩, { parser with made := parser.made + 1 })
  | .error error => (.error error, parser)

/-- Parses a text, or answers what was answered for it before. -/
def parse (text : String) (parser : Parser) : Except ParseError Tree × Parser :=
  match parser.cache.lookup text with
  | some tree => (.ok tree, parser)
  | none =>
      match parser.parseUncached text with
      | (.ok tree, parser) => (.ok tree, { parser with cache := (text, tree) :: parser.cache })
      | (.error error, parser) => (.error error, parser)

def cachedCount (parser : Parser) : Nat :=
  parser.cache.length

def clear (parser : Parser) : Parser :=
  { parser with cache := [] }

end Parser

end PathQuery
