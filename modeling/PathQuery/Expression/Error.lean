import PathQuery.Token.Lexeme

/-!
Why a text is not an expression.
-/

namespace PathQuery

inductive ParseError where
  | lex (error : LexError)
  | unclosedScopes (count : Nat)
  | unopenedScopes (count : Nat)
  | unclosedIndexes (count : Nat)
  | unopenedIndexes (count : Nat)
  | unscopedSeparator
  | missingMethodEnd (method : String)
  | missingIndexEnd (path : String)
  | emptyArgument (method : String)
  | emptyIndex (path : String)
  | emptyElement
  | missingLeftOperand (operator : String)
  | missingRightOperand (operator : String)
  | danglingToken (token : String)
  | unexpectedOperand (operation operand : String)
  | unresolvedToken (kind : TokenKind) (token : String)
  | emptyExpression
deriving DecidableEq

namespace ParseError

def message : ParseError → String
  | lex error => error.message
  | unclosedScopes count => s!"There are {count} unclosed scopes"
  | unopenedScopes count =>
      s!"There are {count} scopes that are closed but were never opened to begin with"
  | unclosedIndexes count => s!"There are {count} unclosed indexes"
  | unopenedIndexes count =>
      s!"There are {count} indexes that are closed but were never opened to begin with"
  | unscopedSeparator => "All separators must exist in a scope"
  | missingMethodEnd method => s!"Missing end scope token for method call: {method}"
  | missingIndexEnd path => s!"Missing end index token after: {path}"
  | emptyArgument method => s!"Empty argument in method call: {method}"
  | emptyIndex path => s!"Empty index after: {path}"
  | emptyElement => "Empty element in list literal"
  | missingLeftOperand operator =>
      s!"The operator {operator} expects a left operand but there wasn't one"
  | missingRightOperand operator =>
      s!"The operator {operator} expects a right operand but there wasn't one"
  | danglingToken token => s!"A dangling token was detected: {token}"
  | unexpectedOperand operation operand =>
      s!"Unexpected operand after '{operation}': {operand}"
  | unresolvedToken kind token =>
      s!"Expecting only operators and native types at this point, found {kind.name}: {token}"
  | emptyExpression => "The query does not contain an expression"

end ParseError

end PathQuery
