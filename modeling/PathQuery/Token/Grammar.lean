import PathQuery.Pattern
import PathQuery.Text.Blank
import PathQuery.Text.LetterCase
import PathQuery.Token.Kind

/-!
The grammar of tokens: an ordered table of patterns. At each place of a text the first entry that
matches decides, so longer spellings stand before their beginnings, and reserved words before the
names of methods and paths. Case does not matter.

`Token.find?` finds the next lexeme of a text, and `Token.identify?` says what a lexeme by itself
stands for.
-/

namespace PathQuery.Token

open Pattern (concat oneOf exactly text optional oneOrMore boundary many char)

/-- A kind of tokens, the pattern of its lexemes, and what has to follow a lexeme. -/
structure Entry where
  kind : TokenKind
  lexeme : Pattern
  following : Pattern := .empty

/-- A character, or one that differs from it in case only. -/
def letter (c : Char) : Pattern :=
  char fun d => (Text.caseVariants d).contains c

def word (letters : String) : Pattern :=
  concat [boundary, concat (letters.toList.map letter), boundary]

/-- The letters from `a` to `z` in either case, with the two other letters that share a case with
one of them. -/
def isLetter (c : Char) : Bool :=
  c.isAlpha || c == 'ſ' || c == '\u212A'

def digits : Pattern :=
  oneOrMore (char Char.isDigit)

/-- The mark of literals of unlimited size. -/
def bigMark : Pattern :=
  optional (letter 'b')

def blanks : Pattern :=
  many (char Text.isBlank)

/-- Word characters and dots, which a name may have after its beginning. -/
def nameRest : Pattern :=
  many (char fun c => Text.isWordChar c || c == '.')

/-- A text between quotes, in which a backslash takes the next character with it. -/
def quoted (quote : Char) : Pattern :=
  concat
    [exactly quote,
      many (.either (char fun c => c != quote && c != '\\')
        (.seq (exactly '\\') (char fun _ => true))),
      exactly quote]

/-- A step of a path: a name or `..`, after a slash and an at sign that may be missing. -/
def pathStep : Pattern :=
  concat
    [optional (exactly '/'), optional (exactly '@'),
      .either
        (.seq
          (.either (.seq boundary (oneOrMore (char fun c => isLetter c || c == '_')))
            (exactly '$'))
          nameRest)
        (text "..")]

def methodName : Pattern :=
  .seq (.either (oneOrMore (exactly '$')) (.seq boundary (oneOrMore (char isLetter)))) nameRest

def grammar : List Entry :=
  [{ kind := .stringLiteral, lexeme := .either (quoted '"') (quoted '\'') },
    { kind := .decimalLiteral,
      lexeme := concat [boundary, digits, exactly '.', digits, bigMark, boundary] },
    { kind := .integerLiteral, lexeme := concat [boundary, digits, bigMark, boundary] },
    { kind := .trueLiteral, lexeme := word "true" },
    { kind := .falseLiteral, lexeme := word "false" },
    { kind := .nullLiteral, lexeme := word "null" },
    { kind := .logicalAnd, lexeme := word "and" },
    { kind := .logicalOr, lexeme := word "or" },
    { kind := .notIn,
      lexeme := concat
        [boundary, concat ("not".toList.map letter), oneOrMore (char Text.isBlank),
          concat ("in".toList.map letter), boundary] },
    { kind := .isIn, lexeme := word "in" },
    { kind := .method, lexeme := methodName, following := .seq blanks (exactly '(') },
    { kind := .path, lexeme := .seq (oneOrMore pathStep) boundary },
    { kind := .separator, lexeme := text "," },
    { kind := .scopeStart, lexeme := text "(" },
    { kind := .scopeStop, lexeme := text ")" },
    { kind := .indexStart, lexeme := text "[" },
    { kind := .indexStop, lexeme := text "]" },
    { kind := .naming, lexeme := text ":" },
    { kind := .logicalAnd, lexeme := text "&&" },
    { kind := .logicalOr, lexeme := text "||" },
    { kind := .bitwiseOr, lexeme := text "|" },
    { kind := .bitwiseAnd, lexeme := text "&" },
    { kind := .power, lexeme := text "**" },
    { kind := .multiply, lexeme := text "*" },
    { kind := .increase, lexeme := text "++" },
    { kind := .decrease, lexeme := text "--" },
    { kind := .add, lexeme := text "+" },
    { kind := .subtract, lexeme := text "-" },
    { kind := .divide, lexeme := .either (text "/") (text "÷") },
    { kind := .notIn, lexeme := text "!#" },
    { kind := .isIn, lexeme := text "#" },
    { kind := .greaterOrEquals, lexeme := text ">=" },
    { kind := .greater, lexeme := text ">" },
    { kind := .lesserOrEquals, lexeme := text "<=" },
    { kind := .lesser, lexeme := text "<" },
    { kind := .notMatching, lexeme := text "!~" },
    { kind := .matching, lexeme := text "~" },
    { kind := .modulo, lexeme := text "%" },
    { kind := .notXor, lexeme := text "!^" },
    { kind := .xor, lexeme := text "^" },
    { kind := .notEquals, lexeme := text "!=" },
    { kind := .equals, lexeme := .either (text "==") (text "=") },
    { kind := .not, lexeme := text "!" },
    { kind := .compose, lexeme := text "°" }]

def Entry.end? (entry : Entry) (cursor : Cursor) : Option Cursor :=
  (entry.lexeme.ends cursor).find? fun place =>
    place.rest.length < cursor.rest.length && !(entry.following.ends place).isEmpty

def lexemeAt? (cursor : Cursor) : Option (TokenKind × Cursor) :=
  grammar.findSome? fun entry => (entry.end? cursor).map fun place => (entry.kind, place)

/-- A lexeme found in a text: its kind, what was passed before it, its characters, and the place
after it. -/
structure Found where
  kind : TokenKind
  gap : List Char
  lexeme : List Char
  after : Cursor

/-- The characters between two places of a text. -/
def between (first last : Cursor) : List Char :=
  first.rest.take (first.rest.length - last.rest.length)

/-- The first lexeme among the given rests of a text, the places after `passed` characters. -/
def findFrom? (gap : List Char) (before : Option Char) (passed : Nat) :
    List Char → Option Found
  | [] => none
  | c :: rest =>
      let here : Cursor := ⟨before, c :: rest, passed⟩
      match lexemeAt? here with
      | some (kind, after) => some ⟨kind, gap.reverse, between here after, after⟩
      | none => findFrom? (c :: gap) (some c) (passed + 1) rest

/-- The first lexeme that begins at the cursor or after it. -/
def find? (cursor : Cursor) : Option Found :=
  findFrom? [] cursor.before cursor.passed cursor.rest

/-- What a lexeme stands for by itself. The name of a method is one only when an opening scope
follows. -/
def identify? (lexeme : List Char) (beforeScope : Bool) : Option TokenKind :=
  (grammar.find? fun entry =>
    entry.lexeme.matchesAll lexeme && (entry.kind != .method || beforeScope)).map Entry.kind

theorem Entry.length_end_lt {entry : Entry} {cursor place : Cursor}
    (found : entry.end? cursor = some place) : place.rest.length < cursor.rest.length := by
  have kept := List.find?_some found
  simp only [Bool.and_eq_true, decide_eq_true_eq] at kept
  exact kept.1

theorem length_lexemeAt_lt {cursor : Cursor} {kind : TokenKind} {place : Cursor}
    (found : lexemeAt? cursor = some (kind, place)) : place.rest.length < cursor.rest.length := by
  obtain ⟨entry, _, matched⟩ := List.exists_of_findSome?_eq_some found
  obtain ⟨reached, ended, same⟩ := Option.map_eq_some_iff.mp matched
  cases same
  exact entry.length_end_lt ended

theorem length_findFrom_lt {gap : List Char} {before : Option Char} {passed : Nat}
    {rest : List Char} {found : Found}
    (finds : findFrom? gap before passed rest = some found) :
    found.after.rest.length < rest.length := by
  induction rest generalizing gap before passed with
  | nil => simp [findFrom?] at finds
  | cons c rest ih =>
    simp only [findFrom?] at finds
    split at finds
    next kind after matched =>
      cases finds
      exact length_lexemeAt_lt matched
    next =>
      have shorter := ih finds
      simp only [List.length_cons]
      omega

theorem length_find_lt {cursor : Cursor} {found : Found} (finds : find? cursor = some found) :
    found.after.rest.length < cursor.rest.length :=
  length_findFrom_lt finds

end PathQuery.Token
