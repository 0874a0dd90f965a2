import PathQuery.Expression.Analysis
import PathQuery.Proofs.Precedence

/-!
The grammar of expressions. `Derives parts expression` says that a list of parts, brackets and
separators among them, is an expression and which one. It speaks about nesting only; what the
operators do is left to `Phrase`.
-/

namespace PathQuery

namespace TokenKind

/-- Whether a token of this kind is put together with others before any operator is. -/
def isStructural : TokenKind → Bool
  | scopeStart | scopeStop | indexStart | indexStop | separator | method | path => true
  | _ => false

end TokenKind

namespace Part

/-- Whether a part is as it comes from a text: a literal or the text of a token. -/
def isToken : Part → Bool
  | literal kind _ => kind.isLiteral
  | text kind _ => !kind.isLiteral && kind != .expression
  | expression .. | empty _ => false

/-- Whether a part is a token that stands for itself: a literal, an operator or an unknown one. -/
def isPlain (part : Part) : Bool :=
  part.isToken && !part.kind.isStructural

theorem kind_ne_expression_of_isToken {part : Part} (token : part.isToken = true) :
    part.kind ≠ .expression := by
  intro same
  cases part with
  | literal kind value =>
    obtain rfl : kind = .expression := same
    cases token
  | text kind text =>
    obtain rfl : kind = .expression := same
    cases token
  | expression => cases token
  | empty => cases token

theorem eq_text_of_isToken {part : Part} {kind : TokenKind} (token : part.isToken = true)
    (same : part.kind = kind) (other : kind.isLiteral = false) : part = .text kind part.render := by
  cases part with
  | literal found value =>
    obtain rfl : found = kind := same
    rw [isToken, other] at token
    cases token
  | text found text =>
    obtain rfl : found = kind := same
    rfl
  | expression => cases token
  | empty => cases token

end Part

/-- The names of a path: what stands between the slashes, a leading slash going with the first
name. -/
def Segment.names (lexeme : String) : List Segment :=
  let names := match lexeme.toList.splitOn '/' with
    | [] :: first :: others => ('/' :: first) :: others
    | names => names
  names.map fun name => .name (String.ofList name)

mutual

/-- The parts of an expression. -/
inductive Derives : List Part → Expression → Prop
  | phrase {parts items : List Part} {operand : Part} {expression : Expression} :
      Sequence parts items → Phrase (maxTier + 1) 0 items operand →
      operand.value? = some expression → Derives parts expression

/-- Atoms and plain tokens one after the other, and the items that they are among operators. -/
inductive Sequence : List Part → List Part → Prop
  | nil : Sequence [] []
  | plain {part : Part} {parts items : List Part} : part.isPlain = true → Sequence parts items →
      Sequence (part :: parts) (part :: items)
  | atom {block parts items : List Part} {item : Part} : Atom block item → Sequence parts items →
      Sequence (block ++ parts) (item :: items)

/-- The parts that are one operand. A scope may be empty; it is no expression then. -/
inductive Atom : List Part → Part → Prop
  | unit {opening closing : Part} : opening.kind = .scopeStart → closing.kind = .scopeStop →
      Atom [opening, closing] (.empty .expression)
  | scope {parts : List Part} {opening closing : Part} {expression : Expression} :
      opening.kind = .scopeStart → closing.kind = .scopeStop → Derives parts expression →
      Atom (opening :: parts ++ [closing]) (.expression .expression expression)
  | array {parts : List Part} {values : List Value} :
      Listed .indexStart .indexStop parts (values.map .literal) →
      Atom parts (.expression .expression (.literal (.array values)))
  | list {parts : List Part} {elements : List Expression} :
      Listed .indexStart .indexStop parts elements → (∀ values : List Value, elements ≠ values.map .literal) →
      Atom parts (.expression .expression (.call (.name "list") elements))
  | call {parts : List Part} {target : Target} {arguments : List Expression} :
      Call parts target arguments → Atom parts (.expression .expression (.call target arguments))
  | path {parts : List Part} {segments : List Segment} : Path parts segments →
      Atom parts (.expression .expression (.path segments))

/-- The parts of a call: of a method, of what a call answers, or of what a path leads to. -/
inductive Call : List Part → Target → List Expression → Prop
  | method {name : String} {parts : List Part} {arguments : List Expression} :
      Listed .scopeStart .scopeStop parts arguments →
      Call (.text .method name :: parts) (.name name) arguments
  | again {callee parts : List Part} {target : Target} {arguments others : List Expression} :
      Call callee target arguments → Listed .scopeStart .scopeStop parts others →
      Call (callee ++ parts) (.expression (.call target arguments)) others
  | ofPath {callee parts : List Part} {segments : List Segment} {arguments : List Expression} :
      Path callee segments → Listed .scopeStart .scopeStop parts arguments →
      Call (callee ++ parts) (.expression (.path segments)) arguments

/-- The parts of a path. It begins with names, maybe after a call, and goes on with names and
indexes. -/
inductive Path : List Part → List Segment → Prop
  | start {lexeme : String} : Path [.text .path lexeme] (Segment.names lexeme)
  | after {block : List Part} {target : Target} {arguments : List Expression} {lexeme : String} :
      Atom block (.expression .expression (.call target arguments)) →
      Path (block ++ [.text .path lexeme])
        (.expression (.call target arguments) :: Segment.names lexeme)
  | name {parts : List Part} {segments : List Segment} {lexeme : String} : Path parts segments →
      Path (parts ++ [.text .path lexeme]) (segments ++ Segment.names lexeme)
  | index {parts inside : List Part} {segments : List Segment} {opening closing : Part}
      {index : Expression} : Path parts segments → opening.kind = .indexStart →
      closing.kind = .indexStop → Derives inside index →
      Path (parts ++ opening :: inside ++ [closing]) (segments ++ [.expression index])

/-- Brackets of the given kinds with expressions between them. -/
inductive Listed : TokenKind → TokenKind → List Part → List Expression → Prop
  | empty {start stop : TokenKind} {opening closing : Part} : opening.kind = start →
      closing.kind = stop → Listed start stop [opening, closing] []
  | elements {start stop : TokenKind} {parts : List Part} {opening closing : Part}
      {expressions : List Expression} : opening.kind = start → closing.kind = stop →
      Elements parts expressions → Listed start stop (opening :: parts ++ [closing]) expressions

/-- Expressions with separators between them. -/
inductive Elements : List Part → List Expression → Prop
  | single {parts : List Part} {expression : Expression} : Derives parts expression →
      Elements parts [expression]
  | cons {parts others : List Part} {separator : Part} {expression : Expression}
      {expressions : List Expression} : Derives parts expression → separator.kind = .separator →
      Elements others expressions →
      Elements (parts ++ separator :: others) (expression :: expressions)

end

theorem Listed.opening {start stop : TokenKind} {parts : List Part} {expressions : List Expression}
    (listed : Listed start stop parts expressions) :
    ∃ opening others, parts = opening :: others ∧ opening.kind = start := by
  cases listed with
  | empty opens _ => exact ⟨_, _, rfl, opens⟩
  | elements opens _ _ => exact ⟨_, _, rfl, opens⟩

theorem Atom.isOperand {block : List Part} {item : Part} (atom : Atom block item) :
    item.isOperand = true := by
  cases atom <;> rfl

theorem Atom.analyzed {block : List Part} {item : Part} (atom : Atom block item) :
    ∃ analyzed, item = .ofAnalysis analyzed := by
  cases atom with
  | unit => exact ⟨none, rfl⟩
  | scope | array | list | call | path => exact ⟨some _, rfl⟩

namespace Sequence

theorem append {parts items others more : List Part} :
    Sequence parts items → Sequence others more → Sequence (parts ++ others) (items ++ more)
  | .nil, second => second
  | .plain stays first, second => .plain stays (first.append second)
  | .atom begins first, second => by
    rw [List.append_assoc]
    exact .atom begins (first.append second)

theorem snoc_plain {parts items : List Part} {part : Part} (sequence : Sequence parts items)
    (plain : part.isPlain = true) : Sequence (parts ++ [part]) (items ++ [part]) :=
  sequence.append (.plain plain .nil)

theorem snoc_atom {parts items block : List Part} {item : Part} (sequence : Sequence parts items)
    (atom : Atom block item) : Sequence (parts ++ block) (items ++ [item]) := by
  have single := Sequence.atom atom .nil
  rw [List.append_nil] at single
  exact sequence.append single

theorem of_snoc {parts items : List Part} {item : Part} (sequence : Sequence parts (items ++ [item]))
    (analyzed : item.isPlain = false) :
    ∃ front block, parts = front ++ block ∧ Sequence front items ∧ Atom block item := by
  induction items generalizing parts with
  | nil =>
    cases sequence with
    | plain plain _ =>
      rw [analyzed] at plain
      cases plain
    | atom atom rest =>
      cases rest
      exact ⟨[], _, by simp, .nil, atom⟩
  | cons first items ih =>
    cases sequence with
    | plain plain rest =>
      obtain ⟨front, block, rfl, sequence, atom⟩ := ih rest
      exact ⟨_ :: front, block, rfl, .plain plain sequence, atom⟩
    | @atom begins _ _ _ firstAtom rest =>
      obtain ⟨front, block, rfl, sequence, atom⟩ := ih rest
      exact ⟨begins ++ front, block, by simp, .atom firstAtom sequence, atom⟩

end Sequence

namespace Analysis

theorem splitSlashes_eq (text : List Char) : splitSlashes text = text.splitOn '/' := by
  induction text with
  | nil => rfl
  | cons c text ih =>
    rw [splitSlashes, List.splitOn_cons_eq_if_modifyHead, ih]
    by_cases slash : (c == '/') = true
    · rw [if_pos slash, if_pos slash]
    · rw [if_neg slash, if_neg slash]
      cases split : text.splitOn '/' with
      | nil => exact absurd split (List.splitOn_ne_nil '/' text)
      | cons => rfl

theorem pathNames_eq (lexeme : String) : pathNames lexeme = Segment.names lexeme := by
  unfold pathNames Segment.names
  simp only [splitSlashes_eq]
  cases lexeme.toList with
  | nil => rfl
  | cons c text =>
    rw [List.splitOn_cons_eq_if_modifyHead]
    by_cases slash : c = '/'
    · subst slash
      cases split : text.splitOn '/' with
      | nil => exact absurd split (List.splitOn_ne_nil '/' text)
      | cons => simp [split]
    · have differs : (c == '/') = false := by simpa using slash
      simp only [differs, Bool.false_eq_true, if_false]
      cases split : text.splitOn '/' with
      | nil => exact absurd split (List.splitOn_ne_nil '/' text)
      | cons first others => simp [split, differs, List.splitOn_cons_eq_if_modifyHead, slash]

theorem literals_map (values : List Value) : literals? (values.map .literal) = some values := by
  induction values with
  | nil => rfl
  | cons value values ih => rw [List.map_cons, literals?, ih]; rfl

theorem eq_map_of_literals {elements : List Expression} {values : List Value}
    (literals : literals? elements = some values) : elements = values.map .literal := by
  induction elements generalizing values with
  | nil =>
    cases literals
    rfl
  | cons element elements ih =>
    cases element with
    | literal value =>
      obtain ⟨others, rest, rfl⟩ := Option.map_eq_some_iff.mp literals
      rw [ih rest]
      rfl
    | path | call | operation => cases literals

theorem listOf_map (values : List Value) :
    listOf (values.map .literal) = .literal (.array values) := by
  rw [listOf, literals_map]

theorem listOf_of_ne {elements : List Expression}
    (mixed : ∀ values : List Value, elements ≠ values.map .literal) :
    listOf elements = .call (.name "list") elements := by
  rw [listOf]
  cases literals : literals? elements with
  | none => rfl
  | some values => exact absurd (eq_map_of_literals literals) (mixed values)

theorem atom_listOf {parts : List Part} {elements : List Expression}
    (listed : Listed .indexStart .indexStop parts elements) :
    Atom parts (Tiers.folded (listOf elements)) := by
  by_cases mixed : ∀ values : List Value, elements ≠ values.map .literal
  · rw [listOf_of_ne mixed]
    exact .list listed mixed
  · obtain ⟨values, same⟩ := not_forall_not.mp mixed
    rw [same, listOf_map]
    exact .array (same ▸ listed)

end Analysis

end PathQuery
