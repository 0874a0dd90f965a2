import PathQuery.Proofs.Acceptance

/-!
The literals, names and operators of an expression, from left to right. Main statement:
`leaves_of_accepted`, an accepted text that came to a single expression has the leaves of its parts,
each once and in order.
-/

namespace PathQuery

/-- What is read from left to right: literals, the names of paths and calls, and operators. -/
inductive Leaf where
  | literal (value : Value)
  | name (name : String)
  | call (name : String)
  | operator (operator : Operator)

mutual

/-- The leaves of a literal. An array is read element by element. -/
def Value.leaves : Value → List Leaf
  | .array elements => Value.allLeaves elements
  | value => [.literal value]
termination_by structural value => value

def Value.allLeaves : List Value → List Leaf
  | [] => []
  | value :: values => value.leaves ++ Value.allLeaves values
termination_by structural values => values

end

/-- The leaves of the name of a call. A list may be written without the name of its method. -/
def Leaf.ofCall (name : String) : List Leaf :=
  if name = "list" then [] else [.call name]

mutual

def Expression.leaves : Expression → List Leaf
  | .literal value => value.leaves
  | .path segments => Segment.allLeaves segments
  | .call target arguments => target.leaves ++ Expression.allLeaves arguments
  | .operation left operator right =>
      Part.operandLeaves left ++ .operator operator :: Part.operandLeaves right
termination_by structural expression => expression

def Expression.allLeaves : List Expression → List Leaf
  | [] => []
  | expression :: expressions => expression.leaves ++ Expression.allLeaves expressions
termination_by structural expressions => expressions

def Segment.allLeaves : List Segment → List Leaf
  | [] => []
  | .name name :: segments => .name name :: Segment.allLeaves segments
  | .expression expression :: segments => expression.leaves ++ Segment.allLeaves segments
termination_by structural segments => segments

def Target.leaves : Target → List Leaf
  | .name name => Leaf.ofCall name
  | .expression expression => expression.leaves
termination_by structural target => target

def Part.operandLeaves : Option Part → List Leaf
  | some (.literal _ value) => value.leaves
  | some (.expression _ expression) => expression.leaves
  | _ => []
termination_by structural part => part

end

/-- The leaves of a part. Brackets and separators have none. -/
def Part.leaves : Part → List Leaf
  | .literal _ value => value.leaves
  | .text kind spelling =>
      if kind.isOperator then [.operator ⟨kind, spelling⟩]
      else if kind == .path then Segment.allLeaves (Segment.names spelling)
      else if kind == .method then Leaf.ofCall spelling
      else []
  | .expression _ held => held.leaves
  | .empty _ => []

theorem Segment.allLeaves_append (segments others : List Segment) :
    Segment.allLeaves (segments ++ others) =
      Segment.allLeaves segments ++ Segment.allLeaves others := by
  induction segments with
  | nil => rfl
  | cons segment segments ih =>
    cases segment <;> simp [Segment.allLeaves, ih]

theorem Expression.allLeaves_map_literal (values : List Value) :
    Expression.allLeaves (values.map .literal) = Value.allLeaves values := by
  induction values with
  | nil => rfl
  | cons value values ih =>
    simp [Expression.allLeaves, Value.allLeaves, Expression.leaves, ih]

namespace Part

theorem leaves_of_isOperator {part : Part} (token : part.isToken = true)
    (operator : part.kind.isOperator = true) : part.leaves = [.operator ⟨part.kind, part.render⟩] := by
  have other : part.kind.isLiteral = false := by
    revert operator
    cases part.kind <;> simp [TokenKind.isOperator, TokenKind.precedence?, TokenKind.isLiteral]
  rw [eq_text_of_isToken token rfl other]
  exact if_pos operator

theorem leaves_of_bracket {part : Part} {kind : TokenKind} (token : part.isToken = true)
    (same : part.kind = kind)
    (bracket : kind ∈ [.scopeStart, .scopeStop, .indexStart, .indexStop, .separator]) :
    part.leaves = [] := by
  simp only [List.mem_cons, List.not_mem_nil, or_false] at bracket
  rcases bracket with rfl | rfl | rfl | rfl | rfl <;>
  · rw [eq_text_of_isToken token same rfl]
    rfl

/-- A part among operators: a token or what an analysis came to. -/
def Genuine (part : Part) : Prop :=
  part.isToken = true ∨ ∃ analyzed, part = .ofAnalysis analyzed

theorem operandLeaves_eq {part : Part} (genuine : part.Genuine) (operand : part.isOperand = true) :
    operandLeaves (some part) = part.leaves := by
  rcases genuine with token | ⟨analyzed, rfl⟩
  · cases part with
    | literal => rfl
    | text kind spelling =>
      have literal : kind.isLiteral = true := operand
      rw [isToken, literal] at token
      cases token
    | expression => cases token
    | empty => cases token
  · cases analyzed <;> rfl

theorem leaves_of_value {part : Part} {expression : Expression} (genuine : part.Genuine)
    (operand : part.isOperand = true) (value : part.value? = some expression) :
    expression.leaves = part.leaves := by
  rcases genuine with token | ⟨analyzed, rfl⟩
  · cases part with
    | literal kind held =>
      cases value
      rfl
    | text kind spelling =>
      have literal : kind.isLiteral = true := operand
      rw [isToken, literal] at token
      cases token
    | expression => cases token
    | empty => cases token
  · rw [value_ofAnalysis] at value
    rw [value]
    rfl

end Part

theorem Phrase.leaves {top tier : Nat} {items : List Part} {part : Part}
    (phrase : Phrase top tier items part) (genuine : ∀ item ∈ items, item.Genuine) :
    part.Genuine ∧ part.leaves = items.flatMap Part.leaves := by
  have operator : ∀ {item : Part} {tier : Nat}, item.Genuine → item.kind.precedence? = some tier →
      item.leaves = [.operator ⟨item.kind, item.render⟩] := by
    intro item tier genuine tiered
    rcases genuine with token | ⟨analyzed, rfl⟩
    · exact Part.leaves_of_isOperator token (Option.isSome_of_eq_some tiered)
    · rw [Part.precedence_of_isOperand (Part.isOperand_ofAnalysis analyzed)] at tiered
      cases tiered
  induction phrase with
  | @operand part _ =>
    exact ⟨genuine part List.mem_cons_self, by simp⟩
  | tighter _ _ ih => exact ih genuine
  | leftward _ _ tiered lefts rights ihLeft ihRight
  | rightward _ _ tiered lefts rights ihLeft ihRight =>
    obtain ⟨leftGenuine, others⟩ := List.forall_mem_append.mp genuine
    obtain ⟨operatorGenuine, rightGenuine⟩ := List.forall_mem_cons.mp others
    obtain ⟨leftPart, leftLeaves⟩ := ihLeft leftGenuine
    obtain ⟨rightPart, rightLeaves⟩ := ihRight rightGenuine
    refine ⟨.inr ⟨some _, rfl⟩, ?_⟩
    rw [List.flatMap_append, List.flatMap_cons, operator operatorGenuine tiered, ← leftLeaves,
      ← rightLeaves, ← Part.operandLeaves_eq leftPart lefts.isOperand,
      ← Part.operandLeaves_eq rightPart rights.isOperand]
    rfl
  | @negation _ sign _ _ negates rights ih =>
    obtain ⟨operatorGenuine, rightGenuine⟩ := List.forall_mem_cons.mp genuine
    obtain ⟨rightPart, rightLeaves⟩ := ih rightGenuine
    have tiered : sign.kind.precedence? = some 9 := by rw [negates]; rfl
    refine ⟨.inr ⟨some _, rfl⟩, ?_⟩
    rw [List.flatMap_cons, operator operatorGenuine tiered, ← rightLeaves,
      ← Part.operandLeaves_eq rightPart rights.isOperand]
    rfl
  | @counting _ _ sign _ counts lefts ih =>
    obtain ⟨leftGenuine, others⟩ := List.forall_mem_append.mp genuine
    obtain ⟨leftPart, leftLeaves⟩ := ih leftGenuine
    have tiered : sign.kind.precedence? = some 9 := by
      rcases counts with same | same <;> rw [same] <;> rfl
    refine ⟨.inr ⟨some _, rfl⟩, ?_⟩
    rw [List.flatMap_append, List.flatMap_singleton,
      operator (others sign List.mem_cons_self) tiered, ← leftLeaves,
      ← Part.operandLeaves_eq leftPart lefts.isOperand]
    rfl

/-- The kinds of brackets that belong together. -/
def TokenKind.Pair (start stop : TokenKind) : Prop :=
  start = .scopeStart ∧ stop = .scopeStop ∨ start = .indexStart ∧ stop = .indexStop

theorem flatMap_brackets {start stop : TokenKind} {opening closing : Part} (parts : List Part)
    (pair : TokenKind.Pair start stop) (opens : opening.kind = start) (closes : closing.kind = stop)
    (tokens : ∀ part ∈ opening :: parts ++ [closing], part.isToken = true) :
    (opening :: parts ++ [closing]).flatMap Part.leaves = parts.flatMap Part.leaves ∧
      ∀ part ∈ parts, part.isToken = true := by
  obtain ⟨front, back⟩ := List.forall_mem_append.mp tokens
  obtain ⟨first, inside⟩ := List.forall_mem_cons.mp front
  refine ⟨?_, inside⟩
  have last := back closing List.mem_cons_self
  rw [List.flatMap_append, List.flatMap_cons, List.flatMap_singleton,
    Part.leaves_of_bracket first opens, Part.leaves_of_bracket last closes]
  · simp
  · rcases pair with ⟨-, rfl⟩ | ⟨-, rfl⟩ <;> simp
  · rcases pair with ⟨rfl, -⟩ | ⟨rfl, -⟩ <;> simp

mutual

theorem Derives.leaves {parts : List Part} {expression : Expression} :
    Derives parts expression → (∀ part ∈ parts, part.isToken = true) →
      expression.leaves = parts.flatMap Part.leaves
  | @Derives.phrase _ items operand _ sequence phrase value => by
    intro tokens
    obtain ⟨genuine, same⟩ := Sequence.leaves sequence tokens
    obtain ⟨part, leaves⟩ := phrase.leaves genuine
    rw [Part.leaves_of_value part phrase.isOperand value, leaves, same]

theorem Sequence.leaves {parts items : List Part} :
    Sequence parts items → (∀ part ∈ parts, part.isToken = true) →
      (∀ item ∈ items, item.Genuine) ∧ items.flatMap Part.leaves = parts.flatMap Part.leaves
  | .nil => by
    intro tokens
    exact ⟨by simp, rfl⟩
  | .plain stays sequence => by
    intro tokens
    obtain ⟨token, others⟩ := List.forall_mem_cons.mp tokens
    obtain ⟨genuine, same⟩ := Sequence.leaves sequence others
    refine ⟨List.forall_mem_cons.mpr ⟨.inl token, genuine⟩, ?_⟩
    rw [List.flatMap_cons, List.flatMap_cons, same]
  | .atom begins sequence => by
    intro tokens
    obtain ⟨block, others⟩ := List.forall_mem_append.mp tokens
    obtain ⟨genuine, same⟩ := Sequence.leaves sequence others
    refine ⟨List.forall_mem_cons.mpr ⟨.inr begins.analyzed, genuine⟩, ?_⟩
    rw [List.flatMap_cons, List.flatMap_append, same, Atom.leaves begins block]

theorem Atom.leaves {block : List Part} {item : Part} :
    Atom block item → (∀ part ∈ block, part.isToken = true) →
      item.leaves = block.flatMap Part.leaves
  | @Atom.unit opening closing opens closes => by
    intro tokens
    have same := flatMap_brackets [] (.inl ⟨rfl, rfl⟩) opens closes tokens
    exact same.1.symm
  | .scope opens closes derives => by
    intro tokens
    obtain ⟨same, inside⟩ := flatMap_brackets _ (.inl ⟨rfl, rfl⟩) opens closes tokens
    rw [same]
    exact Derives.leaves derives inside
  | @Atom.array _ values listed => by
    intro tokens
    rw [← Listed.leaves listed (.inr ⟨rfl, rfl⟩) tokens, Expression.allLeaves_map_literal]
    rfl
  | .list listed mixed => by
    intro tokens
    rw [← Listed.leaves listed (.inr ⟨rfl, rfl⟩) tokens]
    rfl
  | .call called => by
    intro tokens
    exact Call.leaves called tokens
  | .path walked => by
    intro tokens
    exact Path.leaves walked tokens

theorem Call.leaves {parts : List Part} {target : Target} {arguments : List Expression} :
    Call parts target arguments → (∀ part ∈ parts, part.isToken = true) →
      target.leaves ++ Expression.allLeaves arguments = parts.flatMap Part.leaves
  | .method listed => by
    intro tokens
    rw [Listed.leaves listed (.inl ⟨rfl, rfl⟩) (List.forall_mem_cons.mp tokens).2]
    rfl
  | .again called listed => by
    intro tokens
    obtain ⟨callee, brackets⟩ := List.forall_mem_append.mp tokens
    rw [List.flatMap_append, ← Call.leaves called callee,
      Listed.leaves listed (.inl ⟨rfl, rfl⟩) brackets]
    rfl
  | .ofPath walked listed => by
    intro tokens
    obtain ⟨callee, brackets⟩ := List.forall_mem_append.mp tokens
    rw [List.flatMap_append, ← Path.leaves walked callee,
      Listed.leaves listed (.inl ⟨rfl, rfl⟩) brackets]
    rfl

theorem Path.leaves {parts : List Part} {segments : List Segment} :
    Path parts segments → (∀ part ∈ parts, part.isToken = true) →
      Segment.allLeaves segments = parts.flatMap Part.leaves
  | @Path.start lexeme => by
    intro tokens
    rw [List.flatMap_singleton]
    rfl
  | .after atom => by
    intro tokens
    obtain ⟨block, -⟩ := List.forall_mem_append.mp tokens
    rw [List.flatMap_append, ← Atom.leaves atom block, List.flatMap_singleton]
    rfl
  | .name walked => by
    intro tokens
    obtain ⟨front, -⟩ := List.forall_mem_append.mp tokens
    rw [List.flatMap_append, ← Path.leaves walked front, List.flatMap_singleton,
      Segment.allLeaves_append]
    rfl
  | .index walked opens closes derives => by
    intro tokens
    rw [List.append_assoc] at tokens ⊢
    obtain ⟨front, brackets⟩ := List.forall_mem_append.mp tokens
    obtain ⟨same, inside⟩ := flatMap_brackets _ (.inr ⟨rfl, rfl⟩) opens closes brackets
    rw [List.flatMap_append, same, ← Path.leaves walked front, ← Derives.leaves derives inside,
      Segment.allLeaves_append]
    simp [Segment.allLeaves]

theorem Listed.leaves {start stop : TokenKind} {parts : List Part} {expressions : List Expression} :
    Listed start stop parts expressions → TokenKind.Pair start stop →
      (∀ part ∈ parts, part.isToken = true) →
      Expression.allLeaves expressions = parts.flatMap Part.leaves
  | .empty opens closes => by
    intro pair tokens
    have same := flatMap_brackets [] pair opens closes tokens
    exact same.1.symm
  | .elements opens closes elements => by
    intro pair tokens
    obtain ⟨same, inside⟩ := flatMap_brackets _ pair opens closes tokens
    rw [same]
    exact Elements.leaves elements inside

theorem Elements.leaves {parts : List Part} {expressions : List Expression} :
    Elements parts expressions → (∀ part ∈ parts, part.isToken = true) →
      Expression.allLeaves expressions = parts.flatMap Part.leaves
  | .single derives => by
    intro tokens
    rw [← Derives.leaves derives tokens]
    simp [Expression.allLeaves]
  | .cons derives separates elements => by
    intro tokens
    obtain ⟨first, others⟩ := List.forall_mem_append.mp tokens
    obtain ⟨token, rest⟩ := List.forall_mem_cons.mp others
    rw [List.flatMap_append, List.flatMap_cons, ← Derives.leaves derives first,
      ← Elements.leaves elements rest, Part.leaves_of_bracket token separates (by simp)]
    rfl

end

/-- An accepted text that came to a single expression has the leaves of its parts, each once and in
order; its expression is then the one that the grammar generates from them. -/
theorem leaves_of_accepted {options : ParserOptions} {text : String} {parts : List Part}
    {expression : Expression} (accepted : Accepted options text parts expression) :
    (Analysis.Single parts ↔ Derives parts expression) ∧
      (Analysis.Single parts → expression.leaves = parts.flatMap Part.leaves) := by
  refine ⟨accepted.single_iff_derives, ?_⟩
  intro single
  exact (accepted.single_iff_derives.mp single).leaves accepted.isToken

theorem leaves_of_nested_call : ∃ parts expression,
    Accepted {} "max(a/b[1], [x, 2]) * (-3 + y)" parts expression ∧
      expression.leaves = parts.flatMap Part.leaves := by
  obtain ⟨parts, expression, accepted, single⟩ := Accepted.of_passes
    {} "max(a/b[1], [x, 2]) * (-3 + y)"
    (fun parts _ => decide (Analysis.Single parts)) (by decide +kernel)
  exact ⟨parts, expression, accepted, (leaves_of_accepted accepted).2 (of_decide_eq_true single)⟩

/-- After a scope that takes away a number instead of its parenthesis, that number is lost and
others are read more than once. -/
theorem leaves_ne_of_stray_scope : ∃ parts expression,
    Accepted {} "((1, 2) 5, + 3, + 4, + 6)" parts expression ∧
      expression.leaves ≠ parts.flatMap Part.leaves := by
  obtain ⟨parts, expression, accepted, differs⟩ := Accepted.of_passes
    {} "((1, 2) 5, + 3, + 4, + 6)"
    (fun parts expression => expression.leaves.length != (parts.flatMap Part.leaves).length)
    (by decide +kernel)
  refine ⟨parts, expression, accepted, ?_⟩
  intro same
  rw [same] at differs
  simp at differs

end PathQuery
