import PathQuery.Proofs.Analysis.Ranges

/-!
Lists of literals and operators, without brackets, separators and names. Nothing in them is put
together before the operators are, so the analysis accepts exactly the operator expressions. Main
statement: `analyze_iff_phrase`.
-/

namespace PathQuery

/-- Whether a part is a literal or an operator, as they come from a text. -/
def Part.isTerm : Part → Bool
  | .literal kind _ => kind.isLiteral
  | .text kind _ => kind.isOperator
  | .expression .. | .empty _ => false

namespace Part

variable {part : Part}

theorem isToken_of_isTerm (term : part.isTerm = true) : part.isToken = true := by
  cases part with
  | literal kind value => exact term
  | text kind text =>
    revert term
    cases kind <;> simp [isTerm, isToken, TokenKind.isOperator, TokenKind.precedence?,
      TokenKind.isLiteral]
  | expression | empty => cases term

theorem kind_of_isTerm (term : part.isTerm = true) :
    part.kind.isLiteral = true ∨ part.kind.isOperator = true := by
  cases part with
  | literal kind value => exact .inl term
  | text kind text => exact .inr term
  | expression | empty => cases term

theorem isStructural_of_isTerm (term : part.isTerm = true) : part.kind.isStructural = false := by
  have known := kind_of_isTerm term
  revert known
  cases part.kind <;> simp [TokenKind.isStructural, TokenKind.isLiteral, TokenKind.isOperator,
    TokenKind.precedence?]

theorem isPlain_of_isTerm (term : part.isTerm = true) : part.isPlain = true := by
  simp [isPlain, isToken_of_isTerm term, isStructural_of_isTerm term]

theorem kind_ne_of_isTerm {kind : TokenKind} (term : part.isTerm = true)
    (structural : kind.isStructural = true) : part.kind ≠ kind := by
  rintro rfl
  rw [isStructural_of_isTerm term] at structural
  cases structural

theorem proper_of_isTerm (term : part.isTerm = true) : part.Proper := by
  refine .token (isToken_of_isTerm term) fun lexeme path => ?_
  rw [path] at term
  cases term

theorem parenthesis_of_isTerm (term : part.isTerm = true) : part.kind.parenthesis = 0 := by
  have opens : part.kind ≠ .scopeStart := kind_ne_of_isTerm term rfl
  have closes : part.kind ≠ .scopeStop := kind_ne_of_isTerm term rfl
  revert opens closes
  cases part.kind <;> simp [TokenKind.parenthesis]

end Part

/-- Every atom has a bracket or a name in it. -/
theorem Atom.exists_isStructural {block : List Part} {item : Part} (atom : Atom block item) :
    ∃ part ∈ block, part.kind.isStructural = true := by
  have listed : ∀ {start stop parts expressions}, Listed start stop parts expressions →
      start.isStructural = true → ∃ part ∈ parts, part.kind.isStructural = true := by
    intro start stop parts expressions listed structural
    obtain ⟨opening, others, rfl, rfl⟩ := listed.opening
    exact ⟨opening, by simp, structural⟩
  cases atom with
  | unit opens | scope opens =>
    refine ⟨_, List.mem_cons_self, ?_⟩
    rw [opens]
    rfl
  | array elements | list elements => exact listed elements rfl
  | call call =>
    cases call with
    | method => exact ⟨_, List.mem_cons_self, rfl⟩
    | again _ others | ofPath _ others =>
      obtain ⟨part, member, structural⟩ := listed others rfl
      exact ⟨part, List.mem_append_right _ member, structural⟩
  | path path =>
    cases path with
    | start => exact ⟨_, List.mem_cons_self, rfl⟩
    | after | name => exact ⟨_, List.mem_append_right _ List.mem_cons_self, rfl⟩
    | index _ opens =>
      refine ⟨_, List.mem_append_left _ (List.mem_append_right _ List.mem_cons_self), ?_⟩
      rw [opens]
      rfl

/-- Terms are their own items. -/
theorem Sequence.eq_of_isTerm {parts items : List Part} (sequence : Sequence parts items)
    (terms : ∀ part ∈ parts, part.isTerm = true) : items = parts := by
  induction parts generalizing items with
  | nil =>
    generalize nothing : ([] : List Part) = parts at sequence
    cases sequence with
    | nil => rfl
    | plain => cases nothing
    | atom atom =>
      obtain ⟨part, member, -⟩ := atom.exists_isStructural
      rw [(List.append_eq_nil_iff.mp nothing.symm).1] at member
      cases member
  | cons first parts ih =>
    generalize whole : first :: parts = all at sequence terms
    cases sequence with
    | nil => cases whole
    | plain _ others =>
      obtain ⟨rfl, rfl⟩ := List.cons.inj whole
      rw [ih others fun part member => terms part (List.mem_cons_of_mem _ member)]
    | atom atom =>
      obtain ⟨part, member, structural⟩ := atom.exists_isStructural
      rw [Part.isStructural_of_isTerm (terms part (List.mem_append_left _ member))] at structural
      cases structural

variable {parts : List Part} (terms : ∀ part ∈ parts, part.isTerm = true)

include terms

theorem sequence_of_isTerm : Sequence parts parts := by
  induction parts with
  | nil => exact .nil
  | cons part parts ih =>
    obtain ⟨term, others⟩ := List.forall_mem_cons.mp terms
    exact .plain (Part.isPlain_of_isTerm term) (ih others)

theorem derives_iff_phrase {expression : Expression} : Derives parts expression ↔
    ∃ operand, Phrase (maxTier + 1) 0 parts operand ∧ operand.value? = some expression := by
  constructor
  · rintro ⟨sequence, phrase, value⟩
    rw [sequence.eq_of_isTerm terms] at phrase
    exact ⟨_, phrase, value⟩
  · rintro ⟨operand, phrase, value⟩
    exact .phrase (sequence_of_isTerm terms) phrase value

theorem elements_iff_derives {values : List Expression} :
    Elements parts values ↔ ∃ expression, values = [expression] ∧ Derives parts expression := by
  constructor
  · intro elements
    cases elements with
    | single derives => exact ⟨_, rfl, derives⟩
    | @cons _ _ separator _ _ _ separates _ =>
      have other : separator.kind ≠ .separator :=
        Part.kind_ne_of_isTerm (terms _ (List.mem_append_right _ List.mem_cons_self)) rfl
      exact absurd separates other
  · rintro ⟨expression, rfl, derives⟩
    exact .single derives

namespace Analysis

/-- What is asked of the part after a bracket or a name holds, as there is none. -/
theorem isChain_of_isTerm {kind : TokenKind} {asks : Part → Prop}
    (structural : kind.isStructural = true) :
    parts.IsChain fun part next => part.kind = kind → asks next := by
  rw [List.isChain_iff_forall_rel_of_append_cons_cons]
  rintro part next front behind rfl same
  exact absurd same (Part.kind_ne_of_isTerm (terms part (by simp)) structural)

theorem tokens_of_isTerm : Tokens parts := by
  refine ⟨⟨fun part member => .inl ?_, isChain_of_isTerm terms rfl⟩, fun part member => ⟨?_, ?_⟩⟩
  · exact Part.isToken_of_isTerm (terms part member)
  · exact Part.isToken_of_isTerm (terms part member)
  · exact Part.proper_of_isTerm (terms part member)

theorem surplus_of_isTerm : surplus parts = 0 := by
  induction parts with
  | nil => rfl
  | cons part parts ih =>
    obtain ⟨term, others⟩ := List.forall_mem_cons.mp terms
    rw [surplus_cons, Part.parenthesis_of_isTerm term, ih others]
    rfl

/-- Literals and operators are accepted exactly when they are an operator expression, and then come
to its tree. -/
theorem analyze_iff_phrase {expression : Expression} : analyze parts = .ok expression ↔
    ∃ operand, Phrase (maxTier + 1) 0 parts operand ∧ operand.value? = some expression := by
  have free : Free parts := isChain_of_isTerm terms rfl
  rw [analyze_iff_elements (tokens_of_isTerm terms) free (surplus_of_isTerm terms),
    ← derives_iff_phrase terms]
  simp only [elements_iff_derives terms]
  constructor
  · rintro ⟨_, ⟨value, rfl, derives⟩, rfl⟩
    exact derives
  · intro derives
    exact ⟨[expression], ⟨expression, rfl, derives⟩, rfl⟩

omit terms in
/-- `! 1 ++ - 1 - 1` is the difference of a difference, and `1 1` is no expression. -/
theorem analyze_of_phrase_difference :
    let one := Part.literal .integerLiteral (.integer 1)
    let negated := Part.applied none (.text .not "!") (some one)
    let counted := Part.applied (some negated) (.text .increase "++") none
    let difference := Part.applied (some counted) (.text .subtract "-") (some one)
    let parts := [.text .not "!", one, .text .increase "++", .text .subtract "-", one,
      .text .subtract "-", one]
    (∀ part ∈ parts, part.isTerm = true) ∧
      analyze parts = .ok (.operation (some difference) ⟨.subtract, "-"⟩ (some one)) ∧
      (∀ part ∈ [one, one], part.isTerm = true) ∧
      ∀ expression, analyze [one, one] ≠ .ok expression := by
  intro one negated counted difference parts
  have terms : ∀ part ∈ parts, part.isTerm = true := List.all_eq_true.mp rfl
  have pair : ∀ part ∈ [one, one], part.isTerm = true := List.all_eq_true.mp rfl
  have operand : ∀ tier ≤ maxTier + 1, Phrase (maxTier + 1) tier [one] one :=
    fun tier bound => .of_isOperand rfl bound
  have first : Phrase (maxTier + 1) 9 ([.text .not "!", one] ++ [.text .increase "++"]) counted :=
    .counting (by decide) (.inl rfl) (.negation (by decide) rfl (operand 10 (by decide)))
  have second : Phrase (maxTier + 1) 6 (_ ++ .text .subtract "-" :: [one]) difference :=
    .leftward (by decide) (by decide) rfl (first.loosen (by decide)) (operand 7 (by decide))
  have whole : Phrase (maxTier + 1) 6 (_ ++ .text .subtract "-" :: [one]) _ :=
    .leftward (by decide) (by decide) rfl second (operand 7 (by decide))
  refine ⟨terms, (analyze_iff_phrase terms).mpr ⟨_, whole.loosen (by decide), rfl⟩, pair, ?_⟩
  intro expression analyzed
  obtain ⟨_, phrase, -⟩ := (analyze_iff_phrase pair).mp analyzed
  -- an operand would have to be followed by an operator
  have apart := (List.isChain_cons_cons.mp phrase.isChain).1 rfl
  cases apart

end Analysis

end PathQuery
