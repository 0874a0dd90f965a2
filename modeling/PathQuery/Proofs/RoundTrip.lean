import PathQuery.Proofs.Analysis.Ranges
import PathQuery.Proofs.Enclosure
import PathQuery.Proofs.Legible
import PathQuery.Proofs.Lexing.Identifiers
import PathQuery.Proofs.Lexing.Numbers

/-!
The source text of an operator expression is parsed as the expression again. The text is read as
tokens, by `Legible`, and the tokens are put together as they were taken apart, by `Phrase`. Main
statement: `parse_text`.
-/

namespace PathQuery

/-- The literals and names that operators are applied to. Integers of 64 bits are beyond 32 bits. -/
inductive Primary : Part → Prop
  | null : Primary (.literal .nullLiteral .null)
  | true : Primary (.literal .trueLiteral (.boolean true))
  | false : Primary (.literal .falseLiteral (.boolean false))
  | string (text : String) : Primary (.literal .stringLiteral (.string text))
  | integer (n : Int32) : Primary (.literal .integerLiteral (.integer n))
  | long {n : Int64} : Number.int32? n.toInt = none → Primary (.literal .integerLiteral (.long n))
  | bigInteger (n : Int) : Primary (.literal .integerLiteral (.bigInteger n))
  | name {name : String} : isIdentifier name = true →
      Primary (.expression .expression (.path [.name name]))

namespace Part

/-- The operator that is applied last. -/
def operator? : Part → Option Operator
  | expression _ (.operation _ operator _) => some operator
  | _ => none

/-- The tier of a part; what is no operation binds tighter than all operators. -/
def tier (part : Part) : Nat :=
  (part.operator?.map Operator.tier).getD (maxTier + 1)

end Part

/-- Operator expressions over primary ones. Their operators have the operands that they take. In the
tiers that associate to the right no operation is the left operand of one of its tier. -/
inductive Classic : Part → Prop
  | primary {part : Part} : Primary part → Classic part
  | operation {left right : Option Part} {operator : Operator} : operator.Written →
      left.isSome = operator.kind.takesLeft → right.isSome = operator.kind.takesRight →
      (∀ part, left = some part → Classic part) → (∀ part, right = some part → Classic part) →
      (operator.tier ∈ [0, 1, 3] → ∀ part, left = some part → part.tier ≠ operator.tier) →
      Classic (.expression .expression (.operation left operator right))

/-- A text as it is read: its tokens, the items that they are among operators, and the part that
these come to. -/
structure Printed (text : List Char) (tier : Nat) (part : Part) (tokens items : List Part) :
    Prop where
  legible : Legible text tokens
  sequence : Sequence tokens items
  phrase : Phrase (maxTier + 1) tier items part
  ended : ∃ last, tokens.getLast? = some last ∧
    (tier ≠ 9 → (last.kind.isOperator || last.kind.opensRange) = false)

/-- Whether the source text of a part is read as the part. -/
def Part.Printable (part : Part) : Prop :=
  ∃ tokens items, Printed part.render.toList part.tier part tokens items

section Primaries

theorem legible_number {mark : List Char} (marked : mark = [] ∨ mark = ['b']) (n : Int) :
    Legible (Number.integerChars n ++ mark)
      [.literal .integerLiteral (PlacedPart.valueOf mark n)] := by
  have number := PlacedPart.number_of_digits marked n
  have digit := Number.isDigit_of_mem_digits n.natAbs
  have lexed := Token.lexed_integer Nat.toDigits_ne_nil digit (marked.imp_right .inl)
  have unsigned : (Nat.toDigits 10 n.natAbs ++ mark).head? ≠ some '-' := by
    obtain ⟨first, digits, split⟩ := List.exists_cons_of_ne_nil (@Nat.toDigits_ne_nil n.natAbs 10)
    rw [split]
    rintro ⟨⟩
    have numeric := digit '-' (by simp [split])
    cases numeric
  have legible := legible_signed (.inl rfl) lexed unsigned number
  unfold Number.integerChars
  by_cases negative : n < 0
  · rw [if_pos negative]
    rwa [if_pos (decide_eq_true negative)] at legible
  · rw [if_neg negative]
    rwa [if_neg (by simpa using negative)] at legible

theorem legible_literal {word : List Char} {kind : TokenKind} {value : Value}
    (lexed : Lexed kind word)
    (listed : (kind, value) ∈ [(.stringLiteral, .string (PlacedPart.unquote word)),
      (.trueLiteral, .boolean true), (.falseLiteral, .boolean false), (.nullLiteral, .null)]) :
    Legible word [.literal kind value] :=
  legible_word lexed fun _ => add_literal listed (lexed.identified false fun _ => rfl)

theorem isPlain_literal {kind : TokenKind} (value : Value) (literal : kind.isLiteral = true) :
    (Part.literal kind value).isPlain = true := by
  cases kind <;> simp_all [Part.isPlain, Part.isToken, TokenKind.isLiteral,
    TokenKind.isStructural, Part.kind]

theorem printed_literal {word : List Char} {kind : TokenKind} {value : Value}
    (legible : Legible word [.literal kind value]) (literal : kind.isLiteral = true) :
    Printed word (maxTier + 1) (.literal kind value) [.literal kind value]
      [.literal kind value] := by
  have operand : (Part.literal kind value).isOperand = true := literal
  have closed : kind.opensRange = false := by
    cases kind <;> simp_all [TokenKind.isLiteral, TokenKind.opensRange]
  refine ⟨legible, .plain (isPlain_literal value literal) .nil, .operand operand,
    .literal kind value, rfl, fun _ => ?_⟩
  rw [Part.isOperator_of_isOperand operand]
  exact closed

theorem names_of_identifier {name : String} (identifies : isIdentifier name = true) :
    Segment.names name = [.name name] := by
  have apart : '/' ∉ name.toList := by
    intro member
    have plain := Token.isNameChar_of_identifier identifies '/' member
    cases plain
  obtain ⟨c, others, split, -⟩ := (Token.isIdentifier_iff.mp identifies).1
  rw [Segment.names, List.splitOn_eq_singleton apart, split]
  simp [← split]

theorem printable_primary {part : Part} (primary : Primary part) : part.Printable := by
  cases primary with
  | null => exact ⟨_, _, printed_literal (legible_literal Token.lexed_null (by simp)) rfl⟩
  | true => exact ⟨_, _, printed_literal (legible_literal Token.lexed_true (by simp)) rfl⟩
  | false => exact ⟨_, _, printed_literal (legible_literal Token.lexed_false (by simp)) rfl⟩
  | string text =>
    have legible := legible_literal (Value.lexed_quote text) List.mem_cons_self
    rw [Value.unquote_quote] at legible
    exact ⟨_, _, printed_literal legible rfl⟩
  | integer n =>
    have legible := legible_number (.inl rfl) n.toInt
    rw [PlacedPart.valueOf_integer, List.append_nil] at legible
    refine ⟨_, _, printed_literal ?_ rfl⟩
    simpa [Part.render, Value.literal, Value.print, Number.integerText] using legible
  | @long n wide =>
    have legible := legible_number (.inl rfl) n.toInt
    rw [PlacedPart.valueOf_long wide, List.append_nil] at legible
    refine ⟨_, _, printed_literal ?_ rfl⟩
    simpa [Part.render, Value.literal, Value.print, Number.integerText] using legible
  | bigInteger n =>
    have legible := legible_number (.inr rfl) n
    refine ⟨_, _, printed_literal ?_ rfl⟩
    simpa [Part.render, Value.literal, Value.print, Number.integerText] using legible
  | @name name identifies =>
    have lexed := Token.lexed_identifier identifies
    have atom := Atom.path (@Path.start name)
    rw [names_of_identifier identifies] at atom
    have legible : Legible name.toList [.text .path name] := by
      refine legible_word lexed @fun below _ => ?_
      have added := @add_text false false below _ _ (lexed.identified false fun _ => rfl) rfl
      rwa [String.ofList_toList] at added
    refine ⟨_, _, ?_, by simpa using Sequence.atom atom .nil, .operand rfl, _, rfl, fun _ => rfl⟩
    simpa [Part.render, Expression.text, Segment.pathText] using legible

end Primaries

namespace Operator

variable {operator outer inner : Operator}

theorem Written.precedence (written : operator.Written) :
    operator.kind.precedence? = some operator.tier := by
  obtain ⟨tier, found⟩ := Option.isSome_iff_exists.mp written.operates
  rw [Operator.tier, found]
  rfl

theorem Written.isPlain (written : operator.Written) : operator.part.isPlain = true := by
  have operates := written.operates
  obtain ⟨kind, spelling⟩ := operator
  cases kind <;> simp_all [TokenKind.isOperator, TokenKind.precedence?, Part.isPlain, Part.isToken,
    TokenKind.isLiteral, TokenKind.isStructural, Part.kind, part]

theorem tier_cases (written : operator.Written) :
    (operator.tier ∈ [2, 4, 5, 6, 7, 8, 10] ∨ operator.tier ∈ [0, 1, 3]) ∧
        operator.kind.takesLeft = true ∧ operator.kind.takesRight = true ∨
      operator.kind = .not ∧ operator.tier = 9 ∨
      (operator.kind = .increase ∨ operator.kind = .decrease) ∧ operator.tier = 9 := by
  have operates := written.operates
  obtain ⟨kind, spelling⟩ := operator
  cases kind <;> simp_all [TokenKind.isOperator, TokenKind.precedence?, Operator.tier,
    TokenKind.takesLeft, TokenKind.takesRight]

theorem isRightTier_iff (tier : Nat) : isRightTier tier = true ↔ tier ∈ [0, 1, 3] := by
  simp [isRightTier, TokenKind.precedence?]
  omega

theorem parenthesized_iff {leading : Bool} (written : outer.Written) (within : inner.Written) :
    parenthesized outer inner leading = true ↔
      outer.tier ≠ inner.tier ∨ leading = false ∧ inner.tier ∉ [0, 1, 3] := by
  have right : isRightTier inner.tier = false ↔ inner.tier ∉ [0, 1, 3] := by
    rw [Bool.eq_false_iff, Ne, isRightTier_iff]
  rw [← right]
  simp [parenthesized, written.unnamed, within.unnamed]

end Operator

/-- The tier of a part as an operand. In parentheses a part binds tighter than all operators. -/
def Part.operandTier (outer : Operator) (leading : Bool) (part : Part) : Nat :=
  match part.operator? with
  | some inner => if parenthesized outer inner leading then maxTier + 1 else inner.tier
  | none => maxTier + 1

section Operands

variable {text : List Char} {tier : Nat} {part : Part} {tokens items : List Part}
  {outer operator : Operator}

theorem Printed.scope {expression : Expression}
    (printed : Printed text tier (.expression .expression expression) tokens items) :
    Printed ('(' :: (text ++ [')'])) (maxTier + 1) (.expression .expression expression)
      (.text .scopeStart "(" :: (tokens ++ [.text .scopeStop ")"]))
      [.expression .expression expression] := by
  have derives := Derives.phrase printed.sequence (printed.phrase.loosen (Nat.zero_le tier)) rfl
  have atom := @Atom.scope tokens (.text .scopeStart "(") (.text .scopeStop ")") expression rfl rfl
    derives
  have sequence := Sequence.atom atom .nil
  rw [List.append_nil] at sequence
  exact ⟨legible_scope printed.legible, sequence, .operand rfl, .text .scopeStop ")",
    List.getLast?_eq_some_iff.mpr ⟨_ :: tokens, rfl⟩, fun _ => rfl⟩

theorem operandText_eq (outer : Operator) (leading : Bool) (part : Part) :
    part.operandText outer leading =
      if part.operator?.any (parenthesized outer · leading) then "(" ++ part.render ++ ")"
      else part.render := by
  cases part with
  | literal | text | empty => rfl
  | expression kind expression => cases expression <;> rfl

theorem Classic.of_operator (classic : Classic part) (applies : part.operator? = some operator) :
    operator.Written ∧ ∃ expression, part = .expression .expression expression := by
  cases classic with
  | primary primary => cases primary <;> cases applies
  | operation written =>
    cases applies
    exact ⟨written, _, rfl⟩

theorem Part.Printable.operand (printable : part.Printable)
    (classic : Classic part) (outer : Operator) (leading : Bool) : ∃ tokens items,
      Printed (part.operandText outer leading).toList (part.operandTier outer leading) part tokens
        items := by
  obtain ⟨tokens, items, printed⟩ := printable
  rw [operandText_eq, Part.operandTier]
  cases applies : part.operator? with
  | none =>
    rw [Part.tier, applies] at printed
    exact ⟨tokens, items, printed⟩
  | some inner =>
    simp only [Option.any_some]
    split
    · obtain ⟨-, expression, rfl⟩ := classic.of_operator applies
      rw [String.toList_append, String.toList_append]
      exact ⟨_, _, printed.scope⟩
    · rw [Part.tier, applies] at printed
      exact ⟨tokens, items, printed⟩

/-- An operand without parentheses is of the tier of its operator, and stands where operations of
this tier are put together first. -/
theorem operandTier_cases (written : outer.Written) (classic : Classic part) (leading : Bool) :
    part.operandTier outer leading = maxTier + 1 ∨
      part.operandTier outer leading = outer.tier ∧ part.tier = outer.tier ∧
        (leading = true ∨ outer.tier ∈ [0, 1, 3]) := by
  unfold Part.operandTier Part.tier
  cases applies : part.operator? with
  | none => exact .inl rfl
  | some inner =>
    have within := (classic.of_operator applies).1
    by_cases parentheses : parenthesized outer inner leading = true
    · exact .inl (if_pos parentheses)
    · refine .inr ?_
      simp only [parentheses, Bool.false_eq_true, if_false, Option.map_some, Option.getD_some]
      rw [Operator.parenthesized_iff written within, not_or, not_not] at parentheses
      obtain ⟨same, free⟩ := parentheses
      rw [same]
      refine ⟨rfl, rfl, ?_⟩
      cases leading with
      | true => exact .inl rfl
      | false => exact .inr (not_not.mp fun other => free ⟨rfl, other⟩)

end Operands

section Operations

variable {left right : Part} {operator : Operator}

theorem Part.tier_operation (left right : Option Part) :
    (Part.expression .expression (.operation left operator right)).tier = operator.tier := rfl

/-- In a tier that associates to the left the left operand may be of the tier as well, and in one
that associates to the right the right operand. -/
theorem phrase_infix {lefts rights : List Part} (written : operator.Written)
    (classicLeft : Classic left) (classicRight : Classic right)
    (apart : operator.tier ∈ [0, 1, 3] → left.tier ≠ operator.tier)
    (tiers : operator.tier ∈ [2, 4, 5, 6, 7, 8, 10] ∨ operator.tier ∈ [0, 1, 3])
    (phraseLeft : Phrase (maxTier + 1) (left.operandTier operator true) lefts left)
    (phraseRight : Phrase (maxTier + 1) (right.operandTier operator false) rights right) :
    Phrase (maxTier + 1) operator.tier (lefts ++ operator.part :: rights)
      (.expression .expression (.operation (some left) operator (some right))) := by
  have precedence := written.precedence
  have within : operator.tier < maxTier + 1 := by
    simp only [List.mem_cons, List.not_mem_nil, or_false, maxTier] at tiers ⊢
    omega
  have casesLeft := operandTier_cases written classicLeft true
  have casesRight := operandTier_cases written classicRight false
  rcases tiers with leftward | rightward
  · have loose : operator.tier ≤ left.operandTier operator true := by omega
    have tight : operator.tier + 1 ≤ right.operandTier operator false := by
      rcases casesRight with top | ⟨-, -, other | other⟩
      · omega
      · cases other
      · simp only [List.mem_cons, List.not_mem_nil, or_false] at leftward other
        omega
    exact .leftward within leftward precedence (phraseLeft.loosen loose)
      (phraseRight.loosen tight)
  · have tight : operator.tier + 1 ≤ left.operandTier operator true := by
      rcases casesLeft with top | ⟨-, same, -⟩
      · omega
      · exact absurd same (apart rightward)
    have loose : operator.tier ≤ right.operandTier operator false := by omega
    exact .rightward within rightward precedence (phraseLeft.loosen tight)
      (phraseRight.loosen loose)

theorem printable_infix (written : operator.Written)
    (tiers : operator.tier ∈ [2, 4, 5, 6, 7, 8, 10] ∨ operator.tier ∈ [0, 1, 3])
    (apart : operator.tier ∈ [0, 1, 3] → left.tier ≠ operator.tier)
    (classicLeft : Classic left) (classicRight : Classic right)
    (printableLeft : left.Printable) (printableRight : right.Printable) :
    (Part.expression .expression (.operation (some left) operator (some right))).Printable := by
  obtain ⟨lefts, leftItems, printedLeft⟩ := printableLeft.operand classicLeft operator true
  obtain ⟨rights, rightItems, printedRight⟩ := printableRight.operand classicRight operator false
  have ninth : operator.tier ≠ 9 := by
    simp only [List.mem_cons, List.not_mem_nil, or_false] at tiers
    omega
  have closed : ∀ {part : Part} {leading : Bool}, Classic part →
      part.operandTier operator leading ≠ 9 := by
    intro part leading classic
    rcases operandTier_cases written classic leading with top | ⟨same, -⟩
    · simp [top, maxTier]
    · rwa [same]
  obtain ⟨last, lastLeft, operand⟩ := printedLeft.ended
  obtain ⟨final, lastRight, ends⟩ := printedRight.ended
  refine ⟨lefts ++ operator.part :: rights, leftItems ++ operator.part :: rightItems, ?_, ?_, ?_,
    final, ?_, fun _ => ends (closed classicRight)⟩
  · have legible := legible_infix written printedLeft.legible printedRight.legible lastLeft
      fun _ => operand (closed classicLeft)
    simpa [Part.render, Expression.text, Part.leftText, Part.rightText] using legible
  · exact printedLeft.sequence.append (.plain written.isPlain printedRight.sequence)
  · exact phrase_infix written classicLeft classicRight apart tiers printedLeft.phrase
      printedRight.phrase
  · simp [List.getLast?_append, List.getLast?_cons, lastRight]

theorem printable_negation (written : operator.Written) (negates : operator.kind = .not)
    (ninth : operator.tier = 9) (classic : Classic right) (printable : right.Printable) :
    (Part.expression .expression (.operation none operator (some right))).Printable := by
  obtain ⟨rights, items, printed⟩ := printable.operand classic operator false
  have tight : 10 ≤ right.operandTier operator false := by
    have cases := operandTier_cases written classic false
    simp only [ninth, maxTier] at cases
    simp at cases
    omega
  obtain ⟨last, ends, -⟩ := printed.ended
  refine ⟨operator.part :: rights, operator.part :: items, ?_,
    .plain written.isPlain printed.sequence, ?_, last, ?_, fun apart => absurd ninth apart⟩
  · have legible := legible_prefix written (by simp [negates]) printed.legible
    simpa [Part.render, Expression.text, Part.leftText, Part.rightText] using legible
  · rw [Part.tier_operation, ninth]
    exact @Phrase.negation _ _ operator.part _ (by decide) negates (printed.phrase.loosen tight)
  · simp [List.getLast?_cons, ends]

theorem printable_counting (written : operator.Written)
    (counts : operator.kind = .increase ∨ operator.kind = .decrease)
    (ninth : operator.tier = 9) (classic : Classic left) (printable : left.Printable) :
    (Part.expression .expression (.operation (some left) operator none)).Printable := by
  obtain ⟨lefts, items, printed⟩ := printable.operand classic operator true
  have bound : 9 ≤ left.operandTier operator true := by
    have cases := operandTier_cases written classic true
    simp only [ninth, maxTier] at cases
    omega
  refine ⟨lefts ++ [operator.part], items ++ [operator.part], ?_,
    printed.sequence.snoc_plain written.isPlain, ?_, operator.part, by simp,
    fun apart => absurd ninth apart⟩
  · have legible := legible_postfix written printed.legible
    simpa [Part.render, Expression.text, Part.leftText, Part.rightText] using legible
  · rw [Part.tier_operation, ninth]
    exact @Phrase.counting _ _ _ operator.part (by decide) counts (printed.phrase.loosen bound)

theorem Classic.printable {part : Part} (classic : Classic part) : part.Printable := by
  induction classic with
  | primary primary => exact printable_primary primary
  | @operation left right operator written takesLeft takesRight classicLeft classicRight apart
      ihLeft ihRight =>
    rcases Operator.tier_cases written with ⟨tiers, both, all⟩ | ⟨negates, ninth⟩ | ⟨counts, ninth⟩
    · obtain ⟨left, rfl⟩ := Option.isSome_iff_exists.mp (takesLeft.trans both)
      obtain ⟨right, rfl⟩ := Option.isSome_iff_exists.mp (takesRight.trans all)
      exact printable_infix written tiers (fun rightward => apart rightward left rfl)
        (classicLeft left rfl) (classicRight right rfl) (ihLeft left rfl) (ihRight right rfl)
    · rw [negates] at takesLeft takesRight
      obtain rfl := Option.isNone_iff_eq_none.mp (Option.isSome_eq_false_iff.mp takesLeft)
      obtain ⟨right, rfl⟩ := Option.isSome_iff_exists.mp takesRight
      exact printable_negation written negates ninth (classicRight right rfl) (ihRight right rfl)
    · have taken : left.isSome = true ∧ right.isSome = false := by
        rw [takesLeft, takesRight]
        rcases counts with same | same <;> rw [same] <;> exact ⟨rfl, rfl⟩
      obtain ⟨left, rfl⟩ := Option.isSome_iff_exists.mp taken.1
      obtain rfl := Option.isNone_iff_eq_none.mp (Option.isSome_eq_false_iff.mp taken.2)
      exact printable_counting written counts ninth (classicLeft left rfl) (ihLeft left rfl)

end Operations

theorem same_primary {part : Part} (primary : Primary part) : part.same part = true := by
  cases primary <;>
    simp [Part.same, Expression.same, Segment.sameAll, Value.sameLiteral, Value.integral?,
      Value.same]

theorem Classic.same {part : Part} (classic : Classic part) : part.same part = true := by
  induction classic with
  | primary primary => exact same_primary primary
  | @operation left right operator _ _ _ _ _ _ ihLeft ihRight =>
    have operand : ∀ part : Option Part, (∀ held, part = some held → held.same held = true) →
        Part.sameOperand part part = true := by
      intro part same
      cases part with
      | none => rfl
      | some held => exact same held rfl
    simp [Part.same, Expression.same, operand left ihLeft, operand right ihRight]

theorem Legible.readable {text : List Char} {parts : List Part} (legible : Legible text parts) :
    Readable false text parts := by
  have leads : (Cursor.start text).Leads text ⟨text.getLast?, [], text.length⟩ :=
    ⟨by simp [Cursor.start], by simp [Cursor.start], by simp [Cursor.start]⟩
  have ends : Ends [] := ⟨by simp [Delimited], by simp [Called]⟩
  have ended : Proceeds false ⟨text.getLast?, [], text.length⟩ (parts.reverse ++ [])
      parts.reverse := by
    rw [List.append_nil]
    exact Proceeds.done rfl
  obtain ⟨_, words, lexes, added, -⟩ := legible leads rfl ends open_nil ended
  exact ⟨words, lexes, added⟩

/-- The source text of an operator expression is parsed as the expression. -/
theorem parse_text {part : Part} {expression : Expression} (classic : Classic part)
    (value : part.value? = some expression) :
    parse? {} expression.text = .ok expression ∧ expression.same expression = true := by
  obtain ⟨tokens, items, printed⟩ := classic.printable
  have derives := Derives.phrase printed.sequence (printed.phrase.loosen (Nat.zero_le _)) value
  have shown : part.render = expression.text ∧ expression.same expression = true := by
    have same := classic.same
    cases classic with
    | primary primary =>
      cases primary <;> cases value <;> exact ⟨rfl, by simpa [Part.same, Expression.same] using same⟩
    | operation =>
      cases value
      exact ⟨rfl, by simpa [Part.same] using same⟩
  refine ⟨parse_eq_ok.mpr ⟨tokens, ?_, ?_, ?_, ?_⟩, shown.2⟩
  · obtain ⟨last, ends, -⟩ := printed.ended
    rintro rfl
    cases ends
  · rw [← shown.1]
    exact printed.legible.readable
  · exact validate_enclosed derives.enclosed
  · exact Analysis.analyze_elements (.single derives)

theorem parse_text_of_difference :
    let x : Part := .expression .expression (.path [.name "x"])
    let y : Part := .expression .expression (.path [.name "y"])
    let difference : Part := .expression .expression
      (.operation (some x) ⟨.subtract, "-"⟩ (some (.literal .integerLiteral (.integer (-5)))))
    let negation : Part := .expression .expression (.operation none ⟨.not, "!"⟩ (some y))
    let tree : Expression := .operation (some difference) ⟨.logicalOr, "Or"⟩ (some negation)
    tree.text = "(x - -5) Or (! y)" ∧ parse? {} tree.text = .ok tree ∧ tree.same tree = true := by
  intro x y difference negation tree
  have spelled : (⟨.subtract, "-"⟩ : Operator).Spelled ∧ (⟨.not, "!"⟩ : Operator).Spelled ∧
      (⟨.logicalOr, "Or"⟩ : Operator).Spelled := by
    decide +kernel
  have classicX : Classic x := .primary (.name (by decide))
  have classicY : Classic y := .primary (.name (by decide))
  have five : Classic (.literal .integerLiteral (.integer (-5))) := .primary (.integer (-5))
  have subtracts : Classic difference :=
    .operation ⟨rfl, by decide, spelled.1⟩ rfl rfl (by rintro _ ⟨⟩; exact classicX)
      (by rintro _ ⟨⟩; exact five) (by decide)
  have negates : Classic negation :=
    .operation ⟨rfl, by decide, spelled.2.1⟩ rfl rfl (by simp)
      (by rintro _ ⟨⟩; exact classicY) (by decide)
  have classic : Classic (.expression .expression tree) :=
    .operation ⟨rfl, by decide, spelled.2.2⟩ rfl rfl (by rintro _ ⟨⟩; exact subtracts)
      (by rintro _ ⟨⟩; exact negates) (by rintro - _ ⟨⟩; decide)
  exact ⟨by decide +kernel, parse_text classic rfl⟩

end PathQuery
