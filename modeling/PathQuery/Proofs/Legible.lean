import PathQuery.Proofs.Lexing.Blanks
import PathQuery.Proofs.Lexing.Operators
import PathQuery.Proofs.Words

/-!
Texts that are read as certain parts wherever an operand may stand, and how they are put together:
in parentheses, and with operators.
-/

namespace PathQuery

/-- From a place on a text has words that make, behind the parts before it, certain parts. The flag
says whether the first word opens a scope. Parts stand in reverse. -/
def Proceeds (opens : Bool) (cursor : Cursor) (below result : List Part) : Prop :=
  ∃ words, Lexes false cursor words ∧ Part.addAll? false below words = .ok result ∧
    words.head?.any (· == ['(']) = opens

section Steps

variable {opens : Bool} {cursor place : Cursor} {below next result : List Part} {word : List Char}
  {kind : TokenKind}

theorem Token.find_of_lexemeAt (leads : cursor.Leads word place) (nonempty : word ≠ [])
    (found : lexemeAt? cursor = some (kind, place)) :
    find? cursor = some ⟨kind, [], word, place⟩ := by
  obtain ⟨before, rest, passed⟩ := cursor
  obtain ⟨c, word, rfl⟩ := List.exists_cons_of_ne_nil nonempty
  have same := between_of_leads leads
  obtain rfl : rest = c :: (word ++ place.rest) := leads.rest
  rw [find?, findFrom?]
  simp only [found, same, List.reverse_nil]

theorem Proceeds.done (ended : cursor.rest = []) : Proceeds false cursor result result := by
  obtain ⟨before, rest, passed⟩ := cursor
  obtain rfl : rest = [] := ended
  exact ⟨[], .done rfl (.inr rfl), rfl, rfl⟩

theorem Proceeds.lexeme (proceeds : Proceeds opens place next result)
    (leads : cursor.Leads word place) (nonempty : word ≠ [])
    (found : Token.lexemeAt? cursor = some (kind, place))
    (added : Part.add? false below word opens = .ok next) :
    Proceeds (word == ['(']) cursor below result := by
  obtain ⟨words, lexes, others, rfl⟩ := proceeds
  have finds := Token.find_of_lexemeAt leads nonempty found
  refine ⟨word :: words, .word finds (.inr rfl) lexes, ?_, rfl⟩
  rw [Part.addAll?, added]
  exact others

theorem passable_blank {gap : List Char} (passable : Passable false gap) :
    Passable false (' ' :: gap) :=
  passable

theorem Proceeds.blank (proceeds : Proceeds opens place below result)
    (leads : cursor.Leads [' '] place) : Proceeds opens cursor below result := by
  obtain ⟨words, lexes, others⟩ := proceeds
  refine ⟨words, ?_, others⟩
  have found := Token.find_of_blanks leads (by simp [Text.AllBlank, Text.isBlank])
  cases lexes with
  | done none passable =>
    rw [none] at found
    exact .done found (by rw [leads.rest]; exact passable_blank passable)
  | word some passable lexes =>
    rw [some] at found
    exact (Lexes.iff_of_some found).mpr ⟨_, rfl, passable_blank passable, lexes⟩

end Steps

theorem Token.begins_bracket :
    ((grammar.take 13).all fun entry => !entry.lexeme.begins '(') = true ∧
      ((grammar.take 14).all fun entry => !entry.lexeme.begins ')') = true ∧
      ((grammar.take 15).all fun entry => !entry.lexeme.begins '[') = true ∧
      ((grammar.take 16).all fun entry => !entry.lexeme.begins ']') = true := by
  decide +kernel

theorem Token.identify_symbols : ∀ beforeScope : Bool,
    identify? [')'] beforeScope = some .scopeStop ∧
      identify? ['['] beforeScope = some .indexStart ∧
      identify? [']'] beforeScope = some .indexStop ∧
      identify? [','] beforeScope = some .separator ∧
      identify? ['-'] beforeScope = some .subtract := by
  decide +kernel

/-- A character that is a lexeme by itself wherever it stands. -/
structure Token.Symbol (c : Char) (kind : TokenKind) : Prop where
  found : ∀ before rest passed,
    lexemeAt? ⟨before, c :: rest, passed⟩ = some (kind, ⟨some c, rest, passed + 1⟩)
  identified : ∀ beforeScope, identify? [c] beforeScope = some kind
  plain : kind.isLiteral = false

namespace Token

theorem symbol_scopeStart : Symbol '(' .scopeStart :=
  ⟨lexemeAt_single 13 rfl begins_bracket.1, identify_parenthesis, rfl⟩

theorem symbol_scopeStop : Symbol ')' .scopeStop :=
  ⟨lexemeAt_single 14 rfl begins_bracket.2.1, fun scope => (identify_symbols scope).1, rfl⟩

theorem symbol_indexStart : Symbol '[' .indexStart :=
  ⟨lexemeAt_single 15 rfl begins_bracket.2.2.1, fun scope => (identify_symbols scope).2.1, rfl⟩

theorem symbol_indexStop : Symbol ']' .indexStop :=
  ⟨lexemeAt_single 16 rfl begins_bracket.2.2.2, fun scope => (identify_symbols scope).2.2.1, rfl⟩

theorem symbol_separator : Symbol ',' .separator :=
  ⟨lexemeAt_comma, fun scope => (identify_symbols scope).2.2.2.1, rfl⟩

end Token

section Additions

variable {lenient beforeScope : Bool} {below : List Part} {word : List Char} {kind : TokenKind}

theorem add_text (identified : Token.identify? word beforeScope = some kind)
    (plain : kind.isLiteral = false) :
    Part.add? lenient below word beforeScope = .ok (.text kind (String.ofList word) :: below) := by
  unfold Part.add? PlacedPart.add?
  simp only [Lexeme.ofWord, identified]
  cases kind <;> simp_all [TokenKind.isLiteral, Except.map]

theorem add_literal {value : Value}
    (listed : (kind, value) ∈ [(.stringLiteral, .string (PlacedPart.unquote word)),
      (.trueLiteral, .boolean true), (.falseLiteral, .boolean false), (.nullLiteral, .null)])
    (identified : Token.identify? word beforeScope = some kind) :
    Part.add? lenient below word beforeScope = .ok (.literal kind value :: below) := by
  simp only [List.mem_cons, Prod.mk.injEq, List.not_mem_nil, or_false] at listed
  rcases listed with ⟨rfl, rfl⟩ | ⟨rfl, rfl⟩ | ⟨rfl, rfl⟩ | ⟨rfl, rfl⟩ <;>
    simp [Part.add?, PlacedPart.add?, Lexeme.ofWord, identified, Except.map]

variable {value : Value} (numeric : kind = .integerLiteral ∨ kind = .decimalLiteral)
  (identified : Token.identify? word beforeScope = some kind)

include numeric identified

theorem add_number (unsigned : PlacedPart.sign? (below.map Part.unplaced) = none)
    (number : PlacedPart.number? kind word false = .ok value) :
    Part.add? lenient below word beforeScope = .ok (.literal kind value :: below) := by
  rcases numeric with rfl | rfl <;>
    simp [Part.add?, PlacedPart.add?, Lexeme.ofWord, identified, unsigned, number, Except.map, bind,
      Except.bind, pure, Except.pure]

theorem add_signed {minus : Part}
    (signed : (PlacedPart.sign? ((minus :: below).map Part.unplaced)).isSome = true)
    (number : PlacedPart.number? kind word true = .ok value) :
    Part.add? lenient (minus :: below) word beforeScope = .ok (.literal kind value :: below) := by
  obtain ⟨span, signed⟩ := Option.isSome_iff_exists.mp signed
  rw [List.map_cons] at signed
  rcases numeric with rfl | rfl <;>
    simp [Part.add?, PlacedPart.add?, Lexeme.ofWord, identified, signed, number, Except.map, bind,
      Except.bind, pure, Except.pure]

end Additions

/-- Parts behind which an operand may stand, the last of them first. A minus sign among them is a
subtraction. -/
structure Open (below : List Part) : Prop where
  unsigned : PlacedPart.sign? (below.map Part.unplaced) = none
  expects : ∀ part ∈ below.head?, (part.kind.isOperator || part.kind.opensRange) = true

/-- What may follow an operand. -/
structure Ends (rest : List Char) : Prop where
  delimited : Delimited rest
  uncalled : ¬Called rest

/-- Whether a text is read as some parts wherever an operand may stand. -/
def Legible (text : List Char) (parts : List Part) : Prop :=
  ∀ ⦃cursor place : Cursor⦄ ⦃below result : List Part⦄, cursor.Leads text place →
    Neutral cursor.before → Ends place.rest → Open below →
    Proceeds false place (parts.reverse ++ below) result →
    ∃ opens, Proceeds opens cursor below result

theorem neutral_of_blank {cursor place : Cursor} (leads : cursor.Leads [' '] place) :
    Neutral place.before := by
  rw [leads.before]
  rfl

section Legible

variable {word text other : List Char} {parts others : List Part} {kind : TokenKind} {part : Part}

theorem open_nil : Open [] :=
  ⟨rfl, by simp⟩

theorem open_cons {below : List Part} (other : part.kind ≠ .subtract)
    (expects : (part.kind.isOperator || part.kind.opensRange) = true) : Open (part :: below) := by
  refine ⟨?_, by simpa using expects⟩
  simp [PlacedPart.sign?, Part.unplaced, other]

/-- Behind an operand a minus sign is a subtraction. -/
theorem open_subtract {below : List Part} {minus : Part} (subtracts : minus.kind = .subtract)
    (operand : (part.kind.isOperator || part.kind.opensRange) = false) :
    Open (minus :: part :: below) := by
  refine ⟨?_, by simp [subtracts, TokenKind.isOperator, TokenKind.precedence?]⟩
  simp [PlacedPart.sign?, Part.unplaced, operand]

theorem Lexed.at {cursor place : Cursor} (lexed : Lexed kind word) (leads : cursor.Leads word place)
    (neutral : Neutral cursor.before) (delimited : Delimited place.rest)
    (uncalled : kind = .path → ¬Called place.rest) :
    Token.lexemeAt? cursor = some (kind, place) := by
  obtain ⟨before, rest, passed, rfl, rfl⟩ := leads.eq_of_leads
  exact lexed.found neutral delimited uncalled

theorem legible_word (lexed : Lexed kind word)
    (added : ∀ {below}, Open below → Part.add? false below word false = .ok (part :: below)) :
    Legible word [part] := by
  intro cursor place below result leads neutral ends opened proceeds
  exact ⟨_, proceeds.lexeme leads lexed.nonempty
    (lexed.at leads neutral ends.delimited fun _ => ends.uncalled) (added opened)⟩

theorem Token.begins_minus : ∀ entry ∈ grammar.take 27, entry.lexeme.begins '-' = true →
    entry.kind = .decrease := by
  decide +kernel

theorem Token.lexeme_of_decrease : ∀ entry ∈ grammar, entry.kind = .decrease →
    entry.lexeme = Pattern.text "--" := by
  simp [grammar]

theorem Token.lexemeAt_minus {c : Char} (single : c ≠ '-') (before : Option Char)
    (rest : List Char) (passed : Nat) : lexemeAt? ⟨before, '-' :: c :: rest, passed⟩ =
      some (.subtract, ⟨some '-', c :: rest, passed + 1⟩) := by
  refine @lexemeAt_of_entry ⟨before, '-' :: c :: rest, passed⟩ _ 27
    ⟨.subtract, Pattern.text "-", .empty⟩ rfl (fun entry member => Entry.end_of_misses ?_) ?_
  · by_cases begins : entry.lexeme.begins '-' = true
    · have kind := begins_minus entry member begins
      rw [lexeme_of_decrease entry (List.mem_of_mem_take member) kind]
      intro before word left _ whole spans
      rw [Pattern.spans_text.mp spans] at whole
      exact single (List.cons.inj (List.cons.inj whole).2).1
    · exact Pattern.misses_of_begins (by simpa using begins) _
  · have leads : Cursor.Leads ⟨before, '-' :: c :: rest, passed⟩ ['-']
        ⟨some '-', c :: rest, passed + 1⟩ := ⟨rfl, rfl, rfl⟩
    exact Entry.end_eq_some leads (by simp) (Pattern.spans_text.mpr rfl)
      (by simp [Pattern.ends, Pattern.endsFrom]) fun _ _ _ => Pattern.spans_text.mp

theorem signed_of_open {minus : Part} {below : List Part} (subtracts : minus.kind = .subtract)
    (opened : Open below) :
    (PlacedPart.sign? ((minus :: below).map Part.unplaced)).isSome = true := by
  have expects := opened.expects
  cases below with
  | nil => simp [PlacedPart.sign?, Part.unplaced, subtracts]
  | cons part below =>
    have free := expects part rfl
    simp [PlacedPart.sign?, Part.unplaced, subtracts, free]

theorem Lexed.ne_opening (lexed : Lexed kind word) (other : kind ≠ .scopeStart) :
    (word == ['(']) = false := by
  refine Bool.eq_false_iff.mpr fun same => ?_
  have identified := lexed.identified false fun _ => rfl
  rw [eq_of_beq same, Token.identify_parenthesis] at identified
  exact other (Option.some.inj identified).symm

theorem legible_negative {value : Value} {first : Char} (digit : first ≠ '-')
    (numeric : kind = .integerLiteral ∨ kind = .decimalLiteral) (lexed : Lexed kind (first :: word))
    (number : PlacedPart.number? kind (first :: word) true = .ok value) :
    Legible ('-' :: first :: word) [.literal kind value] := by
  intro cursor place below result leads neutral ends opened proceeds
  obtain ⟨middle, sign, digits⟩ :=
    Cursor.Leads.split (show cursor.Leads (['-'] ++ _) place from leads)
  have next : Neutral middle.before := by
    rw [sign.before]
    rfl
  have found : Token.lexemeAt? cursor = some (.subtract, middle) := by
    obtain ⟨before, rest, passed, rfl, rfl⟩ := sign.eq_of_leads
    obtain rfl : rest = first :: (word ++ place.rest) := digits.rest
    exact Token.lexemeAt_minus digit before _ passed
  have named : kind ≠ .path ∧ kind ≠ .scopeStart := by
    rcases numeric with rfl | rfl <;> decide
  have proceeds := proceeds.lexeme digits lexed.nonempty
    (lexed.at digits next ends.delimited fun _ => ends.uncalled)
    (add_signed numeric (lexed.identified false fun path => absurd path named.1)
      (@signed_of_open (.text .subtract "-") below rfl opened) number)
  rw [lexed.ne_opening named.2] at proceeds
  exact ⟨_, proceeds.lexeme sign (by simp) found
    (add_text (Token.identify_symbols false).2.2.2.2 rfl)⟩

/-- A number may have a minus sign before its digits. -/
theorem legible_signed {value : Value} {negative : Bool}
    (numeric : kind = .integerLiteral ∨ kind = .decimalLiteral) (lexed : Lexed kind word)
    (unsigned : word.head? ≠ some '-') (number : PlacedPart.number? kind word negative = .ok value) :
    Legible (if negative then '-' :: word else word) [.literal kind value] := by
  cases negative with
  | true =>
    obtain ⟨first, others, rfl⟩ := List.exists_cons_of_ne_nil lexed.nonempty
    exact legible_negative (by simpa using unsigned) numeric lexed number
  | false =>
    have other : kind ≠ .path := by
      rcases numeric with rfl | rfl <;> decide
    exact legible_word lexed fun opened => add_number numeric
      (lexed.identified false fun path => absurd path other) opened.unsigned number

/-- What stands before a delimiter other than a space is not called. -/
theorem ends_delimiter {c : Char} (delimits : c ∈ [')', ',', ']']) (rest : List Char) :
    Ends (c :: rest) := by
  simp only [List.mem_cons, List.not_mem_nil, or_false] at delimits
  refine ⟨?_, fun called => ?_⟩
  · rcases delimits with rfl | rfl | rfl <;> simp [Delimited, delimiters]
  · unfold Called at called
    rcases delimits with rfl | rfl | rfl <;> cases called

theorem Proceeds.symbol {c : Char} {opens : Bool} {cursor place : Cursor} {below result : List Part}
    (symbol : Token.Symbol c kind)
    (proceeds : Proceeds opens place (.text kind (String.ofList [c]) :: below) result)
    (leads : cursor.Leads [c] place) : Proceeds ([c] == ['(']) cursor below result := by
  have found : Token.lexemeAt? cursor = some (kind, place) := by
    obtain ⟨before, rest, passed, rfl, rfl⟩ := leads.eq_of_leads
    exact symbol.found before rest passed
  exact proceeds.lexeme leads (by simp) found (add_text (symbol.identified opens) symbol.plain)

theorem legible_enclosed {start stop : TokenKind} {opening closing : Char}
    (opens : Token.Symbol opening start) (closes : Token.Symbol closing stop)
    (expects : start.opensRange = true) (neutral : Neutral (some opening))
    (delimits : closing ∈ [')', ',', ']']) (legible : Legible text parts) :
    Legible (opening :: (text ++ [closing]))
      (.text start (String.ofList [opening]) ::
        (parts ++ [.text stop (String.ofList [closing])])) := by
  intro cursor place below result leads _ ends opened proceeds
  obtain ⟨inside, before, leads⟩ :=
    Cursor.Leads.split (show cursor.Leads ([opening] ++ (text ++ [closing])) place from leads)
  obtain ⟨behind, leads, after⟩ := leads.split
  simp only [List.reverse_cons, List.reverse_append, List.append_assoc, List.reverse_nil,
    List.nil_append, List.cons_append] at proceeds
  have proceeds := proceeds.symbol closes after
  have shut : ([closing] == ['(']) = false := by
    simp only [List.mem_cons, List.not_mem_nil, or_false] at delimits
    rcases delimits with rfl | rfl | rfl <;> rfl
  rw [shut] at proceeds
  have next : Neutral inside.before := by
    rwa [before.before]
  have ended : Ends behind.rest := by
    rw [after.rest]
    exact ends_delimiter delimits place.rest
  have other : start ≠ .subtract := by
    rintro rfl
    cases expects
  have expecting : Open (.text start (String.ofList [opening]) :: below) :=
    open_cons other (by rw [show (Part.text start _).kind.opensRange = true from expects, Bool.or_true])
  obtain ⟨_, proceeds⟩ := legible leads next ended expecting proceeds
  exact ⟨_, proceeds.symbol opens before⟩

theorem legible_scope (legible : Legible text parts) :
    Legible ('(' :: (text ++ [')']))
      (.text .scopeStart "(" :: (parts ++ [.text .scopeStop ")"])) :=
  legible_enclosed Token.symbol_scopeStart Token.symbol_scopeStop rfl rfl (by decide) legible

theorem legible_brackets (legible : Legible text parts) :
    Legible ('[' :: (text ++ [']']))
      (.text .indexStart "[" :: (parts ++ [.text .indexStop "]"])) :=
  legible_enclosed Token.symbol_indexStart Token.symbol_indexStop rfl rfl (by decide) legible

theorem legible_nothing : Legible [] [] := by
  intro cursor place below result leads _ _ _ proceeds
  obtain ⟨before, rest, passed, rfl, rfl⟩ := leads.eq_of_leads
  exact ⟨false, proceeds⟩

theorem legible_separated (legible : Legible text parts) (legibleOther : Legible other others) :
    Legible (text ++ ',' :: ' ' :: other) (parts ++ .text .separator "," :: others) := by
  intro cursor place below result leads neutral ends opened proceeds
  obtain ⟨first, leads, next⟩ := leads.split
  obtain ⟨second, comma, next⟩ := Cursor.Leads.split (show first.Leads ([','] ++ _) place from next)
  obtain ⟨third, blank, next⟩ := Cursor.Leads.split (show second.Leads ([' '] ++ _) place from next)
  simp only [List.reverse_append, List.reverse_cons, List.append_assoc, List.nil_append,
    List.cons_append] at proceeds
  obtain ⟨_, proceeds⟩ := legibleOther next (neutral_of_blank blank) ends
    (open_cons (by decide) (by decide)) proceeds
  have proceeds := (proceeds.blank blank).symbol Token.symbol_separator comma
  have ended : Ends first.rest := by
    rw [comma.rest]
    exact ends_delimiter (by decide) second.rest
  exact legible leads neutral ended opened proceeds

end Legible

section Operators

variable {word left right : List Char} {lefts rights : List Part} {kind : TokenKind}
  {operator : Operator}

/-- What stands before an operator is not called. -/
theorem ends_operator (written : operator.Written) (rest : List Char) :
    Ends (' ' :: (operator.spelling.toList ++ rest)) := by
  refine ⟨by simp [Delimited, delimiters], ?_⟩
  have shown := Token.head_of_written written
  obtain ⟨c, others, split⟩ :=
    List.exists_cons_of_ne_nil (Token.lexed_of_written written).nonempty
  rw [split] at shown ⊢
  obtain ⟨shown, other⟩ := shown c rfl
  intro called
  simp only [Called, List.dropWhile_cons, List.cons_append, shown,
    show Text.isBlank ' ' = true from rfl] at called
  exact other (by simpa using called)

/-- The part of an operator. -/
def Operator.part (operator : Operator) : Part :=
  .text operator.kind operator.spelling

theorem Operator.Written.other (written : operator.Written) {kind : TokenKind}
    (operand : kind.isOperator = false) : operator.kind ≠ kind := by
  rintro rfl
  exact absurd operand (by simp [written.operates])

theorem Proceeds.operation {cursor place : Cursor} {opens : Bool} {below result : List Part}
    (written : operator.Written) (proceeds : Proceeds opens place (operator.part :: below) result)
    (leads : cursor.Leads operator.spelling.toList place) (neutral : Neutral cursor.before)
    (delimited : Delimited place.rest) : Proceeds false cursor below result := by
  have lexed := Token.lexed_of_written written
  have found := lexed.at leads neutral delimited fun path => absurd path (written.other rfl)
  have literal : operator.kind.isLiteral = false := by
    have operates := written.operates
    revert operates
    cases operator.kind <;> simp [TokenKind.isOperator, TokenKind.precedence?, TokenKind.isLiteral]
  have added := @add_text false opens below _ _
    (lexed.identified opens fun path => absurd path (written.other rfl)) literal
  rw [String.ofList_toList] at added
  have proceeds := proceeds.lexeme leads lexed.nonempty found added
  rwa [lexed.ne_opening (written.other rfl)] at proceeds

theorem open_operator {part : Part} {below : List Part} (written : operator.Written)
    (operand : operator.kind = .subtract → (part.kind.isOperator || part.kind.opensRange) = false) :
    Open (operator.part :: part :: below) := by
  by_cases subtracts : operator.kind = .subtract
  · exact open_subtract subtracts (operand subtracts)
  · refine open_cons subtracts ?_
    rw [show operator.part.kind.isOperator = true from written.operates, Bool.true_or]

theorem legible_infix {last : Part} (written : operator.Written) (legibleLeft : Legible left lefts)
    (legibleRight : Legible right rights) (ended : lefts.getLast? = some last)
    (operand : operator.kind = .subtract → (last.kind.isOperator || last.kind.opensRange) = false) :
    Legible (left ++ ' ' :: (operator.spelling.toList ++ ' ' :: right))
      (lefts ++ operator.part :: rights) := by
  intro cursor place below result leads neutral ends opened proceeds
  obtain ⟨first, leads, next⟩ := leads.split
  obtain ⟨second, gap, next⟩ := Cursor.Leads.split (show first.Leads ([' '] ++ _) place from next)
  obtain ⟨third, spelling, next⟩ := next.split
  obtain ⟨fourth, blank, next⟩ := Cursor.Leads.split (show third.Leads ([' '] ++ _) place from next)
  obtain ⟨front, rfl⟩ := List.getLast?_eq_some_iff.mp ended
  simp only [List.reverse_append, List.reverse_cons, List.append_assoc, List.nil_append,
    List.cons_append] at proceeds
  obtain ⟨_, proceeds⟩ := legibleRight next (neutral_of_blank blank) ends
    (open_operator written operand) proceeds
  have delimited : Delimited third.rest := by
    simp [blank.rest, Delimited, delimiters]
  have proceeds := proceeds.blank blank
  have proceeds := proceeds.operation written spelling (neutral_of_blank gap) delimited
  have ended : Ends first.rest := by
    rw [gap.rest, spelling.rest]
    exact ends_operator written _
  refine legibleLeft leads neutral ended opened ?_
  simpa using proceeds.blank gap

theorem legible_prefix (written : operator.Written) (other : operator.kind ≠ .subtract)
    (legible : Legible right rights) :
    Legible (operator.spelling.toList ++ ' ' :: right) (operator.part :: rights) := by
  intro cursor place below result leads neutral ends opened proceeds
  obtain ⟨first, spelling, next⟩ := leads.split
  obtain ⟨second, blank, next⟩ := Cursor.Leads.split (show first.Leads ([' '] ++ _) place from next)
  rw [List.reverse_cons, List.append_assoc, List.singleton_append] at proceeds
  have opened : Open (operator.part :: below) :=
    open_cons other (by rw [show operator.part.kind.isOperator = true from written.operates]; rfl)
  obtain ⟨_, proceeds⟩ := legible next (neutral_of_blank blank) ends opened proceeds
  have delimited : Delimited first.rest := by
    simp [blank.rest, Delimited, delimiters]
  exact ⟨_, (proceeds.blank blank).operation written spelling neutral delimited⟩

theorem legible_postfix (written : operator.Written) (legible : Legible left lefts) :
    Legible (left ++ ' ' :: operator.spelling.toList) (lefts ++ [operator.part]) := by
  intro cursor place below result leads neutral ends opened proceeds
  obtain ⟨first, leads, next⟩ := leads.split
  obtain ⟨second, gap, spelling⟩ :=
    Cursor.Leads.split (show first.Leads ([' '] ++ _) place from next)
  rw [List.reverse_append, List.reverse_singleton, List.singleton_append] at proceeds
  have proceeds := proceeds.operation written spelling (neutral_of_blank gap) ends.delimited
  have ended : Ends first.rest := by
    rw [gap.rest, spelling.rest]
    exact ends_operator written _
  exact legible leads neutral ended opened (proceeds.blank gap)

end Operators

end PathQuery
