import PathQuery.Proofs.Grammar
import PathQuery.Proofs.Lexing.Decimals
import PathQuery.Proofs.Lexing.Spaces

/-!
Texts that go on with a minus sign and a number. The lexemes before the sign are those of the text by
itself; whether the sign is an operator or belongs to the number depends on the last part before it.
Main statement: `ofText_minus`.
-/

namespace PathQuery

namespace Lexeme

variable {offset : Nat} {lexemes : List Lexeme}

/-- A minus sign, a space and a number. -/
theorem from_of_number {kind : TokenKind} {number : List Char} (lexed : Lexed kind number)
    (other : kind ≠ .path) (passed : Nat) :
    from? false offset ⟨some ' ', '-' :: ' ' :: number, passed⟩ =
      .ok [{ text := ['-'], span := ⟨offset, offset + 1⟩ },
        { text := number, span := ⟨offset + 2, offset + 2 + byteLength number⟩ }] := by
  have sign : Cursor.Leads ⟨some ' ', '-' :: ' ' :: number, passed⟩ ['-']
      ⟨some '-', ' ' :: number, passed + 1⟩ := ⟨rfl, rfl, rfl⟩
  have space : Cursor.Leads ⟨some '-', ' ' :: number, passed + 1⟩ [' ']
      ⟨some ' ', number, passed + 2⟩ := ⟨rfl, rfl, rfl⟩
  refine from_of_lexemeAt sign (by simp) (Token.lexemeAt_minus (by decide) _ _ _) ?_
  refine from_of_blanks space (by simp [Text.AllBlank, Text.isBlank]) ?_
  exact from_of_lexed lexed other (show Neutral (some ' ') from rfl) _

/-- The lexemes of a text that goes on with a minus sign and a number. -/
theorem split_minus {text number : String} {kind : TokenKind} (lexed : Lexed kind number.toList)
    (other : kind ≠ .path) (split : split? false text = .ok lexemes) :
    split? false (text ++ " - " ++ number) = .ok (lexemes ++
      [{ text := ['-'], span := ⟨byteLength text.toList + 1, byteLength text.toList + 2⟩ },
        { text := number.toList
          span := ⟨byteLength text.toList + 3,
            byteLength text.toList + 3 + byteLength number.toList⟩ }]) := by
  obtain ⟨nonempty, split⟩ := split_eq_ok.mp split
  refine split_eq_ok.mpr ⟨by simp, ?_⟩
  have whole : Cursor.start (text ++ " - " ++ number).toList =
      (Surroundings.spaced ('-' :: ' ' :: number.toList)).place (Cursor.start text.toList) := by
    simp [Cursor.start, Surroundings.place, Surroundings.spaced]
  rw [whole]
  refine from_continued (Token.parted_of_number (.inl rfl)) split fun passed => ?_
  rw [from_of_number lexed other]
  simp [Cursor.start, Nat.add_assoc]

end Lexeme

namespace PlacedPart

variable {kind : TokenKind}

/-- The parts of a text that goes on with a minus sign and a number. -/
theorem ofText_continued {text number : String} {front : List PlacedPart} {last : PlacedPart}
    (read : ofText? false text = .ok (front ++ [last]))
    (closed : last.part.kind.opensRange = false)
    (numeric : kind = .integerLiteral ∨ kind = .decimalLiteral)
    (identified : Token.identify? number.toList false = some kind) :
    ofText? false (text ++ " - " ++ number) =
      let size := byteLength text.toList
      let stop := size + 3 + byteLength number.toList
      if last.part.kind.isOperator then
        (number? kind number.toList true).map fun value =>
          front ++ [last, ⟨.literal kind value, ⟨size + 1, stop⟩⟩]
      else
        (number? kind number.toList false).map fun value =>
          front ++ [last, ⟨.text .subtract "-", ⟨size + 1, size + 2⟩⟩,
            ⟨.literal kind value, ⟨size + 3, stop⟩⟩] := by
  have other : kind ≠ .path := by
    rcases numeric with rfl | rfl <;> decide
  obtain ⟨lexemes, split, read⟩ := Tiers.bind_eq_ok.mp read
  obtain ⟨placed, added, reversed⟩ := Tiers.map_eq_ok.mp read
  obtain rfl : placed = last :: front.reverse := by
    rw [← List.reverse_reverse placed, reversed]
    simp
  have lexed := Token.lexed_number numeric identified
  have sign : sign? (⟨.text .subtract "-", ⟨byteLength text.toList + 1, byteLength text.toList + 2⟩⟩ ::
      last :: front.reverse) = if last.part.kind.isOperator then
        some ⟨byteLength text.toList + 1, byteLength text.toList + 2⟩ else none := by
    simp [sign?, closed, show (Part.text .subtract "-").kind = .subtract from rfl]
  rw [ofText_of_split (Lexeme.split_minus lexed other split), ofLexemes?,
    addAll_append (by rfl) added, addAll_of_add (add_minus ..), addAll_single,
    add_number numeric identified, sign]
  have merged : Span.merge ⟨byteLength text.toList + 1, byteLength text.toList + 2⟩
      ⟨byteLength text.toList + 3, byteLength text.toList + 3 + byteLength number.toList⟩ =
        ⟨byteLength text.toList + 1, byteLength text.toList + 3 + byteLength number.toList⟩ := by
    simp only [Span.merge, Span.mk.injEq]
    omega
  cases last.part.kind.isOperator with
  | true => cases number? kind number.toList true <;> simp [Except.map, merged]
  | false => cases number? kind number.toList false <;> simp [Except.map]

end PlacedPart

/-- What opens a range does not come last in a text whose brackets are balanced. -/
theorem closed_of_validate {front : List Part} {last : Part}
    (valid : validate {} (front ++ [last]) = .ok ()) : last.kind.opensRange = false := by
  refine Bool.eq_false_iff.mpr fun opens => ?_
  obtain ⟨balance, counted, checked⟩ := Tiers.bind_eq_ok.mp valid
  rw [List.map_append, List.foldlM_append] at counted
  obtain ⟨before, -, added⟩ := Tiers.bind_eq_ok.mp counted
  replace added : Balance.add? {} before last.kind >>= Except.ok = .ok balance := added
  obtain ⟨_, added, same⟩ := Tiers.bind_eq_ok.mp added
  cases same
  generalize last.kind = kind at opens added
  have unclosed : 0 < balance.scopes ∨ 0 < balance.indexes := by
    cases kind <;> simp [TokenKind.opensRange] at opens
    · cases added
      exact .inl (Nat.succ_pos _)
    · cases added
      exact .inr (Nat.succ_pos _)
    · simp only [Balance.add?] at added
      split at added
      · cases added
      · rename_i inside
        cases added
        simp at inside
        omega
  unfold Balance.check at checked
  repeat' split at checked
  all_goals first | omega | cases checked

section Ends

variable {parts items block : List Part} {item : Part}

theorem Listed.closing {start stop : TokenKind} {expressions : List Expression}
    (listed : Listed start stop parts expressions) :
    ∃ front closing, parts = front ++ [closing] ∧ closing.kind = stop := by
  cases listed with
  | @empty _ _ opening closing _ closes => exact ⟨[opening], closing, rfl, closes⟩
  | elements _ closes _ => exact ⟨_, _, rfl, closes⟩

/-- The last part of an operand that was put together is no operator. -/
theorem Atom.last (atom : Atom block item) :
    ∃ front last, block = front ++ [last] ∧ last.kind.isOperator = false := by
  have closes : ∀ {before : List Part} {start stop : TokenKind} {parts : List Part}
      {expressions : List Expression}, stop.isOperator = false →
      Listed start stop parts expressions →
      ∃ front last, before ++ parts = front ++ [last] ∧ last.kind.isOperator = false := by
    intro before start stop parts expressions other listed
    obtain ⟨front, closing, rfl, rfl⟩ := listed.closing
    exact ⟨before ++ front, closing, by simp, other⟩
  cases atom with
  | @unit opening closing _ stops => exact ⟨[opening], closing, rfl, by rw [stops]; rfl⟩
  | scope _ stops _ => exact ⟨_, _, rfl, by rw [stops]; rfl⟩
  | array listed => exact @closes [] _ _ _ _ rfl listed
  | list listed => exact @closes [] _ _ _ _ rfl listed
  | call call =>
    cases call with
    | @method name _ _ listed => exact @closes [.text .method name] _ _ _ _ rfl listed
    | again _ listed => exact closes rfl listed
    | ofPath _ listed => exact closes rfl listed
  | path path =>
    cases path with
    | @start lexeme => exact ⟨[], _, rfl, rfl⟩
    | after => exact ⟨_, _, rfl, rfl⟩
    | name => exact ⟨_, _, rfl, rfl⟩
    | index _ _ stops => exact ⟨_, _, rfl, by rw [stops]; rfl⟩

theorem Sequence.eq_nil (sequence : Sequence [] items) : items = [] := by
  generalize none : ([] : List Part) = parts at sequence
  cases sequence with
  | nil => rfl
  | plain => cases none
  | atom atom =>
    obtain ⟨front, last, rfl, -⟩ := atom.last
    simp at none

/-- An operator that comes last is the last item as well. -/
theorem Sequence.last {last : Part} (operates : last.kind.isOperator = true) :
    ∀ {parts items : List Part}, Sequence parts items → parts.getLast? = some last →
      items.getLast? = some last
  | _, _, .nil, ends => ends
  | _, _, @Sequence.plain part parts items _ others, ends => by
    cases parts with
    | nil => rwa [others.eq_nil]
    | cons next parts =>
      rw [List.getLast?_cons_cons] at ends
      exact List.mem_getLast?_cons (Sequence.last operates others ends)
  | _, _, @Sequence.atom block parts items item begins others, ends => by
    obtain ⟨front, closing, rfl, other⟩ := begins.last
    cases parts with
    | nil =>
      obtain rfl : closing = last := by simpa using ends
      rw [operates] at other
      cases other
    | cons next parts =>
      rw [List.getLast?_append_cons] at ends
      exact List.mem_getLast?_cons (Sequence.last operates others ends)

/-- An operator that comes last in a phrase counts. -/
theorem Phrase.last {top tier : Nat} {last : Part} (operates : last.kind.isOperator = true)
    (phrase : Phrase top tier parts item) (ends : parts.getLast? = some last) :
    last.kind = .increase ∨ last.kind = .decrease := by
  have later : ∀ {lefts rights : List Part} {operator : Part}, rights ≠ [] →
      (lefts ++ operator :: rights).getLast? = some last → rights.getLast? = some last := by
    intro lefts rights operator nonempty ends
    obtain ⟨next, rights, rfl⟩ := List.exists_cons_of_ne_nil nonempty
    rwa [List.getLast?_append_cons, List.getLast?_cons_cons] at ends
  induction phrase with
  | @operand part operand =>
    obtain rfl : part = last := by simpa using ends
    rw [Part.isOperator_of_isOperand operand] at operates
    cases operates
  | tighter _ _ ih => exact ih ends
  | leftward _ _ _ _ right _ ih => exact ih (later right.ne_nil ends)
  | rightward _ _ _ _ right _ ih => exact ih (later right.ne_nil ends)
  | negation _ _ right ih => exact ih (@later [] _ _ right.ne_nil ends)
  | @counting _ _ operator _ counts =>
    obtain rfl : operator = last := by simpa using ends
    exact counts

/-- An expression of the grammar ends with an operand, or with an operator that counts. -/
theorem Derives.last {expression : Expression} {last : Part} (derives : Derives parts expression)
    (ends : parts.getLast? = some last) (operates : last.kind.isOperator = true) :
    last.kind = .increase ∨ last.kind = .decrease := by
  cases derives with
  | phrase sequence phrase _ => exact phrase.last operates (sequence.last operates ends)

end Ends

/-- The parts of a text that was parsed. -/
theorem parts_of_parse {options : ParserOptions} {text : String} {expression : Expression}
    (parsed : parse? options text = .ok expression) :
    ∃ parts, PlacedPart.ofText? options.lenient text = .ok parts ∧ parts ≠ [] ∧
      validate options (parts.map PlacedPart.part) = .ok () := by
  unfold parse? at parsed
  cases read : PlacedPart.ofText? options.lenient text with
  | error =>
    rw [read] at parsed
    cases parsed
  | ok parts =>
    rw [read] at parsed
    obtain ⟨_, valid, -⟩ := Tiers.bind_eq_ok.mp
      (show validate options (parts.map PlacedPart.part) >>= _ = _ from parsed)
    have some := (text_eq_ok.mp (show Except.map _ _ = .ok (parts.map PlacedPart.part) by
      rw [read]
      rfl)).1
    exact ⟨parts, rfl, by simpa using some, valid⟩

/-- What a text that was parsed is read as when a minus sign and a number follow. They are read as a
subtraction and the number exactly when the text does not end with an operator; otherwise the sign
is taken for that of the number. An expression of the grammar ends with an operator only if that is
`++` or `--`. -/
theorem PlacedPart.ofText_minus {text number : String} {expression : Expression} {kind : TokenKind}
    (parsed : parse? {} text = .ok expression)
    (numeric : kind = .integerLiteral ∨ kind = .decimalLiteral)
    (identified : Token.identify? number.toList false = some kind) :
    ∃ front last, ofText? false text = .ok (front ++ [last]) ∧
      (ofText? false (text ++ " - " ++ number) =
          (number? kind number.toList false).map (fun value =>
            let size := byteLength text.toList
            front ++ [last, ⟨.text .subtract "-", ⟨size + 1, size + 2⟩⟩,
              ⟨.literal kind value, ⟨size + 3, size + 3 + byteLength number.toList⟩⟩]) ↔
        last.part.kind.isOperator = false) ∧
      (Derives ((front ++ [last]).map part) expression → last.part.kind.isOperator = true →
        last.part.kind = .increase ∨ last.part.kind = .decrease) := by
  obtain ⟨parts, read, nonempty, valid⟩ := parts_of_parse parsed
  obtain ⟨front, last, same⟩ := (List.eq_nil_or_concat parts).resolve_left nonempty
  obtain rfl : parts = front ++ [last] := by rw [same, List.concat_eq_append]
  have closed : last.part.kind.opensRange = false := by
    rw [List.map_append] at valid
    exact closed_of_validate valid
  refine ⟨front, last, read, ?_, fun derives operates => ?_⟩
  · rw [ofText_continued read closed numeric identified]
    cases operates : last.part.kind.isOperator with
    | false => simp
    | true =>
      -- a sign that is taken leaves one part less, or is blamed with the number
      rw [if_pos rfl]
      refine ⟨fun same => ?_, nofun⟩
      cases signed : number? kind number.toList true with
      | ok value =>
        rw [signed] at same
        obtain ⟨other, -, same⟩ := Tiers.map_eq_ok.mp same.symm
        simpa using congrArg List.length same
      | error error =>
        obtain rfl := error_of_number signed
        rw [signed] at same
        cases unsigned : number? kind number.toList false with
        | ok value =>
          rw [unsigned] at same
          cases same
        | error error =>
          obtain rfl := error_of_number unsigned
          rw [unsigned] at same
          simp [Except.map] at same
  · exact derives.last (by simp) operates

theorem PlacedPart.ofText_minus_of_call : ∃ expression parts,
    parse? {} "max(a, b[1])" = .ok expression ∧ ofText? false "max(a, b[1])" = .ok parts ∧
      ofText? false ("max(a, b[1])" ++ " - " ++ "2.5") =
        (number? .decimalLiteral "2.5".toList false).map fun value =>
          parts ++ [⟨.text .subtract "-", ⟨13, 14⟩⟩, ⟨.literal .decimalLiteral value, ⟨15, 18⟩⟩] := by
  obtain ⟨parts, expression, accepted, ends⟩ := Accepted.of_passes {} "max(a, b[1])"
    (fun parts _ => parts.getLast?.all fun last => !last.kind.isOperator) (by decide +kernel)
  obtain ⟨front, last, read, reads, -⟩ := @ofText_minus _ "2.5" _ _ accepted.parsed (.inr rfl)
    (by decide +kernel)
  obtain ⟨placed, again, rfl⟩ := Tiers.map_eq_ok.mp accepted.interpreted
  obtain rfl := Except.ok.inj (again.symm.trans read)
  have sizes : byteLength "max(a, b[1])".toList = 12 ∧ byteLength "2.5".toList = 3 := by decide
  refine ⟨expression, _, accepted.parsed, read, ?_⟩
  rw [reads.mpr (by simpa using ends)]
  simp only [sizes, List.append_assoc, List.singleton_append]

/-- The sign after a counting operator is taken for that of the number, although `a++` is an
expression. -/
theorem PlacedPart.ofText_minus_of_increase : ∃ expression parts,
    parse? {} "a++" = .ok expression ∧ ofText? false "a++" = .ok parts ∧
      ofText? false ("a++" ++ " - " ++ "1") ≠ .ok (parts ++
        [⟨.text .subtract "-", ⟨4, 5⟩⟩, ⟨.literal .integerLiteral (.integer 1), ⟨6, 7⟩⟩]) := by
  obtain ⟨parts, expression, accepted, two⟩ := Accepted.of_passes {} "a++"
    (fun parts _ => parts.length == 2) (by decide +kernel)
  obtain ⟨placed, read, rfl⟩ := Tiers.map_eq_ok.mp accepted.interpreted
  refine ⟨expression, placed, accepted.parsed, read, fun same => ?_⟩
  have three : (ofText? false ("a++" ++ " - " ++ "1")).toOption.map List.length = some 3 := by
    decide +kernel
  rw [same] at three
  simp only [List.length_map, beq_iff_eq] at two
  simp [Except.toOption, two] at three

end PathQuery
