import PathQuery.Expression.Part
import PathQuery.Proofs.LetterCase
import PathQuery.Proofs.Lexing.Entries
import PathQuery.Value.Text

/-!
Literals as they are written, and as the grammar reads them. Main statements: `lexed_integer`,
`lexed_quote`.
-/

namespace PathQuery

namespace Token

theorem fixed_words : fixed 3 "true".toList = true ∧ fixed 4 "false".toList = true ∧
    fixed 5 "null".toList = true := by
  decide +kernel

theorem lexed_true : Lexed .trueLiteral "true".toList :=
  lexed_of_fixed (show grammar[3]? = some ⟨.trueLiteral, word "true", .empty⟩ from rfl)
    (by decide) rfl fixed_words.1

theorem lexed_false : Lexed .falseLiteral "false".toList :=
  lexed_of_fixed (show grammar[4]? = some ⟨.falseLiteral, word "false", .empty⟩ from rfl)
    (by decide) rfl fixed_words.2.1

theorem lexed_null : Lexed .nullLiteral "null".toList :=
  lexed_of_fixed (show grammar[5]? = some ⟨.nullLiteral, word "null", .empty⟩ from rfl)
    (by decide) rfl fixed_words.2.2

theorem begins_quoted {quote c : Char} (begins : (quoted quote).begins c = true) : c = quote := by
  simpa [quoted, Pattern.concat, Pattern.begins, Pattern.nullable, Pattern.exactly] using begins

theorem eq_of_boundary {cs others more rest : List Char} {before : Option Char}
    (letters : ∀ c ∈ cs, Text.isWordChar c = true) (split : cs = others ++ more)
    (some : others ≠ [])
    (boundary : Text.isBoundary (others.getLast?.or before) (more ++ rest).head? = true) :
    others = cs := by
  subst split
  cases more with
  | nil => simp
  | cons c more =>
    -- word characters on both sides: no boundary
    have last := List.getLast?_eq_some_getLast some
    have inside := letters (others.getLast some) (by simp)
    have next := letters c (by simp)
    simp [Text.isBoundary, last, inside, next] at boundary

theorem boundary_before {cs : List Char} (letters : ∀ c ∈ cs, Text.isWordChar c = true)
    (nonempty : cs ≠ []) {before : Option Char} (neutral : Neutral before) :
    Text.isBoundary before cs.head? = true := by
  obtain ⟨c, cs, rfl⟩ := List.exists_cons_of_ne_nil nonempty
  simp [Text.isBoundary, show before.any Text.isWordChar = false from neutral, letters c (by simp)]

theorem boundary_behind {cs : List Char} (letters : ∀ c ∈ cs, Text.isWordChar c = true)
    (nonempty : cs ≠ []) (before : Option Char) {next : Option Char} (neutral : Neutral next) :
    Text.isBoundary (cs.getLast?.or before) next = true := by
  have last := letters _ (List.getLast_mem nonempty)
  rw [List.getLast?_eq_some_getLast nonempty, Text.isBoundary,
    show next.any Text.isWordChar = false from neutral, Option.some_or, Option.any_some, last]
  rfl

theorem settles_of_bounded {pattern : Pattern} (indifferent : pattern.Indifferent)
    (compact : pattern.compact = true) {cs rest : List Char}
    (letters : ∀ c ∈ cs, Text.isWordChar c = true) (nonempty : cs ≠ [])
    (spans : pattern.Spans none cs [])
    (bounded : ∀ {before others left}, pattern.Spans before others left →
      Text.isBoundary (others.getLast?.or before) left.head? = true)
    (delimited : Delimited rest) : pattern.Settles cs rest := by
  refine Pattern.settles_of_unique nonempty (fun before neutral => ?_) ?_
  · simpa using Pattern.spans_surrounded indifferent neutral delimited.neutral spans
  · intro before others left some whole spans
    obtain ⟨more, split, rfl⟩ := Pattern.prefix_of_compact compact delimited spans whole
    exact eq_of_boundary letters split some (bounded spans)

section Integers

variable {digits mark : List Char}

/-- The pattern of integers. -/
def integer : Pattern :=
  Pattern.concat [Pattern.boundary, Token.digits, bigMark, Pattern.boundary]

/-- The pattern of decimals. -/
def decimal : Pattern :=
  Pattern.concat [Pattern.boundary, Token.digits, Pattern.exactly '.', Token.digits, bigMark,
    Pattern.boundary]

theorem toNat_lt_of_isAlphanum {c : Char} (plain : c.isAlphanum = true) : c.toNat < 0x80 := by
  delta Char.isAlphanum Char.isAlpha Char.isUpper Char.isLower Char.isDigit at plain
  simp only [Bool.or_eq_true, Bool.and_eq_true, decide_eq_true_eq, UInt32.le_iff_toNat_le,
    ge_iff_le] at plain
  have : c.toNat = c.val.toNat := rfl
  have : 'Z'.val.toNat = 90 := rfl
  have : 'z'.val.toNat = 122 := rfl
  have : '9'.val.toNat = 57 := rfl
  omega

theorem isWordChar_of_isAlphanum {c : Char} (plain : c.isAlphanum = true) :
    Text.isWordChar c = true := by
  rw [Text.isWordChar, if_pos (toNat_lt_of_isAlphanum plain), plain]
  rfl

theorem isAlphanum_of_isDigit {c : Char} (digit : c.isDigit = true) : c.isAlphanum = true := by
  simp [Char.isAlphanum, digit]

theorem spans_digits {before : Option Char} {cs rest : List Char} :
    Token.digits.Spans before cs rest ↔ cs ≠ [] ∧ ∀ c ∈ cs, c.isDigit = true :=
  Pattern.spans_oneOrMore_char

theorem boundary_of_integer {before : Option Char} {cs rest : List Char}
    (spans : integer.Spans before cs rest) :
    Text.isBoundary (cs.getLast?.or before) rest.head? = true := by
  obtain ⟨_, _, rfl, ⟨rfl, -⟩, front, _, rfl, -, mark, _, rfl, -, rfl, boundary⟩ := spans
  simpa [Option.or_assoc] using boundary

theorem point_of_decimal {before : Option Char} {cs rest : List Char}
    (spans : decimal.Spans before cs rest) : '.' ∈ cs := by
  obtain ⟨_, _, rfl, -, _, _, rfl, -, point, _, rfl, single, -⟩ := spans
  rw [Pattern.spans_exactly.mp single]
  simp

theorem folds_bigMark : ∀ point ∈ Text.folds 'b',
    Char.ofNat point = 'b' ∨ Char.ofNat point = 'B' := by
  decide +kernel

theorem spans_bigMark {before : Option Char} {rest : List Char} :
    bigMark.Spans before mark rest ↔ mark = [] ∨ mark = ['b'] ∨ mark = ['B'] := by
  constructor
  · rintro (⟨c, variant, rfl⟩ | rfl)
    · have cases := folds_bigMark c.toNat (Text.mem_folds (by decide) variant)
      rw [Char.ofNat_toNat] at cases
      simpa using cases
    · exact .inl rfl
  · rintro (rfl | rfl | rfl)
    · exact .inr rfl
    · exact .inl ⟨'b', by decide +kernel, rfl⟩
    · exact .inl ⟨'B', by decide +kernel, rfl⟩

theorem parts_of_integer {before : Option Char} {cs rest : List Char}
    (spans : integer.Spans before cs rest) : ∃ digits mark, cs = digits ++ mark ∧ digits ≠ [] ∧
      (∀ c ∈ digits, c.isDigit = true) ∧ (mark = [] ∨ mark = ['b'] ∨ mark = ['B']) := by
  obtain ⟨_, _, rfl, ⟨rfl, -⟩, digits, _, rfl, numeric, mark, _, rfl, marks, rfl, -⟩ := spans
  obtain ⟨filled, numeric⟩ := spans_digits.mp numeric
  exact ⟨digits, mark, by simp, filled, numeric, spans_bigMark.mp marks⟩

variable (filled : digits ≠ []) (numeric : ∀ c ∈ digits, c.isDigit = true)
  (marked : mark = [] ∨ mark = ['b'] ∨ mark = ['B'])

include filled numeric in
theorem misses_quoted (behind : List Char) :
    (Pattern.either (quoted '"') (quoted '\'')).Misses (digits ++ behind) := by
  obtain ⟨first, others, rfl⟩ := List.exists_cons_of_ne_nil filled
  refine Pattern.misses_of_begins (Bool.eq_false_iff.mpr fun begins => ?_) _
  have digit := numeric first (by simp)
  rcases Bool.or_eq_true_iff.mp begins with begins | begins <;>
  · rw [begins_quoted begins] at digit
    cases digit

include numeric marked in
theorem isAlphanum_of_mem : ∀ c ∈ digits ++ mark, c.isAlphanum = true := by
  intro c member
  rcases List.mem_append.mp member with member | member
  · exact isAlphanum_of_isDigit (numeric c member)
  · rcases marked with rfl | rfl | rfl
    · cases member
    · obtain rfl := List.mem_singleton.mp member
      rfl
    · obtain rfl := List.mem_singleton.mp member
      rfl

include numeric marked in
theorem isWordChar_of_mem : ∀ c ∈ digits ++ mark, Text.isWordChar c = true :=
  fun c member => isWordChar_of_isAlphanum (isAlphanum_of_mem numeric marked c member)

include filled numeric marked

theorem spans_integer : integer.Spans none (digits ++ mark) [] := by
  have letters := isWordChar_of_mem numeric marked
  have nonempty : digits ++ mark ≠ [] := by simp [filled]
  refine ⟨[], _, rfl, ⟨rfl, ?_⟩, digits, mark, rfl, spans_digits.mpr ⟨filled, numeric⟩, mark, [],
    by simp, spans_bigMark.mpr marked, rfl, ?_⟩
  · simpa using boundary_before letters nonempty (show Neutral none from rfl)
  · have behind := boundary_behind letters nonempty none (show Neutral none from rfl)
    simpa [Option.or_assoc] using behind

theorem lexed_integer : Lexed .integerLiteral (digits ++ mark) := by
  have nonempty : digits ++ mark ≠ [] := by simp [filled]
  have letters := isWordChar_of_mem numeric marked
  refine lexed_of_entry 2 (show grammar[2]? = some ⟨.integerLiteral, integer, .empty⟩ from rfl)
    (by decide) rfl nonempty (fun rest delimited entry member => ?_)
    (spans_integer filled numeric marked) fun rest delimited => ?_
  · rcases List.mem_cons.mp (show entry ∈ _ :: _ from member) with rfl | member
    · rw [List.append_assoc]
      exact misses_quoted filled numeric _
    · -- a decimal would have its point among the digits
      obtain rfl := List.mem_singleton.mp member
      intro before others left _ whole spans
      have compact := compact_of_entry _
        (List.mem_of_getElem? (show grammar[1]? = some _ from rfl)) (by decide)
      obtain ⟨more, split, -⟩ := Pattern.prefix_of_compact compact delimited spans whole
      have point := isAlphanum_of_mem numeric marked '.'
        (split ▸ List.mem_append_left _ (point_of_decimal spans))
      cases point
  · have known : grammar[2]? = some ⟨.integerLiteral, integer, .empty⟩ := rfl
    have member := List.mem_of_getElem? known
    exact settles_of_bounded (grammar_indifferent _ member).1
      (compact_of_entry _ member (by decide)) letters nonempty
      (spans_integer filled numeric marked) boundary_of_integer delimited

end Integers

/-- What may stand between two quotes of a kind. -/
inductive Quotable (mark : Char) : List Char → Prop
  | nil : Quotable mark []
  | plain {c : Char} {cs : List Char} : c ≠ mark → c ≠ '\\' → Quotable mark cs →
      Quotable mark (c :: cs)
  | escaped {c : Char} {cs : List Char} : Quotable mark cs → Quotable mark ('\\' :: c :: cs)

theorem spans_quoted {mark : Char} {before : Option Char} {cs rest : List Char} :
    (quoted mark).Spans before cs rest ↔
      ∃ inside, Quotable mark inside ∧ cs = mark :: (inside ++ [mark]) := by
  have spans_inside : ∀ {before rest inside},
      (Pattern.many (.either (.char fun c => c != mark && c != '\\')
        (.seq (Pattern.exactly '\\') (.char fun _ => true)))).Spans before inside rest ↔
      Quotable mark inside := by
    intro before rest inside
    rw [Pattern.Spans]
    constructor
    · intro repeated
      induction repeated with
      | done => exact .nil
      | more first _ others =>
        rcases first with ⟨c, accepted, rfl⟩ | ⟨_, _, rfl, first, c, -, rfl⟩
        · simp only [Bool.and_eq_true, bne_iff_ne] at accepted
          exact .plain accepted.1 accepted.2 others
        · rw [Pattern.spans_exactly.mp first]
          exact .escaped others
    · intro quotable
      induction quotable generalizing before with
      | nil => exact .done
      | @plain c cs notMark notEscape _ others =>
        show Pattern.Repeated _ before ([c] ++ cs) rest
        exact .more (.inl ⟨c, by simp [notMark, notEscape], rfl⟩) others
      | @escaped c cs _ others =>
        show Pattern.Repeated _ before (['\\', c] ++ cs) rest
        exact .more (.inr ⟨['\\'], [c], rfl, Pattern.spans_exactly.mpr rfl, c, rfl, rfl⟩) others
  constructor
  · rintro ⟨_, _, rfl, opens, inside, _, rfl, spans, closes⟩
    rw [Pattern.spans_exactly.mp opens, Pattern.spans_exactly.mp closes]
    exact ⟨inside, spans_inside.mp spans, rfl⟩
  · rintro ⟨inside, quotable, rfl⟩
    exact ⟨[mark], _, rfl, Pattern.spans_exactly.mpr rfl, inside, [mark], rfl,
      spans_inside.mpr quotable, Pattern.spans_exactly.mpr rfl⟩

theorem quotable_of_spans {before : Option Char} {cs rest : List Char}
    (spans : (Pattern.either (quoted '"') (quoted '\'')).Spans before cs rest) :
    ∃ quote inside, quote ∈ ['"', '\''] ∧ Quotable quote inside ∧ cs = quote :: (inside ++ [quote]) := by
  rcases spans with spans | spans
  · obtain ⟨inside, quotable, same⟩ := spans_quoted.mp spans
    exact ⟨_, inside, by simp, quotable, same⟩
  · obtain ⟨inside, quotable, same⟩ := spans_quoted.mp spans
    exact ⟨_, inside, by simp, quotable, same⟩

theorem Quotable.unique {mark : Char} (other : mark ≠ '\\') {inside more rest left : List Char}
    (quotable : Quotable mark inside) (again : Quotable mark more)
    (same : inside ++ mark :: rest = more ++ mark :: left) : inside = more := by
  -- the first mark that no backslash precedes ends both
  induction quotable generalizing more with
  | nil =>
    cases again with
    | nil => rfl
    | plain notMark => exact absurd (List.cons.inj same).1.symm notMark
    | escaped => exact absurd (List.cons.inj same).1 other
  | plain notMark notEscape _ ih =>
    cases again with
    | nil => exact absurd (List.cons.inj same).1 notMark
    | plain _ _ others =>
      obtain ⟨rfl, behind⟩ := List.cons.inj same
      rw [ih others behind]
    | escaped => exact absurd (List.cons.inj same).1 notEscape
  | escaped _ ih =>
    cases again with
    | nil => exact absurd (List.cons.inj same).1.symm other
    | plain _ notEscape => exact absurd (List.cons.inj same).1.symm notEscape
    | escaped others =>
      obtain ⟨-, second⟩ := List.cons.inj same
      obtain ⟨rfl, behind⟩ := List.cons.inj second
      rw [ih others behind]

theorem lexed_string {mark : Char} {inside : List Char} (quote : mark = '"' ∨ mark = '\'')
    (quotable : Quotable mark inside) : Lexed .stringLiteral (mark :: (inside ++ [mark])) := by
  have other : mark ≠ '\\' := by
    rcases quote with rfl | rfl <;> decide
  have spans : ∀ before rest, (Pattern.either (quoted '"') (quoted '\'')).Spans before
      (mark :: (inside ++ [mark])) rest := by
    intro before rest
    rcases quote with rfl | rfl
    · exact .inl (spans_quoted.mpr ⟨inside, quotable, rfl⟩)
    · exact .inr (spans_quoted.mpr ⟨inside, quotable, rfl⟩)
  refine lexed_of_entry 0
    (show grammar[0]? = some ⟨.stringLiteral, .either (quoted '"') (quoted '\''), .empty⟩ from rfl)
    (by decide) rfl (by simp) (by simp) (spans none []) fun rest _ => ?_
  refine Pattern.settles_of_unique (by simp) (fun before _ => spans before rest) ?_
  intro before others left _ whole again
  rcases again with again | again <;>
  · obtain ⟨more, quotable', rfl⟩ := spans_quoted.mp again
    obtain ⟨rfl, -⟩ := List.cons.inj whole
    rw [@Quotable.unique _ other _ _ rest left quotable quotable' (by simpa using whole)]

end Token

namespace Value

theorem quotable_escape {mark : Char} (text : List Char) :
    Token.Quotable mark (text.flatMap (escape mark)) := by
  induction text with
  | nil => exact .nil
  | cons c text ih =>
    rw [List.flatMap_cons, escape]
    split
    · exact .escaped ih
    split
    · exact .escaped ih
    split
    · exact .escaped ih
    split
    · exact .escaped ih
    split
    · exact .escaped ih
    · rename_i notEscape _ _ _ notMark
      exact .plain (by simpa using notMark) (by simpa using notEscape) ih

theorem unescape_escape {mark : Char} (quote : mark = '"' ∨ mark = '\'') (text : List Char) :
    PlacedPart.unescape (text.flatMap (escape mark)) = text := by
  induction text with
  | nil => rfl
  | cons c text ih =>
    rw [List.flatMap_cons, escape]
    split
    · rename_i same
      simp [eq_of_beq same, PlacedPart.unescape, ih]
    split
    · rename_i same
      simp [eq_of_beq same, PlacedPart.unescape, ih]
    split
    · rename_i same
      simp [eq_of_beq same, PlacedPart.unescape, ih]
    split
    · rename_i same
      simp [eq_of_beq same, PlacedPart.unescape, ih]
    split
    · rename_i same
      obtain rfl := eq_of_beq same
      rcases quote with rfl | rfl <;> simp [PlacedPart.unescape, ih]
    · rename_i notEscape _ _ _ _
      rw [List.singleton_append, PlacedPart.unescape, ih]
      exact fun _ _ same => absurd same (by simpa using notEscape)

theorem quote_eq (text : String) : ∃ mark, (mark = '"' ∨ mark = '\'') ∧
    (quote text).toList = mark :: (text.toList.flatMap (escape mark) ++ [mark]) := by
  refine ⟨quoteFor text.toList, ?_, by simp [quote]⟩
  unfold quoteFor
  split
  · exact .inr rfl
  · exact .inl rfl

theorem lexed_quote (text : String) : Lexed .stringLiteral (quote text).toList := by
  obtain ⟨mark, quote, same⟩ := quote_eq text
  rw [same]
  exact Token.lexed_string quote (quotable_escape text.toList)

theorem unquote_quote (text : String) : PlacedPart.unquote (quote text).toList = text := by
  obtain ⟨mark, quote, same⟩ := quote_eq text
  rw [same]
  simp [PlacedPart.unquote, unescape_escape quote]

end Value

end PathQuery
