import PathQuery.Proofs.Decimal
import PathQuery.Proofs.Lexing.Decimals
import PathQuery.Proofs.RoundTrip

/-!
The source text of a literal value is parsed as the value again, with arrays of literals among them.
Main statement: `parse_literal`.
-/

namespace PathQuery

section Decimals

open Number (Decimal)

variable {digits : List Char} {scale : Nat}

theorem legible_digits {whole places : List Char} {coefficient : Int} {value : Decimal}
    (some : whole ≠ []) (digits : ∀ c ∈ whole, c.isDigit = true) (filled : places ≠ [])
    (numeric : ∀ c ∈ places, c.isDigit = true) {magnitude : Nat}
    (read : Decimal.readDigits false false 0 0 (whole ++ '.' :: places) =
      .some (magnitude, value.scale))
    (held : (if decide (coefficient < 0) = true then -(magnitude : Int) else magnitude) =
      value.coefficient) :
    Legible ((if coefficient < 0 then '-' :: (whole ++ '.' :: places)
      else whole ++ '.' :: places) ++ ['b']) [.literal .decimalLiteral (.decimal value)] := by
  have head := @Decimal.head_of_digits whole ('.' :: places) some digits
  have number := @PlacedPart.number_of_decimal _ _ _ (decide (coefficient < 0)) value read head
    (by rw [held, Decimal.ofParts_eq])
  have lexed := Token.lexed_decimal some digits filled numeric (.inr (.inl rfl))
  have legible := legible_signed (.inr rfl) lexed
    (fun minus => (@Decimal.head_of_digits whole _ some digits '-' minus).1 rfl) (by simpa using number)
  by_cases negative : coefficient < 0
  · rw [if_pos negative]
    rw [if_pos (decide_eq_true negative)] at legible
    simpa using legible
  · rw [if_neg negative]
    rw [if_neg (by simpa using negative)] at legible
    simpa using legible

theorem decimalLiteral_eq (d : Decimal) :
    (Value.decimalLiteral d).toList =
      (if d.normalize.coefficient < 0 then
        '-' :: (Decimal.pointed d.normalize.coefficient.natAbs d.normalize.scale ++
          if d.normalize.scale = 0 then ['.', '0'] else [])
      else Decimal.pointed d.normalize.coefficient.natAbs d.normalize.scale ++
        if d.normalize.scale = 0 then ['.', '0'] else []) ++ ['b'] := by
  have point : d.text.toList.contains '.' = !decide (d.normalize.scale = 0) := by
    rw [Decimal.text, String.toList_ofList, Decimal.chars]
    by_cases integral : d.normalize.scale = 0
    · have plain : '.' ∉ Nat.toDigits 10 d.normalize.coefficient.natAbs := by
        intro member
        have digit := Number.isDigit_of_mem_digits _ '.' member
        cases digit
      by_cases negative : d.normalize.coefficient < 0 <;>
        simp [integral, negative, plain, Decimal.pointed]
    · obtain ⟨whole, places, split, -⟩ :=
        Decimal.pointed_eq d.normalize.coefficient.natAbs (Nat.pos_of_ne_zero integral)
      by_cases negative : d.normalize.coefficient < 0 <;> simp [integral, negative, split]
  rw [Value.decimalLiteral, point]
  by_cases integral : d.normalize.scale = 0 <;>
    by_cases negative : d.normalize.coefficient < 0 <;>
      simp [integral, negative, Decimal.text, Decimal.chars]

/-- What a decimal literal is read as: the same number without zeros at the end, but maybe with one
decimal place where it has none. -/
theorem legible_decimal (d : Decimal) : ∃ value : Decimal,
    Legible (Value.decimalLiteral d).toList [.literal .decimalLiteral (.decimal value)] ∧
      d.sameValue value = true ∧ value.toFloat = d.normalize.toFloat := by
  have room := d.normalize.coefficient_lt
  rw [decimalLiteral_eq]
  by_cases integral : d.normalize.scale = 0
  · -- printed as an integer with `.0`, the zero of which is read if there is room for it
    have numeric := Number.isDigit_of_mem_digits d.normalize.coefficient.natAbs
    have legible := fun {value : Decimal} {magnitude : Nat} =>
      @legible_digits _ ['0'] d.normalize.coefficient value Nat.toDigits_ne_nil numeric (by simp)
        (by simp) magnitude
    rw [if_pos integral, Decimal.pointed, if_pos integral]
    rcases Decimal.readDigits_integral numeric Nat.ofDigitChars_ten_toDigits room with
      read | ⟨fits, read⟩
    · exact ⟨d.normalize, legible (by rw [read, integral]) (Decimal.signed_natAbs _),
        d.sameValue_normalize, rfl⟩
    · let value : Decimal :=
        ⟨d.normalize.coefficient * 10, 1, by rw [Int.natAbs_mul]; exact fits, by decide⟩
      refine ⟨value, legible read ?_, ?_, ?_⟩
      · show _ = d.normalize.coefficient * 10
        simp only [decide_eq_true_eq]
        split <;> omega
      · obtain ⟨dropped, places, coefficient⟩ := d.normalize_spec
        rw [Decimal.sameValue_iff, coefficient, places, integral, Nat.zero_add]
        show _ = d.normalize.coefficient * 10 * 10 ^ dropped
        ring
      · have whole : d.normalize.coefficient =
            d.normalize.coefficient * 10 ^ d.normalize.scale := by
          rw [integral]
          simp
        rw [Decimal.toFloat_of_integral (show value.coefficient = _ * 10 ^ value.scale from rfl),
          Decimal.toFloat_of_integral whole]
  · obtain ⟨whole, places, split, some, filled, digits, numeric, length, value⟩ :=
      Decimal.pointed_eq d.normalize.coefficient.natAbs (Nat.pos_of_ne_zero integral)
    refine ⟨d.normalize, ?_, d.sameValue_normalize, rfl⟩
    rw [if_neg integral, List.append_nil, split]
    refine legible_digits some digits filled numeric ?_ (Decimal.signed_natAbs _)
    rw [← value] at room
    rw [Decimal.readDigits_pointed digits some numeric room (length ▸ d.normalize.scale_le), value,
      length]

end Decimals

namespace Value

/-- The values whose source text is a literal or a list of such: null, truth values, integers,
decimals, strings, and arrays of them. -/
inductive Written : Value → Prop
  | null : Written .null
  | boolean (b : Bool) : Written (.boolean b)
  | integer (n : Int32) : Written (.integer n)
  | long (n : Int64) : Written (.long n)
  | bigInteger (n : Int) : Written (.bigInteger n)
  | decimal (d : Number.Decimal) : Written (.decimal d)
  | string (text : String) : Written (.string text)
  | array {elements : List Value} : (∀ element ∈ elements, Written element) →
      Written (.array elements)

/-- Whether the second value has the structure, the types and the contents of the first, but for
integers of 64 bits that have room in 32 bits. -/
inductive Rereads : Value → Value → Prop
  | null : Rereads .null .null
  | boolean (b : Bool) : Rereads (.boolean b) (.boolean b)
  | integer (n : Int32) : Rereads (.integer n) (.integer n)
  | long {n : Int64} : Number.int32? n.toInt = none → Rereads (.long n) (.long n)
  | narrowed {n : Int64} {small : Int32} : small.toInt = n.toInt →
      Rereads (.long n) (.integer small)
  | bigInteger (n : Int) : Rereads (.bigInteger n) (.bigInteger n)
  | decimal {d other : Number.Decimal} : d.sameValue other = true →
      Rereads (.decimal d) (.decimal other)
  | string (text : String) : Rereads (.string text) (.string text)
  | array {elements others : List Value} : List.Forall₂ Rereads elements others →
      Rereads (.array elements) (.array others)

/-- Whether a decimal is a value or an element of it, at any depth. -/
inductive Holds (d : Number.Decimal) : Value → Prop
  | decimal : Holds d (.decimal d)
  | element {elements : List Value} {element : Value} : element ∈ elements → Holds d element →
      Holds d (.array elements)

/-- Whether the decimals of a value keep their floating-point numbers without the zeros at the end
of their decimal places. -/
def Steady (value : Value) : Prop :=
  ∀ d, Holds d value → (d.toFloat == d.normalize.toFloat) = true

theorem forall_holds_decimal {P : Number.Decimal → Prop} {d : Number.Decimal} :
    (∀ held, Holds held (.decimal d) → P held) ↔ P d := by
  constructor
  · exact fun all => all d .decimal
  · rintro one _ ⟨⟩
    exact one

theorem forall_holds_array {P : Number.Decimal → Prop} {elements : List Value} :
    (∀ d, Holds d (.array elements) → P d) ↔
      ∀ element ∈ elements, ∀ d, Holds d element → P d := by
  constructor
  · intro all element member d holds
    exact all d (.element member holds)
  · intro each d holds
    cases holds with
    | element member holds => exact each _ member d holds

theorem steady_array {elements : List Value} :
    (Value.array elements).Steady ↔ ∀ element ∈ elements, element.Steady :=
  forall_holds_array

/-- How a value is read from its source text. -/
structure Reading (value other : Value) (tokens : List Part) : Prop where
  legible : Legible value.literal.toList tokens
  derives : Derives tokens (.literal other)
  rereads : Rereads value other
  same : value.sameLiteral other = true ↔ value.Steady

theorem parse_of_legible {text : String} {tokens : List Part} {expression : Expression}
    (legible : Legible text.toList tokens) (derives : Derives tokens expression) :
    parse? {} text = .ok expression :=
  parse_eq_ok.mpr ⟨tokens, derives.ne_nil, legible.readable, validate_enclosed derives.enclosed,
    Analysis.analyze_elements (.single derives)⟩

theorem derives_item {tokens : List Part} {item : Part} {expression : Expression}
    (sequence : Sequence tokens [item]) (operand : item.isOperand = true)
    (value : item.value? = some expression) : Derives tokens expression :=
  .phrase sequence ((Phrase.operand operand).loosen (Nat.zero_le _)) value

theorem derives_literal {kind : TokenKind} (value : Value) (literal : kind.isLiteral = true) :
    Derives [.literal kind value] (.literal value) :=
  derives_item (.plain (isPlain_literal value literal) .nil) literal rfl

theorem reading_of_exact {kind : TokenKind} {value other : Value} (literal : kind.isLiteral = true)
    (legible : Legible value.literal.toList [.literal kind other]) (rereads : Rereads value other)
    (same : value.sameLiteral other = true) (without : ∀ d, ¬Holds d value) :
    Reading value other [.literal kind other] :=
  ⟨legible, derives_literal other literal, rereads,
    iff_of_true same fun d holds => absurd holds (without d)⟩

theorem reading_long (n : Int64) :
    ∃ other, Reading (.long n) other [.literal .integerLiteral other] := by
  have legible := legible_number (.inl rfl) n.toInt
  rw [List.append_nil] at legible
  cases small : Number.int32? n.toInt with
  | none =>
    rw [PlacedPart.valueOf_long small] at legible
    exact ⟨.long n, reading_of_exact rfl
      (by simpa [literal, print, Number.integerText] using legible) (.long small)
      (by simp [sameLiteral, integral?]) (by rintro d ⟨⟩)⟩
  | some m =>
    have same := Number.toInt_of_int32 small
    rw [← same, PlacedPart.valueOf_integer] at legible
    refine ⟨.integer m, reading_of_exact rfl ?_ (.narrowed same)
      (by simp [sameLiteral, integral?, same]) (by rintro d ⟨⟩)⟩
    simpa [literal, print, Number.integerText, ← same] using legible

theorem reading_decimal (d : Number.Decimal) :
    ∃ other, Reading (.decimal d) other [.literal .decimalLiteral other] := by
  obtain ⟨value, legible, same, float⟩ := legible_decimal d
  refine ⟨.decimal value, by simpa [literal, print] using legible, derives_literal _ rfl,
    .decimal same, ?_⟩
  have equal : (Value.decimal d).sameLiteral (.decimal value) = (d.toFloat == value.toFloat) := by
    simp [sameLiteral, integral?, float?]
  rw [equal, float]
  exact (@forall_holds_decimal (fun d => (d.toFloat == d.normalize.toFloat) = true) d).symm

structure ReadingAll (values others : List Value) (tokens : List Part) : Prop where
  legible : Legible (", ".intercalate (printElements true values)).toList tokens
  elements : Elements tokens (others.map .literal)
  rereads : List.Forall₂ Rereads values others
  same : sameLiteral.sameLiterals values others = true ↔ ∀ value ∈ values, value.Steady

theorem readingAll_of_readings {value : Value} {values : List Value}
    (readings : ∀ element ∈ value :: values, ∃ other tokens, Reading element other tokens) :
    ∃ others tokens, ReadingAll (value :: values) others tokens := by
  induction values generalizing value with
  | nil =>
    obtain ⟨other, tokens, reading⟩ := readings value List.mem_cons_self
    refine ⟨[other], tokens, ?_, .single reading.derives, .cons reading.rereads .nil, ?_⟩
    · simpa [printElements, literal] using reading.legible
    · simpa [sameLiteral.sameLiterals] using reading.same
  | cons next values ih =>
    obtain ⟨other, tokens, reading⟩ := readings value List.mem_cons_self
    obtain ⟨others, more, all⟩ := ih fun element member =>
      readings element (List.mem_cons_of_mem value member)
    refine ⟨other :: others, tokens ++ .text .separator "," :: more, ?_,
      .cons reading.derives rfl all.elements, .cons reading.rereads all.rereads, ?_⟩
    · have legible := legible_separated reading.legible all.legible
      simpa [printElements, String.intercalate_cons_cons, literal] using legible
    · rw [sameLiteral.sameLiterals, Bool.and_eq_true, reading.same, all.same]
      exact List.forall_mem_cons.symm

theorem derives_array {tokens : List Part} {values : List Value}
    (listed : Listed .indexStart .indexStop tokens (values.map .literal)) :
    Derives tokens (.literal (.array values)) := by
  have sequence := Sequence.atom (.array listed) .nil
  rw [List.append_nil] at sequence
  exact derives_item sequence rfl rfl

theorem reading_array {elements : List Value}
    (readings : ∀ element ∈ elements, ∃ other tokens, Reading element other tokens) :
    ∃ other tokens, Reading (.array elements) other tokens := by
  cases elements with
  | nil =>
    refine ⟨.array [], [.text .indexStart "[", .text .indexStop "]"], ?_,
      derives_array (.empty rfl rfl), .array .nil, ?_⟩
    · simpa [literal, print, printElements] using legible_brackets legible_nothing
    · simp [sameLiteral, sameLiteral.sameLiterals, steady_array]
  | cons value values =>
    obtain ⟨others, tokens, all⟩ := readingAll_of_readings readings
    refine ⟨.array others, .text .indexStart "[" :: tokens ++ [.text .indexStop "]"], ?_,
      derives_array (.elements rfl rfl all.elements), .array all.rereads, ?_⟩
    · simpa [literal, print] using legible_brackets all.legible
    · rw [sameLiteral, all.same, steady_array]

theorem Written.reading {value : Value} (written : Written value) :
    ∃ other tokens, Reading value other tokens := by
  induction written with
  | null =>
    exact ⟨_, _, reading_of_exact rfl (legible_literal Token.lexed_null (by simp)) .null rfl
      (by rintro d ⟨⟩)⟩
  | boolean b =>
    cases b with
    | true =>
      exact ⟨_, _, reading_of_exact rfl (legible_literal Token.lexed_true (by simp))
        (.boolean true) rfl (by rintro d ⟨⟩)⟩
    | false =>
      exact ⟨_, _, reading_of_exact rfl (legible_literal Token.lexed_false (by simp))
        (.boolean false) rfl (by rintro d ⟨⟩)⟩
  | integer n =>
    have legible := legible_number (.inl rfl) n.toInt
    rw [PlacedPart.valueOf_integer, List.append_nil] at legible
    exact ⟨_, _, reading_of_exact rfl
      (by simpa [literal, print, Number.integerText] using legible) (.integer n)
      (by simp [sameLiteral, integral?]) (by rintro d ⟨⟩)⟩
  | long n =>
    obtain ⟨other, reading⟩ := reading_long n
    exact ⟨other, _, reading⟩
  | bigInteger n =>
    have legible := legible_number (.inr rfl) n
    exact ⟨_, _, reading_of_exact rfl
      (by simpa [literal, print, Number.integerText] using legible) (.bigInteger n)
      (by simp [sameLiteral, integral?]) (by rintro d ⟨⟩)⟩
  | decimal d =>
    obtain ⟨other, reading⟩ := reading_decimal d
    exact ⟨other, _, reading⟩
  | string text =>
    have legible := legible_literal (Value.lexed_quote text) List.mem_cons_self
    rw [Value.unquote_quote] at legible
    exact ⟨_, _, reading_of_exact rfl (by simpa [literal, print] using legible) (.string text)
      (by simp [sameLiteral, integral?, Value.same]) (by rintro d ⟨⟩)⟩
  | array _ ih => exact reading_array ih

theorem toFloat_normalize {d : Number.Decimal}
    (plain : d.scale = d.normalize.scale ∨ d.normalize.scale = 0) :
    (d.toFloat == d.normalize.toFloat) = true := by
  obtain ⟨dropped, places, coefficient⟩ := d.normalize_spec
  have same : d.toFloat = d.normalize.toFloat := by
    rcases plain with kept | integral
    · obtain rfl : dropped = 0 := by omega
      rw [pow_zero, mul_one] at coefficient
      exact congrArg _ (Number.Decimal.ext_parts coefficient kept)
    · rw [integral, Nat.zero_add] at places
      rw [← places] at coefficient
      have whole : d.normalize.coefficient =
          d.normalize.coefficient * 10 ^ d.normalize.scale := by
        rw [integral, pow_zero, mul_one]
      rw [Number.Decimal.toFloat_of_integral coefficient, Number.Decimal.toFloat_of_integral whole]
  rw [same]
  exact d.normalize.toFloat_beq_self

theorem Reading.parsed {value other : Value} {tokens : List Part}
    (reading : Reading value other tokens) : parse? {} value.literal = .ok (.literal other) :=
  parse_of_legible reading.legible reading.derives

/-- The source text of a literal is parsed as a literal of the same structure. That literal is equal
to the first one exactly if no decimal's floating-point number depends on the zeros at its end,
which are not printed. -/
theorem parse_literal {value : Value} (written : Written value) :
    ∃ other, parse? {} value.literal = .ok (.literal other) ∧ Rereads value other ∧
      (value.sameLiteral other = true ↔
        ∀ d, Holds d value → (d.toFloat == d.normalize.toFloat) = true) ∧
      ((∀ d, Holds d value → d.scale = d.normalize.scale ∨ d.normalize.scale = 0) →
        value.sameLiteral other = true) := by
  obtain ⟨other, tokens, reading⟩ := written.reading
  refine ⟨other, reading.parsed, reading.rereads, reading.same, ?_⟩
  intro plain
  exact reading.same.mpr fun d holds => toFloat_normalize (plain d holds)

theorem parse_literal_of_table :
    let table : Value := .array [.array [.string "a\"b\\", .null, .long 7], .array [],
      .array [.decimal ⟨-2500, 2, by decide, by decide⟩, .bigInteger 9223372036854775808]]
    ∃ other, parse? {} table.literal = .ok (.literal other) ∧ Rereads table other ∧
      table.sameLiteral other = true := by
  intro table
  have written : Written table := by
    refine .array ?_
    simp only [List.forall_mem_cons, List.not_mem_nil, false_implies, implies_true, and_true]
    refine ⟨.array ?_, .array (by simp), .array ?_⟩
    · simp [Written.string, Written.null, Written.long]
    · simp [Written.decimal, Written.bigInteger]
  obtain ⟨other, parsed, rereads, -, same⟩ := parse_literal written
  refine ⟨other, parsed, rereads, same (forall_holds_array.mpr ?_)⟩
  simp only [List.forall_mem_cons, List.not_mem_nil, false_implies, implies_true, and_true,
    true_and, forall_holds_array, forall_holds_decimal]
  refine ⟨⟨?_, ?_, ?_⟩, by decide, ?_⟩ <;>
  · rintro d ⟨⟩

/-- A decimal with zeros at its end that is not equal to what its text is parsed as. -/
theorem not_parse_literal_of_zeros :
    let d : Number.Decimal := ⟨3220000000000000, 14, by decide, by decide⟩
    parse? {} "32.20000000000000b" = .ok (.literal (.decimal d)) ∧ Written (.decimal d) ∧
      ¬∃ other, parse? {} (Value.decimal d).literal = .ok (.literal other) ∧
        (Value.decimal d).sameLiteral other = true := by
  intro d
  refine ⟨?_, .decimal d, ?_⟩
  · have legible := @legible_digits "32".toList "20000000000000".toList 3220000000000000 d
      (by decide) (by simp) (by decide) (by simp) 3220000000000000 (by decide) (by decide)
    exact parse_of_legible (by simpa using legible) (derives_literal _ rfl)
  · rintro ⟨other, parsed, same⟩
    obtain ⟨read, reading⟩ := reading_decimal d
    obtain rfl : other = read := by
      have again := reading.parsed
      rw [parsed] at again
      exact Expression.literal.inj (Except.ok.inj again)
    exact absurd (reading.same.mp same d .decimal) (by decide +kernel)

end Value

end PathQuery
