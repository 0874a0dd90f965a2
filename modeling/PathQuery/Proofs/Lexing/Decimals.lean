import PathQuery.Number.DecimalText
import PathQuery.Proofs.Lexing.Numbers
import PathQuery.Proofs.Lexing.Operators

/-!
Decimals as they are written, and as they are read. Main statements: `lexed_decimal`,
`number_of_pointed`.
-/

namespace PathQuery

namespace Token

section Lexing

variable {whole places mark : List Char} {before : Option Char} {rest : List Char}

theorem parts_of_decimal {cs : List Char} (spans : decimal.Spans before cs rest) :
    ∃ whole behind, cs = whole ++ '.' :: behind ∧ (∀ c ∈ whole, c.isDigit = true) ∧ behind ≠ [] ∧
      Text.isBoundary (behind.getLast?.or (some '.')) rest.head? = true := by
  obtain ⟨_, _, rfl, ⟨rfl, -⟩, whole, _, rfl, digits, point, _, rfl, single, places, _, rfl, filled,
    mark, _, rfl, -, rfl, boundary⟩ := spans
  obtain rfl := Pattern.spans_exactly.mp single
  have nonempty := (spans_digits.mp filled).1
  refine ⟨whole, places ++ mark, by simp, (spans_digits.mp digits).2, by simp [nonempty], ?_⟩
  obtain ⟨last, ends⟩ := Option.isSome_iff_exists.mp (List.getLast?_isSome.mpr nonempty)
  simpa [ends, List.getLast?_append, Option.or_assoc] using boundary

variable (some : whole ≠ []) (digits : ∀ c ∈ whole, c.isDigit = true) (filled : places ≠ [])
  (numeric : ∀ c ∈ places, c.isDigit = true)
  (marked : mark = [] ∨ mark = ['b'] ∨ mark = ['B'])

include some digits filled numeric marked

theorem spans_decimal (starts : Neutral before) (ends : Neutral rest.head?) :
    decimal.Spans before (whole ++ '.' :: (places ++ mark)) rest := by
  have letters := isWordChar_of_mem numeric marked
  have nonempty : places ++ mark ≠ [] := by simp [filled]
  have begins := boundary_before
    (fun c member => isWordChar_of_isAlphanum (isAlphanum_of_isDigit (digits c member))) some starts
  obtain ⟨first, others, rfl⟩ := List.exists_cons_of_ne_nil some
  refine ⟨[], _, rfl, ⟨rfl, by simpa using begins⟩, first :: others, _, rfl,
    spans_digits.mpr ⟨some, digits⟩, ['.'], _, rfl, Pattern.spans_exactly.mpr rfl, places, mark,
    rfl, spans_digits.mpr ⟨filled, numeric⟩, mark, [], by simp, spans_bigMark.mpr marked, rfl, ?_⟩
  have behind := boundary_behind letters nonempty (.some '.') ends
  simpa [Option.or_assoc, List.getLast?_append] using behind

theorem settles_decimal (delimited : Delimited rest) :
    decimal.Settles (whole ++ '.' :: (places ++ mark)) rest := by
  have known : grammar[1]? = Option.some ⟨.decimalLiteral, decimal, .empty⟩ := rfl
  have compact := compact_of_entry _ (List.mem_of_getElem? known) (by decide)
  refine Pattern.settles_of_unique (by simp) (fun before neutral => spans_decimal some digits filled
    numeric marked neutral delimited.neutral) fun before others left _ divided spans => ?_
  obtain ⟨more, split, rfl⟩ := Pattern.prefix_of_compact compact delimited spans divided
  obtain ⟨front, behind, rfl, digitsFront, nonempty, boundary⟩ := parts_of_decimal spans
  rw [List.append_assoc, List.cons_append] at split
  have point : ∀ cs, ∀ c ∈ ('.' :: cs).head?, c.isDigit = false := by
    rintro cs _ ⟨⟩
    rfl
  obtain ⟨rfl, same⟩ := eq_of_runs split digits digitsFront (point _) (point _)
  -- so the places are the same up to where the match ends, which is at their boundary
  have letters := isWordChar_of_mem numeric marked
  rw [eq_of_boundary letters (List.cons.inj same).2 nonempty boundary]

theorem lexed_decimal : Lexed .decimalLiteral (whole ++ '.' :: (places ++ mark)) := by
  refine lexed_of_entry 1
    (show grammar[1]? = Option.some ⟨.decimalLiteral, decimal, .empty⟩ from rfl) (by decide) rfl
    (by simp) (fun rest delimited entry member => ?_)
    (spans_decimal some digits filled numeric marked rfl rfl)
    fun rest delimited => settles_decimal some digits filled numeric marked delimited
  obtain rfl := List.mem_singleton.mp (show entry ∈ [_] from member)
  rw [List.append_assoc]
  exact misses_quoted some digits _

omit some digits filled numeric marked

theorem digits_of_decimal {cs : List Char} (spans : decimal.Spans before cs rest) :
    ∃ whole places mark, cs = whole ++ '.' :: (places ++ mark) ∧ whole ≠ [] ∧
      (∀ c ∈ whole, c.isDigit = true) ∧ places ≠ [] ∧ (∀ c ∈ places, c.isDigit = true) ∧
      (mark = [] ∨ mark = ['b'] ∨ mark = ['B']) := by
  obtain ⟨_, _, rfl, ⟨rfl, -⟩, whole, _, rfl, digits, _, _, rfl, point, places, _, rfl, filled, mark,
    _, rfl, marks, rfl, -⟩ := spans
  obtain rfl := Pattern.spans_exactly.mp point
  obtain ⟨some, digits⟩ := spans_digits.mp digits
  obtain ⟨filled, numeric⟩ := spans_digits.mp filled
  exact ⟨whole, places, mark, by simp, some, digits, filled, numeric, spans_bigMark.mp marks⟩

theorem lexeme_of_number : ∀ entry ∈ grammar,
    (entry.kind = .integerLiteral → entry.lexeme = integer) ∧
      (entry.kind = .decimalLiteral → entry.lexeme = decimal) := by
  simp [grammar, integer, decimal]

/-- What is a number by itself is read as one wherever it stands alone. -/
theorem lexed_number {word : List Char} {kind : TokenKind} {beforeScope : Bool}
    (numeric : kind = .integerLiteral ∨ kind = .decimalLiteral)
    (identified : identify? word beforeScope = Option.some kind) : Lexed kind word := by
  obtain ⟨entry, member, rfl, spans⟩ := entry_of_identify identified
  obtain ⟨integral, pointed⟩ := lexeme_of_number entry member
  rcases numeric with named | named
  · rw [integral named] at spans
    obtain ⟨digits, mark, rfl, filled, numeric, marked⟩ := parts_of_integer spans
    rw [named]
    exact lexed_integer filled numeric marked
  · rw [pointed named] at spans
    obtain ⟨whole, places, mark, rfl, some, digits, filled, numeric, marked⟩ :=
      digits_of_decimal spans
    rw [named]
    exact lexed_decimal some digits filled numeric marked

end Lexing

end Token

namespace Number.Decimal

section Digits

variable {whole places cs rest : List Char} {point digit : Bool} {coefficient scale : Nat}

theorem le_ofDigitChars (cs : List Char) (coefficient : Nat) :
    coefficient ≤ Nat.ofDigitChars 10 cs coefficient := by
  induction cs generalizing coefficient with
  | nil => simp
  | cons c cs ih =>
    rw [Nat.ofDigitChars_cons]
    exact le_trans (by omega) (ih _)

theorem readDigits_append (numeric : ∀ c ∈ cs, c.isDigit = true)
    (fits : Nat.ofDigitChars 10 cs coefficient < 0x1000000000000000000000000)
    (room : if point then scale + cs.length ≤ 28 else scale = 0) :
    readDigits point digit coefficient scale (cs ++ rest) =
      readDigits point (digit || !cs.isEmpty) (Nat.ofDigitChars 10 cs coefficient)
        (if point then scale + cs.length else 0) rest := by
  induction cs generalizing digit coefficient scale with
  | nil =>
    cases point with
    | true => simp
    | false => simp [show scale = 0 from room]
  | cons c cs ih =>
    obtain ⟨isDigit, others⟩ := List.forall_mem_cons.mp numeric
    rw [Nat.ofDigitChars_cons] at fits ⊢
    rw [Nat.mul_comm 10] at fits ⊢
    have small := Nat.lt_of_le_of_lt (le_ofDigitChars cs _) fits
    have unfinished : (point && decide (28 ≤ scale)) = false := by
      cases point with
      | false => rfl
      | true =>
        simp only [List.length_cons, if_true] at room
        simp only [Bool.true_and, decide_eq_false_iff_not]
        omega
    rw [List.cons_append, readDigits]
    simp only [unfinished, isDigit, small, Bool.false_eq_true, if_false, if_true]
    have next : if point then (if point then scale + 1 else 0) + cs.length ≤ 28
        else (if point then scale + 1 else 0) = 0 := by
      cases point with
      | false => rfl
      | true =>
        simp only [List.length_cons, if_true] at room ⊢
        omega
    rw [ih others fits next]
    cases point with
    | false => simp
    | true => simp [Nat.add_comm, Nat.add_left_comm]

variable (digits : ∀ c ∈ whole, c.isDigit = true)

include digits

theorem readDigits_pointed (some : whole ≠ []) (numeric : ∀ c ∈ places, c.isDigit = true)
    (fits : Nat.ofDigitChars 10 (whole ++ places) 0 < 0x1000000000000000000000000)
    (room : places.length ≤ 28) :
    readDigits false false 0 0 (whole ++ '.' :: places) =
      .some (Nat.ofDigitChars 10 (whole ++ places) 0, places.length) := by
  rw [Nat.ofDigitChars_append] at fits ⊢
  have small := Nat.lt_of_le_of_lt (le_ofDigitChars places _) fits
  have filled : whole.isEmpty = false := by simpa using some
  have start : if false then 0 + whole.length ≤ 28 else 0 = 0 := rfl
  rw [readDigits_append digits small start, readDigits]
  simp only [filled, Bool.false_and, Bool.false_eq_true, if_false, Bool.not_false, Bool.or_true,
    Bool.and_true, if_true, show '.'.isDigit = false from rfl, show ('.' == '.') = true from rfl]
  rw [← List.append_nil places, readDigits_append numeric fits (by simpa using room), readDigits]
  simp

theorem readDigits_integral (value : Nat.ofDigitChars 10 whole 0 = coefficient)
    (fits : coefficient < 0x1000000000000000000000000) :
    readDigits false false 0 0 (whole ++ ['.', '0']) = .some (coefficient, 0) ∨
      coefficient * 10 < 0x1000000000000000000000000 ∧
        readDigits false false 0 0 (whole ++ ['.', '0']) = .some (coefficient * 10, 1) := by
  subst value
  have start : if false then 0 + whole.length ≤ 28 else 0 = 0 := rfl
  rw [readDigits_append digits fits start]
  by_cases room : Nat.ofDigitChars 10 whole 0 * 10 < 0x1000000000000000000000000
  · refine .inr ⟨room, ?_⟩
    simp [readDigits, room]
  · -- the reading stops at the zero, which rounds nothing up
    refine .inl ?_
    simp [readDigits, room, roundedBy]

end Digits

/-- A coefficient with decimal places is written with digits on both sides of the point. -/
theorem pointed_eq (coefficient : Nat) {scale : Nat} (placed : 0 < scale) :
    ∃ whole places, pointed coefficient scale = whole ++ '.' :: places ∧ whole ≠ [] ∧
      places ≠ [] ∧ (∀ c ∈ whole, c.isDigit = true) ∧ (∀ c ∈ places, c.isDigit = true) ∧
      places.length = scale ∧ Nat.ofDigitChars 10 (whole ++ places) 0 = coefficient := by
  let padded := List.replicate (scale + 1 - (Nat.toDigits 10 coefficient).length) '0' ++
    Nat.toDigits 10 coefficient
  have long : scale < padded.length := by
    simp only [padded, List.length_append, List.length_replicate]
    omega
  have numeric : ∀ c ∈ padded, c.isDigit = true := by
    intro c member
    rcases List.mem_append.mp member with member | member
    · rw [List.eq_of_mem_replicate member]
      rfl
    · exact Number.isDigit_of_mem_digits coefficient c member
  refine ⟨padded.take (padded.length - scale), padded.drop (padded.length - scale), ?_, ?_, ?_, ?_,
    ?_, ?_, ?_⟩
  · rw [pointed, if_neg (by omega)]
  · exact List.ne_nil_of_length_pos (by rw [List.length_take]; omega)
  · exact List.ne_nil_of_length_pos (by rw [List.length_drop]; omega)
  · exact fun c member => numeric c (List.mem_of_mem_take member)
  · exact fun c member => numeric c (List.mem_of_mem_drop member)
  · rw [List.length_drop]
    omega
  · rw [List.take_append_drop, Nat.ofDigitChars_append, Nat.ofDigitChars_replicate_zero,
      Nat.mul_zero, Nat.ofDigitChars_ten_toDigits]

theorem head_of_digits {word rest : List Char} (some : word ≠ [])
    (digits : ∀ c ∈ word, c.isDigit = true) : ∀ c ∈ (word ++ rest).head?, c ≠ '-' ∧ c ≠ '+' := by
  obtain ⟨first, others, rfl⟩ := List.exists_cons_of_ne_nil some
  rintro _ ⟨⟩
  have digit := digits first (by simp)
  constructor <;>
  · rintro rfl
    cases digit

theorem ofChars_signed {cs : List Char} {coefficient scale : Nat} (negative : Bool)
    (read : readDigits false false 0 0 cs = some (coefficient, scale))
    (unsigned : ∀ c ∈ cs.head?, c ≠ '-' ∧ c ≠ '+') :
    ofChars? (if negative then '-' :: cs else cs) =
      ofParts? (if negative then -(coefficient : Int) else coefficient) scale := by
  cases negative with
  | true => simp [ofChars?, read]
  | false =>
    cases cs with
    | nil => cases read
    | cons c cs =>
      obtain ⟨minus, plus⟩ := unsigned c rfl
      unfold ofChars?
      split
      · rename_i same
        exact absurd (List.cons.inj same).1 minus
      · rename_i same
        exact absurd (List.cons.inj same).1 plus
      · simp [read]

end Number.Decimal

namespace PlacedPart

theorem number_of_decimal {digits : List Char} {coefficient scale : Nat} {negative : Bool}
    {d : Number.Decimal} (read : Number.Decimal.readDigits false false 0 0 digits =
      some (coefficient, scale))
    (unsigned : ∀ c ∈ digits.head?, c ≠ '-' ∧ c ≠ '+')
    (held : Number.Decimal.ofParts? (if negative then -(coefficient : Int) else coefficient) scale =
      some d) :
    number? .decimalLiteral (digits ++ ['b']) negative = .ok (.decimal d) := by
  have value := Number.Decimal.ofChars_signed negative read unsigned
  simp [number?, splitMark, value, held]

end PlacedPart

end PathQuery
