import PathQuery.Proofs.Legible
import PathQuery.Proofs.Lexing.Literals
import PathQuery.Proofs.Partition

/-!
Texts that go on after a space. The lexemes before the space are those of the text by itself. Main
statement: `from_continued`.
-/

namespace PathQuery

namespace Surroundings

/-- The text that goes on with a space and more. -/
def spaced (rest : List Char) : Surroundings :=
  ⟨none, ' ' :: rest, 0⟩

theorem leads_place (around : Surroundings) {cursor place : Cursor} {word : List Char}
    (leads : cursor.Leads word place) : (around.place cursor).Leads word (around.place place) := by
  refine ⟨?_, ?_, ?_⟩
  · simp [Surroundings.place, leads.rest]
  · simp [Surroundings.place, leads.before, Option.or_assoc]
  · simp only [Surroundings.place, leads.passed]
    omega

end Surroundings

namespace Token

theorem lexeme_of_spacious : ∀ entry ∈ grammar, entry.lexeme.avoids ' ' = false →
    entry.lexeme = .either (quoted '"') (quoted '\'') ∨ entry.lexeme = negated := by
  have kinds : ∀ entry ∈ grammar, entry.lexeme.avoids ' ' = false →
      entry.kind = .stringLiteral ∨ entry.kind = .notIn := by
    decide +kernel
  have lexemes : ∀ entry ∈ grammar,
      (entry.kind = .stringLiteral → entry.lexeme = .either (quoted '"') (quoted '\'')) ∧
        (entry.kind = .notIn → entry.lexeme = negated ∨ entry.lexeme = Pattern.text "!#") := by
    simp [grammar, negated]
  intro entry member spacious
  obtain ⟨quotes, negates⟩ := lexemes entry member
  rcases kinds entry member spacious with named | named
  · exact .inl (quotes named)
  · refine .inr ((negates named).resolve_right fun symbol => ?_)
    rw [symbol] at spacious
    revert spacious
    decide

theorem kind_of_quote : ∀ quote ∈ ['"', '\''], ∀ entry ∈ grammar,
    entry.lexeme.begins quote = true → entry.kind = .stringLiteral := by
  refine List.all_iff_forall_prop.mp ?_
  decide +kernel

theorem lexeme_of_string : ∀ entry ∈ grammar, entry.kind = .stringLiteral →
    entry.lexeme = .either (quoted '"') (quoted '\'') := by
  simp [grammar]

variable {cursor place : Cursor} {kind : TokenKind} {rest : List Char}

/-- What may follow a space and neither continues a lexeme before it nor calls it. -/
structure Parted (rest : List Char) : Prop where
  uncalled : ¬Called (' ' :: rest)
  avoided : ∀ c ∈ rest.head?, negated.avoids c = true

theorem Parted.separate (parted : Parted rest) : (Surroundings.spaced rest).Separate :=
  ⟨rfl, rfl, parted.uncalled⟩

theorem avoids_numeric : ∀ point < 0x80, (Char.ofNat point = '-' ∨ (Char.ofNat point).isDigit = true) →
    negated.avoids (Char.ofNat point) = true ∧ Text.isBlank (Char.ofNat point) = false ∧
      Char.ofNat point ≠ '(' := by
  decide +kernel

/-- A number may follow, with its sign. -/
theorem parted_of_number {c : Char} (numeric : c = '-' ∨ c.isDigit = true) : Parted (c :: rest) := by
  have ascii : c.toNat < 0x80 := by
    rcases numeric with rfl | digit
    · decide
    · exact toNat_lt_of_isAlphanum (isAlphanum_of_isDigit digit)
  have known := avoids_numeric c.toNat ascii
  rw [Char.ofNat_toNat] at known
  obtain ⟨avoided, shown, other⟩ := known numeric
  refine ⟨fun called => ?_, by simpa using avoided⟩
  simp only [Called, List.dropWhile_cons, shown, show Text.isBlank ' ' = true from rfl] at called
  exact other (by simpa using called)

/-- A string of the longer text begins with the quote that ends one in the text by itself. -/
theorem string_within {before : Option Char} {word left : List Char}
    (found : lexemeAt? cursor = some (kind, place))
    (spans : (Pattern.either (quoted '"') (quoted '\'')).Spans before word left)
    (whole : cursor.rest ++ rest = word ++ left) : word.length ≤ cursor.rest.length := by
  obtain ⟨quote, inside, listed, quotable, rfl⟩ := quotable_of_spans spans
  obtain ⟨entry, member, matched⟩ := List.exists_of_findSome?_eq_some found
  obtain ⟨reached, ended, -⟩ := Option.map_eq_some_iff.mp matched
  obtain ⟨alone, leads, nonempty, again⟩ := entry.leads_of_end ended
  obtain ⟨c, others, rfl⟩ := List.exists_cons_of_ne_nil nonempty
  have text := leads.rest
  rw [text] at whole
  obtain ⟨rfl, -⟩ := List.cons.inj whole
  have named := kind_of_quote c listed entry member (Pattern.begins_of_spans again)
  rw [lexeme_of_string entry member named] at again
  obtain ⟨quote, within, -, quotable', same⟩ := quotable_of_spans again
  obtain ⟨rfl, rfl⟩ := List.cons.inj same
  have other : c ≠ '\\' := by
    rintro rfl
    revert listed
    decide
  have equal := @Quotable.unique _ other within inside (reached.rest ++ rest) left quotable' quotable
    (by simpa using whole)
  rw [text, equal]
  simp

/-- A lexeme of a text is one of the longer text as well: none goes on over the space. -/
theorem lexemeAt_before_space (parted : Parted rest) (found : lexemeAt? cursor = some (kind, place)) :
    lexemeAt? ((Surroundings.spaced rest).place cursor) =
      some (kind, (Surroundings.spaced rest).place place) := by
  obtain ⟨finding, none⟩ := lexemeAt_place parted.separate cursor
  cases lexed : lexemeAt? ((Surroundings.spaced rest).place cursor) with
  | none =>
    rw [none lexed] at found
    cases found
  | some result =>
    obtain ⟨other, reached⟩ := result
    by_cases within : reached.passed ≤ cursor.passed + cursor.rest.length + 0
    · obtain ⟨alone, rfl, same⟩ := finding other reached lexed within
      rw [found] at same
      cases same
      rfl
    · obtain ⟨entry, member, matched⟩ := List.exists_of_findSome?_eq_some lexed
      obtain ⟨_, ended, same⟩ := Option.map_eq_some_iff.mp matched
      cases same
      obtain ⟨word, leads, -, spans⟩ := entry.leads_of_end ended
      have passed := leads.passed
      have whole : cursor.rest ++ ' ' :: rest = word ++ reached.rest := leads.rest
      have longer : cursor.rest.length < word.length := by
        simp only [Surroundings.place, Surroundings.spaced] at passed
        omega
      obtain ⟨more, rfl⟩ : cursor.rest ++ [' '] <+: word :=
        List.prefix_of_prefix_length_le ⟨rest, by simp⟩ ⟨_, whole.symm⟩
          (by simpa [Nat.succ_le_iff] using longer)
      have spacious : entry.lexeme.avoids ' ' = false := by
        refine Bool.eq_false_iff.mpr fun avoided => ?_
        exact (Pattern.admits_of_avoids avoided).of_spans spans ' ' (by simp) rfl
      rcases lexeme_of_spacious entry member spacious with quotes | negates
      · rw [quotes] at spans
        exact absurd (string_within found spans whole) (by omega)
      · -- a negated membership neither ends with the space nor goes on with what follows
        rw [negates] at spans
        cases more with
        | nil =>
          obtain ⟨front, last, same, listed⟩ := last_of_negated spans
          obtain ⟨-, rfl⟩ : cursor.rest = front ∧ ' ' = last := by simpa using same
          exact absurd listed (by decide)
        | cons c more =>
          obtain rfl : rest = c :: (more ++ reached.rest) := by simpa using whole
          have avoided := parted.avoided c rfl
          exact absurd rfl ((Pattern.admits_of_avoids avoided).of_spans spans c (by simp))

theorem find_before_space {found : Found} (parted : Parted rest)
    (finds : find? cursor = some found) (blank : Text.AllBlank found.gap) :
    find? ((Surroundings.spaced rest).place cursor) =
      some { found with after := (Surroundings.spaced rest).place found.after } := by
  obtain ⟨begins, placed⟩ := at_of_find finds
  have skips := (Surroundings.spaced rest).leads_place placed.skips
  have leads := (Surroundings.spaced rest).leads_place placed.leads
  rw [find_of_blanks skips blank,
    find_of_lexemeAt leads placed.nonempty (lexemeAt_before_space parted placed.begins)]
  simp

end Token

namespace Lexeme

variable {offset : Nat} {cursor place : Cursor} {lexemes : List Lexeme}

/-- White space before a place makes no difference to the lexemes from there on. -/
theorem from_of_blanks {gap : List Char} (leads : cursor.Leads gap place)
    (blank : Text.AllBlank gap)
    (split : from? false (offset + byteLength gap) place = .ok lexemes) :
    from? false offset cursor = .ok lexemes := by
  have finding := Token.find_of_blanks leads blank
  cases finds : Token.find? place with
  | none =>
    rw [finds] at finding
    obtain ⟨passable, rfl⟩ := (from_of_none finds).mp split
    have blanks := Text.trimmed_isEmpty_iff.mp (passable.resolve_left Bool.false_ne_true)
    refine (from_of_none finding).mpr ⟨.inr (Text.trimmed_isEmpty_iff.mpr ?_), rfl⟩
    rw [leads.rest]
    exact List.forall_mem_append.mpr ⟨blank, blanks⟩
  | some found =>
    rw [finds] at finding
    obtain ⟨preamble, others, passes, more, rfl⟩ := (from_of_some finds).mp split
    obtain ⟨rfl, blanks⟩ := blank_of_gap passes
    refine (from_of_some finding).mpr ⟨none, others, ?_, ?_, ?_⟩
    · exact gap_blank (List.forall_mem_append.mpr ⟨blank, blanks⟩) _
    · rw [byteLength_append, ← Nat.add_assoc]
      exact more
    · rw [byteLength_append, ← Nat.add_assoc]

theorem from_of_lexemeAt {lenient : Bool} {word : List Char} {kind : TokenKind}
    (leads : cursor.Leads word place) (nonempty : word ≠ [])
    (found : Token.lexemeAt? cursor = some (kind, place))
    (split : from? lenient (offset + byteLength word) place = .ok lexemes) :
    from? lenient offset cursor =
      .ok ({ text := word, span := ⟨offset, offset + byteLength word⟩ } :: lexemes) :=
  (from_of_some (Token.find_of_lexemeAt leads nonempty found)).mpr ⟨none, lexemes, rfl, split, rfl⟩

/-- One lexeme up to the end of the text. -/
theorem from_of_lexed {lenient : Bool} {kind : TokenKind} {word : List Char} {before : Option Char}
    (lexed : Lexed kind word) (other : kind ≠ .path) (neutral : Neutral before) (passed : Nat) :
    from? lenient offset ⟨before, word, passed⟩ =
      .ok [{ text := word, span := ⟨offset, offset + byteLength word⟩ }] := by
  have leads : Cursor.Leads ⟨before, word, passed⟩ word
      ⟨word.getLast?.or before, [], passed + word.length⟩ := ⟨by simp, rfl, rfl⟩
  have found := lexed.at leads neutral (by simp [Delimited]) fun path => absurd path other
  refine from_of_lexemeAt leads lexed.nonempty found ?_
  exact (from_of_none rfl).mpr ⟨.inr rfl, rfl⟩

theorem from_continued {behind : List Lexeme} {rest : List Char} (parted : Token.Parted rest)
    (split : from? false offset cursor = .ok lexemes)
    (more : ∀ passed, from? false (offset + byteLength cursor.rest + 1)
      ⟨some ' ', rest, passed⟩ = .ok behind) :
    from? false offset ((Surroundings.spaced rest).place cursor) = .ok (lexemes ++ behind) := by
  induction length : cursor.rest.length using Nat.strongRecOn
    generalizing cursor offset lexemes with
  | ind length ih =>
    cases finds : Token.find? cursor with
    | none =>
      obtain ⟨passable, rfl⟩ := (from_of_none finds).mp split
      have blank := Text.trimmed_isEmpty_iff.mp (passable.resolve_left Bool.false_ne_true)
      have leads : ((Surroundings.spaced rest).place cursor).Leads (cursor.rest ++ [' '])
          ⟨some ' ', rest, cursor.passed + 0 + (cursor.rest ++ [' ']).length⟩ :=
        ⟨by simp [Surroundings.place, Surroundings.spaced], by simp, rfl⟩
      refine from_of_blanks leads (List.forall_mem_append.mpr ⟨blank, by simp [Text.isBlank]⟩) ?_
      rw [byteLength_append, ← Nat.add_assoc]
      exact more _
    | some found =>
      obtain ⟨preamble, others, passes, later, rfl⟩ := (from_of_some finds).mp split
      obtain ⟨rfl, blank⟩ := blank_of_gap passes
      obtain ⟨begins, placed⟩ := Token.at_of_find finds
      have shorter := Token.length_find_lt finds
      have size : byteLength cursor.rest =
          byteLength found.gap + byteLength found.lexeme + byteLength found.after.rest := by
        rw [(placed.skips.trans placed.leads).rest, byteLength_append, byteLength_append]
      refine (from_of_some (Token.find_before_space parted finds blank)).mpr
        ⟨none, others ++ behind, gap_blank blank _, ?_, rfl⟩
      refine ih found.after.rest.length (by omega) later (fun passed => ?_) rfl
      rw [← more passed, size]
      simp only [Nat.add_assoc]

end Lexeme

namespace PlacedPart

variable {parts : List PlacedPart}

theorem add_minus (lenient beforeScope : Bool) (span : Span) :
    add? lenient parts { text := ['-'], span } beforeScope =
      .ok (⟨.text .subtract "-", span⟩ :: parts) := by
  simp [add?, (Token.identify_symbols beforeScope).2.2.2.2]

variable {kind : TokenKind} (numeric : kind = .integerLiteral ∨ kind = .decimalLiteral)

include numeric in
/-- A number takes the sign before it, if there is one that belongs to it. -/
theorem add_number {lenient beforeScope : Bool} {word : List Char} {place : Span}
    (identified : Token.identify? word beforeScope = some kind) :
    add? lenient parts { text := word, span := place } beforeScope = match sign? parts with
      | some span => (number? kind word true).map fun value =>
          ⟨.literal kind value, span.merge place⟩ :: parts.drop 1
      | none => (number? kind word false).map fun value =>
          ⟨.literal kind value, place⟩ :: parts := by
  rcases numeric with rfl | rfl <;>
  · simp only [add?, identified]
    cases sign? parts with
    | none => cases number? _ word false <;> rfl
    | some span => cases number? _ word true <;> rfl

end PlacedPart

end PathQuery
