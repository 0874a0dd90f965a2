import Mathlib.Data.List.Infix
import PathQuery.Proofs.Lexing.Context
import PathQuery.Proofs.Pattern.Search

/-!
Which entry of the grammar reads a word, when the word stands alone: after no part of a word, and
before a space, a comma, a closing bracket or the end of the text. Main statement: `lexed_of_fixed`, a
computed check that suffices for a word.
-/

namespace PathQuery

/-- The characters that end a word that stands alone. -/
def delimiters : List Char :=
  [' ', ')', ',', ']']

/-- What may follow a word that stands alone. -/
def Delimited (rest : List Char) : Prop :=
  ∀ c ∈ rest.head?, c ∈ delimiters

theorem isWordChar_of_delimiter : ∀ c ∈ delimiters, Text.isWordChar c = false := by
  simp only [delimiters, List.forall_mem_cons, List.not_mem_nil, false_implies, implies_true,
    and_true]
  decide +kernel

theorem Delimited.neutral {rest : List Char} (delimited : Delimited rest) :
    Neutral rest.head? := by
  cases rest with
  | nil => rfl
  | cons c rest => exact isWordChar_of_delimiter c (delimited c rfl)

namespace Pattern

/-- Whether no character that a pattern accepts is the given one. -/
def avoids (c : Char) : Pattern → Bool
  | fail | empty | look _ => true
  | char accepts => !accepts c
  | seq first second => first.avoids c && second.avoids c
  | either preferred other => preferred.avoids c && other.avoids c
  | many body => body.avoids c

theorem admits_of_avoids {pattern : Pattern} {c : Char} (avoided : pattern.avoids c = true) :
    pattern.Admits (· ≠ c) := by
  induction pattern with
  | fail | empty | look => trivial
  | char accepts =>
    rintro _ accepted rfl
    simp [avoids, accepted] at avoided
  | seq first second ihFirst ihSecond =>
    obtain ⟨left, right⟩ := Bool.and_eq_true_iff.mp avoided
    exact ⟨ihFirst left, ihSecond right⟩
  | either preferred other ihPreferred ihOther =>
    obtain ⟨left, right⟩ := Bool.and_eq_true_iff.mp avoided
    exact ⟨ihPreferred left, ihOther right⟩
  | many body ih => exact ih avoided

/-- Whether a pattern spans no delimiter. -/
def compact (pattern : Pattern) : Bool :=
  delimiters.all fun c => pattern.avoids c

/-- Whether a pattern matches no beginning of a text. -/
def Misses (pattern : Pattern) (cs : List Char) : Prop :=
  ∀ before word rest, word ≠ [] → cs = word ++ rest → ¬pattern.Spans before word rest

/-- Whether the first match of a pattern at the start of a text is a word. -/
def Settles (pattern : Pattern) (word rest : List Char) : Prop :=
  ∀ before passed, Neutral before →
    (pattern.ends ⟨before, word ++ rest, passed⟩).find?
        (·.rest.length < (word ++ rest).length) =
      some ⟨word.getLast?.or before, rest, passed + word.length⟩

variable {pattern : Pattern} {before : Option Char} {word rest : List Char}

theorem misses_of_begins {c : Char} (other : pattern.begins c = false) (cs : List Char) :
    pattern.Misses (c :: cs) := by
  intro before word rest nonempty whole spans
  obtain ⟨d, word, rfl⟩ := List.exists_cons_of_ne_nil nonempty
  obtain ⟨rfl, -⟩ := List.cons.inj whole
  rw [begins_of_spans spans] at other
  cases other

/-- What such a pattern spans at a word that stands alone is a beginning of the word. -/
theorem prefix_of_compact {left others : List Char} (compact : pattern.compact = true)
    (delimited : Delimited rest) (spans : pattern.Spans before others left)
    (whole : word ++ rest = others ++ left) :
    ∃ more, word = others ++ more ∧ left = more ++ rest := by
  rcases List.append_eq_append_iff.mp whole with ⟨more, rfl, split⟩ | ⟨more, rfl, split⟩
  · cases more with
    | nil => exact ⟨[], by simp, by simp [split]⟩
    | cons c more =>
      have member : c ∈ word ++ c :: more := by simp
      have avoided := List.all_eq_true.mp compact c (delimited c (by simp [split]))
      exact absurd rfl ((admits_of_avoids avoided).of_spans spans _ member)
  · exact ⟨more, rfl, split⟩

theorem settles_of_unique (nonempty : word ≠ [])
    (spans : ∀ before, Neutral before → pattern.Spans before word rest)
    (unique : ∀ before other left, other ≠ [] → word ++ rest = other ++ left →
      pattern.Spans before other left → other = word) : pattern.Settles word rest := by
  intro before passed neutral
  have leads : Cursor.Leads ⟨before, word ++ rest, passed⟩ word
      ⟨word.getLast?.or before, rest, passed + word.length⟩ := ⟨rfl, rfl, rfl⟩
  have present := mem_ends_iff.mpr ⟨word, leads, spans before neutral⟩
  have longer := List.length_pos_iff.mpr nonempty
  cases finds : (pattern.ends ⟨before, word ++ rest, passed⟩).find?
      (·.rest.length < (word ++ rest).length) with
  | none =>
    have rejected := List.find?_eq_none.mp finds _ present
    exact absurd (by simpa using rejected) nonempty
  | some found =>
    obtain ⟨other, reaches, spansOther⟩ := mem_ends_iff.mp (List.mem_of_find?_eq_some finds)
    have some : other ≠ [] := by
      rintro rfl
      have shorter := List.find?_some finds
      simp [show word ++ rest = found.rest from reaches.rest] at shorter
    obtain rfl := unique before other found.rest some reaches.rest spansOther
    rw [(reaches.eq_of_passed leads reaches.passed).1]

theorem settles_preferred {preferred other : Pattern} (settles : preferred.Settles word rest) :
    (either preferred other).Settles word rest := by
  intro before passed neutral
  rw [find_either, settles before passed neutral]
  rfl

theorem settles_other {preferred other : Pattern} (misses : preferred.Misses (word ++ rest))
    (settles : other.Settles word rest) : (either preferred other).Settles word rest := by
  intro before passed neutral
  have nothing : (preferred.ends ⟨before, word ++ rest, passed⟩).find?
      (·.rest.length < (word ++ rest).length) = none := by
    refine List.find?_eq_none.mpr fun place member => ?_
    obtain ⟨found, leads, spans⟩ := mem_ends_iff.mp member
    rw [decide_eq_true_eq, show word ++ rest = _ from leads.rest]
    by_cases empty : found = []
    · simp [empty]
    · exact absurd spans (misses before found place.rest empty leads.rest)
  rw [find_either, nothing, settles before passed neutral]
  rfl

/-- Whether a pattern is known to match no beginning of a word that stands alone. -/
def skips (word : List Char) (pattern : Pattern) : Bool :=
  word.head?.all (fun c => !pattern.begins c) ||
    (pattern.compact && word.inits.all fun others =>
      others.isEmpty || !pattern.loose.matchesAll others)

/-- Whether the first match of a pattern is known to be a word that stands alone. -/
def fixes (word : List Char) : Pattern → Bool
  | either preferred other =>
      preferred.fixes word || (preferred.skips word && other.fixes word)
  | pattern =>
      pattern.matchesAll word && pattern.compact && word.inits.all fun others =>
        others.isEmpty || others == word || !pattern.loose.matchesAll others

theorem misses_of_skips (nonempty : word ≠ []) (delimited : Delimited rest)
    (skipped : pattern.skips word = true) : pattern.Misses (word ++ rest) := by
  rcases Bool.or_eq_true_iff.mp skipped with other | skipped
  · obtain ⟨c, word, rfl⟩ := List.exists_cons_of_ne_nil nonempty
    exact misses_of_begins (by simpa using other) _
  · obtain ⟨compact, none⟩ := Bool.and_eq_true_iff.mp skipped
    intro before others left some whole spans
    obtain ⟨more, rfl, -⟩ := prefix_of_compact compact delimited spans whole
    have rejected := List.all_eq_true.mp none others ((List.mem_inits _ _).mpr ⟨more, rfl⟩)
    rw [matchesAll_iff.mpr (loose_of_spans spans)] at rejected
    simp [some] at rejected

theorem settles_of_fixes (nonempty : word ≠ []) (delimited : Delimited rest)
    (indifferent : pattern.Indifferent) (fixed : pattern.fixes word = true) :
    pattern.Spans none word [] ∧ pattern.Settles word rest := by
  fun_induction fixes word pattern with
  | case1 preferred other ihPreferred ihOther =>
    rcases Bool.or_eq_true_iff.mp fixed with fixed | fixed
    · obtain ⟨spans, settles⟩ := ihPreferred indifferent.1 fixed
      exact ⟨.inl spans, settles_preferred settles⟩
    · obtain ⟨skipped, fixed⟩ := Bool.and_eq_true_iff.mp fixed
      obtain ⟨spans, settles⟩ := ihOther indifferent.2 fixed
      exact ⟨.inr spans, settles_other (misses_of_skips nonempty delimited skipped) settles⟩
  | case2 pattern _ =>
    simp only [Bool.and_eq_true, matchesAll_iff] at fixed
    obtain ⟨⟨spans, compact⟩, only⟩ := fixed
    refine ⟨spans, settles_of_unique nonempty (fun before neutral => ?_) ?_⟩
    · simpa using spans_surrounded indifferent neutral delimited.neutral spans
    · intro before others left some whole spans
      obtain ⟨more, split, -⟩ := prefix_of_compact compact delimited spans whole
      have accepted := List.all_eq_true.mp only others ((List.mem_inits _ _).mpr ⟨more, split.symm⟩)
      rw [matchesAll_iff.mpr (loose_of_spans spans)] at accepted
      simpa [some] using accepted

end Pattern

/-- A word of a kind, as the grammar reads it where it stands alone. A path must not be called. -/
structure Lexed (kind : TokenKind) (word : List Char) : Prop where
  nonempty : word ≠ []
  found : ∀ {before rest passed}, Neutral before → Delimited rest → (kind = .path → ¬Called rest) →
    Token.lexemeAt? ⟨before, word ++ rest, passed⟩ =
      some (kind, ⟨word.getLast?.or before, rest, passed + word.length⟩)
  identified : ∀ beforeScope, (kind = .path → beforeScope = false) →
    Token.identify? word beforeScope = some kind

namespace Token

/-- The kinds whose lexemes may have a delimiter in them. -/
def spaciousKinds : List TokenKind :=
  [.stringLiteral, .notIn, .separator, .scopeStop, .indexStop]

theorem compact_of_entry : ∀ entry ∈ grammar, entry.kind ∉ spaciousKinds →
    entry.lexeme.compact = true := by
  decide +kernel

variable {word rest : List Char}

theorem Entry.end_of_misses {entry : Entry} {cursor : Cursor}
    (misses : entry.lexeme.Misses cursor.rest) : entry.end? cursor = none := by
  cases ended : entry.end? cursor with
  | none => rfl
  | some place =>
    obtain ⟨found, leads, nonempty, spans⟩ := entry.leads_of_end ended
    exact absurd spans (misses _ _ _ nonempty leads.rest)

theorem Entry.end_of_settles {entry : Entry} {before : Option Char} {passed : Nat}
    (follows : entry.following = .empty) (settles : entry.lexeme.Settles word rest)
    (neutral : Neutral before) :
    entry.end? ⟨before, word ++ rest, passed⟩ =
      some ⟨word.getLast?.or before, rest, passed + word.length⟩ := by
  rw [Entry.end?, follows, ← settles before passed neutral]
  simp [Pattern.ends, Pattern.endsFrom]

theorem entry_of_identify {kind : TokenKind} {beforeScope : Bool}
    (identified : identify? word beforeScope = some kind) :
    ∃ entry ∈ grammar, entry.kind = kind ∧ entry.lexeme.Spans none word [] := by
  obtain ⟨entry, found, named⟩ := Option.map_eq_some_iff.mp identified
  have accepted := List.find?_some found
  rw [Bool.and_eq_true, Pattern.matchesAll_iff] at accepted
  exact ⟨entry, List.mem_of_find?_eq_some found, named, accepted.1⟩

/-- The first entry that matches a word identifies it. -/
theorem identify_of_entry (index : Nat) {entry : Entry} {beforeScope : Bool}
    (known : grammar[index]? = some entry)
    (earlier : ∀ other ∈ grammar.take index, ¬other.lexeme.Spans none word [] ∨
      other.kind = .method ∧ beforeScope = false)
    (spans : entry.lexeme.Spans none word []) (other : entry.kind ≠ .method) :
    identify? word beforeScope = some entry.kind := by
  obtain ⟨bound, same⟩ := List.getElem?_eq_some_iff.mp known
  have split : grammar = grammar.take index ++ entry :: grammar.drop (index + 1) := by
    rw [← same, ← List.drop_eq_getElem_cons bound, List.take_append_drop]
  have nothing : (grammar.take index).find? (fun entry => entry.lexeme.matchesAll word &&
      (entry.kind != .method || beforeScope)) = none := by
    refine List.find?_eq_none.mpr fun other member => ?_
    rw [Bool.and_eq_true, Pattern.matchesAll_iff]
    rintro ⟨spans, passes⟩
    rcases earlier other member with apart | ⟨method, alone⟩
    · exact apart spans
    · simp [method, alone] at passes
  have matched : (entry.lexeme.matchesAll word &&
      (entry.kind != .method || beforeScope)) = true := by
    simp [Pattern.matchesAll_iff.mpr spans, other]
  rw [identify?, split, List.find?_append, nothing, List.find?_cons, matched]
  rfl

/-- An entry reads a word when no earlier one matches a beginning of it. -/
theorem lexed_of_entry (index : Nat) {entry : Entry} (known : grammar[index]? = some entry)
    (other : entry.kind ≠ .method) (follows : entry.following = .empty) (nonempty : word ≠ [])
    (earlier : ∀ rest, Delimited rest →
      ∀ other ∈ grammar.take index, other.lexeme.Misses (word ++ rest))
    (spans : entry.lexeme.Spans none word [])
    (settles : ∀ rest, Delimited rest → entry.lexeme.Settles word rest) :
    Lexed entry.kind word := by
  refine ⟨nonempty, fun neutral delimited _ => ?_, fun beforeScope _ => ?_⟩
  · exact lexemeAt_of_entry index known
      (fun other member => Entry.end_of_misses (earlier _ delimited other member))
      (Entry.end_of_settles follows (settles _ delimited) neutral)
  · refine identify_of_entry index known (fun other member => .inl ?_) spans other
    exact earlier [] (by simp [Delimited]) other member none word [] nonempty (by simp)

/-- Whether the entry at an index is known to read a word that stands alone. -/
def fixed (index : Nat) (word : List Char) : Bool :=
  !word.isEmpty && (grammar.take index).all (·.lexeme.skips word) &&
    grammar[index]?.any (·.lexeme.fixes word)

theorem lexed_of_fixed {index : Nat} {entry : Entry} (known : grammar[index]? = some entry)
    (other : entry.kind ≠ .method) (follows : entry.following = .empty)
    (checked : fixed index word = true) : Lexed entry.kind word := by
  simp only [fixed, known, Bool.and_eq_true, Bool.not_eq_true', List.isEmpty_eq_false_iff,
    List.all_eq_true, Option.any_some] at checked
  obtain ⟨⟨nonempty, skipped⟩, fixes⟩ := checked
  obtain ⟨bound, same⟩ := List.getElem?_eq_some_iff.mp known
  have indifferent := (grammar_indifferent entry (same ▸ List.getElem_mem bound)).1
  have settles := fun rest delimited =>
    @Pattern.settles_of_fixes _ _ rest nonempty delimited indifferent fixes
  refine lexed_of_entry index known other follows nonempty (fun rest delimited other member => ?_)
    (settles [] (by simp [Delimited])).1 fun rest delimited => (settles rest delimited).2
  exact Pattern.misses_of_skips nonempty delimited (skipped other member)

end Token

end PathQuery
