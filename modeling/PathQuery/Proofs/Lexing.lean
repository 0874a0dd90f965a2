import PathQuery.Expression.Tiers
import PathQuery.Proofs.Pattern

/-!
The words of a text: its lexemes without what is known about where they stand. Main statement:
`lexes_iff`.
-/

namespace PathQuery

namespace Token

variable {cursor place : Cursor} {kind : TokenKind} {word : List Char}

theorem between_of_leads (leads : cursor.Leads word place) : between cursor place = word := by
  rw [between, leads.rest, List.length_append, Nat.add_sub_cancel, List.take_left]

theorem Entry.leads_of_end {entry : Entry} (found : entry.end? cursor = some place) :
    ∃ word, cursor.Leads word place ∧ word ≠ [] ∧
      entry.lexeme.Spans cursor.before word place.rest := by
  have shorter := entry.length_end_lt found
  obtain ⟨word, leads, spans⟩ := Pattern.mem_ends_iff.mp (List.mem_of_find?_eq_some found)
  refine ⟨word, leads, ?_, spans⟩
  rintro rfl
  have := leads.length_rest
  simp at this
  omega

theorem Entry.follows_of_end {entry : Entry} (found : entry.end? cursor = some place) :
    entry.following.ends place ≠ [] := by
  have kept := List.find?_some found
  simp only [Bool.and_eq_true, Bool.not_eq_true', List.isEmpty_eq_false_iff] at kept
  exact kept.2

theorem Entry.end_ne_none {entry : Entry} (leads : cursor.Leads word place) (nonempty : word ≠ [])
    (spans : entry.lexeme.Spans cursor.before word place.rest)
    (follows : entry.following.ends place ≠ []) : entry.end? cursor ≠ none := by
  intro ended
  have rejected := List.find?_eq_none.mp ended place (Pattern.mem_ends_iff.mpr ⟨word, leads, spans⟩)
  have shorter : place.rest.length < cursor.rest.length := by
    have := leads.length_rest
    have := List.length_pos_iff.mpr nonempty
    omega
  simp [shorter, follows] at rejected

/-- An entry ends a lexeme where the only word ends that its pattern spans. -/
theorem Entry.end_eq_some {entry : Entry} (leads : cursor.Leads word place) (nonempty : word ≠ [])
    (spans : entry.lexeme.Spans cursor.before word place.rest)
    (follows : entry.following.ends place ≠ [])
    (unique : ∀ other after, cursor.Leads other after →
      entry.lexeme.Spans cursor.before other after.rest → other = word) :
    entry.end? cursor = some place := by
  obtain ⟨found, ended⟩ :=
    Option.ne_none_iff_exists'.mp (entry.end_ne_none leads nonempty spans follows)
  obtain ⟨other, reaches, -, spansOther⟩ := entry.leads_of_end ended
  obtain rfl := unique other found reaches spansOther
  rw [ended, (reaches.eq_of_passed leads (reaches.passed.trans leads.passed.symm)).1]

theorem Entry.end_eq_none {entry : Entry} {c : Char} {rest : List Char}
    (first : cursor.rest = c :: rest) (other : entry.lexeme.begins c = false) :
    entry.end? cursor = none := by
  cases ended : entry.end? cursor with
  | none => rfl
  | some found =>
    obtain ⟨word, leads, nonempty, spans⟩ := entry.leads_of_end ended
    obtain ⟨d, word, rfl⟩ := List.exists_cons_of_ne_nil nonempty
    obtain ⟨rfl, -⟩ := List.cons.inj (first.symm.trans leads.rest)
    rw [Pattern.begins_of_spans spans] at other
    cases other

/-- The first entry of the grammar that ends a lexeme decides. -/
theorem lexemeAt_of_entry (index : Nat) {entry : Entry} (known : grammar[index]? = some entry)
    (earlier : ∀ other ∈ grammar.take index, other.end? cursor = none)
    (ended : entry.end? cursor = some place) : lexemeAt? cursor = some (entry.kind, place) := by
  obtain ⟨bound, same⟩ := List.getElem?_eq_some_iff.mp known
  have split : grammar = grammar.take index ++ entry :: grammar.drop (index + 1) := by
    rw [← same, ← List.drop_eq_getElem_cons bound, List.take_append_drop]
  have nothing : (grammar.take index).findSome? (fun entry =>
      (entry.end? cursor).map fun place => (entry.kind, place)) = none := by
    refine List.findSome?_eq_none_iff.mpr fun other member => ?_
    rw [earlier other member]
    rfl
  rw [lexemeAt?, split, List.findSome?_append, nothing, List.findSome?_cons, ended]
  rfl

theorem leads_of_lexemeAt (found : lexemeAt? cursor = some (kind, place)) :
    ∃ word, cursor.Leads word place ∧ word ≠ [] := by
  obtain ⟨entry, -, matched⟩ := List.exists_of_findSome?_eq_some found
  obtain ⟨reached, ended, same⟩ := Option.map_eq_some_iff.mp matched
  cases same
  obtain ⟨word, leads, nonempty, -⟩ := entry.leads_of_end ended
  exact ⟨word, leads, nonempty⟩

/-- A lexeme that was found: what was passed before it, and that it begins there. -/
structure Found.At (found : Found) (cursor begins : Cursor) (skipped : List Char) : Prop where
  skips : cursor.Leads skipped begins
  leads : begins.Leads found.lexeme found.after
  begins : lexemeAt? begins = some (found.kind, found.after)
  nonempty : found.lexeme ≠ []

theorem at_of_findFrom {gap : List Char} {before : Option Char} {passed : Nat} {rest : List Char}
    {found : Found} (finds : findFrom? gap before passed rest = some found) :
    ∃ begins skipped, found.gap = gap.reverse ++ skipped ∧
      found.At ⟨before, rest, passed⟩ begins skipped := by
  induction rest generalizing gap before passed with
  | nil => cases finds
  | cons c rest ih =>
    simp only [findFrom?] at finds
    split at finds
    · rename_i kind after matched
      cases finds
      obtain ⟨word, leads, nonempty⟩ := leads_of_lexemeAt matched
      have same := between_of_leads leads
      refine ⟨_, [], by simp, .refl _, ?_, matched, ?_⟩
      · rwa [same]
      · rwa [same]
    · obtain ⟨begins, skipped, gap_eq, skips, leads, lexed, nonempty⟩ := ih finds
      refine ⟨begins, c :: skipped, by simpa using gap_eq, ?_, leads, lexed, nonempty⟩
      have step : Cursor.Leads ⟨before, c :: rest, passed⟩ [c] ⟨some c, rest, passed + 1⟩ :=
        ⟨rfl, rfl, rfl⟩
      exact step.trans skips

theorem at_of_find {found : Found} (finds : find? cursor = some found) :
    ∃ begins, found.At cursor begins found.gap := by
  obtain ⟨begins, skipped, same, placed⟩ := at_of_findFrom finds
  rw [List.reverse_nil, List.nil_append] at same
  exact ⟨begins, same ▸ placed⟩

end Token

/-- Whether a gap may stand between lexemes. -/
def Passable (lenient : Bool) (gap : List Char) : Prop :=
  lenient = true ∨ (Text.trimmed gap).isEmpty = true

/-- The words of a text from a place on. -/
inductive Lexes (lenient : Bool) : Cursor → List (List Char) → Prop
  | done {cursor : Cursor} : Token.find? cursor = none → Passable lenient cursor.rest →
      Lexes lenient cursor []
  | word {cursor : Cursor} {found : Token.Found} {words : List (List Char)} :
      Token.find? cursor = some found → Passable lenient found.gap →
      Lexes lenient found.after words → Lexes lenient cursor (found.lexeme :: words)

namespace Lexes

variable {lenient : Bool} {cursor : Cursor} {words : List (List Char)}

theorem iff_of_none (finds : Token.find? cursor = none) :
    Lexes lenient cursor words ↔ words = [] ∧ Passable lenient cursor.rest := by
  constructor
  · intro lexes
    cases lexes with
    | done _ passable => exact ⟨rfl, passable⟩
    | word found =>
      rw [finds] at found
      cases found
  · rintro ⟨rfl, passable⟩
    exact .done finds passable

theorem iff_of_some {found : Token.Found} (finds : Token.find? cursor = some found) :
    Lexes lenient cursor words ↔ ∃ others, words = found.lexeme :: others ∧
      Passable lenient found.gap ∧ Lexes lenient found.after others := by
  constructor
  · intro lexes
    cases lexes with
    | done none =>
      rw [finds] at none
      cases none
    | word other passable more =>
      rw [finds] at other
      cases other
      exact ⟨_, rfl, passable, more⟩
  · rintro ⟨others, rfl, passable, more⟩
    exact .word finds passable more

/-- A text has the same words in both modes. -/
theorem unique {mode : Bool} {others : List (List Char)} (lexes : Lexes lenient cursor words)
    (more : Lexes mode cursor others) : words = others := by
  induction lexes generalizing others with
  | done finds => exact ((iff_of_none finds).mp more).1.symm
  | word finds _ _ ih =>
    obtain ⟨rest, rfl, -, more⟩ := (iff_of_some finds).mp more
    rw [ih more]

theorem loosen (lexes : Lexes lenient cursor words) : Lexes true cursor words := by
  induction lexes with
  | done finds => exact .done finds (.inl rfl)
  | word finds _ _ ih => exact .word finds (.inl rfl) ih

end Lexes

namespace Lexeme

variable {lenient : Bool} {offset : Nat} {cursor : Cursor} {lexemes : List Lexeme}

theorem gap_ok_iff (offset : Nat) {gap : List Char} :
    (∃ preamble, Lexeme.gap lenient offset gap = .ok preamble) ↔ Passable lenient gap := by
  unfold Lexeme.gap Passable
  cases (Text.trimmed gap).isEmpty <;> cases lenient <;> simp

theorem from_eq_of_none (finds : Token.find? cursor = none) :
    from? lenient offset cursor = (gap lenient offset cursor.rest).map fun _ => [] := by
  rw [from?]
  split
  · cases gap lenient offset cursor.rest <;> rfl
  · rename_i found
    rw [finds] at found
    cases found

/-- A lexeme stands where the text before it ends. -/
theorem from_eq_of_some {found : Token.Found} (finds : Token.find? cursor = some found) :
    from? lenient offset cursor = gap lenient offset found.gap >>= fun preamble =>
      (from? lenient (offset + byteLength found.gap + byteLength found.lexeme) found.after).map
        fun lexemes =>
          { text := found.lexeme
            span := ⟨offset + byteLength found.gap,
              offset + byteLength found.gap + byteLength found.lexeme⟩
            preamble } :: lexemes := by
  rw [from?]
  split
  · rename_i none
    rw [finds] at none
    cases none
  · rename_i other same
    rw [finds] at same
    cases same
    cases gap lenient offset found.gap with
    | error => rfl
    | ok preamble =>
      show from? lenient _ found.after >>= _ = Except.map _ (from? lenient _ found.after)
      cases from? lenient (offset + byteLength found.gap + byteLength found.lexeme) found.after <;>
        rfl

theorem from_of_none (finds : Token.find? cursor = none) :
    from? lenient offset cursor = .ok lexemes ↔
      Passable lenient cursor.rest ∧ lexemes = [] := by
  rw [from_eq_of_none finds, Tiers.map_eq_ok, ← gap_ok_iff offset]
  simp only [@eq_comm _ lexemes, exists_and_right]

theorem from_of_some {found : Token.Found} (finds : Token.find? cursor = some found) :
    from? lenient offset cursor = .ok lexemes ↔
      ∃ preamble others, Lexeme.gap lenient offset found.gap = .ok preamble ∧
        from? lenient (offset + byteLength found.gap + byteLength found.lexeme) found.after =
          .ok others ∧
        lexemes =
          { text := found.lexeme
            span := ⟨offset + byteLength found.gap,
              offset + byteLength found.gap + byteLength found.lexeme⟩
            preamble } :: others := by
  rw [from_eq_of_some finds]
  simp only [Tiers.bind_eq_ok, Tiers.map_eq_ok, exists_and_left, @eq_comm _ lexemes]

theorem start_of_mem (split : from? lenient offset cursor = .ok lexemes) :
    ∀ lexeme ∈ lexemes, offset ≤ lexeme.span.start := by
  induction length : cursor.rest.length using Nat.strongRecOn
    generalizing cursor offset lexemes with
  | ind length ih =>
    cases finds : Token.find? cursor with
    | none =>
      obtain ⟨-, rfl⟩ := (from_of_none finds).mp split
      simp
    | some found =>
      obtain ⟨preamble, others, -, more, rfl⟩ := (from_of_some finds).mp split
      have shorter := Token.length_find_lt finds
      refine List.forall_mem_cons.mpr ⟨Nat.le_add_right .., fun lexeme member => ?_⟩
      have bound := ih found.after.rest.length (by omega) more rfl lexeme member
      omega

/-- A text has lexemes when it has words, and then their texts are the words. -/
theorem lexes_iff (lenient : Bool) (offset : Nat) (cursor : Cursor) (words : List (List Char)) :
    (∃ lexemes, from? lenient offset cursor = .ok lexemes ∧ lexemes.map Lexeme.text = words) ↔
      Lexes lenient cursor words := by
  induction length : cursor.rest.length using Nat.strongRecOn
    generalizing cursor offset words with
  | ind length ih =>
    cases finds : Token.find? cursor with
    | none =>
      rw [Lexes.iff_of_none finds]
      constructor
      · rintro ⟨lexemes, split, rfl⟩
        obtain ⟨passable, rfl⟩ := (from_of_none finds).mp split
        exact ⟨rfl, passable⟩
      · rintro ⟨rfl, passable⟩
        exact ⟨[], (from_of_none finds).mpr ⟨passable, rfl⟩, rfl⟩
    | some found =>
      have shorter := Token.length_find_lt finds
      rw [Lexes.iff_of_some finds]
      constructor
      · rintro ⟨lexemes, split, rfl⟩
        obtain ⟨preamble, others, passed, more, rfl⟩ := (from_of_some finds).mp split
        exact ⟨_, rfl, (gap_ok_iff offset).mp ⟨preamble, passed⟩,
          (ih found.after.rest.length (by omega) _ _ _ rfl).mp ⟨others, more, rfl⟩⟩
      · rintro ⟨words, rfl, passable, more⟩
        obtain ⟨preamble, passed⟩ := (gap_ok_iff offset).mpr passable
        obtain ⟨others, split, rfl⟩ :=
          (ih found.after.rest.length (by omega) _ _ _ rfl).mpr more
        exact ⟨_, (from_of_some finds).mpr ⟨preamble, others, passed, split, rfl⟩, rfl⟩

end Lexeme

end PathQuery
