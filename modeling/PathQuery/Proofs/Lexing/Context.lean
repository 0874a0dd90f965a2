import Mathlib.Data.List.TakeWhile
import PathQuery.Proofs.Lexing
import PathQuery.Proofs.Pattern.Context

/-!
The words of a text that goes on with a comma. When the comma is a lexeme, the words before it are
those of the text before it by itself, and the words after it those of the text after it. Main
statement: `lexes_comma`.
-/

namespace PathQuery

open Pattern (Indifferent)

namespace Pattern

@[simp] theorem indifferent_seq {first second : Pattern} :
    (seq first second).Indifferent ↔ first.Indifferent ∧ second.Indifferent := Iff.rfl

@[simp] theorem indifferent_either {preferred other : Pattern} :
    (either preferred other).Indifferent ↔ preferred.Indifferent ∧ other.Indifferent := Iff.rfl

@[simp] theorem indifferent_many {body : Pattern} :
    (many body).Indifferent ↔ body.Indifferent := Iff.rfl

@[simp] theorem indifferent_char (accepts : Char → Bool) : (char accepts).Indifferent := trivial

@[simp] theorem indifferent_empty : empty.Indifferent := trivial

@[simp] theorem indifferent_boundary : boundary.Indifferent := by
  intro before after lead next leadNeutral nextNeutral
  have neutral : ∀ {side beside : Option Char}, Neutral beside →
      (side.or beside).any Text.isWordChar = side.any Text.isWordChar := by
    intro side beside neutral
    cases side with
    | none => rwa [Option.none_or]
    | some => rfl
  rw [Text.isBoundary, Text.isBoundary, neutral leadNeutral, neutral nextNeutral]

@[simp] theorem indifferent_concat {patterns : List Pattern} :
    (concat patterns).Indifferent ↔ ∀ pattern ∈ patterns, pattern.Indifferent := by
  fun_induction concat patterns with
  | case1 => simp
  | case2 pattern => simp
  | case3 pattern patterns _ ih => rw [indifferent_seq, ih, List.forall_mem_cons]

@[simp] theorem indifferent_text (cs : String) : (text cs).Indifferent := by
  simp [text, exactly]

end Pattern

namespace Token

theorem grammar_indifferent : ∀ entry ∈ grammar,
    entry.lexeme.Indifferent ∧ entry.following.Indifferent := by
  simp [grammar, word, quoted, digits, bigMark, methodName, nameRest, pathStep, blanks, letter,
    Pattern.optional, Pattern.oneOrMore, Pattern.exactly]

/-- Only behind the name of a method something has to follow. -/
theorem following_eq : ∀ entry ∈ grammar, entry.following =
    if entry.kind = .method then .seq blanks (Pattern.exactly '(') else .empty := by
  simp [grammar]

/-- What follows the name of a method. -/
theorem following_iff {place : Cursor} :
    (Pattern.seq blanks (Pattern.exactly '(')).ends place ≠ [] ↔ Called place.rest := by
  constructor
  · intro follows
    obtain ⟨after, member⟩ := List.exists_mem_of_ne_nil _ follows
    obtain ⟨_, leads, gap, _, rfl, spans, single⟩ := Pattern.mem_ends_iff.mp member
    obtain rfl := Pattern.spans_exactly.mp single
    rw [Called, leads.rest, List.append_assoc,
      List.dropWhile_append_of_pos (Pattern.spans_many_char.mp spans)]
    rfl
  · intro called
    obtain ⟨others, split⟩ := List.head?_eq_some_iff.mp called
    have whole : place.rest = place.rest.takeWhile Text.isBlank ++ ['('] ++ others := by
      rw [List.append_assoc, List.singleton_append, ← split, List.takeWhile_append_dropWhile]
    have leads : place.Leads (place.rest.takeWhile Text.isBlank ++ ['(']) ⟨_, others, _⟩ :=
      ⟨whole, rfl, rfl⟩
    refine List.ne_nil_of_mem (Pattern.mem_ends_iff.mpr ⟨_, leads, _, _, rfl, ?_,
      Pattern.spans_exactly.mpr rfl⟩)
    exact Pattern.spans_many_char.mpr fun c => List.mem_takeWhile_imp

theorem called_append {rest tail : List Char} (uncalled : ¬Called tail) :
    Called (rest ++ tail) ↔ Called rest := by
  unfold Called at *
  rw [List.dropWhile_append]
  split
  · rename_i blank
    simp [List.isEmpty_iff.mp blank, uncalled]
  · rename_i shown
    rw [List.isEmpty_iff] at shown
    obtain ⟨c, others, split⟩ := List.exists_cons_of_ne_nil shown
    rw [split]
    rfl

variable {around : Surroundings} {cursor reached : Cursor} {kind : TokenKind}

theorem simulates_ends (separate : around.Separate) {pattern : Pattern}
    (indifferent : pattern.Indifferent) (cursor : Cursor) :
    Pattern.Simulates around (cursor.passed + cursor.rest.length + around.shift)
      (pattern.ends (around.place cursor)) (pattern.ends cursor) := by
  have coherent : Pattern.Coherent cursor [cursor] := by
    simpa [Pattern.Coherent] using ⟨[], Cursor.Leads.refl cursor⟩
  refine Pattern.simulates_endsFrom separate indifferent rfl coherent ?_
  refine (Pattern.upTo_cons_of_le ?_).trans rfl
  simp only [Surroundings.place]
  omega

theorem isEmpty_following (separate : around.Separate) {entry : Entry} (member : entry ∈ grammar)
    (cursor : Cursor) :
    (entry.following.ends (around.place cursor)).isEmpty =
      (entry.following.ends cursor).isEmpty := by
  rw [following_eq entry member]
  split
  · rw [Bool.eq_iff_iff, List.isEmpty_iff, List.isEmpty_iff, ← not_iff_not]
    exact following_iff.trans ((called_append separate.uncalled).trans following_iff.symm)
  · rfl

/-- The first place with a property, in the longer text and in the text by itself. -/
theorem find_simulates {limit : Nat} {cursors alone : List Cursor} {keep keepAlone : Cursor → Bool}
    (simulates : Pattern.Simulates around limit cursors alone)
    (same : ∀ cursor ∈ alone, keep (around.place cursor) = keepAlone cursor) :
    (∀ reached, cursors.find? keep = some reached → reached.passed ≤ limit →
      ∃ place, reached = around.place place ∧ alone.find? keepAlone = some place) ∧
    (cursors.find? keep = none → alone.find? keepAlone = none) := by
  induction cursors generalizing alone with
  | nil =>
    cases alone with
    | nil => simp
    | cons => cases simulates
  | cons cursor cursors ih =>
    rcases simulates.cons_inv with ⟨past, later⟩ | ⟨first, others, rfl, rfl, later⟩
    · obtain ⟨found, nothing⟩ := ih later same
      refine ⟨fun reached finds within => ?_, fun finds => ?_⟩
      · rw [List.find?_cons] at finds
        split at finds
        · cases finds
          omega
        · exact found reached finds within
      · rw [List.find?_cons] at finds
        split at finds
        · cases finds
        · exact nothing finds
    · obtain ⟨here, rest⟩ := List.forall_mem_cons.mp same
      obtain ⟨found, nothing⟩ := ih later rest
      rw [List.find?_cons, List.find?_cons, here]
      cases keepAlone first with
      | true => simp
      | false => exact ⟨found, nothing⟩

theorem Entry.end_place (separate : around.Separate) {entry : Entry} (member : entry ∈ grammar)
    (cursor : Cursor) :
    (∀ reached, entry.end? (around.place cursor) = some reached →
      reached.passed ≤ cursor.passed + cursor.rest.length + around.shift →
      ∃ place, reached = around.place place ∧ entry.end? cursor = some place) ∧
    (entry.end? (around.place cursor) = none → entry.end? cursor = none) := by
  refine find_simulates (simulates_ends separate (grammar_indifferent entry member).1 cursor) ?_
  intro place _
  rw [isEmpty_following separate member]
  simp [Surroundings.place]

theorem findSome_place (separate : around.Separate) (cursor : Cursor) {entries : List Entry}
    (known : ∀ entry ∈ entries, entry ∈ grammar) :
    (∀ kind reached,
      (entries.findSome? fun entry =>
        (entry.end? (around.place cursor)).map fun place => (entry.kind, place)) =
          some (kind, reached) →
      reached.passed ≤ cursor.passed + cursor.rest.length + around.shift →
      ∃ place, reached = around.place place ∧
        (entries.findSome? fun entry => (entry.end? cursor).map fun place => (entry.kind, place)) =
          some (kind, place)) ∧
    ((entries.findSome? fun entry =>
        (entry.end? (around.place cursor)).map fun place => (entry.kind, place)) = none →
      (entries.findSome? fun entry => (entry.end? cursor).map fun place => (entry.kind, place)) =
        none) := by
  induction entries with
  | nil => simp
  | cons entry entries ih =>
    obtain ⟨member, others⟩ := List.forall_mem_cons.mp known
    obtain ⟨found, nothing⟩ := Entry.end_place separate member cursor
    obtain ⟨later, never⟩ := ih others
    rw [List.findSome?_cons, List.findSome?_cons]
    cases ended : entry.end? (around.place cursor) with
    | none =>
      rw [nothing ended]
      exact ⟨later, never⟩
    | some place =>
      refine ⟨fun kind reached same within => ?_, fun same => by cases same⟩
      cases same
      obtain ⟨alone, rfl, ends⟩ := found _ ended within
      exact ⟨alone, rfl, by rw [ends]; rfl⟩

theorem lexemeAt_place (separate : around.Separate) (cursor : Cursor) :
    (∀ kind reached, lexemeAt? (around.place cursor) = some (kind, reached) →
      reached.passed ≤ cursor.passed + cursor.rest.length + around.shift →
      ∃ place, reached = around.place place ∧ lexemeAt? cursor = some (kind, place)) ∧
    (lexemeAt? (around.place cursor) = none → lexemeAt? cursor = none) :=
  findSome_place separate cursor fun _ member => member

theorem between_place {cursor place : Cursor} {word : List Char}
    (leads : cursor.Leads word place) :
    between (around.place cursor) (around.place place) = between cursor place := by
  rw [between_of_leads leads]
  refine between_of_leads ⟨?_, ?_, ?_⟩
  · simp [Surroundings.place, leads.rest]
  · simp [Surroundings.place, leads.before, Option.or_assoc]
  · simp only [Surroundings.place, leads.passed]
    omega

theorem findFrom_place (separate : around.Separate) {gap : List Char} {before : Option Char}
    {passed : Nat} {rest : List Char} :
    (∀ found, findFrom? gap (before.or around.lead) (passed + around.shift) (rest ++ around.tail) =
        some found →
      (found.after.passed ≤ passed + rest.length + around.shift →
        ∃ place, found.after = around.place place ∧
          findFrom? gap before passed rest = some { found with after := place }) ∧
      (gap.length + rest.length ≤ found.gap.length → findFrom? gap before passed rest = none)) ∧
    (findFrom? gap (before.or around.lead) (passed + around.shift) (rest ++ around.tail) = none →
      findFrom? gap before passed rest = none) := by
  induction rest generalizing gap before passed with
  | nil =>
    refine ⟨fun found finds => ⟨fun within => ?_, fun _ => rfl⟩, fun _ => rfl⟩
    obtain ⟨begins, skipped, -, skips, leads, -, nonempty⟩ := at_of_findFrom finds
    have first := skips.passed
    have second := leads.passed
    have some := List.length_pos_iff.mpr nonempty
    simp only [List.length_nil] at within first
    omega
  | cons c rest ih =>
    obtain ⟨lexed, unlexed⟩ := lexemeAt_place separate ⟨before, c :: rest, passed⟩
    have next := @ih (c :: gap) (some c) (passed + 1)
    rw [Nat.add_right_comm] at next
    have here : around.place ⟨before, c :: rest, passed⟩ =
        ⟨before.or around.lead, c :: (rest ++ around.tail), passed + around.shift⟩ := rfl
    rw [here] at lexed unlexed
    rw [List.cons_append]
    simp only [findFrom?]
    split
    · rename_i kind after matched
      refine ⟨fun found same => ?_, fun none => by cases none⟩
      cases same
      refine ⟨fun within => ?_, fun long => ?_⟩
      · obtain ⟨place, rfl, alone⟩ := lexed kind after matched within
        obtain ⟨word, leads, -⟩ := leads_of_lexemeAt alone
        refine ⟨place, rfl, ?_⟩
        rw [alone, ← here, between_place leads]
      · simp only [List.length_cons, List.length_reverse] at long
        omega
    · rename_i unmatched
      rw [unlexed unmatched]
      obtain ⟨finds, never⟩ := next
      refine ⟨fun found matched => ?_, never⟩
      obtain ⟨inside, behind⟩ := finds found matched
      simp only [List.length_cons] at behind ⊢
      exact ⟨fun within => inside (by omega), fun long => behind (by omega)⟩

/-- What is found in the longer text: what is found in the text by itself, or something that goes
beyond its end. -/
theorem find_place (separate : around.Separate) (cursor : Cursor) :
    (∀ found, find? (around.place cursor) = some found →
      (found.after.passed ≤ cursor.passed + cursor.rest.length + around.shift →
        ∃ place, found.after = around.place place ∧
          find? cursor = some { found with after := place }) ∧
      (cursor.rest.length ≤ found.gap.length → find? cursor = none)) ∧
    (find? (around.place cursor) = none → find? cursor = none) := by
  obtain ⟨found, none⟩ := @findFrom_place around separate [] cursor.before cursor.passed cursor.rest
  refine ⟨fun result finds => ?_, none⟩
  obtain ⟨inside, behind⟩ := found result finds
  exact ⟨inside, fun long => behind (by simpa using long)⟩

/-- An entry for a character with which no earlier entry begins. -/
theorem lexemeAt_single (index : Nat) {kind : TokenKind} {c : Char}
    (known : grammar[index]? = some ⟨kind, Pattern.exactly c, .empty⟩)
    (others : ((grammar.take index).all fun entry => !entry.lexeme.begins c) = true)
    (before : Option Char) (rest : List Char) (passed : Nat) :
    lexemeAt? ⟨before, c :: rest, passed⟩ = some (kind, ⟨some c, rest, passed + 1⟩) := by
  refine @lexemeAt_of_entry ⟨before, c :: rest, passed⟩ _ index _ known (fun other member => ?_) ?_
  · exact Entry.end_eq_none rfl (by simpa using List.all_eq_true.mp others other member)
  · have leads : Cursor.Leads ⟨before, c :: rest, passed⟩ [c] ⟨some c, rest, passed + 1⟩ :=
      ⟨rfl, rfl, rfl⟩
    exact Entry.end_eq_some leads (by simp) (Pattern.spans_exactly.mpr rfl)
      (by simp [Pattern.ends, Pattern.endsFrom]) fun _ _ _ => Pattern.spans_exactly.mp

theorem lexemeAt_comma (before : Option Char) (rest : List Char) (passed : Nat) :
    lexemeAt? ⟨before, ',' :: rest, passed⟩ = some (.separator, ⟨some ',', rest, passed + 1⟩) :=
  lexemeAt_single 12 rfl (by decide +kernel) before rest passed

end Token

theorem byteLength_append (cs ds : List Char) :
    byteLength (cs ++ ds) = byteLength cs + byteLength ds := by
  induction cs with
  | nil => simp [byteLength]
  | cons c cs ih =>
    simp only [byteLength, List.cons_append, List.foldr_cons] at ih ⊢
    omega

theorem byteLength_pos {cs : List Char} (nonempty : cs ≠ []) : 0 < byteLength cs := by
  obtain ⟨c, cs, rfl⟩ := List.exists_cons_of_ne_nil nonempty
  have := c.utf8Size_pos
  simp only [byteLength, List.foldr_cons]
  omega

/-- Of two ways to divide a text, the front that takes no more bytes is the beginning of the
other. -/
theorem exists_append_of_byteLength_le {front word rest tail : List Char}
    (same : front ++ rest = word ++ tail) (within : byteLength word ≤ byteLength front) :
    ∃ more, front = word ++ more ∧ tail = more ++ rest := by
  rcases List.append_eq_append_iff.mp same with ⟨more, rfl, rfl⟩ | longer
  · have bytes := byteLength_append front more
    obtain rfl : more = [] := by
      by_contra some
      have := byteLength_pos some
      omega
    exact ⟨[], by simp, rfl⟩
  · exact longer

/-- The same text, divided after the same number of bytes, is divided at the same place. -/
theorem eq_of_byteLength {front more behind others : List Char}
    (same : front ++ behind = more ++ others) (sizes : byteLength front = byteLength more) :
    front = more ∧ behind = others := by
  obtain ⟨between, rfl, rfl⟩ := exists_append_of_byteLength_le same (Nat.le_of_eq sizes.symm)
  obtain rfl : between = [] := by
    by_contra some
    have := byteLength_pos some
    rw [byteLength_append] at sizes
    omega
  exact ⟨by simp, rfl⟩

/-- The words of a text are the same after a comma. -/
theorem lexes_shift {lenient : Bool} {lead : Option Char} (neutral : Neutral lead) (shift : Nat)
    (cursor : Cursor) (words : List (List Char)) :
    Lexes lenient (Surroundings.place ⟨lead, [], shift⟩ cursor) words ↔
      Lexes lenient cursor words := by
  induction length : cursor.rest.length using Nat.strongRecOn generalizing cursor words with
  | ind length ih =>
    have separate : Surroundings.Separate ⟨lead, [], shift⟩ := ⟨neutral, rfl, nofun⟩
    obtain ⟨finds, none⟩ := Token.find_place separate cursor
    cases found : Token.find? (Surroundings.place ⟨lead, [], shift⟩ cursor) with
    | none =>
      rw [Lexes.iff_of_none found, Lexes.iff_of_none (none found)]
      simp [Surroundings.place]
    | some result =>
      obtain ⟨begins, skips, leads, -⟩ := Token.at_of_find found
      have whole := skips.trans leads
      have lengths := whole.length_rest
      have passed := whole.passed
      simp only [Surroundings.place, List.append_nil] at lengths passed
      obtain ⟨place, after, alone⟩ := (finds result found).1 (by dsimp only; omega)
      have shorter := Token.length_find_lt alone
      rw [Lexes.iff_of_some found, Lexes.iff_of_some alone]
      refine exists_congr fun others => and_congr_right fun _ => and_congr_right fun _ => ?_
      rw [after]
      exact ih place.rest.length (by dsimp only at shorter; omega) place others rfl

/-- The text that goes on with a comma. -/
def Surroundings.comma (rest : List Char) : Surroundings :=
  ⟨none, ',' :: rest, 0⟩

theorem Surroundings.separate_comma (rest : List Char) : (comma rest).Separate :=
  ⟨rfl, rfl, by simp [Called, comma, Text.isBlank]⟩

/-- What is found at the end of the text before a comma is the comma. -/
theorem found_at_comma {cursor : Cursor} {rest : List Char} {found : Token.Found}
    (finds : Token.find? ((Surroundings.comma rest).place cursor) = some found)
    (gap_eq : found.gap = cursor.rest) :
    Token.find? cursor = none ∧ found.lexeme = [','] ∧
      found.after = ⟨some ',', rest, cursor.passed + cursor.rest.length + 1⟩ := by
  obtain ⟨finding, -⟩ := Token.find_place (Surroundings.separate_comma rest) cursor
  obtain ⟨-, behind⟩ := finding found finds
  obtain ⟨⟨before, ahead, passed⟩, skips, leads, lexed, -⟩ := Token.at_of_find finds
  have text : cursor.rest ++ ',' :: rest = found.gap ++ ahead := skips.rest
  rw [gap_eq, List.append_cancel_left_eq] at text
  obtain rfl : ahead = ',' :: rest := text.symm
  obtain rfl : passed = cursor.passed + cursor.rest.length := by
    simpa [Surroundings.place, Surroundings.comma, gap_eq] using skips.passed
  rw [Token.lexemeAt_comma, Option.some.injEq, Prod.mk.injEq] at lexed
  obtain ⟨-, after⟩ := lexed
  have word : ',' :: rest = found.lexeme ++ rest := by
    have word := leads.rest
    rwa [← after] at word
  have lexeme_eq : found.lexeme = [','] := (List.append_cancel_right word).symm
  exact ⟨behind (by simp [gap_eq]), lexeme_eq, after.symm⟩

/-- What is found within the text before a comma is found in that text by itself. -/
theorem found_in_front {cursor : Cursor} {rest : List Char} {found : Token.Found}
    (finds : Token.find? ((Surroundings.comma rest).place cursor) = some found)
    (fits : byteLength found.gap + byteLength found.lexeme ≤ byteLength cursor.rest) :
    ∃ place, found.after = (Surroundings.comma rest).place place ∧
      Token.find? cursor = some { found with after := place } ∧
      byteLength cursor.rest =
        byteLength found.gap + byteLength found.lexeme + byteLength place.rest := by
  obtain ⟨finding, -⟩ := Token.find_place (Surroundings.separate_comma rest) cursor
  obtain ⟨inside, -⟩ := finding found finds
  obtain ⟨begins, skips, leads, -⟩ := Token.at_of_find finds
  have whole : cursor.rest ++ ',' :: rest =
      (found.gap ++ found.lexeme) ++ found.after.rest := (skips.trans leads).rest
  obtain ⟨left, within, -⟩ :=
    exists_append_of_byteLength_le whole (by rwa [byteLength_append])
  have lengths := congrArg List.length within
  have passed := (skips.trans leads).passed
  simp only [Surroundings.place, Surroundings.comma, List.length_append] at lengths passed
  obtain ⟨place, after, alone⟩ := inside (by simp only [Surroundings.comma]; omega)
  obtain ⟨_, aloneSkips, aloneLeads, -⟩ := Token.at_of_find alone
  have parts : cursor.rest = (found.gap ++ found.lexeme) ++ place.rest :=
    (aloneSkips.trans aloneLeads).rest
  refine ⟨place, after, alone, ?_⟩
  rw [parts, byteLength_append, byteLength_append]

/-- What is found first in a text in which a comma is a lexeme: something before the comma, or the
comma. -/
theorem found_before_comma {cursor : Cursor} {rest : List Char} {offset : Nat}
    {lexemes : List Lexeme} {found : Token.Found}
    (finds : Token.find? ((Surroundings.comma rest).place cursor) = some found)
    (split : Lexeme.from? true offset ((Surroundings.comma rest).place cursor) = .ok lexemes)
    (stands : ∃ lexeme ∈ lexemes, lexeme.span.start = offset + byteLength cursor.rest) :
    (∃ place others, found.after = (Surroundings.comma rest).place place ∧
        Token.find? cursor = some { found with after := place } ∧
        Lexeme.from? true (offset + byteLength found.gap + byteLength found.lexeme)
          ((Surroundings.comma rest).place place) = .ok others ∧
        ∃ lexeme ∈ others, lexeme.span.start =
          offset + byteLength found.gap + byteLength found.lexeme + byteLength place.rest) ∨
      (Token.find? cursor = none ∧ found.gap = cursor.rest ∧ found.lexeme = [','] ∧
        found.after = ⟨some ',', rest, cursor.passed + cursor.rest.length + 1⟩) := by
  obtain ⟨begins, skips, -⟩ := Token.at_of_find finds
  obtain ⟨preamble, others, -, more, rfl⟩ := (Lexeme.from_of_some finds).mp split
  obtain ⟨lexeme, member, start⟩ := stands
  have text : cursor.rest ++ ',' :: rest = found.gap ++ begins.rest := skips.rest
  -- the comma is the lexeme found, or one of those that come later
  rcases List.mem_cons.mp member with rfl | later
  · have bytes : byteLength cursor.rest = byteLength found.gap := by
      dsimp only at start
      omega
    obtain ⟨gap_eq, -⟩ := eq_of_byteLength text bytes
    obtain ⟨none, lexeme_eq, after⟩ := found_at_comma finds gap_eq.symm
    exact .inr ⟨none, gap_eq.symm, lexeme_eq, after⟩
  · have late : offset + byteLength found.gap + byteLength found.lexeme ≤ lexeme.span.start :=
      Lexeme.start_of_mem more lexeme later
    obtain ⟨place, after, alone, bytes⟩ := found_in_front finds (by omega)
    exact .inl ⟨place, others, after, alone, after ▸ more, lexeme, later, by omega⟩

/-- The words of a text in which a comma is a lexeme: those of the text before it, the comma, and
those of the text after it. -/
theorem lexes_comma {lenient : Bool} {cursor : Cursor} {rest : List Char} {offset : Nat}
    {lexemes : List Lexeme} {words : List (List Char)}
    (split : Lexeme.from? true offset ((Surroundings.comma rest).place cursor) = .ok lexemes)
    (stands : ∃ lexeme ∈ lexemes, lexeme.span.start = offset + byteLength cursor.rest) :
    Lexes lenient ((Surroundings.comma rest).place cursor) words ↔
      ∃ front back, words = front ++ [','] :: back ∧ Lexes lenient cursor front ∧
        Lexes lenient (Cursor.start rest) back := by
  induction length : cursor.rest.length using Nat.strongRecOn
    generalizing cursor offset lexemes words with
  | ind length ih =>
    cases finds : Token.find? ((Surroundings.comma rest).place cursor) with
    | none =>
      obtain ⟨-, rfl⟩ := (Lexeme.from_of_none finds).mp split
      obtain ⟨lexeme, member, -⟩ := stands
      cases member
    | some found =>
      rw [Lexes.iff_of_some finds]
      rcases found_before_comma finds split stands with
        ⟨place, others, after, alone, more, later⟩ | ⟨alone, gap_eq, lexeme_eq, after⟩
      · have shorter := Token.length_find_lt alone
        have ih := fun words => @ih place.rest.length (by dsimp only at shorter; omega) place _
          others words more later rfl
        rw [after]
        constructor
        · rintro ⟨words, rfl, passable, lexes⟩
          obtain ⟨front, back, rfl, before, behind⟩ := (ih words).mp lexes
          exact ⟨found.lexeme :: front, back, rfl,
            (Lexes.iff_of_some alone).mpr ⟨front, rfl, passable, before⟩, behind⟩
        · rintro ⟨front, back, rfl, before, behind⟩
          obtain ⟨front, rfl, passable, before⟩ := (Lexes.iff_of_some alone).mp before
          exact ⟨_, rfl, passable, (ih _).mpr ⟨front, back, rfl, before, behind⟩⟩
      · have shift := @lexes_shift lenient (some ',') neutral_comma
          (cursor.passed + cursor.rest.length + 1) (Cursor.start rest)
        have placed : Surroundings.place
            ⟨some ',', [], cursor.passed + cursor.rest.length + 1⟩ (Cursor.start rest) =
              found.after := by
          simp [after, Surroundings.place, Cursor.start]
        rw [placed] at shift
        simp only [shift, lexeme_eq, gap_eq]
        constructor
        · rintro ⟨back, rfl, passable, lexes⟩
          exact ⟨[], back, rfl, .done alone passable, lexes⟩
        · rintro ⟨front, back, rfl, before, lexes⟩
          obtain ⟨rfl, passable⟩ := (Lexes.iff_of_none alone).mp before
          exact ⟨back, rfl, passable, lexes⟩

end PathQuery
