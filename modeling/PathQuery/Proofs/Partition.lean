import PathQuery.Proofs.Lexing.Blanks
import PathQuery.Proofs.Words

/-!
The division of a text into lexemes and the gaps between them. In lenient mode the lexemes are those
that a scan from the end of the one before finds, and they divide the text; strict mode answers the
same unless a gap holds more than white space. Main statement: `split_partitions`.
-/

namespace PathQuery

namespace Span

/-- The span is that of the word where it stands in the text. -/
def Covers (span : Span) (text word : List Char) : Prop :=
  ∃ front behind, text = front ++ word ++ behind ∧ span.start = byteLength front ∧
    span.stop = byteLength front + byteLength word

/-- The span is one of white space. -/
def IsBlank (span : Span) (text : List Char) : Prop :=
  ∃ word, span.Covers text word ∧ Text.AllBlank word

variable {span : Span} {text word other : List Char}

/-- A span is that of one word only. -/
theorem Covers.unique (covers : span.Covers text word) (again : span.Covers text other) :
    word = other := by
  obtain ⟨front, behind, rfl, start, stop⟩ := covers
  obtain ⟨more, others, same, startMore, stopMore⟩ := again
  rw [List.append_assoc, List.append_assoc] at same
  obtain ⟨rfl, rest⟩ := eq_of_byteLength same (start.symm.trans startMore)
  exact (eq_of_byteLength rest (by omega)).1

theorem isBlank_iff (covers : span.Covers text word) : span.IsBlank text ↔ Text.AllBlank word := by
  constructor
  · rintro ⟨other, again, blank⟩
    rwa [covers.unique again]
  · exact fun blank => ⟨word, covers, blank⟩

end Span

namespace Cursor

theorem advanceBytes_of_leads {cursor place : Cursor} {front : List Char}
    (leads : cursor.Leads front place) :
    cursor.advanceBytes (byteLength front) cursor.rest = place := by
  induction front generalizing cursor with
  | nil =>
    rw [← (leads.eq_of_passed (.refl cursor) leads.passed).1]
    exact advanceBytes.eq_1 ..
  | cons c front ih =>
    obtain ⟨next, step, further⟩ := Leads.split (show cursor.Leads ([c] ++ front) place from leads)
    obtain ⟨before, rest, passed, rfl, rfl⟩ := step.eq_of_leads
    have size : byteLength (c :: front) = c.utf8Size + byteLength front := rfl
    have positive := c.utf8Size_pos
    obtain ⟨less, more⟩ : ∃ less, byteLength (c :: front) = less + 1 :=
      ⟨byteLength (c :: front) - 1, by omega⟩
    rw [more]
    show advanceBytes ⟨some c, rest, passed + 1⟩ (less + 1 - c.utf8Size) rest = _
    rw [show less + 1 - c.utf8Size = byteLength front by omega]
    exact ih further

end Cursor

namespace Token

/-- What a scan finds from the place behind some characters of a text. -/
theorem findAt_of_leads {text : String} {front : List Char} {cursor : Cursor}
    (leads : (Cursor.start text.toList).Leads front cursor) :
    findAt? text (byteLength front) = (find? cursor).map fun found =>
      (found.kind, ⟨byteLength front + byteLength found.gap,
        byteLength front + byteLength found.gap + byteLength found.lexeme⟩) := by
  have reached : (Cursor.start text.toList).advanceBytes (byteLength front) text.toList = cursor :=
    Cursor.advanceBytes_of_leads leads
  have passed : text.toList.take cursor.passed = front := by
    rw [leads.passed, show text.toList = front ++ cursor.rest from leads.rest]
    simp [Cursor.start]
  unfold findAt?
  simp only [reached, passed]
  cases find? cursor <;> rfl

end Token

namespace Lexeme

/-- The gaps between lexemes from an offset of a text on: before the first of them, between two, and
behind the last. -/
def gapsFrom (offset size : Nat) : List Lexeme → List Span
  | [] => [⟨offset, size⟩]
  | lexeme :: lexemes => ⟨offset, lexeme.span.start⟩ :: gapsFrom lexeme.span.stop size lexemes

/-- The gaps between the lexemes of a text. -/
def gaps (text : String) (lexemes : List Lexeme) : List Span :=
  gapsFrom 0 (byteLength text.toList) lexemes

/-- Lexemes divide a text from an offset on. -/
structure DividesFrom (text : String) (offset : Nat) (lexemes : List Lexeme) : Prop where
  covers : ∀ lexeme ∈ lexemes, lexeme.span.Covers text.toList lexeme.text
  nonempty : ∀ lexeme ∈ lexemes, lexeme.span.start < lexeme.span.stop
  within : ∀ lexeme ∈ lexemes,
    offset ≤ lexeme.span.start ∧ lexeme.span.stop ≤ byteLength text.toList
  increasing : lexemes.Pairwise fun first second => first.span.stop ≤ second.span.start
  /-- The gap before a lexeme is kept when it is not white space. -/
  preambles : ∀ pair ∈ (gapsFrom offset (byteLength text.toList) lexemes).zip lexemes,
    ∃ gap, pair.1.Covers text.toList gap ∧
      pair.2.preamble = if Text.AllBlank gap then none else some gap
  /-- A lexeme is what the grammar finds from the end of the one before. -/
  found : ∀ pair ∈ (gapsFrom offset (byteLength text.toList) lexemes).zip lexemes,
    ∃ kind, Token.findAt? text pair.1.start = some (kind, pair.2.span)
  /-- From the end of the last lexeme on the grammar finds nothing. -/
  ended : ∀ gap ∈ (gapsFrom offset (byteLength text.toList) lexemes).getLast?,
    Token.findAt? text gap.start = none

/-- The first of some gaps that holds more than white space, and what it holds. -/
structure FirstFault (text : List Char) (gaps : List Span) (gap : Span) (word : List Char) :
    Prop where
  first : ∃ front behind, gaps = front ++ gap :: behind ∧ ∀ other ∈ front, other.IsBlank text
  covers : gap.Covers text word
  shown : ¬Text.AllBlank word

section Gaps

variable {text word other : List Char} {gaps : List Span} {gap first : Span}

theorem firstFault_nil : ¬FirstFault text [] gap word := by
  rintro ⟨⟨front, behind, split, -⟩, -⟩
  simp at split

theorem firstFault_of_blank (blank : first.IsBlank text) :
    FirstFault text (first :: gaps) gap word ↔ FirstFault text gaps gap word := by
  constructor
  · rintro ⟨⟨front, behind, split, blanks⟩, covers, shown⟩
    cases front with
    | nil =>
      obtain ⟨rfl, -⟩ := List.cons.inj split
      exact absurd ((Span.isBlank_iff covers).mp blank) shown
    | cons skipped front =>
      obtain ⟨-, rest⟩ := List.cons.inj split
      exact ⟨⟨front, behind, rest, (List.forall_mem_cons.mp blanks).2⟩, covers, shown⟩
  · rintro ⟨⟨front, behind, rfl, blanks⟩, covers, shown⟩
    exact ⟨⟨first :: front, behind, rfl, List.forall_mem_cons.mpr ⟨blank, blanks⟩⟩, covers, shown⟩

theorem firstFault_of_shown (covers : first.Covers text word) (shown : ¬Text.AllBlank word) :
    FirstFault text (first :: gaps) gap other ↔ gap = first ∧ other = word := by
  constructor
  · rintro ⟨⟨front, behind, split, blanks⟩, again, -⟩
    cases front with
    | nil =>
      obtain ⟨rfl, -⟩ := List.cons.inj split
      exact ⟨rfl, again.unique covers⟩
    | cons skipped front =>
      obtain ⟨rfl, -⟩ := List.cons.inj split
      have blank := (List.forall_mem_cons.mp blanks).1
      exact absurd ((Span.isBlank_iff covers).mp blank) shown
  · rintro ⟨rfl, rfl⟩
    exact ⟨⟨[], gaps, rfl, by simp⟩, covers, shown⟩

/-- An answer about some lexemes is right when it gives them where all gaps are white space, and
otherwise blames the first gap that is not. -/
structure Judged (text : List Char) (gaps : List Span) (lexemes : List Lexeme)
    (answer : Except LexError (List Lexeme)) : Prop where
  accepts : ∀ others, answer = .ok others ↔ others = lexemes ∧ ∀ gap ∈ gaps, gap.IsBlank text
  rejects : ∀ error, answer = .error error ↔ ∃ gap word, FirstFault text gaps gap word ∧
    error = .invalidToken (String.ofList word) gap

namespace Judged

variable {lexemes : List Lexeme} {answer : Except LexError (List Lexeme)}

theorem nil : Judged text [] lexemes (.ok lexemes) :=
  ⟨fun _ => by simp [eq_comm], fun _ => by simp [firstFault_nil]⟩

theorem blank (judged : Judged text gaps lexemes answer) (covers : first.Covers text word)
    (blank : Text.AllBlank word) : Judged text (first :: gaps) lexemes answer := by
  have blanks := (Span.isBlank_iff covers).mpr blank
  refine ⟨fun others => ?_, fun error => ?_⟩
  · simp only [judged.accepts, List.forall_mem_cons, blanks, true_and]
  · simp only [judged.rejects, firstFault_of_blank blanks]

theorem shown (covers : first.Covers text word) (shown : ¬Text.AllBlank word) :
    Judged text (first :: gaps) lexemes (.error (.invalidToken (String.ofList word) first)) := by
  refine ⟨fun others => ?_, fun error => ?_⟩
  · constructor
    · rintro ⟨⟩
    · rintro ⟨-, blanks⟩
      have blank := (List.forall_mem_cons.mp blanks).1
      exact absurd ((Span.isBlank_iff covers).mp blank) shown
  · constructor
    · rintro ⟨⟩
      exact ⟨first, word, (firstFault_of_shown covers shown).mpr ⟨rfl, rfl⟩, rfl⟩
    · rintro ⟨gap, other, fault, rfl⟩
      obtain ⟨rfl, rfl⟩ := (firstFault_of_shown covers shown).mp fault
      rfl

theorem cons (judged : Judged text gaps lexemes answer) (lexeme : Lexeme) :
    Judged text gaps (lexeme :: lexemes) (answer.map (lexeme :: ·)) := by
  refine ⟨fun others => ?_, fun error => ?_⟩
  · rw [Tiers.map_eq_ok]
    simp only [judged.accepts]
    constructor
    · rintro ⟨_, ⟨rfl, blanks⟩, rfl⟩
      exact ⟨rfl, blanks⟩
    · rintro ⟨rfl, blanks⟩
      exact ⟨_, ⟨rfl, blanks⟩, rfl⟩
  · rw [← judged.rejects]
    cases answer <;> simp [Except.map]

end Judged

theorem gap_lenient (offset : Nat) (cs : List Char) :
    Lexeme.gap true offset cs = .ok (if Text.AllBlank cs then none else some cs) := by
  simp only [Lexeme.gap, Text.trimmed_isEmpty_iff, if_true]
  split <;> rfl

theorem gap_strict (offset : Nat) (cs : List Char) : Lexeme.gap false offset cs =
    if Text.AllBlank cs then .ok none
    else .error (.invalidToken (String.ofList cs) ⟨offset, offset + byteLength cs⟩) := by
  simp only [Lexeme.gap, Text.trimmed_isEmpty_iff, Bool.false_eq_true, if_false]

theorem gap_blank {cs : List Char} (blank : Text.AllBlank cs) (offset : Nat) :
    Lexeme.gap false offset cs = .ok none := by
  rw [gap_strict, if_pos blank]

theorem blank_of_gap {offset : Nat} {cs : List Char} {preamble : Option (List Char)}
    (passes : Lexeme.gap false offset cs = .ok preamble) : preamble = none ∧ Text.AllBlank cs := by
  rw [gap_strict] at passes
  split at passes
  · exact ⟨(Except.ok.inj passes).symm, ‹_›⟩
  · cases passes

end Gaps

variable {text : String} {front : List Char} {cursor : Cursor}

theorem DividesFrom.nil (leads : (Cursor.start text.toList).Leads front cursor)
    (finds : Token.find? cursor = none) : DividesFrom text (byteLength front) [] := by
  refine ⟨by simp, by simp, by simp, .nil, by simp [gapsFrom], by simp [gapsFrom], ?_⟩
  rintro gap ⟨⟩
  show Token.findAt? text (byteLength front) = none
  rw [Token.findAt_of_leads leads, finds]
  rfl

/-- The lexeme that is found from a place of a text, before those that divide the text from its end
on. -/
theorem DividesFrom.cons {found : Token.Found} {lexemes : List Lexeme}
    (leads : (Cursor.start text.toList).Leads front cursor)
    (finds : Token.find? cursor = some found)
    (divides : DividesFrom text
      (byteLength front + byteLength found.gap + byteLength found.lexeme) lexemes) :
    DividesFrom text (byteLength front)
      ({ text := found.lexeme
         span := ⟨byteLength front + byteLength found.gap,
           byteLength front + byteLength found.gap + byteLength found.lexeme⟩
         preamble := if Text.AllBlank found.gap then none else some found.gap } :: lexemes) := by
  obtain ⟨begins, placed⟩ := Token.at_of_find finds
  have split : text.toList = front ++ found.gap ++ found.lexeme ++ found.after.rest := by
    have whole := (leads.trans placed.skips).trans placed.leads
    exact whole.rest
  have positive := byteLength_pos placed.nonempty
  have size : byteLength text.toList = byteLength front + byteLength found.gap +
      byteLength found.lexeme + byteLength found.after.rest := by
    rw [split, byteLength_append, byteLength_append, byteLength_append]
  refine ⟨?_, ?_, ?_, ?_, ?_, ?_, ?_⟩
  · refine List.forall_mem_cons.mpr ⟨?_, divides.covers⟩
    exact ⟨front ++ found.gap, found.after.rest, split, by simp [byteLength_append],
      by simp [byteLength_append]⟩
  · refine List.forall_mem_cons.mpr ⟨?_, divides.nonempty⟩
    dsimp only
    omega
  · refine List.forall_mem_cons.mpr ⟨?_, fun lexeme member => ?_⟩
    · dsimp only
      omega
    · have within := divides.within lexeme member
      omega
  · refine .cons (fun lexeme member => ?_) divides.increasing
    exact (divides.within lexeme member).1
  · refine List.forall_mem_cons.mpr ⟨⟨found.gap, ?_, rfl⟩, divides.preambles⟩
    exact ⟨front, found.lexeme ++ found.after.rest, by rw [split, List.append_assoc], rfl, rfl⟩
  · refine List.forall_mem_cons.mpr ⟨⟨found.kind, ?_⟩, divides.found⟩
    show Token.findAt? text (byteLength front) = _
    rw [Token.findAt_of_leads leads, finds]
    rfl
  · intro gap last
    refine divides.ended gap ?_
    rw [gapsFrom] at last
    cases lexemes with
    | nil => simpa [gapsFrom] using last
    | cons => simpa [gapsFrom] using last

/-- In lenient mode there are lexemes from every place on, and they divide the text. -/
theorem divides_of_leads (leads : (Cursor.start text.toList).Leads front cursor) :
    ∃ lexemes, from? true (byteLength front) cursor = .ok lexemes ∧
      DividesFrom text (byteLength front) lexemes := by
  induction length : cursor.rest.length using Nat.strongRecOn generalizing front cursor with
  | ind length ih =>
    cases finds : Token.find? cursor with
    | none =>
      refine ⟨[], ?_, .nil leads finds⟩
      rw [from_eq_of_none finds, gap_lenient]
      rfl
    | some found =>
      obtain ⟨begins, placed⟩ := Token.at_of_find finds
      have shorter := Token.length_find_lt finds
      have behind := (leads.trans placed.skips).trans placed.leads
      obtain ⟨lexemes, split, divides⟩ := ih found.after.rest.length (by omega) behind rfl
      rw [byteLength_append, byteLength_append] at split divides
      refine ⟨_, ?_, .cons leads finds divides⟩
      rw [from_eq_of_some finds, gap_lenient, split]
      rfl

/-- Strict mode answers what lenient mode answers when all gaps are white space, and blames the first
gap that is not. -/
theorem strict_of_leads {lexemes : List Lexeme}
    (leads : (Cursor.start text.toList).Leads front cursor)
    (split : from? true (byteLength front) cursor = .ok lexemes) :
    Judged text.toList (gapsFrom (byteLength front) (byteLength text.toList) lexemes) lexemes
      (from? false (byteLength front) cursor) := by
  induction length : cursor.rest.length using Nat.strongRecOn
    generalizing front cursor lexemes with
  | ind length ih =>
    cases finds : Token.find? cursor with
    | none =>
      have whole : text.toList = front ++ cursor.rest := leads.rest
      have size : byteLength text.toList = byteLength front + byteLength cursor.rest := by
        rw [whole, byteLength_append]
      have covers : Span.Covers ⟨byteLength front, byteLength front + byteLength cursor.rest⟩
          text.toList cursor.rest :=
        ⟨front, [], by simpa using whole, rfl, rfl⟩
      rw [from_eq_of_none finds, gap_lenient] at split
      cases split
      rw [from_eq_of_none finds, gap_strict, gapsFrom, size]
      split
      case isTrue blank => exact Judged.nil.blank covers blank
      case isFalse shown => exact .shown covers shown
    | some found =>
      obtain ⟨begins, placed⟩ := Token.at_of_find finds
      have shorter := Token.length_find_lt finds
      have behind := (leads.trans placed.skips).trans placed.leads
      have covers : Span.Covers ⟨byteLength front, byteLength front + byteLength found.gap⟩
          text.toList found.gap :=
        ⟨front, begins.rest, (leads.trans placed.skips).rest, rfl, rfl⟩
      rw [from_eq_of_some finds, gap_lenient] at split
      obtain ⟨others, more, rfl⟩ := Tiers.map_eq_ok.mp split
      rw [← byteLength_append, ← byteLength_append] at more
      have judged := ih found.after.rest.length (by omega) behind more rfl
      rw [byteLength_append, byteLength_append] at judged
      rw [from_eq_of_some finds, gap_strict, gapsFrom]
      by_cases blank : Text.AllBlank found.gap
      · rw [if_pos blank, if_pos blank]
        exact (judged.cons _).blank covers blank
      · rw [if_neg blank, if_neg blank]
        exact .shown covers blank

section Split

variable {lenient : Bool} {text : String}

theorem split_eq_error {error : LexError} : split? lenient text = .error error ↔
    from? lenient 0 (Cursor.start text.toList) = .error error ∨
      from? lenient 0 (Cursor.start text.toList) = .ok [] ∧ error = .noTokens := by
  rw [split?]
  cases from? lenient 0 (Cursor.start text.toList) with
  | error => simp [bind, Except.bind]
  | ok lexemes =>
    cases lexemes <;>
      simp [bind, Except.bind, pure, Except.pure, throw, throwThe, MonadExceptOf.throw, eq_comm]

theorem from_allBlank (blank : Text.AllBlank text.toList) :
    from? lenient 0 (Cursor.start text.toList) = .ok [] :=
  (from_of_none (Token.find_allBlank blank)).mpr ⟨.inr (Text.trimmed_isEmpty_iff.mpr blank), rfl⟩

theorem isBlank_whole : Span.IsBlank ⟨0, byteLength text.toList⟩ text.toList ↔
    Text.AllBlank text.toList :=
  Span.isBlank_iff ⟨[], [], by simp, rfl, by simp [byteLength]⟩

end Split

/-- The division of a text. In lenient mode it fails only where the grammar finds nothing. Strict
mode agrees with lenient mode where all gaps are white space, and otherwise blames the first gap that
is not; a text of white space has no lexemes in both modes. -/
theorem split_partitions (text : String) :
    (∀ lexemes, split? true text = .ok lexemes →
      lexemes ≠ [] ∧ DividesFrom text 0 lexemes) ∧
    (∀ error, split? true text = .error error ↔
      error = .noTokens ∧ Token.findAt? text 0 = none) ∧
    (∀ lexemes, split? false text = .ok lexemes ↔ split? true text = .ok lexemes ∧
      ∀ gap ∈ gaps text lexemes, gap.IsBlank text.toList) ∧
    ∀ error, split? false text = .error error ↔
      error = .noTokens ∧ Text.AllBlank text.toList ∨
      ∃ gap word, FirstFault text.toList
          (gaps text ((split? true text).toOption.getD [])) gap word ∧
        error = .invalidToken (String.ofList word) gap := by
  have leads : (Cursor.start text.toList).Leads [] (Cursor.start text.toList) := .refl _
  obtain ⟨lexemes, lenient, divides⟩ := divides_of_leads leads
  obtain ⟨accepts, rejects⟩ := strict_of_leads leads lenient
  rw [show byteLength [] = 0 from rfl] at lenient divides accepts rejects
  have same : (split? true text).toOption.getD [] = lexemes := by
    cases split : split? true text with
    | ok others =>
      obtain ⟨-, again⟩ := split_eq_ok.mp split
      exact Except.ok.inj (again.symm.trans lenient)
    | error error =>
      rcases split_eq_error.mp split with again | ⟨again, -⟩
      · cases again.symm.trans lenient
      · exact Except.ok.inj (again.symm.trans lenient)
  refine ⟨fun others split => ?_, fun error => ?_, fun others => ?_, fun error => ?_⟩
  · obtain ⟨nonempty, again⟩ := split_eq_ok.mp split
    obtain rfl := Except.ok.inj (again.symm.trans lenient)
    exact ⟨nonempty, divides⟩
  · rw [split_eq_error, lenient]
    have empty : lexemes = [] ↔ Token.findAt? text 0 = none := by
      cases lexemes with
      | nil => exact ⟨fun _ => divides.ended _ rfl, fun _ => rfl⟩
      | cons lexeme lexemes =>
        obtain ⟨kind, found⟩ := divides.found (⟨0, _⟩, lexeme) List.mem_cons_self
        simp [found]
    simp [empty, and_comm]
  · rw [split_eq_ok, split_eq_ok, accepts, lenient]
    constructor
    · rintro ⟨nonempty, rfl, blank⟩
      exact ⟨⟨nonempty, rfl⟩, blank⟩
    · rintro ⟨⟨nonempty, again⟩, blank⟩
      obtain rfl := Except.ok.inj again
      exact ⟨nonempty, rfl, blank⟩
  · rw [split_eq_error, rejects, same, or_comm, and_comm]
    refine or_congr (and_congr_right fun _ => ?_) Iff.rfl
    constructor
    · intro finds
      obtain ⟨rfl, blank⟩ := (accepts []).mp finds
      exact isBlank_whole.mp (blank _ List.mem_cons_self)
    · exact from_allBlank

end Lexeme

end PathQuery
