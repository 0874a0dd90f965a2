import PathQuery.Proofs.Interpretation
import PathQuery.Proofs.Pattern
import PathQuery.Proofs.WellFormed

/-!
The names of a path as it is spelled. Every step of a path has characters after its slash, so no
name between two slashes is empty. Main statement: `proper_of_text`, all parts of a text are proper.
-/

namespace PathQuery

namespace Token

open Pattern (oneOrMore boundary Spans Repeated)

theorem lexeme_of_path : ∀ entry ∈ grammar, entry.kind = .path →
    entry.lexeme = .seq (oneOrMore pathStep) boundary := by
  simp [grammar]

/-- The part of a step that follows its slash. -/
def stepName : Pattern :=
  .seq (Pattern.optional (Pattern.exactly '@'))
    (.either
      (.seq
        (.either (.seq boundary (oneOrMore (.char fun c => isLetter c || c == '_')))
          (Pattern.exactly '$'))
        nameRest)
      (Pattern.text ".."))

theorem pathStep_eq : pathStep = .seq (Pattern.optional (Pattern.exactly '/')) stepName := rfl

theorem stepName_admits : stepName.Admits (· ≠ '/') := by
  have letters : ∀ c, (isLetter c || c == '_') = true → c ≠ '/' := by
    rintro _ accepted rfl
    revert accepted
    decide
  have others : ∀ c, (Text.isWordChar c || c == '.') = true → c ≠ '/' := by
    rintro _ accepted rfl
    cases accepted
  refine ⟨⟨Pattern.admits_exactly (by decide), trivial⟩,
    ⟨⟨⟨trivial, letters, letters⟩, ?_⟩, others⟩, ?_⟩
  · exact Pattern.admits_exactly (by decide)
  · exact Pattern.admits_text (by simp)

theorem step_of_spans {before : Option Char} {word rest : List Char}
    (spans : pathStep.Spans before word rest) :
    ∃ slash name, word = slash ++ name ∧ (slash = [] ∨ slash = ['/']) ∧ name ≠ [] ∧ '/' ∉ name := by
  rw [pathStep_eq] at spans
  obtain ⟨slash, name, rfl, spansSlash, spansName⟩ := spans
  refine ⟨slash, name, rfl, ?_, ?_, ?_⟩
  · rcases spansSlash with ⟨c, same, rfl⟩ | rfl
    · exact .inr (by rw [eq_of_beq same])
    · exact .inl rfl
  · rintro rfl
    cases Pattern.nullable_of_spans spansName
  · exact fun member => stepName_admits.of_spans spansName '/' member rfl

theorem splitOn_append {name : List Char} (plain : '/' ∉ name) (rest : List Char) :
    (name ++ rest).splitOn '/' = (rest.splitOn '/').modifyHead (name ++ ·) := by
  induction name with
  | nil =>
    rw [List.nil_append]
    cases rest.splitOn '/' <;> rfl
  | cons c name ih =>
    obtain ⟨differs, plain⟩ : '/' ≠ c ∧ '/' ∉ name := by simpa using plain
    have other : (c == '/') = false := by simpa using Ne.symm differs
    rw [List.cons_append, List.splitOn_cons_eq_if_modifyHead, other, ih plain]
    simp [Function.comp_def]

theorem splitOn_slash (rest : List Char) : ('/' :: rest).splitOn '/' = [] :: rest.splitOn '/' := by
  rw [List.splitOn_cons_eq_if_modifyHead]
  rfl

theorem not_mem_of_splitOn {word piece : List Char} (member : piece ∈ word.splitOn '/') :
    '/' ∉ piece := by
  induction word generalizing piece with
  | nil =>
    obtain rfl : piece = [] := by simpa using member
    simp
  | cons c word ih =>
    by_cases slash : c = '/'
    · rw [slash, splitOn_slash] at member
      rcases List.mem_cons.mp member with rfl | later
      · simp
      · exact ih later
    · rw [← List.singleton_append, splitOn_append (by simpa using Ne.symm slash)] at member
      cases split : word.splitOn '/' with
      | nil => exact absurd split (List.splitOn_ne_nil '/' word)
      | cons first others =>
        rw [split] at member ih
        rcases List.mem_cons.mp member with rfl | later
        · simpa using ⟨Ne.symm slash, ih List.mem_cons_self⟩
        · exact ih (List.mem_cons_of_mem _ later)

/-- The pieces of a path between slashes: the first one is what stands before its first slash, and
none of the others is empty. -/
theorem pieces_of_steps {before : Option Char} {word rest : List Char}
    (repeated : Repeated pathStep.Spans before word rest) :
    ∀ piece ∈ (word.splitOn '/').tail, piece ≠ [] := by
  induction repeated with
  | done => simp
  | @more _ step others _ spans _ ih =>
    obtain ⟨slash, name, rfl, begins, some, plain⟩ := step_of_spans spans
    rw [List.append_assoc]
    rcases begins with rfl | rfl
    · rw [List.nil_append, splitOn_append plain]
      simpa using ih
    · rw [List.singleton_append, splitOn_slash, splitOn_append plain, List.tail_cons]
      cases split : others.splitOn '/' with
      | nil => simp
      | cons first pieces =>
        rw [split] at ih
        simp only [List.modifyHead_cons, List.mem_cons]
        rintro piece (rfl | member)
        · simp [some]
        · exact ih piece member

theorem properName_of_plain {piece : List Char} (some : piece ≠ []) (plain : '/' ∉ piece) :
    Segment.properName (String.ofList piece) = true := by
  obtain ⟨c, rest, rfl⟩ := List.exists_cons_of_ne_nil some
  have later : '/' ∉ rest := fun member => plain (List.mem_cons_of_mem _ member)
  simpa [Segment.properName] using later

theorem properName_slash {piece : List Char} (plain : '/' ∉ piece) :
    Segment.properName (String.ofList ('/' :: piece)) = true := by
  simpa [Segment.properName] using plain

theorem allWellFormed_names {pieces : List (List Char)}
    (proper : ∀ piece ∈ pieces, Segment.properName (String.ofList piece) = true) :
    Segment.allWellFormed (pieces.map fun piece => .name (String.ofList piece)) = true := by
  induction pieces with
  | nil => rfl
  | cons piece pieces ih =>
    obtain ⟨first, others⟩ := List.forall_mem_cons.mp proper
    simp [Segment.allWellFormed, first, ih others]

theorem names_of_path {lexeme : List Char} {beforeScope : Bool}
    (identified : identify? lexeme beforeScope = some .path) :
    Segment.beginsPath (Segment.names (String.ofList lexeme)) = true ∧
      Segment.allWellFormed (Segment.names (String.ofList lexeme)) = true := by
  obtain ⟨entry, found, path⟩ := Option.map_eq_some_iff.mp identified
  have kept := List.find?_some found
  have matched := (Bool.and_eq_true_iff.mp kept).1
  rw [lexeme_of_path entry (List.mem_of_find?_eq_some found) path,
    Pattern.matchesAll_iff] at matched
  obtain ⟨word, ending, rfl, ⟨step, others, rfl, spans, repeated⟩, rfl, -⟩ := matched
  obtain ⟨slash, name, rfl, begins, some, plain⟩ := step_of_spans spans
  have filled := pieces_of_steps repeated
  have free : ∀ piece ∈ others.splitOn '/', '/' ∉ piece := fun _ => not_mem_of_splitOn
  obtain ⟨first, pieces, split⟩ := List.exists_cons_of_ne_nil (List.splitOn_ne_nil '/' others)
  rw [split] at filled free
  obtain ⟨freeFirst, freeLater⟩ := List.forall_mem_cons.mp free
  have later : ∀ piece ∈ pieces, Segment.properName (String.ofList piece) = true :=
    fun piece member => properName_of_plain (filled piece member) (freeLater piece member)
  have joined : '/' ∉ name ++ first := by simp [plain, freeFirst]
  have names : ∃ head, Segment.properName (String.ofList head) = true ∧
      Segment.names (String.ofList (slash ++ name ++ others ++ [])) =
        (head :: pieces).map fun piece => .name (String.ofList piece) := by
    rw [List.append_nil, Segment.names, String.toList_ofList, List.append_assoc]
    rcases begins with rfl | rfl
    · refine ⟨name ++ first, properName_of_plain (by simp [some]) joined, ?_⟩
      rw [List.nil_append, splitOn_append plain, split, List.modifyHead_cons]
      cases both : name ++ first with
      | nil => exact absurd both (by simp [some])
      | cons => rfl
    · refine ⟨'/' :: (name ++ first), properName_slash joined, ?_⟩
      rw [List.singleton_append, splitOn_slash, splitOn_append plain, split, List.modifyHead_cons]
  obtain ⟨head, proper, same⟩ := names
  rw [same]
  exact ⟨rfl, allWellFormed_names (List.forall_mem_cons.mpr ⟨proper, later⟩)⟩

end Token

namespace PlacedPart

variable {lenient : Bool} {parts next : List PlacedPart}

theorem identified_of_add {lexeme : Lexeme} {beforeScope : Bool} {placed : PlacedPart}
    {others : List PlacedPart} {text : String}
    (added : add? lenient parts lexeme beforeScope = .ok (placed :: others))
    (path : placed.part = .text .path text) :
    text = String.ofList lexeme.text ∧ Token.identify? lexeme.text beforeScope = some .path := by
  unfold add? at added
  split at added
  · split at added
    · cases added
      cases path
    · cases added
  iterate 4
    · cases added
      cases path
  · rename_i identified
    split at added
    · split at added <;>
      · obtain ⟨value, -, added⟩ := Tiers.bind_eq_ok.mp added
        cases added
        cases path
    · cases added
      cases path
      exact ⟨rfl, identified⟩

theorem proper_of_add {lexeme : Lexeme} {beforeScope : Bool}
    (added : add? lenient parts lexeme beforeScope = .ok next)
    (proper : ∀ placed ∈ parts, placed.part.Proper) : ∀ placed ∈ next, placed.part.Proper := by
  have newest : ∀ {placed : PlacedPart} {others : List PlacedPart}, next = placed :: others →
      placed.part.isToken = true → placed.part.Proper := by
    rintro placed others rfl token
    refine .token token fun text path => ?_
    obtain ⟨rfl, identified⟩ := identified_of_add added path
    exact Token.names_of_path identified
  cases added_of_add added with
  | behind token => exact List.forall_mem_cons.mpr ⟨newest rfl token, proper⟩
  | signed split _ token =>
    rw [split] at proper
    exact List.forall_mem_cons.mpr ⟨newest rfl token, (List.forall_mem_cons.mp proper).2⟩

theorem proper_of_addAll {lexemes : List Lexeme}
    (added : addAll? lenient parts lexemes = .ok next)
    (proper : ∀ placed ∈ parts, placed.part.Proper) : ∀ placed ∈ next, placed.part.Proper := by
  induction lexemes generalizing parts with
  | nil =>
    cases added
    exact proper
  | cons lexeme lexemes ih =>
    obtain ⟨middle, first, others⟩ := Tiers.bind_eq_ok.mp added
    exact ih others (proper_of_add first proper)

theorem proper_of_text {text : String} {placed : List PlacedPart}
    (interpreted : ofText? lenient text = .ok placed) :
    ∀ part ∈ placed.map PlacedPart.part, part.Proper := by
  obtain ⟨lexemes, -, interpreted⟩ := Tiers.bind_eq_ok.mp interpreted
  obtain ⟨reversed, added, rfl⟩ := Tiers.map_eq_ok.mp interpreted
  intro part member
  obtain ⟨place, present, rfl⟩ := List.mem_map.mp member
  exact proper_of_addAll added (by simp) place (List.mem_reverse.mp present)

end PlacedPart

end PathQuery
