import PathQuery.Proofs.Lexing.Blanks
import PathQuery.Proofs.Lexing.Decimals
import PathQuery.Proofs.Lexing.Paths
import PathQuery.Proofs.Pattern.Isolation

/-!
A word that the grammar finds in a text, and what it stands for by itself. Main statement:
`identify_of_lexemeAt`.
-/

namespace PathQuery

/-- Whether no word goes on over the ends of some characters. -/
structure Edged (before : Option Char) (word rest : List Char) : Prop where
  front : Parted before word.head?
  back : Parted word.getLast? rest.head?

namespace Token

/-- What an entry of the grammar spans in a text it spans by itself, and the other way round, where
no word goes on over the ends; but a path by itself ends with a word. -/
structure Entry.Steady (entry : Entry) : Prop where
  edged : ∀ {before word rest}, word ≠ [] → (entry.kind = .method → Called rest) →
    entry.lexeme.Spans before word rest → Edged before word rest
  alone : ∀ {before word rest}, word ≠ [] → Edged before word rest →
    (entry.lexeme.Spans none word [] ↔ entry.lexeme.Spans before word rest ∧
      (entry.kind = .path → word.getLast?.any Text.isWordChar = true))
  stops : ∀ {word}, word ≠ [] → entry.kind ≠ .method → entry.lexeme.Spans none word [] →
    word.getLast? ≠ some '.'

variable {entry : Entry} {before : Option Char} {word rest : List Char}

theorem ne_dot_of_inside {last : Option Char} (inside : last.any Text.isWordChar = true) :
    last ≠ some '.' := by
  rintro rfl
  exact absurd inside (by decide)

/-- No word goes on over signs at the ends. -/
theorem steady_of_signs (other : entry.kind ≠ .path) (plain : entry.lexeme.Plain)
    (signs : ∀ {word}, word ≠ [] → entry.lexeme.Spans none word [] →
      word.head?.any Text.isWordChar = false ∧ word.getLast?.any Text.isWordChar = false ∧
        word.getLast? ≠ some '.') : entry.Steady where
  edged nonempty _ spans := by
    obtain ⟨head, last, -⟩ := signs nonempty (plain.elsewhere spans)
    exact ⟨parted_of_neutral head, fun inside => by simp [last] at inside⟩
  alone _ _ := by
    constructor
    · exact fun spans => ⟨plain.elsewhere spans, fun path => absurd path other⟩
    · exact fun ⟨spans, _⟩ => plain.elsewhere spans
  stops nonempty _ spans := (signs nonempty spans).2.2

theorem steady_of_bounded {inner : List Pattern}
    (lexeme : entry.lexeme = Pattern.concat (Pattern.boundary :: (inner ++ [Pattern.boundary])))
    (plain : ∀ pattern ∈ inner, pattern.Plain) (other : entry.kind ≠ .path)
    (inside : ∀ {before word rest}, entry.lexeme.Spans before word rest →
      word.head?.any Text.isWordChar = true ∧ word.getLast?.any Text.isWordChar = true) :
    entry.Steady where
  edged nonempty _ spans := by
    rw [lexeme, Pattern.spans_bounded plain nonempty] at spans
    exact ⟨parted_of_boundary spans.2.1, parted_of_boundary spans.2.2⟩
  alone {before word rest} nonempty edged := by
    have bounded : ∀ {before rest}, entry.lexeme.Spans before word rest ↔
        (Pattern.concat inner).Spans none word [] ∧ Text.isBoundary before word.head? = true ∧
          Text.isBoundary word.getLast? rest.head? = true := by
      intro before rest
      rw [lexeme, Pattern.spans_bounded plain nonempty]
    constructor
    · intro spans
      obtain ⟨head, last⟩ := inside spans
      refine ⟨bounded.mpr ⟨(bounded.mp spans).1, ?_, ?_⟩, fun path => absurd path other⟩
      · exact (boundary_iff_of_next head).mpr edged.front
      · exact (boundary_iff_of_beside last).mpr edged.back
    · rintro ⟨spans, -⟩
      obtain ⟨head, last⟩ := inside spans
      refine bounded.mpr ⟨(bounded.mp spans).1, ?_, ?_⟩
      · exact (boundary_iff_of_next head).mpr (parted_none _)
      · exact (boundary_iff_of_beside last).mpr (parted_of_neutral rfl)
  stops _ _ spans := ne_dot_of_inside (inside spans).2

section Words

theorem ends_of_forall (nonempty : word ≠ []) (letters : ∀ c ∈ word, Text.isWordChar c = true) :
    word.head?.any Text.isWordChar = true ∧ word.getLast?.any Text.isWordChar = true := by
  rw [List.head?_eq_some_head nonempty, List.getLast?_eq_some_getLast nonempty]
  exact ⟨letters _ (List.head_mem nonempty), letters _ (List.getLast_mem nonempty)⟩

theorem isWordChar_of_variant {c d : Char} (known : c ∈ Text.wordLetters)
    (variant : (Text.caseVariants d).contains c = true) : Text.isWordChar d = true := by
  have letters : ∀ c ∈ Text.wordLetters, Text.isWordChar c = true ∧
      Text.isWordChar c.toUpper = true := by
    refine List.all_iff_forall_prop.mp ?_
    decide +kernel
  rcases Text.variant_cases known variant with rfl | rfl | ⟨-, rfl⟩
  · exact (letters _ known).1
  · exact (letters _ known).2
  · decide +kernel

theorem steady_word {kind : TokenKind} {letters : String} (other : kind ≠ .path)
    (solid : (Token.word letters).nullable = false)
    (known : letters.toList.all (· ∈ Text.wordLetters) = true) :
    Entry.Steady { kind, lexeme := Token.word letters } := by
  have admits : (Token.word letters).Admits (Text.isWordChar · = true) :=
    admits_word fun c member _ =>
      isWordChar_of_variant (List.all_iff_forall_prop.mp known c member)
  refine @steady_of_bounded _ [Pattern.concat (letters.toList.map letter)] rfl ?_ other
    fun spans => ?_
  · rw [List.forall_mem_singleton]
    exact Pattern.plain_concat_map (fun _ => ⟨rfl⟩) letters.toList
  · exact ends_of_forall (Pattern.ne_nil_of_solid solid spans) (admits.of_spans spans)

theorem steady_integer : Entry.Steady { kind := .integerLiteral, lexeme := integer } := by
  refine @steady_of_bounded _ [digits, bigMark] rfl ?_ (by decide) fun spans => ?_
  · simp only [List.forall_mem_cons, List.not_mem_nil, false_implies, implies_true, and_true]
    exact ⟨⟨rfl⟩, ⟨rfl⟩⟩
  · obtain ⟨digits, mark, rfl, filled, numeric, marked⟩ := parts_of_integer spans
    exact ends_of_forall (by simp [filled]) (isWordChar_of_mem numeric marked)

theorem steady_decimal : Entry.Steady { kind := .decimalLiteral, lexeme := decimal } := by
  refine @steady_of_bounded _ [digits, Pattern.exactly '.', digits, bigMark] rfl ?_ (by decide)
    fun spans => ?_
  · simp only [List.forall_mem_cons, List.not_mem_nil, false_implies, implies_true, and_true]
    exact ⟨⟨rfl⟩, ⟨rfl⟩, ⟨rfl⟩, ⟨rfl⟩⟩
  · obtain ⟨whole, places, mark, rfl, some, digits, filled, numeric, marked⟩ :=
      digits_of_decimal spans
    have front := ends_of_forall some fun c member =>
      isWordChar_of_isAlphanum (isAlphanum_of_isDigit (digits c member))
    have behind := ends_of_forall (by simp [filled]) (isWordChar_of_mem numeric marked)
    rw [List.head?_append_of_ne_nil _ some, List.getLast?_append_cons, List.getLast?_cons_of_ne_nil]
    · exact ⟨front.1, behind.2⟩
    · simp [filled]

theorem steady_negated : Entry.Steady { kind := .notIn, lexeme := negated } := by
  refine @steady_of_bounded _ [Pattern.concat ("not".toList.map letter),
    Pattern.oneOrMore (.char Text.isBlank), Pattern.concat ("in".toList.map letter)] rfl ?_
    (by decide) fun spans => ?_
  · simp only [List.forall_mem_cons, List.not_mem_nil, false_implies, implies_true, and_true]
    exact ⟨⟨rfl⟩, ⟨rfl⟩, ⟨rfl⟩⟩
  · have letters : ∀ c ∈ ['n', 'N'], Text.isWordChar c = true := by
      refine List.all_iff_forall_prop.mp ?_
      decide +kernel
    obtain ⟨front, last, whole, listed⟩ := last_of_negated spans
    obtain ⟨_, _, _, same, varies, -, -⟩ := spans_negated spans
    obtain ⟨d, others, rfl, variant⟩ := head_of_varies varies
    refine ⟨?_, ?_⟩
    · rw [same]
      exact letters d (mem_of_variant variant)
    · rw [whole, List.getLast?_append_cons]
      exact letters last listed

end Words

section Signs

theorem steady_string :
    Entry.Steady { kind := .stringLiteral, lexeme := .either (quoted '"') (quoted '\'') } := by
  refine steady_of_signs (by decide) ⟨rfl⟩ fun _ spans => ?_
  obtain ⟨quote, inside, listed, -, rfl⟩ := quotable_of_spans spans
  rw [List.getLast?_cons_of_ne_nil (by simp), List.getLast?_append_cons]
  rcases List.mem_pair.mp listed with rfl | rfl <;> exact ⟨rfl, rfl, by decide⟩

/-- The characters of operators and brackets that are no words. -/
def signs : List Char :=
  ",()[]:&|*+-/÷!#><=~%^°".toList

theorem steady_sign {kind : TokenKind} {lexeme : Pattern} (other : kind ≠ .path)
    (plain : lexeme.Plain) (admits : lexeme.Admits (· ∈ signs)) :
    Entry.Steady { kind, lexeme } := by
  have outside : ∀ c ∈ signs, Text.isWordChar c = false ∧ c ≠ '.' := by
    refine List.all_iff_forall_prop.mp ?_
    decide +kernel
  refine steady_of_signs other plain fun nonempty spans => ?_
  have listed := admits.of_spans spans
  rw [List.head?_eq_some_head nonempty, List.getLast?_eq_some_getLast nonempty]
  refine ⟨(outside _ (listed _ (List.head_mem nonempty))).1, ?_⟩
  obtain ⟨apart, dot⟩ := outside _ (listed _ (List.getLast_mem nonempty))
  exact ⟨apart, by simpa using dot⟩

theorem steady_text {kind : TokenKind} {cs : String} (other : kind ≠ .path)
    (listed : cs.toList.all (· ∈ signs) = true) :
    Entry.Steady { kind, lexeme := Pattern.text cs } :=
  steady_sign other (Pattern.plain_text cs)
    (Pattern.admits_text (List.all_iff_forall_prop.mp listed))

theorem steady_texts {kind : TokenKind} {cs ds : String} (other : kind ≠ .path)
    (listed : cs.toList.all (· ∈ signs) = true) (more : ds.toList.all (· ∈ signs) = true) :
    Entry.Steady { kind, lexeme := .either (Pattern.text cs) (Pattern.text ds) } :=
  steady_sign other
    ⟨congrArg₂ Pattern.either (Pattern.plain_text cs).loose (Pattern.plain_text ds).loose⟩
    ⟨Pattern.admits_text (List.all_iff_forall_prop.mp listed),
      Pattern.admits_text (List.all_iff_forall_prop.mp more)⟩

end Signs

section Names

theorem isWordChar_of_isLetter {c : Char} (letter : isLetter c = true) :
    Text.isWordChar c = true := by
  simp only [isLetter, Bool.or_eq_true, beq_iff_eq] at letter
  rcases letter with (alpha | rfl) | rfl
  · exact isWordChar_of_isAlphanum (by simp [Char.isAlphanum, alpha])
  · decide +kernel
  · decide +kernel

theorem isWordChar_of_start {c : Char} (starts : (isLetter c || c == '_') = true) :
    Text.isWordChar c = true := by
  rcases Bool.or_eq_true_iff.mp starts with letter | underscore
  · exact isWordChar_of_isLetter letter
  · rw [eq_of_beq underscore]
    rfl

/-- Behind the name of a method that is called no word goes on. -/
theorem neutral_of_called (called : Called rest) : Neutral rest.head? := by
  cases rest with
  | nil => rfl
  | cons c rest =>
    by_cases blank : Text.isBlank c = true
    · exact isWordChar_of_isBlank blank
    · rw [Called, List.dropWhile_cons_of_neg blank] at called
      obtain rfl := Option.some.inj called
      rfl

theorem fronted_methodName : methodName.Fronted := by
  have dollars : (Pattern.oneOrMore (Pattern.exactly '$')).Fronted :=
    Pattern.fronted_oneOrMore (Pattern.fronted_exactly (by decide)) rfl
  have letters : (Pattern.seq Pattern.boundary (Pattern.oneOrMore (.char isLetter))).Fronted := by
    refine Pattern.fronted_boundary ⟨rfl⟩ rfl fun c begins => isWordChar_of_isLetter ?_
    simpa [Pattern.oneOrMore, Pattern.begins, Pattern.nullable] using begins
  exact Pattern.fronted_seq (Pattern.fronted_either dollars letters) rfl ⟨rfl⟩

theorem fronted_pathStep : pathStep.Fronted := by
  have letters : (Pattern.seq Pattern.boundary
      (Pattern.oneOrMore (.char fun c => isLetter c || c == '_'))).Fronted := by
    refine Pattern.fronted_boundary ⟨rfl⟩ rfl fun c begins => isWordChar_of_start ?_
    simpa [Pattern.oneOrMore, Pattern.begins, Pattern.nullable] using begins
  have dots : (Pattern.text "..").Fronted := by
    refine Pattern.fronted_of_plain (Pattern.plain_text "..") rfl fun c begins => ?_
    obtain rfl : c = '.' := by
      simpa [Pattern.text, Pattern.concat, Pattern.exactly, Pattern.begins, Pattern.nullable]
        using begins
    decide
  have names := @Pattern.fronted_seq _ nameRest
    (Pattern.fronted_either letters (@Pattern.fronted_exactly '$' (by decide))) rfl ⟨rfl⟩
  exact Pattern.fronted_optional (by decide)
    (Pattern.fronted_optional (by decide) (Pattern.fronted_either names dots))

theorem steady_method {following : Pattern} :
    Entry.Steady { kind := .method, lexeme := methodName, following } where
  edged {before word rest} _ calls spans :=
    ⟨fronted_methodName.parted spans, parted_of_neutral (neutral_of_called (calls rfl))⟩
  alone nonempty edged := by
    constructor
    · exact fun spans => ⟨fronted_methodName.elsewhere spans edged.front, nofun⟩
    · exact fun ⟨spans, _⟩ => fronted_methodName.elsewhere spans (parted_none _)
  stops _ other := absurd rfl other

theorem spans_path_iff : path.Spans before word rest ↔
    (Pattern.oneOrMore pathStep).Spans none word [] ∧ Parted before word.head? ∧
      Text.isBoundary (word.getLast?.or before) rest.head? = true := by
  have fronted := Pattern.fronted_oneOrMore fronted_pathStep rfl
  constructor
  · rintro ⟨word, _, rfl, spans, rfl, boundary⟩
    rw [List.append_nil]
    exact ⟨fronted.elsewhere spans (parted_none _), fronted.parted spans, boundary⟩
  · rintro ⟨spans, parted, boundary⟩
    exact ⟨word, [], by simp, fronted.elsewhere spans parted, rfl, boundary⟩

theorem steady_path : Entry.Steady { kind := .path, lexeme := path } where
  edged {before word rest} nonempty _ spans := by
    obtain ⟨-, front, boundary⟩ := spans_path_iff.mp spans
    rw [Option.or_of_isSome (List.getLast?_isSome.mpr nonempty)] at boundary
    exact ⟨front, parted_of_boundary boundary⟩
  alone {before word rest} nonempty edged := by
    obtain ⟨c, ends⟩ := Option.isSome_iff_exists.mp (List.getLast?_isSome.mpr nonempty)
    have parted := edged.back
    rw [ends] at parted
    rw [spans_path_iff, spans_path_iff, ends]
    constructor
    · rintro ⟨spans, -, boundary⟩
      have inside : (some c).any Text.isWordChar = true := by
        simpa [Text.isBoundary] using boundary
      exact ⟨⟨spans, edged.front, (boundary_iff_of_beside inside).mpr parted⟩, fun _ => inside⟩
    · rintro ⟨⟨spans, -⟩, inside⟩
      have behind : Parted (some c) none := parted_of_neutral rfl
      exact ⟨spans, parted_none _, (boundary_iff_of_beside (inside rfl)).mpr behind⟩
  stops _ _ spans := by
    obtain ⟨-, -, boundary⟩ := spans_path_iff.mp spans
    refine ne_dot_of_inside ?_
    simpa [Text.isBoundary] using boundary

end Names

theorem steady_of_mem : ∀ entry ∈ grammar, entry.Steady := by
  simp only [grammar, List.forall_mem_cons]
  refine ⟨steady_string, steady_decimal, steady_integer, ?_⟩
  refine ⟨steady_word (by decide) rfl (by decide), steady_word (by decide) rfl (by decide),
    steady_word (by decide) rfl (by decide), steady_word (by decide) rfl (by decide),
    steady_word (by decide) rfl (by decide), steady_negated,
    steady_word (by decide) rfl (by decide), steady_method, steady_path, ?_⟩
  simp (disch := decide) [steady_text, steady_texts]

variable {cursor place : Cursor}

theorem follows_iff (member : entry ∈ grammar) : entry.following.ends place ≠ [] ↔
    (entry.kind = .method → Called place.rest) := by
  rw [following_eq entry member]
  by_cases method : entry.kind = .method
  · simpa [method] using following_iff
  · simp [method, Pattern.ends, Pattern.endsFrom]

theorem entry_of_path : ∀ entry ∈ grammar, entry.kind = .path →
    entry = { kind := .path, lexeme := path } := by
  simp [grammar, path]

/-- An entry identifies a word by itself when it spans the word where it stands, unless that is a
path that does not end with a word. -/
theorem identifies_iff (member : entry ∈ grammar) (nonempty : word ≠ [])
    (edged : Edged before word rest) {beforeScope : Bool}
    (called : beforeScope = true ↔ Called rest) :
    (entry.lexeme.matchesAll word && (entry.kind != .method || beforeScope)) = true ↔
      (entry.lexeme.Spans before word rest ∧
        (entry.kind = .path → word.getLast?.any Text.isWordChar = true)) ∧
      (entry.kind = .method → Called rest) := by
  rw [Bool.and_eq_true, Pattern.matchesAll_iff, (steady_of_mem entry member).alone nonempty edged,
    ← called]
  simp [or_iff_not_imp_left]

/-- A word that is found in a text stands for the same by itself, but a path that ends with two dots
stands for nothing. -/
theorem identify_of_lexemeAt {kind : TokenKind} {beforeScope : Bool}
    (found : lexemeAt? cursor = some (kind, place)) (leads : cursor.Leads word place)
    (called : beforeScope = true ↔ Called place.rest) :
    identify? word beforeScope =
      if kind = .path ∧ ['.', '.'] <:+ word then none else some kind := by
  obtain ⟨earlier, entry, later, split, ended, nothing⟩ := List.findSome?_eq_some_iff.mp found
  obtain ⟨reached, ended, same⟩ := Option.map_eq_some_iff.mp ended
  cases same
  have member : entry ∈ grammar := by simp [split]
  have steady := steady_of_mem entry member
  obtain ⟨other, again, nonempty, spans⟩ := entry.leads_of_end ended
  obtain ⟨-, rfl⟩ := again.eq_of_passed leads rfl
  have calls := (follows_iff member).mp (entry.follows_of_end ended)
  have edged := steady.edged nonempty calls spans
  by_cases dots : entry.kind = .path ∧ ['.', '.'] <:+ other
  · rw [if_pos dots, identify?, Option.map_eq_none_iff, List.find?_eq_none]
    intro reader listed reads
    obtain ⟨isPath, front, rfl⟩ := dots
    have last : (front ++ ['.', '.']).getLast? = some '.' := by simp
    by_cases method : reader.kind = .method
    · -- a word begins behind the dots, so no method is called there
      have follows := ((identifies_iff listed nonempty edged called).mp reads).2 method
      have apart := neutral_of_called follows
      rw [entry_of_path entry member isPath] at spans
      obtain ⟨-, -, boundary⟩ := spans_path_iff.mp spans
      rw [last, Option.some_or, Text.isBoundary, show place.rest.head?.any _ = false from apart]
        at boundary
      exact absurd boundary (by decide)
    · have alone := Pattern.matchesAll_iff.mp (Bool.and_eq_true_iff.mp reads).1
      exact (steady_of_mem reader listed).stops nonempty method alone last
  · rw [if_neg dots, identify?, split, List.find?_append]
    -- an earlier entry that identified the word would have found it
    have none : earlier.find? (fun entry => entry.lexeme.matchesAll other &&
        (entry.kind != .method || beforeScope)) = none := by
      refine List.find?_eq_none.mpr fun reader early reads => ?_
      have listed : reader ∈ grammar := by simp [split, early]
      obtain ⟨⟨spans, -⟩, follows⟩ := (identifies_iff listed nonempty edged called).mp reads
      refine reader.end_ne_none leads nonempty spans ((follows_iff listed).mpr follows) ?_
      simpa using nothing reader early
    have reads : (entry.lexeme.matchesAll other &&
        (entry.kind != .method || beforeScope)) = true := by
      refine (identifies_iff member nonempty edged called).mpr ⟨⟨spans, fun isPath => ?_⟩, calls⟩
      rw [entry_of_path entry member isPath] at ended
      have inside := (dots_of_path ended leads).resolve_right fun two => dots ⟨isPath, two⟩
      rw [leads.before, List.getLast?_eq_some_getLast nonempty, Option.some_or] at inside
      rwa [List.getLast?_eq_some_getLast nonempty]
    rw [none, List.find?_cons, reads]
    rfl

end Token

end PathQuery
