import PathQuery.Proofs.Lexing.Operators
import PathQuery.Proofs.Lexing.Literals

/-!
Identifiers: names of ASCII letters, digits and underscores that are no reserved words. The grammar
tries the reserved words first, and reads a name as a path when no parenthesis follows it. Main
statement: `lexed_identifier`.
-/

namespace PathQuery

/-- The words that are no names, whatever their case. -/
def reservedWords : List String :=
  ["true", "false", "null", "and", "or", "in", "not"]

/-- The word characters of ASCII. -/
def isNameChar (c : Char) : Bool :=
  c.isAlphanum || c == '_'

/-- Whether a name has letters, digits and underscores of ASCII only, no digit first, and is not
reserved. -/
def isIdentifier (name : String) : Bool :=
  name.toList.head?.any (fun c => c.isAlpha || c == '_') && name.toList.all isNameChar &&
    !reservedWords.contains (String.ofList (name.toList.map Char.toLower))

theorem isWordChar_of_isNameChar {c : Char} (plain : isNameChar c = true) :
    Text.isWordChar c = true := by
  rcases Bool.or_eq_true_iff.mp plain with plain | same
  · exact Token.isWordChar_of_isAlphanum plain
  · rw [eq_of_beq same]
    rfl

theorem toNat_lt_of_isNameChar {c : Char} (plain : isNameChar c = true) : c.toNat < 0x80 := by
  rcases Bool.or_eq_true_iff.mp plain with plain | same
  · exact Token.toNat_lt_of_isAlphanum plain
  · rw [eq_of_beq same]
    decide

theorem isBlank_of_isNameChar {c : Char} (plain : isNameChar c = true) :
    Text.isBlank c = false := by
  refine Bool.eq_false_iff.mpr fun blank => ?_
  have small := toNat_lt_of_isNameChar plain
  have point : c.toNat ≤ 0x20 := by
    simp only [Text.isBlank, Bool.or_eq_true, Bool.and_eq_true, decide_eq_true_eq,
      beq_iff_eq] at blank
    omega
  have none : ∀ point ≤ 0x20, isNameChar (Char.ofNat point) = false := by
    decide
  have apart := none _ point
  rw [Char.ofNat_toNat, plain] at apart
  cases apart

namespace Token

theorem letters_reserved : ∀ c ∈ reservedWords.flatMap String.toList,
    c ∈ Text.wordLetters ∧ c.toLower = c ∧ c.toUpper.toLower = c ∧ isNameChar c = true ∧
      isNameChar c.toUpper = true := by
  refine List.all_iff_forall_prop.mp ?_
  decide

/-- An ASCII word that is a reserved one up to case is the reserved one in lower case. -/
theorem lower_of_varies {cs letters : List Char} (varies : Varies cs letters)
    (reserved : ∀ c ∈ letters, c ∈ reservedWords.flatMap String.toList)
    (plain : ∀ c ∈ cs, c.toNat < 0x80) : cs.map Char.toLower = letters := by
  induction varies with
  | nil => rfl
  | @cons d c cs letters variant _ ih =>
    obtain ⟨first, others⟩ := List.forall_mem_cons.mp reserved
    obtain ⟨small, later⟩ := List.forall_mem_cons.mp plain
    obtain ⟨known, lower, upper, -⟩ := letters_reserved c first
    have same : d.toLower = c := by
      rcases Text.variant_cases known variant with rfl | rfl | ⟨-, rfl⟩
      · exact lower
      · exact upper
      · exact absurd small (by decide)
    rw [List.map_cons, same, ih others later]

theorem isNameChar_of_varies {cs letters : List Char} (varies : Varies cs letters)
    (reserved : ∀ c ∈ letters, c ∈ reservedWords.flatMap String.toList)
    (ordinary : 's' ∉ letters) : ∀ d ∈ cs, isNameChar d = true := by
  induction varies with
  | nil => simp
  | @cons d c cs letters variant _ ih =>
    obtain ⟨first, others⟩ := List.forall_mem_cons.mp reserved
    obtain ⟨known, -, -, small, capital⟩ := letters_reserved c first
    refine List.forall_mem_cons.mpr ⟨?_, ih others fun long => ordinary (.tail c long)⟩
    rcases Text.variant_cases known variant with rfl | rfl | ⟨rfl, -⟩
    · exact small
    · exact capital
    · exact absurd List.mem_cons_self ordinary

theorem isAlpha_of_isDigit {c : Char} (digit : c.isDigit = true) : c.isAlpha = false := by
  delta Char.isAlpha Char.isUpper Char.isLower
  delta Char.isDigit at digit
  simp only [Bool.or_eq_false_iff, Bool.and_eq_true, Bool.and_eq_false_iff, decide_eq_true_eq,
    decide_eq_false_iff_not, UInt32.le_iff_toNat_le, ge_iff_le] at digit ⊢
  have : 'A'.val.toNat = 65 := rfl
  have : 'a'.val.toNat = 97 := rfl
  have : '9'.val.toNat = 57 := rfl
  omega

/-- The entries that are tried before those of names. -/
theorem reserved_entries : ∀ entry ∈ grammar.take 10, entry.lexeme = negated ∨
    (∃ letters ∈ reservedWords, entry.lexeme = word letters ∧
      entry.kind ∉ spaciousKinds) ∨
    ∀ c, entry.lexeme.begins c = true → c.isDigit = true ∨ c = '"' ∨ c = '\'' := by
  have quote : ∀ c, (Pattern.either (quoted '"') (quoted '\'')).begins c = true →
      c.isDigit = true ∨ c = '"' ∨ c = '\'' := by
    intro c begins
    rcases Bool.or_eq_true_iff.mp begins with begins | begins
    · exact .inr (.inl (begins_quoted begins))
    · exact .inr (.inr (begins_quoted begins))
  have number : ∀ next rest c,
      (Pattern.concat (.boundary :: digits :: next :: rest)).begins c = true →
        c.isDigit = true ∨ c = '"' ∨ c = '\'' := by
    intro next rest c begins
    simp [Pattern.concat, Pattern.begins, Pattern.boundary, Pattern.nullable, digits,
      Pattern.oneOrMore] at begins
    exact .inl begins
  simp only [grammar, List.take, List.forall_mem_cons]
  refine ⟨.inr (.inr quote), .inr (.inr (number _ _)), .inr (.inr (number _ _)), ?_, ?_, ?_, ?_, ?_,
    .inl rfl, ?_, by simp⟩
  all_goals exact .inr (.inl ⟨_, by simp [reservedWords], rfl, by simp [spaciousKinds]⟩)

theorem not_called_of_name {cs rest : List Char} (letters : ∀ c ∈ cs, isNameChar c = true)
    (uncalled : ¬Called rest) : ¬Called (cs ++ rest) := by
  cases cs with
  | nil => exact uncalled
  | cons c cs =>
    have inside := letters c List.mem_cons_self
    intro called
    simp only [Called, List.cons_append, List.dropWhile_cons, isBlank_of_isNameChar inside] at called
    obtain rfl : c = '(' := by simpa using called
    cases inside

theorem isNameChar_of_delimiter : ∀ c ∈ delimiters, isNameChar c = false := by
  simp only [delimiters, List.forall_mem_cons, List.not_mem_nil, false_implies, implies_true,
    and_true]
  decide

section Names

variable {name : String}

theorem isIdentifier_iff : isIdentifier name = true ↔
    (∃ c others, name.toList = c :: others ∧ (c.isAlpha = true ∨ c = '_')) ∧
    (∀ c ∈ name.toList, isNameChar c = true) ∧
    ∀ letters ∈ reservedWords, name.toList.map Char.toLower ≠ letters.toList := by
  have free : (!reservedWords.contains (String.ofList (name.toList.map Char.toLower))) = true ↔
      ∀ letters ∈ reservedWords, name.toList.map Char.toLower ≠ letters.toList := by
    rw [Bool.not_eq_true', List.contains_eq_mem, decide_eq_false_iff_not]
    constructor
    · intro absent letters member same
      rw [same, String.ofList_toList] at absent
      exact absent member
    · intro apart member
      exact apart _ member String.toList_ofList.symm
  rw [isIdentifier, Bool.and_eq_true, Bool.and_eq_true, free, and_assoc]
  cases name.toList with
  | nil => simp
  | cons c others => simp

variable (identifies : isIdentifier name = true)

include identifies

theorem isNameChar_of_identifier : ∀ c ∈ name.toList, isNameChar c = true :=
  (isIdentifier_iff.mp identifies).2.1

theorem isWordChar_of_identifier : ∀ c ∈ name.toList, Text.isWordChar c = true :=
  fun c member => isWordChar_of_isNameChar (isNameChar_of_identifier identifies c member)

theorem ne_nil_of_identifier : name.toList ≠ [] := by
  obtain ⟨c, others, split, -⟩ := (isIdentifier_iff.mp identifies).1
  simp [split]

theorem not_varies_of_identifier {letters : String} (reserved : letters ∈ reservedWords) :
    ¬Varies name.toList letters.toList := by
  intro varies
  have lower := lower_of_varies varies
    (fun c member => List.mem_flatMap.mpr ⟨letters, reserved, member⟩)
    fun c member => toNat_lt_of_isNameChar (isNameChar_of_identifier identifies c member)
  exact (isIdentifier_iff.mp identifies).2.2 letters reserved lower

theorem misses_word {rest : List Char} {letters : String} (reserved : letters ∈ reservedWords)
    (compact : (word letters).compact = true) (delimited : Delimited rest) :
    (word letters).Misses (name.toList ++ rest) := by
  intro before found left nonempty whole spans
  obtain ⟨varies, boundary⟩ := spans_word spans
  obtain ⟨more, split, rfl⟩ := Pattern.prefix_of_compact compact delimited spans whole
  obtain rfl := eq_of_boundary (isWordChar_of_identifier identifies) split nonempty boundary
  exact not_varies_of_identifier identifies reserved varies

/-- Before the blanks of `not in` there is a whole word. -/
theorem misses_negated (delimited : Delimited rest) : negated.Misses (name.toList ++ rest) := by
  intro before found left _ whole spans
  obtain ⟨front, blanks, back, rfl, varies, ⟨some, blank⟩, -⟩ := spans_negated spans
  obtain ⟨c, blanks, rfl⟩ := List.exists_cons_of_ne_nil some
  have letters := isNameChar_of_varies varies
    (fun c member => List.mem_flatMap.mpr ⟨"not", by decide, member⟩) (by decide)
  have first : ∀ d ∈ rest.head?, isNameChar d = false := by
    intro d head
    exact isNameChar_of_delimiter d (delimited d head)
  have second : ∀ d ∈ (c :: (blanks ++ back ++ left)).head?, isNameChar d = false := by
    rintro d ⟨⟩
    refine Bool.eq_false_iff.mpr fun plain => ?_
    have shown := isBlank_of_isNameChar plain
    rw [blank c List.mem_cons_self] at shown
    cases shown
  obtain ⟨same, -⟩ := eq_of_runs
    (show name.toList ++ rest = front ++ (c :: (blanks ++ back ++ left)) by simpa using whole)
    (isNameChar_of_identifier identifies) letters first second
  have whole : Varies name.toList "not".toList := same ▸ varies
  exact not_varies_of_identifier identifies (by decide) whole

theorem misses_reserved (delimited : Delimited rest) :
    ∀ entry ∈ grammar.take 10, entry.lexeme.Misses (name.toList ++ rest) := by
  intro entry member
  rcases reserved_entries entry member with same | ⟨letters, reserved, same, spaceless⟩ | begins
  · rw [same]
    exact misses_negated identifies delimited
  · have compact := compact_of_entry entry (List.mem_of_mem_take member) spaceless
    rw [same] at compact ⊢
    exact misses_word identifies reserved compact delimited
  · obtain ⟨c, others, split, first⟩ := (isIdentifier_iff.mp identifies).1
    rw [split]
    refine Pattern.misses_of_begins (Bool.eq_false_iff.mpr fun begun => ?_) _
    rcases begins c begun with digit | rfl | rfl
    · rcases first with alpha | rfl
      · rw [isAlpha_of_isDigit digit] at alpha
        cases alpha
      · cases digit
    · rcases first with alpha | same
      · cases alpha
      · cases same
    · rcases first with alpha | same
      · cases alpha
      · cases same

/-- The name of a method must be called. -/
theorem end_of_uncalled {before : Option Char} {passed : Nat} (delimited : Delimited rest)
    (uncalled : ¬Called rest) {entry : Entry} (known : grammar[10]? = some entry) :
    entry.end? ⟨before, name.toList ++ rest, passed⟩ = none := by
  have compact := compact_of_entry entry (List.mem_of_getElem? known)
  obtain rfl : ⟨.method, methodName, .seq blanks (Pattern.exactly '(')⟩ = entry :=
    Option.some.inj known
  refine List.find?_eq_none.mpr fun place member => ?_
  obtain ⟨found, leads, spans⟩ := Pattern.mem_ends_iff.mp member
  obtain ⟨more, split, after⟩ :=
    Pattern.prefix_of_compact (compact (by decide)) delimited spans leads.rest
  have letters : ∀ c ∈ more, isNameChar c = true := fun c inside =>
    isNameChar_of_identifier identifies c (split ▸ List.mem_append_right _ inside)
  have ended : (Pattern.seq blanks (Pattern.exactly '(')).ends place = [] := by
    by_contra follows
    have called := following_iff.mp follows
    rw [after] at called
    exact not_called_of_name letters uncalled called
  simp [ended]

theorem spans_path : (Pattern.seq (Pattern.oneOrMore pathStep) Pattern.boundary).Spans none
    name.toList [] := by
  obtain ⟨⟨c, others, split, first⟩, plain, -⟩ := isIdentifier_iff.mp identifies
  have letters := isWordChar_of_identifier identifies
  have begins := boundary_before letters (ne_nil_of_identifier identifies)
    (show Neutral none from rfl)
  have ends := boundary_behind letters (ne_nil_of_identifier identifies) none
    (show Neutral none from rfl)
  have letter : (isLetter c || c == '_') = true := by
    rcases first with alpha | rfl
    · simp [isLetter, alpha]
    · rfl
  have remains : ∀ d ∈ others, (Text.isWordChar d || d == '.') = true := by
    intro d member
    simp [letters d (by simp [split, member])]
  have named : (Pattern.seq (.either (.seq .boundary
      (Pattern.oneOrMore (.char fun c => isLetter c || c == '_'))) (Pattern.exactly '$'))
      nameRest).Spans none name.toList [] := by
    refine ⟨[c], others, split, .inl ⟨[], [c], rfl, ⟨rfl, ?_⟩, ?_⟩,
      Pattern.spans_many_char.mpr remains⟩
    · simpa [split] using begins
    · exact Pattern.spans_oneOrMore_char.mpr (by simpa using letter)
  have step : pathStep.Spans none name.toList [] :=
    ⟨[], _, rfl, .inr rfl, [], _, rfl, .inr rfl, .inl named⟩
  refine ⟨name.toList, [], by simp, ⟨name.toList, [], by simp, step, .done⟩, rfl, ?_⟩
  simpa using ends

theorem lexed_identifier : Lexed .path name.toList := by
  have nonempty := ne_nil_of_identifier identifies
  have known : grammar[11]? = some
      ⟨.path, .seq (Pattern.oneOrMore pathStep) Pattern.boundary, .empty⟩ := rfl
  have earlier : ∀ {property : Entry → Prop}, (∀ entry ∈ grammar.take 10, property entry) →
      (∀ entry, grammar[10]? = some entry → property entry) →
      ∀ entry ∈ grammar.take 11, property entry := by
    intro property all last entry member
    rw [List.take_add_one, List.mem_append] at member
    rcases member with member | member
    · exact all entry member
    · exact last entry (by simpa using member)
  have spans := spans_path identifies
  refine ⟨nonempty, fun neutral delimited uncalled => ?_, fun beforeScope alone => ?_⟩
  · refine lexemeAt_of_entry 11 known (earlier (fun entry member => ?_) fun entry method => ?_) ?_
    · exact Entry.end_of_misses (misses_reserved identifies delimited entry member)
    · exact end_of_uncalled identifies delimited (uncalled rfl) method
    · refine Entry.end_of_settles rfl ?_ neutral
      have member := List.mem_of_getElem? known
      refine settles_of_bounded (grammar_indifferent _ member).1
        (compact_of_entry _ member (by decide)) (isWordChar_of_identifier identifies) nonempty spans
        ?_ delimited
      rintro before others left ⟨_, _, rfl, -, rfl, boundary⟩
      simpa using boundary
  · refine identify_of_entry 11 known (earlier (fun entry member => .inl ?_) fun entry method =>
      .inr ?_) spans (by decide)
    · have missed := misses_reserved identifies (show Delimited [] by simp [Delimited]) entry member
      exact missed none name.toList [] nonempty rfl
    · exact ⟨by cases method; rfl, alone rfl⟩

end Names

end Token

end PathQuery
