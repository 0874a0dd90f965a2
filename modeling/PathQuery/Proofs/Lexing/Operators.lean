import Mathlib.Data.List.Forall2
import PathQuery.Proofs.LetterCase
import PathQuery.Proofs.Lexing.Entries

/-!
The spellings of operators. All but `not in` have finitely many, which are computed from the grammar
and checked one by one. Main statement: `lexed_of_written`.
-/

namespace PathQuery

namespace Pattern

/-- The words over some characters that a pattern without repetitions spans. -/
def words (alphabet : List Char) : Pattern → List (List Char)
  | fail | many _ => []
  | empty | look _ => [[]]
  | char accepts => (alphabet.filter accepts).map ([·])
  | seq first second =>
      (first.words alphabet).flatMap fun front => (second.words alphabet).map (front ++ ·)
  | either preferred other => preferred.words alphabet ++ other.words alphabet

def repeats : Pattern → Bool
  | many _ => true
  | seq first second => first.repeats || second.repeats
  | either preferred other => preferred.repeats || other.repeats
  | fail | empty | char _ | look _ => false

theorem mem_words {pattern : Pattern} {alphabet : List Char} {before : Option Char}
    {word rest : List Char} (once : pattern.repeats = false)
    (admits : pattern.Admits (· ∈ alphabet)) (spans : pattern.Spans before word rest) :
    word ∈ pattern.words alphabet := by
  induction pattern generalizing before word rest with
  | fail => cases spans
  | empty => exact List.mem_singleton.mpr spans
  | look => exact List.mem_singleton.mpr spans.1
  | char accepts =>
    obtain ⟨c, accepted, rfl⟩ := spans
    exact List.mem_map.mpr ⟨c, List.mem_filter.mpr ⟨admits c accepted, accepted⟩, rfl⟩
  | seq first second ihFirst ihSecond =>
    obtain ⟨onceFirst, onceSecond⟩ := Bool.or_eq_false_iff.mp once
    obtain ⟨front, back, rfl, spansFront, spansBack⟩ := spans
    exact List.mem_flatMap.mpr ⟨front, ihFirst onceFirst admits.1 spansFront,
      List.mem_map_of_mem (ihSecond onceSecond admits.2 spansBack)⟩
  | either preferred other ihPreferred ihOther =>
    obtain ⟨oncePreferred, onceOther⟩ := Bool.or_eq_false_iff.mp once
    rcases spans with spans | spans
    · exact List.mem_append_left _ (ihPreferred oncePreferred admits.1 spans)
    · exact List.mem_append_right _ (ihOther onceOther admits.2 spans)
  | many => cases once

end Pattern

namespace Operator

/-- Whether an operator is spelled as the grammar has it. -/
def Spelled (operator : Operator) : Prop :=
  ∃ entry ∈ Token.grammar, entry.kind = operator.kind ∧
    entry.lexeme.matchesAll operator.spelling.toList = true

instance (operator : Operator) : Decidable operator.Spelled :=
  inferInstanceAs (Decidable (∃ entry ∈ Token.grammar, _ ∧ _))

/-- An operator other than `:`, in a spelling of its own. -/
structure Written (operator : Operator) : Prop where
  operates : operator.kind.isOperator = true
  unnamed : operator.kind ≠ .naming
  spelled : operator.Spelled

end Operator

namespace Token

/-- The characters of operators. -/
def operatorChars : List Char :=
  "andortiANDORTI&|*+-/÷!#>=<~%^°".toList

theorem letters_operatorChars : ∀ c ∈ "andorti".toList, c ∈ Text.wordLetters ∧ c ≠ 's' ∧
    c ∈ operatorChars ∧ c.toUpper ∈ operatorChars := by
  refine List.all_iff_forall_prop.mp ?_
  decide

theorem letter_admits {c : Char} (listed : c ∈ "andorti".toList) :
    (letter c).Admits (· ∈ operatorChars) := by
  intro d variant
  obtain ⟨known, ordinary, small, capital⟩ := letters_operatorChars c listed
  rcases Text.variant_cases known variant with rfl | rfl | ⟨long, -⟩
  · exact small
  · exact capital
  · exact absurd long ordinary

theorem symbol_admits {cs : String} (listed : cs.toList.all (· ∈ operatorChars) = true) :
    (Pattern.text cs).Admits (· ∈ operatorChars) :=
  Pattern.admits_text (List.all_iff_forall_prop.mp listed)

theorem admits_word {property : Char → Prop} {cs : String}
    (holds : ∀ c ∈ cs.toList, (letter c).Admits property) : (word cs).Admits property := by
  have letters : (Pattern.concat (cs.toList.map letter)).Admits property := by
    refine Pattern.admits_concat fun pattern member => ?_
    obtain ⟨c, present, rfl⟩ := List.mem_map.mp member
    exact holds c present
  exact ⟨trivial, letters, trivial⟩

theorem word_admits {cs : String} (listed : cs.toList.all (· ∈ "andorti".toList) = true) :
    (word cs).Admits (· ∈ operatorChars) :=
  admits_word fun c member => letter_admits (List.all_iff_forall_prop.mp listed c member)

theorem operator_admits : ∀ entry ∈ grammar, entry.kind.isOperator = true →
    entry.kind ≠ .naming → entry.lexeme.repeats = false →
    entry.lexeme.Admits (· ∈ operatorChars) := by
  have notIn : (Pattern.concat [Pattern.boundary, Pattern.concat ("not".toList.map letter),
      Pattern.oneOrMore (.char Text.isBlank), Pattern.concat ("in".toList.map letter),
      Pattern.boundary]).repeats = true := rfl
  simp only [grammar, List.forall_mem_cons, notIn]
  simp (disch := decide) [TokenKind.isOperator, TokenKind.precedence?, Pattern.Admits,
    symbol_admits, word_admits]

/-- All spellings of operators but `not in` stand alone. -/
theorem fixed_operators : ∀ index < grammar.length, grammar[index]?.all fun entry =>
    index == 8 || !entry.kind.isOperator || entry.kind == .naming ||
      (entry.following matches .empty && !entry.lexeme.repeats &&
        (entry.lexeme.words operatorChars).all fun word =>
          !entry.lexeme.matchesAll word || fixed index word) := by
  decide +kernel

/-- Whether characters are those of a word up to case. -/
def Varies (cs letters : List Char) : Prop :=
  List.Forall₂ (fun d c => (Text.caseVariants d).contains c = true) cs letters

theorem spans_letters {letters : List Char} {before : Option Char} {cs rest : List Char} :
    (Pattern.concat (letters.map letter)).Spans before cs rest ↔ Varies cs letters := by
  induction letters generalizing before cs with
  | nil => exact List.forall₂_nil_right_iff.symm
  | cons c letters ih =>
    cases letters with
    | nil =>
      simp only [List.map_cons, List.map_nil, Pattern.concat, letter, Pattern.Spans, Varies,
        List.forall₂_cons_right_iff, List.forall₂_nil_right_iff]
      constructor
      · rintro ⟨d, variant, rfl⟩
        exact ⟨d, [], variant, rfl, rfl⟩
      · rintro ⟨d, _, variant, rfl, rfl⟩
        exact ⟨d, variant, rfl⟩
    | cons next letters =>
      rw [Varies, List.forall₂_cons_right_iff]
      constructor
      · rintro ⟨_, back, rfl, ⟨d, variant, rfl⟩, spans⟩
        exact ⟨d, back, variant, ih.mp spans, rfl⟩
      · rintro ⟨d, back, variant, others, rfl⟩
        exact ⟨[d], back, rfl, ⟨d, variant, rfl⟩, ih.mpr others⟩

theorem spans_word {letters : String} {before : Option Char} {cs rest : List Char}
    (spans : (word letters).Spans before cs rest) :
    Varies cs letters.toList ∧ Text.isBoundary (cs.getLast?.or before) rest.head? = true := by
  obtain ⟨_, _, rfl, ⟨rfl, -⟩, front, _, rfl, spans, rfl, boundary⟩ := spans
  simp only [List.nil_append, List.append_nil, List.getLast?_nil, Option.none_or]
    at spans boundary ⊢
  exact ⟨spans_letters.mp spans, boundary⟩

/-- The pattern of `not in`. -/
def negated : Pattern :=
  Pattern.concat
    [Pattern.boundary, Pattern.concat ("not".toList.map letter),
      Pattern.oneOrMore (.char Text.isBlank), Pattern.concat ("in".toList.map letter),
      Pattern.boundary]

theorem spans_negated {before : Option Char} {cs rest : List Char}
    (spans : negated.Spans before cs rest) : ∃ front blanks back,
      cs = front ++ (blanks ++ back) ∧ Varies front ['n', 'o', 't'] ∧
      (blanks ≠ [] ∧ ∀ c ∈ blanks, Text.isBlank c = true) ∧ Varies back ['i', 'n'] := by
  obtain ⟨_, _, rfl, ⟨rfl, -⟩, front, _, rfl, first, blanks, _, rfl, second, back, _, rfl, third,
    rfl, -⟩ := spans
  exact ⟨front, blanks, back, by simp, spans_letters.mp first,
    Pattern.spans_oneOrMore_char.mp second, spans_letters.mp third⟩

/-- A longest run of some characters is followed by the same text. -/
theorem eq_of_runs {accepts : Char → Bool} {first second cs ds : List Char}
    (same : first ++ cs = second ++ ds) (inFirst : ∀ c ∈ first, accepts c = true)
    (inSecond : ∀ c ∈ second, accepts c = true) (ends : ∀ c ∈ cs.head?, accepts c = false)
    (stops : ∀ c ∈ ds.head?, accepts c = false) : first = second ∧ cs = ds := by
  have run : ∀ {front behind : List Char}, (∀ c ∈ front, accepts c = true) →
      (∀ c ∈ behind.head?, accepts c = false) → (front ++ behind).takeWhile accepts = front := by
    intro front behind inside ends
    rw [List.takeWhile_append_of_pos inside]
    cases behind with
    | nil => simp
    | cons c behind => simp [ends c rfl]
  have begins := congrArg (List.takeWhile accepts) same
  rw [run inFirst ends, run inSecond stops] at begins
  subst begins
  exact ⟨rfl, List.append_cancel_left same⟩

theorem head_of_varies {cs letters : List Char} {c : Char} (varies : Varies cs (c :: letters)) :
    ∃ d others, cs = d :: others ∧ (Text.caseVariants d).contains c = true := by
  obtain ⟨d, others, variant, -, rfl⟩ := List.forall₂_cons_right_iff.mp varies
  exact ⟨d, others, rfl, variant⟩

theorem not_blank_of_variant {d : Char} (variant : (Text.caseVariants d).contains 'i' = true) :
    Text.isBlank d = false := by
  rcases Text.variant_cases (by decide) variant with rfl | rfl | ⟨long, -⟩
  · rfl
  · rfl
  · cases long

theorem negated_unique {before previous : Option Char} {cs others rest left next after : List Char}
    (spans : negated.Spans before cs next) (more : negated.Spans previous others after)
    (same : cs ++ rest = others ++ left) : cs = others := by
  obtain ⟨front, blanks, back, rfl, first, ⟨-, blank⟩, last⟩ := spans_negated spans
  obtain ⟨begins, gap, stops, rfl, second, ⟨-, blank'⟩, final⟩ := spans_negated more
  simp only [List.append_assoc] at same
  obtain ⟨rfl, behind⟩ := List.append_inj same (first.length_eq.trans second.length_eq.symm)
  have ends : ∀ {word behind : List Char}, Varies word ['i', 'n'] →
      ∀ c ∈ (word ++ behind).head?, Text.isBlank c = false := by
    intro word behind varies c head
    obtain ⟨d, others, rfl, variant⟩ := head_of_varies varies
    obtain rfl : d = c := by simpa using head
    exact not_blank_of_variant variant
  obtain ⟨rfl, word⟩ := eq_of_runs behind blank blank' (ends last) (ends final)
  obtain ⟨rfl, -⟩ := List.append_inj word (last.length_eq.trans final.length_eq.symm)
  rfl

theorem begins_negated : ∀ d ∈ ['n', 'N'], ∀ entry ∈ grammar.take 8,
    entry.lexeme.begins d = true → entry.kind = .nullLiteral := by
  refine List.all_iff_forall_prop.mp ?_
  decide +kernel

theorem mem_of_variant {d : Char} (variant : (Text.caseVariants d).contains 'n' = true) :
    d ∈ ['n', 'N'] := by
  rcases Text.variant_cases (by decide) variant with rfl | rfl | ⟨long, -⟩
  · decide
  · decide
  · cases long

theorem last_of_negated {before : Option Char} {word left : List Char}
    (spans : negated.Spans before word left) : ∃ front last, word = front ++ [last] ∧
      last ∈ ['n', 'N'] := by
  obtain ⟨front, blanks, back, rfl, -, -, varies⟩ := spans_negated spans
  obtain ⟨i, others, rfl, -⟩ := head_of_varies varies
  obtain ⟨n, others, rfl, variant⟩ := head_of_varies (List.forall₂_cons.mp varies).2
  have none : others = [] :=
    List.forall₂_nil_right_iff.mp (List.forall₂_cons.mp (List.forall₂_cons.mp varies).2).2
  exact ⟨front ++ (blanks ++ [i]), n, by simp [none], mem_of_variant variant⟩

theorem variants_apart {d : Char} (variant : (Text.caseVariants d).contains 'o' = true) :
    (Text.caseVariants d).contains 'u' = false := by
  refine Bool.eq_false_iff.mpr fun other => ?_
  rcases Text.variant_cases (by decide) variant with rfl | rfl | ⟨long, -⟩
  · rcases Text.variant_cases (by decide) other with same | same | ⟨same, -⟩ <;> cases same
  · rcases Text.variant_cases (by decide) other with same | same | ⟨same, -⟩ <;> cases same
  · cases long

theorem lexeme_of_null : ∀ entry ∈ grammar, entry.kind = .nullLiteral →
    entry.lexeme = word "null" := by
  simp [grammar]

theorem lexed_negated {cs : List Char} (spans : negated.Spans none cs []) : Lexed .notIn cs := by
  obtain ⟨front, blanks, back, whole, first, -, -⟩ := spans_negated spans
  obtain ⟨d, others, rfl, variant⟩ := head_of_varies first
  obtain ⟨e, others, rfl, second⟩ := head_of_varies (List.forall₂_cons.mp first).2
  have nonempty : cs ≠ [] := by simp [whole]
  refine lexed_of_entry 8 (show grammar[8]? = some ⟨.notIn, negated, .empty⟩ from rfl) (by decide)
    rfl nonempty (fun rest delimited entry member => ?_) spans fun rest delimited => ?_
  · by_cases begins : entry.lexeme.begins d = true
    · -- Only `null` begins with the same letter, but its second letter is another one.
      have kind := begins_negated d (mem_of_variant variant) entry member begins
      rw [lexeme_of_null entry (List.mem_of_mem_take member) kind]
      intro before found left _ same spans
      have varies : Varies found ['n', 'u', 'l', 'l'] := (spans_word spans).1
      obtain ⟨c, more, rfl, -⟩ := head_of_varies varies
      obtain ⟨u, more, rfl, other⟩ := head_of_varies (List.forall₂_cons.mp varies).2
      obtain rfl : e = u := by
        rw [whole] at same
        simp_all
      rw [variants_apart second] at other
      cases other
    · rw [whole]
      exact Pattern.misses_of_begins (by simpa using begins) _
  · refine Pattern.settles_of_unique nonempty (fun before neutral => ?_) ?_
    · have indifferent := (grammar_indifferent ⟨.notIn, negated, .empty⟩
        (List.mem_of_getElem? (show grammar[8]? = some _ from rfl))).1
      simpa using Pattern.spans_surrounded indifferent neutral delimited.neutral spans
    · intro before other left _ same more
      exact (negated_unique spans more same).symm

/-- A spelling is one of `not in`, or consists of the characters of operators and is checked. -/
theorem spelling_cases {operator : Operator} (written : operator.Written) :
    operator.kind = .notIn ∧ negated.Spans none operator.spelling.toList [] ∨
      ∃ index entry, grammar[index]? = some entry ∧ entry.kind = operator.kind ∧
        entry.following = .empty ∧ fixed index operator.spelling.toList = true ∧
        ∀ c ∈ operator.spelling.toList, c ∈ operatorChars := by
  obtain ⟨operates, plain, entry, member, kind, matched⟩ := written
  obtain ⟨index, bound, rfl⟩ := List.mem_iff_getElem.mp member
  have known := List.getElem?_eq_getElem bound
  have spans := Pattern.matchesAll_iff.mp matched
  by_cases repeated : index = 8
  · subst repeated
    exact .inl ⟨kind.symm, spans⟩
  · have checked := fixed_operators index bound
    rw [← kind] at operates plain
    simp only [known, Option.all_some, repeated, operates, plain, beq_iff_eq, Bool.or_eq_true,
      Bool.and_eq_true, Bool.not_eq_true', Bool.true_eq_false, false_or,
      List.all_eq_true] at checked
    obtain ⟨⟨follows, once⟩, fixed⟩ := checked
    have admits := operator_admits _ member operates plain once
    have word := fixed _ (Pattern.mem_words once admits spans)
    refine .inr ⟨index, _, known, kind, ?_, word.resolve_left (by simp [matched]),
      admits.of_spans spans⟩
    revert follows
    cases grammar[index].following <;> simp

theorem lexed_of_written {operator : Operator} (written : operator.Written) :
    Lexed operator.kind operator.spelling.toList := by
  rcases spelling_cases written with ⟨kind, spans⟩ | ⟨index, entry, known, kind, follows, word, -⟩
  · rw [kind]
    exact lexed_negated spans
  · have operates := written.operates
    rw [← kind] at operates ⊢
    refine lexed_of_fixed known ?_ follows word
    intro method
    rw [method] at operates
    cases operates

theorem shown_operatorChars : ∀ c ∈ operatorChars, Text.isBlank c = false ∧ c ≠ '(' := by
  refine List.all_iff_forall_prop.mp ?_
  decide

/-- No space and no parenthesis stands at the beginning of an operator. -/
theorem head_of_written {operator : Operator} (written : operator.Written) :
    ∀ c ∈ operator.spelling.toList.head?, Text.isBlank c = false ∧ c ≠ '(' := by
  intro c head
  rcases spelling_cases written with ⟨-, spans⟩ | ⟨_, _, _, _, _, _, listed⟩
  · obtain ⟨front, blanks, back, whole, varies, -, -⟩ := spans_negated spans
    obtain ⟨d, others, rfl, variant⟩ := head_of_varies varies
    obtain rfl : d = c := by simpa [whole] using head
    rcases List.mem_pair.mp (mem_of_variant variant) with rfl | rfl <;> exact ⟨rfl, by decide⟩
  · exact shown_operatorChars c (listed c (List.mem_of_mem_head? head))

end Token

end PathQuery
