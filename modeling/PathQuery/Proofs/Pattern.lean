import Mathlib.Logic.Relation
import PathQuery.Pattern

/-!
What patterns match, apart from the order in which the places are found. `Spans` says that a pattern
matches some characters between those before and after them. Main statement: `mem_ends_iff`, the
places that are found are those after the characters that the pattern spans.
-/

namespace PathQuery

namespace Cursor

/-- A cursor comes to a place over some characters. -/
structure Leads (cursor : Cursor) (word : List Char) (place : Cursor) : Prop where
  rest : cursor.rest = word ++ place.rest
  before : place.before = word.getLast?.or cursor.before
  passed : place.passed = cursor.passed + word.length

namespace Leads

variable {cursor place other : Cursor} {word more : List Char}

theorem refl (cursor : Cursor) : cursor.Leads [] cursor :=
  ⟨rfl, rfl, rfl⟩

theorem trans (first : cursor.Leads word place) (second : place.Leads more other) :
    cursor.Leads (word ++ more) other := by
  refine ⟨?_, ?_, ?_⟩
  · rw [first.rest, second.rest, List.append_assoc]
  · rw [second.before, first.before, List.getLast?_append, Option.or_assoc]
  · rw [second.passed, first.passed, List.length_append, Nat.add_assoc]

/-- Places of one text after the same number of characters are the same. -/
theorem eq_of_passed (first : cursor.Leads word place) (second : cursor.Leads more other)
    (same : place.passed = other.passed) : place = other ∧ word = more := by
  have lengths : word.length = more.length := by
    have := first.passed
    have := second.passed
    omega
  obtain ⟨rfl, rest⟩ := List.append_inj (first.rest.symm.trans second.rest) lengths
  obtain ⟨before, chars, passed⟩ := place
  obtain ⟨otherBefore, otherChars, otherPassed⟩ := other
  have placed := first.before.trans second.before.symm
  simp_all

theorem split (leads : cursor.Leads (word ++ more) place) :
    ∃ middle, cursor.Leads word middle ∧ middle.Leads more place := by
  refine ⟨⟨word.getLast?.or cursor.before, more ++ place.rest, cursor.passed + word.length⟩, ?_, ?_⟩
  · refine ⟨?_, rfl, rfl⟩
    rw [leads.rest, List.append_assoc]
  · refine ⟨rfl, ?_, ?_⟩
    · rw [leads.before, List.getLast?_append, Option.or_assoc]
    · rw [leads.passed, List.length_append, Nat.add_assoc]

theorem eq_of_leads (leads : cursor.Leads word place) : ∃ before rest passed,
    cursor = ⟨before, word ++ rest, passed⟩ ∧
      place = ⟨word.getLast?.or before, rest, passed + word.length⟩ := by
  obtain ⟨before, chars, passed⟩ := cursor
  obtain ⟨beforePlace, rest, passedPlace⟩ := place
  obtain rfl : chars = word ++ rest := leads.rest
  obtain rfl : beforePlace = word.getLast?.or before := leads.before
  obtain rfl : passedPlace = passed + word.length := leads.passed
  exact ⟨before, rest, passed, rfl, rfl⟩

theorem length_rest (leads : cursor.Leads word place) :
    cursor.rest.length = word.length + place.rest.length := by
  rw [leads.rest, List.length_append]

/-- What is passed and what is left are together the whole text. -/
theorem total (leads : cursor.Leads word place) :
    place.passed + place.rest.length = cursor.passed + cursor.rest.length := by
  rw [leads.passed, leads.length_rest, Nat.add_assoc]

end Leads

theorem pass_eq_some {accepts : Char → Bool} {cursor place : Cursor} :
    cursor.pass? accepts = some place ↔ ∃ c, accepts c = true ∧ cursor.Leads [c] place := by
  obtain ⟨before, rest, passed⟩ := cursor
  constructor
  · intro passes
    cases rest with
    | nil => simp [pass?] at passes
    | cons c rest =>
      by_cases accepted : accepts c = true
      · obtain rfl : _ = place := by simpa [pass?, accepted] using passes
        exact ⟨c, accepted, rfl, rfl, rfl⟩
      · simp [pass?, accepted] at passes
  · rintro ⟨c, accepted, leads⟩
    obtain rfl : rest = c :: place.rest := leads.rest
    have ahead : Leads ⟨before, c :: place.rest, passed⟩ [c] ⟨some c, place.rest, passed + 1⟩ :=
      ⟨rfl, rfl, rfl⟩
    simpa [pass?, accepted] using (leads.eq_of_passed ahead leads.passed).1.symm

end Cursor

namespace Pattern

/-- Repetitions of what a relation spans. -/
inductive Repeated (body : Option Char → List Char → List Char → Prop) :
    Option Char → List Char → List Char → Prop
  | done {before : Option Char} {rest : List Char} : Repeated body before [] rest
  | more {before : Option Char} {word others rest : List Char} :
      body before word (others ++ rest) →
      Repeated body (word.getLast?.or before) others rest →
      Repeated body before (word ++ others) rest

/-- Whether a pattern matches some characters, after a character and before others. -/
def Spans : Pattern → Option Char → List Char → List Char → Prop
  | fail, _, _, _ => False
  | empty, _, word, _ => word = []
  | char accepts, _, word, _ => ∃ c, accepts c = true ∧ word = [c]
  | look holds, before, word, rest => word = [] ∧ holds before rest.head? = true
  | seq first second, before, word, rest => ∃ front back, word = front ++ back ∧
      first.Spans before front (back ++ rest) ∧ second.Spans (front.getLast?.or before) back rest
  | either preferred other, before, word, rest =>
      preferred.Spans before word rest ∨ other.Spans before word rest
  | many body, before, word, rest => Repeated body.Spans before word rest

theorem spans_exactly {c : Char} {before : Option Char} {word rest : List Char} :
    (exactly c).Spans before word rest ↔ word = [c] := by
  simp [exactly, Spans]

theorem spans_concat_exactly (cs : List Char) {before : Option Char} {word rest : List Char} :
    (concat (cs.map exactly)).Spans before word rest ↔ word = cs := by
  induction cs generalizing before word rest with
  | nil => exact Iff.rfl
  | cons c cs ih =>
    cases cs with
    | nil => exact spans_exactly
    | cons d cs =>
      constructor
      · rintro ⟨front, back, rfl, spansFront, spansBack⟩
        rw [spans_exactly.mp spansFront, ih.mp spansBack]
        rfl
      · rintro rfl
        exact ⟨[c], d :: cs, rfl, spans_exactly.mpr rfl, ih.mpr rfl⟩

theorem spans_text {cs : String} {before : Option Char} {word rest : List Char} :
    (text cs).Spans before word rest ↔ word = cs.toList :=
  spans_concat_exactly cs.toList

theorem spans_many_char {accepts : Char → Bool} {before : Option Char} {word rest : List Char} :
    (many (char accepts)).Spans before word rest ↔ ∀ c ∈ word, accepts c = true := by
  rw [Spans]
  constructor
  · intro repeated
    induction repeated with
    | done => simp
    | more first _ others =>
      obtain ⟨c, accepted, rfl⟩ := first
      simpa [accepted] using others
  · intro all
    induction word generalizing before with
    | nil => exact .done
    | cons c word ih =>
      obtain ⟨accepted, others⟩ := List.forall_mem_cons.mp all
      show Repeated _ before ([c] ++ word) rest
      exact .more ⟨c, accepted, rfl⟩ (ih others)

theorem spans_oneOrMore_char {accepts : Char → Bool} {before : Option Char}
    {word rest : List Char} : (oneOrMore (char accepts)).Spans before word rest ↔
      word ≠ [] ∧ ∀ c ∈ word, accepts c = true := by
  constructor
  · rintro ⟨front, back, rfl, ⟨c, accepted, rfl⟩, spans⟩
    have others := spans_many_char.mp spans
    simpa [accepted] using others
  · rintro ⟨nonempty, all⟩
    obtain ⟨c, word, rfl⟩ := List.exists_cons_of_ne_nil nonempty
    obtain ⟨accepted, others⟩ := List.forall_mem_cons.mp all
    exact ⟨[c], word, rfl, ⟨c, accepted, rfl⟩, spans_many_char.mpr others⟩

/-- Whether a pattern can match no characters. -/
def nullable : Pattern → Bool
  | fail => false
  | empty => true
  | char _ => false
  | look _ => true
  | seq first second => first.nullable && second.nullable
  | either preferred other => preferred.nullable || other.nullable
  | many _ => true

theorem nullable_of_spans {pattern : Pattern} {before : Option Char} {rest : List Char}
    (spans : pattern.Spans before [] rest) : pattern.nullable = true := by
  induction pattern generalizing before rest with
  | fail => cases spans
  | char =>
    obtain ⟨c, -, same⟩ := spans
    cases same
  | empty | look | many => rfl
  | seq first second ihFirst ihSecond =>
    obtain ⟨front, back, same, spansFront, spansBack⟩ := spans
    obtain ⟨rfl, rfl⟩ := List.append_eq_nil_iff.mp same.symm
    simp [nullable, ihFirst spansFront, ihSecond spansBack]
  | either preferred other ihPreferred ihOther =>
    rcases spans with spans | spans
    · simp [nullable, ihPreferred spans]
    · simp [nullable, ihOther spans]

/-- Whether what a pattern matches can begin with a character. -/
def begins (c : Char) : Pattern → Bool
  | fail | empty | look _ => false
  | char accepts => accepts c
  | seq first second => first.begins c || (first.nullable && second.begins c)
  | either preferred other => preferred.begins c || other.begins c
  | many body => body.begins c

theorem begins_of_spans {pattern : Pattern} {before : Option Char} {c : Char}
    {word rest : List Char} (spans : pattern.Spans before (c :: word) rest) :
    pattern.begins c = true := by
  induction pattern generalizing before word rest with
  | fail => cases spans
  | empty => cases spans
  | look => cases spans.1
  | char accepts =>
    obtain ⟨d, accepted, same⟩ := spans
    cases same
    exact accepted
  | seq first second ihFirst ihSecond =>
    obtain ⟨front, back, same, spansFront, spansBack⟩ := spans
    cases front with
    | nil =>
      obtain rfl : c :: word = back := same
      simp [begins, nullable_of_spans spansFront, ihSecond spansBack]
    | cons d front =>
      obtain ⟨rfl, rfl⟩ := List.cons.inj same
      simp [begins, ihFirst spansFront]
  | either preferred other ihPreferred ihOther =>
    rcases spans with spans | spans
    · simp [begins, ihPreferred spans]
    · simp [begins, ihOther spans]
  | many body ih =>
    rw [Spans] at spans
    generalize whole : c :: word = text at spans
    induction spans with
    | done => cases whole
    | @more _ front others _ first _ later =>
      cases front with
      | nil => exact later whole
      | cons d front =>
        obtain ⟨rfl, rfl⟩ := List.cons.inj whole
        exact ih first

/-- Whether all characters that a pattern accepts have a property. -/
def Admits (property : Char → Prop) : Pattern → Prop
  | fail | empty | look _ => True
  | char accepts => ∀ c, accepts c = true → property c
  | seq first second => first.Admits property ∧ second.Admits property
  | either preferred other => preferred.Admits property ∧ other.Admits property
  | many body => body.Admits property

theorem admits_exactly {property : Char → Prop} {c : Char} (holds : property c) :
    (exactly c).Admits property :=
  fun _ same => by rwa [eq_of_beq same]

theorem admits_concat {property : Char → Prop} {patterns : List Pattern}
    (admits : ∀ pattern ∈ patterns, pattern.Admits property) :
    (concat patterns).Admits property := by
  fun_induction concat patterns with
  | case1 => trivial
  | case2 pattern => exact admits pattern (by simp)
  | case3 pattern patterns _ ih =>
    obtain ⟨first, others⟩ := List.forall_mem_cons.mp admits
    exact ⟨first, ih others⟩

theorem admits_text {property : Char → Prop} {cs : String} (holds : ∀ c ∈ cs.toList, property c) :
    (text cs).Admits property := by
  refine admits_concat fun pattern member => ?_
  obtain ⟨c, present, rfl⟩ := List.mem_map.mp member
  exact admits_exactly (holds c present)

theorem Admits.of_spans {pattern : Pattern} {property : Char → Prop} {before : Option Char}
    {word rest : List Char} (admits : pattern.Admits property)
    (spans : pattern.Spans before word rest) : ∀ c ∈ word, property c := by
  induction pattern generalizing before word rest with
  | fail => cases spans
  | empty =>
    obtain rfl : word = [] := spans
    simp
  | look =>
    obtain ⟨rfl, -⟩ := spans
    simp
  | char accepts =>
    obtain ⟨c, accepted, rfl⟩ := spans
    simpa using admits c accepted
  | seq first second ihFirst ihSecond =>
    obtain ⟨front, back, rfl, spansFront, spansBack⟩ := spans
    exact List.forall_mem_append.mpr ⟨ihFirst admits.1 spansFront, ihSecond admits.2 spansBack⟩
  | either preferred other ihPreferred ihOther =>
    rcases spans with spans | spans
    · exact ihPreferred admits.1 spans
    · exact ihOther admits.2 spans
  | many body ih =>
    rw [Spans] at spans
    induction spans with
    | done => simp
    | more first _ others => exact List.forall_mem_append.mpr ⟨ih admits first, others⟩

/-- A pattern without its conditions. -/
def loose : Pattern → Pattern
  | look _ => empty
  | seq first second => .seq first.loose second.loose
  | either preferred other => .either preferred.loose other.loose
  | many body => .many body.loose
  | pattern => pattern

theorem loose_of_spans {pattern : Pattern} {before other : Option Char} {word rest more : List Char}
    (spans : pattern.Spans before word rest) : pattern.loose.Spans other word more := by
  induction pattern generalizing before other word rest more with
  | fail => exact spans
  | empty => exact spans
  | char => exact spans
  | look => exact spans.1
  | seq first second ihFirst ihSecond =>
    obtain ⟨front, back, rfl, spansFront, spansBack⟩ := spans
    exact ⟨front, back, rfl, ihFirst spansFront, ihSecond spansBack⟩
  | either preferred other ihPreferred ihOther => exact spans.imp ihPreferred ihOther
  | many body ih =>
    rw [Spans] at spans
    rw [loose, Spans]
    induction spans generalizing other with
    | done => exact .done
    | more first _ others => exact .more (ih first) others

/-- Whether all cursors are places of one text. -/
def Coherent (base : Cursor) (cursors : List Cursor) : Prop :=
  ∀ cursor ∈ cursors, ∃ word, base.Leads word cursor

theorem coherent_single {base cursor : Cursor} {word : List Char}
    (leads : base.Leads word cursor) : Coherent base [cursor] := by
  simpa [Coherent] using ⟨word, leads⟩

theorem Coherent.append {base : Cursor} {cursors others : List Cursor}
    (left : Coherent base cursors) (right : Coherent base others) :
    Coherent base (cursors ++ others) :=
  List.forall_mem_append.mpr ⟨left, right⟩

/-- What is reached from places of a text are places of that text. -/
theorem Coherent.flatMap {base : Cursor} {cursors : List Cursor} {next : Cursor → List Cursor}
    (coherent : Coherent base cursors) (within : ∀ cursor, Coherent cursor (next cursor)) :
    Coherent base (cursors.flatMap next) := by
  intro place member
  obtain ⟨cursor, present, reached⟩ := List.mem_flatMap.mp member
  obtain ⟨front, first⟩ := coherent cursor present
  obtain ⟨word, leads⟩ := within cursor place reached
  exact ⟨front ++ word, first.trans leads⟩

theorem Coherent.eq {base cursor place : Cursor} {cursors others : List Cursor}
    (left : Coherent base cursors) (right : Coherent base others) (member : cursor ∈ cursors)
    (present : place ∈ others) (same : cursor.samePlace place = true) : cursor = place := by
  obtain ⟨word, leads⟩ := left cursor member
  obtain ⟨more, further⟩ := right place present
  exact (leads.eq_of_passed further (by simpa [Cursor.samePlace] using same)).1

theorem Coherent.mem_of_any {base cursor : Cursor} {cursors : List Cursor} {word : List Char}
    (coherent : Coherent base cursors) (leads : base.Leads word cursor)
    (present : cursors.any (·.samePlace cursor) = true) : cursor ∈ cursors := by
  obtain ⟨other, member, same⟩ := List.any_eq_true.mp present
  rwa [← coherent.eq (coherent_single leads) member List.mem_cons_self same]

theorem mem_distinct {base cursor : Cursor} {cursors : List Cursor}
    (coherent : Coherent base cursors) : cursor ∈ distinct cursors ↔ cursor ∈ cursors := by
  induction cursors with
  | nil => rfl
  | cons first cursors ih =>
    have tail : Coherent base cursors := fun place member =>
      coherent place (List.mem_cons_of_mem _ member)
    rw [distinct, List.mem_cons, List.mem_cons, List.mem_filter, ih tail]
    constructor
    · rintro (rfl | ⟨member, -⟩)
      · exact .inl rfl
      · exact .inr member
    · rintro (rfl | member)
      · exact .inl rfl
      · by_cases same : cursor.samePlace first = true
        · exact .inl (tail.eq coherent member List.mem_cons_self same)
        · exact .inr ⟨member, by simpa using same⟩

section Repetition

variable {next : Cursor → List Cursor} {base : Cursor}

/-- One repetition that leads on. -/
def Onward (next : Cursor → List Cursor) (cursor place : Cursor) : Prop :=
  place ∈ next cursor ∧ cursor.passed < place.passed

/-- The places found hold all that one repetition leads to from them. -/
def Closed (next : Cursor → List Cursor) (found : List Cursor) : Prop :=
  ∀ cursor ∈ found, ∀ place, Onward next cursor place → place ∈ found

/-- What a search for repetitions adds to the places found. -/
structure Collected (next : Cursor → List Cursor) (base : Cursor) (starts found all : List Cursor) :
    Prop where
  coherent : Coherent base all
  kept : found ⊆ all
  started : starts ⊆ all
  closed : Closed next all
  reached : ∀ place ∈ all, place ∈ found ∨
    ∃ start ∈ starts, Relation.ReflTransGen (Onward next) start place

theorem collected_foldl {step : List Cursor → Cursor → List Cursor} {starts found : List Cursor}
    (steps : ∀ start ∈ starts, ∀ found, Coherent base found → Closed next found →
      Collected next base [start] found (step found start))
    (coherent : Coherent base found) (closed : Closed next found) :
    Collected next base starts found (starts.foldl step found) := by
  induction starts generalizing found with
  | nil => exact ⟨coherent, List.Subset.refl _, by simp, closed, fun place member => .inl member⟩
  | cons start starts ih =>
    have first := steps start List.mem_cons_self found coherent closed
    have others := ih (fun other member => steps other (List.mem_cons_of_mem _ member))
      first.coherent first.closed
    refine ⟨others.coherent, fun place member => others.kept (first.kept member), ?_, others.closed, ?_⟩
    · exact List.cons_subset.mpr
        ⟨others.kept (first.started List.mem_cons_self), others.started⟩
    · intro place member
      rcases others.reached place member with early | ⟨other, present, leads⟩
      · rcases first.reached place early with given | ⟨other, present, leads⟩
        · exact .inl given
        · exact .inr ⟨start, List.mem_cons_self, List.mem_singleton.mp present ▸ leads⟩
      · exact .inr ⟨other, List.mem_cons_of_mem _ present, leads⟩

theorem collected_of_any {cursor : Cursor} {found : List Cursor} {word : List Char}
    (leads : base.Leads word cursor) (coherent : Coherent base found) (closed : Closed next found)
    (present : found.any (·.samePlace cursor) = true) :
    Collected next base [cursor] found found := by
  have member := coherent.mem_of_any leads present
  exact ⟨coherent, List.Subset.refl _, by simpa using member, closed, fun _ early => .inl early⟩

theorem collected_cons {cursor : Cursor} {word : List Char} {onward found all : List Cursor}
    (leads : base.Leads word cursor) (holds : ∀ place, Onward next cursor place ↔ place ∈ onward)
    (collected : Collected next base onward found all) :
    Collected next base [cursor] found (cursor :: all) := by
  refine ⟨?_, List.subset_cons_of_subset _ collected.kept, by simp, ?_, ?_⟩
  · rintro place (_ | ⟨_, member⟩)
    · exact ⟨word, leads⟩
    · exact collected.coherent place member
  · rintro place (_ | ⟨_, member⟩) other leadsOn
    · exact List.mem_cons_of_mem _ (collected.started ((holds other).mp leadsOn))
    · exact List.mem_cons_of_mem _ (collected.closed place member other leadsOn)
  · rintro place (_ | ⟨_, member⟩)
    · exact .inr ⟨cursor, by simp, .refl⟩
    · rcases collected.reached place member with given | ⟨start, present, path⟩
      · exact .inl given
      · exact .inr ⟨cursor, by simp, .head ((holds start).mpr present) path⟩

variable (within : ∀ cursor, Coherent cursor (next cursor))

include within

theorem collected_collect {depth : Nat} {cursor : Cursor} {found : List Cursor} {word : List Char}
    (leads : base.Leads word cursor) (deep : cursor.rest.length ≤ depth)
    (coherent : Coherent base found) (closed : Closed next found) :
    Collected next base [cursor] found (collect next depth found cursor) := by
  induction depth generalizing cursor found word with
  | zero =>
    rw [collect]
    split
    · exact collected_of_any leads coherent closed ‹_›
    · have nothing : Collected next base [] found found :=
        ⟨coherent, List.Subset.refl _, by simp, closed, fun _ early => .inl early⟩
      refine collected_cons leads (fun place => ?_) nothing
      simp only [List.not_mem_nil, iff_false]
      rintro ⟨member, further⟩
      obtain ⟨more, onward⟩ := within cursor place member
      have := onward.total
      omega
  | succ depth ih =>
    rw [collect]
    split
    · exact collected_of_any leads coherent closed ‹_›
    · refine collected_cons leads (fun place => ?_) (collected_foldl ?_ coherent closed)
      · simp [Onward]
      · intro start member found coherent closed
        obtain ⟨present, further⟩ : start ∈ next cursor ∧ cursor.passed < start.passed := by
          simpa using member
        obtain ⟨more, onward⟩ := within cursor start present
        refine ih (leads.trans onward) ?_ coherent closed
        have := onward.total
        omega

theorem mem_foldl_collect {place : Cursor} {starts : List Cursor}
    (coherent : Coherent base starts) :
    place ∈ starts.foldl (fun found start => collect next start.rest.length found start) [] ↔
      ∃ start ∈ starts, Relation.ReflTransGen (Onward next) start place := by
  have collected : Collected next base starts []
      (starts.foldl (fun found start => collect next start.rest.length found start) []) := by
    refine collected_foldl ?_ (by simp [Coherent]) (by simp [Closed])
    intro start member found unified closed
    obtain ⟨word, leads⟩ := coherent start member
    exact collected_collect within leads (Nat.le_refl _) unified closed
  constructor
  · intro member
    simpa using collected.reached place member
  · rintro ⟨start, member, path⟩
    induction path with
    | refl => exact collected.started member
    | tail _ onward ih => exact collected.closed _ ih _ onward

end Repetition

/-- Whether a pattern finds the places after the characters that it spans, and only those. -/
def Exact (pattern : Pattern) : Prop :=
  ∀ (cursors : List Cursor) (base : Cursor), Coherent base cursors → ∀ place,
    place ∈ pattern.endsFrom cursors ↔
      ∃ cursor ∈ cursors, ∃ word, cursor.Leads word place ∧
        pattern.Spans cursor.before word place.rest

variable {body : Pattern} {cursor place : Cursor} {word : List Char}

theorem Exact.mem_single (exact : body.Exact) :
    place ∈ body.endsFrom [cursor] ↔
      ∃ word, cursor.Leads word place ∧ body.Spans cursor.before word place.rest := by
  rw [exact [cursor] cursor (coherent_single (.refl cursor))]
  simp

theorem Exact.coherent {base : Cursor} {cursors : List Cursor} (exact : body.Exact)
    (coherent : Coherent base cursors) : Coherent base (body.endsFrom cursors) := by
  intro place member
  obtain ⟨cursor, present, word, leads, -⟩ := (exact cursors base coherent place).mp member
  obtain ⟨front, first⟩ := coherent cursor present
  exact ⟨front ++ word, first.trans leads⟩

theorem Exact.within (exact : body.Exact) (cursor : Cursor) :
    Coherent cursor (body.endsFrom [cursor]) :=
  exact.coherent (coherent_single (.refl cursor))

theorem spans_of_onward (exact : body.Exact)
    (path : Relation.ReflTransGen (Onward fun cursor => body.endsFrom [cursor]) cursor place) :
    ∃ word, cursor.Leads word place ∧ (many body).Spans cursor.before word place.rest := by
  induction path using Relation.ReflTransGen.head_induction_on with
  | refl => exact ⟨[], .refl place, .done⟩
  | head onward _ ih =>
    obtain ⟨others, later, repeated⟩ := ih
    obtain ⟨word, leads, spans⟩ := exact.mem_single.mp onward.1
    rw [later.rest] at spans
    rw [leads.before] at repeated
    exact ⟨word ++ others, leads.trans later, .more spans repeated⟩

theorem onward_of_spans (exact : body.Exact) (leads : cursor.Leads word place)
    (repeated : (many body).Spans cursor.before word place.rest) :
    Relation.ReflTransGen (Onward fun cursor => body.endsFrom [cursor]) cursor place := by
  rw [Spans] at repeated
  generalize before : cursor.before = previous at repeated
  generalize left : place.rest = rest at repeated
  induction repeated generalizing cursor with
  | done => rw [leads.eq_of_passed (.refl cursor) leads.passed |>.1]
  | @more _ word others _ spans _ ih =>
    obtain ⟨middle, first, second⟩ := leads.split
    have reached : middle ∈ body.endsFrom [cursor] :=
      exact.mem_single.mpr ⟨word, first, by rwa [before, second.rest, left]⟩
    have later := ih second (by rw [first.before, before]) left
    by_cases onward : cursor.passed < middle.passed
    · exact .head ⟨reached, onward⟩ later
    · have stays : middle = cursor :=
        (first.eq_of_passed (.refl cursor) (by have := first.passed; omega)).1
      rwa [← stays]

theorem exact (pattern : Pattern) : pattern.Exact := by
  induction pattern with
  | fail => intro cursors base _ place; simp [endsFrom, Spans]
  | empty =>
    intro cursors base _ place
    rw [endsFrom]
    constructor
    · exact fun member => ⟨place, member, [], .refl place, rfl⟩
    · rintro ⟨cursor, member, word, leads, rfl⟩
      rwa [leads.eq_of_passed (.refl cursor) leads.passed |>.1]
  | char accepts =>
    intro cursors base _ place
    rw [endsFrom, List.mem_filterMap]
    refine exists_congr fun cursor => and_congr_right fun _ => Cursor.pass_eq_some.trans ?_
    constructor
    · rintro ⟨c, accepted, leads⟩
      exact ⟨[c], leads, c, accepted, rfl⟩
    · rintro ⟨_, leads, c, accepted, rfl⟩
      exact ⟨c, accepted, leads⟩
  | look holds =>
    intro cursors base _ place
    rw [endsFrom, List.mem_filter]
    constructor
    · exact fun member => ⟨place, member.1, [], .refl place, rfl, member.2⟩
    · rintro ⟨cursor, member, word, leads, rfl, accepted⟩
      obtain rfl := leads.eq_of_passed (.refl cursor) leads.passed |>.1
      exact ⟨member, accepted⟩
  | seq first second ihFirst ihSecond =>
    intro cursors base coherent place
    rw [endsFrom, ihSecond _ base (ihFirst.coherent coherent)]
    constructor
    · rintro ⟨middle, member, back, later, spansBack⟩
      obtain ⟨cursor, present, front, leads, spansFront⟩ := (ihFirst _ base coherent _).mp member
      rw [later.rest] at spansFront
      rw [leads.before] at spansBack
      exact ⟨cursor, present, front ++ back, leads.trans later, front, back, rfl, spansFront,
        spansBack⟩
    · rintro ⟨cursor, present, word, leads, front, back, rfl, spansFront, spansBack⟩
      obtain ⟨middle, first, second⟩ := leads.split
      rw [← second.rest] at spansFront
      rw [← first.before] at spansBack
      exact ⟨middle, (ihFirst _ base coherent _).mpr ⟨cursor, present, front, first, spansFront⟩,
        back, second, spansBack⟩
  | either preferred other ihPreferred ihOther =>
    intro cursors base coherent place
    have unified : Coherent base (cursors.flatMap fun cursor =>
        preferred.endsFrom [cursor] ++ other.endsFrom [cursor]) :=
      coherent.flatMap fun cursor => (ihPreferred.within cursor).append (ihOther.within cursor)
    rw [endsFrom, mem_distinct unified, List.mem_flatMap]
    refine exists_congr fun cursor => and_congr_right fun _ => ?_
    rw [List.mem_append, ihPreferred.mem_single, ihOther.mem_single, ← exists_or]
    simp only [Spans, ← and_or_left]
  | many body ih =>
    intro cursors base coherent place
    rw [endsFrom, List.mem_reverse, mem_foldl_collect ih.within coherent]
    refine exists_congr fun cursor => and_congr_right fun _ => ⟨spans_of_onward ih, ?_⟩
    rintro ⟨word, leads, repeated⟩
    exact onward_of_spans ih leads repeated

/-- The places where matches end are those after the characters that the pattern spans. -/
theorem mem_ends_iff {pattern : Pattern} : place ∈ pattern.ends cursor ↔
    ∃ word, cursor.Leads word place ∧ pattern.Spans cursor.before word place.rest :=
  pattern.exact.mem_single

theorem matchesAll_iff {pattern : Pattern} {cs : List Char} :
    pattern.matchesAll cs = true ↔ pattern.Spans none cs [] := by
  rw [matchesAll, List.any_eq_true]
  constructor
  · rintro ⟨place, member, ended⟩
    obtain ⟨word, leads, spans⟩ := mem_ends_iff.mp member
    have rest : place.rest = [] := by simpa using ended
    have whole : cs = word := by simpa [rest, Cursor.start] using leads.rest
    rwa [rest, ← whole] at spans
  · intro spans
    have leads : (Cursor.start cs).Leads cs ⟨cs.getLast?.or none, [], 0 + cs.length⟩ :=
      ⟨(List.append_nil cs).symm, rfl, rfl⟩
    exact ⟨_, mem_ends_iff.mpr ⟨cs, leads, spans⟩, rfl⟩

end Pattern

end PathQuery
