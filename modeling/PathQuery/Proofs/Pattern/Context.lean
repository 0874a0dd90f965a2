import PathQuery.Proofs.Pattern
import PathQuery.Text.Blank

/-!
Patterns on a text and on a longer text around it. The places found in the longer text are those
found in the text by itself, in the same order, and places behind its end. What stands next to the
text is no part of a word, so for a condition of a pattern it is like an end of the text.
-/

namespace PathQuery

/-- Whether what stands beside a text is no part of a word. -/
def Neutral (beside : Option Char) : Prop :=
  beside.any Text.isWordChar = false

instance (beside : Option Char) : Decidable (Neutral beside) :=
  inferInstanceAs (Decidable (_ = _))

theorem neutral_comma : Neutral (some ',') := rfl

/-- Whether a parenthesis that follows makes the name of a method of a word. -/
def Called (rest : List Char) : Prop :=
  (rest.dropWhile Text.isBlank).head? = some '('

/-- A longer text around a text: the character before it, what follows it, and how many characters
were passed before it. -/
structure Surroundings where
  lead : Option Char
  tail : List Char
  shift : Nat

namespace Surroundings

/-- What stands on both sides makes no difference to the text: it continues none of its words, and
calls no method. -/
structure Separate (around : Surroundings) : Prop where
  lead : Neutral around.lead
  neutral : Neutral around.tail.head?
  uncalled : ¬Called around.tail

/-- The same place in the longer text. -/
def place (around : Surroundings) (cursor : Cursor) : Cursor :=
  ⟨cursor.before.or around.lead, cursor.rest ++ around.tail, cursor.passed + around.shift⟩

end Surroundings

namespace Pattern

/-- Whether the conditions of a pattern do not tell the end of a text from the end of a word. -/
def Indifferent : Pattern → Prop
  | fail | empty | char _ => True
  | look holds => ∀ before after lead next, Neutral lead → Neutral next →
      holds (before.or lead) (after.or next) = holds before after
  | seq first second => first.Indifferent ∧ second.Indifferent
  | either preferred other => preferred.Indifferent ∧ other.Indifferent
  | many body => body.Indifferent

/-- What a pattern spans in a text it spans in a longer one. -/
theorem spans_surrounded {pattern : Pattern} (indifferent : pattern.Indifferent)
    {before lead : Option Char} {word rest tail : List Char} (leads : Neutral lead)
    (trails : Neutral tail.head?) (spans : pattern.Spans before word rest) :
    pattern.Spans (before.or lead) word (rest ++ tail) := by
  induction pattern generalizing before word rest with
  | fail => exact spans
  | empty => exact spans
  | char => exact spans
  | look holds =>
    obtain ⟨rfl, accepted⟩ := spans
    exact ⟨rfl, by rw [List.head?_append, indifferent _ _ _ _ leads trails, accepted]⟩
  | seq first second ihFirst ihSecond =>
    obtain ⟨front, back, rfl, spansFront, spansBack⟩ := spans
    refine ⟨front, back, rfl, ?_, ?_⟩
    · rw [← List.append_assoc]
      exact ihFirst indifferent.1 spansFront
    · rw [← Option.or_assoc]
      exact ihSecond indifferent.2 spansBack
  | either preferred other ihPreferred ihOther =>
    exact spans.imp (ihPreferred indifferent.1) (ihOther indifferent.2)
  | many body ih =>
    rw [Spans] at spans ⊢
    induction spans with
    | done => exact .done
    | more first _ others =>
      refine .more ?_ ?_
      · rw [← List.append_assoc]
        exact ih indifferent first
      · rw [← Option.or_assoc]
        exact others

variable (around : Surroundings) (limit : Nat)

/-- The places that are not behind the end of the text. -/
def upTo (cursors : List Cursor) : List Cursor :=
  cursors.filter (·.passed ≤ limit)

/-- Places in the longer text and in the text by itself: up to its end they are the same. -/
def Simulates (cursors alone : List Cursor) : Prop :=
  upTo limit cursors = alone.map around.place

variable {around limit}

theorem samePlace_place (left right : Cursor) :
    (around.place left).samePlace (around.place right) = left.samePlace right := by
  rw [Bool.eq_iff_iff]
  simp [Cursor.samePlace, Surroundings.place]

theorem upTo_cons_of_le {cursor : Cursor} {cursors : List Cursor} (within : cursor.passed ≤ limit) :
    upTo limit (cursor :: cursors) = cursor :: upTo limit cursors := by
  simp [upTo, within]

theorem upTo_cons_of_lt {cursor : Cursor} {cursors : List Cursor} (behind : limit < cursor.passed) :
    upTo limit (cursor :: cursors) = upTo limit cursors := by
  simp [upTo, behind]

namespace Simulates

variable {cursors alone : List Cursor} {next : Cursor → List Cursor}

theorem within (simulates : Simulates around limit cursors alone) :
    ∀ cursor ∈ alone, cursor.passed + around.shift ≤ limit := by
  intro cursor member
  have present : around.place cursor ∈ upTo limit cursors := by
    rw [show upTo limit cursors = _ from simulates]
    exact List.mem_map_of_mem member
  exact of_decide_eq_true (List.mem_filter.mp present).2

/-- The first place in the longer text is behind the end of the text, or the first one there. -/
theorem cons_inv {cursor : Cursor} (simulates : Simulates around limit (cursor :: cursors) alone) :
    (limit < cursor.passed ∧ Simulates around limit cursors alone) ∨
      ∃ first others, alone = first :: others ∧ cursor = around.place first ∧
        Simulates around limit cursors others := by
  unfold Simulates at simulates
  rcases Nat.lt_or_ge limit cursor.passed with behind | inside
  · rw [upTo_cons_of_lt behind] at simulates
    exact .inl ⟨behind, simulates⟩
  · rw [upTo_cons_of_le inside] at simulates
    cases alone with
    | nil => cases simulates
    | cons first others =>
      obtain ⟨same, rest⟩ := List.cons.inj simulates
      exact .inr ⟨first, others, rfl, same, rest⟩

theorem cons {cursor : Cursor} (simulates : Simulates around limit cursors alone)
    (within : cursor.passed + around.shift ≤ limit) :
    Simulates around limit (around.place cursor :: cursors) (cursor :: alone) := by
  refine (upTo_cons_of_le within).trans ?_
  rw [List.map_cons, show upTo limit cursors = _ from simulates]

theorem append {others more : List Cursor} (first : Simulates around limit cursors alone)
    (second : Simulates around limit others more) :
    Simulates around limit (cursors ++ others) (alone ++ more) := by
  unfold Simulates upTo at *
  rw [List.filter_append, List.map_append, first, second]

theorem flatMap (simulates : Simulates around limit cursors alone)
    (behind : ∀ cursor, limit < cursor.passed → upTo limit (next cursor) = [])
    (each : ∀ cursor ∈ alone, Simulates around limit (next (around.place cursor)) (next cursor)) :
    Simulates around limit (cursors.flatMap next) (alone.flatMap next) := by
  induction cursors generalizing alone with
  | nil =>
    cases alone with
    | nil => rfl
    | cons => cases simulates
  | cons cursor cursors ih =>
    rcases simulates.cons_inv with ⟨past, later⟩ | ⟨first, others, rfl, rfl, later⟩
    · have nothing : Simulates around limit (next cursor) [] := behind cursor past
      simpa using nothing.append (ih later each)
    · obtain ⟨here, rest⟩ := List.forall_mem_cons.mp each
      exact here.append (ih later rest)

theorem filter {keep : Cursor → Bool} {keepAlone : Cursor → Bool}
    (simulates : Simulates around limit cursors alone)
    (same : ∀ cursor ∈ alone, keep (around.place cursor) = keepAlone cursor) :
    Simulates around limit (cursors.filter keep) (alone.filter keepAlone) := by
  unfold Simulates upTo at *
  rw [List.filter_filter, List.filter_congr fun _ _ => Bool.and_comm .., ← List.filter_filter,
    simulates, List.filter_map]
  exact congrArg _ (List.filter_congr same)

theorem foldl {step : List Cursor → Cursor → List Cursor}
    {stepAlone : List Cursor → Cursor → List Cursor} {found foundAlone : List Cursor}
    (simulates : Simulates around limit cursors alone)
    (behind : ∀ found cursor, limit < cursor.passed →
      upTo limit (step found cursor) = upTo limit found)
    (each : ∀ cursor ∈ alone, ∀ found foundAlone, Simulates around limit found foundAlone →
      Simulates around limit (step found (around.place cursor)) (stepAlone foundAlone cursor))
    (start : Simulates around limit found foundAlone) :
    Simulates around limit (cursors.foldl step found) (alone.foldl stepAlone foundAlone) := by
  induction cursors generalizing alone found foundAlone with
  | nil =>
    cases alone with
    | nil => exact start
    | cons => cases simulates
  | cons cursor cursors ih =>
    rcases simulates.cons_inv with ⟨past, later⟩ | ⟨first, others, rfl, rfl, later⟩
    · refine ih later each ?_
      exact (behind found cursor past).trans start
    · obtain ⟨here, rest⟩ := List.forall_mem_cons.mp each
      rw [List.foldl_cons, List.foldl_cons]
      exact ih later rest (here found foundAlone start)

theorem any_samePlace {cursor : Cursor} (simulates : Simulates around limit cursors alone)
    (within : cursor.passed + around.shift ≤ limit) :
    cursors.any (·.samePlace (around.place cursor)) = alone.any (·.samePlace cursor) := by
  induction cursors generalizing alone with
  | nil =>
    cases alone with
    | nil => rfl
    | cons => cases simulates
  | cons other cursors ih =>
    rcases simulates.cons_inv with ⟨past, later⟩ | ⟨first, others, rfl, rfl, later⟩
    · have differs : other.samePlace (around.place cursor) = false := by
        simp [Cursor.samePlace, Surroundings.place]
        omega
      rw [List.any_cons, differs, ih later]
      rfl
    · rw [List.any_cons, List.any_cons, samePlace_place, ih later]

theorem distinct (simulates : Simulates around limit cursors alone) :
    Simulates around limit (Pattern.distinct cursors) (Pattern.distinct alone) := by
  induction cursors generalizing alone with
  | nil =>
    cases alone with
    | nil => rfl
    | cons => cases simulates
  | cons cursor cursors ih =>
    rw [Pattern.distinct]
    rcases simulates.cons_inv with ⟨past, later⟩ | ⟨first, others, rfl, rfl, later⟩
    · refine (upTo_cons_of_lt past).trans ?_
      rw [upTo, List.filter_filter, ← show upTo limit (Pattern.distinct cursors) = _ from ih later,
        upTo]
      refine List.filter_congr fun other _ => ?_
      by_cases inside : other.passed ≤ limit
      · have differs : other.samePlace cursor = false := by
          simp [Cursor.samePlace]
          omega
        simp [inside, differs]
      · simp [inside]
    · have inside := simulates.within first List.mem_cons_self
      refine (upTo_cons_of_le inside).trans ?_
      rw [Pattern.distinct, List.map_cons]
      exact congrArg _ ((ih later).filter fun other _ => by rw [samePlace_place])

end Simulates

section Repetition

variable {base : Cursor} {next : Cursor → List Cursor}

theorem upTo_foldl_behind {step : List Cursor → Cursor → List Cursor} {cursors found : List Cursor}
    (behind : ∀ cursor ∈ cursors, ∀ found, upTo limit (step found cursor) = upTo limit found) :
    upTo limit (cursors.foldl step found) = upTo limit found := by
  induction cursors generalizing found with
  | nil => rfl
  | cons cursor cursors ih =>
    obtain ⟨first, others⟩ := List.forall_mem_cons.mp behind
    rw [List.foldl_cons, ih others, first]

theorem upTo_collect_behind {depth : Nat} {found : List Cursor} {cursor : Cursor}
    (past : limit < cursor.passed) :
    upTo limit (collect next depth found cursor) = upTo limit found := by
  induction depth generalizing found cursor with
  | zero =>
    rw [collect]
    split
    · rfl
    · exact upTo_cons_of_lt past
  | succ depth ih =>
    rw [collect]
    split
    · rfl
    · refine (upTo_cons_of_lt past).trans (upTo_foldl_behind fun place member found => ih ?_)
      have further := of_decide_eq_true (List.mem_filter.mp member).2
      omega

theorem collect_of_end {depth : Nat} {found : List Cursor} {cursor : Cursor}
    (ended : ∀ place ∈ next cursor, place.passed ≤ cursor.passed) :
    collect next depth found cursor =
      if found.any (·.samePlace cursor) then found else cursor :: found := by
  cases depth with
  | zero => rfl
  | succ depth =>
    have nowhere : (next cursor).filter (cursor.passed < ·.passed) = [] := by
      simpa [List.filter_eq_nil_iff] using ended
    rw [collect, nowhere]
    rfl

/-- At the end of the text a search for repetitions adds no more than that place. -/
theorem upTo_collect_at_end {depth : Nat} {found : List Cursor} {cursor : Cursor}
    (ended : cursor.passed = limit) :
    upTo limit (collect next depth found cursor) =
      upTo limit (if found.any (·.samePlace cursor) then found else cursor :: found) := by
  cases depth with
  | zero => rfl
  | succ depth =>
    rw [collect]
    split
    · rfl
    · rw [upTo_cons_of_le (Nat.le_of_eq ended), upTo_cons_of_le (Nat.le_of_eq ended)]
      refine congrArg _ (upTo_foldl_behind fun place member found => upTo_collect_behind ?_)
      have further := of_decide_eq_true (List.mem_filter.mp member).2
      omega

variable (within : ∀ cursor, Coherent cursor (next cursor))

include within

theorem simulates_collect_at_end (total : base.passed + base.rest.length + around.shift = limit)
    {depth depthAlone : Nat} {cursor : Cursor} {found alone : List Cursor} {word : List Char}
    (leads : base.Leads word cursor) (ended : cursor.rest = [])
    (start : Simulates around limit found alone) :
    Simulates around limit (collect next depth found (around.place cursor))
      (collect next depthAlone alone cursor) := by
  have reached := leads.total
  rw [ended, List.length_nil] at reached
  have nowhere : ∀ place ∈ next cursor, place.passed ≤ cursor.passed := by
    intro place member
    obtain ⟨more, onward⟩ := within cursor place member
    have further := onward.total
    rw [ended, List.length_nil] at further
    omega
  have here : (around.place cursor).passed = limit := by
    simp only [Surroundings.place]
    omega
  rw [collect_of_end nowhere]
  refine (upTo_collect_at_end here).trans ?_
  rw [start.any_samePlace (Nat.le_of_eq here)]
  split
  · exact start
  · exact start.cons (Nat.le_of_eq here)

variable (each : ∀ cursor word, base.Leads word cursor →
  Simulates around limit (next (around.place cursor)) (next cursor))

include each

theorem simulates_collect (total : base.passed + base.rest.length + around.shift = limit)
    {depth depthAlone : Nat} {cursor : Cursor} {found alone : List Cursor} {word : List Char}
    (leads : base.Leads word cursor) (deep : cursor.rest.length + around.tail.length ≤ depth)
    (deepAlone : cursor.rest.length ≤ depthAlone) (start : Simulates around limit found alone) :
    Simulates around limit (collect next depth found (around.place cursor))
      (collect next depthAlone alone cursor) := by
  induction depth generalizing depthAlone cursor found alone word with
  | zero =>
    have ended : cursor.rest = [] := List.length_eq_zero_iff.mp (by omega)
    exact simulates_collect_at_end within total leads ended start
  | succ depth ih =>
    by_cases ended : cursor.rest = []
    · exact simulates_collect_at_end within total leads ended start
    · have some := List.length_pos_iff.mpr ended
      obtain ⟨depthAlone, rfl⟩ := Nat.exists_eq_add_one.mpr (Nat.lt_of_lt_of_le some deepAlone)
      have reached := leads.total
      have bound : cursor.passed + around.shift ≤ limit := by omega
      rw [collect, collect, start.any_samePlace bound]
      split
      · exact start
      · refine Simulates.cons ?_ bound
        have onward : Simulates around limit
            ((next (around.place cursor)).filter ((around.place cursor).passed < ·.passed))
            ((next cursor).filter (cursor.passed < ·.passed)) :=
          (each cursor word leads).filter fun place _ => by simp [Surroundings.place]
        refine onward.foldl (fun found place => upTo_collect_behind) ?_ start
        intro place member found alone simulates
        obtain ⟨present, further⟩ := List.mem_filter.mp member
        replace further := of_decide_eq_true further
        obtain ⟨more, onward⟩ := within cursor place present
        have left := onward.total
        exact ih (leads.trans onward) (by omega) (by omega) simulates

end Repetition

theorem passed_le_of_mem {pattern : Pattern} {cursor place : Cursor}
    (member : place ∈ pattern.endsFrom [cursor]) : cursor.passed ≤ place.passed := by
  obtain ⟨word, leads, -⟩ := pattern.exact.mem_single.mp member
  have := leads.passed
  omega

theorem upTo_ends_behind {pattern : Pattern} {cursor : Cursor} (past : limit < cursor.passed) :
    upTo limit (pattern.endsFrom [cursor]) = [] := by
  refine List.filter_eq_nil_iff.mpr fun place member => ?_
  have further := passed_le_of_mem member
  simp only [decide_eq_true_eq]
  omega

theorem endsFrom_char (accepts : Char → Bool) (cursors : List Cursor) :
    (char accepts).endsFrom cursors =
      cursors.flatMap fun cursor => (cursor.pass? accepts).toList := by
  rw [endsFrom]
  induction cursors with
  | nil => rfl
  | cons cursor cursors ih =>
    rw [List.filterMap_cons, List.flatMap_cons, ← ih]
    cases cursor.pass? accepts <;> rfl

theorem simulates_pass {accepts : Char → Bool} {cursor : Cursor}
    (total : cursor.passed + cursor.rest.length + around.shift = limit) :
    Simulates around limit ((around.place cursor).pass? accepts).toList
      (cursor.pass? accepts).toList := by
  obtain ⟨before, rest, passed⟩ := cursor
  cases rest with
  | nil =>
    have ended : passed + around.shift = limit := by simpa using total
    unfold Surroundings.place Cursor.pass?
    rw [List.nil_append]
    cases around.tail with
    | nil => rfl
    | cons c tail =>
      dsimp only
      split
      · exact upTo_cons_of_lt (by dsimp only; omega)
      · rfl
  | cons c rest =>
    simp only [List.length_cons] at total
    unfold Surroundings.place Cursor.pass?
    rw [List.cons_append]
    dsimp only
    split
    · refine (upTo_cons_of_le (by dsimp only; omega)).trans ?_
      simp [Surroundings.place, upTo, Nat.add_right_comm]
    · rfl

theorem simulates_endsFrom (separate : around.Separate) {pattern : Pattern}
    (indifferent : pattern.Indifferent) {base : Cursor} {cursors alone : List Cursor}
    (total : base.passed + base.rest.length + around.shift = limit)
    (coherent : Coherent base alone) (simulates : Simulates around limit cursors alone) :
    Simulates around limit (pattern.endsFrom cursors) (pattern.endsFrom alone) := by
  have single : ∀ {cursor : Cursor} {word : List Char}, base.Leads word cursor →
      Simulates around limit [around.place cursor] [cursor] := by
    intro cursor word leads
    have := leads.total
    refine (upTo_cons_of_le ?_).trans rfl
    simp only [Surroundings.place]
    omega
  induction pattern generalizing cursors alone with
  | fail => rfl
  | empty => exact simulates
  | char accepts =>
    rw [endsFrom_char, endsFrom_char]
    refine simulates.flatMap (fun cursor past => ?_) fun cursor member => ?_
    · simpa [endsFrom_char] using @upTo_ends_behind _ (char accepts) _ past
    · obtain ⟨word, leads⟩ := coherent cursor member
      exact simulates_pass (by rw [leads.total, total])
  | look holds =>
    rw [endsFrom, endsFrom]
    refine simulates.filter fun cursor member => ?_
    rw [Surroundings.place, Cursor.after, List.head?_append]
    exact indifferent _ _ _ _ separate.lead separate.neutral
  | seq first second ihFirst ihSecond =>
    exact ihSecond indifferent.2 (first.exact.coherent coherent)
      (ihFirst indifferent.1 coherent simulates)
  | either preferred other ihPreferred ihOther =>
    rw [endsFrom, endsFrom]
    refine (simulates.flatMap (fun cursor past => ?_) fun cursor member => ?_).distinct
    · rw [upTo, List.filter_append]
      exact List.append_eq_nil_iff.mpr ⟨upTo_ends_behind past, upTo_ends_behind past⟩
    · obtain ⟨word, leads⟩ := coherent cursor member
      have here := coherent_single leads
      exact (ihPreferred indifferent.1 here (single leads)).append
        (ihOther indifferent.2 here (single leads))
  | many body ih =>
    rw [endsFrom, endsFrom]
    have each : ∀ cursor word, base.Leads word cursor →
        Simulates around limit (body.endsFrom [around.place cursor]) (body.endsFrom [cursor]) := by
      intro cursor word leads
      exact ih indifferent (coherent_single leads) (single leads)
    have start : Simulates around limit [] [] := rfl
    have folded : Simulates around limit
        (cursors.foldl (fun found cursor =>
          collect (fun cursor => body.endsFrom [cursor]) cursor.rest.length found cursor) [])
        (alone.foldl (fun found cursor =>
          collect (fun cursor => body.endsFrom [cursor]) cursor.rest.length found cursor) []) := by
      refine simulates.foldl (fun found cursor past => upTo_collect_behind past) ?_ start
      intro cursor member found alone start
      obtain ⟨word, leads⟩ := coherent cursor member
      exact simulates_collect body.exact.within each total leads (by simp [Surroundings.place])
        (Nat.le_refl _) start
    unfold Simulates upTo at folded ⊢
    rw [List.filter_reverse, List.map_reverse, folded]

end Pattern

end PathQuery
