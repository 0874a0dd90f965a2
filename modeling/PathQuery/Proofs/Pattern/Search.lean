import PathQuery.Proofs.Pattern

/-!
Patterns as searches. The first place with a property, among those where matches end, is the one that
a search by backtracking comes to: it tries one alternative after the other, and repeats before it
goes on. Main statement: `findSome_endsFrom`.
-/

namespace PathQuery.Pattern

theorem findSome_eq_find {α β : Type} (result : α → Option β) (values : List α) :
    values.findSome? result =
      (values.find? fun value => (result value).isSome).bind result := by
  induction values with
  | nil => rfl
  | cons value values ih =>
    rw [List.findSome?_cons, List.find?_cons]
    cases found : result value with
    | none => simpa using ih
    | some => simp [found]

theorem findSome_filterMap {α β γ : Type} (result : β → Option γ) (f : α → Option β)
    (values : List α) :
    (values.filterMap f).findSome? result = values.findSome? fun value => (f value).bind result := by
  induction values with
  | nil => rfl
  | cons value values ih =>
    rw [List.filterMap_cons, List.findSome?_cons]
    cases f value with
    | none => exact ih
    | some other =>
      rw [Option.bind_some, ← ih]
      rfl

theorem findSome_flatMap {α β γ : Type} (result : β → Option γ) (f : α → List β)
    (values : List α) :
    (values.flatMap f).findSome? result = values.findSome? fun value => (f value).findSome? result := by
  induction values with
  | nil => rfl
  | cons value values ih =>
    rw [List.flatMap_cons, List.findSome?_append, ih, List.findSome?_cons]
    cases (f value).findSome? result <;> rfl

theorem find_distinct {base : Cursor} {cursors : List Cursor} (coherent : Coherent base cursors)
    (keep : Cursor → Bool) : (distinct cursors).find? keep = cursors.find? keep := by
  induction cursors with
  | nil => rfl
  | cons cursor cursors ih =>
    have tail : Coherent base cursors := fun place member =>
      coherent place (List.mem_cons_of_mem _ member)
    rw [distinct, List.find?_cons, List.find?_cons, ← ih tail]
    cases kept : keep cursor with
    | true => rfl
    | false =>
      -- What is dropped is the first place again, which is not kept.
      have dropped : ∀ other ∈ distinct cursors, other.samePlace cursor = true →
          keep other = false := by
        intro other member same
        have early := (mem_distinct tail).mp member
        rwa [tail.eq coherent early List.mem_cons_self same]
      rw [← List.head?_filter, ← List.head?_filter, List.filter_filter]
      refine congrArg List.head? (List.filter_congr fun other member => ?_)
      cases same : other.samePlace cursor with
      | true => simp [dropped other member same]
      | false => simp

section Repetition

variable {β : Type} {next : Cursor → List Cursor} {base : Cursor} {result : Cursor → Option β}

/-- Tries what repetitions lead to before the place itself. -/
def search (next : Cursor → List Cursor) (result : Cursor → Option β) : Nat → Cursor → Option β
  | 0, cursor => result cursor
  | depth + 1, cursor =>
      (((next cursor).filter (cursor.passed < ·.passed)).findSome? (search next result depth)).or
        (result cursor)

/-- From places that were tried in vain nothing is found any more. -/
theorem search_of_tried {found : List Cursor} (tried : ∀ cursor ∈ found, result cursor = none)
    (closed : Closed next found) {depth : Nat} {cursor : Cursor} (member : cursor ∈ found) :
    search next result depth cursor = none := by
  induction depth generalizing cursor with
  | zero => exact tried cursor member
  | succ depth ih =>
    rw [search, tried cursor member, Option.or_none]
    refine List.findSome?_eq_none_iff.mpr fun place onward => ih (closed cursor member place ?_)
    obtain ⟨present, further⟩ := List.mem_filter.mp onward
    exact ⟨present, of_decide_eq_true further⟩

theorem foldl_suffix {step : List Cursor → Cursor → List Cursor}
    (grows : ∀ found start, found <:+ step found start) (starts found : List Cursor) :
    found <:+ starts.foldl step found := by
  induction starts generalizing found with
  | nil => exact List.suffix_refl found
  | cons start starts ih => exact (grows found start).trans (ih (step found start))

theorem collect_suffix (depth : Nat) (found : List Cursor) (cursor : Cursor) :
    found <:+ collect next depth found cursor := by
  induction depth generalizing found cursor with
  | zero =>
    rw [collect]
    split
    · exact List.suffix_refl found
    · exact List.suffix_cons cursor found
  | succ depth ih =>
    rw [collect]
    split
    · exact List.suffix_refl found
    · exact (foldl_suffix ih _ found).trans (List.suffix_cons cursor _)

theorem findSome_foldl {step : List Cursor → Cursor → List Cursor} {first : Cursor → Option β}
    {starts found : List Cursor}
    (steps : ∀ start ∈ starts, ∀ found, Coherent base found → Closed next found →
      Collected next base [start] found (step found start))
    (grows : ∀ found start, found <:+ step found start)
    (finds : ∀ start ∈ starts, ∀ found, Coherent base found → Closed next found →
      (∀ cursor ∈ found, result cursor = none) →
      (step found start).reverse.findSome? result = first start)
    (coherent : Coherent base found) (closed : Closed next found)
    (tried : ∀ cursor ∈ found, result cursor = none) :
    (starts.foldl step found).reverse.findSome? result = starts.findSome? first := by
  induction starts generalizing found with
  | nil => exact List.findSome?_eq_none_iff.mpr (by simpa using tried)
  | cons start starts ih =>
    have one := steps start List.mem_cons_self found coherent closed
    have here := finds start List.mem_cons_self found coherent closed tried
    rw [List.foldl_cons, List.findSome?_cons]
    cases value : first start with
    | some value' =>
      -- what comes later is tried later
      obtain ⟨more, later⟩ := foldl_suffix grows starts (step found start)
      rw [← later, List.reverse_append, List.findSome?_append, here, value]
      rfl
    | none =>
      rw [value] at here
      refine ih (fun other member => steps other (List.mem_cons_of_mem _ member))
        (fun other member => finds other (List.mem_cons_of_mem _ member)) one.coherent one.closed ?_
      simpa using List.findSome?_eq_none_iff.mp here

theorem findSome_of_any {depth : Nat} {cursor : Cursor} {found : List Cursor} {word : List Char}
    (leads : base.Leads word cursor) (coherent : Coherent base found) (closed : Closed next found)
    (tried : ∀ cursor ∈ found, result cursor = none)
    (present : found.any (·.samePlace cursor) = true) :
    found.reverse.findSome? result = search next result depth cursor := by
  rw [search_of_tried tried closed (coherent.mem_of_any leads present)]
  exact List.findSome?_eq_none_iff.mpr (by simpa using tried)

variable (within : ∀ cursor, Coherent cursor (next cursor))

include within

theorem findSome_collect {depth : Nat} {cursor : Cursor} {found : List Cursor} {word : List Char}
    (leads : base.Leads word cursor) (deep : cursor.rest.length ≤ depth)
    (coherent : Coherent base found) (closed : Closed next found)
    (tried : ∀ cursor ∈ found, result cursor = none) :
    (collect next depth found cursor).reverse.findSome? result =
      search next result depth cursor := by
  induction depth generalizing cursor found word with
  | zero =>
    rw [collect]
    split
    · exact findSome_of_any leads coherent closed tried ‹_›
    · have before : found.reverse.findSome? result = none :=
        List.findSome?_eq_none_iff.mpr (by simpa using tried)
      rw [List.reverse_cons, List.findSome?_append, before]
      simp [search]
  | succ depth ih =>
    rw [collect]
    split
    · exact findSome_of_any leads coherent closed tried ‹_›
    · have deeper : ∀ start ∈ (next cursor).filter (cursor.passed < ·.passed),
          ∃ more, base.Leads (word ++ more) start ∧ start.rest.length ≤ depth := by
        intro start member
        obtain ⟨present, further⟩ := List.mem_filter.mp member
        obtain ⟨more, onward⟩ := within cursor start present
        have total := onward.total
        have further := of_decide_eq_true further
        exact ⟨more, leads.trans onward, by omega⟩
      have tries : (((next cursor).filter (cursor.passed < ·.passed)).foldl (collect next depth)
          found).reverse.findSome? result =
            ((next cursor).filter (cursor.passed < ·.passed)).findSome? (search next result depth) := by
        refine findSome_foldl (fun start member found coherent closed => ?_)
          (collect_suffix depth) (fun start member found coherent closed tried => ?_) coherent closed
          tried
        · obtain ⟨more, leads, deep⟩ := deeper start member
          exact collected_collect within leads deep coherent closed
        · obtain ⟨more, leads, deep⟩ := deeper start member
          exact ih leads deep coherent closed tried
      rw [List.reverse_cons, List.findSome?_append, tries, search]
      simp

/-- Repetitions from several places are tried from one after the other. -/
theorem findSome_collected {starts : List Cursor} (coherent : Coherent base starts) :
    (starts.foldl (fun found start => collect next start.rest.length found start)
        []).reverse.findSome? result =
      starts.findSome? fun start => search next result start.rest.length start := by
  refine @findSome_foldl _ next base result _ _ _ _ (fun start member found unified closed => ?_)
    (fun found start => collect_suffix _ found start)
    (fun start member found unified closed tried => ?_) (by simp [Coherent]) (by simp [Closed])
    (by simp)
  · obtain ⟨word, leads⟩ := coherent start member
    exact collected_collect within leads (Nat.le_refl _) unified closed
  · obtain ⟨word, leads⟩ := coherent start member
    exact findSome_collect within leads (Nat.le_refl _) unified closed tried

end Repetition

section Search

variable {β : Type} {cursor place : Cursor}

theorem findSome_distinct {base : Cursor} {cursors : List Cursor} (coherent : Coherent base cursors)
    (result : Cursor → Option β) :
    (distinct cursors).findSome? result = cursors.findSome? result := by
  rw [findSome_eq_find, findSome_eq_find, find_distinct coherent]

theorem findSome_many (body : Pattern) (cursor : Cursor) (result : Cursor → Option β) :
    ((many body).ends cursor).findSome? result =
      search body.ends result cursor.rest.length cursor := by
  have within : ∀ place, Coherent place (body.ends place) := body.exact.within
  exact (findSome_collected within (coherent_single (.refl cursor))).trans (by simp)

theorem findSome_either (preferred other : Pattern) (cursor : Cursor) (result : Cursor → Option β) :
    ((either preferred other).ends cursor).findSome? result =
      ((preferred.ends cursor).findSome? result).or ((other.ends cursor).findSome? result) := by
  have coherent : Coherent cursor (preferred.ends cursor ++ other.ends cursor) :=
    (preferred.exact.within cursor).append (other.exact.within cursor)
  rw [ends, endsFrom, List.flatMap_singleton]
  exact (findSome_distinct coherent result).trans List.findSome?_append

theorem find_either {preferred other : Pattern} (cursor : Cursor) (keep : Cursor → Bool) :
    ((either preferred other).ends cursor).find? keep =
      ((preferred.ends cursor).find? keep).or ((other.ends cursor).find? keep) := by
  simp only [List.find?_eq_findSome?_guard, findSome_either]

/-- What is found from several places is found from the first of them from which anything is. -/
theorem findSome_endsFrom (pattern : Pattern) {base : Cursor} {cursors : List Cursor}
    (coherent : Coherent base cursors) (result : Cursor → Option β) :
    (pattern.endsFrom cursors).findSome? result =
      cursors.findSome? fun cursor => (pattern.ends cursor).findSome? result := by
  induction pattern generalizing base cursors result with
  | fail => exact (List.findSome?_eq_none_iff.mpr fun _ _ => rfl).symm
  | empty => simp [endsFrom, ends]
  | char accepts =>
    rw [endsFrom, findSome_filterMap]
    refine congrArg₂ List.findSome? (funext fun cursor => ?_) rfl
    rw [ends, endsFrom, findSome_filterMap]
    simp
  | look holds =>
    rw [endsFrom, ← List.filterMap_eq_filter, findSome_filterMap]
    refine congrArg₂ List.findSome? (funext fun cursor => ?_) rfl
    rw [ends, endsFrom, ← List.filterMap_eq_filter, findSome_filterMap]
    simp
  | seq first second ihFirst ihSecond =>
    rw [endsFrom, ihSecond (first.exact.coherent coherent), ihFirst coherent]
    refine congrArg₂ List.findSome? (funext fun cursor => ?_) rfl
    exact (ihSecond (first.exact.within cursor) result).symm
  | either preferred other =>
    have all : Coherent base (cursors.flatMap fun cursor =>
        preferred.ends cursor ++ other.ends cursor) :=
      coherent.flatMap fun cursor =>
        (preferred.exact.within cursor).append (other.exact.within cursor)
    rw [endsFrom]
    refine (findSome_distinct all result).trans ?_
    rw [findSome_flatMap]
    refine congrArg₂ List.findSome? (funext fun cursor => ?_) rfl
    rw [findSome_either, List.findSome?_append]
  | many body =>
    simp only [findSome_many]
    exact findSome_collected body.exact.within coherent

/-- A sequence is tried behind each place where its first part ends. -/
theorem findSome_seq (first second : Pattern) (cursor : Cursor) (result : Cursor → Option β) :
    ((seq first second).ends cursor).findSome? result =
      (first.ends cursor).findSome? fun place => (second.ends place).findSome? result :=
  second.findSome_endsFrom (first.exact.within cursor) result

section Preference

variable {next : Cursor → List Cursor} {result : Cursor → Option β} {value : β} {depth : Nat}

theorem result_of_search (nothing : search next result depth cursor = none) :
    result cursor = none := by
  cases depth with
  | zero => exact nothing
  | succ depth => exact (Option.or_eq_none_iff.mp nothing).2

/-- What repetitions find is found at the start, or is the first that one repetition finds from some
place. -/
theorem search_cases (found : search next result depth cursor = some value) :
    result cursor = some value ∨
      ∃ start, Relation.ReflTransGen (Onward next) cursor start ∧
        ((next start).filter (start.passed < ·.passed)).findSome? result = some value := by
  induction depth generalizing cursor with
  | zero => exact .inl found
  | succ depth ih =>
    rcases Option.or_eq_some_iff.mp found with tried | ⟨-, here⟩
    · right
      obtain ⟨front, place, behind, split, found, nothing⟩ := List.findSome?_eq_some_iff.mp tried
      have onward : Onward next cursor place := by
        obtain ⟨member, further⟩ := List.mem_filter.mp
          (show place ∈ (next cursor).filter (cursor.passed < ·.passed) by simp [split])
        exact ⟨member, of_decide_eq_true further⟩
      rcases ih found with here | ⟨start, reached, first⟩
      · refine ⟨cursor, .refl, List.findSome?_eq_some_iff.mpr ⟨front, place, behind, split, here, ?_⟩⟩
        exact fun other member => result_of_search (nothing other member)
      · exact ⟨start, .head onward reached, first⟩
    · exact .inl here

/-- What is found behind repetitions is found behind the last of them, and from where that begins
nothing is found earlier. -/
theorem last_of_oneOrMore {body : Pattern} (solid : body.nullable = false)
    (found : ((oneOrMore body).ends cursor).findSome? result = some value) :
    ∃ start front, cursor.Leads front start ∧ (body.ends start).findSome? result = some value := by
  rw [oneOrMore, findSome_seq] at found
  simp only [findSome_many] at found
  obtain ⟨front, first, behind, split, found, nothing⟩ := List.findSome?_eq_some_iff.mp found
  rcases search_cases found with here | ⟨start, path, last⟩
  · refine ⟨cursor, [], .refl cursor, List.findSome?_eq_some_iff.mpr ⟨front, first, behind, split,
      here, fun other member => result_of_search (nothing other member)⟩⟩
  · obtain ⟨word, leads, -⟩ := mem_ends_iff.mp
      (show first ∈ body.ends cursor by simp [split])
    obtain ⟨more, further, -⟩ := spans_of_onward body.exact path
    rw [List.filter_eq_self.mpr] at last
    · exact ⟨start, word ++ more, leads.trans further, last⟩
    · intro place member
      obtain ⟨again, onward, spans⟩ := mem_ends_iff.mp member
      have nonempty : again ≠ [] := by
        rintro rfl
        rw [nullable_of_spans spans] at solid
        cases solid
      have passed := onward.passed
      have positive := List.length_pos_iff.mpr nonempty
      exact decide_eq_true (by omega)

variable {accepts : Char → Bool}

theorem ends_char (accepts : Char → Bool) (cursor : Cursor) :
    (char accepts).ends cursor = (cursor.pass? accepts).toList := by
  rw [ends, endsFrom, List.filterMap_cons, List.filterMap_nil]
  cases cursor.pass? accepts <;> rfl

theorem search_char (before : Option Char) (c : Char) (rest : List Char) (passed : Nat) :
    search (char accepts).ends result (depth + 1) ⟨before, c :: rest, passed⟩ =
      if accepts c then
        (search (char accepts).ends result depth ⟨some c, rest, passed + 1⟩).or
          (result ⟨before, c :: rest, passed⟩)
      else result ⟨before, c :: rest, passed⟩ := by
  rw [search, ends_char]
  show ((((if accepts c then some _ else none : Option Cursor).toList).filter _).findSome? _).or _ = _
  split <;> simp

theorem search_at_end (before : Option Char) (passed depth : Nat) :
    search (char accepts).ends result depth ⟨before, [], passed⟩ = result ⟨before, [], passed⟩ := by
  cases depth with
  | zero => rfl
  | succ depth =>
    rw [search, ends_char]
    rfl

theorem result_of_run {word : List Char} (deep : cursor.rest.length ≤ depth)
    (nothing : search (char accepts).ends result depth cursor = none) (leads : cursor.Leads word place)
    (run : ∀ c ∈ word, accepts c = true) : result place = none := by
  induction word generalizing cursor depth with
  | nil =>
    rw [(leads.eq_of_passed (.refl cursor) leads.passed).1]
    exact result_of_search nothing
  | cons c word ih =>
    obtain ⟨middle, step, further⟩ := Cursor.Leads.split (show cursor.Leads ([c] ++ word) place from leads)
    obtain ⟨before, rest, passed, rfl, rfl⟩ := step.eq_of_leads
    obtain ⟨accepted, others⟩ := List.forall_mem_cons.mp run
    cases depth with
    | zero => simp at deep
    | succ depth =>
      rw [List.singleton_append, search_char, if_pos accepted] at nothing
      exact ih (by simpa using deep) (Option.or_eq_none_iff.mp nothing).1 further others

/-- The longest run with a result is preferred. -/
theorem search_run (deep : cursor.rest.length ≤ depth)
    (found : search (char accepts).ends result depth cursor = some value) :
    ∃ word place, cursor.Leads word place ∧ result place = some value ∧
      ∀ more after, place.Leads more after → more ≠ [] → (∀ c ∈ more, accepts c = true) →
        result after = none := by
  obtain ⟨before, rest, passed⟩ := cursor
  induction rest generalizing before passed depth with
  | nil =>
    rw [search_at_end] at found
    refine ⟨[], _, .refl _, found, fun more after leads some _ => ?_⟩
    exact absurd (List.append_eq_nil_iff.mp (show [] = more ++ after.rest from leads.rest).symm).1 some
  | cons c rest ih =>
    have step : Cursor.Leads ⟨before, c :: rest, passed⟩ [c] ⟨some c, rest, passed + 1⟩ :=
      ⟨rfl, rfl, rfl⟩
    obtain ⟨depth, rfl⟩ : ∃ less, depth = less + 1 := by
      simp only [List.length_cons] at deep
      exact ⟨depth - 1, by omega⟩
    have less : rest.length ≤ depth := by simpa using deep
    have stay : (accepts c = true →
        search (char accepts).ends result depth ⟨some c, rest, passed + 1⟩ = none) →
        result ⟨before, c :: rest, passed⟩ = some value →
        ∃ word place, Cursor.Leads ⟨before, c :: rest, passed⟩ word place ∧
          result place = some value ∧ ∀ more after, place.Leads more after → more ≠ [] →
            (∀ c ∈ more, accepts c = true) → result after = none := by
      intro nothing here
      refine ⟨[], _, .refl _, here, fun more after leads some run => ?_⟩
      obtain ⟨d, more, rfl⟩ := List.exists_cons_of_ne_nil some
      obtain ⟨accepted, others⟩ := List.forall_mem_cons.mp run
      obtain ⟨middle, first, further⟩ :=
        Cursor.Leads.split (show Cursor.Leads _ ([d] ++ more) after from leads)
      obtain ⟨rfl, same⟩ := step.eq_of_passed first (step.passed.trans first.passed.symm)
      cases same
      exact result_of_run less (nothing accepted) further others
    rw [search_char] at found
    by_cases accepted : accepts c = true
    · rw [if_pos accepted] at found
      rcases Option.or_eq_some_iff.mp found with later | ⟨nothing, here⟩
      · obtain ⟨word, place, leads, found, longest⟩ := ih _ _ less later
        exact ⟨c :: word, place, step.trans leads, found, longest⟩
      · exact stay (fun _ => nothing) here
    · rw [if_neg accepted] at found
      exact stay (fun taken => absurd taken accepted) found

end Preference

end Search

end PathQuery.Pattern
