import PathQuery.Proofs.Regex.Places

/-!
What a regular expression matches. Main statements: `Regex.takes_reach`, a place is reached exactly
when a match leads to it, and `Regex.occursIn_iff`.
-/

namespace PathQuery

namespace Regex

/-- So many steps of a relation lead from one place to another. -/
def Repeats (step : Cursor → Cursor → Prop) : Nat → Cursor → Cursor → Prop
  | 0, first, last => last = first
  | count + 1, first, last => ∃ next, step first next ∧ Repeats step count next last

/-- The expression matches the text between two places. A repetition with a greatest number below
its least one has the least number. -/
def Spans : Regex → Cursor → Cursor → Prop
  | empty, first, last => last = first
  | set chars, first, last => first.pass? chars.contains = some last
  | look condition, first, last =>
      condition.holds first.before first.after = true ∧ last = first
  | group _ body, first, last => body.Spans first last
  | seq left right, first, last => ∃ between, left.Spans first between ∧ right.Spans between last
  | either left right, first, last => left.Spans first last ∨ right.Spans first last
  | repeated body least most, first, last =>
      ∃ count, least ≤ count ∧ (∀ bound ∈ most, count ≤ max least bound) ∧
        Repeats body.Spans count first last

section Steps

variable {step : Cursor → Cursor → Prop} {first between last : Cursor} {count more : Nat}
  {cs : List Char} {places found latest : List Cursor} {reached : List Cursor → List Cursor}

/-- A step leads from a place of a text to one that is not before it. -/
def Onward (cs : List Char) (step : Cursor → Cursor → Prop) : Prop :=
  ∀ first last, first.IsOf cs → step first last → last.IsOf cs ∧ first.passed ≤ last.passed

/-- A function on places takes each of them to where the steps from it lead. -/
def Takes (cs : List Char) (step : Cursor → Cursor → Prop) (reached : List Cursor → List Cursor) :
    Prop :=
  ∀ places, Cursor.Placed cs places → Cursor.Placed cs (reached places) ∧
    ∀ last, last ∈ reached places ↔ ∃ first ∈ places, step first last

theorem repeats_add : Repeats step (count + more) first last ↔
    ∃ between, Repeats step count first between ∧ Repeats step more between last := by
  induction count generalizing first with
  | zero =>
    rw [Nat.zero_add]
    constructor
    · exact fun leads => ⟨first, rfl, leads⟩
    · rintro ⟨_, rfl, leads⟩
      exact leads
  | succ count ih =>
    rw [Nat.succ_add]
    constructor
    · rintro ⟨next, steps, leads⟩
      obtain ⟨between, comes, goes⟩ := ih.mp leads
      exact ⟨between, ⟨next, steps, comes⟩, goes⟩
    · rintro ⟨between, ⟨next, steps, comes⟩, goes⟩
      exact ⟨next, steps, ih.mpr ⟨between, comes, goes⟩⟩

theorem Onward.repeats (onward : Onward cs step) (count : Nat) : Onward cs (Repeats step count) := by
  induction count with
  | zero =>
    rintro first _ is rfl
    exact ⟨is, Nat.le_refl _⟩
  | succ count ih =>
    rintro first last is ⟨next, steps, leads⟩
    obtain ⟨isNext, forth⟩ := onward first next is steps
    obtain ⟨isLast, further⟩ := ih next last isNext leads
    exact ⟨isLast, Nat.le_trans forth further⟩

/-- Steps that stay at a place can be left out, so there need be no more steps than characters. -/
theorem Onward.repeats_le (onward : Onward cs step) (is : first.IsOf cs)
    (leads : Repeats step count first last) :
    ∃ fewer ≤ count, fewer ≤ last.passed - first.passed ∧ Repeats step fewer first last := by
  induction count generalizing first with
  | zero => exact ⟨0, Nat.le_refl _, Nat.zero_le _, leads⟩
  | succ count ih =>
    obtain ⟨next, steps, leads⟩ := leads
    obtain ⟨isNext, forth⟩ := onward first next is steps
    obtain ⟨-, further⟩ := onward.repeats count next last isNext leads
    obtain ⟨fewer, le, small, leads⟩ := ih isNext leads
    rcases Nat.eq_or_lt_of_le forth with stays | moves
    · cases is.ext isNext stays
      exact ⟨fewer, Nat.le_succ_of_le le, small, leads⟩
    · exact ⟨fewer + 1, Nat.succ_le_succ le, by omega, next, steps, leads⟩

/-- Where a step leads from the places to the places themselves, so do several. -/
theorem mem_iff_repeats_of_fixed
    (fixed : ∀ last, last ∈ places ↔ ∃ first ∈ places, step first last) (count : Nat) :
    last ∈ places ↔ ∃ first ∈ places, Repeats step count first last := by
  induction count generalizing last with
  | zero =>
    constructor
    · exact fun member => ⟨last, member, rfl⟩
    · rintro ⟨_, member, rfl⟩
      exact member
  | succ count ih =>
    rw [ih]
    constructor
    · rintro ⟨next, member, leads⟩
      obtain ⟨first, isFirst, steps⟩ := (fixed next).mp member
      exact ⟨first, isFirst, next, steps, leads⟩
    · rintro ⟨first, member, next, steps, leads⟩
      exact ⟨next, (fixed next).mpr ⟨first, member, steps⟩, leads⟩

theorem takes_stay : Takes cs (fun first last => last = first) fun places => places := by
  refine fun places placed => ⟨placed, fun last => ⟨fun member => ⟨last, member, rfl⟩, ?_⟩⟩
  rintro ⟨_, member, rfl⟩
  exact member

theorem Takes.comp {further : Cursor → Cursor → Prop} {onward : List Cursor → List Cursor}
    (takes : Takes cs step reached) (later : Takes cs further onward) :
    Takes cs (fun first last => ∃ between, step first between ∧ further between last)
      fun places => onward (reached places) := by
  intro places placed
  obtain ⟨placedBetween, comes⟩ := takes places placed
  obtain ⟨placedLast, goes⟩ := later _ placedBetween
  refine ⟨placedLast, fun last => (goes last).trans ?_⟩
  constructor
  · rintro ⟨between, member, leads⟩
    obtain ⟨first, isFirst, steps⟩ := (comes between).mp member
    exact ⟨first, isFirst, between, steps, leads⟩
  · rintro ⟨first, member, between, steps, leads⟩
    exact ⟨between, (comes between).mpr ⟨first, member, steps⟩, leads⟩

theorem Takes.again (takes : Takes cs step reached) (count : Nat) :
    Takes cs (Repeats step count) (again reached count) := by
  induction count with
  | zero => exact takes_stay
  | succ count ih =>
    intro places placed
    obtain ⟨placedNext, leads⟩ := takes places placed
    unfold Regex.again
    dsimp only
    split
    · next same =>
      have fixed : reached places = places := placedNext.eq_of_passed placed (beq_iff_eq.mp same)
      rw [fixed] at leads
      exact ⟨placed, fun last => mem_iff_repeats_of_fixed leads (count + 1)⟩
    · exact takes.comp ih places placed

theorem mem_of_repeats (closed : ∀ place ∈ found, ∀ next, step place next → next ∈ found)
    (member : first ∈ found) (leads : Repeats step count first last) : last ∈ found := by
  induction count generalizing first with
  | zero =>
    cases leads
    exact member
  | succ count ih =>
    obtain ⟨next, steps, further⟩ := leads
    exact ih (closed first member next steps) further

/-- From the places that were found, other places are found only by way of the latest ones. -/
theorem Takes.spread (takes : Takes cs step reached) (count : Nat)
    (isFound : Cursor.Placed cs found) (isLatest : Cursor.Placed cs latest)
    (within : ∀ place ∈ latest, place ∈ found)
    (closed : ∀ place ∈ found, place ∉ latest → ∀ next, step place next → next ∈ found) :
    Cursor.Placed cs (spread reached count found latest) ∧ ∀ last,
      last ∈ spread reached count found latest ↔
        ∃ first ∈ found, ∃ steps ≤ count, Repeats step steps first last := by
  induction count generalizing found latest with
  | zero =>
    refine ⟨isFound, fun last => ⟨fun member => ⟨last, member, 0, Nat.le_refl _, rfl⟩, ?_⟩⟩
    rintro ⟨first, member, steps, le, leads⟩
    cases Nat.le_zero.mp le
    cases leads
    exact member
  | succ count ih =>
    obtain ⟨placedNext, leads⟩ := takes latest isLatest
    have isNew := placedNext.minus found
    have mem_new (place : Cursor) := @Cursor.mem_minus _ place _ _ placedNext isFound
    have isUnion := Cursor.placed_union isFound isNew
    have mem_union (place : Cursor) := @Cursor.mem_union _ place _ _ isFound isNew
    -- all that one step leads to has been found or is new
    have onward : ∀ place ∈ found, ∀ next, step place next →
        next ∈ found ∨ next ∈ Cursor.minus (reached latest) found := by
      intro place member next steps
      by_cases old : next ∈ found
      · exact .inl old
      · have recent : place ∈ latest :=
          Classical.not_not.mp fun outside => old (closed place member outside next steps)
        exact .inr ((mem_new next).mpr ⟨(leads next).mpr ⟨place, recent, steps⟩, old⟩)
    unfold Regex.spread
    split
    · next none =>
      simp only [none, List.not_mem_nil, or_false] at onward
      refine ⟨isFound, fun last => ⟨fun member => ⟨last, member, 0, Nat.zero_le _, rfl⟩, ?_⟩⟩
      rintro ⟨first, member, steps, -, leads⟩
      exact mem_of_repeats onward member leads
    · obtain ⟨placed, goes⟩ := ih isUnion isNew (fun place isNew => (mem_union place).mpr (.inr isNew))
        (by
          intro place member outside next steps
          rcases (mem_union place).mp member with old | isNew
          · exact (mem_union next).mpr (onward place old next steps)
          · exact absurd isNew outside)
      refine ⟨placed, fun last => ?_⟩
      rw [goes]
      constructor
      · rintro ⟨place, member, steps, le, further⟩
        rcases (mem_union place).mp member with old | isNew
        · exact ⟨place, old, steps, Nat.le_succ_of_le le, further⟩
        · obtain ⟨first, recent, moves⟩ := (leads place).mp ((mem_new place).mp isNew).1
          exact ⟨first, within first recent, steps + 1, Nat.succ_le_succ le, place, moves, further⟩
      · rintro ⟨first, member, steps, le, further⟩
        cases steps with
        | zero => exact ⟨first, (mem_union first).mpr (.inl member), 0, Nat.zero_le _, further⟩
        | succ steps =>
          obtain ⟨next, moves, further⟩ := further
          exact ⟨next, (mem_union next).mpr (onward first member next moves), steps,
            Nat.le_of_succ_le_succ le, further⟩

end Steps

variable {cs : List Char} {first last : Cursor} {places : List Cursor}

theorem spans_onward (regex : Regex) : Onward cs regex.Spans := by
  induction regex with
  | empty =>
    rintro first _ is rfl
    exact ⟨is, Nat.le_refl _⟩
  | set chars =>
    intro first last is passes
    obtain ⟨isLast, passed⟩ := is.pass passes
    exact ⟨isLast, passed ▸ Nat.le_succ _⟩
  | look condition =>
    rintro first _ is ⟨-, rfl⟩
    exact ⟨is, Nat.le_refl _⟩
  | group _ body ih => exact ih
  | seq left right ihLeft ihRight =>
    rintro first last is ⟨between, comes, goes⟩
    obtain ⟨isBetween, forth⟩ := ihLeft first between is comes
    obtain ⟨isLast, further⟩ := ihRight between last isBetween goes
    exact ⟨isLast, Nat.le_trans forth further⟩
  | either left right ihLeft ihRight =>
    rintro first last is (spans | spans)
    · exact ihLeft first last is spans
    · exact ihRight first last is spans
  | repeated body least most ih =>
    rintro first last is ⟨count, -, -, leads⟩
    exact ih.repeats count first last is leads

theorem length_rest_le_room (placed : Cursor.Placed cs places) (member : first ∈ places) :
    first.rest.length ≤ room places := by
  unfold room
  split
  · next nearest last =>
    obtain ⟨others, rfl⟩ := List.getLast?_eq_some_iff.mp last
    have size := (placed.2 first member).length_rest
    have least := (placed.2 nearest (by simp)).length_rest
    rcases List.mem_append.mp member with farther | same
    · have := (List.pairwise_append.mp placed.1).2.2 first farther nearest (List.mem_singleton_self _)
      omega
    · cases List.mem_singleton.mp same
      exact Nat.le_refl _
  · next none =>
    rw [List.getLast?_eq_none_iff.mp none] at member
    cases member

/-- Only as many repetitions as there are characters left can move on. -/
theorem repeats_within_room {regex : Regex} {count : Nat} (placed : Cursor.Placed cs places)
    (member : first ∈ places) (leads : Repeats regex.Spans count first last) :
    ∃ fewer ≤ room places, Repeats regex.Spans fewer first last := by
  have is := placed.2 first member
  obtain ⟨fewer, -, small, goes⟩ := (spans_onward regex).repeats_le is leads
  have space := length_rest_le_room placed member
  have within := ((spans_onward regex).repeats fewer first last is goes).1.passed_le
  have size := is.length_rest
  exact ⟨fewer, by omega, goes⟩

/-- From given places on, an expression reaches the places to which matches lead. -/
theorem takes_reach (regex : Regex) : Takes cs regex.Spans regex.reach := by
  induction regex with
  | empty => exact takes_stay
  | set chars =>
    intro places placed
    exact ⟨placed.pass _, fun last => List.mem_filterMap⟩
  | look condition =>
    intro places placed
    refine ⟨placed.filter _, fun last => ?_⟩
    rw [reach, List.mem_filter]
    constructor
    · rintro ⟨member, holds⟩
      exact ⟨last, member, holds, rfl⟩
    · rintro ⟨_, member, holds, rfl⟩
      exact ⟨member, holds⟩
  | group _ body ih => exact ih
  | seq left right ihLeft ihRight => exact ihLeft.comp ihRight
  | either left right ihLeft ihRight =>
    intro places placed
    obtain ⟨placedLeft, leads⟩ := ihLeft places placed
    obtain ⟨placedRight, leadsRight⟩ := ihRight places placed
    refine ⟨Cursor.placed_union placedLeft placedRight, fun last => ?_⟩
    rw [reach, Cursor.mem_union placedLeft placedRight, leads, leadsRight]
    simp only [Spans, and_or_left, exists_or]
  | repeated body least most ih =>
    intro places placed
    obtain ⟨begun, leads⟩ := ih.again least places placed
    have further := fun count => ih.spread count begun begun (fun _ => id) fun _ member outside =>
      absurd member outside
    refine ⟨(further _).1, fun last => ((further _).2 last).trans ?_⟩
    constructor
    · rintro ⟨between, member, steps, le, goes⟩
      obtain ⟨first, isFirst, comes⟩ := (leads between).mp member
      refine ⟨first, isFirst, least + steps, Nat.le_add_right _ _, ?_, repeats_add.mpr
        ⟨between, comes, goes⟩⟩
      rintro bound ⟨⟩
      dsimp only at le
      omega
    · rintro ⟨first, member, count, atLeast, atMost, goes⟩
      obtain ⟨more, rfl⟩ := Nat.exists_eq_add_of_le atLeast
      obtain ⟨between, comes, goes⟩ := repeats_add.mp goes
      have isBetween := (leads between).mpr ⟨first, member, comes⟩
      cases most with
      | some bound =>
        have := atMost bound rfl
        exact ⟨between, isBetween, more, by dsimp only; omega, goes⟩
      | none =>
        obtain ⟨fewer, within, goes⟩ := repeats_within_room begun isBetween goes
        exact ⟨between, isBetween, fewer, within, goes⟩

/-- Where a match of the expression may begin and end in a text. -/
theorem isEmpty_reach_places (regex : Regex) (cs : List Char) :
    (regex.reach (Cursor.start cs).places).isEmpty = false ↔
      ∃ first last, first.IsOf cs ∧ regex.Spans first last := by
  obtain ⟨placed, complete⟩ := Cursor.places_spec cs
  obtain ⟨-, leads⟩ := takes_reach regex _ placed
  rw [List.isEmpty_eq_false_iff_exists_mem]
  simp only [leads, complete]
  exact ⟨fun ⟨last, first, is, spans⟩ => ⟨first, last, is, spans⟩,
    fun ⟨first, last, is, spans⟩ => ⟨last, first, is, spans⟩⟩

/-- Steps that are each some steps of another relation are so many of those. -/
theorem repeats_of_repeats {step : Cursor → Cursor → Prop} {least count : Nat} {most : Option Nat}
    (leads : Repeats (fun first last => ∃ count, least ≤ count ∧
      (∀ bound ∈ most, count ≤ max least bound) ∧ Repeats step count first last) count first last) :
    ∃ total, count * least ≤ total ∧ (∀ bound ∈ most, total ≤ count * max least bound) ∧
      Repeats step total first last := by
  induction count generalizing first with
  | zero => exact ⟨0, by omega, by omega, leads⟩
  | succ count ih =>
    obtain ⟨next, ⟨inner, atLeast, atMost, comes⟩, goes⟩ := leads
    obtain ⟨total, many, few, goes⟩ := ih goes
    refine ⟨inner + total, ?_, fun bound member => ?_, repeats_add.mpr ⟨next, comes, goes⟩⟩
    · rw [Nat.succ_mul]
      omega
    · have := atMost bound member
      have := few bound member
      rw [Nat.succ_mul]
      omega

theorem Repeats.imp {step other : Cursor → Cursor → Prop}
    (implies : ∀ first last, step first last → other first last) {count : Nat}
    (leads : Repeats step count first last) : Repeats other count first last := by
  induction count generalizing first with
  | zero => exact leads
  | succ count ih =>
    obtain ⟨next, steps, goes⟩ := leads
    exact ⟨next, implies first next steps, ih goes⟩

theorem spans_loop (body : Regex) (least : Nat) (most : Option Nat) :
    (body.loop least most).Spans = (repeated body least most).Spans := by
  unfold loop
  dsimp only
  split
  · next inner innerLeast innerMost =>
    split
    · next simple =>
      simp only [Bool.and_eq_true, decide_eq_true_eq, Option.all_eq_true, beq_iff_eq] at simple
      obtain ⟨⟨small, only⟩, innerSmall, innerOnly⟩ := simple
      funext first last
      refine propext ⟨?_, ?_⟩
      · rintro ⟨count, atLeast, atMost, leads⟩
        have one {first last : Cursor} (steps : inner.Spans first last) :
            (repeated inner innerLeast innerMost).Spans first last :=
          ⟨1, innerSmall, fun bound member => by rw [innerOnly bound member]; omega, last, steps, rfl⟩
        cases most with
        | none =>
          by_cases enough : least ≤ count
          · exact ⟨count, enough, nofun, leads.imp fun _ _ => one⟩
          · obtain ⟨rfl, rfl⟩ : least = 1 ∧ count = 0 := by omega
            exact ⟨1, Nat.le_refl 1, nofun, first, ⟨0, by omega, by omega, rfl⟩, leads⟩
        | some bound =>
          obtain rfl := only bound rfl
          by_cases enough : innerLeast ≤ count
          · have once : ∀ bound ∈ some 1, 1 ≤ max least bound := fun bound member =>
              Nat.le_trans (Nat.le_of_eq (only bound member).symm) (Nat.le_max_right _ _)
            refine ⟨1, small, once, last, ⟨count, enough, fun bound member => ?_, leads⟩, rfl⟩
            have := innerOnly bound member
            have := atMost bound member
            have : least * innerLeast ≤ 1 * 1 := Nat.mul_le_mul small innerSmall
            omega
          · obtain ⟨rfl, rfl⟩ : innerLeast = 1 ∧ count = 0 := by omega
            exact ⟨0, by omega, by omega, leads⟩
      · rintro ⟨count, atLeast, atMost, leads⟩
        obtain ⟨total, many, few, leads⟩ := repeats_of_repeats leads
        refine ⟨total, Nat.le_trans (Nat.mul_le_mul_right _ atLeast) many, ?_, leads⟩
        intro bound member
        obtain ⟨outer, isOuter, isInner⟩ := Option.bind_eq_some_iff.mp member
        have once := only outer isOuter
        have innerOnce := innerOnly bound isInner
        have atMost := atMost outer isOuter
        have few := few bound isInner
        rw [innerOnce, Nat.max_eq_right innerSmall, Nat.mul_one] at few
        omega
    · rfl
  · rfl

/-- Without groups and with simple repetitions made one, an expression matches the same. -/
theorem spans_reduced (regex : Regex) : regex.reduced.Spans = regex.Spans := by
  induction regex with
  | empty | set | look => rfl
  | group _ body ih => exact ih
  | seq left right ihLeft ihRight =>
    funext first last
    simp only [reduced, Spans, ihLeft, ihRight]
  | either left right ihLeft ihRight =>
    funext first last
    simp only [reduced, Spans, ihLeft, ihRight]
  | repeated body least most ih =>
    rw [reduced, spans_loop]
    funext first last
    simp only [Spans, ih]

/-- The expression matches a part of the text. -/
theorem occursIn_iff (regex : Regex) (cs : List Char) :
    regex.occursIn cs = true ↔ ∃ first last, first.IsOf cs ∧ regex.Spans first last := by
  unfold occursIn
  rw [Bool.not_eq_true', isEmpty_reach_places, spans_reduced]

/-- The expression matches the whole of the text. -/
def MatchesWhole (regex : Regex) (cs : List Char) : Prop :=
  ∃ last, regex.Spans (Cursor.start cs) last ∧ last.rest = []

/-- Between the anchors of a text an expression occurs in what it matches as a whole. -/
theorem occursIn_anchored (number : Option Nat) (body : Regex) (cs : List Char) :
    (seq (look .textStart) (seq (group number body) (look .textStop))).occursIn cs = true ↔
      body.MatchesWhole cs := by
  rw [occursIn_iff]
  constructor
  · rintro ⟨first, last, is, _, ⟨starts, rfl⟩, _, spans, stops, rfl⟩
    cases is.before_eq_none_iff.mp (Option.isNone_iff_eq_none.mp starts)
    exact ⟨last, spans, List.head?_eq_none_iff.mp (Option.isNone_iff_eq_none.mp stops)⟩
  · rintro ⟨last, spans, stops⟩
    refine ⟨Cursor.start cs, last, Cursor.isOf_start cs, _, ⟨rfl, rfl⟩, last, spans, ?_, rfl⟩
    exact Option.isNone_iff_eq_none.mpr (List.head?_eq_none_iff.mpr stops)

end Regex

end PathQuery
