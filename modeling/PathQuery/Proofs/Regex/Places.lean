import PathQuery.Regex

/-!
Places of a text. Main statements: `Cursor.mem_union` and `Cursor.mem_minus`, lists of places that
are in order stand for sets of places, and `Cursor.places_spec`, all places of a text are listed.
-/

namespace PathQuery

namespace Cursor

variable {cs : List Char} {cursor other : Cursor} {left right places : List Cursor}

/-- A cursor is at a place of a text. -/
structure IsOf (cs : List Char) (cursor : Cursor) : Prop where
  before : cursor.before = (cs.take cursor.passed).getLast?
  rest : cursor.rest = cs.drop cursor.passed
  passed_le : cursor.passed ≤ cs.length

theorem IsOf.ext (first : cursor.IsOf cs) (second : other.IsOf cs)
    (same : cursor.passed = other.passed) : cursor = other := by
  have before : cursor.before = other.before := by
    rw [first.before, second.before, same]
  have rest : cursor.rest = other.rest := by
    rw [first.rest, second.rest, same]
  cases cursor
  cases other
  cases before
  cases rest
  cases same
  rfl

theorem IsOf.length_rest (is : cursor.IsOf cs) :
    cursor.passed + cursor.rest.length = cs.length := by
  have := is.passed_le
  rw [is.rest, List.length_drop]
  omega

theorem isOf_start (cs : List Char) : (start cs).IsOf cs :=
  ⟨rfl, rfl, Nat.zero_le _⟩

theorem IsOf.before_eq_none_iff (is : cursor.IsOf cs) :
    cursor.before = none ↔ cursor = start cs := by
  constructor
  · intro none
    rw [is.before, List.getLast?_eq_none_iff, List.take_eq_nil_iff] at none
    refine is.ext (isOf_start cs) ?_
    rcases none with zero | rfl
    · exact zero
    · exact Nat.le_zero.mp is.passed_le
  · rintro rfl
    rfl

/-- A character is passed. -/
theorem pass_eq_some_iff {accepts : Char → Bool} :
    cursor.pass? accepts = some other ↔ ∃ c rest, cursor.rest = c :: rest ∧ accepts c = true ∧
      other = ⟨some c, rest, cursor.passed + 1⟩ := by
  unfold pass?
  split
  · next none => simp [none]
  · next c rest here =>
    rw [Option.ite_none_right_eq_some, here]
    constructor
    · rintro ⟨accepted, came⟩
      exact ⟨c, rest, rfl, accepted, (Option.some.inj came).symm⟩
    · rintro ⟨_, _, ⟨⟩, accepted, rfl⟩
      exact ⟨accepted, rfl⟩

theorem IsOf.pass {accepts : Char → Bool} (is : cursor.IsOf cs)
    (passes : cursor.pass? accepts = some other) :
    other.IsOf cs ∧ other.passed = cursor.passed + 1 := by
  obtain ⟨c, rest, here, -, rfl⟩ := pass_eq_some_iff.mp passes
  have size := is.length_rest
  rw [here, List.length_cons] at size
  have dropped : c :: rest = cs.drop cursor.passed := here ▸ is.rest
  refine ⟨⟨?_, ?_, ?_⟩, rfl⟩
  · have this : cs[cursor.passed]? = some c := by
      rw [← List.head?_drop, ← dropped]
      rfl
    rw [List.take_add_one, this]
    simp
  · rw [← List.tail_drop, ← dropped]
    rfl
  · dsimp only
    omega

/-- Places of a text, the farthest first. -/
def Placed (cs : List Char) (places : List Cursor) : Prop :=
  places.Pairwise (fun farther nearer => nearer.passed < farther.passed) ∧
    ∀ cursor ∈ places, cursor.IsOf cs

theorem Placed.filter (placed : Placed cs places) (keep : Cursor → Bool) :
    Placed cs (places.filter keep) :=
  ⟨placed.1.filter keep, fun cursor member => placed.2 cursor ((List.mem_filter.mp member).1)⟩

theorem Placed.pass (placed : Placed cs places) (accepts : Char → Bool) :
    Placed cs (places.filterMap (pass? accepts)) := by
  constructor
  · refine List.pairwise_filterMap.mpr (placed.1.imp_of_mem ?_)
    intro farther nearer isFarther isNearer lt next passes other leads
    rw [((placed.2 farther isFarther).pass passes).2, ((placed.2 nearer isNearer).pass leads).2]
    exact Nat.succ_lt_succ lt
  · intro other member
    obtain ⟨cursor, isPlace, passes⟩ := List.mem_filterMap.mp member
    exact ((placed.2 cursor isPlace).pass passes).1

theorem Placed.tail {places : List Cursor} (placed : Placed cs (cursor :: places)) :
    Placed cs places :=
  ⟨(List.pairwise_cons.mp placed.1).2, fun other member =>
    placed.2 other (List.mem_cons_of_mem _ member)⟩

/-- A place that is farther than the first one is none of the places. -/
theorem Placed.not_mem {first : Cursor} (placed : Placed cs (first :: places))
    (farther : first.passed < cursor.passed) : cursor ∉ first :: places := by
  intro member
  rcases List.mem_cons.mp member with rfl | later
  · exact Nat.lt_irrefl _ farther
  · exact Nat.lt_asymm farther ((List.pairwise_cons.mp placed.1).1 _ later)

theorem mem_union (isLeft : Placed cs left) (isRight : Placed cs right) :
    cursor ∈ union left right ↔ cursor ∈ left ∨ cursor ∈ right := by
  fun_induction union left right with
  | case1 right => simp
  | case2 left => simp
  | case3 l left r right farther ih =>
    rw [List.mem_cons, ih isLeft.tail isRight, List.mem_cons (l := left), or_assoc]
  | case4 l left r right _ farther ih =>
    rw [List.mem_cons, ih isLeft isRight.tail, List.mem_cons (l := right)]
    exact or_left_comm
  | case5 l left r right notFarther notNearer ih =>
    have same : l = r := (isLeft.2 l List.mem_cons_self).ext (isRight.2 r List.mem_cons_self)
      (by omega)
    subst same
    rw [List.mem_cons, ih isLeft.tail isRight.tail, List.mem_cons, List.mem_cons, or_or_distrib_left]

theorem placed_union (isLeft : Placed cs left) (isRight : Placed cs right) :
    Placed cs (union left right) := by
  refine ⟨?_, fun cursor member => ?_⟩
  · fun_induction union left right with
    | case1 right => exact isRight.1
    | case2 left => exact isLeft.1
    | case3 l left r right farther ih =>
      refine List.pairwise_cons.mpr ⟨fun cursor member => ?_, ih isLeft.tail isRight⟩
      rcases (mem_union isLeft.tail isRight).mp member with inLeft | inRight
      · exact (List.pairwise_cons.mp isLeft.1).1 _ inLeft
      · rcases List.mem_cons.mp inRight with rfl | later
        · exact farther
        · exact Nat.lt_trans ((List.pairwise_cons.mp isRight.1).1 _ later) farther
    | case4 l left r right _ farther ih =>
      refine List.pairwise_cons.mpr ⟨fun cursor member => ?_, ih isLeft isRight.tail⟩
      rcases (mem_union isLeft isRight.tail).mp member with inLeft | inRight
      · rcases List.mem_cons.mp inLeft with rfl | later
        · exact farther
        · exact Nat.lt_trans ((List.pairwise_cons.mp isLeft.1).1 _ later) farther
      · exact (List.pairwise_cons.mp isRight.1).1 _ inRight
    | case5 l left r right notFarther notNearer ih =>
      refine List.pairwise_cons.mpr ⟨fun cursor member => ?_, ih isLeft.tail isRight.tail⟩
      rcases (mem_union isLeft.tail isRight.tail).mp member with inLeft | inRight
      · exact (List.pairwise_cons.mp isLeft.1).1 _ inLeft
      · have := (List.pairwise_cons.mp isRight.1).1 _ inRight
        omega
  · exact ((mem_union isLeft isRight).mp member).elim (isLeft.2 cursor) (isRight.2 cursor)

theorem minus_sublist (left right : List Cursor) : (minus left right).Sublist left := by
  fun_induction minus left right with
  | case1 right => exact List.Sublist.refl _
  | case2 left => exact List.Sublist.refl _
  | case3 l left r right _ ih => exact ih.cons_cons l
  | case4 l left r right _ _ ih => exact ih
  | case5 l left r right _ _ ih => exact ih.cons l

theorem Placed.minus (isLeft : Placed cs left) (right : List Cursor) :
    Placed cs (minus left right) :=
  ⟨isLeft.1.sublist (minus_sublist left right), fun cursor member =>
    isLeft.2 cursor ((minus_sublist left right).subset member)⟩

theorem mem_minus (isLeft : Placed cs left) (isRight : Placed cs right) :
    cursor ∈ minus left right ↔ cursor ∈ left ∧ cursor ∉ right := by
  fun_induction minus left right with
  | case1 right => simp
  | case2 left => simp
  | case3 l left r right farther ih =>
    have apart : l ∉ r :: right := isRight.not_mem farther
    rw [List.mem_cons, ih isLeft.tail isRight, List.mem_cons (l := left)]
    constructor
    · rintro (rfl | ⟨inLeft, outside⟩)
      · exact ⟨.inl rfl, apart⟩
      · exact ⟨.inr inLeft, outside⟩
    · rintro ⟨rfl | inLeft, outside⟩
      · exact .inl rfl
      · exact .inr ⟨inLeft, outside⟩
  | case4 l left r right _ farther ih =>
    have apart : r ∉ l :: left := isLeft.not_mem farther
    rw [ih isLeft isRight.tail, List.mem_cons (l := right), not_or]
    constructor
    · rintro ⟨inLeft, outside⟩
      exact ⟨inLeft, fun same => apart (same ▸ inLeft), outside⟩
    · rintro ⟨inLeft, -, outside⟩
      exact ⟨inLeft, outside⟩
  | case5 l left r right notFarther notNearer ih =>
    have same : l = r := (isLeft.2 l List.mem_cons_self).ext (isRight.2 r List.mem_cons_self)
      (by omega)
    subst same
    rw [ih isLeft.tail isRight.tail, List.mem_cons, List.mem_cons, not_or]
    constructor
    · rintro ⟨inLeft, outside⟩
      have := (List.pairwise_cons.mp isLeft.1).1 _ inLeft
      exact ⟨.inr inLeft, fun same => by rw [same] at this; exact Nat.lt_irrefl _ this, outside⟩
    · rintro ⟨rfl | inLeft, notFirst, outside⟩
      · exact absurd rfl notFirst
      · exact ⟨inLeft, outside⟩

theorem Placed.eq_of_passed (isLeft : Placed cs left) (isRight : Placed cs right)
    (same : left.map passed = right.map passed) : left = right := by
  induction left generalizing right with
  | nil => exact (List.map_eq_nil_iff.mp same.symm).symm
  | cons l left ih =>
    cases right with
    | nil => cases same
    | cons r right =>
      obtain ⟨first, others⟩ := List.cons.inj same
      rw [(isLeft.2 l List.mem_cons_self).ext (isRight.2 r List.mem_cons_self) first,
        ih isLeft.tail isRight.tail others]

/-- The places before a cursor, with the cursor in front of them. -/
theorem Placed.cons (is : cursor.IsOf cs) (placed : Placed cs places)
    (complete : ∀ place, place ∈ places ↔ place.IsOf cs ∧ place.passed < cursor.passed) :
    Placed cs (cursor :: places) ∧ ∀ place, place ∈ cursor :: places ↔
      place.IsOf cs ∧ place.passed < cursor.passed + 1 := by
  refine ⟨⟨?_, ?_⟩, fun place => ?_⟩
  · exact List.pairwise_cons.mpr ⟨fun place member => ((complete place).mp member).2, placed.1⟩
  · exact List.forall_mem_cons.mpr ⟨is, placed.2⟩
  · rw [List.mem_cons, complete]
    constructor
    · rintro (rfl | ⟨isPlace, lt⟩)
      · exact ⟨is, Nat.lt_succ_self _⟩
      · exact ⟨isPlace, Nat.lt_succ_of_lt lt⟩
    · rintro ⟨isPlace, lt⟩
      rcases Nat.lt_succ_iff_lt_or_eq.mp lt with nearer | same
      · exact .inr ⟨isPlace, nearer⟩
      · exact .inl (isPlace.ext is same)

/-- From a cursor on, with the places before it, all places of the text are found. -/
theorem onward_spec {before : Option Char} {passed : Nat} {rest : List Char}
    (is : IsOf cs ⟨before, rest, passed⟩) (placed : Placed cs left)
    (complete : ∀ place, place ∈ left ↔ place.IsOf cs ∧ place.passed < passed) :
    Placed cs (Cursor.places.onward before passed left rest) ∧
      ∀ place, place ∈ Cursor.places.onward before passed left rest ↔ place.IsOf cs := by
  obtain ⟨placedNext, completeNext⟩ := placed.cons is complete
  induction rest generalizing before passed left with
  | nil =>
    refine ⟨placedNext, fun place => (completeNext place).trans ⟨And.left, fun isPlace => ?_⟩⟩
    have size : passed + 0 = cs.length := is.length_rest
    have := isPlace.passed_le
    exact ⟨isPlace, by dsimp only; omega⟩
  | cons c rest ih =>
    have isNext : IsOf cs ⟨some c, rest, passed + 1⟩ :=
      (is.pass (@pass_eq_some_iff _ _ (fun _ => true) |>.mpr ⟨c, rest, rfl, rfl, rfl⟩)).1
    obtain ⟨placedLater, completeLater⟩ := placedNext.cons isNext completeNext
    exact ih isNext placedNext completeNext placedLater completeLater

theorem places_spec (cs : List Char) :
    Placed cs (start cs).places ∧ ∀ place, place ∈ (start cs).places ↔ place.IsOf cs :=
  onward_spec (isOf_start cs) ⟨List.Pairwise.nil, nofun⟩ fun place => by
    simp [start]

end Cursor

end PathQuery
