import Mathlib.Algebra.Ring.Nat
import PathQuery.Time.Instant

/-!
The days of the calendar and their numbers. Main statements: `Day.ofNumber_spec` and
`Day.Valid.ofNumber_number`, each number belongs to a day and each day has a number of its own, and
`Day.number_lt_of_month_lt`, the days of a later month have greater numbers.
-/

namespace PathQuery.Time

theorem daysBeforeYear_succ (year : Int) :
    daysBeforeYear (year + 1) = daysBeforeYear year + yearLength year := by
  unfold daysBeforeYear yearLength isLeapYear
  simp only [Bool.and_eq_true, Bool.or_eq_true, bne_iff_ne, beq_iff_eq]
  split <;> omega

theorem daysBeforeYear_mono {first second : Int} (le : first ≤ second) :
    daysBeforeYear first ≤ daysBeforeYear second := by
  dsimp only [daysBeforeYear]
  omega

/-- The days of a year come before those of any later one. -/
theorem daysBeforeYear_of_lt {first second : Int} (lt : first < second) :
    daysBeforeYear first + yearLength first ≤ daysBeforeYear second := by
  rw [← daysBeforeYear_succ]
  exact daysBeforeYear_mono lt

theorem length_monthLengths (year : Int) : (monthLengths year).length = 12 := rfl

theorem sum_monthLengths (year : Int) : (monthLengths year).sum = yearLength year := by
  unfold monthLengths yearLength
  split <;> rfl

theorem daysBeforeMonth_eq (year : Int) (month : Nat) :
    daysBeforeMonth year month = ((monthLengths year).take (month - 1)).sum :=
  rfl

namespace Day

/-- A year has 365.2425 days on average, so the first guess at a year is off by at most one. -/
theorem yearOf_spec (days : Int) :
    daysBeforeYear (yearOf days) ≤ days ∧
      days < daysBeforeYear (yearOf days) + yearLength (yearOf days) := by
  rw [← daysBeforeYear_succ]
  have guessed : daysBeforeYear (days * 400 / 146097 + 1) ≤ days ∧
      days < daysBeforeYear (days * 400 / 146097 + 1 + 1 + 1) := by
    dsimp only [daysBeforeYear]
    omega
  unfold yearOf
  dsimp only
  split
  · omega
  · split
    · exact ⟨‹_›, guessed.2⟩
    · exact ⟨guessed.1, by omega⟩

theorem yearOf_eq {year days : Int} (from_ : daysBeforeYear year ≤ days)
    (before : days < daysBeforeYear year + yearLength year) : yearOf days = year := by
  obtain ⟨lower, upper⟩ := yearOf_spec days
  rcases Int.lt_trichotomy (yearOf days) year with less | equal | greater
  · have apart := daysBeforeYear_of_lt less
    omega
  · exact equal
  · have apart := daysBeforeYear_of_lt greater
    omega

/-- The month in which an ordinal number lies and the day of that month. -/
theorem inMonth_spec {month ordinal : Nat} {lengths : List Nat} (pos : 1 ≤ ordinal)
    (le : ordinal ≤ lengths.sum) :
    ∃ index day, inMonth month lengths ordinal = (month + index, day) ∧
      index < lengths.length ∧ 1 ≤ day ∧ day ≤ lengths.getD index 0 ∧
      ordinal = (lengths.take index).sum + day := by
  induction lengths generalizing month ordinal with
  | nil =>
    rw [List.sum_nil] at le
    omega
  | cons length lengths ih =>
    unfold inMonth
    split
    · next inside => exact ⟨0, ordinal, rfl, by simp, pos, by simpa using inside, by simp⟩
    · next outside =>
      rw [List.sum_cons] at le
      obtain ⟨index, day, found, bound, first, last, total⟩ :=
        @ih (month + 1) (ordinal - length) (by omega) (by omega)
      refine ⟨index + 1, day, ?_, by simpa using bound, first, by simpa using last, ?_⟩
      · rw [found, Nat.add_assoc, Nat.add_comm 1]
      · rw [List.take_succ_cons, List.sum_cons]
        omega

theorem inMonth_eq {month index day : Nat} {lengths : List Nat} (bound : index < lengths.length)
    (first : 1 ≤ day) (last : day ≤ lengths.getD index 0) :
    inMonth month lengths ((lengths.take index).sum + day) = (month + index, day) := by
  induction lengths generalizing month index with
  | nil => exact absurd bound (Nat.not_lt_zero index)
  | cons length lengths ih =>
    unfold inMonth
    cases index with
    | zero =>
      have inside : day ≤ length := by simpa using last
      simp [inside]
    | succ index =>
      rw [List.take_succ_cons, List.sum_cons, if_neg (by omega),
        show length + (lengths.take index).sum + day - length = (lengths.take index).sum + day by
          omega,
        ih (by simpa using bound) (by simpa using last), Nat.add_assoc, Nat.add_comm 1]

/-- The calendar has the day. -/
structure Valid (d : Day) : Prop where
  month_pos : 1 ≤ d.month
  month_le : d.month ≤ 12
  day_pos : 1 ≤ d.day
  day_le : d.day ≤ monthLength d.year d.month

variable {d first second : Day}

theorem ordinal_eq (d : Day) :
    d.ordinal = ((monthLengths d.year).take (d.month - 1)).sum + d.day :=
  rfl

theorem Valid.ordinal_pos (valid : d.Valid) : 1 ≤ d.ordinal := by
  have := valid.day_pos
  rw [ordinal_eq]
  omega

theorem sum_take_le {index later : Nat} (lt : index < later) (lengths : List Nat) :
    (lengths.take index).sum + lengths.getD index 0 ≤ (lengths.take later).sum := by
  obtain ⟨later, rfl⟩ : ∃ before, later = before + 1 := ⟨later - 1, by omega⟩
  induction lengths generalizing index later with
  | nil => simp
  | cons length lengths ih =>
    cases index with
    | zero => simp
    | succ index =>
      obtain ⟨later, rfl⟩ : ∃ before, later = before + 1 := ⟨later - 1, by omega⟩
      have rest := @ih index later (by omega)
      simp only [List.take_succ_cons, List.sum_cons, List.getD_cons_succ] at rest ⊢
      omega

/-- A day of the calendar comes before all days of the later months of its year. -/
theorem Valid.ordinal_le_of_lt (valid : d.Valid) {month : Nat} (later : d.month < month) :
    d.ordinal ≤ daysBeforeMonth d.year month := by
  have := valid.month_pos
  have before : d.month - 1 < month - 1 := by omega
  have whole := sum_take_le before (monthLengths d.year)
  have last : d.day ≤ (monthLengths d.year).getD (d.month - 1) 0 := valid.day_le
  rw [ordinal_eq, daysBeforeMonth_eq]
  omega

theorem Valid.ordinal_le (valid : d.Valid) : d.ordinal ≤ yearLength d.year := by
  have whole := valid.ordinal_le_of_lt (Nat.lt_succ_of_le valid.month_le)
  rwa [daysBeforeMonth_eq, List.take_of_length_le (Nat.le_of_eq (length_monthLengths _)),
    sum_monthLengths] at whole

theorem ofOrdinal_spec {year : Int} {ordinal : Nat} (pos : 1 ≤ ordinal)
    (le : ordinal ≤ yearLength year) :
    (ofOrdinal year ordinal).Valid ∧ (ofOrdinal year ordinal).year = year ∧
      (ofOrdinal year ordinal).ordinal = ordinal := by
  rw [← sum_monthLengths] at le
  obtain ⟨index, day, found, bound, first, last, total⟩ := @inMonth_spec 1 _ _ pos le
  rw [length_monthLengths] at bound
  have month : 1 + index - 1 = index := by omega
  unfold ofOrdinal
  rw [found]
  refine ⟨⟨by dsimp only; omega, by dsimp only; omega, first, ?_⟩, rfl, ?_⟩
  · rw [← month] at last
    exact last
  · rw [ordinal_eq, total]
    dsimp only
    rw [month]

theorem Valid.ofOrdinal (valid : d.Valid) : ofOrdinal d.year d.ordinal = d := by
  have := valid.month_pos
  have := valid.month_le
  have bound : d.month - 1 < (monthLengths d.year).length := by
    rw [length_monthLengths]
    omega
  have found := @inMonth_eq 1 _ _ _ bound valid.day_pos valid.day_le
  rw [show 1 + (d.month - 1) = d.month by omega] at found
  rw [Day.ofOrdinal, ordinal_eq, found]

/-- Each number is the number of a day of the calendar. -/
theorem ofNumber_spec (number : Int) :
    (ofNumber number).Valid ∧ (ofNumber number).number = number := by
  obtain ⟨lower, upper⟩ := yearOf_spec (number + epochDays)
  obtain ⟨valid, year, ordinal⟩ :=
    @ofOrdinal_spec (yearOf (number + epochDays))
      (number + epochDays - daysBeforeYear (yearOf (number + epochDays))).toNat.succ
      (by omega) (by omega)
  refine ⟨valid, ?_⟩
  unfold ofNumber
  dsimp only
  rw [Day.number, year, ordinal]
  omega

theorem Valid.ofNumber_number (valid : d.Valid) : ofNumber d.number = d := by
  have pos := valid.ordinal_pos
  have le := valid.ordinal_le
  have days : d.number + epochDays = daysBeforeYear d.year + d.ordinal - 1 := by
    rw [Day.number]
    omega
  have year : yearOf (d.number + epochDays) = d.year :=
    yearOf_eq (by omega) (by omega)
  unfold ofNumber
  dsimp only
  rw [year, days, show (daysBeforeYear d.year + d.ordinal - 1 - daysBeforeYear d.year).toNat.succ =
    d.ordinal by omega]
  exact valid.ofOrdinal

/-- The days of a later month come after those of an earlier one. -/
theorem number_lt_of_month_lt (isFirst : first.Valid) (isSecond : second.Valid)
    (lt : first.year * 12 + first.month < second.year * 12 + second.month) :
    first.number < second.number := by
  have := isFirst.ordinal_le
  have pos := isSecond.day_pos
  have ordinal := ordinal_eq second
  rw [← daysBeforeMonth_eq] at ordinal
  rcases Int.lt_trichotomy first.year second.year with earlier | same | later
  · have apart := daysBeforeYear_of_lt earlier
    unfold Day.number
    omega
  · have earlier : first.month < second.month := by omega
    have before := isFirst.ordinal_le_of_lt earlier
    unfold Day.number
    rw [same] at before ⊢
    omega
  · have := isFirst.month_pos
    have := isSecond.month_le
    omega

theorem Valid.number_bounds (valid : d.Valid) :
    daysBeforeYear d.year - epochDays ≤ d.number ∧
      d.number < daysBeforeYear (d.year + 1) - epochDays := by
  have := valid.ordinal_pos
  have := valid.ordinal_le
  rw [daysBeforeYear_succ]
  unfold Day.number
  omega

theorem ofCivil_eq_some_iff {year : Int} {month day : Nat} :
    ofCivil? year month day = some d ↔
      d = ⟨year, month, day⟩ ∧ d.Valid ∧ minYear ≤ d.year ∧ d.year ≤ maxYear := by
  unfold ofCivil?
  rw [Option.ite_none_right_eq_some]
  simp only [Bool.and_eq_true, decide_eq_true_eq, Option.some.injEq]
  constructor
  · rintro ⟨⟨⟨⟨⟨⟨lower, upper⟩, first⟩, last⟩, one⟩, most⟩, rfl⟩
    exact ⟨rfl, ⟨first, last, one, most⟩, lower, upper⟩
  · rintro ⟨rfl, ⟨first, last, one, most⟩, lower, upper⟩
    exact ⟨⟨⟨⟨⟨⟨lower, upper⟩, first⟩, last⟩, one⟩, most⟩, rfl⟩

end Day

theorem monthLength_pos (year : Int) {month : Nat} (first : 1 ≤ month) (last : month ≤ 12) :
    1 ≤ monthLength year month := by
  have all : ∀ length ∈ monthLengths year, 1 ≤ length := by
    unfold monthLengths
    split <;> decide
  have bound : month - 1 < (monthLengths year).length := by
    rw [length_monthLengths]
    omega
  rw [monthLength, List.getD_eq_getElem?_getD, List.getElem?_eq_getElem bound]
  exact all _ (List.getElem_mem bound)

end PathQuery.Time
