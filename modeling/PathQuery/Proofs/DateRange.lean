import PathQuery.Method.Date
import PathQuery.Proofs.Calendar

/-!
Steps from date to date. Main statements: `Step.after_reached`, so many steps one after another lead
to a date that is given at once, and `dateRange_steps`, a range is made of the dates so reached.
-/

namespace PathQuery.Time

namespace Day

/-- The day of the month after so many steps of some months: the first day or the length of the
shortest month that a step has led to, whichever is less. -/
def dayAfter (d : Day) (months : Nat) : Nat → Nat
  | 0 => d.day
  | count + 1 =>
      let total := d.year * 12 + d.month - 1 + (count + 1) * months
      min (d.dayAfter months count) (monthLength (total / 12) ((total % 12).toNat + 1))

/-- The day after so many steps of some months. -/
def afterMonths (d : Day) (months count : Nat) : Day :=
  let total := d.year * 12 + d.month - 1 + count * months
  ⟨total / 12, (total % 12).toNat + 1, d.dayAfter months count⟩

end Day

/-- The instant after so many steps, if it is in the supported years. Steps of a fixed length are
added up. -/
def Step.reached? (step : Step) (first : Instant) (count : Nat) : Option Instant :=
  match step with
  | millis amount => first.addMillis? (count * amount)
  | months amount => do
      let now := first.reading 0
      let day := now.day.afterMonths amount count
      let day ← Day.ofCivil? day.year day.month day.day
      Instant.ofReading? { now with day } 0

/-- Steps of one unit each: the units of the clock in milliseconds, those of the calendar in
months. -/
def Step.units : List (String × Step) :=
  [("ms", millis 1), ("s", millis 1000), ("m", millis 60000), ("h", millis 3600000),
    ("d", millis 86400000), ("D", millis 86400000), ("w", millis 604800000),
    ("W", millis 604800000), ("M", months 1), ("y", months 12), ("Y", months 12)]

def Step.times (amount : Nat) : Step → Step
  | millis count => millis (amount * count)
  | months count => months (amount * count)

/-- The number of months of a step has 32 bits. -/
def Step.Counted : Step → Prop
  | millis _ => True
  | months count => count < 2 ^ 32

/-- A text is a positive number of 32 bits and a unit, with blanks around them, and so names a
step. -/
def Step.Written (text : String) (step : Step) : Prop :=
  ∃ digits unit amount one, Text.trimmed text.toList = digits ++ unit.toList ∧
    digits.all Char.isDigit = true ∧ Nat.ofDigitChars 10 digits 0 = amount ∧
    0 < amount ∧ amount < 2 ^ 32 ∧ (unit, one) ∈ units ∧ one.times amount = step ∧ step.Counted

/-- A step leads forward. -/
def Step.Forward : Step → Prop
  | millis amount => 0 < amount
  | months amount => 0 < amount

namespace Instant

variable {instant date next : Instant} {seconds : Int} {nanos first second : Nat}

theorem ofSeconds_eq_some_iff :
    ofSeconds? seconds nanos = some instant ↔ instant.seconds = seconds ∧ instant.nanos = nanos := by
  obtain ⟨here, within, supported, bound⟩ := instant
  unfold ofSeconds?
  constructor
  · intro came
    split at came
    · cases came
      exact ⟨rfl, rfl⟩
    · cases came
  · rintro ⟨rfl, rfl⟩
    rw [dif_pos ⟨supported, bound⟩]

theorem isSome_ofSeconds (lower : minSeconds ≤ seconds) (upper : seconds ≤ maxSeconds)
    (bound : nanos < 2000000000) : ∃ instant, ofSeconds? seconds nanos = some instant :=
  ⟨_, dif_pos ⟨⟨lower, upper⟩, bound⟩⟩

/-- The second and nanosecond so many nanoseconds later. -/
def afterNanos (instant : Instant) (count : Nat) : Int × Nat :=
  if 1000000000 ≤ instant.nanos ∧ instant.nanos + count < 2000000000 then
    (instant.seconds, instant.nanos + count)
  else
    let total := instant.nanos % 1000000000 + count
    (instant.seconds + (total / 1000000000 : Nat), total % 1000000000)

theorem addMillis_eq (instant : Instant) (millis : Nat) :
    instant.addMillis? millis = ofSeconds? (instant.afterNanos (millis * 1000000)).1
      (instant.afterNanos (millis * 1000000)).2 := by
  have := instant.nanos_lt
  have base : (if 1000000000 ≤ instant.nanos then instant.nanos - 1000000000 else instant.nanos) =
      instant.nanos % 1000000000 := by
    split <;> omega
  unfold addMillis? afterNanos
  dsimp only
  rw [base]
  simp only [Bool.and_eq_true, decide_eq_true_eq]
  by_cases stays : 1000000000 ≤ instant.nanos ∧ instant.nanos + millis * 1000000 < 2000000000
  · have same : instant.nanos + millis % 1000 * 1000000 = instant.nanos + millis * 1000000 := by
      omega
    rw [if_pos stays, if_pos (by omega), same]
  · have seconds : instant.seconds + (millis / 1000 : Nat) +
        ((instant.nanos % 1000000000 + millis % 1000 * 1000000) / 1000000000 : Nat) =
        instant.seconds + ((instant.nanos % 1000000000 + millis * 1000000) / 1000000000 : Nat) := by
      omega
    have nanos : (instant.nanos % 1000000000 + millis % 1000 * 1000000) % 1000000000 =
        (instant.nanos % 1000000000 + millis * 1000000) % 1000000000 := by
      omega
    rw [if_neg stays, if_neg (by omega), seconds, nanos]

theorem afterNanos_lt (instant : Instant) (count : Nat) :
    (instant.afterNanos count).2 < 2000000000 := by
  unfold afterNanos
  split <;> dsimp only <;> omega

theorem afterNanos_add (arrives : ofSeconds? (instant.afterNanos first).1
    (instant.afterNanos first).2 = some date) (second : Nat) :
    date.afterNanos second = instant.afterNanos (first + second) := by
  obtain ⟨seconds, nanos⟩ := ofSeconds_eq_some_iff.mp arrives
  have := instant.nanos_lt
  unfold afterNanos at seconds nanos ⊢
  by_cases stays : 1000000000 ≤ instant.nanos ∧ instant.nanos + first < 2000000000
  · rw [if_pos stays] at seconds nanos
    dsimp only at seconds nanos
    rw [seconds, nanos]
    split
    · rw [if_pos (by omega), Nat.add_assoc]
    · rw [if_neg (by omega)]
      refine Prod.ext ?_ ?_ <;> dsimp only <;> omega
  · rw [if_neg stays] at seconds nanos
    dsimp only at seconds nanos
    rw [seconds, nanos, if_neg (by omega), if_neg (by omega)]
    refine Prod.ext ?_ ?_ <;> dsimp only <;> omega

theorem afterNanos_of_add (arrives : ofSeconds? (instant.afterNanos (first + second)).1
    (instant.afterNanos (first + second)).2 = some date) :
    ∃ between, ofSeconds? (instant.afterNanos first).1 (instant.afterNanos first).2 =
      some between := by
  obtain ⟨lower, -⟩ := instant.seconds_supported
  obtain ⟨-, upper⟩ := date.seconds_supported
  obtain ⟨seconds, -⟩ := ofSeconds_eq_some_iff.mp arrives
  rw [seconds] at upper
  refine isSome_ofSeconds ?_ ?_ (instant.afterNanos_lt first)
  · unfold afterNanos
    split <;> dsimp only <;> omega
  · refine Int.le_trans ?_ upper
    have := instant.nanos_lt
    unfold afterNanos
    split
    · split <;> dsimp only <;> omega
    · rw [if_neg (by omega)]
      dsimp only
      omega

theorem lt_of_afterNanos (pos : 0 < first) (arrives : ofSeconds? (instant.afterNanos first).1
    (instant.afterNanos first).2 = some date) : instant < date := by
  obtain ⟨seconds, nanos⟩ := ofSeconds_eq_some_iff.mp arrives
  have := instant.nanos_lt
  show instant.ticks < date.ticks
  unfold ticks
  rw [seconds, nanos]
  unfold afterNanos
  split <;> dsimp only <;> omega

/-- An instant is in the supported years. -/
theorem supported_iff {day : Day} (valid : day.Valid) {clock : Nat} (lt : clock < 86400) :
    minSeconds ≤ day.number * 86400 + clock ∧ day.number * 86400 + clock ≤ maxSeconds ↔
      minYear ≤ day.year ∧ day.year ≤ maxYear := by
  obtain ⟨lower, upper⟩ := valid.number_bounds
  have least : minSeconds = (daysBeforeYear minYear - epochDays) * 86400 := by decide
  have greatest : maxSeconds = (daysBeforeYear (maxYear + 1) - epochDays) * 86400 - 1 := by decide
  rw [least, greatest]
  constructor
  · rintro ⟨above, below⟩
    constructor
    · refine Int.not_lt.mp fun early => ?_
      have := @daysBeforeYear_mono (day.year + 1) minYear (by omega)
      omega
    · refine Int.not_lt.mp fun late => ?_
      have := @daysBeforeYear_mono (maxYear + 1) day.year (by omega)
      omega
  · rintro ⟨above, below⟩
    have := daysBeforeYear_mono above
    have := @daysBeforeYear_mono (day.year + 1) (maxYear + 1) (by omega)
    omega

end Instant

namespace Reading

/-- The seconds since the start of the day. -/
def clock (r : Reading) : Nat :=
  r.hour * 3600 + r.minute * 60 + r.second

end Reading

namespace Instant

variable {instant date next : Instant}

theorem reading_day (instant : Instant) :
    (instant.reading 0).day.Valid ∧ (instant.reading 0).day.number = instant.seconds / 86400 := by
  have day : (instant.reading 0).day = Day.ofNumber (instant.seconds / 86400) := by
    unfold reading
    dsimp only
    rw [Int.add_zero]
  rw [day]
  exact Day.ofNumber_spec _

theorem clock_reading (instant : Instant) :
    ((instant.reading 0).clock : Int) = instant.seconds % 86400 := by
  unfold reading Reading.clock
  dsimp only
  omega

theorem clock_lt (instant : Instant) : (instant.reading 0).clock < 86400 := by
  have := instant.clock_reading
  omega

theorem year_supported (instant : Instant) :
    minYear ≤ (instant.reading 0).day.year ∧ (instant.reading 0).day.year ≤ maxYear := by
  obtain ⟨valid, number⟩ := instant.reading_day
  rw [← supported_iff valid instant.clock_lt, number, clock_reading]
  have := instant.seconds_supported
  omega

/-- The instant of another day at the same time of the day. -/
theorem ofReading_eq_some_iff {day : Day} :
    ofReading? { instant.reading 0 with day } 0 = some date ↔
      date.seconds = day.number * 86400 + (instant.reading 0).clock ∧
        date.nanos = instant.nanos := by
  unfold ofReading?
  rw [ofSeconds_eq_some_iff]
  unfold Reading.seconds Reading.clock
  rw [Int.sub_zero]
  rfl

theorem reading_of_ofReading {day : Day} (valid : day.Valid)
    (came : ofReading? { instant.reading 0 with day } 0 = some date) :
    date.reading 0 = { instant.reading 0 with day } := by
  obtain ⟨seconds, nanos⟩ := ofReading_eq_some_iff.mp came
  have clock := instant.clock_lt
  have number : date.seconds / 86400 = day.number := by omega
  have same : date.seconds % 86400 = (instant.reading 0).clock := by omega
  rw [clock_reading] at same
  unfold reading
  simp only [Int.add_zero, number, same, nanos, valid.ofNumber_number]

end Instant

namespace Day

variable {d day : Day} {months count : Nat}

/-- The months of the calendar are numbered through all years, and a step adds its months to that
number. -/
theorem month_afterMonths (d : Day) (months count : Nat) :
    (d.afterMonths months count).year * 12 + (d.afterMonths months count).month =
      d.year * 12 + d.month + count * months := by
  unfold afterMonths
  dsimp only
  omega

theorem Valid.afterMonths_zero (valid : d.Valid) (months : Nat) : d.afterMonths months 0 = d := by
  obtain ⟨year, month, day⟩ := d
  have first := valid.month_pos
  have last := valid.month_le
  unfold afterMonths dayAfter
  dsimp only at first last ⊢
  have quotient : (year * 12 + month - 1 + ((0 : Nat) : Int) * months) / 12 = year := by omega
  have remainder : ((year * 12 + month - 1 + ((0 : Nat) : Int) * months) % 12).toNat + 1 = month := by
    omega
  rw [quotient, remainder]

theorem Valid.afterMonths (valid : d.Valid) (months count : Nat) :
    (d.afterMonths months count).Valid := by
  induction count with
  | zero =>
    rw [valid.afterMonths_zero]
    exact valid
  | succ count ih =>
    have first : 1 ≤ (d.afterMonths months (count + 1)).month := Nat.succ_pos _
    have last : (d.afterMonths months (count + 1)).month ≤ 12 := by
      unfold Day.afterMonths
      dsimp only
      omega
    refine ⟨first, last, ?_, Nat.min_le_right _ _⟩
    exact Nat.le_min.mpr ⟨ih.day_pos, monthLength_pos _ first last⟩

/-- One more step leads from the day that the steps before have led to. -/
theorem addMonths_afterMonths (d : Day) (months count : Nat) :
    (d.afterMonths months count).addMonths? months =
      ofCivil? (d.afterMonths months (count + 1)).year (d.afterMonths months (count + 1)).month
        (d.afterMonths months (count + 1)).day := by
  have same := month_afterMonths d months count
  have total : (d.afterMonths months count).year * 12 + (d.afterMonths months count).month - 1 +
      months = d.year * 12 + d.month - 1 + ((count + 1 : Nat) : Int) * months := by
    rw [same, Int.natCast_add, Int.add_mul]
    omega
  unfold addMonths?
  dsimp only
  rw [total]
  rfl

theorem addMonths_eq_some (came : d.addMonths? months = some day) :
    day.Valid ∧ day.year * 12 + day.month = d.year * 12 + d.month + months := by
  obtain ⟨rfl, valid, -⟩ := ofCivil_eq_some_iff.mp came
  refine ⟨valid, ?_⟩
  dsimp only
  omega

end Day

namespace Step

variable {step : Step} {first last date next : Instant} {amount count : Nat}

/-- Where steps of some months lead. -/
theorem reached_months_iff {day : Day}
    (stepped : (first.reading 0).day.afterMonths amount count = day) :
    (months amount).reached? first count = some date ↔
      (minYear ≤ day.year ∧ day.year ≤ maxYear) ∧
        Instant.ofReading? { first.reading 0 with day } 0 = some date := by
  have valid : day.Valid := stepped ▸ first.reading_day.1.afterMonths amount count
  subst stepped
  unfold reached?
  simp only [bind, Option.bind_eq_some_iff]
  constructor
  · rintro ⟨other, civil, arrives⟩
    obtain ⟨rfl, -, supported⟩ := Day.ofCivil_eq_some_iff.mp civil
    exact ⟨supported, arrives⟩
  · rintro ⟨supported, arrives⟩
    exact ⟨_, Day.ofCivil_eq_some_iff.mpr ⟨rfl, valid, supported⟩, arrives⟩

theorem reached_millis (first : Instant) (amount count : Nat) :
    (millis amount).reached? first count =
      Instant.ofSeconds? (first.afterNanos (count * amount * 1000000)).1
        (first.afterNanos (count * amount * 1000000)).2 :=
  first.addMillis_eq (count * amount)

theorem reached_zero (step : Step) (first : Instant) : step.reached? first 0 = some first := by
  cases step with
  | millis amount =>
    have := first.nanos_lt
    rw [reached_millis, Instant.ofSeconds_eq_some_iff]
    unfold Instant.afterNanos
    split <;> dsimp only <;> omega
  | months amount =>
    obtain ⟨valid, number⟩ := first.reading_day
    rw [reached_months_iff (valid.afterMonths_zero amount)]
    refine ⟨first.year_supported, Instant.ofReading_eq_some_iff.mpr ⟨?_, rfl⟩⟩
    rw [number, first.clock_reading]
    omega

/-- One more step leads from the instant that the steps before have led to. -/
theorem after_reached (came : step.reached? first count = some date) :
    step.after? date = step.reached? first (count + 1) := by
  cases step with
  | millis amount =>
    rw [reached_millis] at came ⊢
    have onward := Instant.afterNanos_add came (amount * 1000000)
    rw [after?, Instant.addMillis_eq, onward, ← Nat.add_mul, ← Nat.succ_mul]
  | months amount =>
    obtain ⟨supported, arrives⟩ := (reached_months_iff rfl).mp came
    have valid := first.reading_day.1.afterMonths amount count
    have reading := Instant.reading_of_ofReading valid arrives
    have onward := Day.addMonths_afterMonths (first.reading 0).day amount count
    unfold after? Instant.addMonths? reached?
    dsimp only
    rw [reading]
    dsimp only
    rw [onward]
    split
    · next large =>
      -- so many months lead out of the supported years from any of them
      have total := Day.month_afterMonths (first.reading 0).day amount (count + 1)
      have before := Day.month_afterMonths (first.reading 0).day amount count
      have month := (first.reading_day.1.afterMonths amount (count + 1)).month_le
      have positive := valid.month_pos
      have outside : ∀ day, ¬Day.ofCivil? ((first.reading 0).day.afterMonths amount (count + 1)).year
          ((first.reading 0).day.afterMonths amount (count + 1)).month
          ((first.reading 0).day.afterMonths amount (count + 1)).day = some day := by
        intro day civil
        obtain ⟨rfl, -, -, upper⟩ := Day.ofCivil_eq_some_iff.mp civil
        rw [Int.natCast_add, Int.add_mul] at total
        unfold minYear at supported
        unfold maxYear at upper
        dsimp only at upper
        omega
      rw [Option.eq_none_iff_forall_ne_some.mpr outside]
      rfl
    · rfl

/-- The steps before one that stays in the supported years do so as well. -/
theorem reached_of_succ (came : step.reached? first (count + 1) = some date) :
    ∃ between, step.reached? first count = some between := by
  cases step with
  | millis amount =>
    rw [reached_millis, Nat.succ_mul, Nat.add_mul] at came
    rw [reached_millis]
    exact Instant.afterNanos_of_add came
  | months amount =>
    obtain ⟨⟨-, upper⟩, -⟩ := (reached_months_iff rfl).mp came
    obtain ⟨lower, -⟩ := first.year_supported
    have origin := first.reading_day.1
    have valid := origin.afterMonths amount count
    have years : (first.reading 0).day.year ≤
        ((first.reading 0).day.afterMonths amount count).year ∧
        ((first.reading 0).day.afterMonths amount count).year ≤
          ((first.reading 0).day.afterMonths amount (count + 1)).year := by
      have total := Day.month_afterMonths (first.reading 0).day amount (count + 1)
      have before := Day.month_afterMonths (first.reading 0).day amount count
      have := origin.month_pos
      have := origin.month_le
      have := valid.month_pos
      have := valid.month_le
      have := (origin.afterMonths amount (count + 1)).month_pos
      have := (origin.afterMonths amount (count + 1)).month_le
      rw [Int.natCast_add, Int.add_mul] at total
      have : 0 ≤ (count : Int) * amount := Int.mul_nonneg (by omega) (by omega)
      omega
    have supported : minYear ≤ ((first.reading 0).day.afterMonths amount count).year ∧
        ((first.reading 0).day.afterMonths amount count).year ≤ maxYear := by
      omega
    obtain ⟨least, greatest⟩ := (Instant.supported_iff valid first.clock_lt).mpr supported
    obtain ⟨between, arrives⟩ := Instant.isSome_ofSeconds least greatest first.nanos_lt
    refine ⟨between, (reached_months_iff rfl).mpr ⟨supported, ?_⟩⟩
    obtain ⟨seconds, nanos⟩ := Instant.ofSeconds_eq_some_iff.mp arrives
    exact Instant.ofReading_eq_some_iff.mpr ⟨seconds, nanos⟩

theorem lt_of_after (forward : step.Forward) (came : step.after? date = some next) : date < next := by
  cases step with
  | millis amount =>
    rw [after?, Instant.addMillis_eq] at came
    exact Instant.lt_of_afterNanos (Nat.mul_pos forward (by decide)) came
  | months amount =>
    obtain ⟨valid, number⟩ := date.reading_day
    have clock := date.clock_reading
    simp only [after?, Instant.addMonths?] at came
    obtain ⟨-, came⟩ := Option.ite_none_left_eq_some.mp came
    obtain ⟨day, moved, arrives⟩ := Option.bind_eq_some_iff.mp came
    obtain ⟨later, month⟩ := Day.addMonths_eq_some moved
    obtain ⟨seconds, -⟩ := Instant.ofReading_eq_some_iff.mp arrives
    have positive : 0 < amount := forward
    have apart := Day.number_lt_of_month_lt valid later (by omega)
    have := date.nanos_lt
    show date.ticks < next.ticks
    unfold Instant.ticks
    omega

/-- More steps lead to later instants. -/
theorem lt_of_reached (forward : step.Forward) {more : Nat} (lt : count < more)
    (came : step.reached? first count = some date)
    (arrived : step.reached? first more = some next) : date < next := by
  obtain ⟨further, rfl⟩ := Nat.exists_eq_add_of_lt lt
  induction further generalizing next with
  | zero =>
    rw [← after_reached came] at arrived
    exact lt_of_after forward arrived
  | succ further ih =>
    obtain ⟨between, passed⟩ := reached_of_succ arrived
    have before : date.ticks < between.ticks := ih (by omega) passed
    have behind : between.ticks < next.ticks :=
      lt_of_after forward ((after_reached passed).trans arrived)
    exact Int.lt_trans before behind

theorem reached_of_le {more : Nat} (le : count ≤ more)
    (arrived : step.reached? first more = some next) :
    ∃ date, step.reached? first count = some date := by
  obtain ⟨further, rfl⟩ := Nat.exists_eq_add_of_le le
  induction further generalizing next with
  | zero => exact ⟨next, arrived⟩
  | succ further ih =>
    obtain ⟨between, passed⟩ := reached_of_succ arrived
    exact ih (Nat.le_add_right _ _) passed

/-- Where some number of steps leads past the last date, no step of the loop leaves the supported
years. -/
theorem isSome_reached_succ (forward : step.Forward) {more : Nat}
    (arrived : step.reached? first more = some next) (beyond : last < next)
    (came : step.reached? first count = some date) (within : date ≤ last) :
    (step.reached? first (count + 1)).isSome = true := by
  have before : count < more := by
    refine Nat.not_le.mp fun le => ?_
    have outside : last.ticks < date.ticks := by
      rcases Nat.eq_or_lt_of_le le with rfl | lt
      · rw [arrived] at came
        cases came
        exact beyond
      · exact Int.lt_trans beyond (lt_of_reached forward lt arrived came)
    exact Int.not_le.mpr outside within
  obtain ⟨later, stepped⟩ := reached_of_le before arrived
  exact Option.isSome_of_eq_some stepped

/-- The dates that the loop collects from one that so many steps have led to. -/
theorem datesThrough_spec (forward : step.Forward)
    (supported : ∀ count date, step.reached? first count = some date → date ≤ last →
      (step.reached? first (count + 1)).isSome = true)
    (came : step.reached? first count = some date) :
    ∃ dates, step.datesThrough? last date = some dates ∧ ∀ position,
      dates[position]? = (step.reached? first (count + position)).filter (· ≤ last) := by
  -- the loop carries the date; the number of steps that have led to it is what the induction adds
  fun_induction step.datesThrough? last date generalizing count with
  | case1 date within none =>
    rw [after_reached came] at none
    have some := supported count date came within
    rw [none] at some
    cases some
  | case2 date within next stepped onward ih =>
    rw [after_reached came] at stepped
    obtain ⟨dates, found, each⟩ := ih stepped
    refine ⟨date :: dates, by rw [found]; rfl, fun position => ?_⟩
    cases position with
    | zero => simp [came, Option.filter, within]
    | succ position =>
      rw [List.getElem?_cons_succ, each, Nat.add_right_comm, Nat.add_assoc]
  | case3 date within next stepped stays => exact absurd (lt_of_after forward stepped) stays
  | case4 date beyond =>
    refine ⟨[], rfl, fun position => ?_⟩
    symm
    rw [List.getElem?_nil, Option.filter_eq_none_iff]
    intro later arrived
    cases position with
    | zero =>
      rw [Nat.add_zero, came] at arrived
      cases arrived
      simpa using beyond
    | succ position =>
      have before : date.ticks < later.ticks :=
        lt_of_reached forward (Nat.lt_add_of_pos_right (Nat.succ_pos position)) came arrived
      have outside : ¬later ≤ last := fun within =>
        beyond (Int.le_of_lt (Int.lt_of_lt_of_le before within))
      simpa using outside

theorem units_forward : ∀ named ∈ units, named.2.Forward := by
  simp [units, Forward]

theorem Written.forward {text : String} (written : step.Written text) : step.Forward := by
  obtain ⟨digits, unit, amount, one, -, -, -, positive, -, member, rfl, -⟩ := written
  have least := units_forward _ member
  cases one <;> exact Nat.mul_pos positive least

theorem ofUnit_of_mem : ∀ named ∈ units, (named.2.times amount).Counted →
    ofUnit? amount named.1 = some (named.2.times amount) := by
  simp [units, ofUnit?, times, Counted]

theorem ofUnit_eq_some_iff {unit : String} (small : amount < 2 ^ 32) :
    ofUnit? amount unit = some step ↔
      ∃ one, (unit, one) ∈ units ∧ one.times amount = step ∧ step.Counted := by
  constructor
  · intro came
    unfold ofUnit? at came
    split at came
    case h_1 =>
      cases came
      exact ⟨millis 1, by decide, congrArg millis amount.mul_one, trivial⟩
    case h_9 =>
      cases came
      exact ⟨months 1, by decide, congrArg months amount.mul_one, small⟩
    case h_10 | h_11 =>
      obtain ⟨bound, came⟩ := Option.ite_none_right_eq_some.mp came
      cases came
      exact ⟨months 12, by decide, rfl, bound⟩
    case h_12 => cases came
    all_goals
      cases came
      refine ⟨millis _, ?_, rfl, trivial⟩
      decide
  · rintro ⟨one, member, rfl, bound⟩
    exact ofUnit_of_mem _ member bound

/-- A unit starts with what is no digit. -/
theorem takeWhile_unit : ∀ named ∈ units, named.1.toList.takeWhile Char.isDigit = [] := by
  decide

theorem ofText_eq_some_iff {text : String} : ofText? text = some step ↔ step.Written text := by
  unfold ofText? Written
  simp only [bind, Option.bind_eq_some_iff]
  constructor
  · rintro ⟨amount, read, came⟩
    obtain ⟨bounds, unit⟩ := Option.ite_none_left_eq_some.mp came
    simp only [Bool.or_eq_true, decide_eq_true_eq, not_or, Nat.not_le] at bounds
    obtain ⟨positive, small⟩ := bounds
    unfold Number.natural? at read
    obtain ⟨digits, value⟩ := Option.ite_none_right_eq_some.mp read
    simp only [Bool.and_eq_true] at digits
    obtain ⟨one, member, made, counted⟩ := (ofUnit_eq_some_iff small).mp unit
    refine ⟨_, _, amount, one, ?_, digits.2, Option.some.inj value, Nat.pos_of_ne_zero positive,
      small, member, made, counted⟩
    rw [String.toList_ofList, List.takeWhile_append_dropWhile]
  · rintro ⟨digits, unit, amount, one, split, numeric, value, positive, small, named⟩
    have numerals : (Text.trimmed text.toList).takeWhile Char.isDigit = digits := by
      rw [split, List.takeWhile_append_of_pos (List.all_eq_true.mp numeric), takeWhile_unit _ named.1,
        List.append_nil]
    have rest : (Text.trimmed text.toList).dropWhile Char.isDigit = unit.toList := by
      have both := List.takeWhile_append_dropWhile (p := Char.isDigit)
        (l := Text.trimmed text.toList)
      rw [numerals] at both
      exact List.append_cancel_left (both.trans split)
    have some : digits ≠ [] := by
      rintro rfl
      exact absurd value (Nat.ne_of_lt positive)
    refine ⟨amount, ?_, ?_⟩
    · unfold Number.natural?
      rw [numerals, if_pos (by simp [some, numeric]), value]
    · rw [rest, String.ofList_toList, if_neg, ofUnit_eq_some_iff small]
      · exact ⟨one, named⟩
      · simp
        omega

end Step

section Range

variable {first last : Instant} {increment : String} {step : Step} {layout? zone? : Option Value}
  {zone : Zone} {dates : List Instant}

/-- Without a layout a range is what the loop collects. -/
theorem dateRange_of_datesThrough (written : step.Written increment)
    (plain : ∀ layout, layout? ≠ some (.string layout))
    (located : Method.zoneOf "range" zone? = .ok zone)
    (came : step.datesThrough? last first = some dates) :
    Method.dateRange (.date first) (.date last) (.string increment) layout? zone? =
      .ok (.array (dates.map .date)) := by
  unfold Method.dateRange
  dsimp only
  rw [Step.ofText_eq_some_iff.mpr written, located]
  simp only [pure_bind, came]
  rfl

/-- A range without a layout holds what each number of steps from its start leads to, as long as
that is not after its end. -/
theorem dateRange_steps (written : step.Written increment)
    (plain : ∀ layout, layout? ≠ some (.string layout))
    (located : Method.zoneOf "range" zone? = .ok zone)
    (supported : ∀ count date, step.reached? first count = some date → date ≤ last →
      (step.reached? first (count + 1)).isSome = true) :
    ∃ dates : List Instant,
      Method.dateRange (.date first) (.date last) (.string increment) layout? zone? =
        .ok (.array (dates.map .date)) ∧
      (∀ count : Nat, dates[count]? = (step.reached? first count).filter (· ≤ last)) ∧
      dates.Pairwise (· < ·) ∧ (dates = [] ↔ last < first) := by
  obtain ⟨dates, came, each⟩ :=
    Step.datesThrough_spec written.forward supported (step.reached_zero first)
  simp only [Nat.zero_add] at each
  have reached {count : Nat} (lt : count < dates.length) :
      step.reached? first count = some dates[count] := by
    have here := each count
    rw [List.getElem?_eq_getElem lt] at here
    exact (Option.filter_eq_some_iff.mp here.symm).1
  refine ⟨dates, dateRange_of_datesThrough written plain located came, each, ?_, ?_⟩
  · rw [List.pairwise_iff_getElem]
    intro less more _ _ lt
    exact Step.lt_of_reached written.forward lt (reached _) (reached _)
  · have start := each 0
    rw [step.reached_zero] at start
    have beyond : ¬first ≤ last ↔ last < first := Int.not_le
    rw [← List.length_eq_zero_iff, ← Nat.le_zero, ← List.getElem?_eq_none_iff, start, ← beyond]
    simp [Option.filter]

/-- The last day of a January, and of an April. -/
def january : Instant := ⟨1706659200, 0, by decide, by decide⟩

def april : Instant := ⟨1714435200, 0, by decide, by decide⟩

theorem written_month : (Step.months 1).Written "1M" :=
  ⟨['1'], "M", 1, .months 1, by decide, by decide, by decide, by decide, by decide, by decide, rfl,
    show 1 * 1 < 2 ^ 32 by decide⟩

theorem beyond_april : ∃ may, (Step.months 1).reached? january 4 = some may ∧ april < may := by
  have later : ((Step.months 1).reached? january 4).any (april < ·) = true := by decide
  match arrived : (Step.months 1).reached? january 4 with
  | some may => exact ⟨may, rfl, of_decide_eq_true (by rwa [arrived] at later)⟩
  | none =>
    rw [arrived] at later
    cases later

theorem dateRange_from_january : (Step.months 1).Written "1M" ∧ ∃ dates : List Instant,
    Method.dateRange (.date january) (.date april) (.string "1M") none none =
      .ok (.array (dates.map .date)) ∧
    (∀ count : Nat, dates[count]? =
      ((Step.months 1).reached? january count).filter (· ≤ april)) ∧
    dates.Pairwise (· < ·) ∧ (dates = [] ↔ april < january) := by
  obtain ⟨may, arrived, beyond⟩ := beyond_april
  exact ⟨written_month, dateRange_steps written_month nofun rfl fun count date came within =>
    Step.isSome_reached_succ written_month.forward arrived beyond came within⟩

/-- A range by months is not the one of the months added to its start: the day is lost for good once
a month is too short for it. -/
theorem dateRange_of_short_month : (Step.months 1).Written "1M" ∧
    (∀ count ≤ 4, (january.addMonths? count).isSome = true) ∧
    (january.addMonths? 4).any (april < ·) = true ∧
    ¬∃ dates : List Instant,
      Method.dateRange (.date january) (.date april) (.string "1M") none none =
        .ok (.array (dates.map .date)) ∧
      ∀ count : Nat, dates[count]? = (january.addMonths? count).filter (· ≤ april) := by
  refine ⟨written_month, by decide, by decide, ?_⟩
  rintro ⟨dates, came, each⟩
  obtain ⟨may, arrived, beyond⟩ := beyond_april
  obtain ⟨stepped, through, reached⟩ := Step.datesThrough_spec written_month.forward
    (fun count date came within =>
      Step.isSome_reached_succ written_month.forward arrived beyond came within)
    (Step.reached_zero _ january)
  have found := @dateRange_of_datesThrough _ _ _ _ none none 0 _ written_month nofun rfl through
  rw [found] at came
  have same : stepped = dates :=
    (List.map_inj_right fun _ _ => Value.date.inj).mp (Value.array.inj (Except.ok.inj came))
  have third := (reached 2).symm.trans (same ▸ each 2)
  exact absurd third (by decide)

end Range

end PathQuery.Time
