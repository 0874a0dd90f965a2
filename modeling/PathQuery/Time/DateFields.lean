import PathQuery.Time.Instant

/-!
What a text says about a point in time: years, months, weeks, hours and so on, each of which may be
missing. From them a day, a time of the day and an instant are found; fields that are not needed
must agree with the rest.
-/

namespace PathQuery.Time

/-- Why fields do not make a day, a time or an instant. -/
inductive FieldError where
  /-- A field has no possible value, or two fields contradict each other. -/
  | impossible
  /-- A field is missing. -/
  | insufficient
deriving DecidableEq

/-- Fields of a date and a time of the day. The hour is kept as the half of the day and the hour
within it. -/
structure DateFields where
  year : Option Int := none
  century : Option Int := none
  yearOfCentury : Option Int := none
  weekYear : Option Int := none
  weekYearOfCentury : Option Int := none
  quarter : Option Nat := none
  month : Option Nat := none
  weekFromSunday : Option Nat := none
  weekFromMonday : Option Nat := none
  isoWeek : Option Nat := none
  /-- The day of the week, counted from Monday, which is zero. -/
  weekday : Option Nat := none
  ordinal : Option Nat := none
  day : Option Nat := none
  halfDay : Option Nat := none
  hourOfHalf : Option Nat := none
  minute : Option Nat := none
  second : Option Nat := none
  nanos : Option Nat := none
  timestamp : Option Int := none
  offset : Option Int := none

namespace DateFields

def agree? {α : Type} [DecidableEq α] (field : Option α) (value : α) : Option (Option α) :=
  match field with
  | none => some (some value)
  | some held => if held = value then some (some held) else none

def within? (low high : Nat) (value : Int) : Option Nat :=
  if low ≤ value && value ≤ high then some value.toNat else none

def year? (value : Int) : Option Int :=
  if -0x80000000 ≤ value && value < 0x80000000 then some value else none

def setYear? (fields : DateFields) (value : Int) : Option DateFields := do
  return { fields with year := ← agree? fields.year (← year? value) }

def setCentury? (fields : DateFields) (value : Int) : Option DateFields := do
  return { fields with century := ← agree? fields.century (← year? value) }

def setYearOfCentury? (fields : DateFields) (value : Int) : Option DateFields := do
  return { fields with yearOfCentury := ← agree? fields.yearOfCentury (← within? 0 99 value) }

def setWeekYear? (fields : DateFields) (value : Int) : Option DateFields := do
  return { fields with weekYear := ← agree? fields.weekYear (← year? value) }

def setWeekYearOfCentury? (fields : DateFields) (value : Int) : Option DateFields := do
  return { fields with
    weekYearOfCentury := ← agree? fields.weekYearOfCentury (← within? 0 99 value) }

def setQuarter? (fields : DateFields) (value : Int) : Option DateFields := do
  return { fields with quarter := ← agree? fields.quarter (← within? 1 4 value) }

def setMonth? (fields : DateFields) (value : Int) : Option DateFields := do
  return { fields with month := ← agree? fields.month (← within? 1 12 value) }

def setWeekFromSunday? (fields : DateFields) (value : Int) : Option DateFields := do
  return { fields with weekFromSunday := ← agree? fields.weekFromSunday (← within? 0 53 value) }

def setWeekFromMonday? (fields : DateFields) (value : Int) : Option DateFields := do
  return { fields with weekFromMonday := ← agree? fields.weekFromMonday (← within? 0 53 value) }

def setIsoWeek? (fields : DateFields) (value : Int) : Option DateFields := do
  return { fields with isoWeek := ← agree? fields.isoWeek (← within? 1 53 value) }

/-- Sets the day of the week, counted from Monday, which is zero. -/
def setWeekday? (fields : DateFields) (value : Int) : Option DateFields := do
  return { fields with weekday := ← agree? fields.weekday (← within? 0 6 value) }

def setOrdinal? (fields : DateFields) (value : Int) : Option DateFields := do
  return { fields with ordinal := ← agree? fields.ordinal (← within? 1 366 value) }

def setDay? (fields : DateFields) (value : Int) : Option DateFields := do
  return { fields with day := ← agree? fields.day (← within? 1 31 value) }

def setHalfDay? (fields : DateFields) (afternoon : Bool) : Option DateFields := do
  return { fields with halfDay := ← agree? fields.halfDay (if afternoon then 1 else 0) }

/-- Sets the hour within a half of the day, where twelve stands for zero. -/
def setHourOfHalf? (fields : DateFields) (value : Int) : Option DateFields := do
  let hour ← within? 1 12 value
  return { fields with hourOfHalf := ← agree? fields.hourOfHalf (hour % 12) }

def setHour? (fields : DateFields) (value : Int) : Option DateFields := do
  let hour ← within? 0 23 value
  return { fields with
    halfDay := ← agree? fields.halfDay (hour / 12)
    hourOfHalf := ← agree? fields.hourOfHalf (hour % 12) }

def setMinute? (fields : DateFields) (value : Int) : Option DateFields := do
  return { fields with minute := ← agree? fields.minute (← within? 0 59 value) }

def setSecond? (fields : DateFields) (value : Int) : Option DateFields := do
  return { fields with second := ← agree? fields.second (← within? 0 60 value) }

def setNanos? (fields : DateFields) (value : Int) : Option DateFields := do
  return { fields with nanos := ← agree? fields.nanos (← within? 0 999999999 value) }

def setTimestamp? (fields : DateFields) (value : Int) : Option DateFields := do
  return { fields with timestamp := ← agree? fields.timestamp value }

def setOffset? (fields : DateFields) (value : Int) : Option DateFields := do
  return { fields with offset := ← agree? fields.offset value }

/-- A year from a full year, a century and a year of the century. Without a century the years up to
69 are those from 2000 on. -/
def resolveYear (year century yearOfCentury : Option Int) : Except FieldError (Option Int) :=
  match year, century, yearOfCentury with
  | year, none, none => .ok year
  | some year, century, rest =>
      if 0 ≤ year && century.getD (year / 100) == year / 100 && rest.getD (year % 100) == year % 100
      then .ok (some year)
      else .error .impossible
  | none, some century, some rest =>
      if 0 ≤ century && century * 100 + rest < 0x80000000 then .ok (some (century * 100 + rest))
      else .error .impossible
  | none, none, some rest => .ok (some (rest + if rest < 70 then 2000 else 1900))
  | none, some _, none => .error .insufficient

/-- The day in the week with the given number, where weeks begin with the weekday `first`. -/
def dayOfWeek? (year : Int) (week weekday first : Nat) : Option Day := do
  let start ← Day.ofOrdinal? year 1
  let firstWeek := 1 + (first + 7 - start.weekday) % 7
  let ordinal : Int := firstWeek + ((week : Int) - 1) * 7 + ((weekday + 7 - first) % 7 : Nat)
  if ordinal ≤ 0 then none else Day.ofOrdinal? year ordinal.toNat

/-- Whether fields of a year agree with it. -/
def agreesYear (year century yearOfCentury : Option Int) (actual : Int) : Bool :=
  year.getD actual == actual &&
    (if 0 ≤ actual then
      century.getD (actual / 100) == actual / 100 && yearOfCentury.getD (actual % 100) == actual % 100
    else century.isNone && yearOfCentury.isNone)

/-- Whether the year, the month and the day of the month agree with a day. -/
def agreesDay (fields : DateFields) (d : Day) : Bool :=
  agreesYear fields.year fields.century fields.yearOfCentury d.year &&
    fields.month.getD d.month == d.month && fields.day.getD d.day == d.day

/-- Whether the year of the week, its number and the weekday agree with a day. -/
def agreesWeek (fields : DateFields) (d : Day) : Bool :=
  let (year, week) := d.isoWeek
  agreesYear fields.weekYear none fields.weekYearOfCentury year &&
    fields.isoWeek.getD week == week && fields.weekday.getD d.weekday == d.weekday

/-- Whether the day of the year and the numbers of plain weeks agree with a day. -/
def agreesOrdinal (fields : DateFields) (d : Day) : Bool :=
  let fromSunday := d.weekFrom 6
  let fromMonday := d.weekFrom 0
  fields.ordinal.getD d.ordinal == d.ordinal &&
    fields.weekFromSunday.getD fromSunday == fromSunday &&
    fields.weekFromMonday.getD fromMonday == fromMonday

/-- A day that other fields must agree with. -/
def checked (fields : DateFields) (day : Option Day) (agrees : Day → Bool) :
    Except FieldError Day :=
  match day with
  | none => .error .impossible
  | some d =>
      if agrees d && fields.quarter.getD d.quarter == d.quarter then .ok d
      else .error .impossible

/-- The day that the fields give: by month and day, by the day of the year, by a week and a weekday
of the year, or by the year of the week. -/
def date? (fields : DateFields) : Except FieldError Day := do
  let year ← resolveYear fields.year fields.century fields.yearOfCentury
  let weekYear ← resolveYear fields.weekYear none fields.weekYearOfCentury
  let all (d : Day) : Bool := fields.agreesDay d && fields.agreesWeek d && fields.agreesOrdinal d
  match year, fields.month, fields.day with
  | some year, some month, some day =>
      fields.checked (Day.ofCivil? year month day) fun d =>
        fields.agreesWeek d && fields.agreesOrdinal d
  | _, _, _ =>
  match year, fields.ordinal with
  | some year, some ordinal => fields.checked (Day.ofOrdinal? year ordinal) all
  | _, _ =>
  match year, fields.weekFromSunday, fields.weekday with
  | some year, some week, some weekday => fields.checked (dayOfWeek? year week weekday 6) all
  | _, _, _ =>
  match year, fields.weekFromMonday, fields.weekday with
  | some year, some week, some weekday => fields.checked (dayOfWeek? year week weekday 0) all
  | _, _, _ =>
  match weekYear, fields.isoWeek, fields.weekday with
  | some year, some week, some weekday =>
      fields.checked (Day.ofIsoWeek? year week weekday) fun d =>
        fields.agreesDay d && fields.agreesOrdinal d
  | _, _, _ => throw .insufficient

/-- The time of a day that the fields give, as hour, minute, second and nanoseconds. The second 60
is a leap second, and nanoseconds need a second. -/
def clock? (fields : DateFields) : Except FieldError (Nat × Nat × Nat × Nat) :=
  match fields.halfDay, fields.hourOfHalf, fields.minute with
  | some half, some hour, some minute =>
      if fields.nanos.isSome && fields.second.isNone then .error .insufficient
      else
        let second := fields.second.getD 0
        let nanos := fields.nanos.getD 0
        if second = 60 then .ok (half * 12 + hour, minute, 59, 1000000000 + nanos)
        else .ok (half * 12 + hour, minute, second, nanos)
  | _, _, _ => .error .insufficient

def readingOn (d : Day) (clock : Nat × Nat × Nat × Nat) : Reading :=
  ⟨d, clock.1, clock.2.1, clock.2.2.1, clock.2.2.2⟩

/-- The fields completed from the seconds since the start of 1970 on a local clock. -/
def completed? (fields : DateFields) (seconds : Int) : Option DateFields := do
  let instant ← Instant.ofSeconds? seconds 0
  let r := instant.reading 0
  let (r, fields) ←
    if fields.second = some 60 then
      if r.second = 59 then some (r, fields)
      else if r.second = 0 then do
        let earlier ← Instant.ofSeconds? (seconds - 1) 0
        some (earlier.reading 0, fields)
      else none
    else do
      let fields ← fields.setSecond? r.second
      some (r, fields)
  let fields ← fields.setYear? r.day.year
  let fields ← fields.setOrdinal? r.day.ordinal
  let fields ← fields.setHour? r.hour
  fields.setMinute? r.minute

/-- The reading that the fields give on a clock with the given offset from universal time. Without
a full date and time it is found from a timestamp. -/
def reading? (fields : DateFields) (offset : Int) : Except FieldError Reading :=
  match fields.date?, fields.clock? with
  | .ok d, .ok clock =>
      let r := readingOn d clock
      match fields.timestamp with
      | none => .ok r
      | some given =>
          let seconds := r.seconds - offset
          if given = seconds || (1000000000 ≤ r.nanos && given = seconds + 1) then .ok r
          else .error .impossible
  | date, clock =>
      match fields.timestamp with
      | none => do
          let d ← date
          return readingOn d (← clock)
      | some given =>
          if date matches .error .impossible || clock matches .error .impossible then
            .error .impossible
          else
            match fields.completed? (given + offset) with
            | none => .error .impossible
            | some fields => do
                let d ← fields.date?
                return readingOn d (← fields.clock?)

/-- The instant that the fields give. It needs an offset or a timestamp. -/
def instant? (fields : DateFields) : Option Instant :=
  let offset? := fields.offset <|> fields.timestamp.map fun _ => 0
  match offset? with
  | none => none
  | some offset =>
      match fields.reading? offset with
      | .ok r => if offset.natAbs < 86400 then Instant.ofReading? r offset else none
      | .error _ => none

end DateFields

end PathQuery.Time
