import PathQuery.Time.Calendar
import PathQuery.Number.Integer

/-!
Instants of universal time, to the nanosecond, and their texts. A leap second is the second before
it with a billion nanoseconds more.
-/

namespace PathQuery.Time

/-- The first second that has an instant, counted from the start of 1970. -/
def minSeconds : Int := (Day.mk minYear 1 1).number * 86400

def maxSeconds : Int := (Day.mk maxYear 12 31).number * 86400 + 86399

/-- A point in time: whole seconds since the start of 1970, and nanoseconds, which reach into a
second billion during a leap second. -/
structure Instant where
  seconds : Int
  nanos : Nat
  seconds_supported : minSeconds ≤ seconds ∧ seconds ≤ maxSeconds
  nanos_lt : nanos < 2000000000
deriving DecidableEq

/-- A reading of a calendar and a clock, in some time zone. -/
structure Reading where
  day : Day
  hour : Nat
  minute : Nat
  second : Nat
  nanos : Nat
deriving DecidableEq

/-- A difference from universal time in seconds, of less than a day. -/
abbrev Zone := Int

/-- The number in decimal, with zeros before it up to the given width. -/
def padded (width n : Nat) : List Char :=
  let digits := Nat.toDigits 10 n
  List.replicate (width - digits.length) '0' ++ digits

/-- A year of four digits, or with its sign when it is negative or has more digits. -/
def yearChars (year : Int) : List Char :=
  if 0 ≤ year && year ≤ 9999 then padded 4 year.toNat
  else (if year < 0 then '-' else '+') :: padded 4 year.natAbs

/-- Hours and minutes of a zone, with a colon. -/
def zoneChars (zone : Zone) : List Char :=
  let minutes := zone.natAbs / 60
  (if zone < 0 then '-' else '+') :: (padded 2 (minutes / 60) ++ ':' :: padded 2 (minutes % 60))

/-- The point and digits of a fraction of a second: none, three, six or nine. -/
def fractionChars (nanos : Nat) : List Char :=
  if nanos = 0 then []
  else if nanos % 1000000 = 0 then '.' :: padded 3 (nanos / 1000000)
  else if nanos % 1000 = 0 then '.' :: padded 6 (nanos / 1000)
  else '.' :: padded 9 nanos

namespace Reading

/-- The second of the minute, which is 60 during a leap second. -/
def shownSecond (r : Reading) : Nat :=
  r.second + r.nanos / 1000000000

/-- The nanoseconds within the second shown. -/
def shownNanos (r : Reading) : Nat :=
  r.nanos % 1000000000

/-- The date and time with the zone, as in `2024-02-03T10:00:00+00:00`. -/
def timestampChars (r : Reading) (zone : Zone) : List Char :=
  yearChars r.day.year ++ '-' :: padded 2 r.day.month ++ '-' :: padded 2 r.day.day ++
    'T' :: padded 2 r.hour ++ ':' :: padded 2 r.minute ++ ':' :: padded 2 r.shownSecond ++
    fractionChars r.shownNanos ++ zoneChars zone

def seconds (r : Reading) : Int :=
  r.day.number * 86400 + (r.hour * 3600 + r.minute * 60 + r.second : Nat)

end Reading

namespace Instant

def ofSeconds? (seconds : Int) (nanos : Nat) : Option Instant :=
  if bounds : (minSeconds ≤ seconds ∧ seconds ≤ maxSeconds) ∧ nanos < 2000000000 then
    some ⟨seconds, nanos, bounds.1, bounds.2⟩
  else none

/-- What calendar and clock show in a zone. -/
def reading (instant : Instant) (zone : Zone) : Reading :=
  let shifted := instant.seconds + zone
  let clock := (shifted % 86400).toNat
  ⟨Day.ofNumber (shifted / 86400), clock / 3600, clock / 60 % 60, clock % 60, instant.nanos⟩

/-- The instant at which calendar and clock show a reading in a zone. -/
def ofReading? (r : Reading) (zone : Zone) : Option Instant :=
  ofSeconds? (r.seconds - zone) r.nanos

/-- Milliseconds since the start of 1970, rounded down. -/
def millis (instant : Instant) : Int :=
  instant.seconds * 1000 + (instant.nanos / 1000000 : Nat)

/-- The instant a number of milliseconds after the start of 1970. -/
def ofMillis? (millis : Int) : Option Instant :=
  ofSeconds? (millis / 1000) ((millis % 1000).toNat * 1000000)

/-- The place of an instant in the order of time, where every second has room for a leap second. -/
def ticks (instant : Instant) : Int :=
  instant.seconds * 2000000000 + instant.nanos

instance : LE Instant := ⟨fun left right => left.ticks ≤ right.ticks⟩

instance : LT Instant := ⟨fun left right => left.ticks < right.ticks⟩

instance (left right : Instant) : Decidable (left ≤ right) :=
  inferInstanceAs (Decidable (left.ticks ≤ right.ticks))

instance (left right : Instant) : Decidable (left < right) :=
  inferInstanceAs (Decidable (left.ticks < right.ticks))

theorem ticks_le_iff {left right : Instant} :
    left.ticks ≤ right.ticks ↔
      left.seconds < right.seconds ∨ left.seconds = right.seconds ∧ left.nanos ≤ right.nanos := by
  have := left.nanos_lt
  have := right.nanos_lt
  simp only [ticks]
  omega

/-- The instant a number of milliseconds later. A leap second is left as soon as a whole second has
gone by or its own nanoseconds are used up. -/
def addMillis? (instant : Instant) (millis : Nat) : Option Instant :=
  let seconds := millis / 1000
  let nanos := millis % 1000 * 1000000
  if 1000000000 ≤ instant.nanos && seconds = 0 && instant.nanos + nanos < 2000000000 then
    ofSeconds? instant.seconds (instant.nanos + nanos)
  else
    let base := if 1000000000 ≤ instant.nanos then instant.nanos - 1000000000 else instant.nanos
    let total := base + nanos
    ofSeconds? (instant.seconds + seconds + (total / 1000000000 : Nat)) (total % 1000000000)

def addMonths? (instant : Instant) (months : Nat) : Option Instant :=
  let now := instant.reading 0
  if 0x80000000 ≤ months then none
  else do
    let day ← now.day.addMonths? months
    ofReading? { now with day } 0

def chars (instant : Instant) : List Char :=
  (instant.reading 0).timestampChars 0

def text (instant : Instant) : String :=
  String.ofList instant.chars

end Instant

end PathQuery.Time
