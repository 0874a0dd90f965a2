import PathQuery.Time.Instant
import PathQuery.Time.Layout

/-!
Writing dates and times by a layout.
-/

namespace PathQuery.Time

/-- Two digits. A number of more than two has a character beyond the digits for its tens. -/
def twoDigits (padding : Padding) (n : Nat) : List Char :=
  let ones := Char.ofNat ('0'.toNat + n % 10)
  match n / 10, padding with
  | 0, .none => [ones]
  | 0, .space => [' ', ones]
  | tens, _ => [Char.ofNat ('0'.toNat + tens), ones]

/-- A number of at least so many digits, with a sign if it is negative or one is asked for. The
sign takes no place from the digits if one is asked for. -/
def signedDigits (padding : Padding) (width : Nat) (alwaysSigned : Bool) (n : Int) : List Char :=
  let sign := if n < 0 then ['-'] else if alwaysSigned then ['+'] else []
  let digits := Nat.toDigits 10 n.natAbs
  let total := if alwaysSigned then width + 1 else width
  let missing := total - (sign.length + digits.length)
  match padding with
  | .none => sign ++ digits
  | .zero => sign ++ List.replicate missing '0' ++ digits
  | .space => List.replicate missing ' ' ++ sign ++ digits

/-- A year, with a sign outside of the years that have four digits. -/
def paddedYear (padding : Padding) (year : Int) : List Char :=
  signedDigits padding 4 (year < 0 || 9999 < year) year

/-- The sign, hours and minutes of an offset, and its seconds. -/
def offsetParts (zone : Zone) : List Char × List Char × List Char × List Char :=
  let size := zone.natAbs
  ([if zone < 0 then '-' else '+'], padded 2 (size / 3600), padded 2 (size / 60 % 60),
    padded 2 (size % 60))

def shortName (name : String) : List Char :=
  name.toList.take 3

def nameAt (names : List String) (index : Nat) : String :=
  names.getD index ""

def numberText (r : Reading) (zone : Zone) (field : NumberField) (padding : Padding) :
    List Char :=
  let d := r.day
  let two (n : Nat) : List Char := twoDigits padding n
  let one (n : Nat) : List Char := Nat.toDigits 10 n
  match field with
  | .year => paddedYear padding d.year
  | .century => two ((d.year / 100) % 256).toNat
  | .yearOfCentury => two (d.year % 100).toNat
  | .weekYear => paddedYear padding d.isoWeek.1
  | .weekYearOfCentury => two (d.isoWeek.1 % 100).toNat
  | .quarter => one d.quarter
  | .month => two d.month
  | .day => two d.day
  | .weekFromSunday => two (d.weekFrom 6)
  | .weekFromMonday => two (d.weekFrom 0)
  | .isoWeek => two d.isoWeek.2
  | .weekdayFromSunday => one ((d.weekday + 1) % 7)
  | .weekdayFromMonday => one (d.weekday + 1)
  | .ordinal => signedDigits padding 3 false d.ordinal
  | .hour => two r.hour
  | .hourOfHalf => two (if r.hour % 12 = 0 then 12 else r.hour % 12)
  | .minute => two r.minute
  | .second => two r.shownSecond
  | .nanos => signedDigits padding 9 false r.shownNanos
  | .timestamp => signedDigits padding 9 false (r.seconds - zone)

/-- Writes a field that is a word, a fraction or an offset. -/
def fieldText? (r : Reading) (zone : Zone) (field : TextField) : Option (List Char) :=
  let month := nameAt monthNames (r.day.month - 1)
  let weekday := nameAt weekdayNames r.day.weekday
  let (sign, hours, minutes, seconds) := offsetParts zone
  let fraction (count : Nat) : List Char := padded count (r.shownNanos / Nat.pow 10 (9 - count))
  match field with
  | .shortMonth => some (shortName month)
  | .longMonth => some month.toList
  | .shortWeekday => some (shortName weekday)
  | .longWeekday => some weekday.toList
  | .lowerHalf => some (if r.hour < 12 then ['a', 'm'] else ['p', 'm'])
  | .upperHalf => some (if r.hour < 12 then ['A', 'M'] else ['P', 'M'])
  | .fraction => some (fractionChars r.shownNanos)
  | .fractionDigits count => some ('.' :: fraction count)
  | .bareFraction count => some (fraction count)
  | .zoneName => some (zoneChars zone)
  | .offset colon => some (sign ++ hours ++ (if colon then [':'] else []) ++ minutes)
  | .offsetSeconds => some (sign ++ hours ++ ':' :: minutes ++ ':' :: seconds)
  | .offsetHours => some (sign ++ hours)
  | .looseOffset => none
  | .dateTime => some (r.timestampChars zone)

def itemText? (r : Reading) (zone : Zone) : LayoutItem → Option (List Char)
  | .literal text => some text
  | .blank text => some text
  | .number field padding => some (numberText r zone field padding)
  | .text field => fieldText? r zone field

/-- An instant written by a layout, as calendar and clock show it in a zone. -/
def format? (layout : String) (zone : Zone) (instant : Instant) : Option String := do
  let items ← layout? layout
  let pieces ← items.mapM (itemText? (instant.reading zone) zone)
  return String.ofList pieces.flatten

end PathQuery.Time
