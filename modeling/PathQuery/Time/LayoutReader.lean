import PathQuery.Time.DateFields
import PathQuery.Time.Layout

/-!
Reading dates and times: by a layout, and in the notation of timestamps, as in
`2024-02-03T10:00:00Z`.
-/

namespace PathQuery.Time

/-- Reads a part of a text into fields and answers the rest. -/
abbrev FieldReader := DateFields → List Char → Option (DateFields × List Char)

def skipBlanks (cs : List Char) : List Char :=
  cs.dropWhile Text.isBlank

/-- Reads a number of at least `least` and at most `most` digits, which 64 bits hold. -/
def readDigits? (least most : Nat) (cs : List Char) : Option (Nat × List Char) :=
  let digits := (cs.take most).takeWhile Char.isDigit
  let n := Nat.ofDigitChars 10 digits 0
  if digits.length < least || 0x8000000000000000 ≤ n then none else some (n, cs.drop digits.length)

/-- Reads a number with a sign, or one of at most `most` digits without a sign. -/
def readSigned? (most : Nat) : List Char → Option (Int × List Char)
  | '-' :: cs => (readDigits? 1 cs.length cs).map fun (n, rest) => (-(n : Int), rest)
  | '+' :: cs => (readDigits? 1 cs.length cs).map fun (n, rest) => ((n : Int), rest)
  | cs => (readDigits? 1 most cs).map fun (n, rest) => ((n : Int), rest)

def readText? (text cs : List Char) : Option (List Char) :=
  if text.isPrefixOf cs then some (cs.drop text.length) else none

/-- Whether a text begins with another, whatever the case of ASCII letters. -/
def beginsWith (text cs : List Char) : Bool :=
  cs.length ≥ text.length &&
    ((cs.take text.length).map Char.toLower) == text.map Char.toLower

/-- Reads the first three letters of a name and answers its place; with `long`, the other letters
are read as well if they follow. -/
def readName? (long : Bool) (names : List String) (cs : List Char) : Option (Nat × List Char) := do
  let index ← names.findIdx? fun name => beginsWith (name.toList.take 3) cs
  let rest := cs.drop 3
  let others := (nameAt names index).toList.drop 3
  return (index, if long && beginsWith others rest then rest.drop others.length else rest)
where
  nameAt (names : List String) (index : Nat) : String :=
    names.getD index ""

/-- Reads at most nine digits of a fraction of a second and passes over further ones. -/
def readFraction? (cs : List Char) : Option (Nat × List Char) := do
  let (n, rest) ← readDigits? 1 9 cs
  return (n * Nat.pow 10 (9 - (cs.length - rest.length)), rest.dropWhile Char.isDigit)

def readFractionDigits? (count : Nat) (cs : List Char) : Option (Nat × List Char) := do
  let (n, rest) ← readDigits? count count cs
  return (n * Nat.pow 10 (9 - count), rest)

/-- How an offset may be written. -/
structure OffsetStyle where
  /-- What may stand between hours and minutes. -/
  separator : List Char → Option (List Char)
  allowZulu : Bool := false
  allowMissingMinutes : Bool := false

/-- Colons and white space, as many as there are. -/
def looseSeparator (cs : List Char) : Option (List Char) :=
  some (cs.dropWhile fun c => c == ':' || Text.isBlank c)

def colon : List Char → Option (List Char)
  | ':' :: rest => some rest
  | _ => none

def readSign? : List Char → Option (Bool × List Char)
  | '+' :: rest => some (false, rest)
  | '-' :: rest => some (true, rest)
  | '−' :: rest => some (true, rest)
  | _ => none

def readOffset? (style : OffsetStyle) (cs : List Char) : Option (Int × List Char) :=
  match style.allowZulu, cs with
  | true, 'Z' :: rest => some (0, rest)
  | true, 'z' :: rest => some (0, rest)
  | _, cs => do
      let (negative, cs) ← readSign? cs
      let (hours, cs) ← readDigits? 2 2 cs
      let cs ← style.separator cs
      let (minutes, cs) ←
        if cs.isEmpty && style.allowMissingMinutes then some (0, cs) else readDigits? 2 2 cs
      if 60 ≤ minutes then none
      else
        let size : Int := hours * 3600 + minutes * 60
        some (if negative then -size else size, cs)

def readNumber? (field : NumberField) : FieldReader := fun fields cs => do
  let cs := skipBlanks cs
  let digits (most : Nat) (set : Int → Option DateFields) : Option (DateFields × List Char) := do
    let (n, rest) ← readDigits? 1 most cs
    return (← set n, rest)
  let signed (set : Int → Option DateFields) : Option (DateFields × List Char) := do
    let (n, rest) ← readSigned? 4 cs
    return (← set n, rest)
  match field with
  | .year => signed fields.setYear?
  | .century => digits 2 fields.setCentury?
  | .yearOfCentury => digits 2 fields.setYearOfCentury?
  | .weekYear => signed fields.setWeekYear?
  | .weekYearOfCentury => digits 2 fields.setWeekYearOfCentury?
  | .quarter => digits 1 fields.setQuarter?
  | .month => digits 2 fields.setMonth?
  | .day => digits 2 fields.setDay?
  | .weekFromSunday => digits 2 fields.setWeekFromSunday?
  | .weekFromMonday => digits 2 fields.setWeekFromMonday?
  | .isoWeek => digits 2 fields.setIsoWeek?
  | .weekdayFromSunday => digits 1 fun n => if n ≤ 6 then fields.setWeekday? ((n + 6) % 7) else none
  | .weekdayFromMonday => digits 1 fun n => fields.setWeekday? (n - 1)
  | .ordinal => digits 3 fields.setOrdinal?
  | .hour => digits 2 fields.setHour?
  | .hourOfHalf => digits 2 fields.setHourOfHalf?
  | .minute => digits 2 fields.setMinute?
  | .second => digits 2 fields.setSecond?
  | .nanos => digits 9 fields.setNanos?
  | .timestamp => digits cs.length fields.setTimestamp?

/-- Reads digits with what may stand between them. -/
def readNumbers? : List (NumberField × List Char) → FieldReader
  | [], fields, cs => some (fields, cs)
  | (field, mark) :: others, fields, cs => do
      let (fields, cs) ← readNumber? field fields (← readText? mark cs)
      readNumbers? others fields cs

/-- Reads a fraction of a second after a point, if there is one. -/
def readPoint? (read : List Char → Option (Nat × List Char)) : FieldReader
  | fields, '.' :: cs => do
      let (nanos, rest) ← read cs
      return (← fields.setNanos? nanos, rest)
  | fields, cs => some (fields, cs)

def readDateTimeMark? : List Char → Option (List Char)
  | 'T' :: rest => some rest
  | 't' :: rest => some rest
  | ' ' :: rest => some rest
  | _ => none

/-- Reads date, time and offset, where numbers may be shorter than usual. -/
def readLooseDateTime? : FieldReader := fun fields cs => do
  let (fields, cs) ← readNumbers? [(.year, []), (.month, ['-']), (.day, ['-'])] fields cs
  let (fields, cs) ←
    readNumbers? [(.hour, []), (.minute, [':']), (.second, [':'])] fields (← readDateTimeMark? cs)
  let (fields, cs) ← readPoint? readFraction? fields cs
  let cs := skipBlanks cs
  let (offset, cs) ←
    if beginsWith ['u', 't', 'c'] cs then some (0, cs.drop 3)
    else readOffset? { separator := looseSeparator, allowZulu := true } cs
  return (← fields.setOffset? offset, cs)

def readHalf? (cs : List Char) : Option (Bool × List Char) :=
  if beginsWith ['a', 'm'] cs then some (false, cs.drop 2)
  else if beginsWith ['p', 'm'] cs then some (true, cs.drop 2)
  else none

/-- Reads a field that is a word, a fraction or an offset. -/
def readField? (field : TextField) : FieldReader := fun fields cs => do
  let month (long : Bool) : Option (DateFields × List Char) := do
    let (index, rest) ← readName? long monthNames cs
    return (← fields.setMonth? (index + 1 : Nat), rest)
  let weekday (long : Bool) : Option (DateFields × List Char) := do
    let (index, rest) ← readName? long weekdayNames cs
    return (← fields.setWeekday? index, rest)
  let half : Option (DateFields × List Char) := do
    let (afternoon, rest) ← readHalf? cs
    return (← fields.setHalfDay? afternoon, rest)
  let offset (style : OffsetStyle) : Option (DateFields × List Char) := do
    let (offset, rest) ← readOffset? style (skipBlanks cs)
    return (← fields.setOffset? offset, rest)
  match field with
  | .shortMonth => month false
  | .longMonth => month true
  | .shortWeekday => weekday false
  | .longWeekday => weekday true
  | .lowerHalf | .upperHalf => half
  | .fraction => readPoint? readFraction? fields cs
  | .fractionDigits count => readPoint? (readFractionDigits? count) fields cs
  | .bareFraction count => do
      let (nanos, rest) ← readFractionDigits? count cs
      return (← fields.setNanos? nanos, rest)
  | .zoneName => some (fields, cs.dropWhile fun c => !Text.isBlank c)
  | .offset _ | .offsetSeconds | .offsetHours => offset { separator := looseSeparator }
  | .looseOffset =>
      offset { separator := looseSeparator, allowZulu := true, allowMissingMinutes := true }
  | .dateTime => readLooseDateTime? fields cs

def readItem? : LayoutItem → FieldReader
  | .literal text, fields, cs => (readText? text cs).map (fields, ·)
  | .blank _, fields, cs => some (fields, skipBlanks cs)
  | .number field _, fields, cs => readNumber? field fields cs
  | .text field, fields, cs => readField? field fields cs

def readItems? : List LayoutItem → FieldReader
  | [], fields, cs => some (fields, cs)
  | item :: items, fields, cs => do
      let (fields, cs) ← readItem? item fields cs
      readItems? items fields cs

def fieldsByLayout? (layout text : String) : Option DateFields := do
  let (fields, rest) ← readItems? (← layout? layout) {} text.toList
  if rest.isEmpty then some fields else none

namespace DateFields

/-- The fields with the first of January 1970, and midnight, for those that are missing. The hour of
an afternoon is not supplied. -/
def withDefaults (fields : DateFields) : DateFields :=
  let morning := fields.halfDay.all (· == 0)
  { fields with
    year := fields.year <|> some 1970
    month := fields.month <|> some 1
    day := fields.day <|> some 1
    halfDay := fields.halfDay <|> some 0
    hourOfHalf := if morning then fields.hourOfHalf <|> some 0 else fields.hourOfHalf
    minute := fields.minute <|> some 0
    second := fields.second <|> some 0 }

/-- The reading of a text without an offset of its own: by all its fields, by its day alone, or with
what is missing supplied. -/
def localReading? (fields : DateFields) : Option Reading :=
  match fields.reading? 0, fields.date?, fields.withDefaults.reading? 0 with
  | .ok r, _, _ => some r
  | _, .ok d, _ => some ⟨d, 0, 0, 0, 0⟩
  | _, _, .ok r => some r
  | _, _, _ => none

end DateFields

def readByLayout? (layout : String) (zone : Zone) (text : String) : Option Instant := do
  let fields ← fieldsByLayout? layout text
  match fields.instant? with
  | some instant => some instant
  | none => Instant.ofReading? (← fields.localReading?) zone

/-- Reads numbers of a fixed count of digits with marks before them. -/
def readFixed? : List (Nat × List Char) → List Char → Option (List Nat × List Char)
  | [], cs => some ([], cs)
  | (count, mark) :: others, cs => do
      let (n, cs) ← readDigits? count count (← readText? mark cs)
      let (ns, cs) ← readFixed? others cs
      return (n :: ns, cs)

/-- The instant of a timestamp, as in `2024-02-03T10:00:00Z`: all numbers have their full count of
digits, a fraction may follow the seconds, and the offset is not missing. -/
def readTimestamp? (text : String) : Option Instant := do
  let (date, cs) ← readFixed? [(4, []), (2, ['-']), (2, ['-'])] text.toList
  let (clock, cs) ← readFixed? [(2, []), (2, [':']), (2, [':'])] (← readDateTimeMark? cs)
  match date, clock with
  | [year, month, day], [hour, minute, second] => do
      let fields : DateFields := {}
      let fields ← fields.setYear? year
      let fields ← fields.setMonth? month
      let fields ← fields.setDay? day
      let fields ← fields.setHour? hour
      let fields ← fields.setMinute? minute
      let fields ← fields.setSecond? second
      let (fields, cs) ← readPoint? readFraction? fields cs
      let (offset, rest) ← readOffset? { separator := colon, allowZulu := true } cs
      let fields ← fields.setOffset? offset
      if rest.isEmpty && offset.natAbs < 86400 then fields.instant? else none
  | _, _ => none

/-- The instant that a text gives by itself: a timestamp, or a day, which stands for its start in
universal time. -/
def readDate? (text : String) : Option Instant :=
  let text := Text.trim text
  match readTimestamp? text with
  | some instant => some instant
  | none => do
      let fields ← fieldsByLayout? "%Y-%m-%d" text
      match fields.date? with
      | .ok d => Instant.ofReading? ⟨d, 0, 0, 0, 0⟩ 0
      | .error _ => none

/-- The zone that a text names: universal time, or an offset, after which anything may follow. -/
def readZone? (text : String) : Option Zone :=
  let name := text.map Char.toLower
  if name == "utc" || name == "z" then some 0
  else do
    let (offset, _) ← readOffset? { separator := looseSeparator } text.toList
    if offset.natAbs < 86400 then some offset else none

end PathQuery.Time
