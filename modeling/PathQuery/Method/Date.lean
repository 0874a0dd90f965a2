import PathQuery.Method
import PathQuery.Time.LayoutReader
import PathQuery.Time.LayoutText
import PathQuery.Time.Step

/-!
The methods of the namespace `date`. Layouts say how dates are read and written. Zones are fixed
offsets; without one, dates are read and written in universal time.
-/

namespace PathQuery.Method

open Time (Instant Zone)

def dateSpace : String := "date"

def dateFailure (name reason : String) : EvalError :=
  .invocation s!"{dateSpace}.{name}" reason

/-- The zone that a value names. What is no text names universal time. -/
def zoneOf (name : String) (value : Option Value) : Except EvalError Zone :=
  match value with
  | some (.string text) =>
      let text := Text.trim text
      match Time.readZone? text with
      | some zone => .ok zone
      | none => .error (dateFailure name s!"unknown time zone '{text}'")
  | _ => .ok 0

/-- The date that a text gives by a layout, or in one of the usual forms if there is none. -/
def parseDate (text layout : Value) (zone? : Option Value) : Except EvalError Value :=
  match text with
  | .string text => do
      let zone ← zoneOf "parse" zone?
      let instant? := match layout with
        | .string layout => Time.readByLayout? layout zone text
        | _ => Time.readDate? text
      match instant? with
      | some instant => return .date instant
      | none => throw (dateFailure "parse" s!"'{text}' is not a recognised date")
  | _ => .ok .null

def dateText (layout : String) (zone : Zone) (instant : Instant) : Except EvalError String :=
  match Time.format? layout zone instant with
  | some text => .ok text
  | none => .error (dateFailure "format" s!"invalid pattern '{layout}'")

def formatDate (date layout : Value) (zone? : Option Value) : Except EvalError Value :=
  match date, layout with
  | .date instant, .string layout => do
      let zone ← zoneOf "format" zone?
      return .string (← dateText layout zone instant)
  | _, _ => .ok .null

def millisOf : Value → Except EvalError Value
  | .date instant => .ok (.long (Int64.ofInt instant.millis))
  | _ => .ok .null

/-- A date without what a layout does not show of it. -/
def truncated (layout : String) (zone : Zone) (instant : Instant) : Except EvalError Instant := do
  let text ← dateText layout zone instant
  return (Time.readByLayout? layout zone text).getD instant

/-- The dates from one to another. With a layout, both ends lose what the layout does not show, and
the dates are written by it. -/
def dateRange (first last increment : Value) (layout? zone? : Option Value) :
    Except EvalError Value :=
  match first, last, increment with
  | .date first, .date last, .string increment => do
      let step ← match Time.Step.ofText? increment with
        | some step => pure step
        | none => throw (dateFailure "range" s!"invalid increment '{increment}'")
      let zone ← zoneOf "range" zone?
      let through (first last : Instant) : Except EvalError (List Instant) :=
        match step.datesThrough? last first with
        | some dates => .ok dates
        | none => .error (dateFailure "range" s!"'{increment}' steps out of range")
      match layout? with
      | some (.string layout) => do
          let first ← truncated layout zone first
          let last ← truncated layout zone last
          let texts ← (← through first last).mapM (dateText layout zone)
          return .array (texts.map .string)
      | _ => do
          return .array ((← through first last).map .date)
  | _, _, _ => .ok .null

/-- The methods of the namespace, given the present time. -/
def dateMethods (now : Instant) : List StandardMethod :=
  let string := ofType .string
  let date := ofType .date
  let parse (values : List Value) : Option (Except EvalError Value) :=
    return parseDate (← values[0]?) (← values[1]?) values[2]?
  let format (values : List Value) : Option (Except EvalError Value) :=
    return formatDate (← values[0]?) (← values[1]?) values[2]?
  let range (values : List Value) : Option (Except EvalError Value) :=
    return dateRange (← values[0]?) (← values[1]?) (← values[2]?) values[3]? values[4]?
  [{ name := "now", parameters := [], read := fun _ => some (.ok (.date now)) },
    { name := "parse", parameters := [string, string], read := parse },
    { name := "parse", parameters := [string, string, string], read := parse },
    { name := "format", parameters := [date, string], read := format },
    { name := "format", parameters := [date, string, string], read := format },
    { name := "range", parameters := [date, date, string], read := range },
    { name := "range", parameters := [date, date, string, string], read := range },
    { name := "range", parameters := [date, date, string, string, string], read := range },
    { name := "millis", parameters := [date], read := fun values => return millisOf (← values[0]?) }]

def dates (now : Instant) : MethodGroup where
  space? := some dateSpace
  methods := (dateMethods now).map StandardMethod.method

end PathQuery.Method
