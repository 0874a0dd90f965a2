import PathQuery.Text.Blank

/-!
Layouts of dates and times: texts in which `%` and a letter stand for a field, white space for
white space, and all other characters for themselves.
-/

namespace PathQuery.Time

/-- What fills the places before the digits of a number. -/
inductive Padding where
  | zero
  | space
  | none
deriving DecidableEq

inductive NumberField where
  | year
  | century
  | yearOfCentury
  | weekYear
  | weekYearOfCentury
  | quarter
  | month
  | day
  | weekFromSunday
  | weekFromMonday
  | isoWeek
  | weekdayFromSunday
  /-- The day of the week from Monday, which is one. -/
  | weekdayFromMonday
  | ordinal
  | hour
  | hourOfHalf
  | minute
  | second
  | nanos
  | timestamp
deriving DecidableEq

/-- A field that is a word, a fraction or an offset. -/
inductive TextField where
  | shortMonth
  | longMonth
  | shortWeekday
  | longWeekday
  | lowerHalf
  | upperHalf
  /-- A point and as many digits as are needed; nothing for a whole second. -/
  | fraction
  /-- A point and a number of digits. -/
  | fractionDigits (count : Nat)
  /-- A number of digits. -/
  | bareFraction (count : Nat)
  | zoneName
  | offset (colon : Bool)
  /-- An offset in hours, minutes and seconds. -/
  | offsetSeconds
  | offsetHours
  /-- An offset that may be shortened or be the letter `Z`; it can only be read. -/
  | looseOffset
  /-- Date, time and offset, as in `2024-02-03T10:00:00+00:00`. -/
  | dateTime
deriving DecidableEq

inductive LayoutItem where
  | literal (text : List Char)
  | blank (text : List Char)
  | number (field : NumberField) (padding : Padding)
  | text (field : TextField)
deriving DecidableEq

namespace LayoutItem

/-- The items that a letter stands for, and whether they are a single number, whose padding can be
changed. -/
def ofLetter? (letter : Char) : Option (List LayoutItem) :=
  let zero (field : NumberField) : LayoutItem := .number field .zero
  let plain (field : NumberField) : LayoutItem := .number field .none
  let mark (c : Char) : LayoutItem := .literal [c]
  let clock := [zero .hour, mark ':', zero .minute, mark ':', zero .second]
  let american := [zero .month, mark '/', zero .day, mark '/', zero .yearOfCentury]
  match letter with
  | 'A' => some [.text .longWeekday]
  | 'B' => some [.text .longMonth]
  | 'C' => some [zero .century]
  | 'D' | 'x' => some american
  | 'F' => some [zero .year, mark '-', zero .month, mark '-', zero .day]
  | 'G' => some [zero .weekYear]
  | 'H' => some [zero .hour]
  | 'I' => some [zero .hourOfHalf]
  | 'M' => some [zero .minute]
  | 'P' => some [.text .lowerHalf]
  | 'R' => some [zero .hour, mark ':', zero .minute]
  | 'S' => some [zero .second]
  | 'T' | 'X' => some clock
  | 'U' => some [zero .weekFromSunday]
  | 'V' => some [zero .isoWeek]
  | 'W' => some [zero .weekFromMonday]
  | 'Y' => some [zero .year]
  | 'Z' => some [.text .zoneName]
  | 'a' => some [.text .shortWeekday]
  | 'b' | 'h' => some [.text .shortMonth]
  | 'c' =>
      some ([.text .shortWeekday, .blank [' '], .text .shortMonth, .blank [' '],
        .number .day .space, .blank [' ']] ++ clock ++ [.blank [' '], zero .year])
  | 'd' => some [zero .day]
  | 'e' => some [.number .day .space]
  | 'f' => some [zero .nanos]
  | 'g' => some [zero .weekYearOfCentury]
  | 'j' => some [zero .ordinal]
  | 'k' => some [.number .hour .space]
  | 'l' => some [.number .hourOfHalf .space]
  | 'm' => some [zero .month]
  | 'n' => some [.blank ['\n']]
  | 'p' => some [.text .upperHalf]
  | 'q' => some [plain .quarter]
  | 'r' =>
      some [zero .hourOfHalf, mark ':', zero .minute, mark ':', zero .second, .blank [' '],
        .text .upperHalf]
  | 's' => some [plain .timestamp]
  | 't' => some [.blank ['\t']]
  | 'u' => some [plain .weekdayFromMonday]
  | 'v' => some [.number .day .space, mark '-', .text .shortMonth, mark '-', zero .year]
  | 'w' => some [plain .weekdayFromSunday]
  | 'y' => some [zero .yearOfCentury]
  | 'z' => some [.text (.offset false)]
  | '+' => some [.text .dateTime]
  | '%' => some [mark '%']
  | _ => none

def padding? : Char → Option Padding
  | '-' => some .none
  | '0' => some .zero
  | '_' => some .space
  | _ => none

/-- A single number with another padding. -/
def repad? (padding : Padding) : List LayoutItem → Option (List LayoutItem)
  | [.number field _] => some [.number field padding]
  | _ => none

/-- The number of digits of a fraction that a digit asks for. -/
def fractionLength? : Char → Option Nat
  | '3' => some 3
  | '6' => some 6
  | '9' => some 9
  | _ => none

/-- The items that the characters after `%` stand for, and the rest. -/
def afterPercent? : List Char → Option (List LayoutItem × List Char)
  | '#' :: 'z' :: rest => some ([.text .looseOffset], rest)
  | '#' :: _ => none
  | ':' :: 'z' :: rest => some ([.text (.offset true)], rest)
  | ':' :: ':' :: 'z' :: rest => some ([.text .offsetSeconds], rest)
  | ':' :: ':' :: ':' :: 'z' :: rest => some ([.text .offsetHours], rest)
  | '.' :: 'f' :: rest => some ([.text .fraction], rest)
  | '.' :: digit :: 'f' :: rest => do
      some ([.text (.fractionDigits (← fractionLength? digit))], rest)
  | c :: rest =>
      match padding? c, fractionLength? c, rest with
      | some padding, _, letter :: rest => do
          some (← repad? padding (← ofLetter? letter), rest)
      | some _, _, [] => none
      | none, some count, 'f' :: rest => some ([.text (.bareFraction count)], rest)
      | none, some _, _ => none
      | none, none, rest => (ofLetter? c).map (·, rest)
  | [] => none

end LayoutItem

/-- The items of the characters of a layout, at most so many; `none` when a `%` is not followed by
what stands for a field. -/
def layoutWithin? : Nat → List Char → Option (List LayoutItem)
  | _, [] => some []
  | 0, _ => none
  | steps + 1, '%' :: rest => do
      let (items, rest) ← LayoutItem.afterPercent? rest
      return items ++ (← layoutWithin? steps rest)
  | steps + 1, c :: rest =>
      if Text.isBlank c then do
        let others ← layoutWithin? steps (rest.dropWhile Text.isBlank)
        return .blank (c :: rest.takeWhile Text.isBlank) :: others
      else do
        let plain (c : Char) : Bool := !Text.isBlank c && c != '%'
        let others ← layoutWithin? steps (rest.dropWhile plain)
        return .literal (c :: rest.takeWhile plain) :: others

def layout? (text : String) : Option (List LayoutItem) :=
  layoutWithin? text.length text.toList

end PathQuery.Time
