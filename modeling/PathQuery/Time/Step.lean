import PathQuery.Text.Blank
import PathQuery.Time.Instant

/-!
Steps from one date to the next, and the dates that a step leads through.
-/

namespace PathQuery.Time

/-- A step from one date to the next. -/
inductive Step where
  | millis (count : Nat)
  | months (count : Nat)
deriving DecidableEq

namespace Step

def ofUnit? (amount : Nat) (unit : String) : Option Step :=
  match unit with
  | "ms" => some (millis amount)
  | "s" => some (millis (amount * 1000))
  | "m" => some (millis (amount * 60000))
  | "h" => some (millis (amount * 3600000))
  | "d" | "D" => some (millis (amount * 86400000))
  | "w" | "W" => some (millis (amount * 604800000))
  | "M" => some (months amount)
  | "y" | "Y" => if amount * 12 < 0x100000000 then some (months (amount * 12)) else none
  | _ => none

/-- The step that a text such as `1d`, `15m` or `3M` stands for. -/
def ofText? (text : String) : Option Step := do
  let cs := Text.trimmed text.toList
  let amount ← Number.natural? (cs.takeWhile Char.isDigit)
  if amount = 0 || 0x100000000 ≤ amount then none
  else ofUnit? amount (String.ofList (cs.dropWhile Char.isDigit))

/-- The date one step later, if it is in the supported years. -/
def after? (step : Step) (instant : Instant) : Option Instant :=
  match step with
  | millis count => instant.addMillis? count
  | months count => instant.addMonths? count

/-- The dates from one on, step by step, as long as they are not after the last one and a step leads
forward. There are none when a step leaves the supported years. -/
def datesThrough? (step : Step) (last current : Instant) : Option (List Instant) :=
  if current ≤ last then
    match step.after? current with
    | none => none
    | some next =>
        if current < next then (datesThrough? step last next).map (current :: ·)
        else some [current]
  else some []
termination_by (last.ticks + 1 - current.ticks).toNat
decreasing_by
  have notPast : current.ticks ≤ last.ticks := ‹current ≤ last›
  have forward : current.ticks < next.ticks := ‹current < next›
  omega

end Step

end PathQuery.Time
