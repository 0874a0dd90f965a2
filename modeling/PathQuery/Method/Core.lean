import PathQuery.Expression.Analysis
import PathQuery.Method
import PathQuery.Text.Search

/-!
The methods that are called by bare names.
-/

namespace PathQuery.Method

def choose : Value → Except EvalError Value
  | .array candidates => .ok ((candidates.find? (!·.isNull)).getD .null)
  | _ => .ok .null

def isPresent (value : Value) : Except EvalError Value :=
  .ok (.boolean !value.isNull)

/-- Whether a value is anything but true. -/
def negate : Value → Except EvalError Value
  | .boolean b => .ok (.boolean !b)
  | _ => .ok (.boolean true)

/-- A number of characters. -/
def index (value : Value) : Except EvalError Nat :=
  match value.int64? with
  | some n =>
      if 0 ≤ n then .ok n.toInt.toNat
      else .error (.invocation "substring" s!"expected a non-negative index, got '{value.text}'")
  | none =>
      .error (.invocation "substring" s!"expected a non-negative index, got '{value.text}'")

/-- The characters from an offset on, up to a length if there is one. -/
def substring (text offset : Value) (length? : Option Value) : Except EvalError Value :=
  match text with
  | .string text => do
      let cs := text.toList
      let start ← index offset
      let stop ← match length? with
        | some length => (index length).map (start + ·)
        | none => pure cs.length
      if start ≤ cs.length && stop ≤ cs.length then
        return .string (String.ofList ((cs.take stop).drop start))
      else
        throw (.invocation "substring"
          s!"range {start}..{stop} is outside a string of length {cs.length}")
  | _ => .ok .null

/-- What follows the first occurrence of a text, or everything if it does not occur. -/
def substringAfter : Value → Value → Except EvalError Value
  | .string text, .string target =>
      match Text.after? target.toList text.toList with
      | some rest => .ok (.string (String.ofList rest))
      | none => .ok (.string text)
  | _, _ => .ok .null

def count (value : Value) : Except EvalError Value :=
  let n : Nat := (value.elements?.map List.length).getD 1
  .ok (((Number.int32? n).map Value.integer).getD (.long (Int64.ofNat n)))

/-- The methods that are called by bare names. -/
def coreMethods : List StandardMethod :=
  let string := ofType .string
  let integer := ofType .integer
  [{ name := "choose", parameters := [rest], read := fun values => return choose (← values[0]?) },
    { name := "exists", parameters := [any], read := fun values => return isPresent (← values[0]?) },
    { name := "not", parameters := [ofType .boolean]
      read := fun values => return negate (← values[0]?) },
    { name := "substring", parameters := [string, integer]
      read := fun values => return substring (← values[0]?) (← values[1]?) none },
    { name := "substring", parameters := [string, integer, integer]
      read := fun values =>
        return substring (← values[0]?) (← values[1]?) (some (← values[2]?)) },
    { name := "substringAfter", parameters := [string, string]
      read := fun values => return substringAfter (← values[0]?) (← values[1]?) },
    { name := "count", parameters := [any], read := fun values => return count (← values[0]?) },
    { name := Analysis.listMethod, parameters := [rest]
      read := fun values => return .ok (← values[0]?) }]

def core : MethodGroup where
  methods := coreMethods.map StandardMethod.method

end PathQuery.Method
