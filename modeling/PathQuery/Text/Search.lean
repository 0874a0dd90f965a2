/-!
Search for a text within a text.
-/

namespace PathQuery.Text

/-- What follows a text that stands at the start. -/
def dropText? : List Char → List Char → Option (List Char)
  | [], cs => some cs
  | _, [] => none
  | t :: target, c :: cs => if t = c then dropText? target cs else none

/-- What follows the first occurrence of a text. -/
def after? (target : List Char) : List Char → Option (List Char)
  | [] => dropText? target []
  | c :: cs =>
      match dropText? target (c :: cs) with
      | some rest => some rest
      | none => after? target cs

def contains (text target : String) : Bool :=
  (after? target.toList text.toList).isSome

theorem dropText_eq_some_iff {target cs rest : List Char} :
    dropText? target cs = some rest ↔ cs = target ++ rest := by
  induction target generalizing cs with
  | nil => simp [dropText?]
  | cons t target ih => cases cs with
    | nil => simp [dropText?]
    | cons c cs => grind [dropText?]

end PathQuery.Text
