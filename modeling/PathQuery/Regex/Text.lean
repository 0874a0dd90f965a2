import PathQuery.Regex.Footprint
import PathQuery.Regex.Reader

/-!
Texts of regular expressions. A text is refused when it is not well formed, when it is nested too
deep, and when an automaton for it would take too much memory.
-/

namespace PathQuery.Regex

/-- How deep an expression may be nested. -/
def deepest : Nat := 250

/-- The expression that a text denotes, if it is an acceptable one. -/
def ofText? (text : String) : Option Regex := do
  let part ← Reader.whole? text.toList
  if deepest < part.height || part.regex.tooLarge then none
  some part.regex

/-- The expression of the whole text between an anchor at either end. The anchors are written around
the given text, so it is read in that place and not by itself. -/
def anchored? (text : String) : Option Regex :=
  ofText? ("^(?:" ++ text ++ ")$")

end PathQuery.Regex
