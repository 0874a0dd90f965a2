import Mathlib.Data.List.TakeWhile
import PathQuery.Proofs.Pattern.Search
import PathQuery.Token.Grammar

/-!
Where a path ends. A name in a path goes on as far as it can, so a path ends within no run of word
characters. Main statement: `dots_of_path`.
-/

namespace PathQuery.Token

/-- The pattern of paths. -/
def path : Pattern :=
  .seq (Pattern.oneOrMore pathStep) Pattern.boundary

variable {keep : Cursor → Bool} {cursor place : Cursor}

/-- The place itself, when it is at a boundary and is kept. -/
def bounded? (keep : Cursor → Bool) (place : Cursor) : Option Cursor :=
  (Pattern.boundary.ends place).findSome? (Option.guard keep)

theorem bounded_eq_some {found : Cursor} : bounded? keep place = some found ↔
    Text.isBoundary place.before place.after = true ∧ keep place = true ∧ place = found := by
  simp only [bounded?, Pattern.boundary, Pattern.ends, Pattern.endsFrom, List.filter_cons,
    List.filter_nil]
  split
  · simp_all [Option.guard]
  · simp_all

/-- A name that stops where no word ends could have gone on. -/
theorem before_of_nameRest
    (grows : ∀ {place after more}, place.Leads more after → keep place = true → keep after = true)
    (found : (nameRest.ends cursor).findSome? (bounded? keep) = some place) :
    place.before.any Text.isWordChar = true := by
  rw [nameRest, Pattern.findSome_many] at found
  obtain ⟨word, reached, -, here, longest⟩ := Pattern.search_run (Nat.le_refl _) found
  obtain ⟨boundary, kept, rfl⟩ := bounded_eq_some.mp here
  refine Classical.byContradiction fun outside => ?_
  have inside : reached.rest.head?.any Text.isWordChar = true := by
    simpa [Text.isBoundary, outside, Cursor.after] using boundary
  -- the word that follows belongs to the name
  let more := reached.rest.takeWhile Text.isWordChar
  have letters : ∀ c ∈ more, Text.isWordChar c = true := fun c => List.mem_takeWhile_imp
  have some : more ≠ [] := by
    cases split : reached.rest with
    | nil => simp [split] at inside
    | cons c rest => simp [more, split, show Text.isWordChar c = true by simpa [split] using inside]
  have leads : reached.Leads more ⟨more.getLast?.or reached.before,
      reached.rest.dropWhile Text.isWordChar, reached.passed + more.length⟩ :=
    ⟨List.takeWhile_append_dropWhile.symm, rfl, rfl⟩
  have last := letters _ (List.getLast_mem some)
  have ends : (reached.rest.dropWhile Text.isWordChar).head?.any Text.isWordChar = false := by
    have stops := List.head?_dropWhile_not Text.isWordChar reached.rest
    cases left : (reached.rest.dropWhile Text.isWordChar).head? with
    | none => rfl
    | some c => simpa [left] using stops
  have missed := longest more _ leads some fun c member => by simp [letters c member]
  rw [Option.eq_none_iff_forall_ne_some] at missed
  refine missed _ (bounded_eq_some.mpr ⟨?_, grows leads kept, rfl⟩)
  rw [Text.isBoundary, List.getLast?_eq_some_getLast some, Option.some_or, Option.any_some, last,
    show Cursor.after _ = (reached.rest.dropWhile Text.isWordChar).head? from rfl, ends]
  rfl

/-- What stands before the end of a path that is found: a word, or two dots. -/
theorem dots_of_path {word : List Char}
    (ended : Entry.end? { kind := .path, lexeme := path } cursor = some place)
    (leads : cursor.Leads word place) :
    place.before.any Text.isWordChar = true ∨ ['.', '.'] <:+ word := by
  rw [Entry.end?, path, List.find?_eq_findSome?_guard, Pattern.findSome_seq] at ended
  obtain ⟨start, front, first, found⟩ := Pattern.last_of_oneOrMore (by rfl) ended
  have step : pathStep = .seq (Pattern.optional (Pattern.exactly '/'))
      (.seq (Pattern.optional (Pattern.exactly '@'))
        (.either (.seq _ nameRest) (Pattern.text ".."))) := rfl
  rw [step, Pattern.findSome_seq] at found
  obtain ⟨slashed, member, found⟩ := List.exists_of_findSome?_eq_some found
  obtain ⟨slash, second, -⟩ := Pattern.mem_ends_iff.mp member
  rw [Pattern.findSome_seq] at found
  obtain ⟨signed, member, found⟩ := List.exists_of_findSome?_eq_some found
  obtain ⟨sign, third, -⟩ := Pattern.mem_ends_iff.mp member
  rw [Pattern.findSome_either] at found
  rcases Option.or_eq_some_iff.mp found with name | ⟨-, dots⟩
  · left
    rw [Pattern.findSome_seq] at name
    obtain ⟨begun, -, found⟩ := List.exists_of_findSome?_eq_some name
    refine before_of_nameRest (fun leads kept => ?_) found
    have shorter := leads.length_rest
    simp only [Bool.and_eq_true, decide_eq_true_eq] at kept ⊢
    exact ⟨by omega, rfl⟩
  · right
    obtain ⟨reached, member, found⟩ := List.exists_of_findSome?_eq_some dots
    obtain ⟨-, -, rfl⟩ := bounded_eq_some.mp found
    obtain ⟨both, fourth, spans⟩ := Pattern.mem_ends_iff.mp member
    obtain rfl := Pattern.spans_text.mp spans
    have whole := ((first.trans second).trans third).trans fourth
    rw [(leads.eq_of_passed whole rfl).2]
    exact List.suffix_append _ _

end PathQuery.Token
