import Mathlib.Data.List.TakeWhile
import PathQuery.Proofs.Lexing.Context

/-!
White space between lexemes. No lexeme begins with it, so a scan goes over it. Main statement:
`find_of_blanks`.
-/

namespace PathQuery

/-- Whether characters are white space. -/
def Text.AllBlank (cs : List Char) : Prop :=
  ∀ c ∈ cs, Text.isBlank c = true

instance (cs : List Char) : Decidable (Text.AllBlank cs) :=
  List.decidableBAll (fun c => Text.isBlank c = true) cs

theorem Text.trimmed_isEmpty_iff {cs : List Char} :
    (Text.trimmed cs).isEmpty = true ↔ Text.AllBlank cs := by
  rw [Text.trimmed, List.isEmpty_iff, List.reverse_eq_nil_iff, List.dropWhile_eq_nil_iff]
  constructor
  · intro blank
    refine List.dropWhile_eq_nil_iff.mp (Classical.byContradiction fun nonempty => ?_)
    -- what is left begins with a character that is shown
    obtain ⟨c, others, split⟩ := List.exists_cons_of_ne_nil nonempty
    have shown : Text.isBlank c = false := by
      simpa [split] using List.head?_dropWhile_not Text.isBlank cs
    rw [split] at blank
    exact absurd (blank c (by simp)) (by simp [shown])
  · intro blank c member
    exact blank c ((List.dropWhile_sublist _).subset (List.mem_reverse.mp member))

namespace Token

def blankPoints : List Nat :=
  [0x9, 0xA, 0xB, 0xC, 0xD, 0x20, 0x85, 0xA0, 0x1680, 0x2000, 0x2001, 0x2002, 0x2003, 0x2004,
    0x2005, 0x2006, 0x2007, 0x2008, 0x2009, 0x200A, 0x2028, 0x2029, 0x202F, 0x205F, 0x3000]

theorem begins_blankPoints : ∀ point ∈ blankPoints, ∀ entry ∈ grammar,
    entry.lexeme.begins (Char.ofNat point) = false := by
  decide +kernel

theorem mem_blankPoints {c : Char} (blank : Text.isBlank c = true) : c.toNat ∈ blankPoints := by
  simp only [Text.isBlank, Bool.or_eq_true, Bool.and_eq_true, decide_eq_true_eq,
    beq_iff_eq] at blank
  simp only [blankPoints, List.mem_cons, List.not_mem_nil, or_false]
  omega

theorem isWordChar_of_isBlank {c : Char} (blank : Text.isBlank c = true) :
    Text.isWordChar c = false := by
  have apart : ∀ point ∈ blankPoints, Text.isWordChar (Char.ofNat point) = false := by
    decide +kernel
  have other := apart c.toNat (mem_blankPoints blank)
  rwa [Char.ofNat_toNat] at other

/-- No lexeme begins with white space. -/
theorem lexemeAt_isBlank {c : Char} (blank : Text.isBlank c = true) (before : Option Char)
    (rest : List Char) (passed : Nat) : lexemeAt? ⟨before, c :: rest, passed⟩ = none := by
  have other := begins_blankPoints c.toNat (mem_blankPoints blank)
  rw [Char.ofNat_toNat] at other
  refine List.findSome?_eq_none_iff.mpr fun entry member => ?_
  rw [Entry.end_eq_none rfl (other entry member)]
  rfl

theorem find_allBlank {cursor : Cursor} (blank : Text.AllBlank cursor.rest) :
    find? cursor = none := by
  cases finds : find? cursor with
  | none => rfl
  | some found =>
    obtain ⟨⟨before, rest, passed⟩, placed⟩ := at_of_find finds
    obtain ⟨c, word, split⟩ := List.exists_cons_of_ne_nil placed.nonempty
    have whole := placed.skips.rest
    obtain rfl : rest = c :: (word ++ found.after.rest) := by
      rw [← List.cons_append, ← split]
      exact placed.leads.rest
    have begins := placed.begins
    rw [lexemeAt_isBlank (blank c (by simp [whole]))] at begins
    cases begins

theorem findFrom_gap (gap : List Char) (before : Option Char) (passed : Nat)
    (rest : List Char) : findFrom? gap before passed rest =
      (findFrom? [] before passed rest).map fun found =>
        { found with gap := gap.reverse ++ found.gap } := by
  induction rest generalizing gap before passed with
  | nil => rfl
  | cons c rest ih =>
    rw [findFrom?, findFrom?]
    split
    · simp
    · rw [ih (c :: gap), ih [c], Option.map_map]
      simp [Function.comp_def]

/-- White space before a place makes no difference to what is found there. -/
theorem find_of_blanks {cursor place : Cursor} {gap : List Char} (leads : cursor.Leads gap place)
    (blank : Text.AllBlank gap) : find? cursor =
      (find? place).map fun found => { found with gap := gap ++ found.gap } := by
  induction gap generalizing cursor with
  | nil =>
    rw [(leads.eq_of_passed (.refl cursor) leads.passed).1]
    cases find? cursor <;> rfl
  | cons c gap ih =>
    obtain ⟨next, step, further⟩ := Cursor.Leads.split (show cursor.Leads ([c] ++ gap) place from leads)
    obtain ⟨first, others⟩ := List.forall_mem_cons.mp blank
    obtain ⟨before, rest, passed, rfl, rfl⟩ := step.eq_of_leads
    have onward := findFrom_gap [c] (some c) (passed + 1) rest
    rw [List.singleton_append, find?, findFrom?]
    simp only [lexemeAt_isBlank first]
    rw [onward, show findFrom? [] (some c) (passed + 1) rest = _ from ih further others,
      Option.map_map]
    rfl

end Token

end PathQuery
