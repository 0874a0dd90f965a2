import Mathlib.Data.Bool.AllAny
import PathQuery.Text.LetterCase

/-!
The characters that differ from a letter in case only. Whether a character is one of them says
little about the character by computation; `mem_folds` bounds it by a list that can be computed from
the letter. Main statement: `variant_cases`.
-/

namespace PathQuery.Text

/-- The points that a character may have in common with others that differ in case only. -/
def folded (c : Char) : List Nat :=
  c.toNat :: foldRuns.filterMap fun run =>
    if run.contains c.toNat then some (run.image c.toNat) else none

/-- The code points of the characters of which a letter can be a variant. -/
def folds (c : Char) : List Nat :=
  (folded c).flatMap fun point => point :: foldRuns.filterMap (·.preimage? point)

theorem fold_nonneg : ∀ run ∈ foldRuns, 0 ≤ (run.first : Int) + run.shift := by
  decide +kernel

theorem preimage_image {run : CaseRun} (member : run ∈ foldRuns) {point : Nat}
    (contained : run.contains point = true) : run.preimage? (run.image point) = some point := by
  have positive := fold_nonneg run member
  have above : run.first ≤ point := by
    simp only [CaseRun.contains, Bool.and_eq_true, decide_eq_true_eq] at contained
    exact contained.1.1
  have source : ((run.image point : Int) - run.shift).toNat = point := by
    unfold CaseRun.image
    omega
  simp [CaseRun.preimage?, source, contained]

theorem mem_of_foldPoint (point : Nat) :
    point ∈ foldPoint point :: foldRuns.filterMap (·.preimage? (foldPoint point)) := by
  unfold foldPoint
  split
  · rename_i run found
    have contained : run.contains point = true := by simpa using List.find?_some found
    have member := List.mem_of_find?_eq_some found
    exact List.mem_cons_of_mem _
      (List.mem_filterMap.mpr ⟨run, member, preimage_image member contained⟩)
  · exact List.mem_cons_self

theorem eq_toNat_of_ofNat {c : Char} (nonzero : c ≠ '\x00') {point : Nat}
    (same : Char.ofNat point = c) : point = c.toNat := by
  by_cases valid : point.isValidChar
  · rw [← same, Char.ofNat, dif_pos valid]
    rfl
  · rw [Char.ofNat, dif_neg valid] at same
    exact absurd same.symm nonzero

theorem mem_folds {c d : Char} (nonzero : c ≠ '\x00')
    (variant : (caseVariants d).contains c = true) : d.toNat ∈ folds c := by
  have member := List.contains_iff_mem.mp variant
  obtain ⟨point, listed, same⟩ := List.mem_map.mp member
  obtain rfl := eq_toNat_of_ofNat nonzero same
  have common : foldPoint d.toNat ∈ folded c := by
    rcases List.mem_cons.mp listed with least | listed
    · rw [← least]
      exact List.mem_cons_self
    · obtain ⟨run, present, image⟩ := List.mem_filterMap.mp listed
      simp only [CaseRun.preimage?] at image
      split at image
      · rename_i source
        simp only [Option.some.injEq] at image
        rw [image] at source
        obtain ⟨contained, least⟩ := Bool.and_eq_true_iff.mp source
        refine List.mem_cons_of_mem _ (List.mem_filterMap.mpr ⟨run, present, ?_⟩)
        rw [if_pos contained, eq_of_beq least]
      · cases image
  exact List.mem_flatMap.mpr ⟨_, common, mem_of_foldPoint d.toNat⟩

/-- The letters of the words that the grammar reserves. -/
def wordLetters : List Char :=
  "adefilnorstu".toList

theorem folds_wordLetters : ∀ c ∈ wordLetters, c ≠ '\x00' ∧ ∀ point ∈ folds c,
    Char.ofNat point = c ∨ Char.ofNat point = c.toUpper ∨
      c = 's' ∧ Char.ofNat point = '\u017F' := by
  refine List.all_iff_forall_prop.mp ?_
  decide +kernel

/-- Up to case a letter is itself, its capital or, for `s`, the long form. -/
theorem variant_cases {c d : Char} (listed : c ∈ wordLetters)
    (variant : (caseVariants d).contains c = true) :
    d = c ∨ d = c.toUpper ∨ c = 's' ∧ d = '\u017F' := by
  obtain ⟨nonzero, points⟩ := folds_wordLetters c listed
  have cases := points d.toNat (mem_folds nonzero variant)
  rwa [Char.ofNat_toNat] at cases

end PathQuery.Text
