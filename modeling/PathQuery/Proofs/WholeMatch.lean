import PathQuery.Proofs.Overloading
import PathQuery.Proofs.Regex.Anchors

/-!
The operators of patterns. Main statement: `matchesByItself_iff`, a pattern is matched as it would be
by itself exactly when the anchors written around it do not decide whether it is accepted.
-/

namespace PathQuery

open Evaluation

/-- The operators treat a pattern as what it is by itself. They match it with whole texts if it is
accepted, and refuse it if not. -/
structure Environment.MatchesByItself (environment : Environment) (pattern : String) : Prop where
  matching (text : String) :
    operated environment .matching (.string text) (.string pattern) = .ok (.boolean true) ↔
      ∃ regex, Regex.ofText? pattern = some regex ∧ regex.MatchesWhole text.toList
  refuses (text : String) : Regex.ofText? pattern = none →
    operated environment .matching (.string text) (.string pattern) = .error (.pattern pattern) ∧
      operated environment .notMatching (.string text) (.string pattern) = .error (.pattern pattern)
  negates (text : String) : Regex.ofText? pattern ≠ none → ∃ found,
    operated environment .matching (.string text) (.string pattern) = .ok (.boolean found) ∧
      operated environment .notMatching (.string text) (.string pattern) = .ok (.boolean !found)

namespace Evaluation

variable {environment : Environment} {pattern : String}

theorem matchesPattern_string (text pattern : String) :
    matchesPattern (.string text) (.string pattern) =
      match Regex.anchored? pattern with
      | some regex => .ok (regex.occursIn text.toList)
      | none => .error (.pattern pattern) := by
  rfl

section Unclaimed

variable {text : String} (unclaimed : environment.Unclaimed (.string text))

include unclaimed

theorem operated_of_refused (refused : Regex.anchored? pattern = none) :
    operated environment .matching (.string text) (.string pattern) = .error (.pattern pattern) ∧
      operated environment .notMatching (.string text) (.string pattern) =
        .error (.pattern pattern) := by
  have fails := matchesPattern_string text pattern
  rw [refused] at fails
  constructor <;> simp [unclaimed.operated, applied, Value.isNull, fails, Except.map]

theorem operated_of_accepted {regex : Regex} (accepted : Regex.anchored? pattern = some regex) :
    operated environment .matching (.string text) (.string pattern) =
        .ok (.boolean (regex.occursIn text.toList)) ∧
      operated environment .notMatching (.string text) (.string pattern) =
        .ok (.boolean !regex.occursIn text.toList) := by
  have decides := matchesPattern_string text pattern
  rw [accepted] at decides
  constructor <;> simp [unclaimed.operated, applied, Value.isNull, decides, Except.map]

end Unclaimed

section MatchesByItself

variable (unclaimed : ∀ text, environment.Unclaimed (.string text))

include unclaimed

theorem matchesByItself_of_refused (alone : Regex.ofText? pattern = none)
    (refused : Regex.anchored? pattern = none) : environment.MatchesByItself pattern where
  matching text := by
    rw [(operated_of_refused (unclaimed text) refused).1, alone]
    simp
  refuses text _ := operated_of_refused (unclaimed text) refused
  negates _ accepted := absurd alone accepted

theorem matchesByItself_of_accepted {own whole : Regex} (alone : Regex.ofText? pattern = some own)
    (accepted : Regex.anchored? pattern = some whole) : environment.MatchesByItself pattern where
  matching text := by
    rw [(operated_of_accepted (unclaimed text) accepted).1, alone,
      Regex.eq_anchored alone accepted, Regex.anchored]
    simp [Regex.occursIn_anchored]
  refuses _ refused := by simp [alone] at refused
  negates text _ := ⟨_, operated_of_accepted (unclaimed text) accepted⟩

theorem not_matchesByItself_of_refused {own : Regex} (alone : Regex.ofText? pattern = some own)
    (refused : Regex.anchored? pattern = none) : ¬environment.MatchesByItself pattern := by
  intro claimed
  obtain ⟨_, decides, -⟩ := claimed.negates "" (by simp [alone])
  rw [(operated_of_refused (unclaimed "") refused).1] at decides
  cases decides

theorem not_matchesByItself_of_accepted {whole : Regex} (alone : Regex.ofText? pattern = none)
    (accepted : Regex.anchored? pattern = some whole) : ¬environment.MatchesByItself pattern := by
  intro claimed
  have fails := (claimed.refuses "" alone).1
  rw [(operated_of_accepted (unclaimed "") accepted).1] at fails
  cases fails

end MatchesByItself

/-- A pattern is matched as it would be by itself just if it is accepted by itself and between the
anchors, or in neither place. Otherwise it closes a group that it does not open, or it ends in a
comment that hides the closing anchor, or it is at the limits of nesting and memory. -/
theorem matchesByItself_iff {environment : Environment}
    (unclaimed : ∀ text, environment.Unclaimed (.string text)) (pattern : String) :
    (environment.MatchesByItself pattern ↔
        ((Regex.ofText? pattern).isSome ↔ (Regex.anchored? pattern).isSome)) ∧
      (¬environment.MatchesByItself pattern →
        Regex.ClosesOutside pattern ∨ Regex.HidesEnd pattern ∨ Regex.LimitsDiffer pattern) := by
  have same : environment.MatchesByItself pattern ↔
      ((Regex.ofText? pattern).isSome ↔ (Regex.anchored? pattern).isSome) := by
    cases alone : Regex.ofText? pattern with
    | none =>
      cases accepted : Regex.anchored? pattern with
      | none => simp [matchesByItself_of_refused unclaimed alone accepted]
      | some whole => simp [not_matchesByItself_of_accepted unclaimed alone accepted]
    | some own =>
      cases accepted : Regex.anchored? pattern with
      | none => simp [not_matchesByItself_of_refused unclaimed alone accepted]
      | some whole => simp [matchesByItself_of_accepted unclaimed alone accepted]
  exact ⟨same, fun differs => Regex.differs_cases (mt same.mpr differs)⟩

theorem matchesByItself_of_repetition :
    let environment : Environment := { settings := { operatorOverloading := false } }
    (∀ text, environment.Unclaimed (.string text)) ∧ environment.MatchesByItself "(?:ab)*" := by
  intro environment
  have unclaimed text : environment.Unclaimed (.string text) :=
    Environment.unclaimed_of_disabled rfl _
  have alone : (Regex.ofText? "(?:ab)*").isSome = true := by decide +kernel
  have accepted : (Regex.anchored? "(?:ab)*").isSome = true := by decide +kernel
  exact ⟨unclaimed, (matchesByItself_iff unclaimed _).1.mpr (iff_of_true alone accepted)⟩

/-- The pattern closes the group that is written around it, so each anchor is left with one
alternative. -/
theorem not_matchesByItself_of_closed_group :
    let environment : Environment := { settings := { operatorOverloading := false } }
    Regex.ofText? "a)|b|(c" = none ∧
      operated environment .matching (.string "ax") (.string "a)|b|(c") = .ok (.boolean true) ∧
      ¬environment.MatchesByItself "a)|b|(c" := by
  intro environment
  have refused : Regex.ofText? "a)|b|(c" = none := by decide +kernel
  have found : (Regex.anchored? "a)|b|(c").map (·.occursIn "ax".toList) = some true := by
    decide +kernel
  obtain ⟨whole, accepted, occurs⟩ := Option.map_eq_some_iff.mp found
  have unclaimed : environment.Unclaimed (.string "ax") := Environment.unclaimed_of_disabled rfl _
  have matched := (operated_of_accepted unclaimed accepted).1
  rw [occurs] at matched
  refine ⟨refused, matched, fun claimed => ?_⟩
  rw [(claimed.refuses "ax" refused).1] at matched
  cases matched

end Evaluation

end PathQuery
