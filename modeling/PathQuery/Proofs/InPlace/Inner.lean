import PathQuery.Proofs.Precedence.Resolution
import PathQuery.Proofs.WellFormed.Analysis

/-!
What the passes leave in a range. Each of them takes the operators of its tier, so that only looser
ones are left to the next. Main statement: `inner_resolveBelow`.
-/

namespace PathQuery

namespace Part

/-- A part of a range before the pass of a tier: no bracket, and no operator of the given tier or a
tighter one. -/
structure Inner (tiers : Nat) (part : Part) : Prop where
  closes : part.kind.closesRange = false
  opens : part.kind.opensRange = false
  holds : part.expression?.isSome = true → part.kind = .expression
  looser : ∀ found, part.kind.precedence? = some found → found < tiers

theorem Inner.of_plain {tiers lower : Nat} {part : Part} (inner : part.Inner tiers)
    (plain : part.kind.precedence? = none) : part.Inner lower :=
  ⟨inner.closes, inner.opens, inner.holds, fun _ tiered => by rw [plain] at tiered; cases tiered⟩

theorem Inner.of_lt {tiers lower found : Nat} {part : Part} (inner : part.Inner tiers)
    (tiered : part.kind.precedence? = some found) (looser : found < lower) : part.Inner lower := by
  refine ⟨inner.closes, inner.opens, inner.holds, ?_⟩
  intro other same
  rw [tiered] at same
  exact Option.some.inj same ▸ looser

theorem inner_folded (tiers : Nat) (value : Expression) : (Tiers.folded value).Inner tiers :=
  ⟨rfl, rfl, fun _ => rfl, fun _ tiered => by cases tiered⟩

theorem precedence_le {kind : TokenKind} {tier : Nat} (tiered : kind.precedence? = some tier) :
    tier < maxTier + 1 := by
  cases kind <;> cases tiered <;> decide

theorem inner_ofAnalysis (value : Option Expression) : (ofAnalysis value).Inner (maxTier + 1) := by
  cases value with
  | none => exact ⟨rfl, rfl, (fun holds => by cases holds), fun _ => precedence_le⟩
  | some value => exact inner_folded _ value

theorem inner_of_proper {part : Part} (proper : part.Proper)
    (other : part.kind.isStructural = false) : part.Inner (maxTier + 1) := by
  cases proper with
  | analyzed => exact inner_ofAnalysis _
  | token token =>
    refine ⟨?_, ?_, ?_, fun _ => precedence_le⟩
    · revert other
      cases part.kind <;> simp [TokenKind.isStructural, TokenKind.closesRange]
    · revert other
      cases part.kind <;> simp [TokenKind.isStructural, TokenKind.opensRange]
    · intro holds
      cases part <;> first | cases token | cases holds

end Part

namespace Tiers

theorem leftOperand_some {operator : Operator} {neighbour : Option Part} {part : Part}
    (taken : leftOperand? operator neighbour = .ok (some part)) : neighbour = some part := by
  rcases leftOperand_cases taken with ⟨-, _, found, ⟨⟩⟩ | ⟨-, ⟨⟩⟩
  exact (Option.filter_eq_some_iff.mp found).1

theorem rightOperand_some {operator : Operator} {neighbour : Option Part} {part : Part}
    (taken : rightOperand? operator neighbour = .ok (some part)) : neighbour = some part := by
  rcases rightOperand_cases taken with ⟨-, _, found, ⟨⟩⟩ | ⟨-, ⟨⟩⟩
  exact (Option.filter_eq_some_iff.mp found).1

/-- After an operator the pass goes on behind its right operand. -/
theorem forward_operator {tier found : Nat} {before done rest : List Part}
    {last : Option Expression} {part : Part} (tiered : part.kind.precedence? = some found)
    (tight : ¬ found < tier) :
    forward tier before done last (part :: rest) = (do
      let left ← leftOperand? ⟨part.kind, part.render⟩ (done ++ before).head?
      let right ← rightOperand? ⟨part.kind, part.render⟩ rest.head?
      let value := Expression.operation left ⟨part.kind, part.render⟩ right
      forward tier (place left value before done).1 (place left value before done).2 (some value)
        (rest.drop right.toList.length)) := by
  rw [forward, tiered]
  simp only [tight, if_false]
  cases leftOperand? ⟨part.kind, part.render⟩ (done ++ before).head? with
  | error => rfl
  | ok left =>
    cases taken : rightOperand? ⟨part.kind, part.render⟩ rest.head? with
    | error => rfl
    | ok right =>
      cases right with
      | none => rfl
      | some operand =>
        cases rest with
        | nil => cases rightOperand_some taken
        | cons => rfl

/-- What is left of the parts to the left of an operator that took a left operand. -/
def withoutLeft : (left : Option Part) → (before rest : List Part) → List Part × List Part
  | some _, before, [] => (before.drop 1, [])
  | some _, before, _ :: farther => (before, farther)
  | none, before, rest => (before, rest)

theorem backward_operator {tier found : Nat} {before done rest : List Part}
    {last : Option Expression} {part : Part} (tiered : part.kind.precedence? = some found)
    (tight : ¬ found < tier) :
    backward tier before done last (part :: rest) = (do
      let left ← leftOperand? ⟨part.kind, part.render⟩ (rest ++ before).head?
      let right ← rightOperand? ⟨part.kind, part.render⟩ done.head?
      let value := Expression.operation left ⟨part.kind, part.render⟩ right
      backward tier (withoutLeft left before rest).1
        (folded value :: done.drop right.toList.length) (some value)
        (withoutLeft left before rest).2) := by
  rw [backward, tiered]
  simp only [tight, if_false]
  cases leftOperand? ⟨part.kind, part.render⟩ (rest ++ before).head? with
  | error => rfl
  | ok left =>
    cases rightOperand? ⟨part.kind, part.render⟩ done.head? with
    | error => rfl
    | ok right =>
      cases left with
      | none => rfl
      | some operand => cases rest <;> rfl

theorem inner_place {tier : Nat} {before done : List Part} (left : Option Part)
    (value : Expression) (passed : ∀ part ∈ done, part.Inner tier) :
    ∀ part ∈ (place left value before done).2, part.Inner tier := by
  have folds : (folded value).Inner tier := Part.inner_folded tier value
  intro part member
  unfold place at member
  split at member
  · cases member
  · cases member
  · rcases List.mem_cons.mp member with rfl | old
    · exact folds
    · exact passed part (List.mem_cons_of_mem _ old)
  · cases member
  · rcases List.mem_cons.mp member with rfl | old
    · exact folds
    · exact passed part old

/-- When the pass of a tier is over, none of its operators is left in the range. -/
theorem inner_forward {tier : Nat} {before done rest : List Part} {last : Option Expression}
    {range : Range} (passing : forward tier before done last rest = .ok range)
    (passed : ∀ part ∈ done, part.Inner tier) (pending : ∀ part ∈ rest, part.Inner (tier + 1)) :
    ∀ part ∈ range.parts, part.Inner tier := by
  induction length : rest.length using Nat.strong_induction_on
    generalizing before done rest last with
  | _ size ih =>
    cases rest with
    | nil =>
      cases passing
      exact fun part member => passed part (List.mem_reverse.mp member)
    | cons part rest =>
      obtain ⟨inner, others⟩ := List.forall_mem_cons.mp pending
      simp only [List.length_cons] at length
      cases tiered : part.kind.precedence? with
      | none =>
        rw [forward, tiered] at passing
        obtain ⟨value, -, passing⟩ := bind_eq_ok.mp passing
        exact ih rest.length (by omega) passing
          (List.forall_mem_cons.mpr ⟨inner.of_plain tiered, passed⟩) others rfl
      | some found =>
        by_cases looser : found < tier
        · rw [forward, tiered] at passing
          simp only [looser, if_true] at passing
          exact ih rest.length (by omega) passing
            (List.forall_mem_cons.mpr ⟨inner.of_lt tiered looser, passed⟩) others rfl
        · rw [forward_operator tiered looser] at passing
          obtain ⟨left, -, passing⟩ := bind_eq_ok.mp passing
          obtain ⟨right, -, passing⟩ := bind_eq_ok.mp passing
          refine ih (rest.drop right.toList.length).length ?_ passing (inner_place left _ passed)
            (fun part member => others part (List.mem_of_mem_drop member)) rfl
          rw [List.length_drop]
          omega

theorem inner_backward {tier : Nat} {before done rest : List Part} {last : Option Expression}
    {range : Range} (passing : backward tier before done last rest = .ok range)
    (passed : ∀ part ∈ done, part.Inner tier) (pending : ∀ part ∈ rest, part.Inner (tier + 1)) :
    ∀ part ∈ range.parts, part.Inner tier := by
  induction length : rest.length using Nat.strong_induction_on
    generalizing before done rest last with
  | _ size ih =>
    cases rest with
    | nil =>
      cases passing
      exact passed
    | cons part rest =>
      obtain ⟨inner, others⟩ := List.forall_mem_cons.mp pending
      simp only [List.length_cons] at length
      cases tiered : part.kind.precedence? with
      | none =>
        rw [backward, tiered] at passing
        obtain ⟨value, -, passing⟩ := bind_eq_ok.mp passing
        exact ih rest.length (by omega) passing
          (List.forall_mem_cons.mpr ⟨inner.of_plain tiered, passed⟩) others rfl
      | some found =>
        by_cases looser : found < tier
        · rw [backward, tiered] at passing
          simp only [looser, if_true] at passing
          exact ih rest.length (by omega) passing
            (List.forall_mem_cons.mpr ⟨inner.of_lt tiered looser, passed⟩) others rfl
        · rw [backward_operator tiered looser] at passing
          obtain ⟨left, -, passing⟩ := bind_eq_ok.mp passing
          obtain ⟨right, -, passing⟩ := bind_eq_ok.mp passing
          have suffix : (withoutLeft left before rest).2 <:+ rest := by
            cases left with
            | none => exact List.suffix_refl _
            | some part =>
              cases rest with
              | nil => exact List.suffix_refl _
              | cons nearest farther => exact List.suffix_cons _ _
          refine ih _ (Nat.lt_of_le_of_lt suffix.length_le (by omega)) passing ?_
            (fun part member => others part (suffix.subset member)) rfl
          refine List.forall_mem_cons.mpr ⟨Part.inner_folded tier _, fun part member => ?_⟩
          exact passed part (List.mem_of_mem_drop member)

theorem inner_pass {tier : Nat} {range next : Range} (passing : pass tier range = .ok next)
    (pending : ∀ part ∈ range.parts, part.Inner (tier + 1)) :
    ∀ part ∈ next.parts, part.Inner tier := by
  unfold pass at passing
  split at passing
  · exact inner_forward passing (by simp) pending
  · exact inner_backward passing (by simp) fun part member =>
      pending part (List.mem_reverse.mp member)

/-- When all passes are over, no operator is left in the range. -/
theorem inner_resolveBelow {tiers : Nat} {range resolved : Range}
    (resolving : resolveBelow tiers range = .ok resolved)
    (pending : ∀ part ∈ range.parts, part.Inner tiers) : ∀ part ∈ resolved.parts, part.Inner 0 := by
  induction tiers generalizing range with
  | zero =>
    cases resolving
    exact pending
  | succ tier ih =>
    obtain ⟨next, first, others⟩ := bind_eq_ok.mp resolving
    obtain ⟨passed, passing, rfl⟩ := map_eq_ok.mp first
    have kept := inner_pass passing pending
    exact ih others kept

theorem before_resolveBelow {tiers : Nat} {holds : Part → Prop} {range resolved : Range}
    (folds : ∀ value, holds (folded value)) (resolving : resolveBelow tiers range = .ok resolved)
    (led : ∀ part ∈ range.before, holds part) : ∀ part ∈ resolved.before, holds part := by
  induction tiers generalizing range with
  | zero =>
    cases resolving
    exact led
  | succ tier ih =>
    obtain ⟨next, first, others⟩ := bind_eq_ok.mp resolving
    obtain ⟨passed, passing, rfl⟩ := map_eq_ok.mp first
    have kept : ∀ part ∈ passed.before, holds part := by
      unfold pass at passing
      split at passing
      · exact before_forward folds led passing
      · exact before_backward led passing
    exact ih others kept

end Tiers

end PathQuery
