import PathQuery.Proofs.Precedence.Folding

/-!
The operators of a range, tier by tier. Main statement: `resolve_phrase`, the passes of all tiers
put an operator expression together to its one part.
-/

namespace PathQuery.Tiers

variable {tier : Nat} {range : Range} {part : Part}

section Before

-- What holds of new expressions holds of the parts before a range if it did so before a pass.
variable {holds : Part → Prop} (folds : ∀ value, holds (folded value)) {before done rest : List Part}
  {last : Option Expression}

include folds

theorem before_place (left : Option Part) (value : Expression) (done : List Part)
    (led : ∀ part ∈ before, holds part) :
    ∀ part ∈ (place left value before done).1, holds part := by
  intro part member
  unfold place at member
  split at member
  · rcases List.mem_cons.mp member with same | member
    · rw [same]
      exact folds value
    · exact led part (List.mem_of_mem_drop member)
  · rcases List.mem_cons.mp member with same | member
    · rw [same]
      exact folds value
    · exact led part member
  · exact led part member
  · rcases List.mem_cons.mp member with same | member
    · rw [same]
      exact folds value
    · exact led part member
  · exact led part member

theorem before_forward (led : ∀ part ∈ before, holds part)
    (passed : forward tier before done last rest = .ok range) : ∀ part ∈ range.before, holds part := by
  fun_induction forward tier before done last rest with
  | case1 => cases passed; exact led
  | case2 before done last part rest neighbour plain ih =>
    obtain ⟨value, _, passed⟩ := bind_eq_ok.mp passed
    exact ih value led passed
  | case3 before done last part rest found tiered looser ih => exact ih led passed
  | case4 before done last part rest neighbour found tiered tight operator ihAfter ihRest =>
    obtain ⟨left, _, passed⟩ := bind_eq_ok.mp passed
    obtain ⟨right, _, passed⟩ := bind_eq_ok.mp passed
    have placed := before_place folds left (.operation left operator right) done led
    split at passed
    · split at passed
      · cases passed
        exact placed
      · exact ihAfter left right placed passed
    · exact ihRest left right placed passed

end Before

theorem before_backward {holds : Part → Prop} {before done rest : List Part}
    {last : Option Expression} (led : ∀ part ∈ before, holds part)
    (passed : backward tier before done last rest = .ok range) :
    ∀ part ∈ range.before, holds part := by
  fun_induction backward tier before done last rest with
  | case1 => cases passed; exact led
  | case2 done last part rest plain ih =>
    obtain ⟨value, _, passed⟩ := bind_eq_ok.mp passed
    exact ih value passed
  | case3 done last part rest found tiered looser ih => exact ih passed
  | case4 done last part rest found tiered tight operator ihAfter ihRest =>
    obtain ⟨left, _, passed⟩ := bind_eq_ok.mp passed
    obtain ⟨right, _, passed⟩ := bind_eq_ok.mp passed
    split at passed
    · split at passed
      · cases passed
        exact fun part member => led part (List.mem_of_mem_drop member)
      · exact ihAfter left right passed
    · exact ihRest left right passed

theorem led_forward {before done rest : List Part} {last : Option Expression}
    (led : ∀ part ∈ before, part.isOperand = true)
    (passed : forward tier before done last rest = .ok range) : range.Led :=
  before_forward (fun _ => rfl) led passed

theorem led_backward {before done rest : List Part} {last : Option Expression}
    (led : ∀ part ∈ before, part.isOperand = true)
    (passed : backward tier before done last rest = .ok range) : range.Led :=
  before_backward led passed

theorem associativity_eq (bound : tier ≤ maxTier) :
    (associativity tier = .left ∧ tier ∈ [2, 4, 5, 6, 7, 8, 9, 10]) ∨
      (associativity tier = .right ∧ tier ∈ [0, 1, 3]) := by
  revert tier
  decide

theorem resolveTier_of_nil (finished : range.parts = []) : resolveTier tier range = .ok range := by
  obtain ⟨before, parts, value⟩ := range
  obtain rfl : parts = [] := finished
  unfold resolveTier pass
  cases associativity tier <;> rfl

theorem forward_phrase (leftward : tier ∈ [2, 4, 5, 6, 7, 8, 9, 10])
    (phrase : Phrase (tier + 1) 0 range.whole part) (led : range.Led) (unfinished : range.parts ≠ []) :
    ∃ resolved, forward tier range.before [] none range.parts = .ok resolved ∧
      Phrase tier 0 resolved.whole part ∧ (resolved.whole = [part] → resolved.value = part.value?) := by
  obtain ⟨items, last, leaves, swept⟩ := sweeps_phrase leftward phrase
  have passed : sweep tier range.before none range.parts = .ok (items.reverse, last) := by
    have whole := swept [] []
    rw [List.append_nil, List.append_nil, sweep] at whole
    rcases led.of_phrase phrase with before | ⟨first, before, operand, follows⟩
    · rw [← whole, Range.whole, before, List.reverse_nil, List.nil_append]
    · -- An operator comes next, so it does not matter that the first operand was not visited.
      rw [← whole, Range.whole, before, List.reverse_singleton, List.singleton_append,
        sweep_operand operand]
      cases parts : range.parts with
      | nil => exact absurd parts unfinished
      | cons next rest =>
        have operator := follows next (by simp [parts])
        obtain ⟨found, tiered⟩ := Option.isSome_iff_exists.mp operator
        rw [sweep, sweep, tiered]
  have same := forward_eq_sweep tier range.before [] range.parts none
  rw [List.nil_append, passed] at same
  obtain ⟨resolved, done, results⟩ := map_eq_ok.mp same
  obtain ⟨stack, rfl⟩ := Prod.mk.inj results
  have whole : items = resolved.whole := by
    have reversed := congrArg List.reverse stack
    simpa [Range.whole] using reversed.symm
  subst whole
  exact ⟨resolved, done, leaves.phrase_of_le (Nat.zero_le tier), leaves.value⟩

theorem backward_phrase (rightward : tier ∈ [0, 1, 3])
    (phrase : Phrase (tier + 1) 0 range.whole part) (led : range.Led) (unfinished : range.parts ≠ []) :
    ∃ resolved, backward tier range.before [] none range.parts.reverse = .ok resolved ∧
      Phrase tier 0 resolved.whole part ∧ (resolved.whole = [part] → resolved.value = part.value?) := by
  obtain ⟨items, last, leaves, passed⟩ := recedes_phrase rightward phrase
  have folded := leaves.phrase_of_le (Nat.zero_le tier)
  have whole : backward tier [] [] none range.whole.reverse = .ok ⟨[], items, last⟩ := by
    have all := passed [] [] []
    simpa [backward] using all
  rcases led.of_phrase phrase with before | ⟨first, before, operand, -⟩
  · refine ⟨⟨[], items, last⟩, ?_, folded, leaves.value⟩
    rw [← whole, Range.whole, before, List.reverse_nil, List.nil_append]
  · rw [Range.whole, before, List.reverse_singleton, List.reverse_append, List.reverse_singleton]
      at whole
    obtain ⟨shifted, done, same, -, agree⟩ := backward_shift operand whole
    rw [before]
    refine ⟨shifted, done, ?_, ?_⟩
    · rw [same]
      exact folded
    · intro single
      rcases agree with agree | ⟨kept, nonempty⟩
      · rw [agree]
        exact leaves.value (same.symm.trans single)
      · have left := nonempty (.inr (by simpa using unfinished))
        rw [Range.whole, kept] at single
        exact absurd (List.cons.inj single).2 left

theorem resolveTier_phrase {held : Expression} (bound : tier ≤ maxTier)
    (phrase : Phrase (tier + 1) 0 range.whole part) (led : range.Led)
    (holds : part.value? = some held) (settled : range.parts = [] → range.value = some held) :
    ∃ resolved, resolveTier tier range = .ok resolved ∧ Phrase tier 0 resolved.whole part ∧
      resolved.Led ∧ (resolved.whole = [part] → resolved.value = some held) := by
  by_cases finished : range.parts = []
  · refine ⟨range, resolveTier_of_nil finished, ?_, led, fun _ => settled finished⟩
    rcases led.of_phrase phrase with before | ⟨first, before, operand, -⟩
    · exact absurd (by rw [Range.whole, before, finished]; rfl) phrase.ne_nil
    · rw [Range.whole, before, finished] at phrase ⊢
      obtain rfl := phrase.eq_of_singleton
      exact .of_isOperand operand (Nat.zero_le _)
  · have step : ∃ passed, pass tier range = .ok passed ∧ Phrase tier 0 passed.whole part ∧
        passed.Led ∧ (passed.whole = [part] → passed.value = part.value?) := by
      unfold pass
      rcases associativity_eq bound with ⟨left, member⟩ | ⟨right, member⟩
      · rw [left]
        obtain ⟨passed, done, next, value⟩ := forward_phrase member phrase led finished
        exact ⟨passed, done, next, led_forward led done, value⟩
      · rw [right]
        obtain ⟨passed, done, next, value⟩ := backward_phrase member phrase led finished
        exact ⟨passed, done, next, led_backward led done, value⟩
    obtain ⟨passed, done, next, nextLed, value⟩ := step
    refine ⟨{ passed with value := passed.value <|> range.value }, ?_, next, nextLed, ?_⟩
    · rw [resolveTier, done]
      rfl
    · intro single
      show (passed.value <|> range.value) = some held
      rw [value single, holds]
      rfl

theorem resolveBelow_phrase {tiers : Nat} {held : Expression} (bound : tiers ≤ maxTier + 1)
    (phrase : Phrase tiers 0 range.whole part) (led : range.Led)
    (holds : part.value? = some held) (settled : range.parts = [] → range.value = some held)
    (single : tiers = 0 → range.value = some held) :
    ∃ resolved, resolveBelow tiers range = .ok resolved ∧ resolved.whole = [part] ∧
      resolved.value = some held := by
  induction tiers generalizing range with
  | zero => exact ⟨range, rfl, phrase.of_top, single rfl⟩
  | succ tier ih =>
    obtain ⟨next, passed, nextPhrase, nextLed, value⟩ :=
      resolveTier_phrase (by omega) phrase led holds settled
    have nextSettled : next.parts = [] → next.value = some held := by
      intro finished
      apply value
      rcases nextLed.of_phrase nextPhrase with before | ⟨first, before, -, -⟩
      · exact absurd (by rw [Range.whole, before, finished]; rfl) nextPhrase.ne_nil
      · rw [Range.whole, before, finished] at nextPhrase ⊢
        rw [nextPhrase.eq_of_singleton]
        rfl
    obtain ⟨resolved, others, whole, result⟩ := ih (by omega) nextPhrase nextLed nextSettled
      (fun none => value (by rw [none] at nextPhrase; exact nextPhrase.of_top))
    exact ⟨resolved, bind_eq_ok.mpr ⟨next, passed, others⟩, whole, result⟩

/-- A range that is an operator expression is put together to the part of that expression. -/
theorem resolve_phrase {held : Expression} (phrase : Phrase (maxTier + 1) 0 range.whole part)
    (led : range.Led) (holds : part.value? = some held)
    (settled : range.parts = [] → range.value = some held) :
    ∃ resolved, resolve range = .ok resolved ∧ resolved.whole = [part] ∧
      resolved.value = some held :=
  resolveBelow_phrase (Nat.le_refl _) phrase led holds settled (by omega)

end PathQuery.Tiers
