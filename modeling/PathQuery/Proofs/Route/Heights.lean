import PathQuery.Proofs.Route

/-!
Steps on contexts of which only a height counts: a name leads one down from its context, and each
context lies one below the context around it. Main statement: `detour_lt_ascend`, where a step up
is not tracked, the frames end lower than the stack.
-/

namespace PathQuery.Step

/-- The height that was read last on a stack with the given height on top. -/
def ascend : List Step → Nat → Nat → Nat
  | [], _, last => last
  | .up :: steps, top, last => ascend steps (top + 1) last
  | .name _ :: steps, top, _ => ascend steps (top - 1) (top - 1)

/-- The height that was read last in frames: `..` goes through the frames around the present one,
and a name enters what it reads in all that have been entered. -/
def detour : List Step → Nat → List Nat → List Nat → Nat → Nat
  | [], _, _, _, last => last
  | .up :: _, _, [], _, last => last
  | .up :: steps, _, parent :: outer, entered, last => detour steps parent outer entered last
  | .name _ :: steps, top, _, entered, _ =>
      detour steps (top - 1) entered ((top - 1) :: entered) (top - 1)

/-- Whether frames lie below the heights on a stack, which grow by one: as many as the count says
are level, all of them for `none`, and the others are lower. -/
def Lags : Option Nat → Nat → List Nat → Prop
  | _, _, [] => True
  | none, height, frame :: frames => frame = height ∧ Lags none (height + 1) frames
  | some 0, height, frame :: frames => frame < height ∧ Lags (some 0) (height + 1) frames
  | some (count + 1), height, frame :: frames =>
      frame = height ∧ Lags (some count) (height + 1) frames

theorem Lags.lower {count : Option Nat} {height : Nat} {frames : List Nat}
    (lags : Lags count height frames) : Lags (some 0) (height + 1) frames := by
  induction frames generalizing count height with
  | nil => trivial
  | cons frame frames ih =>
    rcases count with _ | _ | count
    · exact ⟨by have := lags.1; omega, ih lags.2⟩
    · exact ⟨by have := lags.1; omega, ih lags.2⟩
    · exact ⟨by have := lags.1; omega, ih lags.2⟩

theorem Lags.push {count : Option Nat} {height : Nat} {frames : List Nat}
    (lags : Lags count (height + 1) frames) :
    Lags (count.map (· + 1)) height (height :: frames) := by
  cases count with
  | none => exact ⟨rfl, lags⟩
  | some count => exact ⟨rfl, lags⟩

theorem lags_range (height count : Nat) : Lags none height (List.range' height count) := by
  induction count generalizing height with
  | zero => trivial
  | succ count ih => exact ⟨rfl, ih (height + 1)⟩

theorem detour_lt_of_lower (steps : List Step) (more : steps ≠ []) (ending : steps.getLast? ≠ some .up)
    (height top : Nat) (outer entered : List Nat) (last final : Nat)
    (high : steps.length < height) (deep : steps.length ≤ outer.length)
    (deepEntered : steps.length ≤ entered.length) (lower : top < height)
    (lowerOuter : Lags (some 0) (height + 1) outer) (lowerEntered : Lags (some 0) height entered) :
    detour steps top outer entered last < ascend steps height final := by
  induction steps generalizing height top outer entered last final with
  | nil => exact absurd rfl more
  | cons step rest ih =>
    have endingRest := ending_of_cons ending
    simp only [List.length_cons] at high deep deepEntered
    cases step with
    | up =>
      have moreRest := ne_nil_of_ending ending
      cases outer with
      | nil => simp at deep
      | cons parent outer =>
        simp only [List.length_cons] at deep
        exact ih moreRest endingRest _ _ _ _ _ _ (by omega) (by omega) (by omega)
          lowerOuter.1 lowerOuter.2 lowerEntered.lower
    | name key =>
      obtain ⟨height, rfl⟩ : ∃ below, height = below + 1 := ⟨height - 1, by omega⟩
      by_cases moreRest : rest = []
      · subst moreRest
        simp only [detour, ascend]
        simp only [List.length_nil] at high
        omega
      · simp only [detour, ascend, Nat.add_sub_cancel]
        exact ih moreRest endingRest _ _ _ _ _ _ (by omega) (by omega)
          (by simp only [List.length_cons]; omega) (by omega) lowerEntered
          ⟨by omega, lowerEntered⟩

/-- Steps that are not tracked end lower in frames than on a stack. -/
theorem detour_lt_ascend (steps : List Step) (ending : steps.getLast? ≠ some .up)
    (count : Option Nat) (climbed : Bool) (untracked : tracked count climbed steps = false)
    (height : Nat) (outer entered : List Nat) (last final : Nat) (high : steps.length < height)
    (deep : steps.length ≤ outer.length) (deepEntered : steps.length ≤ entered.length)
    (lags : Lags count (height + 1) outer)
    (innermost : climbed = false → entered = height :: outer)
    (lower : climbed = true → Lags (some 0) height entered) :
    detour steps height outer entered last < ascend steps height final := by
  -- Level frames stay level until the step up that is not tracked; from there on all are lower.
  induction steps generalizing count climbed height outer entered last final with
  | nil => cases untracked
  | cons step rest ih =>
    have endingRest := ending_of_cons ending
    simp only [List.length_cons] at high deep deepEntered
    have lowerEntered : Lags (some 0) (height + 1) entered := by
      cases climbed with
      | true => exact (lower rfl).lower
      | false => exact (innermost rfl) ▸ lags.push.lower
    cases step with
    | up =>
      have moreRest := ne_nil_of_ending ending
      cases outer with
      | nil => simp at deep
      | cons parent outer =>
        simp only [List.length_cons] at deep
        rcases count with _ | _ | count
        · obtain ⟨rfl, lags⟩ := lags
          exact ih endingRest none true untracked _ _ _ _ _ (by omega) (by omega)
            (by omega) lags (by simp) fun _ => lowerEntered
        · exact detour_lt_of_lower rest moreRest endingRest _ _ _ _ _ _ (by omega)
            (by omega) (by omega) lags.1 lags.2 lowerEntered
        · obtain ⟨rfl, lags⟩ := lags
          exact ih endingRest (some count) true untracked _ _ _ _ _ (by omega)
            (by omega) (by omega) lags (by simp) fun _ => lowerEntered
    | name key =>
      obtain ⟨height, rfl⟩ : ∃ below, height = below + 1 := ⟨height - 1, by omega⟩
      have moreRest : rest ≠ [] := by
        rintro rfl
        cases untracked
      simp only [detour, ascend, Nat.add_sub_cancel]
      refine ih endingRest _ false untracked _ _ _ _ _ (by omega) (by omega)
        (by simp only [List.length_cons]; omega) ?_ (fun _ => rfl) (by simp)
      cases climbed with
      | true => exact lower rfl
      | false => exact innermost rfl ▸ lags.push

end PathQuery.Step
