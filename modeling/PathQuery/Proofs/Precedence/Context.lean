import PathQuery.Proofs.Precedence.Unfolding

/-!
The passes over a range after other parts. Operators take an operand from before the range only at
its very beginning, so a range that begins with something else comes to the same wherever it stands.
-/

namespace PathQuery

namespace Phrase

variable {top tier : Nat} {parts : List Part} {operand : Part}

theorem kinded (phrase : Phrase top tier parts operand) :
    ∀ part ∈ parts, part.kind = .expression → part.isOperand = true := by
  have operator : ∀ {part : Part} {tier : Nat}, part.kind.precedence? = some tier →
      part.kind = .expression → part.isOperand = true := by
    intro part tier tiered same
    rw [same] at tiered
    cases tiered
  induction phrase with
  | operand operand => simpa using fun _ => operand
  | tighter _ _ ih => exact ih
  | leftward _ _ tiered _ _ ihLeft ihRight | rightward _ _ tiered _ _ ihLeft ihRight =>
    exact List.forall_mem_append.mpr ⟨ihLeft, List.forall_mem_cons.mpr ⟨operator tiered, ihRight⟩⟩
  | negation _ negates _ ih => exact List.forall_mem_cons.mpr ⟨by simp [negates], ih⟩
  | counting _ counts _ ih =>
    refine List.forall_mem_append.mpr ⟨ih, ?_⟩
    rcases counts with same | same <;> simp [same]

theorem unled (phrase : Phrase top tier parts operand) :
    ∀ part ∈ parts.head?, part.kind.takesLeft = false := by
  induction phrase with
  | @operand part operand =>
    rintro _ ⟨⟩
    simp [TokenKind.takesLeft, Part.isOperator_of_isOperand operand]
  | tighter _ _ ih => exact ih
  | leftward _ _ _ lefts _ ih | rightward _ _ _ lefts _ ih | counting _ _ lefts ih =>
    rwa [List.head?_append_of_ne_nil _ lefts.ne_nil]
  | negation _ negates =>
    rintro _ ⟨⟩
    rw [negates]
    rfl

end Phrase

namespace Tiers

namespace Range

/-- The range with other parts before it and all that it has put there. -/
def onto (context : List Part) (range : Range) : Range :=
  { range with before := range.before ++ context }

/-- The first part is no operator that would take something before it. -/
def Unled (range : Range) : Prop :=
  ∀ part ∈ range.whole.head?, part.kind.takesLeft = false

end Range

variable {tier : Nat} {before done rest context : List Part} {last : Option Expression}

theorem visit_none (neighbour other : Option Part) (part : Part) :
    visit none neighbour part = visit none other part := by
  unfold visit
  rfl

theorem leftOperand_of_untaken {operator : Operator} (untaken : operator.kind.takesLeft = false)
    (neighbour : Option Part) : leftOperand? operator neighbour = .ok none := by
  simp [leftOperand?, untaken]

theorem leftOperand_onto {operator : Operator}
    (untaken : done ++ before = [] → operator.kind.takesLeft = false) :
    leftOperand? operator (done ++ (before ++ context)).head? =
      leftOperand? operator (done ++ before).head? := by
  by_cases nothing : done ++ before = []
  · rw [leftOperand_of_untaken (untaken nothing), leftOperand_of_untaken (untaken nothing)]
  · rw [← List.append_assoc, List.head?_append_of_ne_nil _ nothing]

/-- A left operand that was taken stands somewhere. -/
theorem ne_nil_of_leftOperand {operator : Operator} {left : Option Part}
    (untaken : done ++ before = [] → operator.kind.takesLeft = false)
    (taken : leftOperand? operator (done ++ before).head? = .ok left) (some : left.isSome = true) :
    done ++ before ≠ [] := by
  intro nothing
  rw [leftOperand_of_untaken (untaken nothing)] at taken
  cases taken
  cases some

theorem place_onto {left : Option Part} {value : Expression}
    (held : left.isSome = true → done ++ before ≠ []) :
    place left value (before ++ context) done =
      ((place left value before done).1 ++ context, (place left value before done).2) := by
  unfold place
  split
  · cases before with
    | nil => exact absurd rfl (held rfl)
    | cons => rfl
  · rfl
  · rfl
  · rfl
  · rfl

theorem place_ne_nil (left : Option Part) (value : Expression) (before done : List Part) :
    (place left value before done).2 ++ (place left value before done).1 ≠ [] := by
  rw [place_append]
  simp

theorem forward_onto (free : done ++ before = [] →
      last = none ∧ ∀ part ∈ rest.head?, part.kind.takesLeft = false) :
    forward tier (before ++ context) done last rest =
      (forward tier before done last rest).map (Range.onto context) := by
  fun_induction forward tier before done last rest with
  | case1 before done last => rfl
  | case2 before done last part rest neighbour plain ih =>
    rw [forward, plain]
    have same : visit last (done ++ (before ++ context)).head? part =
        visit last neighbour part := by
      by_cases nothing : done ++ before = []
      · rw [(free nothing).1]
        exact visit_none ..
      · rw [← List.append_assoc, List.head?_append_of_ne_nil _ nothing]
    dsimp only
    rw [same]
    cases visit last neighbour part with
    | error => rfl
    | ok value => exact ih value (by simp)
  | case3 before done last part rest found tiered looser ih =>
    rw [forward, tiered]
    simp only [looser, if_true]
    exact ih (by simp)
  | case4 before done last part rest neighbour found tiered tight operator ihAfter ihRest =>
    rw [forward, tiered]
    simp only [tight, if_false]
    have untaken : done ++ before = [] → operator.kind.takesLeft = false :=
      fun nothing => (free nothing).2 part rfl
    show leftOperand? operator _ >>= _ = Except.map _ (leftOperand? operator _ >>= _)
    rw [leftOperand_onto untaken]
    cases taken : leftOperand? operator neighbour with
    | error => rfl
    | ok left =>
      show rightOperand? operator rest.head? >>= _ =
        Except.map _ (rightOperand? operator rest.head? >>= _)
      cases rightOperand? operator rest.head? with
      | error => rfl
      | ok right =>
        have placed := @place_onto _ _ context left (.operation left operator right)
          (ne_nil_of_leftOperand untaken taken)
        have nonempty := place_ne_nil left (.operation left operator right) before done
        show (if right.isSome then _ else _) = Except.map _ (if right.isSome then _ else _)
        rw [placed]
        split
        · cases rest with
          | nil => rfl
          | cons next after => exact ihAfter left right fun nothing => absurd nothing nonempty
        · exact ihRest left right fun nothing => absurd nothing nonempty

theorem backward_onto (free : before = [] → ∀ part ∈ rest.getLast?, part.kind.takesLeft = false) :
    backward tier (before ++ context) done last rest =
      (backward tier before done last rest).map (Range.onto context) := by
  have tail : ∀ {part : Part} {rest : List Part}, (before = [] → ∀ first ∈ (part :: rest).getLast?,
      first.kind.takesLeft = false) →
      before = [] → ∀ first ∈ rest.getLast?, first.kind.takesLeft = false := by
    intro part rest free nothing first present
    refine free nothing first ?_
    rw [List.getLast?_cons, present]
    rfl
  fun_induction backward tier before done last rest with
  | case1 done last => rfl
  | case2 done last part rest plain ih =>
    rw [backward, plain]
    dsimp only
    cases visit last done.head? part with
    | error => rfl
    | ok value => exact ih value (tail free)
  | case3 done last part rest found tiered looser ih =>
    rw [backward, tiered]
    simp only [looser, if_true]
    exact ih (tail free)
  | case4 done last part rest found tiered tight operator ihAfter ihRest =>
    rw [backward, tiered]
    simp only [tight, if_false]
    have untaken : rest ++ before = [] → operator.kind.takesLeft = false := by
      intro nothing
      obtain ⟨rfl, none⟩ := List.append_eq_nil_iff.mp nothing
      exact free none part rfl
    show leftOperand? operator _ >>= _ = Except.map _ (leftOperand? operator _ >>= _)
    rw [leftOperand_onto untaken]
    cases taken : leftOperand? operator (rest ++ before).head? with
    | error => rfl
    | ok left =>
      show rightOperand? operator done.head? >>= _ =
        Except.map _ (rightOperand? operator done.head? >>= _)
      cases rightOperand? operator done.head? with
      | error => rfl
      | ok right =>
        show (if left.isSome then _ else _) = Except.map _ (if left.isSome then _ else _)
        split
        · rename_i some
          cases rest with
          | nil =>
            cases before with
            | nil => exact absurd rfl (ne_nil_of_leftOperand untaken taken some)
            | cons => rfl
          | cons next farther => exact ihAfter left right (tail (tail free))
        · exact ihRest left right (tail free)

variable {range resolved : Range}

theorem pass_onto (unled : range.Unled) :
    pass tier (range.onto context) = (pass tier range).map (Range.onto context) := by
  obtain ⟨before, parts, value⟩ := range
  have first : before = [] → ∀ part ∈ parts.head?, part.kind.takesLeft = false := by
    rintro rfl part present
    exact unled part present
  unfold pass
  split
  · exact forward_onto fun nothing => ⟨rfl, first (by simpa using nothing)⟩
  · refine backward_onto fun nothing => ?_
    show ∀ part ∈ parts.reverse.getLast?, part.kind.takesLeft = false
    rw [List.getLast?_reverse]
    exact first nothing

theorem resolveTier_onto (unled : range.Unled) :
    resolveTier tier (range.onto context) =
      (resolveTier tier range).map (Range.onto context) := by
  unfold resolveTier
  rw [pass_onto unled]
  cases pass tier range <;> rfl

theorem takesLeft_of_isOperand {part : Part} (operand : part.isOperand = true) :
    part.kind.takesLeft = false := by
  simp [TokenKind.takesLeft, Part.isOperator_of_isOperand operand]

theorem unled_of_unfolds (unfolds : Unfolds tier range.whole resolved.whole)
    (unled : range.Unled) : resolved.Unled := by
  rintro part first
  obtain ⟨others, split⟩ := List.head?_eq_some_iff.mp first
  rw [split] at unfolds
  obtain ⟨block, rest, same, stands, -⟩ := unfolds.of_cons
  rcases stands with rfl | phrase
  · exact unled part (by rw [same]; rfl)
  · exact takesLeft_of_isOperand phrase.isOperand

theorem resolveBelow_onto {tiers : Nat} (bound : tiers ≤ maxTier + 1) (led : range.Led)
    (pending : ∀ part ∈ range.whole, part.Passed tiers) (unled : range.Unled) :
    resolveBelow tiers (range.onto context) =
      (resolveBelow tiers range).map (Range.onto context) := by
  induction tiers generalizing range with
  | zero => rfl
  | succ tier ih =>
    rw [resolveBelow, resolveBelow, resolveTier_onto unled]
    cases first : resolveTier tier range with
    | error => rfl
    | ok next =>
      obtain ⟨unfolds, passed, nextLed⟩ := resolveTier_unfolds (by omega) first led
        fun part member => (pending part (List.mem_append_right _ member)).pending
      exact ih (by omega) nextLed passed (unled_of_unfolds unfolds unled)

theorem resolve_onto (context : List Part) (led : range.Led)
    (kinded : ∀ part ∈ range.parts, part.kind = .expression → part.isOperand = true)
    (unled : range.Unled) :
    resolve (range.onto context) = (resolve range).map (Range.onto context) := by
  rw [resolve, resolve, resolveBelow, resolveBelow, resolveTier_onto unled]
  cases first : resolveTier maxTier range with
  | error => rfl
  | ok next =>
    obtain ⟨unfolds, passed, nextLed⟩ := resolveTier_unfolds (Nat.le_refl _) first led
      fun part member => ⟨kinded part member, fun _ => TokenKind.precedence_le_maxTier⟩
    exact resolveBelow_onto (by omega) nextLed passed (unled_of_unfolds unfolds unled)

end Tiers

end PathQuery
