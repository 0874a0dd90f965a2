import PathQuery.Proofs.Precedence.Sweep

/-!
What the passes make of an expression. On a phrase of the tiers up to its own, a pass puts the
operators of its tier together with their operands and leaves a phrase of the looser tiers. Main
statement: `resolve_phrase`, the passes of all tiers put an operator expression together.
-/

namespace PathQuery

namespace TokenKind

theorem takes_of_precedence {kind : TokenKind} {tier : Nat} (tiered : kind.precedence? = some tier)
    (binary : tier ≠ 9) : kind.takesLeft = true ∧ kind.takesRight = true := by
  cases kind <;> simp_all [precedence?, takesLeft, takesRight, isOperator]

end TokenKind

namespace Tiers

theorem visit_of_isOperand {part : Part} (operand : part.isOperand = true)
    (neighbour : Option Part) : visit none neighbour part = .ok part.value? := by
  unfold visit
  split
  · rfl
  · rfl
  · rename_i plain nonempty
    have literal : part.kind.isLiteral = true := by
      unfold Part.isOperand at operand
      split at operand
      · exact absurd rfl (plain _)
      · exact absurd rfl nonempty
      · exact operand
    simp only [literal, Bool.not_true, Bool.false_eq_true, if_false]
    cases part with
    | literal => rfl
    | text => rfl
    | expression kind held =>
      cases kind <;> first | exact absurd rfl (plain _) | rfl
    | empty kind =>
      cases kind <;> first | exact absurd rfl nonempty | rfl

theorem operand_of_isOperand {part : Part} (operand : part.isOperand = true) :
    operand? (some part) = some part := by
  rcases Part.kind_of_isOperand operand with literal | same
  · simp [operand?, literal]
  · simp [operand?, same]

variable {tier : Nat} {stack rest : List Part} {last : Option Expression}

theorem sweep_operand {part : Part} (operand : part.isOperand = true) :
    sweep tier stack none (part :: rest) = sweep tier (part :: stack) part.value? rest := by
  rw [sweep, Part.precedence_of_isOperand operand]
  show visit none stack.head? part >>= _ = _
  rw [visit_of_isOperand operand]
  rfl

theorem sweep_looser {operator : Part} {found : Nat}
    (tiered : operator.kind.precedence? = some found) (looser : found < tier) :
    sweep tier stack last (operator :: rest) = sweep tier (operator :: stack) none rest := by
  rw [sweep, tiered]
  exact if_pos looser

theorem sweep_binary {left operator right : Part}
    (tiered : operator.kind.precedence? = some tier) (binary : tier ≠ 9)
    (leftOperand : left.isOperand = true) (rightOperand : right.isOperand = true) :
    sweep tier (left :: stack) last (operator :: right :: rest) =
      sweep tier (.applied (some left) operator (some right) :: stack)
        (Part.applied (some left) operator (some right)).value? rest := by
  have takes := TokenKind.takes_of_precedence tiered binary
  rw [sweep, tiered]
  simp only [Nat.lt_irrefl, if_false, leftOperand?, rightOperand?, takes, if_true, List.head?_cons,
    operand_of_isOperand leftOperand, operand_of_isOperand rightOperand]
  rfl

theorem sweep_negation {operator right : Part} (negates : operator.kind = .not)
    (operand : right.isOperand = true) :
    sweep 9 stack last (operator :: right :: rest) =
      sweep 9 (.applied none operator (some right) :: stack)
        (Part.applied none operator (some right)).value? rest := by
  have tiered : operator.kind.precedence? = some 9 := by rw [negates]; rfl
  have takesLeft : operator.kind.takesLeft = false := by rw [negates]; rfl
  have takesRight : operator.kind.takesRight = true := by rw [negates]; rfl
  rw [sweep, tiered]
  simp only [Nat.lt_irrefl, if_false, leftOperand?, rightOperand?, takesLeft, takesRight, if_true,
    List.head?_cons, operand_of_isOperand operand, Bool.false_eq_true]
  rfl

theorem sweep_counting {operator left : Part}
    (counts : operator.kind = .increase ∨ operator.kind = .decrease)
    (operand : left.isOperand = true) :
    sweep 9 (left :: stack) last (operator :: rest) =
      sweep 9 (.applied (some left) operator none :: stack)
        (Part.applied (some left) operator none).value? rest := by
  have tiered : operator.kind.precedence? = some 9 := by
    rcases counts with same | same <;> rw [same] <;> rfl
  have takesLeft : operator.kind.takesLeft = true := by
    rcases counts with same | same <;> rw [same] <;> rfl
  have takesRight : operator.kind.takesRight = false := by
    rcases counts with same | same <;> rw [same] <;> rfl
  rw [sweep, tiered]
  simp only [Nat.lt_irrefl, if_false, leftOperand?, rightOperand?, takesLeft, takesRight, if_true,
    List.head?_cons, operand_of_isOperand operand, Bool.false_eq_true]
  rfl

/-- Passing over some parts from left to right leaves others of them on the stack, the last of which
came to the given expression. -/
def Sweeps (tier : Nat) (parts items : List Part) (last : Option Expression) : Prop :=
  ∀ stack rest, sweep tier stack none (parts ++ rest) = sweep tier (items.reverse ++ stack) last rest

namespace Sweeps

variable {lefts rights leftItems rightItems : List Part} {leftLast rightLast : Option Expression}
  {operator : Part} {found : Nat}

theorem prefixed (tiered : operator.kind.precedence? = some found) (looser : found < tier)
    (right : Sweeps tier rights rightItems rightLast) :
    Sweeps tier (operator :: rights) (operator :: rightItems) rightLast := by
  intro stack rest
  rw [List.cons_append, sweep_looser tiered looser, right]
  simp

theorem joined (tiered : operator.kind.precedence? = some found) (looser : found < tier)
    (left : Sweeps tier lefts leftItems leftLast) (right : Sweeps tier rights rightItems rightLast) :
    Sweeps tier (lefts ++ operator :: rights) (leftItems ++ operator :: rightItems) rightLast := by
  intro stack rest
  rw [List.append_assoc, left, List.cons_append, sweep_looser tiered looser, right]
  simp

theorem suffixed (tiered : operator.kind.precedence? = some found) (looser : found < tier)
    (left : Sweeps tier lefts leftItems leftLast) :
    Sweeps tier (lefts ++ [operator]) (leftItems ++ [operator]) none := by
  intro stack rest
  rw [List.append_assoc, left, List.singleton_append, sweep_looser tiered looser]
  simp

end Sweeps

namespace Range

/-- Only operands stand before the beginning of a range. -/
def Led (range : Range) : Prop :=
  ∀ part ∈ range.before, part.isOperand = true

/-- In front of an operator expression at most one operand stands before the beginning, and an
operator follows it. -/
theorem Led.of_phrase {range : Range} {top lower : Nat} {part : Part} (led : range.Led)
    (phrase : Phrase top lower range.whole part) :
    range.before = [] ∨ ∃ first, range.before = [first] ∧ first.isOperand = true ∧
      ∀ next ∈ range.parts.head?, next.kind.isOperator = true := by
  have chain := phrase.isChain
  unfold whole at chain
  match before : range.before with
  | [] => exact .inl rfl
  | [first] =>
    rw [before] at chain
    have operand := led first (by simp [before])
    refine .inr ⟨first, rfl, operand, ?_⟩
    intro next follows
    exact (List.isChain_append.mp chain).2.2 first rfl next follows operand
  | second :: first :: others =>
    rw [before] at chain
    have firstOperand := led first (by simp [before])
    have secondOperand := led second (by simp [before])
    simp only [List.reverse_cons, List.append_assoc, List.singleton_append] at chain
    have apart := ((List.isChain_append.mp chain).2.1.rel) firstOperand
    rw [TokenKind.isOperator, Part.precedence_of_isOperand secondOperand] at apart
    cases apart

end Range

/-- What a pass leaves of a phrase: a phrase of the looser tiers, which is one part when the tiers of
the phrase are all done. When one part is left, it is the one that was visited last. -/
structure Leaves (tier lower : Nat) (part : Part) (items : List Part) (last : Option Expression) :
    Prop where
  phrase : Phrase tier (min lower tier) items part
  single : tier ≤ lower → items = [part]
  value : items = [part] → last = part.value?

namespace Leaves

variable {lower : Nat} {part : Part} {items lefts rights : List Part}

theorem of_isOperand (operand : part.isOperand = true) :
    Leaves tier lower part [part] part.value? :=
  ⟨.of_isOperand operand (Nat.min_le_right _ _), fun _ => rfl, fun _ => rfl⟩

theorem phrase_of_le (leaves : Leaves tier lower part items last) (within : lower ≤ tier) :
    Phrase tier lower items part := by
  have phrase := leaves.phrase
  rwa [Nat.min_eq_left within] at phrase

theorem tighter (leaves : Leaves tier (lower + 1) part items last) :
    Leaves tier lower part items last := by
  refine ⟨?_, fun within => leaves.single (by omega), leaves.value⟩
  rcases Nat.lt_or_ge lower tier with looser | done
  · rw [Nat.min_eq_left (by omega)]
    exact .tighter looser (leaves.phrase_of_le looser)
  · have phrase := leaves.phrase
    rw [Nat.min_eq_right (by omega)] at phrase
    rwa [Nat.min_eq_right done]

/-- An operator of a looser tier stays where it is. -/
theorem of_looser (looser : lower < tier) (phrase : Phrase tier lower items part)
    (several : items ≠ [part]) : Leaves tier lower part items last := by
  refine ⟨?_, fun done => absurd looser (by omega), fun single => absurd single several⟩
  rwa [Nat.min_eq_left (by omega)]

theorem several {operator : Part} (nonempty : lefts ≠ []) : lefts ++ operator :: rights ≠ [part] := by
  simp [List.append_eq_singleton_iff, nonempty]

end Leaves

theorem sweeps_phrase {lower : Nat} {parts : List Part} {part : Part}
    (leftward : tier ∈ [2, 4, 5, 6, 7, 8, 9, 10]) (phrase : Phrase (tier + 1) lower parts part) :
    ∃ items last, Leaves tier lower part items last ∧ Sweeps tier parts items last := by
  induction phrase with
  | @operand part operand =>
    refine ⟨[part], part.value?, .of_isOperand operand, ?_⟩
    intro stack rest
    exact sweep_operand operand
  | tighter _ _ ih =>
    obtain ⟨items, last, leaves, swept⟩ := ih
    exact ⟨items, last, leaves.tighter, swept⟩
  | @leftward lower lefts rights left operator right bound member tiered _ rightPhrase ihLeft ihRight =>
    obtain ⟨leftItems, leftLast, leftLeaves, leftSwept⟩ := ihLeft
    by_cases same : lower = tier
    · subst same
      obtain rfl := rightPhrase.of_top
      obtain rfl := leftLeaves.single (Nat.le_refl _)
      refine ⟨[_], _, .of_isOperand rfl, ?_⟩
      intro stack rest
      rw [List.append_assoc, leftSwept]
      exact sweep_binary tiered (by rintro rfl; simp at member) leftLeaves.phrase.isOperand
        rightPhrase.isOperand
    · obtain ⟨rightItems, rightLast, rightLeaves, rightSwept⟩ := ihRight
      have looser : lower < tier := by omega
      have leftPhrase := leftLeaves.phrase_of_le (by omega)
      have rightPhrase := rightLeaves.phrase_of_le looser
      exact ⟨_, rightLast,
        .of_looser looser (.leftward looser member tiered leftPhrase rightPhrase)
          (Leaves.several leftPhrase.ne_nil),
        leftSwept.joined tiered looser rightSwept⟩
  | @rightward lower lefts rights left operator right bound member tiered _ _ ihLeft ihRight =>
    obtain ⟨leftItems, leftLast, leftLeaves, leftSwept⟩ := ihLeft
    obtain ⟨rightItems, rightLast, rightLeaves, rightSwept⟩ := ihRight
    have looser : lower < tier := by
      simp only [List.mem_cons, List.not_mem_nil, or_false] at member leftward
      omega
    have leftPhrase := leftLeaves.phrase_of_le looser
    have rightPhrase := rightLeaves.phrase_of_le (by omega)
    exact ⟨_, rightLast,
      .of_looser looser (.rightward looser member tiered leftPhrase rightPhrase)
        (Leaves.several leftPhrase.ne_nil),
      leftSwept.joined tiered looser rightSwept⟩
  | @negation rights operator right bound negates rightPhrase ih =>
    by_cases same : tier = 9
    · subst same
      obtain rfl := rightPhrase.of_top
      refine ⟨[_], _, .of_isOperand rfl, ?_⟩
      intro stack rest
      exact sweep_negation negates rightPhrase.isOperand
    · obtain ⟨rightItems, rightLast, rightLeaves, rightSwept⟩ := ih
      have looser : 9 < tier := by omega
      have tiered : operator.kind.precedence? = some 9 := by rw [negates]; rfl
      have rightPhrase := rightLeaves.phrase_of_le looser
      refine ⟨_, rightLast, .of_looser looser (.negation looser negates rightPhrase) ?_,
        rightSwept.prefixed tiered looser⟩
      intro single
      exact absurd (List.cons.inj single).2 rightPhrase.ne_nil
  | @counting lefts left operator bound counts _ ih =>
    obtain ⟨leftItems, leftLast, leftLeaves, leftSwept⟩ := ih
    by_cases same : tier = 9
    · subst same
      obtain rfl := leftLeaves.single (Nat.le_refl _)
      refine ⟨[_], _, .of_isOperand rfl, ?_⟩
      intro stack rest
      rw [List.append_assoc, leftSwept]
      exact sweep_counting counts leftLeaves.phrase.isOperand
    · have looser : 9 < tier := by omega
      have tiered : operator.kind.precedence? = some 9 := by
        rcases counts with same | same <;> rw [same] <;> rfl
      have leftPhrase := leftLeaves.phrase_of_le (by omega)
      exact ⟨_, none,
        .of_looser looser (.counting looser counts leftPhrase) (Leaves.several leftPhrase.ne_nil),
        leftSwept.suffixed tiered looser⟩

section backward

variable {before done : List Part}

theorem backward_operand {part : Part} (operand : part.isOperand = true) :
    backward tier before done none (part :: rest) =
      backward tier before (part :: done) part.value? rest := by
  rw [backward, Part.precedence_of_isOperand operand]
  show visit none done.head? part >>= _ = _
  rw [visit_of_isOperand operand]
  rfl

theorem backward_looser {operator : Part} {found : Nat}
    (tiered : operator.kind.precedence? = some found) (looser : found < tier) :
    backward tier before done last (operator :: rest) =
      backward tier before (operator :: done) none rest := by
  rw [backward, tiered]
  exact if_pos looser

theorem backward_folds {operator : Part} {found : Nat} (last : Option Expression)
    (left right : Option Part)
    (tiered : operator.kind.precedence? = some found) (tight : ¬found < tier) :
    leftOperand? ⟨operator.kind, operator.render⟩ (rest ++ before).head? = .ok left →
    rightOperand? ⟨operator.kind, operator.render⟩ done.head? = .ok right →
    backward tier before done last (operator :: rest) =
      if left.isSome then
        match rest with
        | [] => .ok ⟨before.drop 1, .applied left operator right :: done.drop right.toList.length,
            (Part.applied left operator right).value?⟩
        | _ :: farther => backward tier before
            (.applied left operator right :: done.drop right.toList.length)
            (Part.applied left operator right).value? farther
      else backward tier before (.applied left operator right :: done.drop right.toList.length)
        (Part.applied left operator right).value? rest := by
  intro leftTaken rightTaken
  rw [backward, tiered]
  simp only [tight, if_false, leftTaken, rightTaken]
  rfl

theorem backward_binary {left operator right : Part}
    (tiered : operator.kind.precedence? = some tier) (binary : tier ≠ 9)
    (leftOperand : left.isOperand = true) (rightOperand : right.isOperand = true) :
    backward tier before (right :: done) last (operator :: left :: rest) =
      backward tier before (.applied (some left) operator (some right) :: done)
        (Part.applied (some left) operator (some right)).value? rest := by
  have takes := TokenKind.takes_of_precedence tiered binary
  rw [backward_folds last (some left) (some right) tiered (Nat.lt_irrefl tier)]
  · rfl
  · simp only [leftOperand?, takes, if_true, List.cons_append, List.head?_cons,
      operand_of_isOperand leftOperand]
  · simp only [rightOperand?, takes, if_true, List.head?_cons, operand_of_isOperand rightOperand]

end backward

/-- Passing over some parts from right to left leaves others of them, the first of which came to the
given expression. -/
def Recedes (tier : Nat) (parts items : List Part) (last : Option Expression) : Prop :=
  ∀ before done rest, backward tier before done none (parts.reverse ++ rest) =
    backward tier before (items ++ done) last rest

theorem Recedes.joined {lefts rights leftItems rightItems : List Part}
    {leftLast rightLast : Option Expression} {operator : Part} {found : Nat}
    (tiered : operator.kind.precedence? = some found) (looser : found < tier)
    (left : Recedes tier lefts leftItems leftLast)
    (right : Recedes tier rights rightItems rightLast) :
    Recedes tier (lefts ++ operator :: rights) (leftItems ++ operator :: rightItems) leftLast := by
  intro before done rest
  rw [List.reverse_append, List.reverse_cons, List.append_assoc, List.append_assoc, right,
    List.singleton_append, backward_looser tiered looser, left]
  simp

theorem recedes_phrase {lower : Nat} {parts : List Part} {part : Part}
    (rightward : tier ∈ [0, 1, 3]) (phrase : Phrase (tier + 1) lower parts part) :
    ∃ items last, Leaves tier lower part items last ∧ Recedes tier parts items last := by
  induction phrase with
  | @operand part operand =>
    refine ⟨[part], part.value?, .of_isOperand operand, ?_⟩
    intro before done rest
    exact backward_operand operand
  | tighter _ _ ih =>
    obtain ⟨items, last, leaves, passed⟩ := ih
    exact ⟨items, last, leaves.tighter, passed⟩
  | @leftward lower lefts rights left operator right bound member tiered _ _ ihLeft ihRight =>
    obtain ⟨leftItems, leftLast, leftLeaves, leftPassed⟩ := ihLeft
    obtain ⟨rightItems, rightLast, rightLeaves, rightPassed⟩ := ihRight
    have looser : lower < tier := by
      simp only [List.mem_cons, List.not_mem_nil, or_false] at member rightward
      omega
    have leftPhrase := leftLeaves.phrase_of_le (by omega)
    have rightPhrase := rightLeaves.phrase_of_le looser
    exact ⟨_, leftLast,
      .of_looser looser (.leftward looser member tiered leftPhrase rightPhrase)
        (Leaves.several leftPhrase.ne_nil),
      leftPassed.joined tiered looser rightPassed⟩
  | @rightward lower lefts rights left operator right bound member tiered leftPhrase _ ihLeft ihRight =>
    obtain ⟨rightItems, rightLast, rightLeaves, rightPassed⟩ := ihRight
    by_cases same : lower = tier
    · subst same
      obtain rfl := leftPhrase.of_top
      obtain rfl := rightLeaves.single (Nat.le_refl _)
      refine ⟨[_], _, .of_isOperand rfl, ?_⟩
      intro before done rest
      rw [List.singleton_append, List.reverse_cons, List.reverse_cons, List.append_assoc,
        List.append_assoc, rightPassed]
      exact backward_binary tiered (by rintro rfl; simp at member) leftPhrase.isOperand
        rightLeaves.phrase.isOperand
    · obtain ⟨leftItems, leftLast, leftLeaves, leftPassed⟩ := ihLeft
      have looser : lower < tier := by omega
      have leftPhrase := leftLeaves.phrase_of_le looser
      have rightPhrase := rightLeaves.phrase_of_le (by omega)
      exact ⟨_, leftLast,
        .of_looser looser (.rightward looser member tiered leftPhrase rightPhrase)
          (Leaves.several leftPhrase.ne_nil),
        leftPassed.joined tiered looser rightPassed⟩
  | negation bound | counting bound =>
    simp only [List.mem_cons, List.not_mem_nil, or_false] at rightward
    omega

/-- It does not matter whether the first operand of a range stands before its beginning, except that
it is not visited there. -/
theorem backward_shift {first : Part} {done : List Part} {range : Range}
    (operand : first.isOperand = true)
    (passed : backward tier [] done last (rest ++ [first]) = .ok range) :
    ∃ shifted, backward tier [first] done last rest = .ok shifted ∧
      shifted.whole = range.whole ∧ (∀ part ∈ shifted.before, part.isOperand = true) ∧
      (shifted.value = range.value ∨
        shifted.before = [first] ∧ (done ≠ [] ∨ rest ≠ [] → shifted.parts ≠ [])) := by
  induction done, last, rest using backward.induct tier with
  | case1 done last =>
    rw [List.nil_append, backward, Part.precedence_of_isOperand operand] at passed
    obtain ⟨value, _, passed⟩ := bind_eq_ok.mp passed
    cases passed
    refine ⟨⟨[first], done, last⟩, rfl, rfl, ?_, .inr ⟨rfl, by simp⟩⟩
    intro part member
    obtain rfl := List.mem_singleton.mp member
    exact operand
  | case2 done last part rest plain ih =>
    rw [List.cons_append, backward, plain] at passed
    obtain ⟨value, visited, passed⟩ := bind_eq_ok.mp passed
    obtain ⟨shifted, again, same, operands, agree⟩ := ih value passed
    refine ⟨shifted, ?_, same, operands, ?_⟩
    · rw [backward, plain]
      exact bind_eq_ok.mpr ⟨value, visited, again⟩
    · exact agree.imp_right (And.imp_right fun nonempty _ => nonempty (by simp))
  | case3 done last part rest found tiered looser ih =>
    rw [List.cons_append, backward, tiered] at passed
    simp only [looser, if_true] at passed
    obtain ⟨shifted, again, same, operands, agree⟩ := ih passed
    refine ⟨shifted, (backward_looser tiered looser).trans again, same, operands, ?_⟩
    exact agree.imp_right (And.imp_right fun nonempty _ => nonempty (by simp))
  | case4 done last part rest found tiered tight operator ihAfter ihRest =>
    rw [List.cons_append, backward, tiered] at passed
    simp only [tight, if_false] at passed
    obtain ⟨left, leftTaken, passed⟩ := bind_eq_ok.mp passed
    obtain ⟨right, rightTaken, passed⟩ := bind_eq_ok.mp passed
    simp only [List.append_nil] at leftTaken
    have folds := backward_folds last left right tiered tight leftTaken rightTaken
    split at passed
    · rename_i takesLeft
      rw [folds, if_pos takesLeft]
      cases rest with
      | nil =>
        simp only [List.nil_append, backward] at passed
        cases passed
        exact ⟨_, rfl, rfl, by simp, .inl rfl⟩
      | cons next farther =>
        obtain ⟨shifted, again, same, operands, agree⟩ := ihAfter left right passed
        refine ⟨shifted, again, same, operands, ?_⟩
        exact agree.imp_right (And.imp_right fun nonempty _ => nonempty (by simp))
    · rename_i takesNone
      rw [folds, if_neg takesNone]
      obtain ⟨shifted, again, same, operands, agree⟩ := ihRest left right passed
      refine ⟨shifted, again, same, operands, ?_⟩
      exact agree.imp_right (And.imp_right fun nonempty _ => nonempty (by simp))

end Tiers

end PathQuery
