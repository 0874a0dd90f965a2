import PathQuery.Proofs.Precedence.Resolution

/-!
What the passes over a range have put together. Each part that a pass leaves stands for a block of
the parts before it: itself, or a phrase of the tier of the pass. Main statement: `resolve_remains`,
a range of which one part is left was an operator expression.
-/

namespace PathQuery

/-- The parts that one part stands for after the pass of a tier. -/
def Block (tier : Nat) (parts : List Part) (part : Part) : Prop :=
  parts = [part] ∨ Phrase (tier + 1) tier parts part

/-- The parts that a list of parts stands for after the pass of a tier. -/
inductive Unfolds (tier : Nat) : List Part → List Part → Prop
  | nil : Unfolds tier [] []
  | cons {block parts items : List Part} {part : Part} : Block tier block part →
      Unfolds tier parts items → Unfolds tier (block ++ parts) (part :: items)

namespace Unfolds

variable {tier : Nat} {parts items : List Part}

theorem append {moreParts moreItems : List Part} (first : Unfolds tier parts items)
    (second : Unfolds tier moreParts moreItems) :
    Unfolds tier (parts ++ moreParts) (items ++ moreItems) := by
  induction first with
  | nil => exact second
  | cons block _ ih =>
    rw [List.append_assoc]
    exact .cons block ih

theorem refl : ∀ parts, Unfolds tier parts parts
  | [] => .nil
  | part :: parts => @Unfolds.cons _ [part] _ _ _ (.inl rfl) (refl parts)

theorem singleton {part : Part} (block : Block tier parts part) : Unfolds tier parts [part] := by
  simpa using Unfolds.cons block .nil

theorem of_singleton {part : Part} (unfolds : Unfolds tier parts [part]) :
    Block tier parts part := by
  cases unfolds with
  | cons block rest =>
    cases rest
    simpa using block

theorem of_append {items moreItems : List Part} (unfolds : Unfolds tier parts (items ++ moreItems)) :
    ∃ first second, parts = first ++ second ∧ Unfolds tier first items ∧
      Unfolds tier second moreItems := by
  induction items generalizing parts with
  | nil => exact ⟨[], parts, rfl, .nil, unfolds⟩
  | cons item items ih =>
    cases unfolds with
    | @cons block _ _ _ stands rest =>
      obtain ⟨first, second, rfl, firstUnfolds, secondUnfolds⟩ := ih rest
      exact ⟨block ++ first, second, by simp, .cons stands firstUnfolds, secondUnfolds⟩

theorem of_cons {item : Part} (unfolds : Unfolds tier parts (item :: items)) :
    ∃ block rest, parts = block ++ rest ∧ Block tier block item ∧ Unfolds tier rest items := by
  cases unfolds with
  | cons stands rest => exact ⟨_, _, rfl, stands, rest⟩

theorem eq_nil (unfolds : Unfolds tier parts []) : parts = [] := by
  cases unfolds
  rfl

end Unfolds

theorem Block.of_operator {tier found : Nat} {parts : List Part} {operator : Part}
    (block : Block tier parts operator) (tiered : operator.kind.precedence? = some found) :
    parts = [operator] := by
  rcases block with same | phrase
  · exact same
  · rw [Part.precedence_of_isOperand phrase.isOperand] at tiered
    cases tiered

theorem Block.phrase {tier : Nat} {parts : List Part} {part : Part} (block : Block tier parts part)
    (operand : part.isOperand = true) : Phrase (tier + 1) tier parts part := by
  rcases block with rfl | phrase
  · exact .of_isOperand operand (Nat.le_succ tier)
  · exact phrase

theorem Phrase.unfold {tier lower : Nat} {items parts : List Part} {part : Part}
    (phrase : Phrase tier lower items part) (unfolds : Unfolds tier parts items) :
    Phrase (tier + 1) lower parts part := by
  induction phrase generalizing parts with
  | operand operand => exact unfolds.of_singleton.phrase operand
  | tighter bound _ ih => exact .tighter (by omega) (ih unfolds)
  | leftward bound member tiered _ _ ihLeft ihRight =>
    obtain ⟨lefts, others, rfl, leftUnfolds, others⟩ := unfolds.of_append
    obtain ⟨block, rights, rfl, stands, rightUnfolds⟩ := others.of_cons
    rw [stands.of_operator tiered]
    exact .leftward (by omega) member tiered (ihLeft leftUnfolds) (ihRight rightUnfolds)
  | rightward bound member tiered _ _ ihLeft ihRight =>
    obtain ⟨lefts, others, rfl, leftUnfolds, others⟩ := unfolds.of_append
    obtain ⟨block, rights, rfl, stands, rightUnfolds⟩ := others.of_cons
    rw [stands.of_operator tiered]
    exact .rightward (by omega) member tiered (ihLeft leftUnfolds) (ihRight rightUnfolds)
  | @negation _ operator _ bound negates _ ih =>
    obtain ⟨block, rights, rfl, stands, rightUnfolds⟩ := unfolds.of_cons
    have tiered : operator.kind.precedence? = some 9 := by rw [negates]; rfl
    rw [stands.of_operator tiered]
    exact .negation (by omega) negates (ih rightUnfolds)
  | @counting _ _ operator bound counts _ ih =>
    obtain ⟨lefts, others, rfl, leftUnfolds, others⟩ := unfolds.of_append
    have tiered : operator.kind.precedence? = some 9 := by
      rcases counts with same | same <;> rw [same] <;> rfl
    rw [others.of_singleton.of_operator tiered]
    exact .counting (by omega) counts (ih leftUnfolds)

namespace Part

/-- A part before the pass of a tier: no operator of a tighter tier is left. -/
def Pending (tier : Nat) (part : Part) : Prop :=
  (part.kind = .expression → part.isOperand = true) ∧
    ∀ found, part.kind.precedence? = some found → found ≤ tier

/-- A part after the pass of a tier: an operand, or an operator of a looser tier. -/
def Passed (tier : Nat) (part : Part) : Prop :=
  part.isOperand = true ∨ ∃ found, part.kind.precedence? = some found ∧ found < tier

theorem Passed.isOperand_of_kind {tier : Nat} {part : Part} (passed : part.Passed tier)
    (same : part.kind = .expression) : part.isOperand = true := by
  rcases passed with operand | ⟨found, tiered, _⟩
  · exact operand
  · rw [same] at tiered
    cases tiered

theorem Passed.pending {tier : Nat} {part : Part} (passed : part.Passed (tier + 1)) :
    part.Pending tier := by
  refine ⟨passed.isOperand_of_kind, ?_⟩
  intro found tiered
  rcases passed with operand | ⟨other, otherTiered, looser⟩
  · rw [precedence_of_isOperand operand] at tiered
    cases tiered
  · rw [otherTiered] at tiered
    cases tiered
    omega

end Part

theorem TokenKind.precedence_le_maxTier {kind : TokenKind} {tier : Nat}
    (tiered : kind.precedence? = some tier) : tier ≤ maxTier := by
  revert tiered
  cases kind <;> simp [precedence?, maxTier] <;> omega

namespace Tiers

theorem isOperand_of_visit {part : Part} {last value : Option Expression} {neighbour : Option Part}
    (visited : visit last neighbour part = .ok value) : part.isOperand = true := by
  unfold visit at visited
  split at visited
  · rfl
  · rfl
  · split at visited
    · cases visited
    · rename_i plain nonempty literal
      unfold Part.isOperand
      split
      · rfl
      · rfl
      · simpa using literal

theorem isOperand_of_operand {neighbour : Option Part} {part : Part}
    (found : operand? neighbour = some part)
    (kinded : ∀ part ∈ neighbour, part.kind = .expression → part.isOperand = true) :
    neighbour = some part ∧ part.isOperand = true := by
  obtain ⟨present, fits⟩ := Option.filter_eq_some_iff.mp found
  refine ⟨present, ?_⟩
  simp only [Bool.or_eq_true, beq_iff_eq] at fits
  rcases fits with literal | same
  · unfold Part.isOperand
    split
    · rfl
    · rfl
    · exact literal
  · exact kinded part present same

/-- What an operator has taken from both sides. -/
inductive Taken (tier : Nat) (kind : TokenKind) :
    Option Part → Option Part → Option Part → Option Part → Prop
  | binary {left right : Part} : tier ≠ 9 → left.isOperand = true → right.isOperand = true →
      Taken tier kind (some left) (some right) (some left) (some right)
  | negation {neighbour : Option Part} {right : Part} : tier = 9 → kind = .not →
      right.isOperand = true → Taken tier kind neighbour (some right) none (some right)
  | counting {neighbour : Option Part} {left : Part} : tier = 9 →
      kind = .increase ∨ kind = .decrease → left.isOperand = true →
      Taken tier kind (some left) neighbour (some left) none

theorem leftOperand_cases {operator : Operator} {neighbour left : Option Part}
    (taken : leftOperand? operator neighbour = .ok left) :
    (operator.kind.takesLeft = true ∧ ∃ part, operand? neighbour = some part ∧ left = some part) ∨
      (operator.kind.takesLeft = false ∧ left = none) := by
  unfold leftOperand? at taken
  split at taken
  · rename_i takes
    split at taken
    · rename_i part found
      cases taken
      exact .inl ⟨takes, part, found, rfl⟩
    · cases taken
  · rename_i takes
    cases taken
    exact .inr ⟨by simpa using takes, rfl⟩

theorem leftOperand_eq {operator : Operator} {neighbour left : Option Part}
    (taken : leftOperand? operator neighbour = .ok left)
    (kinded : ∀ part ∈ neighbour, part.kind = .expression → part.isOperand = true) :
    (operator.kind.takesLeft = true ∧
        ∃ part, neighbour = some part ∧ left = some part ∧ part.isOperand = true) ∨
      (operator.kind.takesLeft = false ∧ left = none) := by
  rcases leftOperand_cases taken with ⟨takes, part, found, rfl⟩ | untaken
  · obtain ⟨present, operand⟩ := isOperand_of_operand found kinded
    exact .inl ⟨takes, part, present, rfl, operand⟩
  · exact .inr untaken

theorem rightOperand_cases {operator : Operator} {neighbour right : Option Part}
    (taken : rightOperand? operator neighbour = .ok right) :
    (operator.kind.takesRight = true ∧ ∃ part, operand? neighbour = some part ∧ right = some part) ∨
      (operator.kind.takesRight = false ∧ right = none) := by
  unfold rightOperand? at taken
  split at taken
  · rename_i takes
    split at taken
    · rename_i part found
      cases taken
      exact .inl ⟨takes, part, found, rfl⟩
    · cases taken
  · rename_i takes
    cases taken
    exact .inr ⟨by simpa using takes, rfl⟩

theorem rightOperand_eq {operator : Operator} {neighbour right : Option Part}
    (taken : rightOperand? operator neighbour = .ok right)
    (kinded : ∀ part ∈ neighbour, part.kind = .expression → part.isOperand = true) :
    (operator.kind.takesRight = true ∧
        ∃ part, neighbour = some part ∧ right = some part ∧ part.isOperand = true) ∨
      (operator.kind.takesRight = false ∧ right = none) := by
  rcases rightOperand_cases taken with ⟨takes, part, found, rfl⟩ | untaken
  · obtain ⟨present, operand⟩ := isOperand_of_operand found kinded
    exact .inl ⟨takes, part, present, rfl, operand⟩
  · exact .inr untaken

theorem taken_of_operands {tier : Nat} {before after left right : Option Part} (operator : Operator)
    (tiered : operator.kind.precedence? = some tier)
    (leftTaken : leftOperand? operator before = .ok left)
    (rightTaken : rightOperand? operator after = .ok right)
    (beforeKinded : ∀ part ∈ before, part.kind = .expression → part.isOperand = true)
    (afterKinded : ∀ part ∈ after, part.kind = .expression → part.isOperand = true) :
    Taken tier operator.kind before after left right := by
  by_cases binary : tier = 9
  · have kinds : operator.kind = .not ∨ operator.kind = .increase ∨ operator.kind = .decrease := by
      rw [binary] at tiered
      revert tiered
      generalize operator.kind = kind
      cases kind <;> simp [TokenKind.precedence?]
    rcases leftOperand_eq leftTaken beforeKinded with
      ⟨takesLeft, leftPart, rfl, rfl, leftOperand⟩ | ⟨takesLeft, rfl⟩
    · rcases rightOperand_eq rightTaken afterKinded with
        ⟨takesRight, _⟩ | ⟨takesRight, rfl⟩
      · rcases kinds with same | same | same <;> rw [same] at takesLeft takesRight <;>
          simp [TokenKind.takesLeft, TokenKind.takesRight] at takesLeft takesRight
      · refine .counting binary ?_ leftOperand
        refine kinds.resolve_left fun same => ?_
        rw [same] at takesLeft
        simp [TokenKind.takesLeft] at takesLeft
    · have negates : operator.kind = .not := by
        refine kinds.resolve_right fun same => ?_
        rcases same with same | same <;> rw [same] at takesLeft <;>
          simp [TokenKind.takesLeft, TokenKind.isOperator, TokenKind.precedence?] at takesLeft
      rcases rightOperand_eq rightTaken afterKinded with
        ⟨_, rightPart, rfl, rfl, rightOperand⟩ | ⟨takesRight, rfl⟩
      · exact .negation binary negates rightOperand
      · rw [negates] at takesRight
        simp [TokenKind.takesRight, TokenKind.isOperator, TokenKind.precedence?] at takesRight
  · have takes := TokenKind.takes_of_precedence tiered binary
    rcases leftOperand_eq leftTaken beforeKinded with
      ⟨_, leftPart, rfl, rfl, leftOperand⟩ | ⟨takesLeft, _⟩
    · rcases rightOperand_eq rightTaken afterKinded with
        ⟨_, rightPart, rfl, rfl, rightOperand⟩ | ⟨takesRight, _⟩
      · exact .binary binary leftOperand rightOperand
      · rw [takes.2] at takesRight
        cases takesRight
    · rw [takes.1] at takesLeft
      cases takesLeft

theorem Taken.left_eq {tier : Nat} {kind : TokenKind} {before after left right : Option Part}
    (taken : Taken tier kind before after left right) :
    left = none ∨ ∃ part, before = some part ∧ left = some part ∧ part.isOperand = true := by
  cases taken with
  | binary _ operand | counting _ _ operand => exact .inr ⟨_, rfl, rfl, operand⟩
  | negation => exact .inl rfl

theorem Taken.right_eq {tier : Nat} {kind : TokenKind} {before after left right : Option Part}
    (taken : Taken tier kind before after left right) :
    right = none ∨ ∃ part, after = some part ∧ right = some part ∧ part.isOperand = true := by
  cases taken with
  | binary _ _ operand | negation _ _ operand => exact .inr ⟨_, rfl, rfl, operand⟩
  | counting => exact .inl rfl

theorem Taken.leftBlock {tier : Nat} {kind : TokenKind} {parts stack : List Part}
    {after left right : Option Part} (taken : Taken tier kind stack.head? after left right)
    (unfolds : Unfolds tier parts stack.reverse) :
    ∃ lefts below, Unfolds tier below (stack.drop left.toList.length).reverse ∧
      parts = below ++ lefts ∧ (∀ part, left = some part → Phrase (tier + 1) tier lefts part) ∧
      (left = none → lefts = []) := by
  rcases taken.left_eq with rfl | ⟨top, present, rfl, operand⟩
  · exact ⟨[], parts, by simpa using unfolds, by simp, by simp, by simp⟩
  · obtain ⟨stack, rfl⟩ := List.head?_eq_some_iff.mp present
    rw [List.reverse_cons] at unfolds
    obtain ⟨below, lefts, rfl, stackUnfolds, topUnfolds⟩ := unfolds.of_append
    refine ⟨lefts, below, by simpa using stackUnfolds, rfl, ?_, by simp⟩
    rintro _ ⟨⟩
    exact topUnfolds.of_singleton.phrase operand

theorem Taken.rightBlock {tier : Nat} {kind : TokenKind} {parts done : List Part}
    {before left right : Option Part} (taken : Taken tier kind before done.head? left right)
    (unfolds : Unfolds tier parts done) :
    ∃ rights others, Unfolds tier others (done.drop right.toList.length) ∧
      parts = rights ++ others ∧
      ∀ part, right = some part → Phrase (tier + 1) tier rights part := by
  rcases taken.right_eq with rfl | ⟨next, present, rfl, operand⟩
  · exact ⟨[], parts, unfolds, rfl, by simp⟩
  · obtain ⟨done, rfl⟩ := List.head?_eq_some_iff.mp present
    obtain ⟨block, others, rfl, stands, doneUnfolds⟩ := unfolds.of_cons
    refine ⟨block, others, doneUnfolds, rfl, ?_⟩
    rintro _ ⟨⟩
    exact stands.phrase operand

theorem Taken.phrase {tier : Nat} {operator : Part} {lefts rights : List Part}
    {left right : Option Part} (member : tier ∈ [2, 4, 5, 6, 7, 8, 9, 10])
    (tiered : operator.kind.precedence? = some tier) {before after : Option Part}
    (taken : Taken tier operator.kind before after left right)
    (leftPhrase : ∀ part, left = some part → Phrase (tier + 1) tier lefts part)
    (rightPhrase : ∀ part, right = some part → rights = [part])
    (leftNone : left = none → lefts = []) (rightNone : right = none → rights = []) :
    Phrase (tier + 1) tier (lefts ++ operator :: rights) (.applied left operator right) := by
  cases taken with
  | binary binary leftOperand rightOperand =>
    rw [rightPhrase _ rfl]
    refine .leftward (Nat.lt_succ_self tier) ?_ tiered (leftPhrase _ rfl) (.operand rightOperand)
    simp only [List.mem_cons, List.not_mem_nil, or_false] at member ⊢
    omega
  | negation same negates rightOperand =>
    subst same
    rw [leftNone rfl, rightPhrase _ rfl]
    exact .negation (Nat.lt_succ_self 9) negates (.operand rightOperand)
  | counting same counts leftOperand =>
    subst same
    rw [rightNone rfl]
    exact .counting (Nat.lt_succ_self 9) counts (leftPhrase _ rfl)

theorem sweep_unfolds {tier : Nat} {parts stack rest items : List Part}
    {last value : Option Expression} (member : tier ∈ [2, 4, 5, 6, 7, 8, 9, 10])
    (swept : sweep tier stack last rest = .ok (items, value))
    (unfolds : Unfolds tier parts stack.reverse) (passed : ∀ part ∈ stack, part.Passed tier)
    (pending : ∀ part ∈ rest, part.Pending tier) :
    Unfolds tier (parts ++ rest) items.reverse ∧ ∀ part ∈ items, part.Passed tier := by
  fun_induction sweep tier stack last rest generalizing parts with
  | case1 stack last =>
    cases swept
    exact ⟨by simpa using unfolds, passed⟩
  | case2 stack last part rest plain ih =>
    obtain ⟨result, visited, swept⟩ := bind_eq_ok.mp swept
    have pushed := unfolds.append (Unfolds.refl [part])
    rw [← List.reverse_cons] at pushed
    have again := ih result swept pushed
      (List.forall_mem_cons.mpr ⟨.inl (isOperand_of_visit visited), passed⟩)
      (List.forall_mem_cons.mp pending).2
    simpa using again
  | case3 stack last part rest found tiered looser ih =>
    have pushed := unfolds.append (Unfolds.refl [part])
    rw [← List.reverse_cons] at pushed
    have again := ih swept pushed
      (List.forall_mem_cons.mpr ⟨.inr ⟨found, tiered, looser⟩, passed⟩)
      (List.forall_mem_cons.mp pending).2
    simpa using again
  | case4 stack last part rest found tiered tight operator ihAfter =>
    rename_i ihRest
    obtain ⟨left, leftTaken, swept⟩ := bind_eq_ok.mp swept
    obtain ⟨right, rightTaken, swept⟩ := bind_eq_ok.mp swept
    obtain ⟨partPending, restPending⟩ := List.forall_mem_cons.mp pending
    obtain rfl : found = tier := by
      have bound := partPending.2 found tiered
      omega
    have taken := taken_of_operands ⟨part.kind, part.render⟩ tiered leftTaken rightTaken
      (fun part present => (passed part (List.mem_of_mem_head? present)).isOperand_of_kind)
      (fun part present => (restPending part (List.mem_of_mem_head? present)).1)
    obtain ⟨lefts, below, stackUnfolds, rfl, leftPhrase, leftNone⟩ := taken.leftBlock unfolds
    have nextPassed : ∀ next ∈ Part.applied left part right :: stack.drop left.toList.length,
        next.Passed found :=
      List.forall_mem_cons.mpr ⟨.inl rfl, fun part below => passed part (List.mem_of_mem_drop below)⟩
    have push (rights : List Part) (rightPhrase : ∀ part, right = some part → rights = [part])
        (rightNone : right = none → rights = []) :
        Unfolds found (below ++ (lefts ++ part :: rights))
          (Part.applied left part right :: stack.drop left.toList.length).reverse := by
      rw [List.reverse_cons]
      exact stackUnfolds.append (.singleton
        (.inr (taken.phrase member tiered leftPhrase rightPhrase leftNone rightNone)))
    rcases taken.right_eq with rfl | ⟨next, present, rfl, _⟩
    · have again := ihRest left none swept (push [] (by simp) (by simp)) nextPassed restPending
      simpa using again
    · obtain ⟨after, rfl⟩ := List.head?_eq_some_iff.mp present
      have again := ihAfter left (some next) swept (push [next] (by simp) (by simp)) nextPassed
        (List.forall_mem_cons.mp restPending).2
      simpa using again

theorem Taken.rightPhrase {tier : Nat} {operator : Part} {rights : List Part}
    {left right before after : Option Part} (member : tier ∈ [0, 1, 3])
    (tiered : operator.kind.precedence? = some tier)
    (taken : Taken tier operator.kind before after left right)
    (phrase : ∀ part, right = some part → Phrase (tier + 1) tier rights part) :
    ∃ first second, before = some first ∧ after = some second ∧ left = some first ∧
      right = some second ∧ first.isOperand = true ∧
      Phrase (tier + 1) tier (first :: operator :: rights) (.applied left operator right) := by
  simp only [List.mem_cons, List.not_mem_nil, or_false] at member
  cases taken with
  | binary binary leftOperand rightOperand =>
    refine ⟨_, _, rfl, rfl, rfl, rfl, leftOperand, ?_⟩
    refine @Phrase.rightward _ _ [_] _ _ _ _ (Nat.lt_succ_self tier) ?_ tiered (.operand leftOperand)
      (phrase _ rfl)
    simpa using member
  | negation same | counting same => omega

/-- The operands before the beginning of a range stand for themselves. -/
theorem Unfolds.whole {tier : Nat} {parts : List Part} {range : Range}
    (unfolds : Unfolds tier parts range.parts)
    (passed : ∀ part ∈ range.parts, part.Passed tier) (led : range.Led) :
    Unfolds tier (range.before.reverse ++ parts) range.whole ∧
      ∀ part ∈ range.whole, part.Passed tier := by
  refine ⟨(Unfolds.refl range.before.reverse).append unfolds, ?_⟩
  intro part member
  rcases List.mem_append.mp member with before | after
  · exact .inl (led part (List.mem_reverse.mp before))
  · exact passed part after

theorem backward_unfolds {tier : Nat} {parts before done rest : List Part}
    {last : Option Expression} {range : Range} (member : tier ∈ [0, 1, 3])
    (passing : backward tier before done last rest = .ok range)
    (unfolds : Unfolds tier parts done) (passed : ∀ part ∈ done, part.Passed tier)
    (led : ∀ part ∈ before, part.isOperand = true) (pending : ∀ part ∈ rest, part.Pending tier) :
    Unfolds tier (before.reverse ++ rest.reverse ++ parts) range.whole ∧
      ∀ part ∈ range.whole, part.Passed tier := by
  fun_induction backward tier before done last rest generalizing parts with
  | case1 done last =>
    cases passing
    simpa using @Unfolds.whole _ _ ⟨before, done, last⟩ unfolds passed led
  | case2 done last part rest plain ih =>
    obtain ⟨value, visited, passing⟩ := bind_eq_ok.mp passing
    have again := ih value passing ((Unfolds.refl [part]).append unfolds)
      (List.forall_mem_cons.mpr ⟨.inl (isOperand_of_visit visited), passed⟩)
      (List.forall_mem_cons.mp pending).2
    simpa using again
  | case3 done last part rest found tiered looser ih =>
    have again := ih passing ((Unfolds.refl [part]).append unfolds)
      (List.forall_mem_cons.mpr ⟨.inr ⟨found, tiered, looser⟩, passed⟩)
      (List.forall_mem_cons.mp pending).2
    simpa using again
  | case4 done last part rest found tiered tight operator ihAfter =>
    obtain ⟨left, leftTaken, passing⟩ := bind_eq_ok.mp passing
    obtain ⟨right, rightTaken, passing⟩ := bind_eq_ok.mp passing
    obtain ⟨partPending, restPending⟩ := List.forall_mem_cons.mp pending
    obtain rfl : found = tier := by
      have bound := partPending.2 found tiered
      omega
    have leftKinded : ∀ part ∈ (rest ++ before).head?,
        part.kind = .expression → part.isOperand = true := by
      intro part present
      rcases List.mem_append.mp (List.mem_of_mem_head? present) with member | member
      · exact (restPending part member).1
      · exact fun _ => led part member
    have taken := taken_of_operands ⟨part.kind, part.render⟩ tiered leftTaken rightTaken
      leftKinded (fun part present => (passed part (List.mem_of_mem_head? present)).isOperand_of_kind)
    obtain ⟨rights, others, doneUnfolds, rfl, rightPhrase⟩ := taken.rightBlock unfolds
    obtain ⟨first, second, present, -, rfl, rfl, firstOperand, phrase⟩ :=
      taken.rightPhrase member tiered rightPhrase
    have nextUnfolds : Unfolds found (first :: part :: rights ++ others)
        (Part.applied (some first) part (some second) :: done.drop 1) :=
      .cons (.inr phrase) doneUnfolds
    have nextPassed : ∀ next ∈ Part.applied (some first) part (some second) :: done.drop 1,
        next.Passed found :=
      List.forall_mem_cons.mpr ⟨.inl rfl, fun part below => passed part (List.mem_of_mem_drop below)⟩
    cases rest with
    | nil =>
      obtain ⟨before, rfl⟩ := List.head?_eq_some_iff.mp present
      cases passing
      have whole := @Unfolds.whole _ _ ⟨before, _, none⟩ nextUnfolds nextPassed
        fun part member => led part (List.mem_cons_of_mem _ member)
      simpa [Range.whole, Part.applied, folded] using whole
    | cons nearest farther =>
      obtain rfl : nearest = first := Option.some.inj present
      have again := ihAfter (some nearest) (some second) passing nextUnfolds nextPassed
        (List.forall_mem_cons.mp restPending).2
      simpa using again

theorem resolveTier_unfolds {tier : Nat} {range next : Range} (bound : tier ≤ maxTier)
    (resolving : resolveTier tier range = .ok next) (led : range.Led)
    (pending : ∀ part ∈ range.parts, part.Pending tier) :
    Unfolds tier range.whole next.whole ∧ (∀ part ∈ next.whole, part.Passed tier) ∧ next.Led := by
  obtain ⟨passed, passing, rfl⟩ := map_eq_ok.mp resolving
  unfold pass at passing
  rcases associativity_eq bound with ⟨left, member⟩ | ⟨right, member⟩
  · rw [left] at passing
    replace passing : forward tier range.before [] none range.parts = .ok passed := passing
    have swept := forward_eq_sweep tier range.before [] range.parts none
    rw [passing] at swept
    have start : Unfolds tier range.before.reverse range.before.reverse := .refl _
    obtain ⟨unfolds, done⟩ := sweep_unfolds member swept.symm start
      (fun part member => .inl (led part member)) pending
    rw [List.reverse_append, List.reverse_reverse] at unfolds
    refine ⟨unfolds, ?_, (led_forward led passing : passed.Led)⟩
    intro part member
    refine done part ?_
    simpa [Range.whole, or_comm] using member
  · rw [right] at passing
    replace passing : backward tier range.before [] none range.parts.reverse = .ok passed := passing
    have reversed : ∀ part ∈ range.parts.reverse, part.Pending tier :=
      fun part member => pending part (List.mem_reverse.mp member)
    obtain ⟨unfolds, done⟩ := backward_unfolds member passing .nil (by simp) led reversed
    rw [List.reverse_reverse, List.append_nil] at unfolds
    exact ⟨unfolds, done, (led_backward led passing : passed.Led)⟩

/-- What is left of parts of which the operators of some loosest tiers were put together: operands,
none only of no parts, and a single one of an operator expression. -/
structure Remains (tiers : Nat) (parts left : List Part) : Prop where
  operands : ∀ part ∈ left, part.isOperand = true
  empty : left = [] → parts = []
  single : ∀ part, left = [part] → Phrase tiers 0 parts part

theorem Remains.unfold {tier : Nat} {parts items left : List Part}
    (remains : Remains tier items left) (unfolds : Unfolds tier parts items) :
    Remains (tier + 1) parts left := by
  refine ⟨remains.operands, ?_, fun part whole => (remains.single part whole).unfold unfolds⟩
  intro nothing
  rw [remains.empty nothing] at unfolds
  exact unfolds.eq_nil

theorem resolveBelow_remains {tiers : Nat} {range resolved : Range} (bound : tiers ≤ maxTier + 1)
    (resolving : resolveBelow tiers range = .ok resolved) (led : range.Led)
    (passed : ∀ part ∈ range.whole, part.Passed tiers) :
    Remains tiers range.whole resolved.whole := by
  induction tiers generalizing range with
  | zero =>
    cases resolving
    have operands : ∀ part ∈ resolved.whole, part.isOperand = true :=
      fun part member => (passed part member).resolve_right fun ⟨_, _, looser⟩ =>
        absurd looser (Nat.not_lt_zero _)
    refine ⟨operands, id, ?_⟩
    intro part single
    rw [single] at operands ⊢
    exact .operand (operands part List.mem_cons_self)
  | succ tier ih =>
    obtain ⟨next, first, others⟩ := bind_eq_ok.mp resolving
    have pending : ∀ part ∈ range.parts, part.Pending tier :=
      fun part member => (passed part (List.mem_append_right _ member)).pending
    obtain ⟨unfolds, nextPassed, nextLed⟩ := resolveTier_unfolds (by omega) first led pending
    exact (ih (by omega) others nextLed nextPassed).unfold unfolds

theorem resolve_remains {range resolved : Range} (resolving : resolve range = .ok resolved)
    (led : range.Led)
    (kinded : ∀ part ∈ range.parts, part.kind = .expression → part.isOperand = true) :
    Remains (maxTier + 1) range.whole resolved.whole := by
  obtain ⟨next, first, others⟩ := bind_eq_ok.mp resolving
  have pending : ∀ part ∈ range.parts, part.Pending maxTier :=
    fun part member => ⟨kinded part member, fun _ => TokenKind.precedence_le_maxTier⟩
  obtain ⟨unfolds, nextPassed, nextLed⟩ := resolveTier_unfolds (Nat.le_refl _) first led pending
  exact (resolveBelow_remains (Nat.le_succ _) others nextLed nextPassed).unfold unfolds

end Tiers

end PathQuery
