import PathQuery.Proofs.InPlace.Edits
import PathQuery.Proofs.InPlace.Inner

/-!
A range in place, and how an operator takes its operands out of it. The node where the range starts
may be gone; what it leads to is the first node that is left of the range.
-/

namespace PathQuery

namespace Tiers

theorem visit_unresolved {last : Option Expression} {neighbour : Option Part} {part : Part}
    (nonexpression : ∀ expression, part = .expression .expression expression → False)
    (nonempty : part = .empty .expression → False) (other : part.kind.isLiteral = false) :
    visit last neighbour part = .error (.unresolvedToken part.kind part.render) := by
  unfold visit
  split
  · exact (nonexpression _ rfl).elim
  · exact (nonempty rfl).elim
  · simp [other]

theorem visit_literal {last : Option Expression} {neighbour : Option Part} {part : Part}
    (nonexpression : ∀ expression, part = .expression .expression expression → False)
    (nonempty : part = .empty .expression → False) (literal : part.kind.isLiteral = true) :
    visit last neighbour part = match last with
      | some (.operation left operator right) =>
          .error (.unexpectedOperand (Expression.operation left operator right).text part.render)
      | _ => .ok (some (.literal (part.literal?.getD .null))) := by
  unfold visit
  split
  · exact (nonexpression _ rfl).elim
  · exact (nonempty rfl).elim
  · simp only [literal, Bool.not_true, Bool.false_eq_true, if_false]
    cases last with
    | none => cases part <;> rfl
    | some value => cases value <;> cases part <;> rfl

end Tiers

namespace InPlace

/-- Whether a range that starts at a node, which may be gone, consists of some nodes behind
others. -/
structure Stands (list : TokenList Cell) (start : Nat) (before range : List Entry) : Prop where
  represents : list.Represents (before ++ range)
  leads : ∃ steps, list.Replaced steps (some start) (firstNode range)

/-- The entries before a range and those seen of it, when the last of them all is taken away. -/
def withoutLast (before : List Entry) : (seen : List Entry) → List Entry × List Entry
  | [] => (before.dropLast, [])
  | seen => (before, seen.dropLast)

/-- The entries before a range and those seen of it, with a new one after them. When nothing has
been seen the range begins after the new one. -/
def settle (entry : Entry) (before : List Entry) : (seen : List Entry) → List Entry × List Entry
  | [] => (before ++ [entry], [])
  | seen => (before, seen ++ [entry])

section Standing

variable {list other : TokenList Cell} {start : Nat} {before seen old new later : List Entry}
  {entry : Entry} {memory : Memory}

theorem withoutLast_concat : withoutLast before (seen ++ [entry]) = (before, seen) := by
  cases seen with
  | nil => rfl
  | cons first seen =>
    show (before, (first :: (seen ++ [entry])).dropLast) = (before, first :: seen)
    rw [← List.cons_append, List.dropLast_concat]

theorem Stands.carry {others range : List Entry} (stands : Stands list start before old)
    (passage : Passage list other others old range) : Stands other start others range := by
  obtain ⟨steps, leads⟩ := stands.leads
  obtain ⟨more, further⟩ := passage.leads
  exact ⟨passage.represents, steps + more, leads.onward passage.persists further⟩

theorem Stands.passage (stands : Stands list start before (seen ++ old))
    (passage : Passage list other (before ++ seen) old new) :
    Stands other start before (seen ++ new) := by
  have represents := passage.represents
  rw [List.append_assoc] at represents
  cases seen with
  | nil => exact stands.carry ⟨represents, passage.persists, passage.leads⟩
  | cons first seen => exact stands.carry (.of_first passage.persists represents rfl)

theorem Stands.settle (stands : Stands list start before (seen ++ old))
    (passage : Passage list other (before ++ seen ++ [entry]) old new) :
    Stands other start (settle entry before seen).1 ((settle entry before seen).2 ++ new) := by
  have represents := passage.represents
  cases seen with
  | nil =>
    rw [List.append_nil] at represents
    exact stands.carry ⟨represents, passage.persists, passage.leads⟩
  | cons first seen =>
    rw [List.append_assoc before, List.append_assoc before] at represents
    exact stands.carry (.of_first passage.persists represents rfl)

/-- The nodes before a cursor without the last of them. -/
theorem removeLast_ends (stands : Stands memory.list start before (seen ++ later))
    (nonempty : before ++ seen ≠ []) :
    ∃ after, removeAt (lastNode (before ++ seen)) memory = pure (firstNode later, after) ∧
      Stands after.list start (withoutLast before seen).1 ((withoutLast before seen).2 ++ later) ∧
      Persists memory.list after.list ∧ Frames memory.list after.list later ∧
      after.list.nodes.size = memory.list.nodes.size := by
  cases seen using List.reverseRecOn with
  | nil =>
    rw [List.append_nil] at nonempty
    obtain ⟨front, last, rfl⟩ := (List.eq_nil_or_concat' before).resolve_left nonempty
    have represents := stands.represents
    rw [List.nil_append, List.append_assoc, List.singleton_append] at represents
    have passage := passage_unlink represents
    rw [List.append_nil, lastNode_concat]
    refine ⟨_, remove_ends represents, ?_, passage.persists, frames_unlink represents,
      TokenList.size_unlink⟩
    have kept := passage.represents
    simp only [withoutLast, List.dropLast_concat]
    exact stands.carry (.of_first passage.persists kept rfl)
  | append_singleton seen last =>
    rw [List.append_assoc, List.singleton_append] at stands
    have represents := stands.represents
    rw [← List.append_assoc] at represents
    have passage := passage_unlink represents
    rw [← List.append_assoc, lastNode_concat]
    refine ⟨_, remove_ends represents, ?_, passage.persists, frames_unlink represents,
      TokenList.size_unlink⟩
    rw [withoutLast_concat]
    exact stands.passage passage

theorem cellAt_firstNode (represents : memory.list.Represents (old ++ later)) :
    cellAt (firstNode later) memory = pure (later.head?.map Prod.fst, memory) := by
  cases later with
  | nil => rfl
  | cons entry later =>
    show (cell entry.2 >>= fun held => pure (some held)) memory = _
    rw [bind_ends (cell_ends represents)]
    rfl

theorem cellAt_lastNode (represents : memory.list.Represents (old ++ later)) :
    cellAt (lastNode old) memory = pure (old.getLast?.map Prod.fst, memory) := by
  cases old using List.reverseRecOn with
  | nil => rfl
  | append_singleton old entry =>
    rw [List.append_assoc, List.singleton_append] at represents
    rw [lastNode_concat, List.getLast?_concat]
    show (cell entry.2 >>= fun held => pure (some held)) memory = _
    rw [bind_ends (cell_ends represents)]
    rfl

end Standing

/-- Whether two parts, or their lack, are the same to the operators beside them. -/
structure Alike (first second : Option Part) : Prop where
  operand : Tiers.operand? first = Tiers.operand? second
  holds : (first.bind Part.expression?).isSome = (second.bind Part.expression?).isSome

/-- Whether some entries end in a token that opens a range, if they do not end at once. -/
def Barrier (context : List Entry) : Prop :=
  ∀ entry ∈ context.getLast?, entry.1.part.isToken = true ∧ entry.1.part.kind.opensRange = true

/-- Whether some entries begin with a token that closes a range, unless there are none. -/
def Closed (rest : List Entry) : Prop :=
  ∀ entry ∈ rest.head?, entry.1.part.isToken = true ∧ entry.1.part.kind.closesRange = true

section Neighbours

variable {first second : Option Part} {context before seen todo rest : List Entry}

theorem Alike.left (alike : Alike first second) (operator : Operator) :
    Tiers.leftOperand? operator first = Tiers.leftOperand? operator second := by
  unfold Tiers.leftOperand?
  rw [alike.operand]

theorem Alike.right (alike : Alike first second) (operator : Operator) :
    Tiers.rightOperand? operator first = Tiers.rightOperand? operator second := by
  unfold Tiers.rightOperand?
  rw [alike.operand]

/-- A bracket or a separator is nothing to the operators beside it. -/
theorem alike_none {part : Part} (token : part.isToken = true)
    (outside : part.kind.opensRange = true ∨ part.kind.closesRange = true) :
    Alike (some part) none := by
  constructor
  · have other : (part.kind.isLiteral || part.kind == .expression) = false := by
      revert outside
      cases part.kind <;> simp [TokenKind.opensRange, TokenKind.closesRange, TokenKind.isLiteral]
    simp [Tiers.operand?, Option.filter, other]
  · cases part with
    | expression => cases token
    | literal | text | empty => rfl

theorem alike_before (barrier : Barrier context) :
    Alike (((context ++ before ++ seen).getLast?.map Prod.fst).map Cell.part)
      ((parts seen).reverse ++ (parts before).reverse).head? := by
  rw [← List.reverse_append, ← parts_append, List.head?_reverse, List.append_assoc]
  generalize before ++ seen = inside
  cases inside using List.reverseRecOn with
  | nil =>
    rw [List.append_nil]
    cases last : context.getLast? with
    | none => exact ⟨rfl, rfl⟩
    | some entry =>
      obtain ⟨token, opens⟩ := barrier entry last
      exact alike_none token (.inl opens)
  | append_singleton inside entry =>
    rw [← List.append_assoc, List.getLast?_concat, parts_append, parts_cons, parts_nil,
      List.getLast?_concat]
    exact ⟨rfl, rfl⟩

theorem alike_after (closed : Closed rest) :
    Alike (((todo ++ rest).head?.map Prod.fst).map Cell.part) (parts todo).head? := by
  cases todo with
  | cons entry todo => exact ⟨rfl, rfl⟩
  | nil =>
    cases rest with
    | nil => exact ⟨rfl, rfl⟩
    | cons entry rest =>
      obtain ⟨token, closes⟩ := closed entry rfl
      exact alike_none token (.inr closes)

end Neighbours

/-- What is left of the nodes before an operator that took a left operand. -/
def withoutOperand : (left : Option Part) → (before seen : List Entry) → List Entry × List Entry
  | some _, before, seen => withoutLast before seen
  | none, before, seen => (before, seen)

section Settling

variable {context before seen : List Entry} {entry : Entry}

theorem getLast_settle : (context ++ ((settle entry before seen).1 ++
    (settle entry before seen).2)).getLast? = some entry := by
  cases seen with
  | nil => simp [settle]
  | cons first seen =>
    rw [settle, ← List.append_assoc, ← List.append_assoc, List.getLast?_concat]
    simp

theorem settle_append : settle entry (context ++ before) seen =
    (context ++ (settle entry before seen).1, (settle entry before seen).2) := by
  cases seen with
  | nil => simp [settle]
  | cons => rfl

theorem withoutLast_append (nonempty : before ++ seen ≠ []) :
    withoutLast (context ++ before) seen =
      (context ++ (withoutLast before seen).1, (withoutLast before seen).2) := by
  cases seen with
  | nil =>
    rw [List.append_nil] at nonempty
    simp [withoutLast, List.dropLast_append_of_ne_nil nonempty]
  | cons => rfl

theorem withoutOperand_initial (left : Option Part) :
    (withoutOperand left before seen).2 <+: seen := by
  cases left with
  | none => exact List.prefix_refl _
  | some part =>
    cases seen with
    | nil => exact List.prefix_refl _
    | cons first seen => exact List.dropLast_prefix _

theorem withoutOperand_of_ne_nil (left : Option Part) (nonempty : seen ≠ []) :
    (withoutOperand left before seen).1 = before := by
  cases left with
  | none => rfl
  | some part =>
    cases seen with
    | nil => exact absurd rfl nonempty
    | cons first seen => rfl

theorem withoutOperand_append {left : Option Part}
    (nonempty : left.isSome = true → before ++ seen ≠ []) :
    withoutOperand left (context ++ before) seen =
      (context ++ (withoutOperand left before seen).1, (withoutOperand left before seen).2) := by
  cases left with
  | none => rfl
  | some part => exact withoutLast_append (nonempty rfl)

theorem place_parts (value : Shared) (node : Nat) (left : Option Part) :
    Tiers.place left value.expression (parts before).reverse (parts seen).reverse =
      ((parts (settle (value.entry node) (withoutOperand left before seen).1
          (withoutOperand left before seen).2).1).reverse,
        (parts (settle (value.entry node) (withoutOperand left before seen).1
          (withoutOperand left before seen).2).2).reverse) := by
  have folds : (value.entry node).1.part = Tiers.folded value.expression := rfl
  cases left with
  | none =>
    cases seen using List.reverseRecOn with
    | nil => simp [Tiers.place, withoutOperand, settle, folds]
    | append_singleton seen last =>
      cases seen <;> simp [Tiers.place, withoutOperand, settle, folds]
  | some part =>
    cases seen using List.reverseRecOn with
    | nil =>
      cases before using List.reverseRecOn <;>
        simp [Tiers.place, withoutOperand, withoutLast, settle, folds]
    | append_singleton seen last =>
      rw [withoutOperand, withoutLast_concat]
      cases seen using List.reverseRecOn with
      | nil => simp [Tiers.place, settle, folds]
      | append_singleton seen other =>
        cases seen <;> simp [Tiers.place, settle, folds]

theorem withoutOperand_parts (left : Option Part) :
    Tiers.withoutLeft left (parts before).reverse (parts seen).reverse =
      ((parts (withoutOperand left before seen).1).reverse,
        (parts (withoutOperand left before seen).2).reverse) := by
  cases left with
  | none => rfl
  | some part =>
    cases seen using List.reverseRecOn with
    | nil =>
      cases before using List.reverseRecOn <;>
        simp [Tiers.withoutLeft, withoutOperand, withoutLast]
    | append_singleton seen last =>
      rw [withoutOperand, withoutLast_concat]
      simp [Tiers.withoutLeft]

end Settling

/-- What the operands of an operator are, and where they are gone. -/
structure Folded (memory : Memory) (start : Nat) (context before seen todo rest : List Entry)
    (token : Entry) (operands : Option Part × Option Part) (found : Shared) (after : Memory) :
    Prop where
  expression : found.expression =
    .operation operands.1 ⟨token.1.part.kind, token.1.part.render⟩ operands.2
  stands : Stands after.list start (context ++ (withoutOperand operands.1 before seen).1)
    ((withoutOperand operands.1 before seen).2 ++
      token :: (todo.drop operands.2.toList.length ++ rest))
  persists : Persists memory.list after.list
  size : after.list.nodes.size = memory.list.nodes.size
  frames : Frames memory.list after.list (token :: (todo ++ rest))

section Operators

variable {memory : Memory} {start : Nat} {context before seen todo rest later : List Entry}
  {token : Entry}

theorem drop_append_of_isSome {right : Option Part} {todo rest : List Entry}
    (present : right.isSome = true → todo ≠ []) :
    (todo ++ rest).drop right.toList.length = todo.drop right.toList.length ++ rest := by
  cases right with
  | none => rfl
  | some part =>
    cases todo with
    | nil => exact absurd rfl (present rfl)
    | cons => rfl

theorem removeLeft_ends (stands : Stands memory.list start before (seen ++ later))
    {left : Option Part} (present : left.isSome = true → before ++ seen ≠ []) :
    ∃ found after, removeAt (left.bind fun _ => lastNode (before ++ seen)) memory =
        pure (found, after) ∧
      Stands after.list start (withoutOperand left before seen).1
        ((withoutOperand left before seen).2 ++ later) ∧
      Persists memory.list after.list ∧ Frames memory.list after.list later ∧
      after.list.nodes.size = memory.list.nodes.size := by
  cases left with
  | none => exact ⟨none, memory, rfl, stands, .refl _, fun _ _ _ => rfl, rfl⟩
  | some part =>
    obtain ⟨after, ends, kept⟩ := removeLast_ends stands (present rfl)
    exact ⟨_, after, ends, kept⟩

theorem removeRight_ends (represents : memory.list.Represents (seen ++ token :: later))
    {right : Option Part} (present : right.isSome = true → later ≠ []) :
    ∃ found after, removeAt (right.bind fun _ => firstNode later) memory = pure (found, after) ∧
      Passage memory.list after.list seen (token :: later)
        (token :: later.drop right.toList.length) ∧
      Frames memory.list after.list later ∧
      after.list.nodes.size = memory.list.nodes.size := by
  cases right with
  | none => exact ⟨none, memory, rfl, .refl represents, fun _ _ _ => rfl, rfl⟩
  | some part =>
    cases later with
    | nil => exact absurd rfl (present rfl)
    | cons next later =>
      rw [List.append_cons] at represents
      have passage := passage_unlink represents
      refine ⟨_, _, remove_ends represents, ?_, ?_, TokenList.size_unlink⟩
      · refine .of_first passage.persists ?_ rfl
        simpa using passage.represents
      · intro id bound other
        exact frames_unlink represents id bound (mt (List.mem_cons_of_mem _) other)

theorem mirrors_fold (barrier : Barrier context) (closed : Closed rest)
    (stands : Stands memory.list start (context ++ before) (seen ++ token :: (todo ++ rest))) :
    Mirrors (fold token.2) memory (do
      let left ← Tiers.leftOperand? ⟨token.1.part.kind, token.1.part.render⟩
        ((parts seen).reverse ++ (parts before).reverse).head?
      let right ← Tiers.rightOperand? ⟨token.1.part.kind, token.1.part.render⟩ (parts todo).head?
      return (left, right)) (Folded memory start context before seen todo rest token) := by
  have represents := stands.represents
  rw [← List.append_assoc] at represents
  have behind := represents
  rw [List.append_cons] at behind
  unfold fold
  apply Mirrors.step (cell_ends represents)
  apply Mirrors.step (prev_ends represents)
  apply Mirrors.step (cellAt_lastNode represents)
  rw [← (alike_before barrier).left]
  apply (Mirrors.ofParse _).bind
  rintro left _ _ leftTaken ⟨rfl, rfl⟩
  apply Mirrors.step (next_ends represents)
  apply Mirrors.step (cellAt_firstNode behind)
  rw [← (alike_after closed).right]
  apply (Mirrors.ofParse _).bind
  rintro right _ _ rightTaken ⟨rfl, rfl⟩
  rw [(alike_before barrier).left] at leftTaken
  rw [(alike_after closed).right] at rightTaken
  have leftPresent : left.isSome = true → before ++ seen ≠ [] := by
    intro some empty
    obtain ⟨rfl, rfl⟩ := List.append_eq_nil_iff.mp empty
    obtain ⟨part, rfl⟩ := Option.isSome_iff_exists.mp some
    cases Tiers.leftOperand_some leftTaken
  have rightPresent : right.isSome = true → todo ≠ [] := by
    rintro some rfl
    obtain ⟨part, rfl⟩ := Option.isSome_iff_exists.mp some
    cases Tiers.rightOperand_some rightTaken
  have anyLeft : left.isSome = true → context ++ before ++ seen ≠ [] := by
    intro some
    rw [List.append_assoc]
    exact List.append_ne_nil_of_right_ne_nil _ (leftPresent some)
  have anyRight : right.isSome = true → todo ++ rest ≠ [] := fun some =>
    List.append_ne_nil_of_left_ne_nil (rightPresent some) _
  obtain ⟨_, middle, ends, stands, persists, frames, size⟩ := removeLeft_ends stands anyLeft
  apply Mirrors.step ends
  have kept := stands.represents
  rw [← List.append_assoc] at kept
  obtain ⟨_, after, ends, passage, framesAfter, sizeAfter⟩ := removeRight_ends kept anyRight
  apply Mirrors.step ends
  have settled := stands.passage passage
  rw [withoutOperand_append leftPresent, drop_append_of_isSome rightPresent] at settled
  refine ⟨_, _, rfl, rfl, settled, persists.trans passage.persists, sizeAfter.trans size, ?_⟩
  intro id bound other
  rw [← frames id bound other]
  exact framesAfter id (size ▸ bound) (mt (List.mem_cons_of_mem _) other)

/-- Whether an expression is the very one that a cell next to it holds. -/
def Held (last : Option Shared) (beside : Option Cell) : Prop :=
  ∀ shared ∈ last, ∀ other ∈ beside.bind Cell.shared?, shared.address = other.address

theorem held_none {beside : Option Cell} : Held none beside :=
  fun _ none => (Option.not_mem_none _ none).elim

theorem same_of_held {last : Option Shared} {beside : Option Cell} (held : Held last beside) :
    Shared.same last (beside.bind Cell.shared?) =
      (last.isSome && (beside.bind Cell.shared?).isSome) := by
  unfold Held at held
  cases last with
  | none => rfl
  | some shared =>
    cases found : beside.bind Cell.shared? with
    | none => rfl
    | some other =>
      simpa [Shared.same] using held shared rfl other found

theorem mirrors_visit {here : Cell} {last : Option Shared} {place : Option Nat}
    {beside : Option Cell} {neighbour : Option Part}
    (reads : cellAt place memory = pure (beside, memory)) (held : Held last beside)
    (alike : Alike (beside.map Cell.part) neighbour)
    (holds : here.part.expression?.isSome = true → here.part.kind = .expression) :
    Mirrors (visit here last place) memory
      (Tiers.visit (last.map (·.expression)) neighbour here.part) fun value found after =>
        found.map (·.expression) = value ∧ Held found (some here) ∧ after.list = memory.list := by
  have same : (beside.bind Cell.shared?).isSome = (neighbour.bind Part.expression?).isSome := by
    rw [← alike.holds]
    cases beside <;> simp [Cell.shared?]
  unfold visit
  split
  · rename_i expression whole
    rw [whole]
    apply Mirrors.step reads
    rw [same_of_held held, same]
    show Mirrors _ _ (if (last.map (·.expression)).isSome && _ then _ else _) _
    rw [Option.isSome_map]
    split
    · rfl
    · apply Mirrors.pure
      refine ⟨rfl, ?_, rfl⟩
      rintro _ ⟨⟩ _ found
      rw [Option.bind_some, Cell.shared?, whole] at found
      cases found
      rfl
  · rename_i whole
    rw [whole]
    exact .pure ⟨rfl, held_none, rfl⟩
  · rename_i nonexpression nonempty
    cases literal : here.part.kind.isLiteral with
    | false =>
      rw [Tiers.visit_unresolved nonexpression nonempty literal]
      rfl
    | true =>
      rw [Tiers.visit_literal nonexpression nonempty literal]
      have plain : here.part.expression? = none := by
        by_contra some
        rw [holds (Option.isSome_iff_ne_none.mpr some)] at literal
        cases literal
      have unheld : ∀ found, Held found (some here) := by
        intro found _ _ other present
        rw [Option.bind_some, Cell.shared?, plain] at present
        cases present
      cases last with
      | none => exact ⟨_, _, rfl, rfl, unheld _, rfl⟩
      | some shared =>
        obtain ⟨expression, address⟩ := shared
        cases expression with
        | operation => rfl
        | literal | path | call => exact ⟨_, _, rfl, rfl, unheld _, rfl⟩

end Operators

/-- A new node takes the place of an old one. -/
theorem supplant_ends {memory : Memory} {earlier later : List Entry} {token : Entry} (held : Cell)
    (represents : memory.list.Represents (earlier ++ token :: later)) :
    ∃ middle after, edit (.insertBefore token.2 held) memory =
        pure (some memory.list.nodes.size, middle) ∧
      edit (.remove token.2) middle = pure (firstNode later, after) ∧
      Passage memory.list after.list (earlier ++ [(held, memory.list.nodes.size)])
        (token :: later) later ∧ Gone after.list token.2 := by
  have inserted := passage_insert represents held
  exact ⟨_, _, insertBefore_ends represents, remove_ends inserted.represents,
    inserted.trans (passage_unlink inserted.represents),
    gone_unlink (live_of_middle inserted.represents)⟩

/-- A new node takes the place of an old one, with the cursor to its left. -/
theorem supplantAfter_ends {memory : Memory} {earlier later : List Entry} {token : Entry}
    (held : Cell) (represents : memory.list.Represents (earlier ++ token :: later)) :
    ∃ middle after, edit (.insertAfter token.2 held) memory =
        pure (some memory.list.nodes.size, middle) ∧
      edit (.removeInReverse token.2) middle = pure (lastNode earlier, after) ∧
      Passage memory.list after.list earlier (token :: later)
        ((held, memory.list.nodes.size) :: later) ∧
      Frames memory.list after.list later ∧
      after.list.nodes.size = memory.list.nodes.size + 1 := by
  have behind := represents
  rw [List.append_cons] at behind
  have inserted := passage_insert behind held
  have frames := frames_insert behind held
  have wide := inserted.represents
  rw [List.append_assoc, List.append_assoc, List.singleton_append, List.singleton_append] at wide
  have passage := passage_unlink wide
  refine ⟨_, _, insertAfter_ends represents, removeInReverse_ends wide, ?_, ?_, ?_⟩
  · have same : firstNode (token :: later) =
        firstNode (token :: (held, memory.list.nodes.size) :: later) := rfl
    exact (Passage.of_first inserted.persists wide same).trans passage
  · intro id bound other
    rw [← frames id bound other]
    apply frames_unlink wide
    · rw [TokenList.size_insertBetween]
      omega
    · rw [List.map_cons, List.mem_cons, not_or]
      exact ⟨Nat.ne_of_lt bound, other⟩
  · rw [TokenList.size_unlink, TokenList.size_insertBetween]

end InPlace

end PathQuery
