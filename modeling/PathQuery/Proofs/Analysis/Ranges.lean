import PathQuery.Proofs.Analysis.Steps
import PathQuery.Proofs.Precedence.Context
import PathQuery.Proofs.WellFormed.Analysis

/-!
Ranges between separators outside of every scope. They are analyzed one after the other in one list;
each comes to what it is by itself when no separator stands before an operator that would take what
the range before has come to. Main statement: `analyze_iff_elements`.
-/

namespace PathQuery

namespace Analysis

open Tiers (Range)

/-- No separator is followed by an operator that takes a left operand. -/
def Free (parts : List Part) : Prop :=
  parts.IsChain fun part next => part.kind = .separator → next.kind.takesLeft = false

instance (parts : List Part) : Decidable (Free parts) :=
  inferInstanceAs (Decidable (List.IsChain _ parts))

theorem Free.of_infix {parts inside : List Part} (free : Free parts) (within : inside <:+: parts) :
    Free inside := by
  obtain ⟨front, behind, rfl⟩ := within
  exact (List.isChain_append.mp (List.isChain_append.mp free).1).2.1

theorem Free.of_suffix {parts rest : List Part} (free : Free parts) (suffix : rest <:+ parts) :
    Free rest :=
  free.of_infix suffix.isInfix

theorem Stops.append_inj {operands rest others left : List Part} (stops : Stops rest)
    (ends : Stops left) (same : operands ++ rest = others ++ left)
    (all : ∀ part ∈ operands, part.isOperand = true)
    (each : ∀ part ∈ others, part.isOperand = true) : operands = others ∧ rest = left := by
  induction operands generalizing others with
  | nil =>
    cases others with
    | nil => exact ⟨rfl, same⟩
    | cons other others =>
      have closes := stops other (by rw [show rest = _ from same]; rfl)
      rw [Part.closesRange_of_isOperand (each other List.mem_cons_self)] at closes
      cases closes
  | cons operand operands ih =>
    obtain ⟨first, later⟩ := List.forall_mem_cons.mp all
    cases others with
    | nil =>
      have closes := ends operand (by rw [show left = _ from same.symm]; rfl)
      rw [Part.closesRange_of_isOperand first] at closes
      cases closes
    | cons other others =>
      obtain ⟨rfl, behind⟩ := List.cons.inj same
      obtain ⟨rfl, rfl⟩ := ih behind later (List.forall_mem_cons.mp each).2
      exact ⟨rfl, rfl⟩

variable {parts rest context : List Part} {reading : Reading} {range : Range}

theorem inside_of_read (tokens : Tokens parts)
    (reads : answer (read .start parts) = .ok (reading, rest))
    (resolves : Tiers.resolve reading.range = .ok range) :
    Inside parts range.value range.whole rest ∧ rest <:+ parts := by
  obtain ⟨proper, stops, suffix⟩ := done_of_read (by simp) tokens reads
  have analyzed : answer (inner parts) = .ok (range.value, range.whole ++ rest) := by
    rw [inner_eq, reads]
    show Tiers.resolve reading.range >>= _ = _
    rw [resolves]
    rfl
  obtain ⟨operands, left, split, inside⟩ :=
    below_all _ parts _ _ (Nat.lt_succ_self _) tokens.fit analyzed
  have start : Reading.start.Loose :=
    ⟨Reading.steady_start.led, fun _ => rfl, by simp [Reading.view, Reading.start]⟩
  obtain ⟨loose, -, -⟩ := (below_all parts.length).read (Nat.le_refl _) tokens.fit start reads
  have remains := Tiers.resolve_remains resolves loose.led.range fun part member =>
    (proper.range.parts part (List.mem_append_right _ member)).isOperand_of_kind
  obtain ⟨same, rfl⟩ := Stops.append_inj stops inside.stops split remains.operands inside.isOperand
  rw [same]
  exact ⟨inside, suffix⟩

theorem resolve_of_context (tokens : Tokens parts)
    (first : context ≠ [] → ∀ part ∈ parts.head?, part.kind.takesLeft = false)
    (reads : answer (read .start parts) = .ok (reading, rest)) :
    Tiers.resolve (reading.onto context).range =
      (Tiers.resolve reading.range).map (Range.onto context) := by
  by_cases none : context = []
  · subst none
    have same : reading.onto [] = reading := by simp [Reading.onto]
    rw [same]
    cases Tiers.resolve reading.range with
    | error => rfl
    | ok range => simp [Except.map, Range.onto]
  · have start : Reading.start.Loose :=
      ⟨Reading.steady_start.led, fun _ => rfl, by simp [Reading.view, Reading.start]⟩
    obtain ⟨loose, -, -⟩ := (below_all parts.length).read (Nat.le_refl _) tokens.fit start reads
    obtain ⟨proper, -, -⟩ := done_of_read (by simp) tokens reads
    have unled := unled_of_read reads (by simp [Reading.Unled, Reading.view, Reading.start])
      fun _ => first none
    refine Tiers.resolve_onto context loose.led.range (fun part member =>
      (proper.range.parts part (List.mem_append_right _ member)).isOperand_of_kind) ?_
    intro part present
    rw [Reading.whole_range, List.head?_reverse] at present
    exact unled part present

/-- The ranges of separated expressions: one, or one and then others after a separator. -/
theorem range_of_separated {values : List Expression} {left : List Part} (tokens : Tokens parts)
    (first : context ≠ [] → ∀ part ∈ parts.head?, part.kind.takesLeft = false)
    (found : separated context parts = .ok (values, left)) :
    ∃ value operands rest, Inside parts (some value) operands rest ∧ rest <:+ parts ∧
      ((rest.dropWhile (·.kind != .separator) = [] ∧ values = [value] ∧
          left = context.reverse ++ (operands ++ rest)) ∨
        ∃ separator next others, separator.kind = .separator ∧
          rest = rest.takeWhile (·.kind != .separator) ++ separator :: next ∧
          values = value :: others ∧
          separated ((rest.takeWhile (·.kind != .separator)).reverse ++ operands.reverse ++ context)
            next = .ok (others, left)) := by
  obtain ⟨_, _, _, value, moves, settles, result, ends⟩ := separated_cases found
  have moved := read_onto context parts .start fun _ => rfl
  rw [show answer (read ⟨context, [], true, none⟩ parts) = _ from moved] at moves
  obtain ⟨⟨reading, rest⟩, reads, same⟩ := Tiers.map_eq_ok.mp moves
  cases same
  dsimp only at settles ends
  rw [resolve_of_context tokens first reads] at settles
  obtain ⟨range, resolves, rfl⟩ := Tiers.map_eq_ok.mp settles
  obtain ⟨inside, suffix⟩ := inside_of_read tokens reads resolves
  replace result : range.value = some value := result
  have whole : (range.onto context).whole = context.reverse ++ range.whole := by
    simp [Range.onto, Range.whole]
  rw [result] at inside
  rw [whole, List.reverse_append, List.reverse_reverse, List.append_assoc,
    ← List.append_assoc _ _ context] at ends
  exact ⟨value, range.whole, rest, inside, suffix, ends⟩

theorem Inside.length_pos {value : Expression} {operands : List Part}
    (inside : Inside parts (some value) operands rest) : 0 < operands.length := by
  rw [List.length_pos_iff]
  intro empty
  simpa using inside.value_of_nil empty

/-- Every range leaves an operand at least. When each leaves just one, the parts are expressions
with separators between them. -/
theorem elements_of_separated {values : List Expression} {left : List Part} (tokens : Tokens parts)
    (free : Free parts)
    (first : context ≠ [] → ∀ part ∈ parts.head?, part.kind.takesLeft = false)
    (found : separated context parts = .ok (values, left)) :
    context.length + values.length ≤ left.length ∧
      (left.length = context.length + values.length →
        0 ≤ surplus parts ∧ (surplus parts = 0 → Elements parts values)) := by
  induction length : parts.length using Nat.strong_induction_on
    generalizing parts context values left with
  | _ length ih =>
    obtain ⟨value, operands, rest, inside, suffix, last | ⟨separator, next, others, separates,
      split, rfl, more⟩⟩ := range_of_separated tokens first found
    all_goals have some := inside.length_pos
    · obtain ⟨nothing, rfl, rfl⟩ := last
      have bound := inside.leaves.surplus_le
      refine ⟨by simp; omega, fun same => ?_⟩
      simp only [List.length_append, List.length_reverse, List.length_singleton] at same
      obtain rfl : rest = [] := List.length_eq_zero_iff.mp (by omega)
      refine ⟨bound, fun balanced => ?_⟩
      obtain ⟨block, rfl, -, derives⟩ :=
        inside.leaves.derives balanced.symm fun part member => (tokens.each part member).1
      rw [List.append_nil]
      exact .single (derives value (by omega) rfl)
    · have behind : separator :: next <:+ rest := ⟨_, split.symm⟩
      have later := behind.trans suffix
      have fewer := later.length_le
      simp only [List.length_cons] at fewer
      have next_free := (List.isChain_cons.mp (free.of_suffix later)).1
      obtain ⟨counts, elements⟩ := ih next.length (by omega)
        (tokens.of_suffix (suffix_of_cons later)) (free.of_suffix (suffix_of_cons later))
        (fun _ part head => next_free part head separates) more rfl
      simp only [List.length_append, List.length_reverse] at counts elements
      refine ⟨by simp only [List.length_cons]; omega, fun same => ?_⟩
      simp only [List.length_cons] at same
      have closed : rest.takeWhile (·.kind != .separator) = [] :=
        List.length_eq_zero_iff.mp (by omega)
      obtain ⟨positive, derived⟩ := elements (by omega)
      rw [closed, List.nil_append] at split
      have weight : surplus rest = surplus next := by
        rw [split, surplus_cons, separates]
        simp [TokenKind.parenthesis]
      have bound := inside.leaves.surplus_le
      refine ⟨by omega, fun balanced => ?_⟩
      obtain ⟨block, rfl, -, derives⟩ :=
        inside.leaves.derives (by omega) fun part member => (tokens.each part member).1
      rw [split]
      exact .cons (derives value (by omega) rfl) separates (derived (by omega))

theorem read_derives {expression : Expression} (derives : Derives parts expression)
    (stops : Stops rest) (context : List Part) :
    ∃ (reading : Reading) (range : Range) (operand : Part),
      answer (read ⟨context, [], true, none⟩ (parts ++ rest)) = .ok (reading, rest) ∧
        Tiers.resolve reading.range = .ok range ∧ range.value = some expression ∧
        range.parts.reverse ++ range.before = operand :: context := by
  cases derives with
  | @phrase _ items operand _ sequence phrase value =>
    obtain ⟨next, steady, view, reads⟩ := read_sequence sequence .start rest
      Reading.steady_start phrase.isChain stops
    replace view : next.view = items.reverse := view.trans (List.append_nil _)
    obtain ⟨range, resolves, whole, result⟩ := resolve_of_phrase steady view phrase value
    have items_eq : next.range.whole = items := by
      rw [Reading.whole_range, view, List.reverse_reverse]
    have moved := read_onto context (parts ++ rest) .start fun _ => rfl
    rw [reads] at moved
    have resolved := Tiers.resolve_onto context steady.led.range
      (fun part member => phrase.kinded part (items_eq ▸ List.mem_append_right _ member))
      (fun part first => phrase.unled part (items_eq ▸ first))
    rw [resolves] at resolved
    refine ⟨next.onto context, range.onto context, operand, moved, resolved, result, ?_⟩
    have reversed := congrArg List.reverse whole
    simp only [Range.whole, List.reverse_append, List.reverse_reverse, List.reverse_singleton]
      at reversed
    rw [Range.onto, ← List.append_assoc, reversed]
    rfl

/-- Expressions with separators between them are analyzed as such, after whatever parts. -/
theorem separated_elements {parts : List Part} {values : List Expression}
    (elements : Elements parts values) (context : List Part) :
    ∃ operands : List Part, operands.length = values.length ∧
      separated context parts = .ok (values, context.reverse ++ operands) := by
  induction values generalizing parts context with
  | nil => cases elements
  | cons expression expressions ih =>
    cases elements with
    | single derives =>
      obtain ⟨reading, range, operand, reads, resolves, value, left⟩ :=
        read_derives derives (show Stops [] by simp [Stops]) context
      refine ⟨[operand], rfl, ?_⟩
      rw [List.append_nil] at reads
      rw [separated_eq, reads]
      show Tiers.resolve reading.range >>= _ = _
      rw [resolves]
      simp [bind, Except.bind, value, left]
      rfl
    | @cons parts others separator _ _ derives separates elements =>
      obtain ⟨reading, range, operand, reads, resolves, value, left⟩ :=
        read_derives derives (show Stops (separator :: others) from
          stops_cons (by rw [separates]; rfl)) context
      obtain ⟨operands, counts, found⟩ := ih elements (operand :: context)
      refine ⟨operand :: operands, by simp [counts], ?_⟩
      rw [separated_eq, reads]
      show Tiers.resolve reading.range >>= _ = _
      rw [resolves]
      simp [bind, Except.bind, value, left, separates, found]
      rfl

/-- What separated expressions are together: a list, or the expression if there is just one. -/
def ofElements : List Expression → Expression
  | [value] => value
  | values => listOf values

/-- Expressions with separators between them are accepted. -/
theorem analyze_elements {values : List Expression} (elements : Elements parts values) :
    analyze parts = .ok (ofElements values) := by
  obtain ⟨operands, counts, found⟩ := separated_elements elements []
  rw [analyze, found]
  simp only [bind, Except.bind, List.reverse_nil, List.nil_append, ← counts, List.drop_length]
  unfold ofElements
  cases values with
  | nil => rfl
  | cons value values => cases values <;> rfl

/-- Tokens are accepted when they are expressions with separators between them, and come to the list
of these. -/
theorem analyze_iff_elements (tokens : Tokens parts) (free : Free parts)
    (balanced : surplus parts = 0) {expression : Expression} :
    analyze parts = .ok expression ↔
      ∃ values, Elements parts values ∧ expression = ofElements values := by
  constructor
  · intro analyzed
    obtain ⟨⟨values, left⟩, found, analyzed⟩ := Tiers.bind_eq_ok.mp analyzed
    obtain ⟨counts, elements⟩ :=
      elements_of_separated tokens free (fun nonempty => absurd rfl nonempty) found
    simp only [List.length_nil, Nat.zero_add] at counts elements
    dsimp only at analyzed
    cases dropped : left.drop values.length with
    | cons extra others =>
      rw [dropped] at analyzed
      cases analyzed
    | nil =>
      rw [dropped] at analyzed
      have few := List.drop_eq_nil_iff.mp dropped
      refine ⟨values, (elements (by omega)).2 balanced, ?_⟩
      cases values with
      | nil =>
        cases analyzed
        rfl
      | cons value values =>
        cases values <;>
        · cases analyzed
          rfl
  · rintro ⟨values, elements, rfl⟩
    exact analyze_elements elements

end Analysis

theorem Derives.ne_nil {parts : List Part} {expression : Expression}
    (derives : Derives parts expression) : parts ≠ [] := by
  rintro rfl
  obtain ⟨reading, range, operand, reads, resolves, value, -⟩ :=
    Analysis.read_derives derives (show Analysis.Stops [] by simp [Analysis.Stops]) []
  rw [List.append_nil, Analysis.read_nil] at reads
  cases reads
  cases resolves
  cases value

end PathQuery
