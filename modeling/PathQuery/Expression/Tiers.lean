import PathQuery.Expression
import PathQuery.Expression.Error

/-!
The operators of a range, tier by tier. Each tier, from the tightest down, is passed over once; its
operators become expressions together with their operands. A tier that associates to the left is
passed from left to right, and the others from right to left.

A range has a context, the parts before it, the nearest first. An operator at the start of a range
takes its left operand from there.
-/

namespace PathQuery.Tiers

/-- A range between two passes: the parts before it, the nearest first, its own parts, and the
expression that it comes to. -/
structure Range where
  before : List Part
  parts : List Part
  value : Option Expression

def Range.size (range : Range) : Nat :=
  range.before.length + range.parts.length

/-- A part that can be an operand: a literal or an expression. -/
def operand? (part : Option Part) : Option Part :=
  part.filter fun part => part.kind.isLiteral || part.kind == .expression

def leftOperand? (operator : Operator) (neighbour : Option Part) :
    Except ParseError (Option Part) :=
  if operator.kind.takesLeft then
    match operand? neighbour with
    | some part => .ok (some part)
    | none => .error (.missingLeftOperand operator.spelling)
  else .ok none

def rightOperand? (operator : Operator) (neighbour : Option Part) :
    Except ParseError (Option Part) :=
  if operator.kind.takesRight then
    match operand? neighbour with
    | some part => .ok (some part)
    | none => .error (.missingRightOperand operator.spelling)
  else .ok none

/-- What a part that is no operator comes to, after the part next to it and what that came to. Two
expressions may not stand side by side, nor a literal beside an operator expression. -/
def visit (last : Option Expression) (neighbour : Option Part) (part : Part) :
    Except ParseError (Option Expression) :=
  match part with
  | .expression .expression expression =>
      if last.isSome && (neighbour.bind Part.expression?).isSome then
        .error (.danglingToken part.render)
      else .ok (some expression)
  | .empty .expression => .ok none
  | part =>
      if !part.kind.isLiteral then .error (.unresolvedToken part.kind part.render)
      else
        match last, part with
        | some (.operation left operator right), part =>
            .error (.unexpectedOperand (Expression.operation left operator right).text part.render)
        | _, .literal _ value => .ok (some (.literal value))
        | _, _ => .ok (some (.literal .null))

def folded (expression : Expression) : Part :=
  .expression .expression expression

/-- Puts a new expression after the parts passed, the last of which comes first, in place of its
left operand if it has one. Without any parts left it becomes a part of the context. -/
def place (left : Option Part) (value : Expression) (before done : List Part) :
    List Part × List Part :=
  match left, done with
  | some _, [] => (folded value :: before.drop 1, [])
  | some _, [_] => (folded value :: before, [])
  | some _, _ :: others => (before, folded value :: others)
  | none, [] => (folded value :: before, [])
  | none, done => (before, folded value :: done)

/-- Passes over a range from left to right. The parts passed are given, the last of them first, and
what the last one came to. Once the first part of a range has become an operand, the range begins
after the new expression. -/
def forward (tier : Nat) (before done : List Part) (last : Option Expression) :
    List Part → Except ParseError Range
  | [] => .ok ⟨before, done.reverse, last⟩
  | part :: rest =>
      let neighbour := (done ++ before).head?
      match part.kind.precedence? with
      | none => do
          let value ← visit last neighbour part
          forward tier before (part :: done) value rest
      | some found =>
          if found < tier then forward tier before (part :: done) none rest
          else do
            let operator : Operator := ⟨part.kind, part.render⟩
            let left ← leftOperand? operator neighbour
            let right ← rightOperand? operator rest.head?
            let value := Expression.operation left operator right
            let placed := place left value before done
            if right.isSome then
              match rest with
              | [] => .ok ⟨placed.1, placed.2.reverse, some value⟩
              | _ :: after => forward tier placed.1 placed.2 (some value) after
            else forward tier placed.1 placed.2 (some value) rest

/-- Passes over a range from right to left. The parts to the left are given, the nearest first, and
the parts passed, in order. -/
def backward (tier : Nat) (before done : List Part) (last : Option Expression) :
    List Part → Except ParseError Range
  | [] => .ok ⟨before, done, last⟩
  | part :: rest =>
      match part.kind.precedence? with
      | none => do
          let value ← visit last done.head? part
          backward tier before (part :: done) value rest
      | some found =>
          if found < tier then backward tier before (part :: done) none rest
          else do
            let operator : Operator := ⟨part.kind, part.render⟩
            let left ← leftOperand? operator (rest ++ before).head?
            let right ← rightOperand? operator done.head?
            let value := Expression.operation left operator right
            let done := folded value :: done.drop right.toList.length
            if left.isSome then
              match rest with
              | [] => .ok ⟨before.drop 1, done, some value⟩
              | _ :: farther => backward tier before done (some value) farther
            else backward tier before done (some value) rest

/-- Passes over a range for one tier, from the side where its operators associate. -/
def pass (tier : Nat) (range : Range) : Except ParseError Range :=
  match associativity tier with
  | .left => forward tier range.before [] none range.parts
  | .right => backward tier range.before [] none range.parts.reverse

/-- Passes over a range for one tier. A range of which nothing is left keeps what it came to. -/
def resolveTier (tier : Nat) (range : Range) : Except ParseError Range :=
  (pass tier range).map fun passed => { passed with value := passed.value <|> range.value }

/-- Passes over a range for the given number of the loosest tiers, the tightest of them first. -/
def resolveBelow : Nat → Range → Except ParseError Range
  | 0, range => .ok range
  | tier + 1, range => do resolveBelow tier (← resolveTier tier range)

def resolve (range : Range) : Except ParseError Range :=
  resolveBelow (maxTier + 1) range

/-- A step followed by others succeeds when the step does and the others do with its result. -/
theorem bind_eq_ok {ε α β : Type} {first : Except ε α} {next : α → Except ε β} {result : β} :
    first >>= next = .ok result ↔ ∃ value, first = .ok value ∧ next value = .ok result := by
  cases first <;> simp [bind, Except.bind]

theorem map_eq_ok {ε α β : Type} {first : Except ε α} {f : α → β} {result : β} :
    first.map f = .ok result ↔ ∃ value, first = .ok value ∧ f value = result := by
  cases first <;> simp [Except.map]

theorem length_place_le (left : Option Part) (value : Expression) (before done : List Part) :
    (place left value before done).1.length + (place left value before done).2.length ≤
      before.length + done.length + 1 := by
  unfold place
  split <;> simp
  omega

theorem size_forward_le {tier : Nat} {before done rest : List Part} {last : Option Expression}
    {range : Range} (passed : forward tier before done last rest = .ok range) :
    range.size ≤ before.length + done.length + rest.length := by
  fun_induction forward tier before done last rest with
  | case1 => cases passed; simp [Range.size]
  | case2 before done last part rest neighbour plain ih =>
    obtain ⟨value, _, passed⟩ := bind_eq_ok.mp passed
    have bound := ih value passed
    simp only [List.length_cons] at bound ⊢
    omega
  | case3 before done last part rest found tiered looser ih =>
    have bound := ih passed
    simp only [List.length_cons] at bound ⊢
    omega
  | case4 before done last part rest neighbour found tiered tight operator ihAfter ihRest =>
    obtain ⟨left, _, passed⟩ := bind_eq_ok.mp passed
    obtain ⟨right, _, passed⟩ := bind_eq_ok.mp passed
    have placed := length_place_le left (.operation left operator right) before done
    simp only [List.length_cons]
    split at passed
    · split at passed
      · cases passed
        simp only [Range.size, List.length_reverse]
        omega
      · have bound := ihAfter left right passed
        simp only [List.length_cons]
        omega
    · have bound := ihRest left right passed
      omega

theorem size_backward_le {tier : Nat} {before done rest : List Part} {last : Option Expression}
    {range : Range} (passed : backward tier before done last rest = .ok range) :
    range.size ≤ before.length + done.length + rest.length := by
  fun_induction backward tier before done last rest with
  | case1 => cases passed; simp [Range.size]
  | case2 done last part rest plain ih =>
    obtain ⟨value, _, passed⟩ := bind_eq_ok.mp passed
    have bound := ih value passed
    simp only [List.length_cons] at bound ⊢
    omega
  | case3 done last part rest found tiered looser ih =>
    have bound := ih passed
    simp only [List.length_cons] at bound ⊢
    omega
  | case4 done last part rest found tiered tight operator ihAfter ihRest =>
    obtain ⟨left, _, passed⟩ := bind_eq_ok.mp passed
    obtain ⟨right, _, passed⟩ := bind_eq_ok.mp passed
    simp only [List.length_cons]
    split at passed
    · split at passed
      · cases passed
        simp only [Range.size, List.length_cons, List.length_drop]
        omega
      · have bound := ihAfter left right passed
        simp only [List.length_cons, List.length_drop] at bound ⊢
        omega
    · have bound := ihRest left right passed
      simp only [List.length_cons, List.length_drop] at bound
      omega

theorem size_resolveTier_le {tier : Nat} {range resolved : Range}
    (passed : resolveTier tier range = .ok resolved) : resolved.size ≤ range.size := by
  unfold resolveTier at passed
  obtain ⟨next, passing, rfl⟩ := map_eq_ok.mp passed
  show next.size ≤ range.size
  unfold pass at passing
  split at passing
  · simpa [Range.size] using size_forward_le passing
  · simpa [Range.size] using size_backward_le passing

theorem size_resolveBelow_le {tiers : Nat} {range resolved : Range}
    (passed : resolveBelow tiers range = .ok resolved) : resolved.size ≤ range.size := by
  induction tiers generalizing range with
  | zero => cases passed; exact Nat.le_refl _
  | succ tier ih =>
    unfold resolveBelow at passed
    obtain ⟨next, first, others⟩ := bind_eq_ok.mp passed
    exact Nat.le_trans (ih others) (size_resolveTier_le first)

theorem size_resolve_le {range resolved : Range} (passed : resolve range = .ok resolved) :
    resolved.size ≤ range.size :=
  size_resolveBelow_le passed

end PathQuery.Tiers
