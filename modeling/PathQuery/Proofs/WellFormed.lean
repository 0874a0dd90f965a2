import PathQuery.Proofs.Analysis.Reading
import PathQuery.Proofs.Precedence.Unfolding

/-!
What evaluation relies on. An expression is well formed when its operators have the operands that
they take, no operand is a token that was never read, every path has segments, and calls call what
can be called. The passes over a range keep this.
-/

namespace PathQuery

/-- Whether a name can be a segment of a path: it has characters, and no slash but in front. -/
def Segment.properName (name : String) : Bool :=
  match name.toList with
  | [] => false
  | _ :: rest => !rest.contains '/'

/-- Whether a path can begin so: with a name, or with what a call answers. -/
def Segment.beginsPath : List Segment → Bool
  | .name _ :: _ => true
  | .expression (.call ..) :: _ => true
  | _ => false

/-- Whether what an expression gives can be called: a path or what a call answers. -/
def Expression.isCallable : Expression → Bool
  | .path _ | .call .. => true
  | _ => false

mutual

def Expression.wellFormed : Expression → Bool
  | .literal _ => true
  | .path segments => Segment.beginsPath segments && Segment.allWellFormed segments
  | .call target arguments => target.wellFormed && Expression.allWellFormed arguments
  | .operation left operator right =>
      operator.kind.isOperator && Part.operandWellFormed operator.kind.takesLeft left &&
        Part.operandWellFormed operator.kind.takesRight right

def Expression.allWellFormed : List Expression → Bool
  | [] => true
  | expression :: expressions => expression.wellFormed && Expression.allWellFormed expressions

def Segment.allWellFormed : List Segment → Bool
  | [] => true
  | .name name :: segments => Segment.properName name && Segment.allWellFormed segments
  | .expression expression :: segments =>
      expression.wellFormed && Segment.allWellFormed segments

def Target.wellFormed : Target → Bool
  | .name _ => true
  | .expression expression => expression.isCallable && expression.wellFormed

/-- Whether an operand is there exactly when it is taken, and is well formed then. -/
def Part.operandWellFormed (taken : Bool) : Option Part → Bool
  | none => !taken
  | some part => taken && part.wellFormed

/-- Whether a part can be an operand: anything but the text of a token. -/
def Part.wellFormed : Part → Bool
  | .literal _ _ => true
  | .text _ _ => false
  | .expression _ expression => expression.wellFormed
  | .empty _ => true

end

theorem Segment.allWellFormed_append (segments others : List Segment) :
    allWellFormed (segments ++ others) = (allWellFormed segments && allWellFormed others) := by
  induction segments with
  | nil => simp [allWellFormed]
  | cons segment segments ih =>
    cases segment <;> simp [allWellFormed, ih, Bool.and_assoc]

theorem Segment.beginsPath_append {segments : List Segment} (begins : beginsPath segments = true)
    (others : List Segment) : beginsPath (segments ++ others) = true := by
  unfold beginsPath at begins
  split at begins
  · rfl
  · rfl
  · cases begins

/-- Whether what a range came to, if anything, is well formed. -/
def ProperValue (value : Option Expression) : Prop :=
  ∀ expression ∈ value, expression.wellFormed = true

/-- What the analysis has before it: a token, the names of which can be segments, or something well
formed that was analyzed. -/
inductive Part.Proper : Part → Prop
  | token {part : Part} : part.isToken = true →
      (∀ lexeme, part = .text .path lexeme →
        Segment.beginsPath (Segment.names lexeme) = true ∧
          Segment.allWellFormed (Segment.names lexeme) = true) →
      Proper part
  | analyzed {value : Option Expression} : ProperValue value → Proper (.ofAnalysis value)

namespace Part.Proper

variable {part : Part}

theorem isOperand_of_kind (proper : part.Proper) (same : part.kind = .expression) :
    part.isOperand = true := by
  cases proper with
  | token token => exact absurd same (kind_ne_expression_of_isToken token)
  | analyzed => simp

theorem wellFormed (proper : part.Proper) (operand : part.isOperand = true) :
    part.wellFormed = true := by
  cases proper with
  | token token =>
    cases part with
    | literal => rfl
    | text kind text =>
      obtain ⟨literal, expression⟩ : kind.isLiteral = false ∧ kind ≠ .expression := by
        simpa [isToken] using token
      rcases kind_of_isOperand operand with same | same
      · exact absurd same (by simpa [Part.kind] using literal)
      · exact absurd same expression
    | expression => cases token
    | empty => rfl
  | @analyzed value proper =>
    cases value with
    | none => rfl
    | some expression => exact proper expression rfl

end Part.Proper

namespace Tiers

/-- A range of which all parts are proper, and what it came to as well. -/
structure Range.Proper (range : Range) : Prop where
  parts : ∀ part ∈ range.whole, part.Proper
  value : ProperValue range.value

variable {part : Part} {last value : Option Expression}

theorem properValue_of_visit {neighbour : Option Part} (proper : part.Proper)
    (visited : visit last neighbour part = .ok value) : ProperValue value := by
  unfold visit at visited
  split at visited
  · split at visited
    · cases visited
    · cases visited
      have formed := proper.wellFormed rfl
      simpa [ProperValue, Part.wellFormed] using formed
  · cases visited
    simp [ProperValue]
  · split at visited
    · cases visited
    · split at visited <;> cases visited
      · simp [ProperValue, Expression.wellFormed]
      · simp [ProperValue, Expression.wellFormed]

theorem operation_wellFormed {tier : Nat} {before after left right : Option Part}
    (tiered : part.kind.precedence? = some tier)
    (leftTaken : leftOperand? ⟨part.kind, part.render⟩ before = .ok left)
    (rightTaken : rightOperand? ⟨part.kind, part.render⟩ after = .ok right)
    (leftProper : ∀ part ∈ before, part.Proper) (rightProper : ∀ part ∈ after, part.Proper) :
    (Expression.operation left ⟨part.kind, part.render⟩ right).wellFormed = true := by
  have operates : part.kind.isOperator = true := by
    simp [TokenKind.isOperator, tiered]
  have leftFormed : Part.operandWellFormed part.kind.takesLeft left = true := by
    rcases leftOperand_eq leftTaken fun part present => (leftProper part present).isOperand_of_kind
      with ⟨takes, operand, present, rfl, operates⟩ | ⟨takes, rfl⟩
    · simp_all [Part.operandWellFormed, (leftProper operand present).wellFormed operates]
    · simp_all [Part.operandWellFormed]
  have rightFormed : Part.operandWellFormed part.kind.takesRight right = true := by
    rcases rightOperand_eq rightTaken
        fun part present => (rightProper part present).isOperand_of_kind with
      ⟨takes, operand, present, rfl, operates⟩ | ⟨takes, rfl⟩
    · simp_all [Part.operandWellFormed, (rightProper operand present).wellFormed operates]
    · simp_all [Part.operandWellFormed]
  simp [Expression.wellFormed, operates, leftFormed, rightFormed]

theorem proper_sweep {tier : Nat} {stack rest items : List Part}
    (swept : sweep tier stack last rest = .ok (items, value))
    (stacked : ∀ part ∈ stack, part.Proper) (awaited : ∀ part ∈ rest, part.Proper)
    (given : ProperValue last) : (∀ part ∈ items, part.Proper) ∧ ProperValue value := by
  fun_induction sweep tier stack last rest with
  | case1 stack last =>
    cases swept
    exact ⟨stacked, given⟩
  | case2 stack last part rest plain ih =>
    obtain ⟨result, visited, swept⟩ := bind_eq_ok.mp swept
    obtain ⟨first, others⟩ := List.forall_mem_cons.mp awaited
    exact ih result swept (List.forall_mem_cons.mpr ⟨first, stacked⟩) others
      (properValue_of_visit first visited)
  | case3 stack last part rest found tiered looser ih =>
    obtain ⟨first, others⟩ := List.forall_mem_cons.mp awaited
    exact ih swept (List.forall_mem_cons.mpr ⟨first, stacked⟩) others (by simp [ProperValue])
  | case4 stack last part rest found tiered tight operator ihAfter ihRest =>
    obtain ⟨left, leftTaken, swept⟩ := bind_eq_ok.mp swept
    obtain ⟨right, rightTaken, swept⟩ := bind_eq_ok.mp swept
    obtain ⟨first, others⟩ := List.forall_mem_cons.mp awaited
    have formed : (Expression.operation left operator right).wellFormed = true :=
      operation_wellFormed tiered leftTaken rightTaken
        (fun part present => stacked part (List.mem_of_mem_head? present))
        (fun part present => others part (List.mem_of_mem_head? present))
    have folds : ProperValue (some (.operation left operator right)) := by
      simpa [ProperValue] using formed
    have pushed : ∀ next ∈ folded (.operation left operator right) ::
        stack.drop left.toList.length, next.Proper :=
      List.forall_mem_cons.mpr ⟨.analyzed folds, fun part below =>
        stacked part (List.mem_of_mem_drop below)⟩
    dsimp only at swept
    split at swept
    · split at swept
      · cases swept
        exact ⟨pushed, folds⟩
      · exact ihAfter left right swept pushed (List.forall_mem_cons.mp others).2 folds
    · exact ihRest left right swept pushed others folds

theorem proper_backward {tier : Nat} {before done rest : List Part} {range : Range}
    (passing : backward tier before done last rest = .ok range)
    (led : ∀ part ∈ before, part.Proper) (passed : ∀ part ∈ done, part.Proper)
    (awaited : ∀ part ∈ rest, part.Proper) (given : ProperValue last) : range.Proper := by
  fun_induction backward tier before done last rest with
  | case1 done last =>
    cases passing
    refine ⟨fun part member => ?_, given⟩
    rcases List.mem_append.mp member with early | late
    · exact led part (List.mem_reverse.mp early)
    · exact passed part late
  | case2 done last part rest plain ih =>
    obtain ⟨result, visited, passing⟩ := bind_eq_ok.mp passing
    obtain ⟨first, others⟩ := List.forall_mem_cons.mp awaited
    exact ih result passing (List.forall_mem_cons.mpr ⟨first, passed⟩) others
      (properValue_of_visit first visited)
  | case3 done last part rest found tiered looser ih =>
    obtain ⟨first, others⟩ := List.forall_mem_cons.mp awaited
    exact ih passing (List.forall_mem_cons.mpr ⟨first, passed⟩) others (by simp [ProperValue])
  | case4 done last part rest found tiered tight operator ihAfter ihRest =>
    obtain ⟨left, leftTaken, passing⟩ := bind_eq_ok.mp passing
    obtain ⟨right, rightTaken, passing⟩ := bind_eq_ok.mp passing
    obtain ⟨first, others⟩ := List.forall_mem_cons.mp awaited
    have formed : (Expression.operation left operator right).wellFormed = true :=
      operation_wellFormed tiered leftTaken rightTaken
        (fun part present => by
          rcases List.mem_append.mp (List.mem_of_mem_head? present) with near | far
          · exact others part near
          · exact led part far)
        (fun part present => passed part (List.mem_of_mem_head? present))
    have folds : ProperValue (some (.operation left operator right)) := by
      simpa [ProperValue] using formed
    have pushed : ∀ next ∈ folded (.operation left operator right) ::
        done.drop right.toList.length, next.Proper :=
      List.forall_mem_cons.mpr ⟨.analyzed folds, fun part below =>
        passed part (List.mem_of_mem_drop below)⟩
    dsimp only at passing
    split at passing
    · split at passing
      · cases passing
        refine ⟨fun part member => ?_, folds⟩
        rcases List.mem_append.mp member with early | late
        · exact led part (List.mem_of_mem_drop (List.mem_reverse.mp early))
        · exact pushed part late
      · exact ihAfter left right passing pushed (List.forall_mem_cons.mp others).2 folds
    · exact ihRest left right passing pushed others folds

theorem proper_resolveTier {tier : Nat} {range next : Range}
    (resolving : resolveTier tier range = .ok next) (proper : range.Proper) : next.Proper := by
  obtain ⟨passed, passing, rfl⟩ := map_eq_ok.mp resolving
  have led : ∀ part ∈ range.before, part.Proper := fun part member =>
    proper.parts part (List.mem_append_left _ (List.mem_reverse.mpr member))
  have parts : ∀ part ∈ range.parts, part.Proper := fun part member =>
    proper.parts part (List.mem_append_right _ member)
  have none : ProperValue none := by simp [ProperValue]
  have result : passed.Proper := by
    unfold pass at passing
    split at passing
    · have swept := forward_eq_sweep tier range.before [] range.parts Option.none
      rw [passing] at swept
      obtain ⟨items, value⟩ := proper_sweep swept.symm (by simpa using led) parts none
      exact ⟨fun part member => items part (by simpa [Range.whole, or_comm] using member), value⟩
    · exact proper_backward passing led (by simp) (by simpa using parts) none
  refine ⟨result.parts, ?_⟩
  show ProperValue (passed.value <|> range.value)
  have value := result.value
  cases held : passed.value with
  | none => exact proper.value
  | some expression => rwa [held] at value

theorem proper_resolveBelow {tiers : Nat} {range resolved : Range}
    (resolving : resolveBelow tiers range = .ok resolved) (proper : range.Proper) :
    resolved.Proper := by
  induction tiers generalizing range with
  | zero =>
    cases resolving
    exact proper
  | succ tier ih =>
    obtain ⟨next, first, others⟩ := bind_eq_ok.mp resolving
    exact ih others (proper_resolveTier first proper)

theorem proper_resolve {range resolved : Range} (resolving : resolve range = .ok resolved)
    (proper : range.Proper) : resolved.Proper :=
  proper_resolveBelow resolving proper

end Tiers

end PathQuery
