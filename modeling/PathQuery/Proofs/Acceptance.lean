import PathQuery.Parser
import PathQuery.Proofs.Analysis.Soundness
import PathQuery.Proofs.Interpretation

/-!
The texts that are accepted. A text is balanced before it is analyzed, so when its parts come to a
single expression no parenthesis is left over. Main statement: `Accepted.single_iff_derives`, an accepted
text came to a single expression exactly when the grammar generates its parts and the expression is
theirs.
-/

namespace PathQuery

namespace Balance

/-- How many more parentheses were opened than closed. -/
def surplus (balance : Balance) : Int :=
  balance.scopes - balance.unopenedScopes

variable {options : ParserOptions} {balance next : Balance}

theorem surplus_add {kind : TokenKind} (added : balance.add? options kind = .ok next) :
    next.surplus = balance.surplus + kind.parenthesis := by
  unfold add? at added
  split at added
  · cases added
    simp [surplus, TokenKind.parenthesis]
    omega
  · split at added
    · rename_i none
      cases added
      simp [surplus, TokenKind.parenthesis, none]
      omega
    · cases added
      simp [surplus, TokenKind.parenthesis]
      omega
  · cases added
    simp [surplus, TokenKind.parenthesis]
  · split at added <;>
    · cases added
      simp [surplus, TokenKind.parenthesis]
  · split at added
    · cases added
    · cases added
      simp [TokenKind.parenthesis]
  · rename_i notOpen notClosed _ _ _
    cases added
    revert notOpen notClosed
    cases kind <;> simp [TokenKind.parenthesis]

theorem surplus_fold {parts : List Part}
    (folded : (parts.map Part.kind).foldlM (add? options) balance = .ok next) :
    next.surplus = balance.surplus + Analysis.surplus parts := by
  induction parts generalizing balance with
  | nil =>
    cases folded
    simp
  | cons part parts ih =>
    rw [List.map_cons, List.foldlM_cons] at folded
    obtain ⟨middle, added, folded⟩ := Tiers.bind_eq_ok.mp folded
    rw [ih folded, surplus_add added, Analysis.surplus_cons]
    omega

theorem surplus_of_check (checked : balance.check = .ok ()) : balance.surplus = 0 := by
  unfold check at checked
  split at checked
  · cases checked
  · split at checked
    · cases checked
    · simp only [surplus]
      omega

end Balance

theorem surplus_of_validate {options : ParserOptions} {parts : List Part}
    (valid : validate options parts = .ok ()) : Analysis.surplus parts = 0 := by
  obtain ⟨balance, folded, checked⟩ := Tiers.bind_eq_ok.mp valid
  have total := Balance.surplus_fold folded
  rw [Balance.surplus_of_check checked] at total
  simpa [Balance.surplus] using total.symm

/-- A text that is accepted, with its parts and its expression. -/
structure Accepted (options : ParserOptions) (text : String) (parts : List Part)
    (expression : Expression) : Prop where
  interpreted : (PlacedPart.ofText? options.lenient text).map (·.map PlacedPart.part) = .ok parts
  parsed : parse? options text = .ok expression

namespace Accepted

variable {options : ParserOptions} {text : String} {parts : List Part} {expression : Expression}

def passes (options : ParserOptions) (text : String) (check : List Part → Expression → Bool) :
    Bool :=
  match PlacedPart.ofText? options.lenient text, parse? options text with
  | .ok placed, .ok expression => check (placed.map PlacedPart.part) expression
  | _, _ => false

theorem of_passes (options : ParserOptions) (text : String)
    (check : List Part → Expression → Bool) (passed : passes options text check = true) :
    ∃ parts expression, Accepted options text parts expression ∧ check parts expression = true := by
  unfold passes at passed
  split at passed
  · rename_i placed expression interpreted parsed
    exact ⟨_, expression, ⟨by rw [interpreted]; rfl, parsed⟩, passed⟩
  · cases passed

theorem analyzed (accepted : Accepted options text parts expression) :
    validate options parts = .ok () ∧ Analysis.analyze parts = .ok expression := by
  obtain ⟨placed, interpreted, rfl⟩ := Tiers.map_eq_ok.mp accepted.interpreted
  have parsed := accepted.parsed
  unfold parse? at parsed
  rw [interpreted] at parsed
  obtain ⟨_, same, parsed⟩ := Tiers.bind_eq_ok.mp parsed
  cases same
  obtain ⟨_, valid, analyzed⟩ := Tiers.bind_eq_ok.mp parsed
  exact ⟨valid, analyzed⟩

theorem isToken (accepted : Accepted options text parts expression) :
    ∀ part ∈ parts, part.isToken = true := by
  obtain ⟨placed, interpreted, rfl⟩ := Tiers.map_eq_ok.mp accepted.interpreted
  exact PlacedPart.isToken_of_text interpreted

theorem fit (accepted : Accepted options text parts expression) : Analysis.Fit parts := by
  obtain ⟨placed, interpreted, rfl⟩ := Tiers.map_eq_ok.mp accepted.interpreted
  exact PlacedPart.fit_of_text interpreted

/-- A text that comes to a single expression is generated by the grammar as that expression, and
the other way round. -/
theorem single_iff_derives (accepted : Accepted options text parts expression) :
    Analysis.Single parts ↔ Derives parts expression := by
  obtain ⟨valid, analyzed⟩ := accepted.analyzed
  constructor
  · exact Analysis.derives_of_analyze accepted.fit accepted.isToken (surplus_of_validate valid)
      analyzed
  · intro derives
    obtain ⟨operand, found⟩ := Analysis.separated_derives derives
    exact ⟨expression, [operand], found⟩

end Accepted

end PathQuery
