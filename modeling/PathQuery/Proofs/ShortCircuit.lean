import PathQuery.Evaluation
import PathQuery.Proofs.Outcome
import PathQuery.Proofs.Overloading

/-!
Chains of `and` and `or`. Main statement: `evaluate_joined`, a chain in any grouping computes its
operands from left to right up to the first that decides, `!` negates the truth of its operand, and
so De Morgan's laws hold.
-/

namespace PathQuery

open Evaluation

namespace EvalError

theorem rootCause_within (expression : String) (error : EvalError) :
    (error.within expression).rootCause = error.rootCause := by
  cases error <;> simp [within, rootCause]

end EvalError

namespace Evaluation

variable {α β : Type}

/-- What a computation came to and the registries after it, where only the root cause of a failure
counts. -/
def byCause (result : Except EvalError α × Registries) : Except EvalError α × Registries :=
  (result.1.mapError EvalError.rootCause, result.2)

theorem byCause_ok (value : α) (registries : Registries) :
    byCause (.ok value, registries) = (.ok value, registries) := rfl

theorem byCause_error (error : EvalError) (registries : Registries) :
    byCause ((.error error : Except EvalError α), registries) = (.error error.rootCause, registries) :=
  rfl

/-- Two computations are alike when they come to the same value, or fail with the same root cause,
and leave the same registries behind. -/
def Alike (first second : Evaluation α) : Prop :=
  ∀ registries, byCause (outcome first registries) = byCause (outcome second registries)

namespace Alike

variable {first second third : Evaluation α}

theorem refl (computation : Evaluation α) : Alike computation computation :=
  fun _ => rfl

theorem symm (alike : Alike first second) : Alike second first :=
  fun registries => (alike registries).symm

theorem trans (left : Alike first second) (right : Alike second third) : Alike first third :=
  fun registries => (left registries).trans (right registries)

theorem bind {next other : α → Evaluation β} (alike : Alike first second)
    (follows : ∀ value, Alike (next value) (other value)) :
    Alike (first >>= next) (second >>= other) := by
  intro registries
  have same := alike registries
  rw [outcome_bind, outcome_bind]
  rcases ended : outcome first registries with ⟨_ | value, after⟩ <;>
    rcases settled : outcome second registries with ⟨_ | found, left⟩ <;>
    rw [ended, settled] at same <;>
    simp only [byCause_ok, byCause_error, Prod.mk.injEq, Except.error.injEq, Except.ok.injEq,
      reduceCtorEq, false_and] at same
  · simp [byCause_error, same]
  · obtain ⟨rfl, rfl⟩ := same
    exact follows value after

theorem map (alike : Alike first second) (f : α → β) : Alike (f <$> first) (f <$> second) := by
  rw [map_eq_pure_bind, map_eq_pure_bind]
  exact alike.bind fun value => refl _

end Alike

theorem alike_within (expression : Unit → String) (computation : Evaluation α) :
    Alike (within expression computation) computation := by
  intro registries
  rw [outcome_within]
  rcases outcome computation registries with ⟨_ | value, after⟩
  · simp [byCause_error, EvalError.rootCause_within]
  · rfl

end Evaluation

/-- The connectives that may decide by their left operand alone. -/
inductive Connective where
  | conjunction
  | disjunction

namespace Connective

def kind : Connective → TokenKind
  | conjunction => .logicalAnd
  | disjunction => .logicalOr

/-- The truth of an operand that decides: falsehood for `and`, truth for `or`. -/
def decisive : Connective → Bool
  | conjunction => false
  | disjunction => true

def dual : Connective → Connective
  | conjunction => disjunction
  | disjunction => conjunction

@[simp] theorem decisive_dual (connective : Connective) :
    connective.dual.decisive = !connective.decisive := by
  cases connective <;> rfl

/-- Computes operands from left to right up to the first whose truth decides. -/
def truthOf (environment : Environment) (connective : Connective) :
    List Part → Value → Scope → Evaluation Bool
  | [], _, _ => return !connective.decisive
  | operand :: operands, context, scope => do
      let value ← operand.evaluate environment context scope
      if truth environment.converter value = connective.decisive then return connective.decisive
      else truthOf environment connective operands context scope

theorem truthOf_append (environment : Environment) (connective : Connective)
    (operands others : List Part) (context : Value) (scope : Scope) :
    (do
      let verdict ← connective.truthOf environment operands context scope
      if verdict = connective.decisive then return connective.decisive
      else connective.truthOf environment others context scope) =
    connective.truthOf environment (operands ++ others) context scope := by
  induction operands with
  | nil => simp [truthOf]
  | cons operand operands ih =>
    simp only [truthOf, List.cons_append, bind_assoc]
    congr 1
    funext value
    split
    · simp
    · exact ih

end Connective

/-- An operation with a connective. -/
def Expression.joined (connective : Connective) (left : Part) (spelling : String) (right : Part) :
    Expression :=
  .operation (some left) ⟨connective.kind, spelling⟩ (some right)

def Expression.negated (spelling : String) (operand : Part) : Expression :=
  .operation none ⟨.not, spelling⟩ (some operand)

/-- Operands that one connective joins two by two, in some grouping. -/
inductive Grouping where
  | leaf (operand : Part)
  | join (left : Grouping) (spelling : String) (right : Grouping)

namespace Grouping

def leaves : Grouping → List Part
  | leaf operand => [operand]
  | join left _ right => left.leaves ++ right.leaves

/-- The operand that a grouping is to the operation around it. -/
def operand (connective : Connective) : Grouping → Part
  | leaf operand => operand
  | join left spelling right =>
      .expression .expression
        (.joined connective (left.operand connective) spelling (right.operand connective))

end Grouping

/-- The conversions are the standard ones, and neither executors nor objects of the host know an
operator. -/
structure Environment.Unextended (environment : Environment) : Prop where
  converter : environment.converter = Conversion.standard
  executors : environment.executors = []
  objects : ∀ ref operator right, (environment.host.object ref).operate operator right = none

theorem Environment.Unextended.unclaimed {environment : Environment}
    (unextended : environment.Unextended) (left : Value) : environment.Unclaimed left := by
  refine unclaimed_of_silent ?_ fun ref _ => unextended.objects ref
  rw [unextended.executors]
  exact nofun

namespace Evaluation

theorem truth_eq_false_iff (value : Value) :
    truth Conversion.standard value = false ↔
      value = .null ∨ Conversion.standard.convert value .boolean = .ok (.boolean false) := by
  unfold truth toBool?
  cases found : Conversion.standard.convert value .boolean with
  | error error => cases value <;> simp [Value.isNull]
  | ok converted => cases converted <;> cases value <;> simp_all [Value.isNull, Value.bool?]

end Evaluation

section Evaluation

variable {environment : Environment} (unextended : environment.Unextended) (connective : Connective)
  (context : Value) (scope : Scope)

include unextended

theorem evaluate_operation (left : Part) (spelling : String) (right : Part) :
    Alike ((Expression.joined connective left spelling right).evaluate environment context scope)
      (do
        let value ← left.evaluate environment context scope
        if truth environment.converter value = connective.decisive then
          return .boolean connective.decisive
        else
          let value ← right.evaluate environment context scope
          return .boolean (truth environment.converter value)) := by
  rw [Expression.joined, Expression.evaluate]
  refine (alike_within _ _).trans ?_
  have taken : connective.kind.takesLeft = true ∧ connective.kind.takesRight = true := by
    cases connective <;> exact ⟨rfl, rfl⟩
  simp only [taken, Part.operand, if_true]
  refine (Alike.refl _).bind fun value => ?_
  by_cases decides : truth environment.converter value = connective.decisive
  · have decided : decided? environment.converter connective.kind value =
        some (.boolean connective.decisive) := by
      cases connective <;> simp_all [decided?, Connective.kind, Connective.decisive]
    rw [decided, if_pos decides]
    exact Alike.refl _
  · have undecided : decided? environment.converter connective.kind value = none := by
      cases connective <;> simp_all [decided?, Connective.kind, Connective.decisive]
    rw [undecided, if_neg decides]
    refine (Alike.refl _).bind fun other => ?_
    have result : applied environment connective.kind value other =
        .ok (.boolean (truth environment.converter other)) := by
      cases connective <;> simp_all [applied, Connective.kind, Connective.decisive]
    rw [(unextended.unclaimed value).operated, result]
    exact Alike.refl _

theorem evaluate_negated (spelling : String) (operand : Part) :
    Alike ((Expression.negated spelling operand).evaluate environment context scope)
      (do
        let value ← operand.evaluate environment context scope
        return .boolean !truth environment.converter value) := by
  rw [Expression.negated, Expression.evaluate]
  refine (alike_within _ _).trans ?_
  have taken : TokenKind.not.takesLeft = false ∧ TokenKind.not.takesRight = true := ⟨rfl, rfl⟩
  simp only [taken, Part.operand, if_true, pure_bind, decided?]
  refine (Alike.refl _).bind fun value => ?_
  rw [(unextended.unclaimed .null).operated]
  exact Alike.refl _

theorem evaluate_of_alike {left right : Part} {lefts rights : List Part} (spelling : String)
    (leftAlike : Alike (truth environment.converter <$> left.evaluate environment context scope)
      (connective.truthOf environment lefts context scope))
    (rightAlike : Alike (truth environment.converter <$> right.evaluate environment context scope)
      (connective.truthOf environment rights context scope)) :
    Alike ((Expression.joined connective left spelling right).evaluate environment context scope)
      (.boolean <$> connective.truthOf environment (lefts ++ rights) context scope) := by
  refine (evaluate_operation unextended connective context scope left spelling right).trans ?_
  rw [← connective.truthOf_append]
  have stepwise := leftAlike.bind fun verdict =>
    show Alike
      (if verdict = connective.decisive then return .boolean connective.decisive
        else do
          let value ← right.evaluate environment context scope
          return .boolean (truth environment.converter value))
      (Value.boolean <$> if verdict = connective.decisive then return connective.decisive
        else connective.truthOf environment rights context scope) by
    split
    · exact Alike.refl _
    · have mapped := rightAlike.map Value.boolean
      rwa [Functor.map_map, map_eq_pure_bind] at mapped
  rwa [bind_map_left, ← map_bind] at stepwise

theorem truth_operand (grouping : Grouping) :
    Alike (truth environment.converter <$>
        (grouping.operand connective).evaluate environment context scope)
      (connective.truthOf environment grouping.leaves context scope) := by
  induction grouping with
  | leaf operand =>
    rw [Grouping.leaves, Connective.truthOf, map_eq_pure_bind]
    refine (Alike.refl _).bind fun value => ?_
    by_cases decides : truth environment.converter value = connective.decisive
    · rw [if_pos decides, decides]
      exact Alike.refl _
    · rw [if_neg decides, Connective.truthOf, Bool.eq_not_of_ne decides]
      exact Alike.refl _
  | join left spelling right ihLeft ihRight =>
    have joined := evaluate_of_alike unextended connective context scope spelling ihLeft ihRight
    have settles : ∀ verdict : Bool, truth environment.converter <$>
        (liftM (Value.boolean verdict).resolved : Evaluation Value) = pure verdict := by
      intro verdict
      rw [unextended.converter]
      rfl
    rw [Grouping.operand, Grouping.leaves, Part.evaluate, map_bind]
    refine (joined.bind fun value => Alike.refl _).trans ?_
    simp only [bind_map_left, settles, bind_pure]
    exact Alike.refl _

theorem truthOf_negated (spelling : String) (operands : List Part) :
    Alike (Bool.not <$> connective.truthOf environment operands context scope)
      (connective.dual.truthOf environment
        (operands.map fun operand => .expression .expression (.negated spelling operand))
        context scope) := by
  induction operands with
  | nil =>
    simp only [Connective.truthOf, List.map_nil, Connective.decisive_dual, map_pure]
    exact Alike.refl _
  | cons operand operands ih =>
    have negates := evaluate_negated unextended context scope spelling operand
    rw [List.map_cons, Connective.truthOf, Connective.truthOf, map_bind, Part.evaluate, bind_assoc]
    refine Alike.trans ?_ (negates.bind fun value => Alike.refl _).symm
    rw [bind_assoc]
    refine (Alike.refl _).bind fun value => ?_
    rw [pure_bind, unextended.converter]
    show Alike _ (if (!truth Conversion.standard value) = connective.dual.decisive then _ else _)
    rw [Connective.decisive_dual]
    by_cases decides : truth Conversion.standard value = connective.decisive
    · rw [if_pos decides, if_pos (by rw [decides])]
      exact Alike.refl _
    · rw [if_neg decides, if_neg (by simpa using decides)]
      exact ih

end Evaluation

/-- A value counts as false when it is null or converts to false. A chain in any grouping computes
its operands in order up to the first that decides; `!` negates the truth of its operand; and a
chain is negated by the dual chain of its negated operands. -/
theorem evaluate_joined {environment : Environment} (unextended : environment.Unextended)
    (context : Value) (scope : Scope) :
    (∀ value, truth environment.converter value = false ↔
      value = .null ∨ environment.converter.convert value .boolean = .ok (.boolean false)) ∧
    (∀ (connective : Connective) (left : Grouping) (spelling : String) (right : Grouping),
      Alike
        ((Expression.joined connective (left.operand connective) spelling
          (right.operand connective)).evaluate environment context scope)
        (.boolean <$>
          connective.truthOf environment (left.leaves ++ right.leaves) context scope)) ∧
    (∀ (spelling : String) (operand : Part),
      Alike ((Expression.negated spelling operand).evaluate environment context scope)
        ((fun value => .boolean !truth environment.converter value) <$>
          operand.evaluate environment context scope)) ∧
    (∀ (connective : Connective) (grouping left right : Grouping) (spelling negation : String),
      left.leaves ++ right.leaves =
        grouping.leaves.map (fun leaf => .expression .expression (.negated negation leaf)) →
      Alike
        ((Expression.negated negation (grouping.operand connective)).evaluate environment context
          scope)
        ((Expression.joined connective.dual (left.operand connective.dual) spelling
          (right.operand connective.dual)).evaluate environment context scope)) := by
  have chain : ∀ (connective : Connective) (left : Grouping) (spelling : String)
      (right : Grouping), _ := fun connective left spelling right =>
    evaluate_of_alike unextended connective context scope spelling
      (truth_operand unextended connective context scope left)
      (truth_operand unextended connective context scope right)
  have negates : ∀ (spelling : String) (operand : Part), _ := fun spelling operand =>
    evaluate_negated unextended context scope spelling operand
  refine ⟨?_, chain, fun spelling operand => ?_, ?_⟩
  · rw [unextended.converter]
    exact truth_eq_false_iff
  · rw [map_eq_pure_bind]
    exact negates spelling operand
  · intro connective grouping left right spelling negation leaves
    have truth := truth_operand unextended connective context scope grouping
    have dual := truthOf_negated unextended connective context scope negation grouping.leaves
    refine (negates negation _).trans (Alike.trans ?_
      (chain connective.dual left spelling right).symm)
    rw [leaves, bind_pure_comp]
    have mapped := ((truth.map Bool.not).trans dual).map Value.boolean
    simpa only [Functor.map_map] using mapped

theorem evaluate_division_after_null :
    let registries : Registries := { methods := {} }
    let zero := Part.literal .integerLiteral (.integer 0)
    let quotient := Part.expression .expression (.operation (some zero) ⟨.divide, "/"⟩ (some zero))
    let left := Grouping.join (.leaf (.literal .trueLiteral (.boolean true))) "and"
      (.leaf (.literal .nullLiteral .null))
    Environment.Unextended {} ∧
      byCause (outcome ((Expression.joined .conjunction (left.operand .conjunction) "&&"
        quotient).evaluate {} .null {}) registries) = (.ok (.boolean false), registries) := by
  intro registries zero quotient left
  have unextended : Environment.Unextended {} := ⟨rfl, rfl, fun _ _ _ => rfl⟩
  have chain := (evaluate_joined unextended .null {}).2.1 .conjunction left "&&" (.leaf quotient)
  refine ⟨unextended, (chain registries).trans ?_⟩
  rfl

end PathQuery
