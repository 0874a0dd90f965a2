import PathQuery.Expression.Tiers
import PathQuery.Proofs.Determined

/-!
Lists that are sifted by judgements which may fail. Main statement: `Regime.outcome_sift_sift`, to
sift twice comes to the same as to sift once by both judgements.
-/

namespace PathQuery

open Evaluation

/-- Keeps the elements of a list that a judgement holds of. -/
def sift {m : Type → Type} [Monad m] {α : Type} (judge : α → m Bool) : List α → m (List α)
  | [] => return []
  | element :: elements => do
      let keep ← judge element
      let kept ← sift judge elements
      return if keep then element :: kept else kept

/-- Judges by a second judgement what a first one holds of. -/
def conjoin {m : Type → Type} [Monad m] {α : Type} (first second : α → m Bool) (element : α) :
    m Bool := do
  if ← first element then second element else return false

section Results

variable {α ε : Type} {judge first second : α → Except ε Bool} {element : α}
  {elements kept : List α}

theorem sift_cons_eq_ok :
    sift judge (element :: elements) = .ok kept ↔ ∃ keep, judge element = .ok keep ∧
      ∃ others, sift judge elements = .ok others ∧
        (if keep then element :: others else others) = kept := by
  rw [sift, Tiers.bind_eq_ok]
  refine exists_congr fun keep => and_congr_right fun _ => ?_
  rw [Tiers.bind_eq_ok]
  exact exists_congr fun others => and_congr_right fun _ => ⟨Except.ok.inj, congrArg Except.ok⟩

theorem conjoin_eq_ok {verdict : Bool} : conjoin first second element = .ok verdict ↔
    ∃ holds, first element = .ok holds ∧
      if holds then second element = .ok verdict else verdict = false := by
  rw [conjoin, Tiers.bind_eq_ok]
  refine exists_congr fun holds => and_congr_right fun _ => ?_
  cases holds
  · exact ⟨fun came => (Except.ok.inj came).symm, fun same => congrArg Except.ok same.symm⟩
  · exact Iff.rfl

/-- To sift twice is to sift once by both judgements, though failures come in another order. -/
theorem sift_sift : sift first elements >>= sift second = .ok kept ↔
    sift (conjoin first second) elements = .ok kept := by
  induction elements generalizing kept with
  | nil => rfl
  | cons element elements ih =>
    have both : ∀ kept, (∃ others, sift first elements = .ok others ∧
        sift second others = .ok kept) ↔ sift (conjoin first second) elements = .ok kept :=
      fun kept => Tiers.bind_eq_ok.symm.trans ih
    rw [Tiers.bind_eq_ok, sift_cons_eq_ok]
    simp only [sift_cons_eq_ok, conjoin_eq_ok, ← both]
    constructor
    · rintro ⟨_, ⟨holds, judged, others, sifted, rfl⟩, again⟩
      cases holds with
      | false => exact ⟨false, ⟨false, judged, rfl⟩, kept, ⟨others, sifted, again⟩, rfl⟩
      | true =>
        obtain ⟨keep, verdict, rest, resifted, rfl⟩ := sift_cons_eq_ok.mp again
        exact ⟨keep, ⟨true, judged, verdict⟩, rest, ⟨others, sifted, resifted⟩, rfl⟩
    · rintro ⟨keep, ⟨holds, judged, verdict⟩, rest, ⟨others, sifted, resifted⟩, rfl⟩
      cases holds with
      | false =>
        obtain rfl : keep = false := verdict
        exact ⟨others, ⟨false, judged, others, sifted, rfl⟩, resifted⟩
      | true =>
        exact ⟨element :: others, ⟨true, judged, others, sifted, rfl⟩,
          sift_cons_eq_ok.mpr ⟨keep, verdict, rest, resifted, rfl⟩⟩

theorem sift_mapError (f : ε → ε) (judge : α → Except ε Bool) (elements : List α) :
    sift (fun element => (judge element).mapError f) elements =
      (sift judge elements).mapError f := by
  induction elements with
  | nil => rfl
  | cons element elements ih =>
    rw [sift, sift, ih]
    cases judge element with
    | error error => rfl
    | ok keep => cases sift judge elements <;> rfl

end Results

/-- What a list is sifted to is part of it. -/
theorem sublist_of_sift {α : Type} {judge : α → Evaluation Bool} {elements kept : List α}
    {registries after : Registries}
    (sifted : outcome (sift judge elements) registries = (.ok kept, after)) :
    kept.Sublist elements := by
  induction elements generalizing kept registries after with
  | nil =>
    cases sifted
    exact .slnil
  | cons element elements ih =>
    rw [sift, outcome_bind] at sifted
    rcases ran : outcome (judge element) registries with ⟨error | keep, between⟩ <;>
      rw [ran] at sifted
    · cases sifted
    · dsimp only at sifted
      rw [outcome_bind] at sifted
      rcases rest : outcome (sift judge elements) between with ⟨error | others, last⟩ <;>
        rw [rest] at sifted
      · cases sifted
      · cases sifted
        split
        · exact (ih rest).cons_cons element
        · exact (ih rest).cons element

namespace Regime

variable {α β : Type} {regime : Regime} {judge other joined : α → Evaluation Bool}
  {firsts seconds : α → Except EvalError Bool} {elements : List α} {next : List α → Evaluation β}

theorem spoils_sift (spoils : ∀ element, regime.Spoils (judge element)) (elements : List α) :
    regime.Spoils (sift judge elements) := by
  induction elements with
  | nil => exact spoils_pure []
  | cons element elements ih =>
    exact (spoils element).bind fun keep => ih.bind fun kept => spoils_pure _

theorem comes_sift (spoils : ∀ element, regime.Spoils (judge element))
    (comes : ∀ element ∈ elements, regime.Comes (judge element) (firsts element)) :
    regime.Comes (sift judge elements) (sift firsts elements) := by
  induction elements with
  | nil => exact comes_pure []
  | cons element elements ih =>
    rw [List.forall_mem_cons] at comes
    refine comes.1.bind (fun keep _ => (ih comes.2).bind (fun kept _ => comes_pure _) ?_) ?_
    · exact fun kept => spoils_pure _
    · exact fun keep => (spoils_sift spoils elements).bind fun kept => spoils_pure _

/-- To sift twice and go on comes to the same as to do so once by both judgements, or both fail. -/
theorem outcome_sift_sift (spoils : ∀ element, regime.Spoils (judge element))
    (spoilsOther : ∀ element, regime.Spoils (other element))
    (spoilsJoined : ∀ element, regime.Spoils (joined element))
    (first : ∀ element, regime.Comes (judge element) (firsts element))
    (second : ∀ element, regime.Comes (other element) (seconds element))
    {f : EvalError → EvalError}
    (both : ∀ element ∈ elements,
      regime.Comes (joined element) ((conjoin firsts seconds element).mapError f))
    (rest : ∀ kept, regime.Determined (next kept)) {registries : Registries}
    (kept : regime.kept registries) :
    let twice := outcome (sift judge elements >>= fun kept => sift other kept >>= next) registries
    let once := outcome (sift joined elements >>= next) registries
    ¬regime.spoiled twice.2 → ¬regime.spoiled once.2 →
      ∀ result, twice.1 = .ok result ↔ once.1 = .ok result := by
  intro twice once clean cleanOnce result
  choose ends comes using fun kept => (rest kept).comes
  have spoilsRest := fun kept => (rest kept).spoils
  have twiceComes : regime.Comes (sift judge elements >>= fun kept => sift other kept >>= next)
      (sift firsts elements >>= fun kept => sift seconds kept >>= ends) := by
    refine (comes_sift spoils fun element _ => first element).bind (fun kept _ => ?_) fun kept => ?_
    · exact (comes_sift spoilsOther fun element _ => second element).bind (fun kept _ => comes kept)
        spoilsRest
    · exact (spoils_sift spoilsOther kept).bind spoilsRest
  have onceComes : regime.Comes (sift joined elements >>= next)
      ((sift (conjoin firsts seconds) elements).mapError f >>= ends) := by
    rw [← sift_mapError]
    exact (comes_sift spoilsJoined both).bind (fun kept _ => comes kept) spoilsRest
  have same : ∀ kept, (sift (conjoin firsts seconds) elements).mapError f = .ok kept ↔
      sift (conjoin firsts seconds) elements = .ok kept := by
    intro kept
    cases sift (conjoin firsts seconds) elements <;> simp [Except.mapError]
  rw [((twiceComes registries kept).resolve_left clean).1,
    ((onceComes registries kept).resolve_left cleanOnce).1, ← bind_assoc, Tiers.bind_eq_ok,
    Tiers.bind_eq_ok]
  simp only [sift_sift, same]

end Regime

end PathQuery
