import PathQuery.Proofs.Grammar
import PathQuery.Proofs.Precedence.Folding

/-!
What has been read of a range. The parts count together, whether they have come to stand before
the range or in it; `Steady` is what the reading keeps to, so that a path finds the call before it
and the operators find their operands.
-/

namespace PathQuery

namespace Part

@[simp] theorem isOperand_ofAnalysis (analyzed : Option Expression) :
    (ofAnalysis analyzed).isOperand = true := by
  cases analyzed <;> rfl

@[simp] theorem value_ofAnalysis (analyzed : Option Expression) :
    (ofAnalysis analyzed).value? = analyzed := by
  cases analyzed <;> rfl

theorem isPlain_ofAnalysis (analyzed : Option Expression) :
    (ofAnalysis analyzed).isPlain = false := by
  cases analyzed <;> rfl

end Part

namespace Analysis

open Tiers (Range folded)

namespace Reading

/-- The parts read, the last of them first. -/
def view (reading : Reading) : List Part :=
  reading.seen ++ reading.before

/-- The range that a reading leaves to the operators. -/
def range (reading : Reading) : Range :=
  ⟨reading.before, reading.seen.reverse, reading.last⟩

/-- The reading of a new range. -/
def start : Reading :=
  ⟨[], [], true, none⟩

/-- Only what was analyzed has come to stand before the range. -/
def Led (reading : Reading) : Prop :=
  ∀ part ∈ reading.before, ∃ analyzed, part = .ofAnalysis analyzed

theorem Led.range {reading : Reading} (led : reading.Led) : reading.range.Led := by
  intro part member
  obtain ⟨analyzed, rfl⟩ := led part member
  exact Part.isOperand_ofAnalysis analyzed

/-- The last part read is plain or what was analyzed last. -/
structure Steady (reading : Reading) : Prop where
  led : reading.Led
  unread : reading.view = [] → reading.last = none
  recent : ∀ part ∈ reading.view.head?, part.isPlain = true ∨ part = .ofAnalysis reading.last

variable {reading : Reading} {part : Part}

@[simp] theorem whole_range (reading : Reading) : reading.range.whole = reading.view.reverse := by
  simp [range, Range.whole, view]

@[simp] theorem view_keep (reading : Reading) (part : Part) :
    (reading.keep part).view = part :: reading.view := rfl

@[simp] theorem view_put (reading : Reading) (part : Part) (bounded : Bool)
    (last : Option Expression) :
    view { reading.put part bounded with last } = part :: reading.view := by
  unfold put
  split
  · rename_i unseen
    have nothing : reading.seen = [] := by
      simp only [Bool.and_eq_true, List.isEmpty_iff] at unseen
      exact unseen.1
    simp [view, nothing]
  · rfl

theorem steady_start : Steady start :=
  ⟨by simp [Led, start], fun _ => rfl, by simp [start, view]⟩

theorem Steady.keep (steady : reading.Steady) (plain : part.isPlain = true) :
    (reading.keep part).Steady := by
  refine ⟨steady.led, by simp, ?_⟩
  intro last recent
  rw [view_keep] at recent
  obtain rfl := Option.some.inj recent
  exact .inl plain

theorem steady_put (led : reading.Led) (analyzed : Option Expression) (bounded : Bool) :
    Steady { reading.put (.ofAnalysis analyzed) bounded with last := analyzed } := by
  refine ⟨?_, by simp, ?_⟩
  · unfold put
    split
    · exact List.forall_mem_cons.mpr ⟨⟨analyzed, rfl⟩, led⟩
    · exact led
  · intro last recent
    rw [view_put] at recent
    obtain rfl := Option.some.inj recent
    exact .inr rfl

theorem Steady.takeCall_of_eq {target : Target} {arguments : List Expression} {items : List Part}
    (steady : reading.Steady)
    (view_eq : reading.view = .expression .expression (.call target arguments) :: items) :
    reading.takeCall.1 = [.expression (.call target arguments)] ∧
      reading.takeCall.2.view = items ∧ reading.takeCall.2.Led := by
  have last : reading.last = some (.call target arguments) := by
    have recent := steady.recent _ (by rw [view_eq]; rfl)
    rcases recent with plain | same
    · cases plain
    · cases found : reading.last with
      | none => rw [found] at same; cases same
      | some held => rw [found] at same; cases same; rfl
  have led := steady.led
  obtain ⟨before, seen, fresh, value⟩ := reading
  obtain rfl : value = some (.call target arguments) := last
  cases seen with
  | cons recent seen =>
    obtain ⟨rfl, rfl⟩ := List.cons.inj view_eq
    exact ⟨rfl, rfl, led⟩
  | nil =>
    obtain rfl : before = _ := view_eq
    exact ⟨rfl, rfl, (List.forall_mem_cons.mp led).2⟩

theorem Steady.takeCall_of_ne (steady : reading.Steady)
    (other : ∀ target arguments,
      reading.view.head? ≠ some (.expression .expression (.call target arguments))) :
    reading.takeCall = ([], reading) := by
  have differs : ∀ kind target arguments held, reading.last = some (.call target arguments) →
      reading.view.head? ≠ some (.expression kind held) := by
    intro kind target arguments held last recent
    rcases steady.recent _ recent with plain | same
    · cases plain
    · rw [last] at same
      rw [same] at recent
      exact other target arguments recent
  unfold takeCall
  split
  · rename_i found seen
    exact absurd (by rw [view, seen]; rfl) (differs _ _ _ _ found)
  · rename_i found seen before
    exact absurd (by rw [view, seen, before]; rfl) (differs _ _ _ _ found)
  · rfl

theorem takeCall_subset (reading : Reading) :
    reading.takeCall.2.before ⊆ reading.before ∧ reading.takeCall.2.view ⊆ reading.view := by
  unfold takeCall
  split
  · rename_i seen
    simp [view, seen]
  · rename_i seen before
    simp [view, seen, before]
  · simp

theorem takeCall_led (led : reading.Led) : reading.takeCall.2.Led :=
  fun part member => led part (reading.takeCall_subset.1 member)

end Reading

end Analysis

end PathQuery
