import Mathlib.Data.List.Forall2
import PathQuery.Proofs.Reach

/-!
Values that differ in the kinds of their lists only, and what they are put together to. Main
statement: `Reach.Lazier.alike_iff`, the values of what was reached are alike exactly if as many
elements came to a sequence.
-/

namespace PathQuery

namespace Value

/-- Whether two values are the same but for the kinds of lists in them, which may be a pair of the
given ones in each place. -/
inductive Congruent (kinds : ValueType → ValueType → Prop) : Value → Value → Prop
  | plain {value : Value} : value.elements? = none → (∀ fields, value ≠ .object fields) →
      Congruent kinds value value
  | list {value other : Value} {elements others : List Value} :
      value.elements? = some elements → other.elements? = some others →
      kinds value.type other.type → List.Forall₂ (Congruent kinds) elements others →
      Congruent kinds value other
  | object {fields others : List (String × Value)} :
      fields.map Prod.fst = others.map Prod.fst →
      List.Forall₂ (Congruent kinds) (fields.map Prod.snd) (others.map Prod.snd) →
      Congruent kinds (.object fields) (.object others)

/-- Whether two values are equal when an array and a sequence of equal elements count as equal. -/
def Alike : Value → Value → Prop :=
  Congruent fun _ _ => True

/-- Whether a value is another with sequences of the same elements in the place of some arrays. -/
def Lazier : Value → Value → Prop :=
  Congruent fun kind other => kind = other ∨ kind = .array ∧ other = .sequence

theorem isList_eq_isSome (value : Value) : value.isList = value.elements?.isSome := by
  cases value <;> rfl

theorem isNull_of_elements {value : Value} {elements : List Value}
    (isList : value.elements? = some elements) : value.isNull = false := by
  cases value <;> first | rfl | cases isList

mutual

/-- The number of values in nested lists, apart from those in fields. -/
def size : Value → Nat
  | array elements | sequence _ elements => sizes elements + 1
  | _ => 1

def sizes : List Value → Nat
  | [] => 0
  | value :: values => size value + sizes values

end

theorem size_of_elements {value : Value} {elements : List Value}
    (isList : value.elements? = some elements) : value.size = sizes elements + 1 := by
  cases value <;> cases isList <;> rw [size]

theorem sizes_append (front behind : List Value) :
    sizes (front ++ behind) = sizes front + sizes behind := by
  induction front with
  | nil => rw [List.nil_append, sizes, Nat.zero_add]
  | cons value front ih => rw [List.cons_append, sizes, sizes, ih, Nat.add_assoc]

theorem sizes_eq {values others : List Value}
    (same : List.Forall₂ (fun value other => value.size = other.size) values others) :
    sizes values = sizes others := by
  induction same with
  | nil => rfl
  | cons first _ ih => rw [sizes, sizes, first, ih]

namespace Congruent

variable {kinds allowed : ValueType → ValueType → Prop} {value other : Value}

/-- Congruence by its cases, with a hypothesis for what lists and objects hold. -/
@[elab_as_elim]
theorem induct {P : Value → Value → Prop}
    (plain : ∀ {value : Value}, value.elements? = none → (∀ fields, value ≠ .object fields) →
      P value value)
    (list : ∀ {value other : Value} {elements others : List Value},
      value.elements? = some elements → other.elements? = some others →
      kinds value.type other.type → List.Forall₂ P elements others → P value other)
    (object : ∀ {fields others : List (String × Value)},
      fields.map Prod.fst = others.map Prod.fst →
      List.Forall₂ P (fields.map Prod.snd) (others.map Prod.snd) →
      P (.object fields) (.object others)) (congruent : Congruent kinds value other) :
    P value other := by
  refine @Congruent.rec kinds (fun value other _ => P value other)
    (fun elements others _ => List.Forall₂ P elements others) ?_ ?_ ?_ ?_ ?_ _ _ congruent
  · exact plain
  · exact fun isList isOther kind _ => list isList isOther kind
  · exact fun names _ => object names
  · exact .nil
  · exact fun _ _ => .cons

theorem mono (wider : ∀ {kind other}, kinds kind other → allowed kind other)
    (congruent : Congruent kinds value other) : Congruent allowed value other := by
  refine congruent.induct ?_ ?_ ?_
  · exact .plain
  · exact fun isList isOther kind elements => .list isList isOther (wider kind) elements
  · exact .object

mutual

theorem refl (same : ∀ kind, kinds kind kind) : ∀ value, Congruent kinds value value
  | .array elements => .list rfl rfl (same _) (refl_elements same elements)
  | .sequence _ elements => .list rfl rfl (same _) (refl_elements same elements)
  | .object fields => .object rfl (refl_fields same fields)
  | .null | .boolean _ | .integer _ | .long _ | .bigInteger _ | .float _ | .decimal _ | .string _
  | .date _ | .deferred .. | .function _ | .host _ => .plain rfl nofun

theorem refl_elements (same : ∀ kind, kinds kind kind) :
    ∀ elements, List.Forall₂ (Congruent kinds) elements elements
  | [] => .nil
  | element :: elements => .cons (refl same element) (refl_elements same elements)

theorem refl_fields (same : ∀ kind, kinds kind kind) : ∀ fields : List (String × Value),
    List.Forall₂ (Congruent kinds) (fields.map Prod.snd) (fields.map Prod.snd)
  | [] => .nil
  | (_, held) :: fields => .cons (refl same held) (refl_fields same fields)

end

theorem isNull_eq (congruent : Congruent kinds value other) : value.isNull = other.isNull := by
  cases congruent with
  | plain => rfl
  | list isList isOther => rw [isNull_of_elements isList, isNull_of_elements isOther]
  | object => rfl

theorem isList_eq (congruent : Congruent kinds value other) : value.isList = other.isList := by
  cases congruent with
  | plain => rfl
  | list isList isOther => rw [isList_eq_isSome, isList_eq_isSome, isList, isOther]; rfl
  | object => rfl

theorem size_eq (congruent : Congruent kinds value other) : value.size = other.size := by
  refine congruent.induct ?_ ?_ ?_
  · intros
    rfl
  · intro value other elements others isList isOther _ same
    rw [size_of_elements isList, size_of_elements isOther, sizes_eq same]
  · intros
    rfl

end Congruent

theorem Lazier.refl (value : Value) : Lazier value value :=
  Congruent.refl (fun _ => .inl rfl) value

theorem Lazier.alike {value other : Value} (lazier : Lazier value other) : Alike value other :=
  lazier.mono fun _ => trivial

end Value

open Value Evaluation

theorem Evaluation.spliced_cons (value : Value) (values : List Value) :
    spliced (value :: values) = spliced [value] ++ spliced values := by
  simp [spliced]

namespace Reach

/-- Whether a value is a sequence, as a count. -/
def lazyCount : Value → Nat
  | .sequence .. => 1
  | _ => 0

theorem lazyCount_congr {value other : Value} (same : value.type = other.type) :
    lazyCount value = lazyCount other := by
  cases value <;> cases other <;> first | rfl | cases same

theorem lazyCount_of_array {value : Value} (array : value.type = .array) : lazyCount value = 0 := by
  cases value <;> first | rfl | cases array

mutual

/-- The number of elements that came to a sequence. -/
def sequences : Reach → Nat
  | .single _ => 0
  | .each reaches => sequencesAll reaches

def sequencesAll : List Reach → Nat
  | [] => 0
  | reach :: reaches => lazyCount reach.whole + reach.sequences + sequencesAll reaches

end

/-- Whether the same was reached with sequences in the place of some arrays. -/
inductive Lazier : Reach → Reach → Prop
  | single {value other : Value} : value.Lazier other → Lazier (.single value) (.single other)
  | each {reaches others : List Reach} : List.Forall₂ Lazier reaches others →
      Lazier (.each reaches) (.each others)

variable {reach other : Reach} {reaches others : List Reach}

@[elab_as_elim]
theorem Lazier.induct {P : Reach → Reach → Prop}
    (single : ∀ {value other : Value}, value.Lazier other → P (.single value) (.single other))
    (each : ∀ {reaches others : List Reach},
      List.Forall₂ (fun reach other => reach.Lazier other ∧ P reach other) reaches others →
      P (.each reaches) (.each others)) (lazier : Lazier reach other) : P reach other := by
  refine @Lazier.rec (fun reach other _ => P reach other)
    (fun reaches others _ =>
      List.Forall₂ (fun reach other => reach.Lazier other ∧ P reach other) reaches others)
    ?_ ?_ ?_ ?_ _ _ lazier
  · exact single
  · exact fun _ => each
  · exact .nil
  · exact fun lazier _ holds => .cons ⟨lazier, holds⟩

theorem Lazier.isList_whole (lazier : Lazier reach other) :
    reach.whole.isList = other.whole.isList := by
  cases lazier with
  | single lazier => exact lazier.isList_eq
  | each => rfl

theorem Lazier.lazyCount_le (lazier : Lazier reach other) :
    lazyCount reach.whole ≤ lazyCount other.whole := by
  cases lazier with
  | each => exact Nat.le_refl _
  | single lazier =>
    rw [whole, whole]
    cases lazier with
    | plain => exact Nat.le_refl _
    | object => exact Nat.le_refl _
    | list isList isOther kind =>
      rcases kind with same | ⟨array, sequence⟩
      · exact Nat.le_of_eq (lazyCount_congr same)
      · rw [lazyCount_of_array array]
        exact Nat.zero_le _

theorem sequencesAll_le
    (each : List.Forall₂ (fun reach other : Reach =>
      reach.Lazier other ∧ reach.sequences ≤ other.sequences) reaches others) :
    sequencesAll reaches ≤ sequencesAll others := by
  induction each with
  | nil => exact Nat.le_refl _
  | cons first _ ih =>
    have count := first.1.lazyCount_le
    have inside := first.2
    rw [sequencesAll, sequencesAll]
    omega

theorem Lazier.sequences_le (lazier : Lazier reach other) : reach.sequences ≤ other.sequences := by
  refine lazier.induct ?_ ?_
  · intros
    exact Nat.le_refl _
  · exact fun each => sequencesAll_le each

theorem size_spliced_single (value : Value) :
    sizes (spliced [value]) + (if value.isList then 1 else 0) =
      value.size + lazyCount value := by
  cases value with
  | array elements =>
    rw [@size_of_elements (.array elements) elements rfl]
    simp [spliced, isList, lazyCount]
  | sequence => simp [spliced, isList, lazyCount, sizes]
  | _ => simp [spliced, isList, lazyCount, size, sizes]

theorem Lazier.size_eq (lazier : Lazier reach other) :
    reach.whole.size + other.sequences = other.whole.size + reach.sequences := by
  refine lazier.induct ?_ ?_
  · intro value other lazier
    rw [whole, whole, sequences, sequences, lazier.size_eq]
  · intro reaches others each
    -- by the results, of which each array gives one value less than a sequence of its elements
    rw [whole, whole, sequences, sequences, size_of_elements rfl, size_of_elements rfl]
    induction each with
    | nil => rfl
    | @cons reach other reaches others first _ ih =>
      obtain ⟨lazier, balance⟩ := first
      have kind := lazier.isList_whole
      have left := size_spliced_single reach.whole
      have right := size_spliced_single other.whole
      rw [wholes, wholes, sequencesAll, sequencesAll, spliced_cons reach.whole,
        spliced_cons other.whole, sizes_append, sizes_append]
      rw [kind] at left
      omega

theorem alike_spliced_single {value other : Value} (alike : value.Alike other)
    (same : lazyCount value = lazyCount other) :
    List.Forall₂ Alike (spliced [value]) (spliced [other]) := by
  cases alike with
  | plain => exact Congruent.refl_elements (fun _ => trivial) _
  | object names held => exact .cons (.object names held) .nil
  | list isList isOther kind elements =>
    cases value <;> cases isList <;> cases other <;> cases isOther
    · simpa [spliced, Alike] using elements
    · cases same
    · cases same
    · exact .cons (.list rfl rfl kind elements) .nil

theorem alike_spliced
    (each : List.Forall₂ (fun reach other : Reach => reach.Lazier other ∧
      (reach.sequences = other.sequences → reach.whole.Alike other.whole)) reaches others)
    (same : sequencesAll reaches = sequencesAll others) :
    List.Forall₂ Alike (spliced (wholes reaches)) (spliced (wholes others)) := by
  induction each with
  | nil => exact .nil
  | cons first rest ih =>
    obtain ⟨lazier, alike⟩ := first
    have count := lazier.lazyCount_le
    have inside := lazier.sequences_le
    have behind := sequencesAll_le (rest.imp fun _ _ held => ⟨held.1, held.1.sequences_le⟩)
    rw [sequencesAll, sequencesAll] at same
    -- no count is greater than its counterpart, so equal sums have equal parts
    rw [wholes, wholes, spliced_cons, spliced_cons _ (wholes _)]
    exact List.rel_append (alike_spliced_single (alike (by omega)) (by omega)) (ih (by omega))

theorem Lazier.alike_of_sequences (lazier : Lazier reach other) :
    reach.sequences = other.sequences → reach.whole.Alike other.whole := by
  refine lazier.induct ?_ ?_
  · intro value other lazier _
    exact lazier.alike
  · intro reaches others each same
    exact .list rfl rfl trivial (alike_spliced each same)

/-- What is put together from what was reached is alike exactly if as many elements came to a
sequence. -/
theorem Lazier.alike_iff (lazier : Lazier reach other) :
    reach.whole.Alike other.whole ↔ reach.sequences = other.sequences := by
  constructor
  · -- values that are alike have the same size, so the counts of sequences balance
    intro alike
    have balance := lazier.size_eq
    have same := alike.size_eq
    omega
  · exact lazier.alike_of_sequences

end Reach

end PathQuery
