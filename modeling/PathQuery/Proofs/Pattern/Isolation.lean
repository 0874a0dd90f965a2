import Mathlib.Data.List.Basic
import PathQuery.Proofs.Pattern.Context

/-!
Patterns on a word that stands in a text and on the word by itself. What stands beside the word
makes a difference only where a word goes on from one to the other. Main statements: `fronted_oneOrMore`,
`spans_bounded`.
-/

namespace PathQuery

/-- Whether no word goes on from one character to the next. -/
def Parted (beside next : Option Char) : Prop :=
  ¬(beside.any Text.isWordChar = true ∧ next.any Text.isWordChar = true)

section Parted

variable {beside next : Option Char}

theorem parted_of_boundary (boundary : Text.isBoundary beside next = true) :
    Parted beside next := by
  rintro ⟨left, right⟩
  simp [Text.isBoundary, left, right] at boundary

theorem boundary_iff_of_next (inside : next.any Text.isWordChar = true) :
    Text.isBoundary beside next = true ↔ Parted beside next := by
  simp [Text.isBoundary, Parted, inside]

theorem boundary_iff_of_beside (inside : beside.any Text.isWordChar = true) :
    Text.isBoundary beside next = true ↔ Parted beside next := by
  simp [Text.isBoundary, Parted, inside]

theorem parted_of_neutral (neutral : Neutral next) : Parted beside next := by
  rintro ⟨-, inside⟩
  rw [show next.any Text.isWordChar = false from neutral] at inside
  cases inside

theorem parted_none (next : Option Char) : Parted none next := by
  simp [Parted]

theorem parted_some {c : Char} (other : Text.isWordChar c = false) (next : Option Char) :
    Parted (some c) next := by
  simp [Parted, other]

end Parted

namespace Pattern

variable {pattern first second body preferred other : Pattern} {before : Option Char}
  {word rest : List Char}

/-- Whether a pattern has no conditions. -/
structure Plain (pattern : Pattern) : Prop where
  loose : pattern.loose = pattern

theorem Plain.elsewhere (plain : pattern.Plain) {beside : Option Char} {more : List Char}
    (spans : pattern.Spans before word rest) : pattern.Spans beside word more := by
  rw [← plain.loose]
  exact loose_of_spans spans

theorem ne_nil_of_solid (solid : pattern.nullable = false)
    (spans : pattern.Spans before word rest) : word ≠ [] := by
  rintro rfl
  rw [nullable_of_spans spans] at solid
  cases solid

theorem spans_concat_cons {patterns : List Pattern} :
    (concat (pattern :: patterns)).Spans before word rest ↔
      ∃ front back, word = front ++ back ∧ pattern.Spans before front (back ++ rest) ∧
        (concat patterns).Spans (front.getLast?.or before) back rest := by
  cases patterns with
  | nil =>
    constructor
    · exact fun spans => ⟨word, [], by simp, spans, rfl⟩
    · rintro ⟨front, _, rfl, spans, rfl⟩
      rwa [List.append_nil]
  | cons => exact Iff.rfl

/-- Whether what stands before a word matters to a pattern only when it goes on into the word, and
what stands behind the word does not matter. -/
structure Fronted (pattern : Pattern) : Prop where
  spans_iff : ∀ {before word rest}, pattern.Spans before word rest ↔
    pattern.Spans none word [] ∧ Parted before word.head?

namespace Fronted

theorem elsewhere (fronted : pattern.Fronted) {beside : Option Char} {more : List Char}
    (spans : pattern.Spans before word rest) (parted : Parted beside word.head?) :
    pattern.Spans beside word more :=
  fronted.spans_iff.mpr ⟨(fronted.spans_iff.mp spans).1, parted⟩

theorem parted (fronted : pattern.Fronted) (spans : pattern.Spans before word rest) :
    Parted before word.head? :=
  (fronted.spans_iff.mp spans).2

theorem repeated (fronted : body.Fronted) {more : List Char}
    (repeated : (many body).Spans before word rest) : (many body).Spans before word more := by
  rw [Spans] at repeated ⊢
  induction repeated with
  | done => exact .done
  | more first _ others => exact .more (fronted.elsewhere first (fronted.parted first)) others

end Fronted

/-- It suffices to know how the pattern gets to a word from elsewhere. -/
theorem fronted_of_elsewhere
    (parted : ∀ {before word rest}, pattern.Spans before word rest → Parted before word.head?)
    (elsewhere : ∀ {before word rest beside more}, pattern.Spans before word rest →
      Parted beside word.head? → pattern.Spans beside word more) : pattern.Fronted := by
  refine ⟨fun {before word rest} => ⟨fun spans => ⟨?_, parted spans⟩, fun ⟨spans, here⟩ => ?_⟩⟩
  · exact elsewhere spans (parted_none _)
  · exact elsewhere spans here

theorem fronted_of_plain (plain : pattern.Plain) (solid : pattern.nullable = false)
    (apart : ∀ c, pattern.begins c = true → Text.isWordChar c = false) : pattern.Fronted := by
  refine fronted_of_elsewhere (fun spans => parted_of_neutral ?_) fun spans _ => plain.elsewhere spans
  obtain ⟨c, others, rfl⟩ := List.exists_cons_of_ne_nil (ne_nil_of_solid solid spans)
  exact apart c (begins_of_spans spans)

theorem fronted_exactly {c : Char} (other : Text.isWordChar c = false) : (exactly c).Fronted := by
  refine fronted_of_plain ⟨rfl⟩ rfl fun d same => ?_
  rwa [eq_of_beq (show (d == c) = true from same)]

theorem fronted_boundary (plain : body.Plain) (solid : body.nullable = false)
    (inside : ∀ c, body.begins c = true → Text.isWordChar c = true) :
    (seq boundary body).Fronted := by
  refine fronted_of_elsewhere ?_ ?_
  · rintro before word rest ⟨_, _, rfl, ⟨rfl, boundary⟩, spans⟩
    obtain ⟨c, others, rfl⟩ := List.exists_cons_of_ne_nil (ne_nil_of_solid solid spans)
    exact parted_of_boundary boundary
  · rintro before word rest beside more ⟨_, _, rfl, ⟨rfl, -⟩, spans⟩ parted
    obtain ⟨c, others, rfl⟩ := List.exists_cons_of_ne_nil (ne_nil_of_solid solid spans)
    have letter : (some c).any Text.isWordChar = true := inside c (begins_of_spans spans)
    exact ⟨[], _, rfl, ⟨rfl, (boundary_iff_of_next letter).mpr parted⟩, plain.elsewhere spans⟩

theorem fronted_either (left : preferred.Fronted) (right : other.Fronted) :
    (either preferred other).Fronted := by
  refine ⟨fun {before word rest} => ?_⟩
  rw [Spans, Spans, left.spans_iff, right.spans_iff, ← or_and_right]

theorem fronted_seq (fronted : first.Fronted) (solid : first.nullable = false)
    (plain : second.Plain) : (seq first second).Fronted := by
  refine fronted_of_elsewhere ?_ ?_
  · rintro before word rest ⟨front, back, rfl, spans, -⟩
    rw [List.head?_append_of_ne_nil _ (ne_nil_of_solid solid spans)]
    exact fronted.parted spans
  · rintro before word rest beside more ⟨front, back, rfl, spans, behind⟩ parted
    rw [List.head?_append_of_ne_nil _ (ne_nil_of_solid solid spans)] at parted
    exact ⟨front, back, rfl, fronted.elsewhere spans parted, plain.elsewhere behind⟩

/-- A sign before a word parts it from what stands before the sign. -/
theorem fronted_optional {c : Char} (apart : Text.isWordChar c = false) (fronted : body.Fronted) :
    (seq (optional (exactly c)) body).Fronted := by
  refine fronted_of_elsewhere ?_ ?_
  · rintro before word rest ⟨_, back, rfl, sign | rfl, spans⟩
    · rw [spans_exactly.mp sign]
      exact parted_of_neutral apart
    · exact fronted.parted spans
  · rintro before word rest beside more ⟨_, back, rfl, sign | rfl, spans⟩ parted
    · obtain rfl := spans_exactly.mp sign
      exact ⟨[c], back, rfl, .inl sign, fronted.elsewhere spans (parted_some apart _)⟩
    · exact ⟨[], back, rfl, .inr rfl, fronted.elsewhere spans parted⟩

theorem fronted_oneOrMore (fronted : body.Fronted) (solid : body.nullable = false) :
    (oneOrMore body).Fronted := by
  refine fronted_of_elsewhere ?_ ?_
  · rintro before word rest ⟨front, back, rfl, spans, -⟩
    rw [List.head?_append_of_ne_nil _ (ne_nil_of_solid solid spans)]
    exact fronted.parted spans
  · rintro before word rest beside more ⟨front, back, rfl, spans, repeated⟩ parted
    -- the others stand behind the first wherever that stands
    have nonempty := ne_nil_of_solid solid spans
    rw [List.head?_append_of_ne_nil _ nonempty] at parted
    refine ⟨front, back, rfl, fronted.elsewhere spans parted, ?_⟩
    rw [List.getLast?_eq_some_getLast nonempty] at repeated ⊢
    exact fronted.repeated repeated

theorem plain_concat {patterns : List Pattern} (plain : ∀ pattern ∈ patterns, pattern.Plain) :
    (concat patterns).Plain := by
  fun_induction concat patterns with
  | case1 => exact ⟨rfl⟩
  | case2 pattern => exact plain pattern (by simp)
  | case3 pattern patterns _ ih =>
    obtain ⟨first, others⟩ := List.forall_mem_cons.mp plain
    exact ⟨congrArg₂ seq first.loose (ih others).loose⟩

theorem plain_concat_map {single : Char → Pattern} (plain : ∀ c, (single c).Plain)
    (cs : List Char) : (concat (cs.map single)).Plain := by
  refine plain_concat fun pattern member => ?_
  obtain ⟨c, -, rfl⟩ := List.mem_map.mp member
  exact plain c

theorem plain_text (cs : String) : (text cs).Plain :=
  plain_concat_map (fun _ => ⟨rfl⟩) cs.toList

theorem spans_concat_boundary {inner : List Pattern} (plain : ∀ pattern ∈ inner, pattern.Plain) :
    (concat (inner ++ [boundary])).Spans before word rest ↔
      (concat inner).Spans none word [] ∧
        Text.isBoundary (word.getLast?.or before) rest.head? = true := by
  induction inner generalizing before word with
  | nil =>
    refine and_congr_right ?_
    rintro rfl
    rfl
  | cons pattern inner ih =>
    obtain ⟨here, others⟩ := List.forall_mem_cons.mp plain
    have remaining := plain_concat others
    rw [List.cons_append, spans_concat_cons, spans_concat_cons]
    constructor
    · rintro ⟨front, back, rfl, spans, more⟩
      obtain ⟨spansBack, boundary⟩ := (ih others).mp more
      rw [← Option.or_assoc, ← List.getLast?_append] at boundary
      exact ⟨⟨front, back, rfl, here.elsewhere spans,
        remaining.elsewhere spansBack⟩, boundary⟩
    · rintro ⟨⟨front, back, rfl, spans, more⟩, boundary⟩
      rw [List.getLast?_append, Option.or_assoc] at boundary
      exact ⟨front, back, rfl, here.elsewhere spans,
        (ih others).mpr ⟨remaining.elsewhere more, boundary⟩⟩

/-- A pattern between two boundaries spans a word where boundaries are beside it. -/
theorem spans_bounded {inner : List Pattern} (plain : ∀ pattern ∈ inner, pattern.Plain)
    (nonempty : word ≠ []) :
    (concat (boundary :: (inner ++ [boundary]))).Spans before word rest ↔
      (concat inner).Spans none word [] ∧ Text.isBoundary before word.head? = true ∧
        Text.isBoundary word.getLast? rest.head? = true := by
  obtain ⟨c, others, rfl⟩ := List.exists_cons_of_ne_nil nonempty
  rw [spans_concat_cons]
  constructor
  · rintro ⟨_, _, whole, ⟨rfl, front⟩, spans⟩
    obtain rfl : c :: others = _ := whole
    obtain ⟨spans, behind⟩ := (spans_concat_boundary plain).mp spans
    exact ⟨spans, front, by simpa [List.getLast?_cons] using behind⟩
  · rintro ⟨spans, front, behind⟩
    refine ⟨[], _, rfl, ⟨rfl, front⟩, (spans_concat_boundary plain).mpr ⟨spans, ?_⟩⟩
    simpa [List.getLast?_cons] using behind

end Pattern

end PathQuery
