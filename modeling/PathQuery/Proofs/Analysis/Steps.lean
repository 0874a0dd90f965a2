import PathQuery.Proofs.Analysis.Equations

/-!
The reading of a range step by step. The parts before the range have nothing to do with it: a
reading takes from them only what it has put there itself.
-/

namespace PathQuery.Analysis

open Tiers (folded)

namespace Reading

/-- The reading with other parts before all that it has read. -/
def onto (context : List Part) (reading : Reading) : Reading :=
  { reading with before := reading.before ++ context }

/-- A reading that has analyzed something has read something. -/
def Anchored (reading : Reading) : Prop :=
  reading.view = [] → reading.last = none

/-- The first part read is no operator that would take something before it. -/
def Unled (reading : Reading) : Prop :=
  ∀ part ∈ reading.view.getLast?, part.kind.takesLeft = false

variable {reading : Reading} {context : List Part}

theorem keep_onto (reading : Reading) (context : List Part) (part : Part) :
    (reading.onto context).keep part = (reading.keep part).onto context := rfl

theorem put_onto (reading : Reading) (context : List Part) (part : Part) (bounded : Bool)
    (last : Option Expression) :
    { (reading.onto context).put part bounded with last := last } =
      onto context { reading.put part bounded with last := last } := by
  unfold put onto
  dsimp only
  split <;> rfl

theorem displaced_onto (reading : Reading) (context : List Part) :
    (reading.onto context).displaced = reading.displaced.onto context := rfl

theorem takeCall_onto (anchored : reading.Anchored) :
    (reading.onto context).takeCall =
      (reading.takeCall.1, reading.takeCall.2.onto context) := by
  obtain ⟨before, seen, fresh, last⟩ := reading
  cases seen with
  | cons recent seen =>
    cases last with
    | none => rfl
    | some value => cases value <;> cases recent <;> rfl
  | nil =>
    cases before with
    | nil =>
      obtain rfl : last = none := anchored rfl
      rfl
    | cons recent before =>
      cases last with
      | none => rfl
      | some value => cases value <;> cases recent <;> rfl

end Reading

/-- Reads the next atom or token of a range. -/
def advance (reading : Reading) (part : Part) (rest : List Part) :
    Except ParseError (Reading × List Part) :=
  if part.kind = .scopeStart then do
    let (child, left) ← answer (inner rest)
    return ({ reading.put (.ofAnalysis child) true with last := child },
      left.drop (1 + child.toList.length))
  else if part.kind = .method then do
    let (call, chained, left) ← answer (calls (targetOf part) rest)
    let start := if chained then reading.displaced else reading
    return ({ start.put (folded call) (!left.isEmpty) with last := some call }, left)
  else if part.kind = .indexStart then do
    let (elements, left) ←
      answer (listed .indexStop .emptyElement (.unclosedIndexes 1) (part :: rest))
    let list := listOf elements
    return ({ reading.put (folded list) (!left.isEmpty) with last := some list }, left)
  else if part.kind = .path then do
    let (segments, left) ← answer (path (reading.takeCall.1 ++ pathNames part.render) rest)
    let remaining := reading.takeCall.2
    if opensScope left then
      let (call, _, after) ← answer (calls (.expression (.path segments)) left)
      return ({ remaining.displaced.put (folded call) (!after.isEmpty) with last := some call },
        after)
    else
      return ({ remaining.put (folded (.path segments)) (!left.isEmpty) with
        last := some (.path segments) }, left)
  else return (reading.keep part, rest)

variable {reading now : Reading} {part : Part} {rest middle : List Part}

theorem read_cons (inRange : part.kind.closesRange = false) :
    answer (read reading (part :: rest)) = (do
      let (now, middle) ← advance reading part rest
      answer (read now middle)) := by
  unfold advance
  split
  · rename_i opens
    rw [read_scope opens]
    cases answer (inner rest) <;> rfl
  split
  · rename_i method
    rw [read_method method]
    cases answer (calls (targetOf part) rest) <;> rfl
  split
  · rename_i opens
    rw [read_index opens]
    cases answer (listed .indexStop .emptyElement (.unclosedIndexes 1) (part :: rest)) <;> rfl
  split
  · rename_i name
    rw [read_path name]
    unfold readPath
    cases answer (path (reading.takeCall.1 ++ pathNames part.render) rest) with
    | error => rfl
    | ok found =>
      obtain ⟨segments, left⟩ := found
      dsimp only [bind, Except.bind]
      split
      · unfold readCall
        cases answer (calls (.expression (.path segments)) left) <;> rfl
      · rfl
  · rename_i scope method index name
    have other : part.kind.isStructural = false := by
      revert inRange scope method index name
      cases part.kind <;> simp [TokenKind.closesRange, TokenKind.isStructural]
    rw [read_keep other]
    rfl

theorem length_advance_le (advanced : advance reading part rest = .ok (now, middle)) :
    middle.length ≤ rest.length := by
  unfold advance at advanced
  split at advanced
  · obtain ⟨⟨child, left⟩, found, advanced⟩ := Tiers.bind_eq_ok.mp advanced
    cases advanced
    have bound := known_of_answer found
    dsimp only at bound
    simp only [List.length_drop]
    omega
  split at advanced
  · obtain ⟨⟨call, chained, left⟩, found, advanced⟩ := Tiers.bind_eq_ok.mp advanced
    cases advanced
    have bound := known_of_answer found
    dsimp only at bound
    omega
  split at advanced
  · obtain ⟨⟨elements, left⟩, found, advanced⟩ := Tiers.bind_eq_ok.mp advanced
    cases advanced
    have bound := known_of_answer found
    simp only [List.length_cons] at bound
    omega
  split at advanced
  · obtain ⟨⟨segments, left⟩, found, advanced⟩ := Tiers.bind_eq_ok.mp advanced
    have bound := known_of_answer found
    dsimp only at bound advanced
    split at advanced
    · obtain ⟨⟨call, _, after⟩, called, advanced⟩ := Tiers.bind_eq_ok.mp advanced
      cases advanced
      have still := known_of_answer called
      dsimp only at still ⊢
      omega
    · cases advanced
      exact bound
  · cases advanced
    exact Nat.le_refl _

/-- What one step adds to a reading, which may have given up a call at its end. -/
theorem view_advance (advanced : advance reading part rest = .ok (now, middle)) :
    (∃ value, now.view = .ofAnalysis value :: reading.view ∨
      now.view = .ofAnalysis value :: reading.takeCall.2.view) ∨
        now.view = part :: reading.view := by
  unfold advance at advanced
  split at advanced
  · obtain ⟨⟨child, left⟩, -, advanced⟩ := Tiers.bind_eq_ok.mp advanced
    cases advanced
    exact .inl ⟨child, .inl (Reading.view_put ..)⟩
  split at advanced
  · obtain ⟨⟨call, chained, left⟩, -, advanced⟩ := Tiers.bind_eq_ok.mp advanced
    cases advanced
    refine .inl ⟨some call, .inl ?_⟩
    rw [Reading.view_put]
    split <;> rfl
  split at advanced
  · obtain ⟨⟨elements, left⟩, -, advanced⟩ := Tiers.bind_eq_ok.mp advanced
    cases advanced
    exact .inl ⟨some (listOf elements), .inl (Reading.view_put ..)⟩
  split at advanced
  · obtain ⟨⟨segments, left⟩, -, advanced⟩ := Tiers.bind_eq_ok.mp advanced
    dsimp only at advanced
    split at advanced
    · obtain ⟨⟨call, _, after⟩, -, advanced⟩ := Tiers.bind_eq_ok.mp advanced
      cases advanced
      exact .inl ⟨some call, .inr (Reading.view_put ..)⟩
    · cases advanced
      exact .inl ⟨some (.path segments), .inr (Reading.view_put ..)⟩
  · cases advanced
    exact .inr rfl

theorem advance_onto (context : List Part) (anchored : reading.Anchored) :
    advance (reading.onto context) part rest =
      (advance reading part rest).map fun result => (result.1.onto context, result.2) := by
  unfold advance
  split
  · cases answer (inner rest) with
    | error => rfl
    | ok found =>
      simp only [bind, Except.bind, pure, Except.pure, Except.map, Reading.put_onto]
  split
  · cases answer (calls (targetOf part) rest) with
    | error => rfl
    | ok found =>
      obtain ⟨call, chained, left⟩ := found
      cases chained <;>
        simp only [bind, Except.bind, pure, Except.pure, Except.map, Reading.put_onto,
          Reading.displaced_onto, if_true, if_false, Bool.false_eq_true]
  split
  · cases answer (listed .indexStop .emptyElement (.unclosedIndexes 1) (part :: rest)) with
    | error => rfl
    | ok found =>
      simp only [bind, Except.bind, pure, Except.pure, Except.map, Reading.put_onto]
  split
  · rw [Reading.takeCall_onto anchored]
    cases answer (path (reading.takeCall.1 ++ pathNames part.render) rest) with
    | error => rfl
    | ok found =>
      obtain ⟨segments, left⟩ := found
      dsimp only [bind, Except.bind]
      split
      · cases answer (calls (.expression (.path segments)) left) with
        | error => rfl
        | ok found =>
          simp only [pure, Except.pure, Except.map, Reading.put_onto, Reading.displaced_onto]
      · simp only [pure, Except.pure, Except.map, Reading.put_onto]
  · simp only [pure, Except.pure, Except.map, Reading.keep_onto]

theorem Reading.anchored_of_advance (advanced : advance reading part rest = .ok (now, middle)) :
    now.Anchored := by
  intro unread
  rcases view_advance advanced with ⟨value, same | same⟩ | same <;>
  · rw [unread] at same
    cases same

theorem Reading.takeCall_suffix (reading : Reading) :
    reading.takeCall.2.view <:+ reading.view := by
  unfold takeCall
  split
  · rename_i kind call seen _ split
    rw [view, view, split]
    exact List.suffix_cons (.expression kind call) (seen ++ reading.before)
  · rename_i kind call before _ seen split
    rw [view, view, seen, split]
    exact List.suffix_cons (.expression kind call) before
  · exact List.suffix_refl _

theorem Reading.Unled.of_suffix (unled : reading.Unled) {value : Option Expression}
    {items : List Part} (suffix : items <:+ reading.view)
    (view_eq : now.view = .ofAnalysis value :: items) : now.Unled := by
  intro part first
  obtain ⟨front, split⟩ := suffix
  rw [view_eq, List.getLast?_cons] at first
  cases last : items.getLast? with
  | none =>
    rw [last] at first
    obtain rfl := Option.some.inj first
    cases value <;> rfl
  | some found =>
    rw [last] at first
    obtain rfl := Option.some.inj first
    refine unled found ?_
    rw [← split, List.getLast?_append, last]
    rfl

theorem Reading.unled_of_advance (advanced : advance reading part rest = .ok (now, middle))
    (unled : reading.Unled) (first : reading.view = [] → part.kind.takesLeft = false) :
    now.Unled := by
  rcases view_advance advanced with ⟨value, same | same⟩ | same
  · exact unled.of_suffix (List.suffix_refl _) same
  · exact unled.of_suffix reading.takeCall_suffix same
  · intro last present
    rw [same, List.getLast?_cons] at present
    cases earlier : reading.view.getLast? with
    | none =>
      rw [earlier] at present
      obtain rfl := Option.some.inj present
      exact first (by simpa using earlier)
    | some found =>
      rw [earlier] at present
      obtain rfl := Option.some.inj present
      exact unled found earlier

theorem read_onto (context : List Part) : ∀ (parts : List Part) (reading : Reading),
    reading.Anchored → answer (read (reading.onto context) parts) =
      (answer (read reading parts)).map fun result => (result.1.onto context, result.2)
  | [], reading, anchored => by
    rw [read_nil, read_nil]
    rfl
  | part :: rest, reading, anchored => by
    cases inRange : part.kind.closesRange with
    | true =>
      rw [read_closes inRange, read_closes inRange]
      rfl
    | false =>
      rw [read_cons inRange, read_cons inRange, advance_onto context anchored]
      cases advanced : advance reading part rest with
      | error => rfl
      | ok found =>
        obtain ⟨now, middle⟩ := found
        have shorter := length_advance_le advanced
        exact read_onto context middle now (Reading.anchored_of_advance advanced)
termination_by parts => parts.length

theorem unled_of_read {parts left : List Part} {next : Reading}
    (found : answer (read reading parts) = .ok (next, left)) (unled : reading.Unled)
    (first : reading.view = [] → ∀ part ∈ parts.head?, part.kind.takesLeft = false) :
    next.Unled := by
  induction length : parts.length using Nat.strong_induction_on generalizing parts reading with
  | _ length ih =>
    cases parts with
    | nil =>
      rw [read_nil] at found
      cases found
      exact unled
    | cons part rest =>
      cases inRange : part.kind.closesRange with
      | true =>
        rw [read_closes inRange] at found
        cases found
        exact unled
      | false =>
        rw [read_cons inRange] at found
        obtain ⟨⟨now, middle⟩, advanced, found⟩ := Tiers.bind_eq_ok.mp found
        have shorter := length_advance_le advanced
        simp only [List.length_cons] at length
        refine ih middle.length (by omega) found
          (Reading.unled_of_advance advanced unled fun unread => first unread part rfl) ?_ rfl
        intro unread
        rcases view_advance advanced with ⟨value, same | same⟩ | same <;>
        · rw [unread] at same
          cases same

end PathQuery.Analysis
