import PathQuery.Proofs.InPlace.Passes
import PathQuery.Proofs.WellFormed.Analysis

/-!
Brackets that are read in place: arguments, list literals and indexes, with a range between each
bracket and the next. Everything up to the closing bracket gives way to what stands behind it.
-/

namespace PathQuery

namespace Analysis

variable {parts left rest : List Part}

/-- What closes a range was there before, with all after it. -/
theorem Trails.suffix_of_closing {operand closing : Part} (trails : Trails parts left)
    (split : left = operand :: closing :: rest) (closes : closing.kind.closesRange = true) :
    closing :: rest <:+ parts := by
  obtain ⟨operands, behind, rfl, proper, stops, suffix⟩ := trails
  rcases operands with _ | ⟨_, _ | ⟨second, others⟩⟩
  · rw [List.nil_append] at split
    rw [split] at suffix
    exact suffix_of_cons suffix
  · obtain ⟨-, rfl⟩ := List.cons.inj split
    exact suffix
  · obtain ⟨-, same⟩ := List.cons.inj split
    obtain ⟨rfl, -⟩ := List.cons.inj same
    have operand := (proper second (by simp)).1
    rw [Part.closesRange_of_isOperand operand] at closes
    cases closes

/-- Reads an index up to its closing bracket. -/
def indexed (segments : List Segment) (parts : List Part) :
    Except ParseError (Expression × List Part) := do
  let (value, left) ← answer (inner parts)
  match value, left with
  | none, _ => throw (.emptyIndex (Segment.pathText true segments))
  | some index, _ :: closer :: after =>
      if closer.kind == .indexStop then return (index, after)
      else throw (.danglingToken closer.render)
  | some _, _ => throw (.missingIndexEnd (Segment.pathText true segments))

theorem path_eq_indexed {segments : List Segment} {part : Part} (opens : part.kind = .indexStart) :
    answer (path segments (part :: rest)) = (do
      let (index, left) ← indexed segments rest
      answer (path (segments ++ [.expression index]) left)) := by
  rw [path_index opens, indexed]
  cases answer (inner rest) with
  | error => rfl
  | ok found =>
    obtain ⟨value, left⟩ := found
    cases value with
    | none => rfl
    | some index =>
      rcases left with _ | ⟨_, _ | ⟨closer, after⟩⟩
      · rfl
      · rfl
      · show (if closer.kind == .indexStop then _ else _ : Except ParseError _) =
          (if closer.kind == .indexStop then _ else _ : Except ParseError _) >>= _
        split <;> rfl

theorem suffix_of_inner {value : Option Expression} (tokens : Tokens parts)
    (found : answer (inner parts) = .ok (value, left)) : Trails parts left :=
  (keeps_all (parts.length + 1) parts value left (Nat.lt_succ_self _) tokens found).2

theorem suffix_of_indexed {segments : List Segment} {index : Expression} (tokens : Tokens parts)
    (found : indexed segments parts = .ok (index, left)) : left <:+ parts := by
  obtain ⟨⟨value, inside⟩, analyzed, found⟩ := Tiers.bind_eq_ok.mp found
  have trails := suffix_of_inner tokens analyzed
  dsimp only at found
  split at found
  · cases found
  · split at found
    · rename_i closes
      cases found
      exact trails.suffix_of_closes rfl (by rw [eq_of_beq closes]; rfl)
    · cases found
  · cases found

theorem suffix_of_path {segments names : List Segment} (tokens : Tokens parts)
    (found : answer (path segments parts) = .ok (names, left)) : left <:+ parts := by
  induction length : parts.length using Nat.strong_induction_on generalizing parts segments with
  | _ length ih =>
    rcases path_cases found with ⟨rfl, rfl⟩ | ⟨part, rest, rfl, -, more⟩ |
      ⟨part, rest, index, operand, closing, after, rfl, -, analyzed, closes, more⟩
    · exact List.suffix_refl _
    · simp only [List.length_cons] at length
      have later := tokens.of_suffix (List.suffix_cons part rest)
      exact (ih rest.length (by omega) later more rfl).trans (List.suffix_cons part rest)
    · simp only [List.length_cons] at length
      have later := tokens.of_suffix (List.suffix_cons part rest)
      have suffix := (suffix_of_inner later analyzed).suffix_of_closes rfl (by rw [closes]; rfl)
      have shorter := suffix.length_le
      exact ((ih after.length (by omega) (later.of_suffix suffix) more rfl).trans suffix).trans
        (List.suffix_cons part rest)

theorem inner_nil : answer (inner []) = .ok (none, []) := by
  rw [inner_eq, read_nil]
  rfl

/-- An opening bracket at the very end has no closer, nor anything listed behind it. -/
theorem listed_single {closer : TokenKind} {emptyError missingError : ParseError} {part : Part} :
    answer (listed closer emptyError missingError [part]) =
      answer (items closer emptyError missingError []) := by
  rw [listed, items_eq, inner_nil]
  rfl

end Analysis

namespace InPlace

open Analysis (Tokens answer)

/-- What reading a range behind an opening token does: the token stays, with what is left of the
range behind it. -/
def Inside (memory : Memory) (earlier : List Entry) (opening : Entry) (rest : List Entry)
    (expected : Option Expression × List Part) (found : Option Shared) (after : Memory) : Prop :=
  found.map (·.expression) = expected.1 ∧ ∃ kept, parts kept = expected.2 ∧
    Passage memory.list after.list earlier (opening :: rest) (opening :: kept)

/-- All ranges of fewer parts than the given number are read in place as they should be. -/
def Agrees (count : Nat) : Prop :=
  ∀ memory earlier opening rest, rest.length < count → Tokens (parts rest) →
    opening.1.part.isToken = true → opening.1.part.kind.opensRange = true →
    memory.list.Represents (earlier ++ opening :: rest) →
    Mirrors (Place.range (firstNode rest)) memory (answer (Analysis.inner (parts rest)))
      (Inside memory earlier opening rest)

/-- What taking bracketed expressions out of the list does: a cursor is left at what stands behind
them. -/
def Collected {α : Type} (memory : Memory) (earlier old : List Entry) (expected : α × List Part)
    (found : α × Option Nat) (after : Memory) : Prop :=
  found.1 = expected.1 ∧ ∃ new, parts new = expected.2 ∧ found.2 = firstNode new ∧
    Passage memory.list after.list earlier old new

theorem Collected.of_passage {α : Type} {memory middle after : Memory}
    {earlier others old between : List Entry} {expected : α × List Part} {found : α × Option Nat}
    (passage : Passage memory.list middle.list others old between)
    (collected : Collected middle earlier between expected found after) :
    Collected memory earlier old expected found after := by
  obtain ⟨same, new, parts, cursor, later⟩ := collected
  exact ⟨same, new, parts, cursor, passage.trans later⟩

/-- The same when the first node is an opening bracket, which goes with what it opens. -/
def Bracketed {α : Type} (memory : Memory) (earlier : List Entry) (opening : Entry)
    (rest : List Entry) (expected : α × List Part) (found : α × Option Nat) (after : Memory) :
    Prop :=
  Collected memory earlier (opening :: rest) expected found after ∧ Gone after.list opening.2

section Items

variable {count : Nat} {memory : Memory} {earlier rest : List Entry} {opening : Entry}
  {closer : TokenKind} {emptyError missingError : ParseError}

theorem Agrees.items (agrees : Agrees count) (fewer : rest.length < count)
    (tokens : Tokens (parts rest)) (token : opening.1.part.isToken = true)
    (opens : opening.1.part.kind.opensRange = true)
    (other : opening.1.part.kind ≠ closer)
    (represents : memory.list.Represents (earlier ++ opening :: rest)) :
    Mirrors (Node.items closer emptyError missingError opening.2) memory
      (answer (Analysis.items closer emptyError missingError (parts rest)))
      (Bracketed memory earlier opening rest) := by
  induction length : rest.length using Nat.strong_induction_on
    generalizing memory opening rest with
  | _ size ih =>
    rw [Node.items, Analysis.items_eq]
    apply Mirrors.step (cell_ends represents)
    rw [beq_false_of_ne other]
    apply Mirrors.step (next_ends represents)
    refine (agrees memory earlier opening rest (by omega) tokens token opens represents).bind ?_
    rintro ⟨value, left⟩ found after analyzed ⟨rfl, kept, rfl, passage⟩
    have trails := Analysis.suffix_of_inner tokens analyzed
    obtain ⟨middle, ends, removed, gone⟩ := remove_passage passage.represents
    apply Mirrors.step ends
    cases found with
    | none => rfl
    | some value =>
      obtain ⟨final, ends, taken⟩ := removeAt_ends removed.represents
      have whole := (passage.trans removed).trans taken
      apply Mirrors.step ends
      rcases kept with _ | ⟨operand, _ | ⟨next, behind⟩⟩
      · rfl
      · rfl
      have represents := whole.represents
      apply Mirrors.step (cell_ends represents)
      simp only [Option.map_some, parts_cons]
      by_cases closed : next.1.part.kind = closer
      · rw [closed, beq_self_eq_true, Bool.true_or, if_pos rfl, if_pos rfl]
        obtain ⟨last, ends, passed, -⟩ := remove_passage represents
        have closes : Node.items closer emptyError missingError next.2 final =
            pure (([], firstNode behind), last) := by
          rw [Node.items, bind_ends (cell_ends represents), closed, beq_self_eq_true, if_pos rfl,
            bind_ends ends]
          rfl
        apply Mirrors.step closes
        apply Mirrors.pure
        exact ⟨⟨rfl, behind, rfl, rfl, whole.trans passed⟩,
          gone.persists (taken.trans passed).persists⟩
      · rw [beq_false_of_ne closed, Bool.false_or]
        by_cases separates : next.1.part.kind = .separator
        · rw [separates, beq_self_eq_true, if_pos rfl, if_neg Bool.false_ne_true, if_pos rfl]
          have suffix : parts (next :: behind) <:+ parts rest :=
            trails.suffix_of_closing rfl (by rw [separates]; rfl)
          have tokensNext := tokens.of_suffix suffix
          have shorter : behind.length + 1 ≤ rest.length := length_le_of_suffix suffix
          refine (ih behind.length (by omega) (by omega)
            (tokensNext.of_suffix (List.suffix_cons _ _)) (tokensNext.each _ List.mem_cons_self).1
            (by rw [separates]; rfl) closed represents rfl).bind ?_
          rintro ⟨values, _⟩ ⟨_, _⟩ last - ⟨⟨rfl, new, rfl, rfl, later⟩, -⟩
          apply Mirrors.pure
          exact ⟨⟨rfl, new, rfl, rfl, whole.trans later⟩,
            gone.persists (taken.trans later).persists⟩
        · rw [beq_false_of_ne separates, if_neg Bool.false_ne_true, if_neg Bool.false_ne_true,
            if_neg Bool.false_ne_true]
          rfl

theorem Agrees.collect (agrees : Agrees count) (fewer : rest.length < count)
    (tokens : Tokens (parts rest)) (token : opening.1.part.isToken = true)
    (opens : opening.1.part.kind.opensRange = true) (other : opening.1.part.kind ≠ closer)
    (represents : memory.list.Represents (earlier ++ opening :: rest)) :
    Mirrors (Place.collect closer emptyError missingError (some opening.2)) memory
      (answer (Analysis.listed closer emptyError missingError (parts (opening :: rest))))
      (Bracketed memory earlier opening rest) := by
  have behind := represents
  rw [List.append_cons] at behind
  have read : Mirrors (Node.items closer emptyError missingError opening.2) memory
      (answer (Analysis.items closer emptyError missingError (parts rest)))
      (Bracketed memory earlier opening rest) :=
    agrees.items fewer tokens token opens other represents
  rw [Place.collect]
  apply Mirrors.step (next_ends represents)
  apply Mirrors.step (cellAt_firstNode behind)
  cases rest with
  | nil =>
    rw [parts_cons, parts_nil, Analysis.listed_single]
    exact read
  | cons next rest =>
    rw [parts_cons, parts_cons, Analysis.listed_eq]
    show Mirrors (if next.1.part.kind == closer then _ else _) _ _ _
    split
    · obtain ⟨middle, ends, removed, gone⟩ := remove_passage represents
      obtain ⟨after, closes, passage, -⟩ := remove_passage removed.represents
      apply Mirrors.step ends
      apply Mirrors.step closes
      apply Mirrors.pure
      exact ⟨⟨rfl, rest, rfl, rfl, removed.trans passage⟩, gone.persists passage.persists⟩
    · exact read

end Items

section Paths

variable {count : Nat} {memory : Memory} {earlier rest : List Entry} {opening : Entry}
  {segments : List Segment}

theorem Agrees.index (agrees : Agrees count) (fewer : rest.length < count)
    (tokens : Tokens (parts rest)) (token : opening.1.part.isToken = true)
    (opens : opening.1.part.kind.opensRange = true)
    (represents : memory.list.Represents (earlier ++ opening :: rest)) :
    Mirrors (Node.index segments opening.2) memory (Analysis.indexed segments (parts rest))
      (Collected memory earlier (opening :: rest)) := by
  rw [Node.index, Analysis.indexed]
  apply Mirrors.step (next_ends represents)
  refine (agrees memory earlier opening rest fewer tokens token opens represents).bind ?_
  rintro ⟨value, left⟩ found after - ⟨rfl, kept, rfl, passage⟩
  obtain ⟨middle, ends, removed, -⟩ := remove_passage passage.represents
  apply Mirrors.step ends
  cases found with
  | none => rfl
  | some value =>
    obtain ⟨final, ends, gone⟩ := removeAt_ends removed.represents
    have whole := (passage.trans removed).trans gone
    apply Mirrors.step ends
    rcases kept with _ | ⟨operand, _ | ⟨closing, behind⟩⟩
    · rfl
    · rfl
    apply Mirrors.step (cell_ends whole.represents)
    simp only [Option.map_some, parts_cons]
    by_cases closes : closing.1.part.kind = .indexStop
    · rw [closes, beq_self_eq_true, if_pos rfl, if_pos rfl]
      obtain ⟨last, ends, passed, -⟩ := remove_passage whole.represents
      apply Mirrors.step ends
      exact .pure ⟨rfl, behind, rfl, rfl, whole.trans passed⟩
    · rw [beq_false_of_ne closes, if_neg Bool.false_ne_true, if_neg Bool.false_ne_true]
      rfl

theorem Agrees.path (agrees : Agrees count) (fewer : rest.length ≤ count)
    (tokens : Tokens (parts rest)) (represents : memory.list.Represents (earlier ++ rest)) :
    Mirrors (Place.path segments (firstNode rest)) memory
      (answer (Analysis.path segments (parts rest))) (Collected memory earlier rest) := by
  induction length : rest.length using Nat.strong_induction_on
    generalizing memory rest segments with
  | _ size ih =>
    cases rest with
    | nil =>
      rw [firstNode_nil, Place.path, parts_nil, Analysis.path_nil]
      exact .pure ⟨rfl, [], rfl, rfl, .refl represents⟩
    | cons opening rest =>
      simp only [List.length_cons] at length fewer
      have tokensRest : Tokens (parts rest) := tokens.of_suffix (List.suffix_cons _ _)
      have token := (tokens.each _ List.mem_cons_self).1
      rw [firstNode_cons, Place.path, parts_cons]
      apply Mirrors.step (cell_ends represents)
      split
      · rename_i name
        rw [Analysis.path_name name]
        obtain ⟨middle, ends, removed, -⟩ := remove_passage represents
        apply Mirrors.step ends
        refine (ih rest.length (by omega) (by omega) tokensRest removed.represents rfl).mono ?_
        intro _ _ _ _ collected
        exact collected.of_passage removed
      · rename_i opens
        rw [Analysis.path_eq_indexed opens]
        refine (agrees.index (by omega) tokensRest token (by rw [opens]; rfl) represents).bind ?_
        rintro ⟨value, _⟩ ⟨_, _⟩ after indexed ⟨rfl, kept, rfl, rfl, passage⟩
        have suffix := Analysis.suffix_of_indexed tokensRest indexed
        have shorter := length_le_of_suffix suffix
        refine (ih kept.length (by omega) (by omega) (tokensRest.of_suffix suffix)
          passage.represents rfl).mono ?_
        intro _ _ _ _ collected
        exact collected.of_passage passage
      · rename_i name opens
        rw [Analysis.path_ends ⟨name, opens⟩]
        exact .pure ⟨rfl, opening :: rest, rfl, rfl, .refl represents⟩

end Paths

end InPlace

end PathQuery
