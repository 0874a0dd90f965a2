import PathQuery.Proofs.InPlace.Ranges
import PathQuery.Proofs.Joined

/-!
The analysis of a whole list in place: its ranges one after the other, each with what the ones
before it have left behind. Whatever the parts are, balanced or not, the run ends and comes to what the
analysis answers; it only ever edits at nodes of the list and meets no operator out of turn. Main
statement: `analyze_safe`.
-/

namespace PathQuery

namespace Analysis

theorem separated_eq_ranged {before parts : List Part} : separated before parts = (do
    let (range, rest) ← ranged before parts
    match range.value with
    | none => throw .emptyExpression
    | some value =>
        let passed := (rest.takeWhile (·.kind != .separator)).reverse ++ range.parts.reverse ++
          range.before
        match rest.dropWhile (·.kind != .separator) with
        | [] => return ([value], passed.reverse)
        | _ :: next =>
            let (values, left) ← separated passed next
            return (value :: values, left)) := by
  rw [separated_eq, ranged]
  cases answer (read ⟨before, [], true, none⟩ parts) with
  | error => rfl
  | ok found =>
    obtain ⟨reading, rest⟩ := found
    show Tiers.resolve reading.range >>= _ = (Tiers.resolve reading.range >>= _) >>= _
    cases Tiers.resolve reading.range <;> rfl

theorem suffix_of_ranged {before parts left : List Part} {range : Tiers.Range}
    (tokens : Tokens parts) (found : ranged before parts = .ok (range, left)) : left <:+ parts := by
  obtain ⟨⟨reading, rest⟩, reads, found⟩ := Tiers.bind_eq_ok.mp found
  obtain ⟨_, -, same⟩ := Tiers.bind_eq_ok.mp found
  cases same
  have moved := read_onto before parts .start fun _ => rfl
  rw [show answer (read ⟨before, [], true, none⟩ parts) = _ from moved] at reads
  obtain ⟨⟨first, _⟩, starts, same⟩ := Tiers.map_eq_ok.mp reads
  cases same
  exact (done_of_read (by simp) tokens starts).2.2

end Analysis

namespace InPlace

open Analysis (Tokens)

variable {memory : Memory} {earlier rest entries : List Entry}

/-- Whether a part is no separator. -/
def inside (entry : Entry) : Bool :=
  entry.1.part.kind != .separator

theorem parts_dropWhile : parts (entries.dropWhile inside) =
    (parts entries).dropWhile (·.kind != .separator) := by
  rw [parts, parts, List.dropWhile_map]
  rfl

theorem parts_takeWhile : parts (entries.takeWhile inside) =
    (parts entries).takeWhile (·.kind != .separator) := by
  rw [parts, parts, List.takeWhile_map]
  rfl

theorem inside_of_clear {before seen : List Entry}
    (clear : ∀ part ∈ (parts before).reverse ++ parts seen, part.kind ≠ .separator) :
    ∀ entry ∈ before ++ seen, inside entry = true := by
  intro entry member
  have present : entry.1.part ∈ (parts before).reverse ++ parts seen := by
    rcases List.mem_append.mp member with early | late
    · exact List.mem_append_left _ (List.mem_reverse.mpr (List.mem_map_of_mem early))
    · exact List.mem_append_right _ (List.mem_map_of_mem late)
  simpa [inside] using clear _ present

theorem firstSeparator_ends (represents : memory.list.Represents (earlier ++ entries)) :
    Place.firstSeparator (firstNode entries) memory =
      pure (firstNode (entries.dropWhile inside), memory) := by
  induction entries generalizing earlier with
  | nil =>
    rw [firstNode_nil, Place.firstSeparator]
    rfl
  | cons entry entries ih =>
    rw [firstNode_cons, Place.firstSeparator, bind_ends (cell_ends represents)]
    by_cases separates : entry.1.part.kind = .separator
    · rw [if_pos (by simpa using separates),
        List.dropWhile_cons_of_neg (by simp [inside, separates])]
      rfl
    · rw [if_neg (by simpa using separates),
        List.dropWhile_cons_of_pos (by simpa [inside] using separates),
        bind_ends (next_ends represents)]
      rw [List.append_cons] at represents
      exact ih represents

theorem head_eq (represents : memory.list.Represents entries) :
    memory.list.head = firstNode entries := by
  rw [represents.ends.1, head_map]

/-- What is left of the list after its ranges. -/
def Separated (expected : List Expression × List Part) (found : List Expression) (after : Memory) :
    Prop :=
  found = expected.1 ∧ ∃ entries, parts entries = expected.2 ∧ after.list.Represents entries

theorem mirrors_separated (tokens : Tokens (parts rest))
    (clear : ∀ entry ∈ earlier, entry.1.part.kind ≠ .separator)
    (represents : memory.list.Represents (earlier ++ rest)) :
    Mirrors (Place.separated (firstNode rest)) memory
      (Analysis.separated (parts earlier).reverse (parts rest)) Separated := by
  induction length : rest.length using Nat.strong_induction_on
    generalizing memory earlier rest with
  | _ size ih =>
    have barrier : Barrier [] := by simp [Barrier]
    have goes : Goes (rest.length + 1) := goes_all _
    have ranges : Mirrors (Place.range (firstNode rest)) memory _ (Ranged memory []) :=
      goes.range barrier (Nat.lt_succ_self _) tokens clear represents
    rw [Place.separated, Analysis.separated_eq_ranged]
    refine ranges.bind ?_
    rintro ⟨⟨_, _, _⟩, _⟩ found after ranged
      ⟨rfl, ⟨before, seen, behind, whole, ahead, rfl, rfl⟩, clearNow, -⟩
    obtain rfl := List.reverse_eq_iff.mp ahead.symm
    cases found with
    | none => rfl
    | some shared =>
      have clearAll := inside_of_clear clearNow
      apply Mirrors.step (show (get : Run Memory) after = pure (after, after) from rfl)
      rw [List.nil_append, ← List.append_assoc] at whole
      rw [head_eq whole]
      have start : after.list.Represents ([] ++ (before ++ seen ++ behind)) := whole
      apply Mirrors.step (firstSeparator_ends start)
      rw [List.dropWhile_append_of_pos clearAll]
      dsimp only [Option.map_some]
      rw [← parts_takeWhile, ← parts_dropWhile]
      have divided := @List.takeWhile_append_dropWhile _ inside behind
      cases later : behind.dropWhile inside with
      | nil =>
        rw [later, List.append_nil] at divided
        refine .pure ⟨rfl, before ++ seen ++ behind, ?_, whole⟩
        simp [divided]
      | cons separator next =>
        rw [later] at divided
        have passed : (parts (behind.takeWhile inside)).reverse ++ (parts seen).reverse ++
            (parts before).reverse =
          (parts (before ++ seen ++ behind.takeWhile inside)).reverse := by
          simp
        rw [passed, parts_cons]
        have clearPassed : ∀ entry ∈ before ++ seen ++ behind.takeWhile inside,
            entry.1.part.kind ≠ .separator := by
          intro entry member
          have within : inside entry = true := by
            rcases List.mem_append.mp member with early | late
            · exact clearAll entry early
            · exact List.mem_takeWhile_imp late
          simpa [inside] using within
        have remains : parts behind <:+ parts rest := Analysis.suffix_of_ranged tokens ranged
        have suffix : parts (separator :: next) <:+ parts behind := by
          rw [← divided, parts_append]
          exact List.suffix_append _ _
        have shorter : next.length < rest.length := length_le_of_suffix (suffix.trans remains)
        have tokensNext : Tokens (parts next) :=
          tokens.of_suffix ((List.suffix_cons _ _).trans (suffix.trans remains))
        rw [← divided, ← List.append_assoc] at whole
        obtain ⟨final, ends, removed, -⟩ := remove_passage whole
        apply Mirrors.step ends
        refine (ih next.length (by omega) tokensNext clearPassed removed.represents rfl).bind ?_
        rintro ⟨values, left⟩ _ last - ⟨rfl, kept⟩
        exact .pure ⟨rfl, kept⟩

theorem mirrors_whole (tokens : Tokens (parts entries))
    (represents : memory.list.Represents entries) :
    Mirrors whole memory (Analysis.analyze (parts entries)) fun expected found _ =>
      found = expected := by
  have clear : ∀ entry ∈ ([] : List Entry), entry.1.part.kind ≠ .separator := by simp
  have represents : memory.list.Represents ([] ++ entries) := represents
  unfold whole Analysis.analyze
  apply Mirrors.step (show (get : Run Memory) memory = pure (memory, memory) from rfl)
  rw [head_eq represents]
  refine (mirrors_separated tokens clear represents).bind ?_
  rintro ⟨values, _⟩ found after - ⟨rfl, left, rfl, kept⟩
  apply Mirrors.step (show (get : Run Memory) after = pure (after, after) from rfl)
  have surplus : (parts left).drop found.length =
      ((left.map Prod.fst).drop found.length).map (·.part) := by
    rw [← parts_drop, ← List.map_drop, List.map_map]
    rfl
  rw [kept.parts_eq]
  dsimp only
  rw [surplus]
  cases (left.map Prod.fst).drop found.length with
  | cons extra others => rfl
  | nil =>
    rcases found with _ | ⟨value, _ | ⟨second, others⟩⟩ <;> exact .pure rfl

/-- The analysis in place ends on all tokens, and comes to what the analysis answers. -/
theorem analyze_eq {lexed : List Part} (tokens : Tokens lexed) :
    analyze lexed = some ((Analysis.analyze lexed).mapError .parse) := by
  let cells : List Cell := lexed.map fun part => { part }
  have represents : (TokenList.ofParts cells).Represents cells.zipIdx :=
    (TokenList.tracks_ofParts cells).represents
  have same : parts cells.zipIdx = lexed := by
    show cells.zipIdx.map (Cell.part ∘ Prod.fst) = lexed
    rw [← List.map_map, List.zipIdx_map_fst, List.map_map]
    exact List.map_id lexed
  rw [← same] at tokens
  have mirrors : Mirrors whole { list := .ofParts cells } (Analysis.analyze (parts cells.zipIdx))
      fun expected found _ => found = expected := mirrors_whole tokens represents
  rw [same] at mirrors
  show (whole { list := .ofParts cells }).run.map (·.map Prod.fst) = _
  cases analyzed : Analysis.analyze lexed with
  | error error =>
    rw [analyzed] at mirrors
    rw [show whole { list := .ofParts cells } = throw (.parse error) from mirrors]
    rfl
  | ok expression =>
    rw [analyzed] at mirrors
    obtain ⟨found, after, ends, rfl⟩ := mirrors
    rw [ends]
    rfl

/-- Whatever a text is lexed to, the analysis in place ends, every edit is at a node of the list, no
pass meets an operator of a tighter tier and none leaves an operator of its own behind. -/
theorem analyze_safe {lenient : Bool} {text : String} {placed : List PlacedPart}
    (read : PlacedPart.ofText? lenient text = .ok placed) :
    ∃ result, analyze (placed.map (·.part)) = some result ∧
      result = (Analysis.analyze (placed.map (·.part))).mapError .parse ∧
      ∀ fault, result = .error fault → ∃ error, fault = .parse error := by
  have tokens : Tokens (placed.map (·.part)) :=
    ⟨PlacedPart.fit_of_text read, fun part member =>
      ⟨PlacedPart.isToken_of_text read part member, PlacedPart.proper_of_text read part member⟩⟩
  refine ⟨_, analyze_eq tokens, rfl, ?_⟩
  intro fault failed
  cases analyzed : Analysis.analyze (placed.map (·.part)) with
  | error error =>
    rw [analyzed] at failed
    cases failed
    exact ⟨error, rfl⟩
  | ok expression =>
    rw [analyzed] at failed
    cases failed

/-- Brackets that cross, behind a call that is never closed. -/
def crossed : String := "f(a[1)+b]"

theorem analyze_safe_of_crossed : ∃ placed error, PlacedPart.ofText? false crossed = .ok placed ∧
    Analysis.analyze (placed.map (·.part)) = .error error ∧
    analyze (placed.map (·.part)) = some (.error (.parse error)) := by
  have rejected : ((PlacedPart.ofText? false crossed).toOption.map fun placed =>
      (Analysis.analyze (placed.map (·.part))).toOption.isNone) = some true := by decide +kernel
  cases read : PlacedPart.ofText? false crossed with
  | error =>
    rw [read] at rejected
    cases rejected
  | ok placed =>
    rw [read] at rejected
    obtain ⟨result, ends, rfl, -⟩ := analyze_safe read
    cases analyzed : Analysis.analyze (placed.map (·.part)) with
    | ok =>
      simp [analyzed, Except.toOption] at rejected
    | error error =>
      rw [analyzed] at ends
      exact ⟨placed, error, rfl, analyzed, ends⟩

end InPlace

end PathQuery
