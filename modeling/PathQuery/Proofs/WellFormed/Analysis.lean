import PathQuery.Proofs.Analysis.Soundness
import PathQuery.Proofs.WellFormed

/-!
The analysis keeps what is proper, whatever it accepts. A range leaves operands behind and then what
closed it, as it was; operands that are read once more are read up to that closing part. Main
statement: `wellFormed_of_analyze`.
-/

namespace PathQuery.Analysis

open Tiers (Range folded)

/-- Tokens as they come from a text. -/
structure Tokens (parts : List Part) : Prop where
  fit : Fit parts
  each : ∀ part ∈ parts, part.isToken = true ∧ part.Proper

theorem Tokens.of_suffix {parts rest : List Part} (tokens : Tokens parts)
    (suffix : rest <:+ parts) : Tokens rest := by
  refine ⟨?_, fun part member => tokens.each part (suffix.subset member)⟩
  obtain ⟨front, rfl⟩ := suffix
  exact tokens.fit.of_append

theorem suffix_of_cons {part : Part} {rest parts : List Part} (suffix : part :: rest <:+ parts) :
    rest <:+ parts :=
  (List.suffix_cons part rest).trans suffix

/-- What a range between brackets leaves: operands, and what closes the range with all after it. -/
def Trails (parts left : List Part) : Prop :=
  ∃ operands rest, left = operands ++ rest ∧
    (∀ part ∈ operands, part.isOperand = true ∧ part.Proper) ∧ Stops rest ∧ rest <:+ parts

theorem Trails.suffix_of_closes {parts left rest : List Part} {operand closing : Part}
    (trails : Trails parts left) (split : left = operand :: closing :: rest)
    (closes : closing.kind.closesRange = true) : rest <:+ parts := by
  obtain ⟨operands, behind, rfl, proper, stops, suffix⟩ := trails
  rcases operands with _ | ⟨_, _ | ⟨second, others⟩⟩
  · rw [List.nil_append] at split
    rw [split] at suffix
    exact suffix_of_cons (suffix_of_cons suffix)
  · obtain ⟨-, rfl⟩ := List.cons.inj split
    exact suffix_of_cons suffix
  · obtain ⟨-, same⟩ := List.cons.inj split
    obtain ⟨rfl, -⟩ := List.cons.inj same
    have operand := (proper second (by simp)).1
    rw [Part.closesRange_of_isOperand operand] at closes
    cases closes

/-- A path that has begun as it should. -/
def ProperPath (segments : List Segment) : Prop :=
  Segment.beginsPath segments = true ∧ Segment.allWellFormed segments = true

theorem ProperPath.append {segments others : List Segment} (proper : ProperPath segments)
    (formed : Segment.allWellFormed others = true) : ProperPath (segments ++ others) := by
  refine ⟨Segment.beginsPath_append proper.1 others, ?_⟩
  rw [Segment.allWellFormed_append, proper.2, formed]
  rfl

theorem properPath_of_token {part : Part} (token : part.isToken = true) (proper : part.Proper)
    (path : part.kind = .path) : ProperPath (pathNames part.render) := by
  rw [pathNames_eq]
  cases proper with
  | token _ names => exact names _ (Part.eq_text_of_isToken token path rfl)
  | @analyzed value =>
    cases value <;> cases token

theorem listOf_wellFormed {elements : List Expression}
    (formed : Expression.allWellFormed elements = true) : (listOf elements).wellFormed = true := by
  unfold listOf
  split
  · rfl
  · simpa [Expression.wellFormed, Target.wellFormed] using formed

/-- All ranges of fewer parts than the given number keep what is proper. -/
def Keeps (count : Nat) : Prop :=
  ∀ parts value left, parts.length < count → Tokens parts →
    answer (inner parts) = .ok (value, left) → ProperValue value ∧ Trails parts left

variable {count : Nat} {parts left : List Part}

theorem Keeps.items (keeps : Keeps count) {stop : TokenKind} (kinds : stop.closesRange = true)
    {emptyError missingError : ParseError} {values : List Expression} (fewer : parts.length < count)
    (tokens : Tokens parts)
    (found : answer (Analysis.items stop emptyError missingError parts) = .ok (values, left)) :
    Expression.allWellFormed values = true ∧ left <:+ parts := by
  induction length : parts.length using Nat.strong_induction_on generalizing parts values with
  | _ length ih =>
    obtain ⟨value, operand, token, rest, analyzed, ends⟩ := items_cases found
    obtain ⟨proper, trails⟩ := keeps parts _ _ fewer tokens analyzed
    have formed : value.wellFormed = true := proper value rfl
    rcases ends with ⟨closes, rfl, rfl⟩ | ⟨separates, others, more, rfl⟩
    · refine ⟨by simp [Expression.allWellFormed, formed], ?_⟩
      exact trails.suffix_of_closes rfl (by rw [closes]; exact kinds)
    · have suffix := trails.suffix_of_closes rfl (by rw [separates]; rfl)
      have shorter := known_of_answer analyzed
      simp only [List.length_cons] at shorter
      obtain ⟨later, still⟩ :=
        ih rest.length (by omega) (by omega) (tokens.of_suffix suffix) more rfl
      exact ⟨by simp [Expression.allWellFormed, formed, later], still.trans suffix⟩

theorem Keeps.listed (keeps : Keeps count) {stop : TokenKind} {opening : Part}
    (kinds : stop.closesRange = true) {emptyError missingError : ParseError}
    {values : List Expression} (fewer : parts.length < count) (tokens : Tokens parts)
    (found : answer (Analysis.listed stop emptyError missingError (opening :: parts)) =
      .ok (values, left)) :
    Expression.allWellFormed values = true ∧ left <:+ parts := by
  rcases listed_cases found with ⟨next, rfl, -, rfl⟩ | found
  · exact ⟨rfl, List.suffix_cons next left⟩
  · exact keeps.items kinds fewer tokens found

theorem Keeps.calls (keeps : Keeps count) {target : Target} {call : Expression} {chained : Bool}
    (fewer : parts.length ≤ count) (tokens : Tokens parts) (formed : target.wellFormed = true)
    (found : answer (Analysis.calls target parts) = .ok (call, chained, left)) :
    call.wellFormed = true ∧ left <:+ parts := by
  induction length : parts.length using Nat.strong_induction_on
    generalizing parts target call chained left with
  | _ length ih =>
    obtain ⟨arguments, behind, analyzed, goesOn⟩ := calls_cases found
    have shorter := known_of_answer analyzed
    dsimp only at shorter
    obtain ⟨formedArguments, suffix⟩ : Expression.allWellFormed arguments = true ∧
        behind <:+ parts := by
      cases parts with
      | nil =>
        rw [Analysis.listed] at analyzed
        cases analyzed
      | cons opening others =>
        simp only [List.length_cons] at fewer
        obtain ⟨formed, suffix⟩ := keeps.listed rfl (by omega)
          (tokens.of_suffix (List.suffix_cons opening others)) analyzed
        exact ⟨formed, suffix.trans (List.suffix_cons opening others)⟩
    have formedCall : (Expression.call target arguments).wellFormed = true := by
      simp [Expression.wellFormed, formed, formedArguments]
    rcases goesOn with ⟨-, _, more⟩ | ⟨rfl, rfl⟩
    · obtain ⟨formedLast, still⟩ := ih behind.length (by omega) (by omega)
        (tokens.of_suffix suffix)
        (by simpa [Target.wellFormed, Expression.isCallable] using formedCall) more rfl
      exact ⟨formedLast, still.trans suffix⟩
    · exact ⟨formedCall, suffix⟩

theorem Keeps.path (keeps : Keeps count) {segments names : List Segment}
    (fewer : parts.length ≤ count) (tokens : Tokens parts) (proper : ProperPath segments)
    (found : answer (Analysis.path segments parts) = .ok (names, left)) :
    ProperPath names ∧ left <:+ parts := by
  induction length : parts.length using Nat.strong_induction_on
    generalizing parts segments with
  | _ length ih =>
    rcases path_cases found with ⟨rfl, rfl⟩ | ⟨part, rest, rfl, name, more⟩ |
      ⟨part, rest, index, operand, closing, after, rfl, -, analyzed, closes, more⟩
    · exact ⟨proper, List.suffix_refl _⟩
    · simp only [List.length_cons] at length fewer
      have later := tokens.of_suffix (List.suffix_cons part rest)
      obtain ⟨token, properPart⟩ := tokens.each part List.mem_cons_self
      have longer := proper.append (properPath_of_token token properPart name).2
      obtain ⟨properNames, suffix⟩ := ih rest.length (by omega) (by omega) later longer more rfl
      exact ⟨properNames, suffix.trans (List.suffix_cons part rest)⟩
    · simp only [List.length_cons] at length fewer
      have later := tokens.of_suffix (List.suffix_cons part rest)
      have shorter := known_of_answer analyzed
      simp only [List.length_cons] at shorter
      obtain ⟨properIndex, trails⟩ := keeps rest _ _ (by omega) later analyzed
      have suffix := trails.suffix_of_closes rfl (by rw [closes]; rfl)
      have formed : Segment.allWellFormed [.expression index] = true := by
        simpa [Segment.allWellFormed] using properIndex index rfl
      obtain ⟨properNames, still⟩ := ih after.length (by omega) (by omega)
        (later.of_suffix suffix) (proper.append formed) more rfl
      exact ⟨properNames, (still.trans suffix).trans (List.suffix_cons part rest)⟩

namespace Reading

/-- A reading of which all parts are proper, and what the last of them came to as well. If that was
something, the last part is a token or what it came to. -/
structure Proper (reading : Reading) : Prop where
  parts : ∀ part ∈ reading.view, part.Proper
  value : ProperValue reading.last

/-- The last part read is a token or what was analyzed last, if anything was. -/
def Recent (reading : Reading) : Prop :=
  ∀ value, reading.last = some value →
    ∀ part ∈ reading.view.head?, part.isToken = true ∨ part = folded value

variable {reading next : Reading} {part : Part}

theorem Proper.range (proper : reading.Proper) : reading.range.Proper := by
  refine ⟨?_, proper.value⟩
  rw [whole_range]
  simpa using proper.parts

theorem Proper.keep (proper : reading.Proper) (properPart : part.Proper) :
    (reading.keep part).Proper :=
  ⟨List.forall_mem_cons.mpr ⟨properPart, proper.parts⟩, proper.value⟩

theorem recent_keep (token : part.isToken = true) : (reading.keep part).Recent := by
  intro value last recent same
  rw [view_keep] at same
  obtain rfl := Option.some.inj same
  exact .inl token

theorem Proper.put (proper : reading.Proper) {value : Option Expression}
    (formed : ProperValue value) (bounded : Bool) :
    Proper { reading.put (.ofAnalysis value) bounded with last := value } := by
  refine ⟨?_, formed⟩
  rw [view_put]
  exact List.forall_mem_cons.mpr ⟨.analyzed formed, proper.parts⟩

theorem recent_put (reading : Reading) (value : Option Expression) (bounded : Bool) :
    Recent { reading.put (.ofAnalysis value) bounded with last := value } := by
  intro held last recent same
  rw [view_put] at same
  obtain rfl := Option.some.inj same
  cases last
  exact .inr rfl

theorem Proper.takeCall (proper : reading.Proper) : reading.takeCall.2.Proper := by
  refine ⟨fun part member => proper.parts part (reading.takeCall_subset.2 member), ?_⟩
  have kept : reading.takeCall.2.last = reading.last := by
    unfold Reading.takeCall
    split <;> rfl
  rw [kept]
  exact proper.value

theorem Recent.takeCall (recent : reading.Recent) (proper : reading.Proper) :
    reading.takeCall.1 = [] ∨ ProperPath reading.takeCall.1 := by
  have begins : ∀ {target arguments kind held}, reading.last = some (.call target arguments) →
      reading.view.head? = some (.expression kind held) → ProperPath [.expression held] := by
    intro target arguments kind held last first
    rcases recent _ last _ first with token | same
    · cases token
    · cases same
      have formed := proper.value _ last
      exact ⟨rfl, by simpa [Segment.allWellFormed] using formed⟩
  unfold Reading.takeCall
  split
  · rename_i last seen
    exact .inr (begins last (by rw [view, seen]; rfl))
  · rename_i last seen before
    exact .inr (begins last (by rw [view, seen, before]; rfl))
  · exact .inl rfl

end Reading

/-- What a reading has come to. -/
def Done (parts : List Part) (result : Reading × List Part) : Prop :=
  result.1.Proper ∧ Stops result.2 ∧ result.2 <:+ parts

theorem read_operands {reading : Reading} {operands rest : List Part} (stops : Stops rest)
    (all : ∀ part ∈ operands, part.isOperand = true) :
    answer (read reading (operands ++ rest)) = .ok (operands.foldl Reading.keep reading, rest) := by
  induction operands generalizing reading with
  | nil =>
    cases rest with
    | nil => exact read_nil
    | cons closing rest => exact read_closes (stops closing rfl)
  | cons operand operands ih =>
    obtain ⟨first, others⟩ := List.forall_mem_cons.mp all
    have other : operand.kind.isStructural = false := by
      rcases Part.kind_of_isOperand first with literal | same
      · revert literal
        cases operand.kind <;> simp [TokenKind.isLiteral, TokenKind.isStructural]
      · rw [same]
        rfl
    rw [List.cons_append, read_keep other, ih others]
    rfl

theorem proper_foldl_keep {reading : Reading} {operands : List Part} (proper : reading.Proper)
    (all : ∀ part ∈ operands, part.Proper) : (operands.foldl Reading.keep reading).Proper := by
  induction operands generalizing reading with
  | nil => exact proper
  | cons operand operands ih =>
    obtain ⟨first, others⟩ := List.forall_mem_cons.mp all
    exact ih (proper.keep first) others

section Steps

variable {reading : Reading} {part : Part} {rest : List Part} {result : Reading × List Part}

theorem Keeps.read_scope (keeps : Keeps count) (fewer : rest.length < count) (tokens : Tokens rest)
    (proper : reading.Proper) (opens : part.kind = .scopeStart)
    (found : answer (read reading (part :: rest)) = .ok result)
    (later : ∀ now middle, middle <:+ rest → now.Proper → now.Recent →
      answer (read now middle) = .ok result → Done rest result) : Done rest result := by
  rw [Analysis.read_scope opens] at found
  obtain ⟨⟨child, left⟩, analyzed, found⟩ := Tiers.bind_eq_ok.mp found
  obtain ⟨formed, operands, behind, rfl, all, stops, suffix⟩ :=
    keeps rest child left fewer tokens analyzed
  have properNext := proper.put formed true
  dsimp only at found
  by_cases within : 1 + child.toList.length ≤ operands.length
  · rw [List.drop_append_of_le_length within, read_operands stops fun part member =>
      (all part (List.mem_of_mem_drop member)).1] at found
    cases found
    refine ⟨proper_foldl_keep properNext fun part member => ?_, stops, suffix⟩
    exact (all part (List.mem_of_mem_drop member)).2
  · rw [List.drop_append, List.drop_eq_nil_of_le (by omega), List.nil_append] at found
    exact later _ _ ((List.drop_suffix _ _).trans suffix) properNext
      (Reading.recent_put reading child true) found

theorem Keeps.read_method (keeps : Keeps count) (fewer : rest.length < count)
    (tokens : Tokens (part :: rest)) (proper : reading.Proper) (method : part.kind = .method)
    (found : answer (read reading (part :: rest)) = .ok result)
    (later : ∀ now middle, middle <:+ rest → now.Proper → now.Recent →
      answer (read now middle) = .ok result → Done rest result) : Done rest result := by
  rw [Analysis.read_method method] at found
  obtain ⟨⟨call, chained, left⟩, analyzed, found⟩ := Tiers.bind_eq_ok.mp found
  have target : (targetOf part).wellFormed = true := by
    rw [Part.eq_text_of_isToken (tokens.each part List.mem_cons_self).1 method rfl]
    rfl
  obtain ⟨formed, suffix⟩ := keeps.calls (Nat.le_of_lt fewer)
    (tokens.of_suffix (List.suffix_cons part rest)) target analyzed
  have start : Reading.Proper (if chained then reading.displaced else reading) := by
    split
    · exact ⟨proper.parts, proper.value⟩
    · exact proper
  have value : ProperValue (some call) := by
    simpa [ProperValue] using formed
  exact later _ left suffix (start.put value _) (Reading.recent_put _ (some call) _) found

theorem Keeps.read_index (keeps : Keeps count) (fewer : rest.length < count)
    (tokens : Tokens rest) (proper : reading.Proper) (opens : part.kind = .indexStart)
    (found : answer (read reading (part :: rest)) = .ok result)
    (later : ∀ now middle, middle <:+ rest → now.Proper → now.Recent →
      answer (read now middle) = .ok result → Done rest result) : Done rest result := by
  rw [Analysis.read_index opens] at found
  obtain ⟨⟨elements, left⟩, analyzed, found⟩ := Tiers.bind_eq_ok.mp found
  obtain ⟨formed, suffix⟩ := keeps.listed rfl fewer tokens analyzed
  have value : ProperValue (some (listOf elements)) := by
    simpa [ProperValue] using listOf_wellFormed formed
  exact later _ left suffix (proper.put value _) (Reading.recent_put _ (some _) _) found

theorem Keeps.read_path (keeps : Keeps count) (fewer : rest.length < count)
    (tokens : Tokens (part :: rest)) (proper : reading.Proper) (recent : reading.Recent)
    (name : part.kind = .path) (found : answer (read reading (part :: rest)) = .ok result)
    (later : ∀ now middle, middle <:+ rest → now.Proper → now.Recent →
      answer (read now middle) = .ok result → Done rest result) : Done rest result := by
  rw [Analysis.read_path name] at found
  obtain ⟨⟨segments, left⟩, analyzed, found⟩ := Tiers.bind_eq_ok.mp found
  have tokensRest := tokens.of_suffix (List.suffix_cons part rest)
  obtain ⟨token, properPart⟩ := tokens.each part List.mem_cons_self
  have names := properPath_of_token token properPart name
  have begins : ProperPath (reading.takeCall.1 ++ pathNames part.render) := by
    rcases recent.takeCall proper with none | some
    · rwa [none]
    · exact some.append names.2
  obtain ⟨formed, suffix⟩ := keeps.path (Nat.le_of_lt fewer) tokensRest begins analyzed
  have formedPath : (Expression.path segments).wellFormed = true := by
    simp [Expression.wellFormed, formed.1, formed.2]
  have remaining := proper.takeCall
  dsimp only at found
  split at found
  · obtain ⟨⟨call, _, after⟩, called, found⟩ := Tiers.bind_eq_ok.mp found
    obtain ⟨formedCall, still⟩ := keeps.calls (suffix.length_le.trans (Nat.le_of_lt fewer))
      (tokensRest.of_suffix suffix)
      (by simpa [Target.wellFormed, Expression.isCallable] using formedPath) called
    have value : ProperValue (some call) := by
      simpa [ProperValue] using formedCall
    have displaced : reading.takeCall.2.displaced.Proper := ⟨remaining.parts, remaining.value⟩
    exact later _ after (still.trans suffix) (displaced.put value _)
      (Reading.recent_put _ (some call) _) found
  · have value : ProperValue (some (.path segments)) := by
      simpa [ProperValue] using formedPath
    exact later _ left suffix (remaining.put value _) (Reading.recent_put _ (some _) _) found

end Steps

theorem Keeps.read (keeps : Keeps count) {reading : Reading} {result : Reading × List Part}
    (fewer : parts.length ≤ count) (tokens : Tokens parts) (proper : reading.Proper)
    (recent : reading.Recent) (found : answer (Analysis.read reading parts) = .ok result) :
    Done parts result := by
  induction length : parts.length using Nat.strong_induction_on generalizing parts reading with
  | _ length ih =>
    cases parts with
    | nil =>
      rw [read_nil] at found
      cases found
      exact ⟨proper, by simp [Stops], List.suffix_refl _⟩
    | cons part rest =>
      simp only [List.length_cons] at fewer length
      cases closes : part.kind.closesRange with
      | true =>
        rw [read_closes closes] at found
        cases found
        exact ⟨proper, stops_cons closes, List.suffix_refl _⟩
      | false =>
        have tokensRest := tokens.of_suffix (List.suffix_cons part rest)
        have later : ∀ now middle, middle <:+ rest → now.Proper → now.Recent →
            answer (Analysis.read now middle) = .ok result → Done rest result := by
          intro now middle suffix properNow recentNow goes
          have shorter := suffix.length_le
          obtain ⟨properResult, stops, still⟩ := ih middle.length (by omega) (by omega)
            (tokensRest.of_suffix suffix) properNow recentNow goes rfl
          exact ⟨properResult, stops, still.trans suffix⟩
        have done : Done rest result := by
          by_cases opens : part.kind = .scopeStart
          · exact keeps.read_scope (by omega) tokensRest proper opens found later
          by_cases method : part.kind = .method
          · exact keeps.read_method (by omega) tokens proper method found later
          by_cases index : part.kind = .indexStart
          · exact keeps.read_index (by omega) tokensRest proper index found later
          by_cases name : part.kind = .path
          · exact keeps.read_path (by omega) tokens proper recent name found later
          have other : part.kind.isStructural = false := by
            revert closes opens method index name
            cases part.kind <;> simp [TokenKind.closesRange, TokenKind.isStructural]
          obtain ⟨token, properPart⟩ := tokens.each part List.mem_cons_self
          rw [read_keep other] at found
          exact later _ rest (List.suffix_refl _) (proper.keep properPart)
            (Reading.recent_keep token) found
        exact ⟨done.1, done.2.1, done.2.2.trans (List.suffix_cons part rest)⟩

theorem Reading.proper_start {before : List Part} (proper : ∀ part ∈ before, part.Proper) :
    Reading.Proper ⟨before, [], true, none⟩ :=
  ⟨by simpa [view] using proper, by simp [ProperValue]⟩

theorem Reading.recent_start (before : List Part) : Reading.Recent ⟨before, [], true, none⟩ := by
  intro value last
  cases last

theorem keeps_succ (keeps : Keeps count) : Keeps (count + 1) := by
  intro parts value left fewer tokens found
  rw [inner_eq] at found
  obtain ⟨⟨reading, rest⟩, reads, found⟩ := Tiers.bind_eq_ok.mp found
  obtain ⟨range, resolves, found⟩ := Tiers.bind_eq_ok.mp found
  cases found
  obtain ⟨proper, stops, suffix⟩ := keeps.read (Nat.le_of_lt_succ fewer) tokens
    (Reading.proper_start (by simp)) (Reading.recent_start []) reads
  have resolved := Tiers.proper_resolve resolves proper.range
  have start : Reading.start.Loose :=
    ⟨Reading.steady_start.led, fun _ => rfl, by simp [Reading.view, Reading.start]⟩
  obtain ⟨loose, -, -⟩ := (below_all parts.length).read (Nat.le_refl _) tokens.fit start reads
  have kinded : ∀ part ∈ reading.range.parts, part.kind = .expression → part.isOperand = true :=
    fun part member =>
      (proper.range.parts part (List.mem_append_right _ member)).isOperand_of_kind
  have remains := Tiers.resolve_remains resolves loose.led.range kinded
  exact ⟨resolved.value, range.whole, rest, rfl,
    fun part member => ⟨remains.operands part member, resolved.parts part member⟩, stops, suffix⟩

theorem keeps_all (count : Nat) : Keeps count := by
  induction count with
  | zero => exact fun parts _ _ fewer => absurd fewer (Nat.not_lt_zero _)
  | succ count ih => exact keeps_succ ih

theorem done_of_read {before : List Part} {result : Reading × List Part}
    (proper : ∀ part ∈ before, part.Proper) (tokens : Tokens parts)
    (found : answer (read ⟨before, [], true, none⟩ parts) = .ok result) : Done parts result :=
  (keeps_all parts.length).read (Nat.le_refl _) tokens (Reading.proper_start proper)
    (Reading.recent_start before) found

theorem allWellFormed_of_separated {before : List Part} {values : List Expression}
    (proper : ∀ part ∈ before, part.Proper) (tokens : Tokens parts)
    (found : separated before parts = .ok (values, left)) :
    Expression.allWellFormed values = true := by
  induction length : parts.length using Nat.strong_induction_on
    generalizing parts before values left with
  | _ length ih =>
    obtain ⟨reading, rest, range, value, reads, resolves, result, ends⟩ := separated_cases found
    obtain ⟨properReading, -, suffix⟩ := done_of_read proper tokens reads
    have resolved := Tiers.proper_resolve resolves properReading.range
    have formed := resolved.value value result
    rcases ends with ⟨-, rfl, rfl⟩ | ⟨separator, next, others, -, parted, rfl, more⟩
    · simp [Expression.allWellFormed, formed]
    · have later : next <:+ parts :=
        (suffix_of_cons ⟨_, parted.symm⟩ : next <:+ rest).trans suffix
      have passed : ∀ part ∈ (rest.takeWhile (·.kind != .separator)).reverse ++
          range.whole.reverse, part.Proper := by
        intro part member
        simp only [List.mem_append, List.mem_reverse] at member
        rcases member with skipped | left
        · exact (tokens.each part (suffix.subset ((List.takeWhile_sublist _).subset skipped))).2
        · exact resolved.parts part left
      have fewer : next.length < parts.length := by
        have shorter := suffix.length_le
        have lengths := congrArg List.length parted
        simp only [List.length_append, List.length_cons] at lengths
        dsimp only at shorter
        omega
      simpa [Expression.allWellFormed, formed] using
        ih next.length (by omega) passed (tokens.of_suffix later) more rfl

theorem wellFormed_of_analyze {expression : Expression} (tokens : Tokens parts)
    (analyzed : analyze parts = .ok expression) : expression.wellFormed = true := by
  obtain ⟨⟨values, left⟩, found, analyzed⟩ := Tiers.bind_eq_ok.mp analyzed
  have formed := allWellFormed_of_separated (by simp) tokens found
  dsimp only at analyzed
  split at analyzed
  · cases analyzed
  · cases analyzed
    simpa [Expression.allWellFormed] using formed
  · cases analyzed
    exact listOf_wellFormed formed

end PathQuery.Analysis
