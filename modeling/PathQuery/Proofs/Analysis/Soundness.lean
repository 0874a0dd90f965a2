import PathQuery.Proofs.Analysis.Completeness
import PathQuery.Proofs.Analysis.Surplus
import PathQuery.Proofs.Precedence.Unfolding

/-!
What the analysis accepts. A range between brackets that leaves no closing parenthesis over was an
expression, and so were the elements, arguments and indexes in it. Main statement:
`derives_of_analyze`, tokens with balanced parentheses that come to a single expression are
generated by the grammar.
-/

namespace PathQuery.Analysis

open Tiers (folded)

/-- What an analysis between brackets has left: operands, which come first, and what closes the
range. The parts of a range of one operand are the expression that it came to. -/
structure Inside (parts : List Part) (value : Option Expression) (operands rest : List Part) :
    Prop where
  isOperand : ∀ part ∈ operands, part.isOperand = true
  stops : Stops rest
  value_of_nil : operands = [] → value = none
  leaves : Leaves parts rest fun block => (operands = [] → block = []) ∧
    ∀ expression, operands.length = 1 → value = some expression → Derives block expression

/-- All ranges of fewer parts than the given number are analyzed as they should be. -/
def Below (count : Nat) : Prop :=
  ∀ parts value left, parts.length < count → Fit parts →
    answer (inner parts) = .ok (value, left) →
    ∃ operands rest, left = operands ++ rest ∧ Inside parts value operands rest

variable {count : Nat} {parts left : List Part}

theorem Below.closed (below : Below count) {expression : Expression} {operand closing : Part}
    (fewer : parts.length < count) (fit : Fit parts) (closes : closing.kind.closesRange = true)
    (found : answer (inner parts) = .ok (some expression, operand :: closing :: left)) :
    Leaves parts (closing :: left) (Derives · expression) := by
  obtain ⟨operands, rest, split, inside⟩ := below parts _ _ fewer fit found
  match operands with
  | [] => cases inside.value_of_nil rfl
  | [_] =>
    obtain ⟨-, rfl⟩ := List.cons.inj split
    exact inside.leaves.mono fun block derived => derived.2 expression rfl rfl
  | _ :: second :: _ =>
    -- A second operand would stand where the closing part does.
    obtain ⟨-, others⟩ := List.cons.inj split
    obtain ⟨rfl, -⟩ := List.cons.inj others
    have operand := inside.isOperand closing (by simp)
    rw [Part.closesRange_of_isOperand operand] at closes
    cases closes

theorem Below.items (below : Below count) {stop : TokenKind} (kinds : stop.closesRange = true)
    {emptyError missingError : ParseError} {values : List Expression} (fewer : parts.length < count)
    (fit : Fit parts)
    (found : answer (Analysis.items stop emptyError missingError parts) = .ok (values, left)) :
    ∃ closing : Part, closing.kind = stop ∧ Leaves parts (closing :: left) (Elements · values) := by
  induction length : parts.length using Nat.strong_induction_on generalizing parts values with
  | _ length ih =>
    obtain ⟨value, operand, token, rest, analyzed, ends⟩ := items_cases found
    rcases ends with ⟨closes, rfl, rfl⟩ | ⟨separates, others, more, rfl⟩
    · have closed := below.closed fewer fit (by rw [closes]; exact kinds) analyzed
      exact ⟨token, closes, closed.mono fun block derived => .single derived⟩
    · have closed := below.closed fewer fit (by rw [separates]; rfl) analyzed
      have shorter := known_of_answer analyzed
      simp only [List.length_cons] at shorter
      obtain ⟨closing, closes, leaves⟩ :=
        ih rest.length (by omega) (by omega) closed.fit.tail more rfl
      have token := Leaves.single closed.fit (by rw [separates]; rfl)
      refine ⟨closing, closes, (closed.trans (token.trans leaves)).mono ?_⟩
      rintro block ⟨front, back, rfl, derived, _, elements, rfl, ⟨rfl, _⟩, derivedElements⟩
      exact .cons derived separates derivedElements

theorem Below.listed (below : Below count) {start stop : TokenKind} {opening : Part}
    (kinds : stop.closesRange = true) (pair : start.parenthesis + stop.parenthesis = 0)
    (opens : opening.kind = start) {emptyError missingError : ParseError}
    {values : List Expression} (fewer : parts.length < count) (fit : Fit parts)
    (found : answer (Analysis.listed stop emptyError missingError (opening :: parts)) =
      .ok (values, left)) :
    Leaves (opening :: parts) left (Listed start stop · values) := by
  rcases listed_cases found with ⟨next, rfl, closes, rfl⟩ | found
  · refine ((@Leaves.refl _ (· = []) fit rfl).brackets ?_).mono ?_
    · rw [opens, closes]
      exact pair
    · rintro block ⟨_, rfl, rfl⟩
      exact .empty opens closes
  · obtain ⟨closing, closes, leaves⟩ := below.items kinds fewer fit found
    refine (leaves.brackets (by rw [opens, closes]; exact pair)).mono ?_
    rintro block ⟨inside, rfl, elements⟩
    exact .elements opens closes elements

/-- The parts that a target stands for: with arguments behind them they are a call of it. -/
def Calls (callee : List Part) (target : Target) : Prop :=
  ∀ parts arguments, Listed .scopeStart .scopeStop parts arguments →
    Call (callee ++ parts) target arguments

theorem opensScope_iff : opensScope parts = true ↔
    ∃ opening others, parts = opening :: others ∧ opening.kind = .scopeStart := by
  cases parts with
  | nil => simp [opensScope]
  | cons part parts => simp [opensScope]

theorem Below.calls (below : Below count) {target : Target} {call : Expression} {chained : Bool}
    (fewer : parts.length ≤ count) (fit : Fit parts) (opens : opensScope parts = true)
    (found : answer (Analysis.calls target parts) = .ok (call, chained, left)) :
    Leaves parts left fun block => ∀ callee, Calls callee target →
      ∃ target arguments, call = .call target arguments ∧ Call (callee ++ block) target arguments := by
  induction length : parts.length using Nat.strong_induction_on
    generalizing parts target call chained left with
  | _ length ih =>
    obtain ⟨opening, others, rfl, opening_eq⟩ := opensScope_iff.mp opens
    obtain ⟨arguments, behind, analyzed, goesOn⟩ := calls_cases found
    have shorter := known_of_answer analyzed
    simp only [List.length_cons] at shorter fewer length
    have leaves := below.listed rfl rfl opening_eq (by omega) fit.tail analyzed
    rcases goesOn with ⟨again, _, more⟩ | ⟨rfl, rfl⟩
    · have later := ih behind.length (by omega) (by omega) leaves.fit again more rfl
      refine (leaves.trans later).mono ?_
      rintro block ⟨front, back, rfl, listed, derived⟩ callee calls
      obtain ⟨target, others, same, call⟩ := derived (callee ++ front)
        fun parts more brackets => .again (calls front arguments listed) brackets
      exact ⟨target, others, same, by rw [← List.append_assoc]; exact call⟩
    · refine leaves.mono ?_
      intro block listed callee calls
      exact ⟨target, arguments, rfl, calls block arguments listed⟩

theorem Below.path (below : Below count) {segments names : List Segment}
    (fewer : parts.length ≤ count) (fit : Fit parts)
    (found : answer (Analysis.path segments parts) = .ok (names, left)) :
    Leaves parts left fun block => ∀ callee, Path callee segments → Path (callee ++ block) names := by
  induction length : parts.length using Nat.strong_induction_on
    generalizing parts segments with
  | _ length ih =>
    rcases path_cases found with ⟨rfl, rfl⟩ | ⟨part, rest, rfl, name, more⟩ |
      ⟨part, rest, index, operand, closing, after, rfl, opens, analyzed, closes, more⟩
    · exact .refl fit fun callee path => by rwa [List.append_nil]
    · simp only [List.length_cons] at length fewer
      have token := Leaves.single fit (by rw [name]; rfl)
      have later := ih rest.length (by omega) (by omega) fit.tail more rfl
      refine (token.trans later).mono ?_
      rintro block ⟨_, back, rfl, ⟨rfl, token⟩, derived⟩ callee path
      have next := derived (callee ++ [part])
      rw [List.append_assoc] at next
      apply next
      rw [Part.eq_text_of_isToken token name rfl]
      show Path _ (segments ++ pathNames part.render)
      rw [pathNames_eq]
      exact .name path
    · simp only [List.length_cons] at length fewer
      have shorter := known_of_answer analyzed
      simp only [List.length_cons] at shorter
      have closed := below.closed (by omega) fit.tail (by rw [closes]; rfl) analyzed
      have brackets := closed.brackets (by rw [opens, closes]; rfl)
      have later := ih after.length (by omega) (by omega) brackets.fit more rfl
      refine (brackets.trans later).mono ?_
      rintro block ⟨_, back, rfl, ⟨inside, rfl, derives⟩, derived⟩ callee path
      have next := derived (callee ++ part :: inside ++ [closing])
        (.index path opens closes derives)
      simpa using next

/-- What holds of every reading, also of one after a scope that took away something else than its
parenthesis. -/
structure Reading.Loose (reading : Reading) : Prop where
  led : reading.Led
  unread : reading.view = [] → reading.last = none
  met : ∀ part ∈ reading.view, part.isToken = true ∨ part.isOperand = true

/-- A reading goes on to another one over a block: the block continues every sequence of which the
first reading holds the items. -/
def Extends (reading next : Reading) (block : List Part) : Prop :=
  ∀ front, Sequence front reading.view.reverse → reading.Steady →
    Sequence (front ++ block) next.view.reverse ∧ next.Steady

/-- A block ends in an atom with the given item, which may begin before the block; the other items
are those of a second reading. -/
def Settles (reading next : Reading) (item : Part) (block : List Part) : Prop :=
  ∀ front, Sequence front reading.view.reverse → reading.Steady →
    ∃ others atom, front ++ block = others ++ atom ∧ Sequence others next.view.reverse ∧
      Atom atom item

variable {reading next : Reading} {part : Part} {rest : List Part}

theorem settles_of_atom {block : List Part} {item : Part} (atom : Atom block item)
    (view : next.view = reading.view) : Settles reading next item block :=
  fun front sequence _ => ⟨front, block, rfl, view ▸ sequence, atom⟩

theorem loose_put (analyzed : Option Expression) (bounded : Bool) (loose : reading.Loose)
    (led : next.Led) (subset : next.view ⊆ reading.view) :
    Reading.Loose { next.put (.ofAnalysis analyzed) bounded with last := analyzed } := by
  refine ⟨(Reading.steady_put led analyzed bounded).led, by simp, ?_⟩
  rw [Reading.view_put]
  refine List.forall_mem_cons.mpr ⟨.inr (Part.isOperand_ofAnalysis analyzed), ?_⟩
  exact fun part member => loose.met part (subset member)

theorem extends_put {analyzed : Option Expression} {bounded : Bool} {block : List Part}
    (led : next.Led) (settles : Settles reading next (.ofAnalysis analyzed) block) :
    Extends reading { next.put (.ofAnalysis analyzed) bounded with last := analyzed } block := by
  intro front sequence steady
  obtain ⟨others, atom, split, sequence, derives⟩ := settles front sequence steady
  refine ⟨?_, Reading.steady_put led analyzed bounded⟩
  rw [split, Reading.view_put, List.reverse_cons]
  exact sequence.snoc_atom derives

/-- A scope takes away its parentheses and what it came to. If it takes away anything else instead
of the closing parenthesis, the surplus shrinks. -/
theorem Inside.scope {opening : Part} {value : Option Expression} {operands behind : List Part}
    (inside : Inside parts value operands behind) (opens : opening.kind = .scopeStart) :
    Leaves (opening :: parts) ((operands ++ behind).drop (1 + value.toList.length))
      (Atom · (.ofAnalysis value)) := by
  have bound := inside.leaves.surplus_le
  have weight : opening.kind.parenthesis = 1 := by rw [opens]; rfl
  by_cases single : operands.length = value.toList.length
  · have split : (operands ++ behind).drop (1 + value.toList.length) = behind.drop 1 := by
      rw [← single, Nat.add_comm, List.drop_length_add_append]
    rw [split]
    cases behind with
    | nil =>
      refine .of_lt .nil ?_
      rw [surplus_cons, List.drop_nil]
      omega
    | cons closing left =>
      rw [List.drop_one, List.tail_cons]
      by_cases closes : closing.kind = .scopeStop
      · refine (inside.leaves.brackets (by rw [opens, closes]; rfl)).mono ?_
        rintro block ⟨parts, rfl, empty, derives⟩
        cases value with
        | none =>
          rw [empty (List.length_eq_zero_iff.mp single)]
          exact .unit opens closes
        | some expression => exact .scope opens closes (derives expression single rfl)
      · have other : closing.kind.parenthesis = 0 := by
          have ranged := inside.stops closing rfl
          revert ranged closes
          cases closing.kind <;> simp [TokenKind.closesRange, TokenKind.parenthesis]
        refine .of_lt inside.leaves.fit.tail ?_
        rw [surplus_cons] at bound ⊢
        omega
  · have taken : 1 + value.toList.length ≤ operands.length := by
      cases value with
      | none => exact Nat.one_le_iff_ne_zero.mpr single
      | some expression =>
        have some := mt inside.value_of_nil (by simp)
        have positive := List.length_pos_iff.mpr some
        simp only [Option.toList_some, List.length_singleton] at single ⊢
        omega
    have fewer := surplus_of_isOperand fun part member =>
      inside.isOperand part (List.mem_of_mem_drop (i := 1 + value.toList.length) member)
    refine .of_lt ((inside.leaves.fit.append_of_isOperand inside.isOperand).drop _) ?_
    rw [List.drop_append_of_le_length taken, surplus_append, fewer, surplus_cons, weight]
    omega

theorem Reading.Steady.begins {front : List Part} (steady : reading.Steady)
    (sequence : Sequence front reading.view.reverse) (token : part.isToken = true)
    (name : part.kind = .path) :
    ∃ others callee, front ++ [part] = others ++ callee ∧
      Sequence others reading.takeCall.2.view.reverse ∧
      Path callee (reading.takeCall.1 ++ pathNames part.render) := by
  have text := Part.eq_text_of_isToken token name rfl
  by_cases called : ∃ target arguments,
      reading.view.head? = some (.expression .expression (.call target arguments))
  · obtain ⟨target, arguments, recent⟩ := called
    obtain ⟨items, view⟩ := List.head?_eq_some_iff.mp recent
    obtain ⟨taken, rest, -⟩ := steady.takeCall_of_eq view
    rw [view, List.reverse_cons] at sequence
    obtain ⟨others, block, rfl, sequence, atom⟩ := sequence.of_snoc rfl
    refine ⟨others, block ++ [part], by simp, by rw [rest]; exact sequence, ?_⟩
    rw [taken, pathNames_eq, text]
    exact .after atom
  · have same := steady.takeCall_of_ne fun target arguments recent =>
      called ⟨target, arguments, recent⟩
    refine ⟨front, [part], rfl, by rw [same]; exact sequence, ?_⟩
    rw [same, pathNames_eq, text]
    exact .start

/-- One step of a reading that has the given result: it goes on to another reading over parts that
it takes away. -/
def Step (reading : Reading) (part : Part) (rest : List Part) (result : Reading × List Part) : Prop :=
  ∃ now middle, middle.length ≤ rest.length ∧ now.Loose ∧
    Leaves (part :: rest) middle (Extends reading now) ∧ answer (read now middle) = .ok result

section Steps

variable {result : Reading × List Part}

theorem Below.step_scope (below : Below count) (fewer : rest.length < count)
    (fit : Fit (part :: rest)) (loose : reading.Loose) (opens : part.kind = .scopeStart)
    (found : answer (read reading (part :: rest)) = .ok result) :
    Step reading part rest result := by
  rw [read_scope opens] at found
  obtain ⟨⟨child, left⟩, analyzed, found⟩ := Tiers.bind_eq_ok.mp found
  have shorter := known_of_answer analyzed
  dsimp only at shorter
  obtain ⟨operands, behind, rfl, inside⟩ := below rest child left fewer fit.tail analyzed
  refine ⟨_, _, ?_, loose_put child true loose loose.led (List.Subset.refl _), ?_, found⟩
  · rw [List.length_drop]
    omega
  · exact (inside.scope opens).mono fun block atom => extends_put loose.led (settles_of_atom atom rfl)

theorem Below.step_method (below : Below count) (fewer : rest.length < count)
    (fit : Fit (part :: rest)) (loose : reading.Loose) (method : part.kind = .method)
    (found : answer (read reading (part :: rest)) = .ok result) :
    Step reading part rest result := by
  rw [read_method method] at found
  obtain ⟨⟨call, chained, left⟩, analyzed, found⟩ := Tiers.bind_eq_ok.mp found
  have shorter := known_of_answer analyzed
  dsimp only at shorter
  have opens : opensScope rest = true := by
    cases rest with
    | nil => exact absurd shorter (by simp)
    | cons next rest => simpa [opensScope] using (List.isChain_cons_cons.mp fit.called).1 method
  have calls := below.calls (Nat.le_of_lt fewer) fit.tail opens analyzed
  have token := Leaves.single fit (by rw [method]; rfl)
  have led : Reading.Led (if chained then reading.displaced else reading) := by
    split <;> exact loose.led
  have view : Reading.view (if chained then reading.displaced else reading) = reading.view := by
    split <;> rfl
  have looseNow := loose_put (some call) (!left.isEmpty) loose led
    (by rw [view]; exact List.Subset.refl _)
  refine ⟨_, left, by omega, looseNow, ?_, found⟩
  refine (token.trans calls).mono ?_
  rintro block ⟨_, back, rfl, ⟨rfl, token⟩, derived⟩
  refine extends_put led (settles_of_atom ?_ view)
  have text := Part.eq_text_of_isToken token method rfl
  obtain ⟨target, arguments, rfl, call⟩ := derived [part] fun parts arguments listed => by
    rw [text]
    exact .method listed
  exact .call call

theorem Below.step_index (below : Below count) (fewer : rest.length < count)
    (fit : Fit (part :: rest)) (loose : reading.Loose) (opens : part.kind = .indexStart)
    (found : answer (read reading (part :: rest)) = .ok result) :
    Step reading part rest result := by
  rw [read_index opens] at found
  obtain ⟨⟨elements, left⟩, analyzed, found⟩ := Tiers.bind_eq_ok.mp found
  have shorter := known_of_answer analyzed
  dsimp only at shorter
  simp only [List.length_cons] at shorter
  have listed := below.listed rfl rfl opens fewer fit.tail analyzed
  have looseNow := loose_put (some (listOf elements)) (!left.isEmpty) loose loose.led
    (List.Subset.refl _)
  refine ⟨_, left, by omega, looseNow, ?_, found⟩
  exact listed.mono fun block elements =>
    extends_put loose.led (settles_of_atom (atom_listOf elements) rfl)

theorem Below.step_path (below : Below count) (fewer : rest.length < count)
    (fit : Fit (part :: rest)) (loose : reading.Loose) (name : part.kind = .path)
    (found : answer (read reading (part :: rest)) = .ok result) :
    Step reading part rest result := by
  rw [read_path name] at found
  obtain ⟨⟨segments, left⟩, analyzed, found⟩ := Tiers.bind_eq_ok.mp found
  have shorter := known_of_answer analyzed
  dsimp only at shorter
  have token := Leaves.single fit (by rw [name]; rfl)
  have path := token.trans (below.path (Nat.le_of_lt fewer) fit.tail analyzed)
  have led : reading.takeCall.2.Led := Reading.takeCall_led loose.led
  have subset := reading.takeCall_subset.2
  dsimp only at found
  split at found
  · rename_i opens
    obtain ⟨⟨call, _, after⟩, called, found⟩ := Tiers.bind_eq_ok.mp found
    have fewerAfter := known_of_answer called
    dsimp only at fewerAfter
    have calls := below.calls (by omega) path.fit opens called
    have displaced : reading.takeCall.2.displaced.Led := led
    have looseNow := loose_put (some call) (!after.isEmpty) loose displaced subset
    refine ⟨_, after, by omega, looseNow, ?_, found⟩
    refine (path.trans calls).mono ?_
    rintro block ⟨_, last, rfl, ⟨_, back, rfl, ⟨rfl, token⟩, derived⟩, derivedCall⟩
    refine extends_put led fun front sequence steady => ?_
    obtain ⟨others, callee, split, sequence, begins⟩ := steady.begins sequence token name
    obtain ⟨target, arguments, rfl, call⟩ := derivedCall (callee ++ back)
      fun parts arguments listed => .ofPath (derived callee begins) listed
    refine ⟨others, callee ++ back ++ last, ?_, sequence, .call call⟩
    rw [← List.append_assoc, ← List.append_assoc, split]
    simp
  · have looseNow := loose_put (some (.path segments)) (!left.isEmpty) loose led subset
    refine ⟨_, left, shorter, looseNow, ?_, found⟩
    refine path.mono ?_
    rintro block ⟨_, back, rfl, ⟨rfl, token⟩, derived⟩
    refine extends_put led fun front sequence steady => ?_
    obtain ⟨others, callee, split, sequence, begins⟩ := steady.begins sequence token name
    refine ⟨others, callee ++ back, ?_, sequence, .path (derived callee begins)⟩
    rw [← List.append_assoc, split]
    simp

theorem step_keep (fit : Fit (part :: rest)) (loose : reading.Loose)
    (other : part.kind.isStructural = false)
    (found : answer (read reading (part :: rest)) = .ok result) :
    Step reading part rest result := by
  rw [read_keep other] at found
  have token := Leaves.single fit (by
    revert other
    cases part.kind <;> simp [TokenKind.isStructural, TokenKind.parenthesis])
  refine ⟨reading.keep part, rest, Nat.le_refl _, ⟨loose.led, by simp, ?_⟩, token.mono ?_, found⟩
  · exact List.forall_mem_cons.mpr ⟨fit.met part List.mem_cons_self, loose.met⟩
  · rintro block ⟨rfl, token⟩ front sequence steady
    have plain : part.isPlain = true := by
      simp [Part.isPlain, token, other]
    refine ⟨?_, steady.keep plain⟩
    rw [Reading.view_keep, List.reverse_cons]
    exact sequence.snoc_plain plain

theorem Below.step (below : Below count) (fewer : rest.length < count) (fit : Fit (part :: rest))
    (loose : reading.Loose) (inRange : part.kind.closesRange = false)
    (found : answer (read reading (part :: rest)) = .ok result) : Step reading part rest result := by
  by_cases opens : part.kind = .scopeStart
  · exact below.step_scope fewer fit loose opens found
  by_cases method : part.kind = .method
  · exact below.step_method fewer fit loose method found
  by_cases index : part.kind = .indexStart
  · exact below.step_index fewer fit loose index found
  by_cases name : part.kind = .path
  · exact below.step_path fewer fit loose name found
  refine step_keep fit loose ?_ found
  revert inRange opens method index name
  cases part.kind <;> simp [TokenKind.closesRange, TokenKind.isStructural]

end Steps

theorem Below.read (below : Below count) (fewer : parts.length ≤ count) (fit : Fit parts)
    (loose : reading.Loose) (found : answer (Analysis.read reading parts) = .ok (next, left)) :
    next.Loose ∧ Stops left ∧ Leaves parts left (Extends reading next) := by
  induction length : parts.length using Nat.strong_induction_on generalizing parts reading with
  | _ length ih =>
    cases parts with
    | nil =>
      rw [read_nil] at found
      cases found
      refine ⟨loose, by simp [Stops], .refl fit ?_⟩
      exact fun front sequence steady => ⟨by rwa [List.append_nil], steady⟩
    | cons part rest =>
      cases closes : part.kind.closesRange with
      | true =>
        rw [read_closes closes] at found
        cases found
        refine ⟨loose, stops_cons closes, .refl fit ?_⟩
        exact fun front sequence steady => ⟨by rwa [List.append_nil], steady⟩
      | false =>
        simp only [List.length_cons] at fewer length
        obtain ⟨now, middle, shorter, looseNow, leaves, found⟩ :=
          below.step (by omega) fit loose closes found
        obtain ⟨looseNext, stops, later⟩ :=
          ih middle.length (by omega) (by omega) leaves.fit looseNow found rfl
        refine ⟨looseNext, stops, (leaves.trans later).mono ?_⟩
        rintro block ⟨first, second, rfl, begins, goesOn⟩ front sequence steady
        obtain ⟨sequence, steady⟩ := begins front sequence steady
        rw [← List.append_assoc]
        exact goesOn (front ++ first) sequence steady

theorem value_of_resolve {items : List Part} {operand : Part} {range : Tiers.Range}
    (steady : reading.Steady) (view : reading.view = items.reverse)
    (phrase : Phrase (maxTier + 1) 0 items operand)
    (resolves : Tiers.resolve reading.range = .ok range) : range.value = operand.value? := by
  cases value : operand.value? with
  | some expression =>
    obtain ⟨same, found, -, result⟩ := resolve_of_phrase steady view phrase value
    rw [resolves] at found
    cases found
    exact result
  | none =>
    rw [Part.eq_empty_of_value value] at phrase
    rw [phrase.eq_of_empty] at view
    have unset : reading.last = none := by
      rcases steady.recent _ (by rw [view]; rfl) with plain | same
      · cases plain
      · rw [← Part.value_ofAnalysis reading.last, ← same]
        rfl
    obtain ⟨before, seen, fresh, last⟩ := reading
    obtain rfl : last = none := unset
    replace view : seen ++ before = [.empty .expression] := view
    rcases List.append_eq_singleton_iff.mp view with ⟨rfl, rfl⟩ | ⟨rfl, rfl⟩
    · cases resolves
      rfl
    · cases resolves
      rfl

theorem below_succ (below : Below count) : Below (count + 1) := by
  intro parts value left fewer fit found
  rw [inner_eq] at found
  obtain ⟨⟨reading, rest⟩, reads, found⟩ := Tiers.bind_eq_ok.mp found
  obtain ⟨range, resolves, found⟩ := Tiers.bind_eq_ok.mp found
  cases found
  have loose : Reading.start.Loose :=
    ⟨Reading.steady_start.led, fun _ => rfl, by simp [Reading.view, Reading.start]⟩
  obtain ⟨loose, stops, leaves⟩ := below.read (Nat.le_of_lt_succ fewer) fit loose reads
  have kinded : ∀ part ∈ reading.range.parts, part.kind = .expression → part.isOperand = true := by
    intro part member same
    rcases loose.met part (List.mem_append_left _ (List.mem_reverse.mp member)) with token | operand
    · exact absurd same (Part.kind_ne_expression_of_isToken token)
    · exact operand
  obtain ⟨operands, empty, single⟩ := Tiers.resolve_remains resolves loose.led.range kinded
  rw [Reading.whole_range] at empty single
  refine ⟨range.whole, rest, rfl, operands, stops, ?_, leaves.mono ?_⟩
  · intro nothing
    have unread : reading.view = [] := by simpa using empty nothing
    have unset := loose.unread unread
    obtain ⟨before, seen, fresh, last⟩ := reading
    obtain ⟨rfl, rfl⟩ := List.append_eq_nil_iff.mp unread
    obtain rfl : last = none := unset
    cases resolves
    rfl
  · intro block continues
    obtain ⟨sequence, steady⟩ := continues [] .nil Reading.steady_start
    refine ⟨?_, ?_⟩
    · intro nothing
      rw [empty nothing] at sequence
      cases sequence
      rfl
    · intro expression one value
      obtain ⟨operand, whole⟩ := List.length_eq_one_iff.mp one
      have phrase := single operand whole
      refine .phrase sequence phrase ?_
      rw [← value_of_resolve steady (List.reverse_reverse _).symm phrase resolves, value]

theorem below_all (count : Nat) : Below count := by
  induction count with
  | zero => exact fun parts _ _ fewer => absurd fewer (Nat.not_lt_zero _)
  | succ count ih => exact below_succ ih

/-- Whether the analysis comes to one expression, so that no separator was found outside of every
scope. -/
def Single (parts : List Part) : Prop :=
  ∃ expression left, separated [] parts = .ok ([expression], left)

instance (parts : List Part) : Decidable (Single parts) :=
  match found : separated [] parts with
  | .ok ([expression], left) => isTrue ⟨expression, left, found⟩
  | .ok ([], _) => isFalse fun ⟨_, _, same⟩ => by rw [found] at same; cases same
  | .ok (_ :: _ :: _, _) => isFalse fun ⟨_, _, same⟩ => by rw [found] at same; cases same
  | .error _ => isFalse fun ⟨_, _, same⟩ => by rw [found] at same; cases same

theorem ne_nil_of_separated {before parts left : List Part} {values : List Expression}
    (found : separated before parts = .ok (values, left)) : values ≠ [] := by
  obtain ⟨_, _, _, value, -, -, -, ends⟩ := separated_cases found
  rcases ends with ⟨-, rfl, -⟩ | ⟨_, _, others, -, -, rfl, -⟩
  · exact List.cons_ne_nil value []
  · exact List.cons_ne_nil value others

theorem inner_of_separated {expression : Expression}
    (found : separated [] parts = .ok ([expression], left)) :
    answer (inner parts) = .ok (some expression, left) := by
  obtain ⟨reading, rest, range, value, reads, resolves, result, ends⟩ := separated_cases found
  rcases ends with ⟨-, same, rfl⟩ | ⟨_, _, others, -, -, same, more⟩
  · cases same
    rw [inner_eq]
    show answer (read ⟨[], [], true, none⟩ parts) >>= _ = _
    rw [reads]
    show Tiers.resolve reading.range >>= _ = _
    rw [resolves]
    show Except.ok (range.value, range.whole ++ rest) = _
    rw [result]
  · cases same
    exact absurd rfl (ne_nil_of_separated more)

theorem analyze_of_separated {expression : Expression}
    (found : separated [] parts = .ok ([expression], left)) :
    analyze parts = match left.drop 1 with
      | extra :: _ => .error (.danglingToken extra.render)
      | [] => .ok expression := by
  rw [analyze, found]
  simp only [bind, Except.bind, List.length_singleton]
  cases left.drop 1 <;> rfl

/-- Tokens with as many closing as opening parentheses that come to a single expression are
generated by the grammar. -/
theorem derives_of_analyze {expression : Expression} (fit : Fit parts)
    (tokens : ∀ part ∈ parts, part.isToken = true) (balanced : surplus parts = 0)
    (analyzed : analyze parts = .ok expression) (single : Single parts) :
    Derives parts expression := by
  obtain ⟨value, left, found⟩ := single
  rw [analyze_of_separated found] at analyzed
  split at analyzed
  · cases analyzed
  · rename_i nothing
    cases analyzed
    obtain ⟨operands, rest, rfl, inside⟩ :=
      below_all (parts.length + 1) parts _ _ (Nat.lt_succ_self _) fit (inner_of_separated found)
    have few : operands.length + rest.length ≤ 1 := by
      have dropped := congrArg List.length nothing
      simp only [List.length_drop, List.length_append, List.length_nil] at dropped
      omega
    have some : operands.length ≠ 0 := by
      intro nothing
      cases inside.value_of_nil (List.length_eq_zero_iff.mp nothing)
    obtain rfl : rest = [] := List.length_eq_zero_iff.mp (by omega)
    obtain ⟨block, rfl, -, derives⟩ := inside.leaves.derives balanced.symm tokens
    rw [List.append_nil]
    exact derives expression (by omega) rfl

end PathQuery.Analysis
