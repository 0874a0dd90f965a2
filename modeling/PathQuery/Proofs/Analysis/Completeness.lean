import PathQuery.Proofs.Analysis.Equations
import PathQuery.Proofs.Precedence.Resolution

/-!
The analysis of what the grammar generates. Each lemma follows the reading over the parts of one
derivation, whatever stands after them. Main statement: `analyze_derives`, the analysis answers the
expression of a derivation.
-/

namespace PathQuery.Analysis

open Tiers (folded)

/-- What can come after an operand: nothing that an atom of its kind would take in. -/
def Ends (item : Part) (rest : List Part) : Prop :=
  ∀ next ∈ rest.head?, next.kind ≠ .scopeStart ∧
    ((∃ segments, item = folded (.path segments)) → next.kind ≠ .path ∧ next.kind ≠ .indexStart)

/-- What can come after a range: what closes it, or nothing. -/
def Stops (rest : List Part) : Prop :=
  ∀ next ∈ rest.head?, next.kind.closesRange = true

theorem Stops.ends {rest : List Part} (stops : Stops rest) (item : Part) : Ends item rest := by
  intro next first
  have closes := stops next first
  refine ⟨?_, fun _ => ⟨?_, ?_⟩⟩ <;>
  · intro same
    rw [same] at closes
    cases closes

theorem stops_cons {closing : Part} {rest : List Part} (closes : closing.kind.closesRange = true) :
    Stops (closing :: rest) := by
  intro next first
  obtain rfl := Option.some.inj first
  exact closes

theorem opensScope_of_ends {item : Part} {rest : List Part} (ends : Ends item rest) :
    opensScope rest = false := by
  cases rest with
  | nil => rfl
  | cons next rest => simpa [opensScope] using (ends next rfl).1

theorem Ends.path_eq {segments : List Segment} {rest : List Part}
    (ends : Ends (folded (.path segments)) rest) : answer (path segments rest) = .ok (segments, rest) := by
  cases rest with
  | nil => exact path_nil
  | cons next rest => exact path_ends ((ends next rfl).2 ⟨segments, rfl⟩)

namespace Reading

variable {reading : Reading}

/-- A reading at whose end an operand can stand. -/
def Open (reading : Reading) : Prop :=
  ∀ last ∈ reading.view.head?, last.isOperand = false

theorem open_of_isChain {item : Part} {items : List Part}
    (spaced : (reading.view.reverse ++ item :: items).IsChain Apart)
    (operand : item.isOperand = true) : reading.Open := by
  intro last recent
  obtain ⟨farther, view⟩ := List.head?_eq_some_iff.mp recent
  rw [view, List.reverse_cons, List.append_assoc, List.singleton_append] at spaced
  have apart := (List.isChain_cons_cons.mp (List.isChain_append.mp spaced).2.1).1
  by_contra other
  have operator := apart (by simpa using other)
  rw [Part.isOperator_of_isOperand operand] at operator
  cases operator

/-- A path that begins here takes no call. -/
theorem Open.takeCall_eq (free : reading.Open) (steady : reading.Steady) :
    reading.takeCall = ([], reading) := by
  refine steady.takeCall_of_ne fun target arguments recent => ?_
  cases free _ recent

end Reading

def afterCall (reading : Reading) (call : Expression) (rest : List Part) :
    Except ParseError (Reading × List Part) :=
  if opensScope rest then readCall reading (.expression call) rest
  else answer (read { reading.put (folded call) (!rest.isEmpty) with last := some call } rest)

theorem readCall_of_listed {reading : Reading} {target : Target} {arguments : List Expression}
    {parts rest : List Part}
    (listed : ∀ emptyError missingError,
      answer (Analysis.listed .scopeStop emptyError missingError (parts ++ rest)) =
        .ok (arguments, rest)) :
    readCall reading target (parts ++ rest) =
      afterCall reading.displaced (.call target arguments) rest := by
  unfold readCall afterCall
  rw [calls_eq, listed]
  show (if opensScope rest then _ else _) >>= _ = _
  split
  · unfold readCall
    cases answer (calls (.expression (.call target arguments)) rest) <;> rfl
  · rfl

theorem read_method_of_listed {reading : Reading} {name : String} {arguments : List Expression}
    {parts rest : List Part}
    (listed : ∀ emptyError missingError,
      answer (Analysis.listed .scopeStop emptyError missingError (parts ++ rest)) =
        .ok (arguments, rest)) :
    answer (read reading (.text .method name :: parts ++ rest)) =
      afterCall reading (.call (.name name) arguments) rest := by
  rw [List.cons_append, read_method rfl]
  unfold afterCall
  show answer (calls (.name name) (parts ++ rest)) >>= _ = _
  rw [calls_eq, listed]
  show (if opensScope rest then _ else _) >>= _ = _
  split
  · unfold readCall
    cases answer (calls (.expression (.call (.name name) arguments)) rest) <;> rfl
  · rfl

theorem read_list_of_listed {reading : Reading} {elements : List Expression}
    {parts rest : List Part} (brackets : Listed .indexStart .indexStop parts elements)
    (listed : ∀ emptyError missingError,
      answer (Analysis.listed .indexStop emptyError missingError (parts ++ rest)) =
        .ok (elements, rest)) :
    answer (read reading (parts ++ rest)) =
      answer (read { reading.put (folded (listOf elements)) (!rest.isEmpty) with
        last := some (listOf elements) } rest) := by
  obtain ⟨opening, others, rfl, opens⟩ := brackets.opening
  rw [List.cons_append, read_index opens, ← List.cons_append, listed]
  rfl

theorem opensScope_of_listed {stop : TokenKind} {parts : List Part} {arguments : List Expression}
    (brackets : Listed .scopeStart stop parts arguments) (rest : List Part)
    (segments : List Segment) :
    opensScope (parts ++ rest) = true ∧
      answer (path segments (parts ++ rest)) = .ok (segments, parts ++ rest) := by
  obtain ⟨opening, others, rfl, opens⟩ := brackets.opening
  exact ⟨by simp [opensScope, opens], path_ends (by rw [opens]; simp)⟩

theorem ends_of_sequence {item : Part} {parts items rest : List Part}
    (sequence : Sequence parts items) (spaced : (item :: items).IsChain Apart)
    (operand : item.isOperand = true) (stops : Stops rest) : Ends item (parts ++ rest) := by
  cases sequence with
  | nil => exact stops.ends item
  | @plain part _ _ plain _ =>
    intro next first
    obtain rfl := Option.some.inj first
    simp only [Part.isPlain, Bool.and_eq_true, Bool.not_eq_true'] at plain
    refine ⟨?_, fun _ => ⟨?_, ?_⟩⟩ <;>
    · intro same
      rw [same] at plain
      cases plain.2
  | atom atom _ =>
    have operator := (List.isChain_cons_cons.mp spaced).1 operand
    rw [Part.isOperator_of_isOperand atom.isOperand] at operator
    cases operator

section Brackets

variable {stop : TokenKind} {emptyError missingError : ParseError}

theorem inner_of_closes {closing : Part} {rest : List Part}
    (closes : closing.kind.closesRange = true) :
    answer (inner (closing :: rest)) = .ok (none, closing :: rest) := by
  rw [inner_eq, read_closes closes]
  rfl

theorem items_of_closes {closing : Part} {rest : List Part}
    (closes : closing.kind.closesRange = true) :
    answer (items stop emptyError missingError (closing :: rest)) = .error emptyError := by
  rw [items_eq, inner_of_closes closes]
  rfl

theorem listed_of_items {opening : Part} {expressions : List Expression} {parts rest : List Part}
    (closes : stop.closesRange = true)
    (found : answer (items stop emptyError missingError parts) = .ok (expressions, rest)) :
    answer (listed stop emptyError missingError (opening :: parts)) = .ok (expressions, rest) := by
  cases parts with
  | nil =>
    rw [items_eq, inner_eq, read_nil] at found
    cases found
  | cons next others =>
    rw [listed_eq, if_neg, found]
    intro same
    rw [items_of_closes (by rw [eq_of_beq same]; exact closes)] at found
    cases found

theorem items_of_last {closing operand : Part} {expression : Expression} {parts rest : List Part}
    (closes : closing.kind = stop)
    (found : answer (inner parts) = .ok (some expression, operand :: closing :: rest)) :
    answer (items stop emptyError missingError parts) = .ok ([expression], rest) := by
  rw [items_eq, found]
  show (if closing.kind == stop then _ else _) = _
  rw [closes]
  exact if_pos (beq_self_eq_true stop)

theorem items_of_separator {separator operand : Part} {expression : Expression}
    {expressions : List Expression} {parts others rest : List Part}
    (separates : separator.kind = .separator) (differs : stop ≠ .separator)
    (found : answer (inner parts) = .ok (some expression, operand :: separator :: others))
    (more : answer (items stop emptyError missingError others) = .ok (expressions, rest)) :
    answer (items stop emptyError missingError parts) = .ok (expression :: expressions, rest) := by
  rw [items_eq, found]
  show (if separator.kind == stop then _ else if separator.kind == .separator then _ else _) = _
  rw [separates, if_neg (by simpa using differs.symm),
    if_pos (beq_self_eq_true TokenKind.separator), more]
  rfl

end Brackets

theorem resolve_of_phrase {reading : Reading} {items : List Part} {operand : Part}
    {expression : Expression} (steady : reading.Steady) (view : reading.view = items.reverse)
    (phrase : Phrase (maxTier + 1) 0 items operand) (value : operand.value? = some expression) :
    ∃ range, Tiers.resolve reading.range = .ok range ∧ range.whole = [operand] ∧
      range.value = some expression := by
  have whole : reading.range.whole = items := by
    rw [Reading.whole_range, view, List.reverse_reverse]
  refine Tiers.resolve_phrase (whole.symm ▸ phrase) steady.led.range value ?_
  intro unseen
  have before : reading.before.reverse = items := by
    rw [← whole, Tiers.Range.whole, unseen, List.append_nil]
    rfl
  rcases steady.led.range.of_phrase (whole.symm ▸ phrase) with none | ⟨first, single, -⟩
  · replace none : reading.before = [] := none
    rw [none] at before
    exact absurd before.symm phrase.ne_nil
  · replace single : reading.before = [first] := single
    rw [single] at before
    rw [← before] at phrase view
    obtain rfl := phrase.eq_of_singleton
    rcases steady.recent first (by rw [view]; rfl) with plain | same
    · obtain ⟨analyzed, same⟩ := steady.led first (by rw [single]; exact List.mem_cons_self)
      rw [same, Part.isPlain_ofAnalysis] at plain
      cases plain
    · rw [same, Part.value_ofAnalysis] at value
      exact value

mutual

theorem inner_derives {parts : List Part} {expression : Expression} :
    Derives parts expression → ∀ rest, Stops rest →
      ∃ operand, answer (inner (parts ++ rest)) = .ok (some expression, operand :: rest)
  | @Derives.phrase _ items operand _ sequence phrase value => by
    intro rest stops
    obtain ⟨next, steady, view, reads⟩ :=
      read_sequence sequence .start rest Reading.steady_start phrase.isChain stops
    obtain ⟨range, resolves, whole, result⟩ :=
      resolve_of_phrase steady (view.trans (List.append_nil _)) phrase value
    refine ⟨operand, ?_⟩
    rw [inner_eq, reads]
    show Tiers.resolve next.range >>= _ = _
    rw [resolves]
    show Except.ok (range.value, range.whole ++ rest) = _
    rw [whole, result]
    rfl

theorem read_sequence {parts items : List Part} :
    Sequence parts items → ∀ reading rest, reading.Steady →
      (reading.view.reverse ++ items).IsChain Apart → Stops rest →
      ∃ next : Reading, next.Steady ∧ next.view = items.reverse ++ reading.view ∧
        answer (read reading (parts ++ rest)) = .ok (next, rest)
  | .nil => by
    intro reading rest steady spaced stops
    refine ⟨reading, steady, rfl, ?_⟩
    cases rest with
    | nil => exact read_nil
    | cons closing rest => exact read_closes (stops closing rfl)
  | @Sequence.plain part _ items plain sequence => by
    intro reading rest steady spaced stops
    have nextSpaced : ((reading.keep part).view.reverse ++ items).IsChain Apart := by
      simpa using spaced
    obtain ⟨next, nextSteady, view, reads⟩ :=
      read_sequence sequence (reading.keep part) rest (steady.keep plain) nextSpaced stops
    refine ⟨next, nextSteady, by simpa using view, ?_⟩
    rw [List.cons_append, read_keep, reads]
    simp only [Part.isPlain, Bool.and_eq_true, Bool.not_eq_true'] at plain
    exact plain.2
  | @Sequence.atom _ parts items item atom sequence => by
    intro reading rest steady spaced stops
    have free : reading.Open := Reading.open_of_isChain spaced atom.isOperand
    have ends : Ends item (parts ++ rest) :=
      ends_of_sequence sequence (List.isChain_append.mp spaced).2.1 atom.isOperand stops
    obtain ⟨settled, settledSteady, settledView, settles⟩ :=
      read_atom atom reading (parts ++ rest) steady free ends
    have nextSpaced : (settled.view.reverse ++ items).IsChain Apart := by
      simpa [settledView] using spaced
    obtain ⟨next, nextSteady, view, reads⟩ :=
      read_sequence sequence settled rest settledSteady nextSpaced stops
    refine ⟨next, nextSteady, by simpa [settledView] using view, ?_⟩
    rw [List.append_assoc, settles, reads]

theorem read_atom {block : List Part} {item : Part} :
    Atom block item → ∀ reading rest, reading.Steady → reading.Open → Ends item rest →
      ∃ next : Reading, next.Steady ∧ next.view = item :: reading.view ∧
        answer (read reading (block ++ rest)) = answer (read next rest)
  | .unit opens closes => by
    intro reading rest steady free ends
    refine ⟨_, Reading.steady_put steady.led none true, Reading.view_put .., ?_⟩
    rw [List.cons_append, read_scope opens, List.singleton_append,
      inner_of_closes (by rw [closes]; rfl)]
    rfl
  | @Atom.scope _ _ closing expression opens closes derives => by
    intro reading rest steady free ends
    obtain ⟨operand, inside⟩ := inner_derives derives (closing :: rest)
      (stops_cons (by rw [closes]; rfl))
    refine ⟨_, Reading.steady_put steady.led (some expression) true, Reading.view_put .., ?_⟩
    rw [List.append_assoc, List.cons_append, read_scope opens, List.singleton_append, inside]
    rfl
  | @Atom.array _ values listed => by
    intro reading rest steady free ends
    refine ⟨_, Reading.steady_put steady.led (some (.literal (.array values))) (!rest.isEmpty),
      Reading.view_put .., ?_⟩
    rw [read_list_of_listed listed fun emptyError missingError =>
      listed_listed listed (.inr rfl) emptyError missingError rest, listOf_map]
    rfl
  | @Atom.list _ elements listed mixed => by
    intro reading rest steady free ends
    refine ⟨_, Reading.steady_put steady.led (some (.call (.name "list") elements)) (!rest.isEmpty),
      Reading.view_put .., ?_⟩
    rw [read_list_of_listed listed fun emptyError missingError =>
      listed_listed listed (.inr rfl) emptyError missingError rest, listOf_of_ne mixed]
    rfl
  | @Atom.call _ target arguments call => by
    intro reading rest steady free ends
    obtain ⟨next, led, view, reads⟩ := read_call call reading rest steady free
    refine ⟨_, Reading.steady_put led (some (.call target arguments)) (!rest.isEmpty), ?_, ?_⟩
    · rw [Reading.view_put, view]
      rfl
    · rw [reads, afterCall, opensScope_of_ends ends]
      rfl
  | @Atom.path _ segments path => by
    intro reading rest steady free ends
    obtain ⟨next, led, view, reads⟩ := read_segments path reading rest steady free
    refine ⟨_, Reading.steady_put led (some (.path segments)) (!rest.isEmpty), ?_, ?_⟩
    · rw [Reading.view_put, view]
      rfl
    · rw [reads, readPath, ends.path_eq]
      show (if opensScope rest then _ else _) = _
      rw [opensScope_of_ends ends]
      rfl

theorem read_call {parts : List Part} {target : Target} {arguments : List Expression} :
    Call parts target arguments → ∀ reading rest, reading.Steady → reading.Open →
      ∃ next : Reading, next.Led ∧ next.view = reading.view ∧
        answer (read reading (parts ++ rest)) = afterCall next (.call target arguments) rest
  | .method listed => by
    intro reading rest steady free
    refine ⟨reading, steady.led, rfl, ?_⟩
    exact read_method_of_listed fun emptyError missingError =>
      listed_listed listed (.inl rfl) emptyError missingError rest
  | @Call.again _ parts _ _ _ call listed => by
    intro reading rest steady free
    obtain ⟨next, led, view, reads⟩ := read_call call reading (parts ++ rest) steady free
    refine ⟨next.displaced, led, view, ?_⟩
    rw [List.append_assoc, reads, afterCall, if_pos (opensScope_of_listed listed rest []).1]
    exact readCall_of_listed fun emptyError missingError =>
      listed_listed listed (.inl rfl) emptyError missingError rest
  | @Call.ofPath _ parts segments _ path listed => by
    intro reading rest steady free
    obtain ⟨next, led, view, reads⟩ := read_segments path reading (parts ++ rest) steady free
    refine ⟨next.displaced, led, view, ?_⟩
    obtain ⟨opens, stays⟩ := opensScope_of_listed listed rest segments
    rw [List.append_assoc, reads, readPath, stays]
    show (if opensScope (parts ++ rest) then _ else _) = _
    rw [if_pos opens]
    exact readCall_of_listed fun emptyError missingError =>
      listed_listed listed (.inl rfl) emptyError missingError rest

theorem read_segments {parts : List Part} {segments : List Segment} :
    Path parts segments → ∀ reading rest, reading.Steady → reading.Open →
      ∃ next : Reading, next.Led ∧ next.view = reading.view ∧
        answer (read reading (parts ++ rest)) = readPath next segments rest
  | @Path.start lexeme => by
    intro reading rest steady free
    refine ⟨reading, steady.led, rfl, ?_⟩
    rw [List.singleton_append, read_path rfl, free.takeCall_eq steady]
    show readPath reading (pathNames lexeme) rest = _
    rw [pathNames_eq]
  | @Path.after _ target arguments lexeme atom => by
    intro reading rest steady free
    have ends : Ends (folded (.call target arguments)) (.text .path lexeme :: rest) := by
      intro next first
      obtain rfl := Option.some.inj first
      exact ⟨by simp [Part.kind], fun ⟨_, same⟩ => by cases same⟩
    obtain ⟨called, calledSteady, calledView, reads⟩ :=
      read_atom atom reading (.text .path lexeme :: rest) steady free ends
    obtain ⟨taken, view, led⟩ := calledSteady.takeCall_of_eq calledView
    refine ⟨called.takeCall.2, led, view, ?_⟩
    rw [List.append_assoc, List.singleton_append, reads, read_path rfl, taken]
    show readPath _ (.expression (.call target arguments) :: pathNames lexeme) rest = _
    rw [pathNames_eq]
  | @Path.name _ _ lexeme path => by
    intro reading rest steady free
    obtain ⟨next, led, view, reads⟩ :=
      read_segments path reading (.text .path lexeme :: rest) steady free
    refine ⟨next, led, view, ?_⟩
    rw [List.append_assoc, List.singleton_append, reads, readPath, path_name rfl, ← readPath]
    show readPath _ (_ ++ pathNames lexeme) rest = _
    rw [pathNames_eq]
  | @Path.index _ inside _ opening closing _ path opens closes derives => by
    intro reading rest steady free
    obtain ⟨next, led, view, reads⟩ :=
      read_segments path reading (opening :: inside ++ closing :: rest) steady free
    obtain ⟨operand, inner⟩ := inner_derives derives (closing :: rest)
      (stops_cons (by rw [closes]; rfl))
    refine ⟨next, led, view, ?_⟩
    rw [List.append_assoc, List.append_assoc, List.singleton_append, reads, readPath,
      List.cons_append, path_index opens, inner]
    show (if closing.kind == .indexStop then _ else _) >>= _ = _
    rw [closes]
    rfl

theorem listed_listed {start stop : TokenKind} {parts : List Part} {expressions : List Expression} :
    Listed start stop parts expressions → stop = .scopeStop ∨ stop = .indexStop →
      ∀ emptyError missingError rest,
        answer (listed stop emptyError missingError (parts ++ rest)) = .ok (expressions, rest)
  | .empty opens closes => by
    intro kinds emptyError missingError rest
    rw [List.cons_append, List.singleton_append, listed_eq, closes]
    exact if_pos (beq_self_eq_true stop)
  | @Listed.elements _ _ _ _ closing _ opens closes elements => by
    intro kinds emptyError missingError rest
    have found := items_elements elements closing kinds closes emptyError missingError rest
    rw [List.append_assoc, List.cons_append]
    refine listed_of_items ?_ found
    rcases kinds with same | same <;> rw [same] <;> rfl

theorem items_elements {stop : TokenKind} {parts : List Part} {expressions : List Expression} :
    Elements parts expressions → ∀ closing : Part, stop = .scopeStop ∨ stop = .indexStop →
      closing.kind = stop → ∀ emptyError missingError rest,
        answer (items stop emptyError missingError (parts ++ closing :: rest)) =
          .ok (expressions, rest)
  | .single derives => by
    intro closing kinds closes emptyError missingError rest
    obtain ⟨operand, inside⟩ := inner_derives derives (closing :: rest)
      (stops_cons (by rcases kinds with same | same <;> rw [closes, same] <;> rfl))
    exact items_of_last closes inside
  | @Elements.cons _ others separator _ _ derives separates elements => by
    intro closing kinds closes emptyError missingError rest
    obtain ⟨operand, inside⟩ := inner_derives derives (separator :: (others ++ closing :: rest))
      (stops_cons (by rw [separates]; rfl))
    have found := items_elements elements closing kinds closes emptyError missingError rest
    rw [List.append_assoc, List.cons_append]
    refine items_of_separator separates ?_ inside found
    rcases kinds with same | same <;> rw [same] <;> simp

end

theorem separated_derives {parts : List Part} {expression : Expression}
    (derives : Derives parts expression) :
    ∃ operand, separated [] parts = .ok ([expression], [operand]) := by
  cases derives with
  | @phrase _ items operand _ sequence phrase value =>
    obtain ⟨next, steady, view, reads⟩ := read_sequence sequence .start []
      Reading.steady_start phrase.isChain (by simp [Stops])
    obtain ⟨range, resolves, whole, result⟩ :=
      resolve_of_phrase steady (view.trans (List.append_nil _)) phrase value
    refine ⟨operand, ?_⟩
    rw [List.append_nil] at reads
    rw [separated_eq]
    show answer (read .start parts) >>= _ = _
    rw [reads]
    show Tiers.resolve next.range >>= _ = _
    simp only [resolves, bind, Except.bind, result]
    show Except.ok ([expression], _) = _
    rw [← whole]
    simp [Tiers.Range.whole]

/-- The analysis of an expression succeeds with the tree of its derivation. -/
theorem analyze_derives {parts : List Part} {expression : Expression}
    (derives : Derives parts expression) : analyze parts = .ok expression := by
  obtain ⟨operand, found⟩ := separated_derives derives
  rw [analyze, found]
  rfl

theorem analyze_product_of_call :
    let one := Part.literal .integerLiteral (.integer 1)
    let parts := [.text .method "max", .text .scopeStart "(", one, .text .separator ",",
      .text .path "a/b", .text .indexStart "[", one, .text .indexStop "]", .text .scopeStop ")",
      .text .multiply "*", one]
    let max := Expression.call (.name "max") [.literal (.integer 1),
      .path [.name "a", .name "b", .expression (.literal (.integer 1))]]
    let product := Expression.operation (some (folded max)) ⟨.multiply, "*"⟩ (some one)
    Derives parts product ∧ analyze parts = .ok product := by
  intro one parts max product
  have literal : Derives [one] (.literal (.integer 1)) :=
    .phrase (.plain rfl .nil) (.of_isOperand rfl (Nat.zero_le _)) rfl
  have names : Path [.text .path "a/b"] [.name "a", .name "b"] := .start
  let walked := [.text .path "a/b", .text .indexStart "[", one, .text .indexStop "]"]
  have path : Path walked [.name "a", .name "b", .expression (.literal (.integer 1))] :=
    @Path.index _ [one] _ _ _ _ names rfl rfl literal
  have second : Derives walked _ :=
    .phrase (.atom (.path path) .nil) (.of_isOperand rfl (Nat.zero_le _)) rfl
  have arguments : Listed .scopeStart .scopeStop
      (.text .scopeStart "(" :: ([one] ++ .text .separator "," :: walked) ++
        [.text .scopeStop ")"]) _ :=
    .elements rfl rfl (.cons literal rfl (.single second))
  have sequence : Sequence parts [folded max, .text .multiply "*", one] :=
    .atom (.call (.method arguments)) (.plain rfl (.plain rfl .nil))
  have phrase : Phrase (maxTier + 1) 7 ([folded max] ++ .text .multiply "*" :: [one]) _ :=
    .leftward (by decide) (by decide) rfl (.of_isOperand rfl (by decide))
      (.of_isOperand rfl (by decide))
  have derives : Derives parts product := .phrase sequence (phrase.loosen (Nat.zero_le _)) rfl
  exact ⟨derives, analyze_derives derives⟩

end PathQuery.Analysis
