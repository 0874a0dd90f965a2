import PathQuery.Proofs.Analysis.Reading

/-!
The analysis by equations, one for each kind of part, and by what it has found where it answers.
They are about what the analysis answers, and leave out the bounds that make it end.
-/

namespace PathQuery.Analysis

open Tiers (Range folded)

/-- An answer without what is known about it. -/
def answer {α : Type} {known : α → Prop} (result : Except ParseError { answer : α // known answer }) :
    Except ParseError α :=
  result.map Subtype.val

theorem known_of_answer {α : Type} {known : α → Prop}
    {result : Except ParseError { answer : α // known answer }} {value : α}
    (answered : answer result = .ok value) : known value := by
  obtain ⟨found, -, rfl⟩ := Tiers.map_eq_ok.mp answered
  exact found.property

variable {reading : Reading} {part : Part} {parts rest : List Part}

theorem inner_eq : answer (inner parts) = (do
    let (reading, rest) ← answer (read .start parts)
    let range ← Tiers.resolve reading.range
    return (range.value, range.whole ++ rest)) := by
  rw [inner]
  unfold Reading.start
  cases read ⟨[], [], true, none⟩ parts with
  | error => rfl
  | ok found =>
    obtain ⟨⟨reading, rest⟩, size⟩ := found
    dsimp only [bind, Except.bind]
    split
    · rename_i error failed
      replace failed : Tiers.resolve reading.range = .error error := failed
      show Except.error error = Tiers.resolve reading.range >>= _
      rw [failed]
      rfl
    · rename_i range done
      replace done : Tiers.resolve reading.range = .ok range := done
      show Except.ok (range.value, range.whole ++ rest) = Tiers.resolve reading.range >>= _
      rw [done]
      rfl

theorem read_nil : answer (read reading []) = .ok (reading, []) := by
  rw [read]
  rfl

theorem read_closes (closes : part.kind.closesRange = true) :
    answer (read reading (part :: rest)) = .ok (reading, part :: rest) := by
  rw [read, if_pos closes]
  rfl

theorem read_scope (opens : part.kind = .scopeStart) :
    answer (read reading (part :: rest)) = (do
      let (child, left) ← answer (inner rest)
      answer (read { reading.put (.ofAnalysis child) true with last := child }
        (left.drop (1 + child.toList.length)))) := by
  rw [read]
  simp only [opens]
  cases inner rest with
  | error => rfl
  | ok found =>
    obtain ⟨⟨child, left⟩, shorter⟩ := found
    show answer (read _ _ >>= _) = answer (read _ _)
    cases read { reading.put (.ofAnalysis child) true with last := child }
      (left.drop (1 + child.toList.length)) <;> rfl

theorem read_method (method : part.kind = .method) :
    answer (read reading (part :: rest)) = (do
      let (call, chained, left) ← answer (calls (targetOf part) rest)
      let start := if chained then reading.displaced else reading
      answer (read { start.put (folded call) (!left.isEmpty) with last := some call } left)) := by
  rw [read]
  simp only [method]
  cases calls (targetOf part) rest with
  | error => rfl
  | ok found =>
    obtain ⟨⟨call, chained, left⟩, shorter⟩ := found
    show answer (read _ _ >>= _) = answer (read _ _)
    cases read { (if chained then reading.displaced else reading).put (folded call)
      (!left.isEmpty) with last := some call } left <;> rfl

theorem read_index (opens : part.kind = .indexStart) :
    answer (read reading (part :: rest)) = (do
      let (elements, left) ←
        answer (listed .indexStop .emptyElement (.unclosedIndexes 1) (part :: rest))
      let list := listOf elements
      answer (read { reading.put (folded list) (!left.isEmpty) with last := some list } left)) := by
  rw [read]
  simp only [opens]
  cases listed .indexStop .emptyElement (.unclosedIndexes 1) (part :: rest) with
  | error => rfl
  | ok found =>
    obtain ⟨⟨elements, left⟩, shorter⟩ := found
    show answer (read _ _ >>= _) = answer (read _ _)
    cases read { reading.put (folded (listOf elements)) (!left.isEmpty) with
      last := some (listOf elements) } left <;> rfl

/-- The reading goes on after a call that a path has led to. -/
def readCall (reading : Reading) (target : Target) (parts : List Part) :
    Except ParseError (Reading × List Part) := do
  let (call, _, left) ← answer (calls target parts)
  answer (read { reading.displaced.put (folded call) (!left.isEmpty) with last := some call } left)

/-- The reading goes on after the given segments of a path. -/
def readPath (reading : Reading) (segments : List Segment) (parts : List Part) :
    Except ParseError (Reading × List Part) := do
  let (segments, left) ← answer (path segments parts)
  if opensScope left then readCall reading (.expression (.path segments)) left
  else answer (read { reading.put (folded (.path segments)) (!left.isEmpty) with
    last := some (.path segments) } left)

theorem read_path (path : part.kind = .path) :
    answer (read reading (part :: rest)) =
      readPath reading.takeCall.2 (reading.takeCall.1 ++ pathNames part.render) rest := by
  rw [read]
  simp only [path]
  unfold readPath
  cases Analysis.path (reading.takeCall.1 ++ pathNames part.render) rest with
  | error => rfl
  | ok found =>
    obtain ⟨⟨segments, left⟩, shorter⟩ := found
    show answer (if opensScope left then _ else _) = if opensScope left then _ else _
    split
    · unfold readCall
      cases calls (.expression (.path segments)) left with
      | error => rfl
      | ok found =>
        obtain ⟨⟨call, chained, after⟩, still⟩ := found
        show answer (read _ _ >>= _) = answer (read _ _)
        cases read { reading.takeCall.2.displaced.put (folded call) (!after.isEmpty) with
          last := some call } after <;> rfl
    · show answer (read _ _ >>= _) = answer (read _ _)
      cases read { reading.takeCall.2.put (folded (.path segments)) (!left.isEmpty) with
        last := some (.path segments) } left <;> rfl

theorem read_keep (other : part.kind.isStructural = false) :
    answer (read reading (part :: rest)) = answer (read (reading.keep part) rest) := by
  rw [read]
  have closes : part.kind.closesRange = false := by
    revert other
    cases part.kind <;> simp [TokenKind.isStructural, TokenKind.closesRange]
  have kinds : part.kind ≠ .scopeStart ∧ part.kind ≠ .method ∧ part.kind ≠ .indexStart ∧
      part.kind ≠ .path := by
    revert other
    cases part.kind <;> simp [TokenKind.isStructural]
  simp only [closes, kinds, beq_iff_eq, if_false, Bool.false_eq_true]
  cases read (reading.keep part) rest <;> rfl

theorem calls_eq (target : Target) : answer (calls target parts) = (do
    let (arguments, left) ← answer
      (listed .scopeStop (.emptyArgument target.text) (.missingMethodEnd target.text) parts)
    if opensScope left then
      let (last, _, left) ← answer (calls (.expression (.call target arguments)) left)
      return (last, true, left)
    else return (.call target arguments, false, left)) := by
  rw [calls]
  cases listed .scopeStop (.emptyArgument target.text) (.missingMethodEnd target.text) parts with
  | error => rfl
  | ok found =>
    obtain ⟨⟨arguments, left⟩, shorter⟩ := found
    show answer (if opensScope left then _ else _) = if opensScope left then _ else _
    split
    · cases calls (.expression (.call target arguments)) left <;> rfl
    · rfl

section Lists

variable {closer : TokenKind} {emptyError missingError : ParseError}

theorem listed_eq {opening next : Part} :
    answer (listed closer emptyError missingError (opening :: next :: rest)) =
      if next.kind == closer then .ok ([], rest)
      else answer (items closer emptyError missingError (next :: rest)) := by
  rw [listed]
  split
  · rfl
  · cases items closer emptyError missingError (next :: rest) <;> rfl

theorem listed_cases {opening : Part} {values : List Expression} {left : List Part}
    (found : answer (listed closer emptyError missingError (opening :: parts)) =
      .ok (values, left)) :
    (∃ next, parts = next :: left ∧ next.kind = closer ∧ values = []) ∨
      answer (items closer emptyError missingError parts) = .ok (values, left) := by
  cases parts with
  | nil =>
    rw [listed] at found
    cases found
  | cons next rest =>
    rw [listed_eq] at found
    split at found
    · rename_i closes
      cases found
      exact .inl ⟨next, rfl, eq_of_beq closes, rfl⟩
    · exact .inr found

theorem items_eq : answer (items closer emptyError missingError parts) = (do
    let (value, left) ← answer (inner parts)
    match value, left with
    | none, _ => throw emptyError
    | some value, _ :: token :: rest =>
        if token.kind == closer then return ([value], rest)
        else if token.kind == .separator then
          let (values, left) ← answer (items closer emptyError missingError rest)
          return (value :: values, left)
        else throw (.danglingToken token.render)
    | some _, _ => throw missingError) := by
  rw [items]
  cases inner parts with
  | error => rfl
  | ok found =>
    obtain ⟨⟨value, left⟩, shorter⟩ := found
    cases value with
    | none => rfl
    | some value =>
      match left with
      | [] | [_] => rfl
      | _ :: token :: rest =>
        show answer (if token.kind == closer then _ else _) = if token.kind == closer then _ else _
        split
        · rfl
        · show answer (if token.kind == .separator then _ else _) =
            if token.kind == .separator then _ else _
          split
          · cases items closer emptyError missingError rest <;> rfl
          · rfl

/-- Items between brackets are one up to what closes them, or one up to a separator and others. -/
theorem items_cases {values : List Expression} {left : List Part}
    (found : answer (items closer emptyError missingError parts) = .ok (values, left)) :
    ∃ value operand token rest, answer (inner parts) = .ok (some value, operand :: token :: rest) ∧
      (token.kind = closer ∧ values = [value] ∧ left = rest ∨
        token.kind = .separator ∧ ∃ others,
          answer (items closer emptyError missingError rest) = .ok (others, left) ∧
            values = value :: others) := by
  rw [items_eq] at found
  obtain ⟨⟨value, inside⟩, analyzed, found⟩ := Tiers.bind_eq_ok.mp found
  dsimp only at found
  split at found
  · cases found
  · rename_i value operand token rest
    refine ⟨value, operand, token, rest, analyzed, ?_⟩
    split at found
    · rename_i closes
      cases found
      exact .inl ⟨eq_of_beq closes, rfl, rfl⟩
    · split at found
      · rename_i separates
        obtain ⟨⟨others, behind⟩, more, found⟩ := Tiers.bind_eq_ok.mp found
        cases found
        exact .inr ⟨eq_of_beq separates, others, more, rfl⟩
      · cases found
  · cases found

end Lists

/-- A call has arguments, and is called again as long as an opening parenthesis follows. -/
theorem calls_cases {target : Target} {call : Expression} {chained : Bool} {left : List Part}
    (found : answer (calls target parts) = .ok (call, chained, left)) :
    ∃ arguments behind, answer (listed .scopeStop (.emptyArgument target.text)
        (.missingMethodEnd target.text) parts) = .ok (arguments, behind) ∧
      (opensScope behind = true ∧ (∃ again, answer (calls (.expression (.call target arguments))
          behind) = .ok (call, again, left)) ∨
        call = .call target arguments ∧ left = behind) := by
  rw [calls_eq] at found
  obtain ⟨⟨arguments, behind⟩, analyzed, found⟩ := Tiers.bind_eq_ok.mp found
  refine ⟨arguments, behind, analyzed, ?_⟩
  dsimp only at found
  split at found
  · rename_i opens
    obtain ⟨⟨last, again, after⟩, more, found⟩ := Tiers.bind_eq_ok.mp found
    cases found
    exact .inl ⟨opens, again, more⟩
  · cases found
    exact .inr ⟨rfl, rfl⟩

variable {segments : List Segment}

theorem path_nil : answer (path segments []) = .ok (segments, []) := by
  rw [path]
  rfl

theorem path_name (name : part.kind = .path) :
    answer (path segments (part :: rest)) =
      answer (path (segments ++ pathNames part.render) rest) := by
  rw [path]
  simp only [name]
  cases path (segments ++ pathNames part.render) rest <;> rfl

theorem path_index (opens : part.kind = .indexStart) :
    answer (path segments (part :: rest)) = (do
      let (value, left) ← answer (inner rest)
      match value, left with
      | none, _ => throw (.emptyIndex (Segment.pathText true segments))
      | some index, _ :: closer :: after =>
          if closer.kind == .indexStop then answer (path (segments ++ [.expression index]) after)
          else throw (.danglingToken closer.render)
      | some _, _ => throw (.missingIndexEnd (Segment.pathText true segments))) := by
  rw [path]
  simp only [opens]
  cases inner rest with
  | error => rfl
  | ok found =>
    obtain ⟨⟨value, left⟩, shorter⟩ := found
    cases value with
    | none => rfl
    | some index =>
      rcases left with _ | ⟨_, _ | ⟨closer, after⟩⟩
      · rfl
      · rfl
      · show answer (if closer.kind == .indexStop then _ else _) =
          if closer.kind == .indexStop then _ else _
        split
        · cases path (segments ++ [.expression index]) after <;> rfl
        · rfl

theorem path_ends (other : part.kind ≠ .path ∧ part.kind ≠ .indexStart) :
    answer (path segments (part :: rest)) = .ok (segments, part :: rest) := by
  rw [path]
  simp only [other, beq_iff_eq, if_false]
  rfl

/-- A path goes on with names and with indexes in brackets, as far as there are any. -/
theorem path_cases {names : List Segment} {left : List Part}
    (found : answer (path segments parts) = .ok (names, left)) :
    (names = segments ∧ left = parts) ∨
      (∃ part rest, parts = part :: rest ∧ part.kind = .path ∧
        answer (path (segments ++ pathNames part.render) rest) = .ok (names, left)) ∨
      ∃ part rest index operand closing after, parts = part :: rest ∧ part.kind = .indexStart ∧
        answer (inner rest) = .ok (some index, operand :: closing :: after) ∧
        closing.kind = .indexStop ∧
        answer (path (segments ++ [.expression index]) after) = .ok (names, left) := by
  cases parts with
  | nil =>
    rw [path_nil] at found
    cases found
    exact .inl ⟨rfl, rfl⟩
  | cons part rest =>
    by_cases name : part.kind = .path
    · rw [path_name name] at found
      exact .inr (.inl ⟨part, rest, rfl, name, found⟩)
    by_cases opens : part.kind = .indexStart
    · rw [path_index opens] at found
      obtain ⟨⟨value, inside⟩, analyzed, found⟩ := Tiers.bind_eq_ok.mp found
      dsimp only at found
      split at found
      · cases found
      · rename_i index operand closing after
        split at found
        · rename_i closes
          exact .inr (.inr ⟨part, rest, index, operand, closing, after, rfl, opens, analyzed,
            eq_of_beq closes, found⟩)
        · cases found
      · cases found
    · rw [path_ends ⟨name, opens⟩] at found
      cases found
      exact .inl ⟨rfl, rfl⟩

theorem separated_eq {before : List Part} : separated before parts = (do
    let (reading, rest) ← answer (read ⟨before, [], true, none⟩ parts)
    let range ← Tiers.resolve reading.range
    match range.value with
    | none => throw .emptyExpression
    | some value =>
        let passed := (rest.takeWhile (·.kind != .separator)).reverse ++ range.parts.reverse ++
          range.before
        match rest.dropWhile (·.kind != .separator) with
        | [] => return ([value], passed.reverse)
        | _ :: next =>
            let (values, left) ← separated passed next
            return (value :: values, left)) := by
  rw [separated]
  cases read ⟨before, [], true, none⟩ parts with
  | error => rfl
  | ok found =>
    obtain ⟨⟨reading, rest⟩, bounds⟩ := found
    show Tiers.resolve reading.range >>= _ = Tiers.resolve reading.range >>= _
    cases Tiers.resolve reading.range with
    | error => rfl
    | ok range =>
      obtain ⟨before, parts, value⟩ := range
      cases value with
      | none => rfl
      | some value =>
        dsimp only [bind, Except.bind]
        split
        · rename_i closed
          rw [closed]
        · rename_i separator next closed
          rw [closed]

/-- A range that is analyzed on its own comes to an expression. Others follow it if a separator is
left behind it; what stands before that is behind what the next ranges see. -/
theorem separated_cases {before left : List Part} {values : List Expression}
    (found : separated before parts = .ok (values, left)) :
    ∃ reading rest range value, answer (read ⟨before, [], true, none⟩ parts) = .ok (reading, rest) ∧
      Tiers.resolve reading.range = .ok range ∧ range.value = some value ∧
      (rest.dropWhile (·.kind != .separator) = [] ∧ values = [value] ∧
          left = range.whole ++ rest ∨
        ∃ separator next others, separator.kind = .separator ∧
          rest = rest.takeWhile (·.kind != .separator) ++ separator :: next ∧
          values = value :: others ∧
          separated ((rest.takeWhile (·.kind != .separator)).reverse ++ range.whole.reverse) next =
            .ok (others, left)) := by
  rw [separated_eq] at found
  obtain ⟨⟨reading, rest⟩, reads, found⟩ := Tiers.bind_eq_ok.mp found
  obtain ⟨range, resolves, found⟩ := Tiers.bind_eq_ok.mp found
  dsimp only at found
  split at found
  · cases found
  · rename_i value result
    refine ⟨reading, rest, range, value, reads, resolves, result, ?_⟩
    have parted := List.takeWhile_append_dropWhile (p := (·.kind != .separator)) (l := rest)
    split at found
    · rename_i nothing
      cases found
      rw [nothing, List.append_nil] at parted
      exact .inl ⟨nothing, rfl, by simp [Range.whole, parted]⟩
    · rename_i separator next split
      obtain ⟨⟨others, behind⟩, more, found⟩ := Tiers.bind_eq_ok.mp found
      cases found
      rw [split] at parted
      have separates : separator.kind = .separator := by
        have ends := List.head?_dropWhile_not (·.kind != .separator) rest
        simpa [split] using ends
      rw [List.append_assoc, ← List.reverse_reverse range.before, ← List.reverse_append] at more
      exact .inr ⟨separator, next, others, separates, parted.symm, rfl, more⟩

end PathQuery.Analysis
