import PathQuery.Proofs.Regex.Depth
import PathQuery.Proofs.Regex.Spans
import PathQuery.Regex.Text

/-!
A pattern between anchors. Main statements: `eq_anchored`, a pattern that is accepted by itself and
between the anchors has the same meaning there, and `differs_cases`, why a pattern may be accepted in
just one of these places.
-/

namespace PathQuery.Regex

/-- The expression between an anchor at either end. -/
def anchored (regex : Regex) : Regex :=
  seq (look .textStart) (seq (group none regex) (look .textStop))

/-- What is read of a text between the anchors. -/
def Part.anchored (part : Part) : Part :=
  ⟨part.regex.anchored, part.height + 2, true⟩

/-- The part keeps to the limits of nesting and of memory. -/
def Part.Fits (part : Part) : Prop :=
  part.height ≤ deepest ∧ part.regex.tooLarge = false

namespace Reader

theorem run_alternatives_of_enough {before : Reading} (parts : List Part) (more : Nat) :
    (alternatives (4 * before.rest.length + 4 + more) parts).run before =
      (alternatives (4 * before.rest.length + 4) parts).run before := by
  induction more with
  | zero => rfl
  | succ more ih =>
    rw [← Nat.add_assoc, ← (readers_settled _).1 parts before (Nat.le_add_right _ more), ih]

/-- The anchor at the start and the opening of the group are passed. -/
theorem run_sequence_start (fuel : Nat) (rest : List Char) :
    (sequence (fuel + 3) []).run { rest := '^' :: '(' :: '?' :: ':' :: rest } =
      ((do
        let part ← alternatives fuel []
        close {}
        return part.around (.group none)) >>= fun part =>
          sequence (fuel + 1) [part, ⟨.look .textStart, 0, true⟩]).run { rest } := by
  rfl

/-- The anchor at the end is passed. -/
theorem run_sequence_end (fuel : Nat) (parts : List Part) (names : List (List Char)) (groups : Nat) :
    (sequence (fuel + 2) parts).run ⟨['$'], {}, names, groups⟩ =
      some (⟨.look .textStop, 0, true⟩ :: parts, ⟨[], {}, names, groups⟩) :=
  rfl

theorem whole_eq_some_iff {text : List Char} {part : Part} : whole? text = some part ↔
    ∃ own, (alternatives (4 * text.length + 4) []).run { rest := text } = some (part, own) ∧
      own.rest = [] := by
  have whole : whole? text = ((alternatives (4 * text.length + 4) []).run { rest := text }).bind
      fun result => if result.2.rest.isEmpty then some result.1 else none := rfl
  rw [whole, Option.bind_eq_some_iff]
  constructor
  · rintro ⟨⟨_, own⟩, came, ended⟩
    obtain ⟨empty, ⟨⟩⟩ := Option.ite_none_right_eq_some.mp ended
    exact ⟨own, came, List.isEmpty_iff.mp empty⟩
  · rintro ⟨own, came, ended⟩
    exact ⟨(part, own), came, if_pos (List.isEmpty_iff.mpr ended)⟩

theorem whole_of_run_none {text : List Char}
    (fails : (alternatives (4 * text.length + 4) []).run { rest := text } = none) :
    whole? text = none := by
  unfold whole?
  rw [fails]
  rfl

/-- A text between the anchors. -/
def surrounded (text : List Char) : List Char :=
  '^' :: '(' :: '?' :: ':' :: (text ++ [')', '$'])

/-- How the text is read between the anchors. -/
theorem run_surrounded (text : List Char) :
    (alternatives (4 * (surrounded text).length + 4) []).run { rest := surrounded text } =
      ((((do
        let part ← alternatives (4 * text.length + 24) []
        close {}
        return part.around (.group none)) >>= fun part =>
          sequence (4 * text.length + 25) [part, ⟨.look .textStart, 0, true⟩]) >>= fun parts => do
        let part := Part.joined concat parts.reverse
        if ← accept "|" then alternatives (4 * text.length + 27) [part]
        else return Part.joined oneOf [part]).run { rest := text ++ [')', '$'] }) := by
  have size : 4 * (surrounded text).length + 4 = 4 * text.length + 24 + 3 + 1 := by
    simp [surrounded]
    omega
  rw [size, alternatives, StateT.run_bind, surrounded, run_sequence_start]
  rfl

theorem whole_anchored {text : List Char} {part : Part} (readable : whole? text = some part) :
    whole? (surrounded text) = some part.anchored ∨
      whole? (surrounded text) = none ∧ whole? (text ++ [')', '$']) = some part := by
  obtain ⟨⟨_, flags, names, groups⟩, alone, rfl⟩ := whole_eq_some_iff.mp readable
  have enough := @run_alternatives_of_enough { rest := text } [] 20
  rw [alone] at enough
  have noLine : '\n' ∉ ['$'] := by decide
  rcases ((reads_alternatives _).1 []).goesOn noLine (by decide) enough
    with further | ⟨-, swallowed⟩
  · left
    rw [whole_eq_some_iff, run_surrounded]
    refine ⟨⟨[], {}, names, groups⟩, run_bind_eq_some.mpr ⟨_, _, run_bind_eq_some.mpr ⟨_, _,
      run_bind_eq_some.mpr ⟨part, _, further, rfl⟩, run_sequence_end _ _ _ _⟩, ?_⟩, rfl⟩
    have height : max (max (max 0 0) (part.height + 1)) 0 = part.height + 1 := by omega
    show some (Part.mk part.regex.anchored (max (max (max 0 0) (part.height + 1)) 0 + 1) true, _) = _
    rw [height]
    rfl
  · right
    constructor
    · refine whole_of_run_none (Option.eq_none_iff_forall_ne_some.mpr fun result came => ?_)
      rw [run_surrounded] at came
      obtain ⟨_, _, came, -⟩ := run_bind_eq_some.mp came
      obtain ⟨_, _, came, -⟩ := run_bind_eq_some.mp came
      obtain ⟨_, _, inner, closes⟩ := run_bind_eq_some.mp came
      rw [show (alternatives (4 * text.length + 24) []).run { rest := text ++ [')', '$'] } = _
        from swallowed] at inner
      cases inner
      cases closes
    · refine whole_eq_some_iff.mpr ⟨⟨[], flags, names, groups⟩, ?_, rfl⟩
      have size : 4 * text.length + 24 = 4 * (text ++ [')', '$']).length + 4 + 12 := by
        simp
        omega
      refine (@run_alternatives_of_enough { rest := text ++ [')', '$'] } [] 12).symm.trans ?_
      show (alternatives (4 * (text ++ [')', '$']).length + 4 + 12) []).run _ = _
      rw [← size]
      exact swallowed

theorem closes_of_close {outer : Flags} {before after : Reading} {value : Unit}
    (came : (close outer).run before = some (value, after)) :
    ∃ left, before.rest = ')' :: left := by
  obtain ⟨_, closed, closes, -⟩ := run_bind_eq_some.mp came
  rw [run_closing] at closes
  obtain ⟨⟨_, left⟩, passes, -⟩ := Option.map_eq_some_iff.mp closes
  exact ⟨left, afterClosing_eq_some_iff.mp passes⟩

/-- What is read of a text with more behind it can be read by itself. -/
theorem whole_of_left {front behind : List Char} {fuel : Nat} {part : Part} {after : Reading}
    (came : (alternatives fuel []).run { rest := front ++ ')' :: behind } = some (part, after))
    (left : after.rest = ')' :: behind) (enough : 4 * front.length + 4 ≤ fuel) :
    whole? front = some part := by
  have followed : ({ rest := front ++ ')' :: behind } : Reading) =
      Reading.followed { rest := front } behind := rfl
  rw [followed] at came
  obtain ⟨own, rfl, alone⟩ := ((reads_alternatives fuel).1 []).keeps came (by simp [left])
  have none : own.rest = [] :=
    List.append_cancel_right (show own.rest ++ ')' :: behind = [] ++ ')' :: behind from left)
  obtain ⟨more, rfl⟩ := Nat.exists_eq_add_of_le enough
  refine whole_eq_some_iff.mpr ⟨own, ?_, none⟩
  exact (@run_alternatives_of_enough { rest := front } [] more).symm.trans alone

/-- A pattern that can be read between the anchors only goes on after a parenthesis that closes no
group of its own. -/
theorem exists_closing {text : List Char} {part : Part}
    (readable : whole? (surrounded text) = some part) (refused : whole? text = none) :
    ∃ front behind, text = front ++ ')' :: behind ∧ ∃ part, whole? front = some part := by
  obtain ⟨_, came, -⟩ := whole_eq_some_iff.mp readable
  rw [run_surrounded] at came
  obtain ⟨_, _, came, -⟩ := run_bind_eq_some.mp came
  obtain ⟨_, _, came, -⟩ := run_bind_eq_some.mp came
  obtain ⟨part, after, inner, closes⟩ := run_bind_eq_some.mp came
  obtain ⟨_, closed, closes, -⟩ := run_bind_eq_some.mp closes
  obtain ⟨left, starts⟩ := closes_of_close closes
  have suffix := ((reads_alternatives _).1 []).suffix inner
  -- the text ends with the anchor, so that is left as well
  have long : 2 ≤ after.rest.length := by
    cases left with
    | cons c left => simp [starts]
    | nil =>
      obtain ⟨front, split⟩ := suffix
      rw [starts] at split
      have ends := congrArg List.getLast? split
      simp at ends
  obtain ⟨own, rfl, alone⟩ := ((reads_alternatives _).1 []).keeps
    (show (alternatives _ []).run (Reading.followed { rest := text } ['$']) = _ from inner) long
  cases ended : own.rest with
  | nil =>
    have whole := whole_eq_some_iff.mpr ⟨own,
      (@run_alternatives_of_enough { rest := text } [] 20).symm.trans alone, ended⟩
    rw [refused] at whole
    cases whole
  | cons c behind =>
    obtain rfl : c = ')' := by
      unfold Reading.followed at starts
      rw [ended] at starts
      exact (List.cons.inj starts).1
    obtain ⟨front, split⟩ := ((reads_alternatives _).1 []).suffix alone
    dsimp only at split
    rw [ended] at split
    subst split
    exact ⟨front, behind, rfl, part, whole_of_left alone ended (by simp; omega)⟩

end Reader

theorem ofText_eq_some_iff {text : String} {regex : Regex} : ofText? text = some regex ↔
    ∃ part, Reader.whole? text.toList = some part ∧ part.Fits ∧ part.regex = regex := by
  have read : ofText? text = (Reader.whole? text.toList).bind fun part =>
      if deepest < part.height || part.regex.tooLarge then none else some part.regex := by
    unfold ofText?
    cases Reader.whole? text.toList with
    | none => rfl
    | some part => cases (deepest < part.height || part.regex.tooLarge) <;> simp
  rw [read, Option.bind_eq_some_iff]
  refine exists_congr fun part => and_congr_right fun _ => ?_
  rw [Option.ite_none_left_eq_some]
  simp [Part.Fits]

theorem isSome_ofText_iff {text : String} :
    (ofText? text).isSome ↔ ∃ part, Reader.whole? text.toList = some part ∧ part.Fits := by
  rw [Option.isSome_iff_exists]
  constructor
  · rintro ⟨_, accepted⟩
    obtain ⟨part, readable, fits, -⟩ := ofText_eq_some_iff.mp accepted
    exact ⟨part, readable, fits⟩
  · rintro ⟨part, readable, fits⟩
    exact ⟨part.regex, ofText_eq_some_iff.mpr ⟨part, readable, fits, rfl⟩⟩

theorem toList_anchored (text : String) :
    ("^(?:" ++ text ++ ")$").toList = Reader.surrounded text.toList := by
  simp [Reader.surrounded]

theorem isSome_anchored_iff {text : String} : (anchored? text).isSome ↔
    ∃ part, Reader.whole? (Reader.surrounded text.toList) = some part ∧ part.Fits := by
  rw [anchored?, isSome_ofText_iff, toList_anchored]

/-- A pattern that is accepted both by itself and between the anchors has the same meaning there. -/
theorem eq_anchored {text : String} {own whole : Regex} (alone : ofText? text = some own)
    (accepted : anchored? text = some whole) : whole = own.anchored := by
  obtain ⟨part, readable, -, rfl⟩ := ofText_eq_some_iff.mp alone
  obtain ⟨_, surrounded, -, rfl⟩ := ofText_eq_some_iff.mp accepted
  rw [toList_anchored] at surrounded
  rcases Reader.whole_anchored readable with same | ⟨refused, -⟩
  · rw [surrounded] at same
    cases same
    rfl
  · rw [surrounded] at refused
    cases refused

/-- The text goes on after a parenthesis that closes no group of its own. -/
def ClosesOutside (text : String) : Prop :=
  ∃ front behind, text.toList = front ++ ')' :: behind ∧ ∃ part, Reader.whole? front = some part

/-- The text ends in a comment, so that the anchor at the end would be part of it. -/
def HidesEnd (text : String) : Prop :=
  ∃ part, Reader.whole? text.toList = some part ∧
    Reader.whole? (text.toList ++ [')', '$']) = some part

/-- The text keeps to the limits just by itself or just between the anchors. -/
def LimitsDiffer (text : String) : Prop :=
  ∃ part, Reader.whole? text.toList = some part ∧ ¬(part.Fits ↔ part.anchored.Fits)

/-- Why a pattern may be accepted just by itself or just between the anchors. -/
theorem differs_cases {text : String}
    (differs : ¬((ofText? text).isSome ↔ (anchored? text).isSome)) :
    ClosesOutside text ∨ HidesEnd text ∨ LimitsDiffer text := by
  rw [isSome_ofText_iff, isSome_anchored_iff] at differs
  cases readable : Reader.whole? text.toList with
  | none =>
    cases surrounded : Reader.whole? (Reader.surrounded text.toList) with
    | none => simp [readable, surrounded] at differs
    | some whole => exact .inl (Reader.exists_closing surrounded readable)
  | some part =>
    rcases Reader.whole_anchored readable with surrounded | ⟨-, hidden⟩
    · refine .inr (.inr ⟨part, readable, ?_⟩)
      simpa [readable, surrounded] using differs
    · exact .inr (.inl ⟨part, readable, hidden⟩)

end PathQuery.Regex
