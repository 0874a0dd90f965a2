import PathQuery.Proofs.Regex.Surroundings

/-!
The readers of regular expressions on a text with more behind it. Main statement:
`reads_alternatives`.
-/

namespace PathQuery.Regex.Reader

theorem reads_characters (count : Nat) : Reads count 0 (characters count) := by
  induction count with
  | zero => exact reads_pure []
  | succ count ih =>
    exact reads_next.bind fun c => reads_skip.bind fun _ => ih.bind fun cs => by
      rw [Nat.add_sub_cancel, Nat.sub_zero, Nat.sub_self]
      exact reads_pure (c :: cs)

theorem reads_hexDigits {count : Nat} (some : 0 < count) : Reads 1 0 (hexDigits count) := by
  refine reads_skip.bind fun _ => reads_more_bind (reads_accept_bind (by decide) ?_ ?_) (by decide)
  · exact reads_skip.bind fun _ => reads_upToBrace.uncounted.bind fun digits =>
      reads_skip.bind fun _ => reads_pure (digits, true)
  · exact ((reads_characters count).relax some (Nat.le_refl 0)).bind fun digits =>
      reads_pure (digits, false)

theorem reads_hexadecimal {count : Nat} (some : 0 < count) : Reads 1 0 (hexadecimal count) :=
  (reads_hexDigits some).bind fun digits => (reads_lift (ofHex? digits.1)).bind fun c =>
    reads_pure (c, digits.2)

theorem reads_decimal : Reads 0 0 decimal :=
  reads_skipBlanks.bind fun _ => (reads_readWhile (by decide)).bind fun digits =>
    reads_skipBlanks.bind fun _ => reads_skip.bind fun _ => reads_lift (ofDigits? digits)

theorem reads_shorthand (chars : CharSet) (negated : Bool) :
    Reads 0 0 (shorthand chars negated) := by
  refine reads_flags.bind fun flags => ?_
  split
  · exact reads_pure _
  · split
    · exact reads_failure
    · exact reads_pure _

theorem reads_propertyName : Reads 1 0 propertyName := by
  refine reads_skip.bind fun _ => reads_accept_bind (by decide) ?_ ?_
  · exact reads_skip.bind fun _ => reads_upToBrace.uncounted
  · exact reads_next.bind fun c => (reads_refuse _).bind fun _ => reads_pure [c]

theorem reads_property (negated : Bool) : Reads 1 0 (property negated) :=
  reads_propertyName.bind fun _ => reads_flags.bind fun _ => (reads_refuse _).bind fun _ =>
    (reads_lift _).bind fun _ => reads_pure _

theorem reads_edgeName : Reads 1 0 edgeName :=
  (reads_readWhile (by decide)).bind fun name => reads_next.bind fun _ =>
    (reads_refuse _).bind fun _ => reads_lift (edge? (String.ofList name))

/-- An opening brace is left, and after it nothing but what stands behind. -/
def Stuck (after : Reading) (behind : List Char) : Prop :=
  ∃ rest, after.rest = '\x7b' :: rest ∧ (after.flags.skipped rest).length ≤ behind.length + 1

theorem run_bracedEdge (here : List Char) (reading : Reading) : (bracedEdge here).run reading =
    match reading.flags.skipped reading.rest with
    | [] => none
    | c :: cs =>
        if namesEdge c then edgeName.run { reading with rest := c :: cs }
        else some (.boundary, { reading with rest := here }) := by
  unfold bracedEdge
  rw [StateT.run_bind, run_skip]
  cases reading.flags.skipped reading.rest with
  | nil => rfl
  | cons c cs =>
    show (if namesEdge c = true then edgeName else do
      moveTo here
      return .boundary : Reader WordEdge).run { reading with rest := c :: cs } = _
    dsimp only
    split <;> rfl

theorem run_wordEdge (reading : Reading) : wordEdge.run reading =
    match reading.rest with
    | '\x7b' :: rest => (bracedEdge reading.rest).run { reading with rest }
    | _ => some (.boundary, reading) := by
  have run : wordEdge.run reading = (accept "\x7b" >>= fun opens =>
      if opens then bracedEdge reading.rest else return .boundary).run reading := rfl
  rw [run, StateT.run_bind, run_accept]
  split
  · next begins =>
    obtain ⟨rest, opens⟩ := List.isPrefixOf_iff_prefix.mp begins
    rw [← opens]
    rfl
  · next differs =>
    split
    · next rest opens => exact absurd (by rw [opens]; rfl) differs
    · rfl

theorem run_wordEdge_brace {reading : Reading} {rest : List Char}
    (opens : reading.rest = '\x7b' :: rest) : wordEdge.run reading =
      match reading.flags.skipped rest with
      | [] => none
      | c :: cs =>
          if namesEdge c then edgeName.run { reading with rest := c :: cs }
          else some (.boundary, reading) := by
  have same : { reading with rest := '\x7b' :: rest } = reading := by
    rw [← opens]
  rw [run_wordEdge, opens]
  show (bracedEdge ('\x7b' :: rest)).run { reading with rest } = _
  rw [run_bracedEdge, same]

theorem run_wordEdge_other {reading : Reading} (other : ∀ rest, reading.rest ≠ '\x7b' :: rest) :
    wordEdge.run reading = some (.boundary, reading) := by
  rw [run_wordEdge]
  split
  · next rest opens => exact absurd opens (other rest)
  · rfl

theorem suffix_wordEdge {before after : Reading} {edge : WordEdge}
    (came : wordEdge.run before = some (edge, after)) : after.rest <:+ before.rest := by
  by_cases opens : ∃ rest, before.rest = '\x7b' :: rest
  · obtain ⟨rest, opens⟩ := opens
    rw [run_wordEdge_brace opens] at came
    split at came
    · cases came
    · next c cs skipped =>
      split at came
      · have passed := skipped_suffix before.flags rest
        rw [skipped] at passed
        rw [opens]
        exact (reads_edgeName.suffix came).trans (passed.trans (List.suffix_cons _ rest))
      · cases came
        exact List.suffix_refl _
  · rw [run_wordEdge_other fun rest here => opens ⟨rest, here⟩] at came
    cases came
    exact List.suffix_refl _

theorem followed_of_brace {before : Reading} {rest : List Char}
    (opens : before.rest = '\x7b' :: rest) (behind : List Char) :
    (before.followed behind).rest = '\x7b' :: (rest ++ ')' :: behind) := by
  unfold Reading.followed
  rw [opens]
  rfl

theorem followed_of_other {before : Reading} (other : ∀ rest, before.rest ≠ '\x7b' :: rest)
    (behind rest : List Char) : (before.followed behind).rest ≠ '\x7b' :: rest := by
  obtain ⟨_ | ⟨c, cs⟩, flags, names, groups⟩ := before
  · nofun
  · rintro ⟨⟩
    exact other cs rfl

theorem keeps_wordEdge {before after : Reading} {behind : List Char} {edge : WordEdge}
    (came : wordEdge.run (before.followed behind) = some (edge, after))
    (left : behind.length + 1 ≤ after.rest.length) :
    (∃ own : Reading, after = own.followed behind ∧ wordEdge.run before = some (edge, own)) ∨
      Stuck after behind := by
  by_cases opens : ∃ rest, before.rest = '\x7b' :: rest
  · obtain ⟨rest, opens⟩ := opens
    have followed := followed_of_brace opens behind
    have flags : (before.followed behind).flags = before.flags := rfl
    rw [run_wordEdge_brace followed, flags] at came
    rw [run_wordEdge_brace opens]
    rcases skipped_followed before.flags rest behind with stops | ⟨ended, swallowed⟩
    · rw [stops] at came
      cases skipped : before.flags.skipped rest with
      | nil =>
        rw [skipped] at came
        cases came
        exact .inr ⟨_, followed, by rw [flags, stops, skipped]; exact Nat.le_refl _⟩
      | cons c cs =>
        rw [skipped] at came
        dsimp only [List.cons_append] at came ⊢
        split at came
        · next named =>
          rw [if_pos named]
          exact .inl (reads_edgeName.keeps came left)
        · next unnamed =>
          rw [if_neg unnamed]
          cases came
          exact .inl ⟨before, rfl, rfl⟩
    · have short := (afterComment_suffix behind).length_le
      rw [← swallowed] at short
      split at came
      · cases came
      · next c cs skipped =>
        rw [skipped] at short
        split at came
        · have named := reads_edgeName.uses came
          dsimp only at named
          omega
        · cases came
          exact .inr ⟨_, followed, by rw [flags, skipped]; omega⟩
  · have other : ∀ rest, before.rest ≠ '\x7b' :: rest := fun rest here => opens ⟨rest, here⟩
    rw [run_wordEdge_other (followed_of_other other behind)] at came
    cases came
    exact .inl ⟨before, rfl, run_wordEdge_other other⟩

theorem goesOn_wordEdge {before after : Reading} {behind : List Char} {edge : WordEdge}
    (line : '\n' ∉ behind) (colon : ':' ∉ behind) (came : wordEdge.run before = some (edge, after)) :
    wordEdge.run (before.followed behind) = some (edge, after.followed behind) ∨
      after.rest = [] ∧ wordEdge.run (before.followed behind) = some (edge, after) := by
  by_cases opens : ∃ rest, before.rest = '\x7b' :: rest
  · obtain ⟨rest, opens⟩ := opens
    have flags : (before.followed behind).flags = before.flags := rfl
    rw [run_wordEdge_brace opens] at came
    rw [run_wordEdge_brace (followed_of_brace opens behind), flags]
    rcases skipped_followed before.flags rest behind with stops | ⟨ended, -⟩
    · rw [stops]
      cases skipped : before.flags.skipped rest with
      | nil =>
        rw [skipped] at came
        cases came
      | cons c cs =>
        rw [skipped] at came
        dsimp only [List.cons_append] at came ⊢
        split at came
        · next named =>
          rw [if_pos named]
          exact reads_edgeName.goesOn line colon came
        · next unnamed =>
          rw [if_neg unnamed]
          cases came
          exact .inl rfl
    · rw [ended] at came
      cases came
  · have other : ∀ rest, before.rest ≠ '\x7b' :: rest := fun rest here => opens ⟨rest, here⟩
    rw [run_wordEdge_other other] at came
    cases came
    exact .inl (run_wordEdge_other (followed_of_other other behind))

theorem reads_wordEdge : ReadsBut (fun _ after behind => Stuck after behind) 0 0 wordEdge :=
  ⟨suffix_wordEdge, fun came => (suffix_wordEdge came).length_le, keeps_wordEdge, goesOn_wordEdge⟩

theorem reads_codePoint {digits : Nat} (some : 0 < digits) : Reads 1 0 (codePoint digits) :=
  (reads_hexadecimal some).bind fun _ => reads_flags.bind fun _ => (reads_refuse _).bind fun _ =>
    reads_pure _

/-- The only exception is an opening brace after the condition of `\b`. -/
theorem reads_escaped : ReadsBut (fun value after behind =>
    (∃ condition, value = .look condition) ∧ Stuck after behind) 1 0 escaped := by
  refine reads_next.bind fun c => reads_flags.bind fun flags => ?_
  dsimp only
  have code {digits : Nat} (some : 0 < digits) : Reads 0 0 (codePoint digits) :=
    (reads_codePoint some).uncounted
  have property (negated : Bool) : Reads 0 0 (property negated) :=
    (reads_property negated).uncounted
  split
  case h_1 | h_2 | h_3 => exact (code (by decide)).but
  case h_4 | h_5 => exact ((property _).bind fun chars => reads_pure (Escaped.chars chars)).but
  case h_6 | h_7 | h_8 | h_9 | h_10 | h_11 =>
    exact ((reads_shorthand _ _).bind fun chars => reads_pure (Escaped.chars chars)).but
  case h_20 =>
    refine reads_wordEdge.bindUsing 0 (fun edge => (reads_pure _).but) (Nat.le_refl 0)
      (Nat.le_refl 0) fun edge between behind result after stuck came _ => ?_
    cases came
    exact ⟨⟨_, rfl⟩, stuck⟩
  case h_24 =>
    split
    · exact (reads_pure _).but
    · exact reads_failure.but
  all_goals exact (reads_pure _).but

theorem reads_closed (chars : CharSet) (negated : Bool) : Reads 0 0 (closed chars negated) := by
  refine reads_flags.bind fun flags => ?_
  dsimp only
  split
  · exact reads_pure _
  · split
    · exact reads_pure _
    · exact reads_failure

theorem reads_inBrackets (item : Escaped) : Reads 0 0 (inBrackets item) := by
  cases item with
  | literal c => exact reads_flags.bind fun flags => (reads_refuse _).bind fun _ => reads_pure _
  | chars chars => exact reads_pure _
  | look condition => exact reads_failure

theorem reads_setItem : Reads 1 0 setItem := by
  refine reads_next.bind fun c => ?_
  dsimp only
  split
  · refine reads_escaped.bindUsing 0 reads_inBrackets (Nat.zero_le 1) (Nat.le_refl 0) ?_
    rintro _ between behind result after ⟨⟨condition, rfl⟩, -⟩ came
    cases came
  · exact (reads_pure _).bind reads_inBrackets

theorem past_followed (inComment : Bool) (rest behind : List Char) :
    deciding?.past inComment (rest ++ ')' :: behind) =
      (deciding?.past inComment rest).or (some ')') := by
  induction rest generalizing inComment with
  | nil => cases inComment <;> rfl
  | cons c rest ih =>
    rw [List.cons_append, deciding?.past, deciding?.past, ih, ih]
    split
    · rfl
    · split <;> rfl

theorem passed_of_past_eq_none {inComment : Bool} {c : Char} {rest : List Char}
    (none : deciding?.past inComment (c :: rest) = none) :
    Text.isBlank c = true ∨ c = '#' := by
  rw [deciding?.past] at none
  split at none
  · next blank => exact .inl blank
  · split at none
    · next mark => exact .inr (beq_iff_eq.mp (Bool.and_eq_true_iff.mp mark).2)
    · cases none

theorem makesRange_followed (verbose : Bool) (rest behind : List Char) :
    makesRange verbose (rest ++ ')' :: behind) = makesRange verbose rest := by
  unfold makesRange deciding?
  cases verbose
  · cases rest <;> rfl
  · dsimp only
    rw [past_followed]
    cases rest with
    | nil => rfl
    | cons c rest =>
      cases past : deciding?.past false (c :: rest) with
      | some d => rfl
      | none =>
        -- what comes next is passed, so it is no character that the dash could stand before
        rcases passed_of_past_eq_none past with blank | rfl
        · have other {d : Char} (solid : Text.isBlank d = false) : (some c != some d) = true := by
            rw [bne_iff_ne]
            rintro ⟨⟩
            rw [solid] at blank
            cases blank
          show (some ')' != some ']' && some ')' != some '-') =
            (some c != some ']' && some c != some '-')
          rw [@other ']' (by decide), @other '-' (by decide)]
          rfl
        · rfl

/-- What `rangeDash` tells and leaves of a text. -/
def dashed (flags : Flags) : List Char → Bool × List Char
  | '-' :: rest => if makesRange flags.verbose rest then (true, rest) else (false, '-' :: rest)
  | rest => (false, rest)

theorem dashed_dash (flags : Flags) (rest : List Char) : dashed flags ('-' :: rest) =
    if makesRange flags.verbose rest then (true, rest) else (false, '-' :: rest) :=
  rfl

theorem dashed_other (flags : Flags) {c : Char} (other : c ≠ '-') (rest : List Char) :
    dashed flags (c :: rest) = (false, c :: rest) := by
  unfold dashed
  split
  · next same => exact absurd (List.cons.inj same).1 other
  · rfl

theorem dashed_followed (flags : Flags) (rest behind : List Char) :
    dashed flags (rest ++ ')' :: behind) =
      ((dashed flags rest).1, (dashed flags rest).2 ++ ')' :: behind) := by
  cases rest with
  | nil => rfl
  | cons c rest =>
    rw [List.cons_append]
    by_cases dash : c = '-'
    · subst dash
      rw [dashed_dash, dashed_dash, makesRange_followed]
      split <;> rfl
    · rw [dashed_other flags dash, dashed_other flags dash]
      rfl

theorem dashed_suffix (flags : Flags) (rest : List Char) : (dashed flags rest).2 <:+ rest := by
  cases rest with
  | nil => exact List.suffix_refl _
  | cons c rest =>
    by_cases dash : c = '-'
    · subst dash
      rw [dashed_dash]
      split
      · exact List.suffix_cons _ _
      · exact List.suffix_refl _
    · simp only [dashed_other flags dash, List.suffix_refl]

theorem run_rangeDash (reading : Reading) : rangeDash.run reading =
    some ((dashed reading.flags reading.rest).1,
      { reading with rest := (dashed reading.flags reading.rest).2 }) := by
  obtain ⟨_ | ⟨c, rest⟩, flags, names, groups⟩ := reading
  · rfl
  · by_cases dash : c = '-'
    · subst dash
      show (if makesRange flags.verbose rest = true then do
        moveTo rest
        return true
      else return false : Reader Bool).run _ = _
      dsimp only
      rw [dashed_dash]
      cases makesRange flags.verbose rest <;> rfl
    · have run : rangeDash.run ⟨c :: rest, flags, names, groups⟩ = (match c :: rest with
          | '-' :: rest =>
              if makesRange flags.verbose rest then do
                moveTo rest
                return true
              else return false
          | _ => return false : Reader Bool).run ⟨c :: rest, flags, names, groups⟩ := rfl
      rw [run]
      dsimp only
      rw [dashed_other flags dash]
      split
      · next same => exact absurd (List.cons.inj same).1 dash
      · rfl

theorem reads_rangeDash : Reads 0 0 rangeDash :=
  reads_of_total dashed run_rangeDash dashed_suffix dashed_followed

theorem reads_setRange : Reads 1 1 setRange := by
  refine reads_setItem.bind fun first => reads_skip.bind fun _ => reads_more_bind
    (reads_rangeDash.bind fun ranges => ?_) (by decide)
  split
  · refine reads_skip.bind fun _ => reads_more_bind ?_ (by decide)
    refine reads_setItem.uncounted.bind fun second => ?_
    split
    · exact (reads_refuse _).bind fun _ => reads_pure _
    · exact reads_failure
  · split <;> exact reads_pure _

theorem reads_leading : Reads 0 1 leading := by
  refine (reads_readWhile (by decide)).bind fun dashes => reads_more_bind ?_ (by decide)
  split
  · exact reads_pure _
  · refine reads_accept_bind (by decide) ?_ (reads_pure _)
    exact reads_skip.bind fun _ => reads_more_bind (reads_pure _) (by decide)

theorem reads_setOperator : Reads 0 0 setOperator? :=
  reads_accept_bind (by decide) (reads_pure _) <| reads_accept_bind (by decide) (reads_pure _) <|
    reads_accept_bind (by decide) (reads_pure _) (reads_pure none)

/-- A text up to the first mark and from it on. -/
theorem span_mark {mark : Char} {name : List Char} (plain : mark ∉ name) (rest : List Char) :
    (name ++ mark :: rest).takeWhile (· != mark) = name ∧
      (name ++ mark :: rest).dropWhile (· != mark) = mark :: rest := by
  have others : ∀ c ∈ name, (c != mark) = true := by
    intro c member
    exact bne_iff_ne.mpr fun same => plain (same ▸ member)
  rw [List.dropWhile_append_of_pos others, List.takeWhile_append_of_pos others]
  simp

theorem dropWhile_of_no_mark {mark : Char} {rest : List Char} (plain : mark ∉ rest) :
    rest.dropWhile (· != mark) = [] := by
  have others : ∀ c ∈ rest, (c != mark) = true := by
    intro c member
    exact bne_iff_ne.mpr fun same => plain (same ▸ member)
  rw [← rest.append_nil, List.dropWhile_append_of_pos others]
  rfl

theorem named_bracket {name : List Char} (plain : ':' ∉ name) (negated : Bool) (rest : List Char) :
    asciiSet?.named negated (name ++ ':' :: ']' :: rest) =
      (asciiTable? (String.ofList name)).map fun table =>
        (CharSet.ofTable table, negated, rest) := by
  obtain ⟨taken, left⟩ := span_mark plain (']' :: rest)
  unfold asciiSet?.named
  rw [taken, left]
  rfl

theorem named_other {name rest : List Char} (plain : ':' ∉ name)
    (other : ∀ left, rest ≠ ']' :: left) (negated : Bool) :
    asciiSet?.named negated (name ++ ':' :: rest) = none := by
  obtain ⟨-, left⟩ := span_mark plain rest
  unfold asciiSet?.named
  rw [left]
  split
  · next after same => exact absurd (List.cons.inj same).2 (other after)
  · rfl

theorem named_of_no_colon {rest : List Char} (plain : ':' ∉ rest) (negated : Bool) :
    asciiSet?.named negated rest = none := by
  unfold asciiSet?.named
  rw [dropWhile_of_no_mark plain]

theorem suffix_named {rest left : List Char} {chars : CharSet} {before negated : Bool}
    (found : asciiSet?.named before rest = some (chars, negated, left)) : left <:+ rest := by
  unfold asciiSet?.named at found
  split at found
  · next after here =>
    obtain ⟨table, -, ⟨⟩⟩ := Option.map_eq_some_iff.mp found
    have passed := List.dropWhile_suffix (l := rest) (· != ':')
    rw [here] at passed
    exact ((List.suffix_cons _ _).trans (List.suffix_cons _ _)).trans passed
  · cases found

/-- A named set that is found in a text with more behind it is found in the text alone, or it goes
on behind a colon there. -/
theorem named_followed (negated : Bool) (rest behind : List Char) :
    asciiSet?.named negated (rest ++ ')' :: behind) =
        (asciiSet?.named negated rest).map (fun found =>
          (found.1, found.2.1, found.2.2 ++ ')' :: behind)) ∨
      asciiSet?.named negated rest = none ∧ ':' ∈ behind ∧
        ∀ found ∈ asciiSet?.named negated (rest ++ ')' :: behind),
          found.2.2.length ≤ behind.length := by
  by_cases colon : ':' ∈ rest
  · obtain ⟨name, left, rfl, plain⟩ := List.eq_append_cons_of_mem colon
    rw [List.append_assoc, List.cons_append]
    by_cases bracket : ∃ after, left = ']' :: after
    · obtain ⟨after, rfl⟩ := bracket
      rw [List.cons_append, named_bracket plain, named_bracket plain, Option.map_map]
      exact .inl rfl
    · have other : ∀ after, left ≠ ']' :: after := fun after same => bracket ⟨after, same⟩
      rw [named_other plain other, named_other plain]
      · exact .inl rfl
      · cases left with
        | nil => nofun
        | cons c left =>
          rintro after ⟨⟩
          exact other left rfl
  · rw [named_of_no_colon colon]
    by_cases later : ':' ∈ behind
    · refine .inr ⟨rfl, later, fun found member => ?_⟩
      obtain ⟨first, left, rfl, plain⟩ := List.eq_append_cons_of_mem later
      have split : rest ++ ')' :: (first ++ ':' :: left) = (rest ++ ')' :: first) ++ ':' :: left := by
        simp
      have noColon : ':' ∉ rest ++ ')' :: first := by simp [colon, plain]
      rw [split] at member
      by_cases bracket : ∃ after, left = ']' :: after
      · obtain ⟨after, rfl⟩ := bracket
        rw [named_bracket noColon] at member
        obtain ⟨table, -, rfl⟩ := Option.map_eq_some_iff.mp member
        simp
        omega
      · rw [named_other noColon fun after same => bracket ⟨after, same⟩] at member
        cases member
    · rw [named_of_no_colon]
      · exact .inl rfl
      · simp [colon, later]

theorem asciiSet_other {c : Char} (other : c ≠ ':') (rest : List Char) :
    asciiSet? (c :: rest) = none := by
  unfold asciiSet?
  split
  · next same => exact absurd (List.cons.inj same).1 other
  · next same => exact absurd (List.cons.inj same).1 other
  · rfl

theorem asciiSet_colon {c : Char} (other : c ≠ '^') (rest : List Char) :
    asciiSet? (':' :: c :: rest) = asciiSet?.named false (c :: rest) := by
  unfold asciiSet?
  split
  · next same => exact absurd (List.cons.inj (List.cons.inj same).2).1 other
  · next same => rw [(List.cons.inj same).2]
  · next none => exact absurd rfl (none (c :: rest))

theorem asciiSet_followed (rest behind : List Char) :
    asciiSet? (rest ++ ')' :: behind) =
        (asciiSet? rest).map (fun found => (found.1, found.2.1, found.2.2 ++ ')' :: behind)) ∨
      asciiSet? rest = none ∧ ':' ∈ behind ∧
        ∀ found ∈ asciiSet? (rest ++ ')' :: behind), found.2.2.length ≤ behind.length := by
  rcases rest with _ | ⟨c, rest⟩
  · exact .inl rfl
  · by_cases colon : c = ':'
    · subst colon
      rcases rest with _ | ⟨d, rest⟩
      · exact named_followed false [] behind
      · by_cases caret : d = '^'
        · subst caret
          exact named_followed true rest behind
        · rw [List.cons_append, List.cons_append, asciiSet_colon caret, asciiSet_colon caret]
          exact named_followed false (d :: rest) behind
    · rw [List.cons_append, asciiSet_other colon, asciiSet_other colon]
      exact .inl rfl

theorem suffix_asciiSet {rest left : List Char} {chars : CharSet} {negated : Bool}
    (found : asciiSet? rest = some (chars, negated, left)) : left <:+ rest := by
  unfold asciiSet? at found
  split at found
  · exact (suffix_named found).trans ((List.suffix_cons _ _).trans (List.suffix_cons _ _))
  · exact (suffix_named found).trans (List.suffix_cons _ _)
  · cases found

/-- What `namedSet?` tells and leaves of a text. -/
def namedIn (rest : List Char) : Option (CharSet × Bool) × List Char :=
  match asciiSet? rest with
  | some (chars, negated, left) => (some (chars, negated), left)
  | none => (none, rest)

theorem run_namedSet (reading : Reading) : namedSet?.run reading =
    some ((namedIn reading.rest).1, { reading with rest := (namedIn reading.rest).2 }) := by
  have run : namedSet?.run reading = (match asciiSet? reading.rest with
      | some (chars, negated, after) => do
          moveTo after
          return some (chars, negated)
      | none => return none : Reader (Option (CharSet × Bool))).run reading := rfl
  rw [run]
  unfold namedIn
  split <;> rfl

theorem namedIn_some {rest left : List Char} {chars : CharSet} {negated : Bool}
    (found : asciiSet? rest = some (chars, negated, left)) :
    namedIn rest = (some (chars, negated), left) := by
  unfold namedIn
  rw [found]

theorem namedIn_none {rest : List Char} (none : asciiSet? rest = none) :
    namedIn rest = (Option.none, rest) := by
  unfold namedIn
  rw [none]

theorem namedIn_followed (rest behind : List Char) :
    namedIn (rest ++ ')' :: behind) = ((namedIn rest).1, (namedIn rest).2 ++ ')' :: behind) ∨
      ':' ∈ behind ∧ (namedIn (rest ++ ')' :: behind)).2.length ≤ behind.length := by
  rcases asciiSet_followed rest behind with same | ⟨alone, colon, short⟩
  · left
    cases found : asciiSet? rest with
    | none =>
      rw [found] at same
      rw [namedIn_none found, namedIn_none same]
    | some set =>
      rw [found] at same
      rw [namedIn_some found, namedIn_some same]
  · cases found : asciiSet? (rest ++ ')' :: behind) with
    | none =>
      rw [namedIn_none alone, namedIn_none found]
      exact .inl rfl
    | some set =>
      rw [namedIn_some found]
      exact .inr ⟨colon, short set found⟩

theorem suffix_namedIn (rest : List Char) : (namedIn rest).2 <:+ rest := by
  cases found : asciiSet? rest with
  | none => simp only [namedIn_none found, List.suffix_refl]
  | some set =>
    rw [namedIn_some found]
    exact suffix_asciiSet found

theorem reads_namedSet : Reads 0 0 namedSet? := by
  have suffix {rest left : List Char} {value : Option (CharSet × Bool)}
      (came : some (namedIn rest) = some (value, left)) : left <:+ rest := by
    have passed := suffix_namedIn rest
    rwa [Option.some.inj came] at passed
  refine reads_of_run (fun _ rest => some (namedIn rest)) run_namedSet suffix
    (fun came => (suffix came).length_le) ?_ ?_
  · intro flags rest behind value left came spared
    rcases namedIn_followed rest behind with same | ⟨-, short⟩
    · rw [same] at came
      obtain ⟨rfl, rfl⟩ := Prod.mk.inj (Option.some.inj came)
      exact ⟨_, rfl, rfl⟩
    · rw [Option.some.inj came] at short
      dsimp only at short
      omega
  · intro flags rest behind value left _ noColon came
    rcases namedIn_followed rest behind with same | ⟨colon, -⟩
    · rw [Option.some.inj came] at same
      exact .inl (congrArg some same)
    · exact absurd colon noColon

theorem reads_bracketed_setBody (fuel : Nat) : Reads 1 0 (bracketed fuel) ∧
    ∀ pending items, Reads 1 0 (setBody fuel pending items) := by
  induction fuel with
  | zero => exact ⟨reads_failure, fun _ _ => reads_failure⟩
  | succ fuel ih =>
    obtain ⟨brackets, goes⟩ := ih
    constructor
    · unfold bracketed
      refine reads_skip.bind fun _ => (reads_accept (by decide)).bind fun negated =>
        reads_skip.bind fun _ => reads_leading.bindPassing 1 (fun items => ?_) (by decide)
          (by decide)
      exact (goes none items).bind fun bracket => (reads_closed _ _).bind fun _ => reads_pure _
    · intro pending items
      unfold setBody
      refine reads_skip.bind fun _ => reads_more_bind (reads_flags.bind fun flags =>
        reads_setOperator.bind fun operator => ?_) (by decide)
      split
      · exact goes _ _
      · refine reads_accept_bind (by decide) (reads_pure _) <| reads_accept_bind (by decide) ?_ ?_
        · refine reads_namedSet.bind fun named => ?_
          split
          · exact (reads_closed _ _).bind fun chars => (goes _ _).uncounted
          · exact brackets.uncounted.bind fun nested => (goes _ _).uncounted
        · exact reads_setRange.bindPassing 1 (fun chars => goes _ _) (by decide) (by decide)

theorem reads_skipLazy : Reads 0 0 skipLazy :=
  (reads_accept (by decide)).bind fun _ => reads_pure ()

theorem reads_bounds : Reads 0 0 bounds := by
  refine reads_decimal.bind fun least => reads_accept_bind (by decide) ?_ ?_
  · refine reads_skip.bind fun _ => reads_peek_bind (fun c => ?_) rfl
    split
    · exact (reads_lift least).bind fun _ => reads_pure _
    · exact (reads_lift least).bind fun _ => reads_decimal.bind fun most =>
        (reads_lift most).bind fun _ => (reads_refuse _).bind fun _ => reads_pure _
  · exact (reads_lift least).bind fun _ => reads_pure _

theorem reads_counts : Reads 1 0 counts :=
  reads_skip.bind fun _ => reads_more_bind
    (reads_bounds.bind fun _ => reads_next.bind fun _ => (reads_refuse _).bind fun _ =>
      reads_skip.bind fun _ => reads_skipLazy.bind fun _ => reads_pure _) (by decide)

theorem reads_readFlags (fuel : Nat) (seen : List Char) (flags : Flags) :
    Reads 1 0 (readFlags fuel seen flags) := by
  induction fuel generalizing seen flags with
  | zero => exact reads_failure
  | succ fuel ih =>
    have goes (seen : List Char) (flags : Flags) : Reads 0 0 (readFlags fuel seen flags) :=
      (ih seen flags).uncounted
    refine reads_next.bind fun c => ?_
    split
    · exact (reads_refuse _).bind fun _ => reads_pure _
    · refine (reads_refuse _).bind fun _ => ?_
      split
      · exact goes _ _
      · exact (reads_lift _).bind fun flags => goes _ flags

/-- What `label` tells and leaves of a text. -/
def labelIn? (rest : List Char) : Option (List Char × List Char) :=
  match rest.dropWhile (· != '>') with
  | _ :: left => some (rest.takeWhile (· != '>'), left)
  | [] => none

theorem run_label (reading : Reading) : label.run reading =
    (labelIn? reading.rest).map fun result => (result.1, { reading with rest := result.2 }) := by
  have run : label.run reading = (match reading.rest.dropWhile (· != '>') with
      | _ :: after => do
          moveTo after
          return reading.rest.takeWhile (· != '>')
      | [] => failure : Reader (List Char)).run reading := rfl
  rw [run]
  unfold labelIn?
  split <;> rfl

theorem labelIn_mark {name : List Char} (plain : '>' ∉ name) (left : List Char) :
    labelIn? (name ++ '>' :: left) = some (name, left) := by
  obtain ⟨taken, dropped⟩ := span_mark plain left
  unfold labelIn?
  rw [taken, dropped]

theorem labelIn_eq_some_iff {rest name left : List Char} :
    labelIn? rest = some (name, left) ↔ rest = name ++ '>' :: left ∧ '>' ∉ name := by
  constructor
  · intro came
    by_cases marked : '>' ∈ rest
    · obtain ⟨first, later, rfl, plain⟩ := List.eq_append_cons_of_mem marked
      rw [labelIn_mark plain] at came
      cases came
      exact ⟨rfl, plain⟩
    · unfold labelIn? at came
      rw [dropWhile_of_no_mark marked] at came
      cases came
  · rintro ⟨rfl, plain⟩
    exact labelIn_mark plain left

theorem reads_label : Reads 1 0 label := by
  refine reads_of_run (fun _ => labelIn?) run_label ?_ ?_ ?_ ?_
  · intro flags rest name left came
    obtain ⟨rfl, -⟩ := labelIn_eq_some_iff.mp came
    exact (List.suffix_cons _ left).trans (List.suffix_append name _)
  · intro flags rest name left came
    obtain ⟨rfl, -⟩ := labelIn_eq_some_iff.mp came
    simp
  · intro flags rest behind name left came spared
    obtain ⟨split, plain⟩ := labelIn_eq_some_iff.mp came
    rw [← List.singleton_append (l := left), ← List.append_assoc] at split
    rcases List.append_eq_append_iff.mp split with ⟨beyond, named, rest⟩ | ⟨own, named, left⟩
    · have size := congrArg List.length rest
      rw [List.length_append, List.length_cons] at size
      obtain rfl := List.eq_nil_of_length_eq_zero (l := beyond) (by omega)
      rw [List.append_nil] at named
      exact ⟨[], rest.symm, labelIn_eq_some_iff.mpr ⟨by rw [← named], plain⟩⟩
    · exact ⟨own, left, labelIn_eq_some_iff.mpr ⟨by rw [named]; simp, plain⟩⟩
  · intro flags rest behind name left _ _ came
    obtain ⟨rfl, plain⟩ := labelIn_eq_some_iff.mp came
    exact .inl (labelIn_eq_some_iff.mpr ⟨by simp, plain⟩)

theorem reads_groupName : Reads 1 0 groupName :=
  reads_label.bind fun _ => (reads_refuse _).bind fun _ =>
    (reads_gets Reading.names fun _ _ => rfl).bind fun _ => (reads_refuse _).bind fun _ =>
      reads_modify _ (fun _ => rfl) fun _ _ => rfl

theorem reads_groupNumber : Reads 0 0 groupNumber :=
  (reads_modify (fun reading => { reading with groups := reading.groups + 1 }) (fun _ => rfl)
    fun _ _ => rfl).bind fun _ => reads_gets (fun reading => some reading.groups) fun _ _ => rfl

/-- The marks of the conditions that are refused. -/
def lookaround (rest : List Char) : Bool :=
  ["?=", "?!", "?<=", "?<!"].any fun mark => mark.toList.isPrefixOf rest

theorem lookaround_followed (rest behind : List Char) :
    lookaround (rest ++ ')' :: behind) = lookaround rest := by
  unfold lookaround
  simp only [List.any_cons, List.any_nil]
  rw [isPrefixOf_followed (by decide), isPrefixOf_followed (by decide),
    isPrefixOf_followed (by decide), isPrefixOf_followed (by decide)]

theorem reads_refuseLookaround : Reads 0 0 refuseLookaround := by
  refine reads_of_run (fun _ rest => if lookaround rest then none else some ((), rest)) ?_ ?_ ?_ ?_
    ?_
  · intro reading
    have run : refuseLookaround.run reading = (refuse (lookaround reading.rest)).run reading := rfl
    rw [run]
    cases lookaround reading.rest <;> rfl
  · intro flags rest value left came
    obtain ⟨-, ⟨⟩⟩ := Option.ite_none_left_eq_some.mp came
    exact List.suffix_refl _
  · intro flags rest value left came
    obtain ⟨-, ⟨⟩⟩ := Option.ite_none_left_eq_some.mp came
    exact Nat.le_refl _
  · intro flags rest behind value left came _
    rw [lookaround_followed] at came
    obtain ⟨other, ⟨⟩⟩ := Option.ite_none_left_eq_some.mp came
    exact ⟨rest, rfl, if_neg other⟩
  · intro flags rest behind value left _ _ came
    obtain ⟨other, ⟨⟩⟩ := Option.ite_none_left_eq_some.mp came
    rw [lookaround_followed]
    exact .inl (if_neg other)

theorem reads_opening : Reads 0 0 opening := by
  have named : Reads 0 0 (do groupName; return some (← groupNumber) : Reader (Option (Option Nat))) :=
    (reads_groupName.bind fun _ => reads_groupNumber.bind fun number => reads_pure _).relax
      (Nat.zero_le 1) (Nat.le_refl 0)
  refine reads_refuseLookaround.bind fun _ => reads_accept_bind (by decide) named <|
    reads_accept_bind (by decide) named <| reads_accept_bind (by decide) ?_
      (reads_groupNumber.bind fun number => reads_pure _)
  refine reads_flags.bind fun flags => ?_
  refine (reads_readFlags 9 [] flags).uncounted.bind fun ⟨changed, seen, closer⟩ => ?_
  refine (reads_modify (fun reading => { reading with flags := changed }) (fun _ => rfl)
    fun _ _ => rfl).bind fun _ => ?_
  split
  · exact reads_pure _
  · exact (reads_refuse _).bind fun _ => reads_pure _

/-- What `closing` leaves of a text. -/
def afterClosing? : List Char → Option (Unit × List Char)
  | ')' :: rest => some ((), rest)
  | _ => none

theorem afterClosing_eq_some_iff {rest left : List Char} {value : Unit} :
    afterClosing? rest = some (value, left) ↔ rest = ')' :: left := by
  unfold afterClosing?
  split
  · simp
  · next other => exact ⟨nofun, fun same => absurd same (other left)⟩

theorem run_closing (reading : Reading) : closing.run reading =
    (afterClosing? reading.rest).map fun result => (result.1, { reading with rest := result.2 }) := by
  have run : closing.run reading =
      (accept ")" >>= fun closes => refuse !closes).run reading := rfl
  rw [run, StateT.run_bind, run_accept]
  split
  · next begins =>
    obtain ⟨rest, closes⟩ := List.isPrefixOf_iff_prefix.mp begins
    rw [← closes]
    rfl
  · next differs =>
    unfold afterClosing?
    split
    · next rest closes => exact absurd (by rw [closes]; rfl) differs
    · rfl

theorem reads_closing : Reads 1 0 closing := by
  refine reads_of_run (fun _ => afterClosing?) run_closing ?_ ?_ ?_ ?_
  · intro flags rest value left came
    rw [afterClosing_eq_some_iff.mp came]
    exact List.suffix_cons _ left
  · intro flags rest value left came
    rw [afterClosing_eq_some_iff.mp came]
    exact Nat.le_refl _
  · intro flags rest behind value left came spared
    have closes := afterClosing_eq_some_iff.mp came
    cases rest with
    | nil =>
      cases closes
      omega
    | cons c rest =>
      cases closes
      exact ⟨rest, rfl, rfl⟩
  · intro flags rest behind value left _ _ came
    rw [afterClosing_eq_some_iff.mp came]
    exact .inl rfl

theorem reads_close (outer : Flags) : Reads 1 0 (close outer) :=
  reads_closing.bind fun _ => reads_modify _ (fun _ => rfl) fun _ _ => rfl

theorem reads_single : ReadsBut (fun _ after behind => Stuck after behind) 1 0 single := by
  refine reads_next.bind fun c => reads_flags.bind fun flags => ?_
  split
  · split
    · exact (reads_pure _).but
    · exact reads_failure.but
  · exact (reads_pure _).but
  · exact (reads_pure _).but
  · refine reads_escaped.uncounted.bindUsing 0
      (fun escaped => (reads_pure _).but) (Nat.le_refl 0) (Nat.le_refl 0) ?_
    rintro _ between behind result after ⟨-, stuck⟩ came -
    cases came
    exact stuck
  · exact (reads_pure _).but

theorem reads_marked (bounds : Nat × Option Nat) :
    Reads 0 0 (do skipLazy; return some bounds : Reader (Option (Nat × Option Nat))) :=
  reads_skipLazy.bind fun _ => reads_pure _

theorem reads_counted : Reads 0 0 (do return some (← counts) : Reader (Option (Nat × Option Nat))) :=
  reads_counts.uncounted.bind fun _ => reads_pure _

theorem reads_repetition : Reads 0 0 repetition? :=
  reads_accept_bind (by decide) (reads_marked _) <| reads_accept_bind (by decide) (reads_marked _) <|
    reads_accept_bind (by decide) (reads_marked _) <|
      reads_accept_bind (by decide) reads_counted (reads_pure none)

theorem skipped_brace (flags : Flags) (rest : List Char) :
    flags.skipped ('\x7b' :: rest) = '\x7b' :: rest := by
  unfold Flags.skipped
  split <;> rfl

theorem uses_counts {before after : Reading} {bounds : Nat × Option Nat}
    (came : counts.run before = some (bounds, after)) :
    after.rest.length + 1 ≤ (before.flags.skipped before.rest).length := by
  obtain ⟨_, between, skips, came⟩ := run_bind_eq_some.mp came
  rw [run_skip] at skips
  cases skips
  refine (show Reads 1 0 _ from ?_).uses came
  exact reads_more_bind (reads_bounds.bind fun _ => reads_next.bind fun _ => (reads_refuse _).bind
    fun _ => reads_skip.bind fun _ => reads_skipLazy.bind fun _ => reads_pure _) (by decide)

theorem run_repetition_brace {reading : Reading} {rest : List Char}
    (opens : reading.rest = '\x7b' :: rest) : repetition?.run reading =
      (counts >>= fun bounds => return some bounds).run { reading with rest } := by
  obtain ⟨_, flags, names, groups⟩ := reading
  subst opens
  rfl

/-- Where an opening brace is left with nothing but what stands behind after it, a sequence that goes
on there does not leave all of that. -/
theorem sequence_of_stuck {fuel : Nat} {before after : Reading} {behind : List Char}
    {parts result : List Part} (goes : ∀ parts, Reads 0 0 (sequence fuel parts))
    (stuck : Stuck before behind)
    (came : (sequence (fuel + 1) parts).run before = some (result, after)) :
    after.rest.length ≤ behind.length := by
  obtain ⟨rest, opens, short⟩ := stuck
  unfold sequence at came
  obtain ⟨_, between, skips, came⟩ := run_bind_eq_some.mp came
  rw [run_skip, opens, skipped_brace, ← opens] at skips
  cases skips
  obtain ⟨c, between, peeks, came⟩ := run_bind_eq_some.mp came
  obtain ⟨rfl, rfl⟩ := Prod.mk.inj (Option.some.inj peeks)
  dsimp only at came
  rw [opens] at came
  dsimp only [List.head?_cons] at came
  obtain ⟨repetition, between, repeats, came⟩ := run_bind_eq_some.mp came
  rw [run_repetition_brace rfl] at repeats
  obtain ⟨bounds, counted, reads, ⟨⟩⟩ := run_bind_eq_some.mp repeats
  have passed := uses_counts reads
  dsimp only at passed came
  cases parts with
  | nil => cases came
  | cons part parts =>
    have onward := ((reads_refuse (!part.repeatable)).bind fun _ =>
      goes (part.around (.repeated · bounds.1 bounds.2) :: parts)).uses came
    omega

theorem reads_alternatives (fuel : Nat) : (∀ before, Reads 0 0 (alternatives fuel before)) ∧
    (∀ parts, Reads 0 0 (sequence fuel parts)) ∧ Reads 0 0 (group fuel) ∧
    ∀ {parts result} {before after : Reading} {behind}, Stuck before behind →
      (sequence fuel parts).run before = some (result, after) →
      after.rest.length ≤ behind.length := by
  induction fuel with
  | zero => exact ⟨fun _ => reads_failure, fun _ => reads_failure, reads_failure, nofun⟩
  | succ fuel ih =>
    obtain ⟨choices, goes, groups, stuck⟩ := ih
    refine ⟨fun before => ?_, fun parts => ?_, ?_, sequence_of_stuck goes⟩
    · unfold alternatives
      exact (goes []).bind fun parts => reads_accept_bind (by decide) (choices _) (reads_pure _)
    · unfold sequence
      refine reads_skip.bind fun _ => reads_peek_bind (fun c => ?_) rfl
      split
      · exact reads_pure _
      · exact reads_pure _
      · exact reads_pure _
      · exact (reads_next.bind fun _ => reads_skip.bind fun _ => groups.bind fun part =>
          goes (part :: parts)).relax (Nat.zero_le 1) (Nat.le_refl _)
      · exact (reads_next.bind fun _ => (reads_bracketed_setBody fuel).1.uncounted.bind fun bracket =>
          goes _).relax (Nat.zero_le 1) (Nat.le_refl _)
      · refine reads_repetition.bind fun repetition => ?_
        split
        · refine reads_single.bindUsing 0 (fun part => goes _) (Nat.zero_le 1) (Nat.le_refl 0) ?_
          intro part between behind result after left came spared
          have := stuck left came
          omega
        · exact (reads_refuse _).bind fun _ => goes _
        · exact reads_failure
    · unfold group
      refine reads_flags.bind fun outer => reads_opening.bind fun opened => ?_
      split
      · exact reads_pure _
      · exact (choices []).bind fun part => (reads_close outer).uncounted.bind fun _ => reads_pure _

end PathQuery.Regex.Reader
