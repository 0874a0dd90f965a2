import PathQuery.Regex.Reader

/-!
What stands behind a regular expression does not change how it is read. A reader is followed on two
texts, of which one goes on behind the other with a closing parenthesis.
-/

namespace PathQuery.Regex

/-- The same with a closing parenthesis and more text behind. -/
def Reading.followed (reading : Reading) (behind : List Char) : Reading :=
  { reading with rest := reading.rest ++ ')' :: behind }

/-- What is left of a text after what the flag `x` lets be passed. -/
def Flags.skipped (flags : Flags) (rest : List Char) : List Char :=
  if flags.verbose then afterSpace rest else rest

namespace Reader

variable {α β : Type} {used spare least : Nat}

/-- A reader that succeeds leaves an end of the text and passes so many characters at least. If it
leaves all that follows a text, and so many characters more, then it reads the text alone in the same
way, but for exceptions. What it reads alone it also reads with more text behind, unless a comment
goes on to the end of both. -/
structure ReadsBut (except : α → Reading → List Char → Prop) (used spare : Nat) (reader : Reader α) :
    Prop where
  suffix : ∀ {before value after}, reader.run before = some (value, after) →
    after.rest <:+ before.rest
  uses : ∀ {before value after}, reader.run before = some (value, after) →
    after.rest.length + used ≤ before.rest.length
  keeps : ∀ {before : Reading} {behind value after},
    reader.run (before.followed behind) = some (value, after) →
    behind.length + 1 + spare ≤ after.rest.length →
    (∃ own : Reading, after = own.followed behind ∧ reader.run before = some (value, own)) ∨
      except value after behind
  goesOn : ∀ {before : Reading} {behind value after}, '\n' ∉ behind → ':' ∉ behind →
    reader.run before = some (value, after) →
    reader.run (before.followed behind) = some (value, after.followed behind) ∨
      after.rest = [] ∧ reader.run (before.followed behind) = some (value, after)

/-- A reader without exceptions. -/
abbrev Reads (used spare : Nat) (reader : Reader α) : Prop :=
  ReadsBut (fun _ _ _ => False) used spare reader

theorem run_bind_eq_some {reader : Reader α} {next : α → Reader β} {before : Reading}
    {result : β × Reading} :
    (reader >>= next).run before = some result ↔
      ∃ value between, reader.run before = some (value, between) ∧
        (next value).run between = some result := by
  rw [StateT.run_bind]
  simp only [bind, Option.bind_eq_some_iff, Prod.exists]

/-- What goes on after a reader matters only where that succeeds. -/
theorem run_bind_congr {reader : Reader α} {next other : α → Reader β} {before : Reading}
    (same : ∀ value after, reader.run before = some (value, after) →
      (next value).run after = (other value).run after) :
    (reader >>= next).run before = (reader >>= other).run before := by
  rw [StateT.run_bind, StateT.run_bind]
  cases came : reader.run before with
  | none => rfl
  | some result => exact same result.1 result.2 came

theorem run_bind_left {reader other : Reader α} {next : α → Reader β} {before : Reading}
    (same : reader.run before = other.run before) :
    (reader >>= next).run before = (other >>= next).run before := by
  rw [StateT.run_bind, StateT.run_bind, same]

section Combinators

variable {except : α → Reading → List Char → Prop} {other : β → Reading → List Char → Prop}
  {reader : Reader α} {next : α → Reader β}

/-- One reader and then another, which passes so many characters itself and settles the exceptions of
the first. -/
theorem ReadsBut.bindUsing (more : Nat) (reads : ReadsBut except least spare reader)
    {first total : Nat} (goes : ∀ value, ReadsBut other more first (next value))
    (sum : total ≤ least + more) (enough : spare ≤ more + first)
    (ends : ∀ value between behind result after, except value between behind →
      (next value).run between = some (result, after) →
      behind.length + 1 + first ≤ after.rest.length → other result after behind) :
    ReadsBut other total first (reader >>= next) := by
  refine ⟨fun came => ?_, fun came => ?_, fun came left => ?_, fun line colon came => ?_⟩
  · obtain ⟨value, between, begins, finishes⟩ := run_bind_eq_some.mp came
    exact ((goes value).suffix finishes).trans (reads.suffix begins)
  · obtain ⟨value, between, begins, finishes⟩ := run_bind_eq_some.mp came
    have := reads.uses begins
    have := (goes value).uses finishes
    omega
  · obtain ⟨value, between, begins, finishes⟩ := run_bind_eq_some.mp came
    have := (goes value).uses finishes
    rcases reads.keeps begins (by omega) with ⟨middle, rfl, alone⟩ | exception
    · refine ((goes value).keeps finishes left).imp_left ?_
      rintro ⟨own, rfl, further⟩
      exact ⟨own, rfl, run_bind_eq_some.mpr ⟨value, middle, alone, further⟩⟩
    · exact .inr (ends value between _ _ _ exception finishes left)
  · obtain ⟨value, between, begins, finishes⟩ := run_bind_eq_some.mp came
    rcases reads.goesOn line colon begins with further | ⟨none, swallows⟩
    · rcases (goes value).goesOn line colon finishes with finishes | ⟨none, finishes⟩
      · exact .inl (run_bind_eq_some.mpr ⟨value, _, further, finishes⟩)
      · exact .inr ⟨none, run_bind_eq_some.mpr ⟨value, _, further, finishes⟩⟩
    · -- a comment went on to the end, so nothing is left for the second reader to pass
      have := (goes value).uses finishes
      rw [none, List.length_nil] at this
      refine .inr ⟨List.eq_nil_of_length_eq_zero (by omega), ?_⟩
      exact run_bind_eq_some.mpr ⟨value, between, swallows, finishes⟩

theorem ReadsBut.bindPassing (more : Nat) (reads : Reads least spare reader)
    {first total : Nat} (goes : ∀ value, ReadsBut other more first (next value))
    (sum : total ≤ least + more) (enough : spare ≤ more + first) :
    ReadsBut other total first (reader >>= next) :=
  reads.bindUsing more goes sum enough fun _ _ _ _ _ impossible => impossible.elim

theorem ReadsBut.bind (reads : Reads least 0 reader)
    (goes : ∀ value, ReadsBut other (used - least) spare (next value)) :
    ReadsBut other used spare (reader >>= next) :=
  reads.bindPassing _ goes (by omega) (Nat.zero_le _)

theorem ReadsBut.relax {fewer more : Nat} (reads : ReadsBut except used spare reader)
    (le : fewer ≤ used) (most : spare ≤ more) : ReadsBut except fewer more reader := by
  refine ⟨reads.suffix, fun came => ?_, fun came left => reads.keeps came (by omega), reads.goesOn⟩
  have := reads.uses came
  omega

/-- That characters are passed need not be told. -/
theorem ReadsBut.uncounted (reads : ReadsBut except used spare reader) :
    ReadsBut except 0 spare reader :=
  reads.relax (Nat.zero_le used) (Nat.le_refl spare)

theorem Reads.keeps (reads : Reads used spare reader) {before after : Reading} {behind : List Char}
    {value : α} (came : reader.run (before.followed behind) = some (value, after))
    (left : behind.length + 1 + spare ≤ after.rest.length) :
    ∃ own : Reading, after = own.followed behind ∧ reader.run before = some (value, own) :=
  (ReadsBut.keeps reads came left).resolve_right id

theorem ReadsBut.but (reads : Reads used spare reader) : ReadsBut except used spare reader :=
  ⟨reads.suffix, reads.uses, fun came left => .inl (Reads.keeps reads came left), reads.goesOn⟩

theorem reads_pure (value : α) : Reads 0 spare (pure value : Reader α) := by
  refine ⟨fun came => ?_, fun came => ?_, fun came left => .inl ?_, fun line colon came => .inl ?_⟩
  · cases came
    exact List.suffix_refl _
  · cases came
    exact Nat.le_refl _
  · cases came
    exact ⟨_, rfl, rfl⟩
  · cases came
    rfl

theorem reads_failure : Reads used spare (failure : Reader α) :=
  ⟨nofun, nofun, nofun, nofun⟩

theorem reads_refuse (condition : Bool) : Reads 0 spare (refuse condition) := by
  cases condition
  · exact reads_pure ()
  · exact reads_failure

theorem reads_lift (value? : Option α) : Reads 0 spare (liftM value? : Reader α) := by
  cases value? with
  | none => exact reads_failure
  | some value => exact reads_pure value

end Combinators

/-- What is read off the state apart from the text does not depend on the text. -/
theorem reads_gets (read : Reading → α)
    (same : ∀ reading behind, read (Reading.followed reading behind) = read reading) :
    Reads 0 spare (do return read (← get)) := by
  refine ⟨fun came => ?_, fun came => ?_, fun came left => .inl ?_, fun line colon came => .inl ?_⟩
  · cases came
    exact List.suffix_refl _
  · cases came
    exact Nat.le_refl _
  · cases came
    exact ⟨_, rfl, by rw [same]; rfl⟩
  · cases came
    rw [← same]
    rfl

/-- A change of the state apart from the text. -/
theorem reads_modify (change : Reading → Reading)
    (same : ∀ reading, (change reading).rest = reading.rest)
    (commutes : ∀ reading behind,
      change (Reading.followed reading behind) = (change reading).followed behind) :
    Reads 0 spare (modify change) := by
  refine ⟨fun came => ?_, fun came => ?_, fun came left => .inl ?_, fun line colon came => .inl ?_⟩
  · cases came
    simp only [same, List.suffix_refl]
  · cases came
    rw [same]
    exact Nat.le_refl _
  · cases came
    exact ⟨_, commutes _ _, rfl⟩
  · cases came
    exact congrArg (fun reading => some ((), reading)) (commutes _ _)

theorem reads_flags : Reads 0 0 flags :=
  reads_gets Reading.flags fun _ _ => rfl

/-- A reader that does nothing to the state but pass a part of the text, as the flags say. -/
theorem reads_of_run {except : α → Reading → List Char → Prop} {reader : Reader α}
    (read : Flags → List Char → Option (α × List Char))
    (run : ∀ reading, reader.run reading = (read reading.flags reading.rest).map
      fun result => (result.1, { reading with rest := result.2 }))
    (suffix : ∀ {flags rest value left}, read flags rest = some (value, left) → left <:+ rest)
    (uses : ∀ {flags rest value left}, read flags rest = some (value, left) →
      left.length + used ≤ rest.length)
    (keeps : ∀ {flags rest behind value left},
      read flags (rest ++ ')' :: behind) = some (value, left) →
      behind.length + 1 + spare ≤ left.length →
      ∃ own, left = own ++ ')' :: behind ∧ read flags rest = some (value, own))
    (goesOn : ∀ {flags rest behind value left}, '\n' ∉ behind → ':' ∉ behind →
      read flags rest = some (value, left) →
      read flags (rest ++ ')' :: behind) = some (value, left ++ ')' :: behind) ∨
        left = [] ∧ read flags (rest ++ ')' :: behind) = some (value, [])) :
    ReadsBut except used spare reader := by
  have run_eq_some {reading after : Reading} {value : α}
      (came : reader.run reading = some (value, after)) :
      ∃ left, read reading.flags reading.rest = some (value, left) ∧
        after = { reading with rest := left } := by
    rw [run] at came
    obtain ⟨⟨_, left⟩, reads, ⟨⟩⟩ := Option.map_eq_some_iff.mp came
    exact ⟨left, reads, rfl⟩
  refine ⟨fun came => ?_, fun came => ?_, fun {before behind value after} came spared => .inl ?_,
    fun {before behind value after} line colon came => ?_⟩
  · obtain ⟨left, reads, rfl⟩ := run_eq_some came
    exact suffix reads
  · obtain ⟨left, reads, rfl⟩ := run_eq_some came
    exact uses reads
  · obtain ⟨left, reads, rfl⟩ := run_eq_some came
    obtain ⟨own, rfl, alone⟩ := keeps reads spared
    exact ⟨{ before with rest := own }, rfl, (run _).trans (congrArg (Option.map _) alone)⟩
  · obtain ⟨left, reads, rfl⟩ := run_eq_some came
    have followed : reader.run (before.followed behind) =
        (read before.flags (before.rest ++ ')' :: behind)).map
          fun result => (result.1, { before with rest := result.2 }) := run _
    rw [followed]
    rcases goesOn line colon reads with further | ⟨rfl, swallows⟩
    · rw [further]
      exact .inl rfl
    · rw [swallows]
      exact .inr ⟨rfl, rfl⟩

/-- A reader that always succeeds and stops before a closing parenthesis. -/
theorem reads_of_total {reader : Reader α} (read : Flags → List Char → α × List Char)
    (run : ∀ reading, reader.run reading = some ((read reading.flags reading.rest).1,
      { reading with rest := (read reading.flags reading.rest).2 }))
    (suffix : ∀ flags rest, (read flags rest).2 <:+ rest)
    (followed : ∀ flags rest behind, read flags (rest ++ ')' :: behind) =
      ((read flags rest).1, (read flags rest).2 ++ ')' :: behind)) : Reads 0 spare reader := by
  have passed {flags : Flags} {rest left : List Char} {value : α}
      (came : some (read flags rest) = some (value, left)) : left <:+ rest := by
    have leaves := suffix flags rest
    rwa [Option.some.inj came] at leaves
  refine reads_of_run (fun flags rest => some (read flags rest)) run passed
    (fun came => (passed came).length_le) ?_ ?_
  · intro flags rest behind value left came _
    rw [followed] at came
    obtain ⟨rfl, rfl⟩ := Prod.mk.inj (Option.some.inj came)
    exact ⟨_, rfl, rfl⟩
  · intro flags rest behind value left _ _ came
    refine .inl (congrArg some ?_)
    rw [followed, Option.some.inj came]

theorem reads_next : Reads 1 0 next := by
  refine reads_of_run (fun _ rest => rest.head?.map fun c => (c, rest.tail)) ?_ ?_ ?_ ?_ ?_
  · rintro ⟨_ | ⟨c, cs⟩⟩ <;> rfl
  · rintro _ (_ | ⟨c, cs⟩) _ _ ⟨⟩
    exact List.suffix_cons c cs
  · rintro _ (_ | ⟨c, cs⟩) _ _ ⟨⟩
    exact Nat.le_refl _
  · rintro _ (_ | ⟨c, cs⟩) behind _ _ ⟨⟩ spared
    · rw [List.nil_append, List.tail_cons] at spared
      omega
    · exact ⟨cs, rfl, rfl⟩
  · rintro _ (_ | ⟨c, cs⟩) behind _ _ - - ⟨⟩
    exact .inl rfl

theorem reads_more : Reads 0 1 more := by
  refine reads_of_run (fun _ rest => rest.head?.map fun _ => ((), rest)) ?_ ?_ ?_ ?_ ?_
  · rintro ⟨_ | ⟨c, cs⟩⟩ <;> rfl
  · rintro _ (_ | ⟨c, cs⟩) _ _ ⟨⟩
    exact List.suffix_refl _
  · rintro _ (_ | ⟨c, cs⟩) _ _ ⟨⟩
    exact Nat.le_refl _
  · rintro _ (_ | ⟨c, cs⟩) behind _ _ ⟨⟩ spared
    · rw [List.nil_append, List.length_cons] at spared
      omega
    · exact ⟨c :: cs, rfl, rfl⟩
  · rintro _ (_ | ⟨c, cs⟩) behind _ _ - - ⟨⟩
    exact .inl rfl

theorem reads_more_bind {reader : Reader α} {except : α → Reading → List Char → Prop}
    (goes : ReadsBut except used spare reader) (enough : 1 ≤ used + spare) :
    ReadsBut except used spare (more >>= fun _ => reader) :=
  reads_more.bindPassing used (fun _ => goes) (by omega) enough

theorem reads_peek_bind {next : Option Char → Reader α} {except : α → Reading → List Char → Prop}
    (goes : ∀ c, ReadsBut except used spare (next c)) (same : next none = next (some ')')) :
    ReadsBut except used spare (peek >>= next) := by
  have run (reading : Reading) :
      (peek >>= next).run reading = (next reading.rest.head?).run reading := rfl
  have head (reading : Reading) (behind : List Char) :
      next (reading.followed behind).rest.head? = next reading.rest.head? := by
    obtain ⟨_ | ⟨c, cs⟩, flags, names, groups⟩ := reading
    · exact same.symm
    · rfl
  refine ⟨fun came => (goes _).suffix (run _ ▸ came), fun came => (goes _).uses (run _ ▸ came),
    fun came spared => ?_, fun line colon came => ?_⟩
  · rw [run, head] at came
    exact (goes _).keeps came spared
  · rw [run] at came ⊢
    rw [head]
    exact (goes _).goesOn line colon came

theorem afterSpace_suffix (rest : List Char) : afterSpace rest <:+ rest := by
  refine afterSpace.induct (fun rest => afterSpace.afterComment rest <:+ rest)
    (fun rest => afterSpace rest <:+ rest) ?_ ?_ ?_ ?_ ?_ ?_ ?_ rest
  · exact List.suffix_refl _
  · intro c rest newline ih
    rw [afterSpace.afterComment, if_pos newline]
    exact ih.trans (List.suffix_cons c rest)
  · intro c rest other ih
    rw [afterSpace.afterComment, if_neg other]
    exact ih.trans (List.suffix_cons c rest)
  · exact List.suffix_refl _
  · intro c rest blank ih
    rw [afterSpace, if_pos blank]
    exact ih.trans (List.suffix_cons c rest)
  · intro c rest other mark ih
    rw [afterSpace, if_neg other, if_pos mark]
    exact ih.trans (List.suffix_cons c rest)
  · intro c rest other unmarked
    simp only [afterSpace, if_neg other, if_neg unmarked, List.suffix_refl]

theorem afterComment_eq_nil {rest : List Char} (noLine : '\n' ∉ rest) :
    afterSpace.afterComment rest = [] := by
  induction rest with
  | nil => rfl
  | cons c rest ih =>
    rw [List.mem_cons, not_or] at noLine
    rw [afterSpace.afterComment, if_neg (by simpa using Ne.symm noLine.1), ih noLine.2]

theorem afterComment_suffix (rest : List Char) : afterSpace.afterComment rest <:+ rest := by
  induction rest with
  | nil => exact List.suffix_refl _
  | cons c rest ih =>
    rw [afterSpace.afterComment]
    split
    · exact (afterSpace_suffix rest).trans (List.suffix_cons c rest)
    · exact ih.trans (List.suffix_cons c rest)

/-- What may be passed ends before a closing parenthesis, unless that stands in a comment. -/
theorem afterSpace_followed (rest behind : List Char) :
    afterSpace (rest ++ ')' :: behind) = afterSpace rest ++ ')' :: behind ∨
      afterSpace rest = [] ∧
        afterSpace (rest ++ ')' :: behind) = afterSpace.afterComment behind := by
  refine afterSpace.induct
    (fun rest => afterSpace.afterComment (rest ++ ')' :: behind) =
        afterSpace.afterComment rest ++ ')' :: behind ∨
      afterSpace.afterComment rest = [] ∧
        afterSpace.afterComment (rest ++ ')' :: behind) = afterSpace.afterComment behind)
    (fun rest => afterSpace (rest ++ ')' :: behind) = afterSpace rest ++ ')' :: behind ∨
      afterSpace rest = [] ∧
        afterSpace (rest ++ ')' :: behind) = afterSpace.afterComment behind) ?_ ?_ ?_ ?_ ?_ ?_ ?_ rest
  · exact .inr ⟨rfl, rfl⟩
  · intro c rest newline ih
    simpa only [List.cons_append, afterSpace.afterComment, if_pos newline] using ih
  · intro c rest other ih
    simpa only [List.cons_append, afterSpace.afterComment, if_neg other] using ih
  · exact .inl rfl
  · intro c rest blank ih
    simpa only [List.cons_append, afterSpace, if_pos blank] using ih
  · intro c rest other mark ih
    simpa only [List.cons_append, afterSpace, if_neg other, if_pos mark] using ih
  · intro c rest other unmarked
    simp only [List.cons_append, afterSpace, if_neg other, if_neg unmarked, true_or]

theorem skipped_suffix (flags : Flags) (rest : List Char) : flags.skipped rest <:+ rest := by
  unfold Flags.skipped
  split
  · exact afterSpace_suffix rest
  · exact List.suffix_refl _

theorem skipped_followed (flags : Flags) (rest behind : List Char) :
    flags.skipped (rest ++ ')' :: behind) = flags.skipped rest ++ ')' :: behind ∨
      flags.skipped rest = [] ∧
        flags.skipped (rest ++ ')' :: behind) = afterSpace.afterComment behind := by
  unfold Flags.skipped
  split
  · exact afterSpace_followed rest behind
  · exact .inl rfl

theorem run_skip (reading : Reading) : skip.run reading =
    some ((), { reading with rest := reading.flags.skipped reading.rest }) := by
  have run : skip.run reading = some ((), if reading.flags.verbose then
      { reading with rest := afterSpace reading.rest } else reading) := rfl
  rw [run, Flags.skipped]
  split <;> rfl

theorem reads_skip : Reads 0 0 skip := by
  refine reads_of_run (fun flags rest => some ((), flags.skipped rest)) run_skip ?_ ?_ ?_ ?_
  · rintro flags rest _ _ ⟨⟩
    exact skipped_suffix flags rest
  · rintro flags rest _ _ ⟨⟩
    exact (skipped_suffix flags rest).length_le
  · rintro flags rest behind _ _ ⟨⟩ spared
    rcases skipped_followed flags rest behind with stops | ⟨-, swallowed⟩
    · exact ⟨_, stops, rfl⟩
    · rw [swallowed] at spared
      have := (afterComment_suffix behind).length_le
      omega
  · rintro flags rest behind _ _ noLine - ⟨⟩
    rcases skipped_followed flags rest behind with stops | ⟨ended, swallowed⟩
    · exact .inl (congrArg (fun left => some ((), left)) stops)
    · rw [afterComment_eq_nil noLine] at swallowed
      exact .inr ⟨ended, congrArg (fun left => some ((), left)) swallowed⟩

theorem dropWhile_isBlank_followed (rest behind : List Char) :
    (rest ++ ')' :: behind).dropWhile Text.isBlank =
      rest.dropWhile Text.isBlank ++ ')' :: behind := by
  induction rest with
  | nil => exact List.dropWhile_cons_of_neg (by decide)
  | cons c rest ih =>
    rw [List.cons_append, List.dropWhile_cons, List.dropWhile_cons, ih]
    split <;> rfl

theorem reads_skipBlanks : Reads 0 0 skipBlanks :=
  reads_of_total (fun _ rest => ((), rest.dropWhile Text.isBlank)) (fun _ => rfl)
    (fun _ _ => List.dropWhile_suffix _) fun _ rest behind =>
      congrArg (((), ·)) (dropWhile_isBlank_followed rest behind)

theorem run_accept (text : String) (reading : Reading) : (accept text).run reading =
    some (if text.toList.isPrefixOf reading.rest then
      (true, { reading with rest := reading.rest.drop text.length }) else (false, reading)) := by
  have run : (accept text).run reading = (if text.toList.isPrefixOf reading.rest then do
      moveTo (reading.rest.drop text.length)
      return true
    else return false : Reader Bool).run reading := rfl
  rw [run]
  split <;> rfl

/-- Whether a text without a closing parenthesis comes next does not depend on what is behind one. -/
theorem isPrefixOf_followed {text rest : List Char} (plain : ')' ∉ text) (behind : List Char) :
    text.isPrefixOf (rest ++ ')' :: behind) = text.isPrefixOf rest := by
  induction text generalizing rest with
  | nil => rfl
  | cons c text ih =>
    rw [List.mem_cons, not_or] at plain
    cases rest with
    | nil => simp [List.isPrefixOf, Ne.symm plain.1]
    | cons d rest => rw [List.cons_append, List.isPrefixOf, List.isPrefixOf, ih plain.2]

/-- A text that is passed counts among the characters that are passed. -/
theorem reads_accept_bind {next : Bool → Reader α} {except : α → Reading → List Char → Prop}
    {text : String} (plain : ')' ∉ text.toList)
    (taken : ReadsBut except (used - text.length) spare (next true))
    (left : ReadsBut except used spare (next false)) :
    ReadsBut except used spare (accept text >>= next) := by
  have run (reading : Reading) : (accept text >>= next).run reading =
      if text.toList.isPrefixOf reading.rest then
        (next true).run { reading with rest := reading.rest.drop text.length }
      else (next false).run reading := by
    rw [StateT.run_bind, run_accept]
    split <;> rfl
  have size {rest : List Char} (begins : text.toList.isPrefixOf rest = true) :
      text.length ≤ rest.length :=
    (List.isPrefixOf_iff_prefix.mp begins).length_le
  have dropped {reading : Reading} (begins : text.toList.isPrefixOf reading.rest = true)
      (behind : List Char) :
      ({ reading.followed behind with rest := (reading.followed behind).rest.drop text.length } :
        Reading) = Reading.followed { reading with rest := reading.rest.drop text.length } behind := by
    unfold Reading.followed
    dsimp only
    rw [List.drop_append_of_le_length (size begins)]
  have same (reading : Reading) (behind : List Char) :
      text.toList.isPrefixOf (reading.followed behind).rest = text.toList.isPrefixOf reading.rest :=
    isPrefixOf_followed plain behind
  refine ⟨fun came => ?_, fun came => ?_, fun {before behind value after} came spared => ?_,
    fun {before behind value after} line colon came => ?_⟩
  · rw [run] at came
    split at came
    · exact (taken.suffix came).trans (List.drop_suffix _ _)
    · exact left.suffix came
  · rw [run] at came
    split at came
    · next begins =>
      have passed := taken.uses came
      have := size begins
      rw [List.length_drop] at passed
      omega
    · exact left.uses came
  · rw [run, same] at came
    rw [run]
    split at came
    · next begins =>
      rw [dropped begins] at came
      rw [if_pos begins]
      exact taken.keeps came spared
    · next differs =>
      rw [if_neg differs]
      exact left.keeps came spared
  · rw [run] at came
    rw [run, same]
    split at came
    · next begins =>
      rw [dropped begins, if_pos begins]
      exact taken.goesOn line colon came
    · next differs =>
      rw [if_neg differs]
      exact left.goesOn line colon came

theorem reads_accept {text : String} (plain : ')' ∉ text.toList) : Reads 0 0 (accept text) := by
  have run : accept text = accept text >>= pure := (bind_pure _).symm
  rw [run]
  exact reads_accept_bind plain (by rw [Nat.zero_sub]; exact reads_pure true) (reads_pure false)

/-- A reader that is given the length of the text, when a greater number makes no difference. -/
theorem reads_measured {go : Nat → Reader α} (reads : ∀ count, Reads used spare (go count))
    (enough : ∀ {count other reading}, reading.rest.length ≤ count → reading.rest.length ≤ other →
      (go count).run reading = (go other).run reading) :
    Reads used spare (do go (← rest).length) := by
  have run (reading : Reading) : (do go (← rest).length : Reader α).run reading =
      (go reading.rest.length).run reading := rfl
  have longer (reading : Reading) (behind : List Char) :
      (go reading.rest.length).run reading =
        (go (reading.followed behind).rest.length).run reading :=
    enough (Nat.le_refl _) (List.prefix_append _ _).length_le
  refine ⟨fun came => (reads _).suffix (run _ ▸ came), fun came => (reads _).uses (run _ ▸ came),
    fun came spared => ?_, fun line colon came => ?_⟩
  · rw [run] at came
    rw [run, longer]
    exact ReadsBut.keeps (reads _) came spared
  · rw [run, longer] at came
    rw [run]
    exact (reads _).goesOn line colon came

/-- A loop that is given a number at least as great as the length of the text does not depend on it,
when it stops at the end of the text and goes on with a shorter one. -/
theorem run_of_enough {go : Nat → Reader α}
    (ended : ∀ count (reading : Reading), reading.rest = [] →
      (go count).run reading = (go 0).run reading)
    (step : ∀ count other (reading : Reading),
      (∀ later : Reading, later.rest.length < reading.rest.length →
        (go count).run later = (go other).run later) →
      (go (count + 1)).run reading = (go (other + 1)).run reading)
    {count other : Nat} {reading : Reading} (long : reading.rest.length ≤ count)
    (longer : reading.rest.length ≤ other) : (go count).run reading = (go other).run reading := by
  induction count generalizing other reading with
  | zero => exact (ended other reading (List.eq_nil_of_length_eq_zero (Nat.le_zero.mp long))).symm
  | succ count ih =>
    cases other with
    | zero => exact ended _ reading (List.eq_nil_of_length_eq_zero (Nat.le_zero.mp longer))
    | succ other => exact step count other reading fun later fewer => ih (by omega) (by omega)

theorem reads_readWhile {accepts : Char → Bool} (stops : accepts ')' = false) :
    Reads 0 0 (readWhile accepts) := by
  refine reads_measured (fun count => ?_) (run_of_enough ?_ ?_)
  · induction count with
    | zero => exact reads_pure []
    | succ count ih =>
      refine reads_peek_bind (fun c => ?_) (by simp [stops])
      split
      · exact (reads_next.bind fun c => reads_skip.bind fun _ => ih.bind fun cs =>
          reads_pure (c :: cs)).relax (Nat.zero_le 1) (Nat.le_refl _)
      · exact reads_pure []
  · rintro count ⟨rest, flags, names, groups⟩ rfl
    cases count <;> rfl
  · intro count other reading again
    refine run_bind_congr fun c here came => ?_
    cases came
    split
    · refine run_bind_congr fun c after passes => run_bind_congr fun _ skipped skips =>
        run_bind_left (again skipped ?_)
      have passed := reads_next.uses passes
      have still := reads_skip.uses skips
      omega
    · rfl

theorem reads_upToBrace : Reads 1 0 upToBrace := by
  refine reads_measured (fun count => ?_) (run_of_enough ?_ ?_)
  · induction count with
    | zero => exact reads_failure
    | succ count ih =>
      refine reads_next.bind fun c => ?_
      split
      · exact reads_pure []
      · exact reads_skip.bind fun _ => ih.uncounted.bind fun cs =>
          reads_pure (c :: cs)
  · rintro count ⟨rest, flags, names, groups⟩ rfl
    cases count <;> rfl
  · intro count other reading again
    refine run_bind_congr fun c after passes => ?_
    split
    · rfl
    · refine run_bind_congr fun _ skipped skips => run_bind_left (again skipped ?_)
      have passed := reads_next.uses passes
      have still := reads_skip.uses skips
      omega

end Reader

end PathQuery.Regex
