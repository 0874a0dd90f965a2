import PathQuery.Proofs.Regex.Readers

/-!
How many calls the readers of regular expressions need. Main statement: `readers_settled`, four for
each character are enough, and more make no difference.
-/

namespace PathQuery.Regex.Reader

variable {α β : Type} {before after : Reading} {used spare : Nat}

/-- What goes on after a reader is compared where that reader ends. -/
theorem ReadsBut.congr {except : α → Reading → List Char → Prop} {reader : Reader α}
    {next further : α → Reader β} (reads : ReadsBut except used spare reader)
    (goes : ∀ value after, after.rest.length + used ≤ before.rest.length →
      (next value).run after = (further value).run after) :
    (reader >>= next).run before = (reader >>= further).run before :=
  run_bind_congr fun value after came => goes value after (reads.uses came)

theorem ReadsBut.congrBoth {except : α → Reading → List Char → Prop} {reader other : Reader α}
    {next further : α → Reader β} (reads : ReadsBut except used spare reader)
    (same : reader.run before = other.run before)
    (goes : ∀ value after, after.rest.length + used ≤ before.rest.length →
      (next value).run after = (further value).run after) :
    (reader >>= next).run before = (other >>= further).run before :=
  (reads.congr goes).trans (run_bind_left same)

theorem uses_accept {text : String} (came : (accept text).run before = some (true, after)) :
    after.rest.length + text.length ≤ before.rest.length := by
  rw [run_accept] at came
  split at came
  · next begins =>
    cases came
    have := (List.isPrefixOf_iff_prefix.mp begins).length_le
    rw [String.length_toList] at this
    rw [List.length_drop]
    omega
  · cases came

theorem eq_of_accept {text : String} (came : (accept text).run before = some (false, after)) :
    after = before := by
  rw [run_accept] at came
  split at came
  · cases came
  · cases came
    rfl

theorem congr_accept {text : String} {next further : Bool → Reader β}
    (taken : ∀ after : Reading, after.rest.length + text.length ≤ before.rest.length →
      (next true).run after = (further true).run after)
    (left : (next false).run before = (further false).run before) :
    (accept text >>= next).run before = (accept text >>= further).run before := by
  refine run_bind_congr fun begins after came => ?_
  cases begins with
  | true => exact taken after (uses_accept came)
  | false =>
    obtain rfl := eq_of_accept came
    exact left

/-- A text that may come next is passed if what is read without it cannot be left out. -/
theorem uses_of_accept {except : β → Reading → List Char → Prop} {text : String}
    {next : Bool → Reader β} {value : β} (long : 0 < text.length)
    (taken : ReadsBut except 0 0 (next true))
    (left : (next false).run before = some (value, after) →
      after.rest.length + 1 ≤ before.rest.length)
    (came : (accept text >>= next).run before = some (value, after)) :
    after.rest.length + 1 ≤ before.rest.length := by
  obtain ⟨_ | _, between, begins, goes⟩ := run_bind_eq_some.mp came
  · obtain rfl := eq_of_accept begins
    exact left goes
  · have := uses_accept begins
    have := taken.uses goes
    omega

theorem uses_setOperator {operator : SetOperator}
    (came : setOperator?.run before = some (some operator, after)) :
    after.rest.length + 1 ≤ before.rest.length := by
  have found (operator : SetOperator) :
      Reads 0 0 (return some operator : Reader (Option SetOperator)) :=
    reads_pure _
  unfold setOperator? at came
  refine uses_of_accept (by decide) (found _) (fun came => ?_) came
  refine uses_of_accept (by decide) (found _) (fun came => ?_) came
  exact uses_of_accept (by decide) (found _) (fun came => by cases came) came

theorem uses_repetition {bounds : Nat × Option Nat}
    (came : repetition?.run before = some (some bounds, after)) :
    after.rest.length + 1 ≤ before.rest.length := by
  unfold repetition? at came
  refine uses_of_accept (by decide) (reads_marked _) (fun came => ?_) came
  refine uses_of_accept (by decide) (reads_marked _) (fun came => ?_) came
  refine uses_of_accept (by decide) (reads_marked _) (fun came => ?_) came
  exact uses_of_accept (by decide) reads_counted (fun came => by cases came) came

/-- So many calls are enough for the brackets in a text, and one more makes no difference. -/
theorem brackets_settled (fuel : Nat) :
    (∀ before : Reading, 2 * before.rest.length + 2 ≤ fuel →
      (bracketed fuel).run before = (bracketed (fuel + 1)).run before) ∧
    ∀ pending items (before : Reading), 2 * before.rest.length + 1 ≤ fuel →
      (setBody fuel pending items).run before = (setBody (fuel + 1) pending items).run before := by
  induction fuel with
  | zero => exact ⟨fun _ few => by omega, fun _ _ _ few => by omega⟩
  | succ fuel ih =>
    obtain ⟨brackets, bodies⟩ := ih
    constructor
    · intro before few
      rw [bracketed, bracketed]
      refine reads_skip.congr fun _ skipped _ =>
        (reads_accept (by decide)).congr fun negated marked _ =>
          reads_skip.congr fun _ begun _ => reads_leading.congr fun items led _ => ?_
      exact run_bind_left (bodies _ _ _ (by omega))
    · intro pending items before few
      rw [setBody, setBody]
      refine reads_skip.congr fun _ skipped _ => reads_more.congr fun _ checked _ =>
        reads_flags.congr fun flags flagged _ => run_bind_congr fun operator operated operates => ?_
      have := reads_setOperator.uses operates
      split
      · have := uses_setOperator operates
        exact bodies _ _ _ (by omega)
      · refine congr_accept (fun _ _ => rfl) (congr_accept (fun opened size => ?_) ?_)
        · have : "[".length = 1 := by decide
          refine reads_namedSet.congr fun named passed _ => ?_
          split
          · exact (reads_closed _ _).congr fun chars closed _ => bodies _ _ _ (by omega)
          · refine (reads_bracketed_setBody fuel).1.congrBoth (brackets _ (by omega))
              fun nested after _ => bodies _ _ _ (by omega)
        · exact reads_setRange.congr fun chars after _ => bodies _ _ _ (by omega)

/-- So many calls are enough for a text, and one more makes no difference. -/
theorem readers_settled (fuel : Nat) :
    (∀ parts (before : Reading), 4 * before.rest.length + 4 ≤ fuel →
      (alternatives fuel parts).run before = (alternatives (fuel + 1) parts).run before) ∧
    (∀ parts (before : Reading), 4 * before.rest.length + 3 ≤ fuel →
      (sequence fuel parts).run before = (sequence (fuel + 1) parts).run before) ∧
    ∀ before : Reading, 4 * before.rest.length + 5 ≤ fuel →
      (group fuel).run before = (group (fuel + 1)).run before := by
  -- a call on the same text has a smaller bound, and every other call comes after a character
  induction fuel with
  | zero => exact ⟨fun _ _ few => by omega, fun _ _ few => by omega, fun _ few => by omega⟩
  | succ fuel ih =>
    obtain ⟨choices, sequences, groups⟩ := ih
    obtain ⟨readsChoices, readsSequence, readsGroup, -⟩ := reads_alternatives fuel
    refine ⟨fun parts before few => ?_, fun parts before few => ?_, fun before few => ?_⟩
    · rw [alternatives, alternatives]
      refine (readsSequence []).congrBoth (sequences _ _ (by omega)) fun parts after _ => ?_
      have : "|".length = 1 := by decide
      exact congr_accept (fun _ _ => choices _ _ (by omega)) rfl
    · rw [sequence, sequence]
      refine reads_skip.congr fun _ skipped _ => run_bind_congr fun c peeked peeks => ?_
      obtain rfl := (Prod.mk.inj (Option.some.inj peeks)).2
      split
      · rfl
      · rfl
      · rfl
      · refine reads_next.congr fun _ opened _ => reads_skip.congr fun _ begun _ => ?_
        exact readsGroup.congrBoth (groups _ (by omega)) fun part after _ =>
          sequences _ _ (by omega)
      · refine reads_next.congr fun _ opened _ => ?_
        exact (reads_bracketed_setBody fuel).1.congrBoth ((brackets_settled fuel).1 _ (by omega))
          fun bracket after _ => sequences _ _ (by omega)
      · refine run_bind_congr fun repetition repeated repeats => ?_
        have := reads_repetition.uses repeats
        split
        · exact reads_single.congr fun part after _ => sequences _ _ (by omega)
        · have := uses_repetition repeats
          exact (@reads_refuse 0 _).congr fun _ after _ => sequences _ _ (by omega)
        · rfl
    · rw [group, group]
      refine reads_flags.congr fun outer flagged _ => reads_opening.congr fun opened begun _ => ?_
      split
      · rfl
      · exact run_bind_left (choices _ _ (by omega))

end PathQuery.Regex.Reader
