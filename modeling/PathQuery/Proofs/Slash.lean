import PathQuery.Proofs.Acceptance
import PathQuery.Proofs.Reach
import PathQuery.Proofs.Route.Tower
import PathQuery.Proofs.ShortCircuit
import PathQuery.Proofs.WellFormed.Names

/-!
Slashes before names. The first name of a path begins at the root if it has a slash; behind other
segments a slash only sets names apart. Main statement: `evaluate_slash`, which names mean the same
with a slash before them when they are not the first.
-/

namespace PathQuery

open Evaluation

section Replacement

variable {environment : Environment} {segments others : List Segment}

theorem Evaluation.climbed_slash {key : String} (plain : Step.Plain key) (last : Bool)
    (next : Continuation) (frames : List Frame) (scope : Scope) :
    climbed environment false ("/" ++ key) last next frames scope =
      climbed environment false key last next frames scope := by
  have notUp : (key == "..") = false := by simpa using plain.2.1
  have slashUp : ("/" ++ key == "..") = false := slash_ne (by decide)
  unfold climbed
  rw [slashUp, notUp, bareName_slash, bareName_of_plain plain]
  -- only the first name of a path is sought at the root
  rfl

theorem Evaluation.named_slash {key : String} (plain : Step.Plain key) (last : Bool)
    (next : Continuation) (scope : Scope) :
    named environment false ("/" ++ key) last next scope =
      named environment false key last next scope := by
  have notHere : (key == ".") = false := by simpa using plain.1
  have slashHere : ("/" ++ key == ".") = false := slash_ne (by decide)
  unfold named
  rw [slashHere, notHere]
  exact climbed_slash plain last next scope.frames scope

/-- Whether two lists of segments can take each other's place behind other segments. -/
structure Segment.Interchangeable (environment : Environment) (segments others : List Segment) :
    Prop where
  isEmpty : segments.isEmpty = others.isEmpty
  walk : Segment.walk environment false segments = Segment.walk environment false others
  climb : Segment.climb environment segments = Segment.climb environment others
  descend : Segment.descend environment segments = Segment.descend environment others

namespace Segment

theorem interchangeable_slash {key : String} (plain : Step.Plain key) (behind : List Segment) :
    Interchangeable environment (.name ("/" ++ key) :: behind) (.name key :: behind) where
  isEmpty := rfl
  walk := by
    funext scope
    rw [Segment.walk, Segment.walk, named_slash plain]
  climb := by
    funext frames scope
    rw [Segment.climb, Segment.climb, climbed_slash plain]
  descend := by
    funext value context concatenated scope
    rw [Segment.descend, Segment.descend]
    simp only [named_slash plain, bareName_slash, bareName_of_plain plain]

theorem Interchangeable.walk_cons (same : Interchangeable environment segments others)
    (segment : Segment) (first : Bool) :
    Segment.walk environment first (segment :: segments) =
      Segment.walk environment first (segment :: others) := by
  funext scope
  cases segment with
  | name name =>
    rw [Segment.walk, Segment.walk, same.isEmpty, same.walk, same.climb, same.descend]
  | expression receiver => rw [Segment.walk, Segment.walk, same.descend]

theorem Interchangeable.cons (same : Interchangeable environment segments others)
    (segment : Segment) :
    Interchangeable environment (segment :: segments) (segment :: others) where
  isEmpty := rfl
  walk := same.walk_cons segment false
  climb := by
    funext frames scope
    cases segment with
    | name name =>
      rw [Segment.climb, Segment.climb, same.isEmpty, same.walk, same.climb, same.descend]
    | expression index => rw [Segment.climb, Segment.climb]
  descend := by
    funext value context concatenated scope
    cases segment with
    | name name =>
      rw [Segment.descend, Segment.descend, same.isEmpty, same.walk, same.climb, same.descend]
    | expression index =>
      rw [Segment.descend, Segment.descend, same.descend]
      -- null before an expression in brackets does not depend on what stands behind it
      rfl

theorem Interchangeable.walk_append (same : Interchangeable environment segments others)
    {front : List Segment} (some : front ≠ []) :
    Segment.walk environment true (front ++ segments) =
      Segment.walk environment true (front ++ others) := by
  obtain ⟨segment, front, rfl⟩ := List.exists_cons_of_ne_nil some
  refine Interchangeable.walk_cons ?_ segment true
  clear some
  induction front with
  | nil => exact same
  | cons segment front ih => exact ih.cons segment

end Segment

end Replacement

section Text

variable {key : String} {front : List Segment}

theorem Segment.pathText_append (segments : List Segment) (some : front ≠ []) :
    Segment.pathText true (front ++ segments) =
      Segment.pathText true front ++ Segment.pathText false segments := by
  obtain ⟨segment, front, rfl⟩ := List.exists_cons_of_ne_nil some
  have later : Segment.pathText false (front ++ segments) =
      Segment.pathText false front ++ Segment.pathText false segments := by
    clear some
    induction front with
    | nil => simp [Segment.pathText]
    | cons segment front ih =>
      cases segment <;> simp only [List.cons_append, Segment.pathText, ih, String.append_assoc]
  cases segment <;>
    simp only [List.cons_append, Segment.pathText, later, String.append_assoc]

theorem startsWith_eq_false_iff : key.startsWith "/" = false ↔ key.toList.head? ≠ some '/' := by
  rw [Bool.eq_false_iff, ne_eq, String.startsWith_string_iff, not_iff_not]
  cases key.toList <;> simp [eq_comm]

/-- Names behind a slash and the names themselves are written alike if these have none. -/
theorem text_slash_iff : key.toList.head? ≠ some '/' ↔
    ∀ front behind : List Segment, front ≠ [] →
      (Expression.path (front ++ .name ("/" ++ key) :: behind)).text =
        (Expression.path (front ++ .name key :: behind)).text := by
  constructor
  · intro bare front behind some
    have unslashed := startsWith_eq_false_iff.mpr bare
    simp [Expression.text, Segment.pathText_append _ some, Segment.pathText, startsWith_slash,
      unslashed]
  · intro same slash
    have slashed : key.startsWith "/" = true := by
      rw [← Bool.not_eq_false, startsWith_eq_false_iff, not_not]
      exact slash
    have texts := congrArg (fun text => text.toList.length) (same [.name ""] [] (by simp))
    simp [Expression.text, Segment.pathText, startsWith_slash, slashed] at texts

end Text

section Source

/-- The names of a path in a text, each with a slash before it. -/
def Segment.lexeme : List String → String
  | [] => ""
  | key :: keys => "/" ++ key ++ lexeme keys

theorem Segment.splitOn_lexeme {names : List String}
    (bare : ∀ name ∈ names, '/' ∉ name.toList) :
    (Segment.lexeme names).toList.splitOn '/' = [] :: names.map String.toList := by
  induction names with
  | nil => simp [Segment.lexeme]
  | cons name names ih =>
    rw [List.forall_mem_cons] at bare
    have chars : (Segment.lexeme (name :: names)).toList =
        '/' :: (name.toList ++ (Segment.lexeme names).toList) := by
      simp [Segment.lexeme]
    rw [chars, Token.splitOn_slash, Token.splitOn_append bare.1, ih bare.2]
    simp

theorem Segment.names_lexeme {key : String} {keys : List String}
    (bare : ∀ name ∈ key :: keys, '/' ∉ name.toList) :
    Segment.names (Segment.lexeme (key :: keys)) = .name ("/" ++ key) :: keys.map .name := by
  have slashed : String.ofList ('/' :: key.toList) = "/" ++ key := by
    apply String.toList_injective
    simp
  rw [Segment.names, Segment.splitOn_lexeme bare]
  simp [slashed, Function.comp_def]

theorem Path.analyze {parts : List Part} {segments : List Segment} (path : Path parts segments) :
    Analysis.analyze parts = .ok (.path segments) := by
  have sequence : Sequence parts [.expression .expression (.path segments)] := by
    simpa using Sequence.atom (.path path) .nil
  have derives : Derives parts (.path segments) :=
    .phrase sequence (.of_isOperand rfl (Nat.zero_le _)) rfl
  obtain ⟨operand, found⟩ := Analysis.separated_derives derives
  rw [Analysis.analyze, found]
  rfl

end Source

section Distinction

/-- The path of a member of `a`. -/
def Expression.ofPair (name : String) : Expression :=
  .path [.name "a", .name name]

/-- An object whose only member `a` is the object with the given fields. -/
def nested (fields : List (String × Value)) : Value :=
  .object [("a", .object fields)]

theorem outcome_pair (name : String) (fields : List (String × Value)) :
    outcome ((Expression.ofPair name).evaluate {} (nested fields) {}) settled =
      outcome (within (fun _ => (Expression.ofPair name).text)
        (named {} false name true (onward {} [])
          ((Scope.enter {} (nested fields)).enter (.object fields)))) settled := by
  let scope : Scope := Scope.enter {} (nested fields)
  have started : Segment.walk {} true [.name "a", .name name] scope =
      Segment.climb {} ((Step.name "a").segment :: [Step.name name].map Step.segment)
        [⟨nested fields, false⟩] scope := by
    have unslashed : "a".startsWith "/" = false := startsWith_of_plain (by decide)
    simp [Segment.walk, Segment.climb, Step.segment, named, climbed, sources_of_no_lookup, scope,
      Scope.enter]
  have first : outcome (Evaluation.read {} "a" (nested fields)) settled =
      (.ok (.object fields), settled) := by rfl
  have entered : Segment.descend {} ([Step.name name].map Step.segment) (.object fields)
      (nested fields) false scope =
        named {} false name true (onward {} []) (scope.enter (.object fields)) := by
    simp [Segment.descend, Step.segment, Value.isNull, Value.isList, onward]
  rw [Expression.ofPair, Expression.evaluate, outcome_within, outcome_within, started,
    Segment.climb_name (by decide), outcome_bind_ok first, entered]

theorem outcome_dangling {name : String} (relative : name = "." ∨ name = "..")
    (fields : List (String × Value)) :
    (outcome ((Expression.ofPair name).evaluate {} (nested fields) {}) settled).1.isOk = false := by
  rw [outcome_pair, outcome_within]
  rcases relative with rfl | rfl
  · rfl
  · simp only [named, climbed, show (".." == ".") = false by decide, Bool.false_eq_true, if_false]
    rfl

theorem outcome_read_pair {name : String} (notHere : name ≠ ".") (notUp : name ≠ "..")
    (fields : List (String × Value)) :
    outcome ((Expression.ofPair name).evaluate {} (nested fields) {}) settled =
      outcome (within (fun _ => (Expression.ofPair name).text)
        (Evaluation.read {} (bareName name) (.object fields))) settled := by
  have one := seek_one {} (bareName name) ⟨.object fields, false⟩
    (fun value _ => (pure value : Evaluation Value)) fun _ => rfl
  have sought : named {} false name true (onward {} [])
      ((Scope.enter {} (nested fields)).enter (.object fields)) =
        Evaluation.read {} (bareName name) (.object fields) := by
    unfold named climbed
    simp only [beq_eq_false_iff_ne.mpr notHere, beq_eq_false_iff_ne.mpr notUp,
      Bool.false_eq_true, if_false]
    exact one.trans (bind_pure _)
  rw [outcome_pair, sought]

theorem outcome_read_settled (name : String) (fields : List (String × Value)) :
    outcome (Evaluation.read {} name (.object fields)) settled =
      (if name = "$this" then .ok (.object fields)
        else ((Fields.get? name fields).getD .null).resolved, settled) := by
  unfold Evaluation.read
  by_cases this : name = "$this"
  · simp [this]
  · simp [this, outcome_member_settled]

theorem exists_slash {key : String} (slash : key.toList.head? = some '/') :
    ∃ rest, key = "/" ++ rest := by
  cases chars : key.toList with
  | nil =>
    rw [chars] at slash
    cases slash
  | cons c rest =>
    obtain rfl : c = '/' := by simpa [chars] using slash
    exact ⟨String.ofList rest, String.toList_injective (by simp [chars])⟩

/-- A name that is not plain means something else with a slash before it. -/
theorem not_alike_of_not_plain {key : String} (special : ¬Step.Plain key) :
    ∃ fields, byCause (outcome ((Expression.ofPair ("/" ++ key)).evaluate {} (nested fields) {})
        settled) ≠
      byCause (outcome ((Expression.ofPair key).evaluate {} (nested fields) {}) settled) := by
  have slashHere : "/" ++ key ≠ "." := by simpa using @slash_ne key "." (by decide)
  have slashUp : "/" ++ key ≠ ".." := by simpa using @slash_ne key ".." (by decide)
  have other : key ≠ "$this" := by
    rintro rfl
    exact special (by decide)
  have member : byCause (outcome ((Expression.ofPair ("/" ++ key)).evaluate {}
      (nested [(key, .boolean true)]) {}) settled) = (.ok (.boolean true), settled) := by
    rw [outcome_read_pair slashHere slashUp, outcome_within, outcome_read_settled, bareName_slash,
      if_neg other]
    simp [Fields.get?, Value.resolved, byCause_ok]
  refine ⟨[(key, .boolean true)], fun same => ?_⟩
  rw [member] at same
  by_cases relative : key = "." ∨ key = ".."
  · -- without the slash the path ends with a step that leads nowhere
    have failed := outcome_dangling relative [(key, .boolean true)]
    rcases came : outcome ((Expression.ofPair key).evaluate {} (nested [(key, .boolean true)]) {})
      settled with ⟨error | value, after⟩
    · rw [came, byCause_error] at same
      cases same
    · rw [came] at failed
      cases failed
  · obtain ⟨notHere, notUp⟩ := not_or.mp relative
    have slash : key.toList.head? = some '/' := by
      by_contra bare
      exact special ⟨notHere, notUp, bare⟩
    obtain ⟨rest, rfl⟩ := exists_slash slash
    -- without the slash the member has one slash less
    have shorter : "/" ++ rest ≠ rest := by
      intro equal
      have lengths := congrArg (·.toList.length) equal
      simp at lengths
    rw [outcome_read_pair notHere notUp, outcome_within, outcome_read_settled, bareName_slash]
      at same
    by_cases this : rest = "$this"
    · simp [this, byCause_ok] at same
    · simp [this, Fields.get?, shorter, Value.resolved, byCause_ok] at same

end Distinction

/-- Behind other segments a name means the same with and without a slash before it just when it is
neither `.` nor `..` and has no slash itself; both forms are written alike if it has none. The form
with the slash is that of a name at which a path goes on behind an index or a call. -/
theorem evaluate_slash (key : String) :
    (Step.Plain key ↔ ∀ (environment : Environment) (front behind : List Segment) (context : Value)
      (scope : Scope), front ≠ [] →
        Alike
          ((Expression.path (front ++ .name ("/" ++ key) :: behind)).evaluate environment context
            scope)
          ((Expression.path (front ++ .name key :: behind)).evaluate environment context scope)) ∧
    (key.toList.head? ≠ some '/' ↔ ∀ front behind : List Segment, front ≠ [] →
      (Expression.path (front ++ .name ("/" ++ key) :: behind)).text =
        (Expression.path (front ++ .name key :: behind)).text) ∧
    ∀ keys : List String, (∀ name ∈ key :: keys, '/' ∉ name.toList) →
      let next := Part.text .path (Segment.lexeme (key :: keys))
      (∀ parts segments, Path parts segments →
        Analysis.analyze (parts ++ [next]) =
          .ok (.path (segments ++ .name ("/" ++ key) :: keys.map .name))) ∧
      ∀ block target arguments, Atom block (.expression .expression (.call target arguments)) →
        Analysis.analyze (block ++ [next]) =
          .ok (.path (.expression (.call target arguments) :: .name ("/" ++ key) ::
            keys.map .name)) := by
  refine ⟨⟨?_, ?_⟩, text_slash_iff, ?_⟩
  · intro plain environment front behind context scope some
    have same := @Segment.interchangeable_slash environment key plain behind
    rw [Expression.evaluate, Expression.evaluate, same.walk_append some,
      text_slash_iff.mp plain.2.2 front behind some]
    exact Alike.refl _
  · intro alike
    by_contra special
    obtain ⟨fields, differ⟩ := not_alike_of_not_plain special
    exact differ (alike {} [.name "a"] [] (nested fields) {} (by simp) settled)
  · intro keys bare
    have names := Segment.names_lexeme bare
    refine ⟨fun parts segments path => ?_, fun block target arguments call => ?_⟩
    · rw [← names]
      exact Path.analyze (.name path)
    · rw [← names]
      exact Path.analyze (.after call)

theorem evaluate_slash_of_index :
    let index := Segment.expression (.literal (.integer 0))
    let parts : List Part := [.text .path "a", .text .indexStart "[",
      .literal .integerLiteral (.integer 0), .text .indexStop "]"]
    Step.Plain "b" ∧
      Alike ((Expression.path [.name "a", index, .name "/b", .name "c"]).evaluate {} .null {})
        ((Expression.path [.name "a", index, .name "b", .name "c"]).evaluate {} .null {}) ∧
      (Expression.path [.name "a", index, .name "/b"]).text =
        (Expression.path [.name "a", index, .name "b"]).text ∧
      Path parts [.name "a", index] ∧
      Analysis.analyze (parts ++ [.text .path "/b/c"]) =
        .ok (.path [.name "a", index, .name "/b", .name "c"]) := by
  intro index parts
  have plain : Step.Plain "b" := by decide
  obtain ⟨evaluates, written, reads⟩ := evaluate_slash "b"
  have start : Path [.text .path "a"] [.name "a"] := .start
  have zero : Derives [.literal .integerLiteral (.integer 0)] (.literal (.integer 0)) :=
    .phrase (.plain rfl .nil) (.of_isOperand rfl (Nat.zero_le _)) rfl
  have path : Path parts [.name "a", index] := @Path.index _ _ _ _ _ _ start rfl rfl zero
  refine ⟨plain, ?_, ?_, path, ?_⟩
  · exact evaluates.mp plain {} [.name "a", index] [.name "c"] .null {} (by simp)
  · exact written.mp plain.2.2 [.name "a", index] [] (by simp)
  · exact (reads ["c"] (by decide)).1 parts [.name "a", index] path

/-- Behind an index a path goes on with `/..`, which is read as a member of that name, while `..`
leads to the context around. -/
theorem evaluate_slash_up_ne :
    let path := fun up : String =>
      Expression.path [.name "a", .expression (.literal (.integer 0)), .name up, .name "b"]
    let context := Value.object
      [("a", .array [.object [("c", .integer 1)]]), ("b", .integer 5)]
    (∃ expression, parse? {} "a[0]/../b" = .ok expression ∧
      expression.same (path ("/" ++ "..")) = true) ∧
    byCause (outcome ((path ("/" ++ "..")).evaluate {} context {}) settled) ≠
      byCause (outcome ((path "..").evaluate {} context {}) settled) := by
  intro path context
  refine ⟨?_, ?_⟩
  · obtain ⟨parts, expression, accepted, same⟩ := Accepted.of_passes {} "a[0]/../b"
      (fun _ expression => expression.same (path ("/" ++ ".."))) (by decide +kernel)
    exact ⟨expression, accepted.parsed, same⟩
  · intro same
    have kinds := congrArg (fun result => result.1.toOption.map Value.type) same
    revert kinds
    decide +kernel

end PathQuery
