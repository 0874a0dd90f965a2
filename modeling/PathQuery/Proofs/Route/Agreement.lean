import PathQuery.Proofs.Route

/-!
Where frames and stack agree. Main statement: `Route.outcome_of_tracked`, a path whose steps up are
tracked comes to what it comes to on a stack, and leaves the same registries behind.
-/

namespace PathQuery

open Evaluation

/-- Whether a name behind a value is read in the value itself, which is neither null nor a list. -/
def Value.isContext (value : Value) : Bool :=
  !value.isNull && !value.isList

namespace Evaluation

theorem bareName_of_plain {key : String} (plain : Step.Plain key) : bareName key = key := by
  unfold bareName
  split
  · rename_i rest slash
    exact absurd (by rw [slash]; rfl) plain.2.2
  · rfl

theorem bareName_slash (key : String) : bareName ("/" ++ key) = key := by
  unfold bareName
  rw [String.toList_append]
  simp

theorem startsWith_slash (key : String) : ("/" ++ key).startsWith "/" = true := by
  rw [String.startsWith_string_iff, String.toList_append]
  exact List.prefix_append _ _

theorem startsWith_of_plain {key : String} (plain : Step.Plain key) :
    key.startsWith "/" = false := by
  rw [Bool.eq_false_iff]
  intro slash
  obtain ⟨rest, slash⟩ := String.startsWith_string_iff.mp slash
  exact plain.2.2 (by rw [← slash]; rfl)

theorem slash_ne {key other : String} (bare : other.toList.head? ≠ some '/') :
    ("/" ++ key == other) = false := by
  rw [beq_eq_false_iff_ne]
  rintro rfl
  exact bare (by rw [String.toList_append]; rfl)

theorem sources_of_no_lookup {settings : Settings} (parents : settings.parentLookup = false)
    (roots : settings.rootLookup = false) (first : Bool) (key : String) (scope : Scope)
    (frames : List Frame) :
    sources settings first key scope frames =
      (if first && key.startsWith "/" then Scope.fromRoot scope.frames else frames).take 1 := by
  unfold sources
  rw [parents, roots]
  cases first <;> simp

theorem seek_one {β : Type} (environment : Environment) (key : String) (frame : Frame)
    (next : Value → Value → Evaluation β) (null : ∀ context, next .null context = next .null .null) :
    (seek environment key [frame] >>= fun found => next found.1 found.2) =
      (read environment key frame.value >>= fun value => next value frame.value) := by
  unfold seek
  rw [bind_assoc]
  congr 1
  funext value
  by_cases isNull : value.isNull
  · obtain rfl : value = .null := by
      cases value <;> simp_all [Value.isNull]
    simp [Value.isNull, seek, null frame.value]
  · simp [isNull]

end Evaluation

namespace Segment

variable {environment : Environment}

theorem descend_null (segments : List Step) (context : Value) (concatenated : Bool) (scope : Scope) :
    descend environment (segments.map Step.segment) .null context concatenated scope =
      pure .null := by
  rcases segments with _ | ⟨_ | key, rest⟩ <;>
  · simp [descend, Step.segment, Value.isNull]

theorem climb_up {segments : List Segment} (more : segments ≠ []) (frame : Frame)
    (outer : List Frame) (scope : Scope) :
    climb environment (Step.up.segment :: segments) (frame :: outer) scope =
      match outer with
      | [] => throw .invalidContext
      | parents => climb environment segments parents scope := by
  cases segments with
  | nil => exact absurd rfl more
  | cons segment segments =>
    cases outer <;> simp [climb, Step.segment, climbed]

theorem climb_name {key : String} (plain : Step.Plain key) (steps : List Step) (frame : Frame)
    (outer : List Frame) (scope : Scope) :
    climb environment ((Step.name key).segment :: steps.map Step.segment) (frame :: outer) scope =
      (read environment key frame.value >>= fun value =>
        descend environment (steps.map Step.segment) value frame.value false scope) := by
  have notUp : (key == "..") = false := by simpa using plain.2.1
  rw [← seek_one environment key frame fun value context =>
    descend environment (steps.map Step.segment) value context false scope]
  · simp [climb, Step.segment, climbed, notUp, sources, bareName_of_plain plain]
  · intro context
    rw [descend_null, descend_null]

theorem descend_context {steps : List Step} (more : steps ≠ [])
    (plain : ∀ key, .name key ∈ steps → Step.Plain key) {value : Value}
    (entered : value.isContext = true) (context : Value) (concatenated : Bool) (scope : Scope) :
    descend environment (steps.map Step.segment) value context concatenated scope =
      climb environment (steps.map Step.segment) (scope.enter value).frames
        (scope.enter value) := by
  have single : value.isNull = false ∧ value.isList = false := by
    simpa [Value.isContext] using entered
  rcases steps with _ | ⟨_ | key, rest⟩
  · exact absurd rfl more
  · simp [descend, climb, Step.segment, single, named]
  · have notHere : (key == ".") = false := by
      simpa using (plain key (by simp)).1
    simp [descend, climb, Step.segment, single, named, notHere]

end Segment

/-- Whether the frames below the present one hold the contexts that lie on a stack: all of them, or
as many as the count says. -/
def Shared : Option Nat → List Value → List Frame → Prop
  | none, below, outer => outer.map Frame.value = below
  | some 0, _, _ => True
  | some (count + 1), value :: below, frame :: outer =>
      frame.value = value ∧ Shared (some count) below outer
  | some (_ + 1), _, _ => False

theorem Shared.push {count : Option Nat} {below : List Value} {frame : Frame} {outer : List Frame}
    (shared : Shared count below outer) :
    Shared (count.map (· + 1)) (frame.value :: below) (frame :: outer) := by
  cases count with
  | none =>
    simp only [Shared] at shared
    simp [Shared, shared]
  | some count => exact ⟨rfl, shared⟩

/-- Steps that are tracked come to the same in frames as on a stack with which they are shared. -/
theorem outcome_climb (environment : Environment) (steps : List Step) (more : steps ≠ [])
    (plain : ∀ key, .name key ∈ steps → Step.Plain key) (ending : steps.getLast? ≠ some .up)
    (count : Option Nat) (climbed : Bool) (tracked : Step.tracked count climbed steps = true)
    (frame : Frame) (outer : List Frame) (below : List Value) (scope : Scope)
    (shared : Shared count below outer) (innermost : climbed = false → scope.frames = frame :: outer)
    (last : Value) (registries : Registries)
    (reads : Step.Reads (·.isContext = true) environment steps frame.value below registries) :
    outcome (Segment.climb environment (steps.map Step.segment) (frame :: outer) scope) registries =
      outcome (Step.run environment steps frame.value below last) registries := by
  induction steps generalizing count climbed frame outer below scope last registries with
  | nil => exact absurd rfl more
  | cons step rest ih =>
    have plainRest : ∀ key, .name key ∈ rest → Step.Plain key := fun key member =>
      plain key (List.mem_cons_of_mem _ member)
    have endingRest := Step.ending_of_cons ending
    cases step with
    | up =>
      have moreRest := Step.ne_nil_of_ending ending
      rw [List.map_cons, Segment.climb_up (by simpa using moreRest)]
      rcases count with _ | _ | count
      · obtain rfl : outer.map Frame.value = below := by simpa [Shared] using shared
        cases outer with
        | nil => rfl
        | cons parent outer =>
          exact ih moreRest plainRest endingRest none true tracked parent outer _ scope
            (by simp [Shared]) (by simp) last registries reads
      · cases tracked
      · obtain ⟨value, below, rfl⟩ : ∃ value rest, below = value :: rest := by
          cases below with
          | nil => cases shared
          | cons value below => exact ⟨value, below, rfl⟩
        cases outer with
        | nil => cases shared
        | cons parent outer =>
          obtain ⟨rfl, shared⟩ := shared
          exact ih moreRest plainRest endingRest (some count) true tracked parent outer
            below scope shared (by simp) last registries reads
    | name key =>
      rw [List.map_cons, Segment.climb_name (plain key (by simp))]
      refine outcome_bind_congr fun value after result => ?_
      obtain ⟨accepted, readsRest⟩ := reads value after result
      by_cases moreRest : rest = []
      · subst moreRest
        rfl
      · rw [Segment.descend_context moreRest plainRest (accepted moreRest)]
        refine ih moreRest plainRest endingRest _ false tracked _ scope.frames _ _ ?_
          (fun _ => rfl) value after readsRest
        -- After `..` the value stands on frames that the stack has popped: only it is shared.
        cases climbed with
        | true => trivial
        | false =>
          rw [innermost rfl]
          exact shared.push

theorem Scope.fromRoot_cons (frame : Frame) (outer : List Frame) :
    ∃ root above, Scope.fromRoot (frame :: outer) = root :: above := by
  induction outer generalizing frame with
  | nil => exact ⟨frame, [], rfl⟩
  | cons parent outer ih =>
    by_cases root : frame.root
    · exact ⟨frame, parent :: outer, by simp [fromRoot, root]⟩
    · obtain ⟨first, above, found⟩ := ih parent
      exact ⟨first, above, by simp [fromRoot, root, found]⟩

namespace Route

variable {environment : Environment}

theorem plain_of_mem (route : Route) (key : String) (member : .name key ∈ route.steps) :
    Step.Plain key :=
  route.plain key (Step.mem_keys member)

theorem walk_segments (parents : environment.settings.parentLookup = false)
    (roots : environment.settings.rootLookup = false) (route : Route) (more : route.steps ≠ [])
    (scope : Scope) :
    Segment.walk environment true route.segments scope =
      Segment.climb environment (route.steps.map Step.segment) (route.start scope) scope := by
  rcases route with ⟨absolute, _ | ⟨_ | key, rest⟩, plain, ending, beginning⟩
  · exact absurd rfl more
  · cases absolute with
    | true =>
      obtain ⟨key, head⟩ := beginning rfl
      cases head
    | false => simp [segments, start, Segment.walk, Segment.climb, Step.segment, named, climbed]
  · have plain := plain key (Step.mem_keys List.mem_cons_self)
    have notHere : (key == ".") = false := by simpa using plain.1
    have notUp : (key == "..") = false := by simpa using plain.2.1
    cases absolute with
    | false =>
      simp [segments, start, Segment.walk, Segment.climb, Step.segment, named, climbed, notHere,
        notUp, sources_of_no_lookup parents roots, startsWith_of_plain plain]
    | true =>
      have slashHere : ("/" ++ key == ".") = false := slash_ne (by decide)
      have slashUp : ("/" ++ key == "..") = false := slash_ne (by decide)
      simp [segments, start, Segment.walk, Segment.climb, Step.segment, named, climbed, slashHere,
        slashUp, notUp, sources_of_no_lookup parents roots, startsWith_slash, bareName_slash,
        bareName_of_plain plain]

theorem start_enter (route : Route) (context : Value) (scope : Scope) :
    ∃ frame outer, route.start (scope.enter context) = frame :: outer := by
  unfold start
  split
  · exact Scope.fromRoot_cons _ _
  · exact ⟨_, _, rfl⟩

/-- A path whose steps up are tracked comes to what it comes to on a stack, if all that it reads
before its last name is a context. -/
theorem outcome_of_tracked (parents : environment.settings.parentLookup = false)
    (roots : environment.settings.rootLookup = false) (route : Route)
    (tracked : route.tracked = true) (context : Value) (scope : Scope) (registries : Registries)
    (reads : route.Reads (·.isContext = true) environment context scope registries) :
    outcome (Segment.walk environment true route.segments (scope.enter context)) registries =
      outcome (route.onStack environment context scope) registries := by
  obtain ⟨frame, outer, started⟩ := route.start_enter context scope
  simp only [Reads, started, List.map_cons] at reads
  simp only [onStack, started, List.map_cons]
  by_cases more : route.steps = []
  · have none : route.segments = [] := by
      unfold segments
      rw [more]
      cases route.absolute <;> rfl
    rw [none, more]
    rfl
  · rw [walk_segments parents roots route more, started]
    refine outcome_climb environment route.steps more route.plain_of_mem route.ending none route.absolute
      tracked frame outer _ _ (by simp [Shared]) ?_ .null registries reads
    intro relative
    rw [← started, start, relative]
    rfl

end Route

end PathQuery
