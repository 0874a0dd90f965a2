import PathQuery.Proofs.Route.Agreement
import PathQuery.Proofs.Route.Heights

/-!
Towers, objects in which every name leads one level down. In them heights are all that a path comes
to. Main statement: `Route.outcome_ne_of_untracked`, a path whose steps up are not tracked comes to
different heights in frames and on a stack.
-/

namespace PathQuery

open Evaluation

/-- Nested objects of a height, each of which holds the next lower one under all of some names. -/
def tower (names : List String) : Nat → Value
  | 0 => .object []
  | height + 1 =>
      .object (names.foldr (fun name fields => Fields.insert name (tower names height) fields) [])

theorem tower_object (names : List String) (height : Nat) :
    ∃ fields, tower names height = .object fields := by
  cases height <;> exact ⟨_, rfl⟩

theorem tower_context (names : List String) (height : Nat) :
    (tower names height).isContext = true := by
  cases height <;> rfl

theorem get_foldr_insert {names : List String} {key : String} (found : key ∈ names) (held : Value) :
    Fields.get? key (names.foldr (fun name fields => Fields.insert name held fields) []) =
      some held := by
  induction names with
  | nil => cases found
  | cons name names ih =>
    rw [List.foldr_cons, Fields.get_insert]
    by_cases same : key = name
    · rw [if_pos same]
    · rw [if_neg same]
      exact ih ((List.mem_cons.mp found).resolve_left same)

theorem tower_injective {names : List String} {key : String} (found : key ∈ names) :
    ∀ {height other : Nat}, tower names height = tower names other → height = other
  | 0, 0, _ => rfl
  | 0, other + 1, same => by
    have held := congrArg (Fields.get? key) (Value.object.inj same)
    rw [get_foldr_insert found] at held
    cases held
  | height + 1, 0, same => by
    have held := congrArg (Fields.get? key) (Value.object.inj same)
    rw [get_foldr_insert found] at held
    cases held
  | height + 1, other + 1, same => by
    have held := congrArg (Fields.get? key) (Value.object.inj same)
    rw [get_foldr_insert found, get_foldr_insert found] at held
    rw [tower_injective found (Option.some.inj held)]

/-- Registries in which the accessor of objects has been chosen. -/
def settled : Registries where
  accessors := { AccessorRegistry.standard with chosen := [(.map, Accessor.map)] }
  methods := {}

theorem outcome_member_settled (environment : Environment) (fields : List (String × Value))
    (key : String) :
    outcome (member environment (.object fields) key) settled =
      (((Fields.get? key fields).getD .null).resolved, settled) := by
  rfl

theorem outcome_read_tower (environment : Environment) {names : List String} {key : String}
    (found : key ∈ names) (other : key ≠ "$this") (height : Nat) :
    outcome (read environment key (tower names (height + 1))) settled =
      (.ok (tower names height), settled) := by
  have notThis : (key == "$this") = false := by simpa using other
  unfold Evaluation.read
  rw [if_neg (by simp [notThis]), tower, outcome_member_settled, get_foldr_insert found]
  obtain ⟨fields, object⟩ := tower_object names height
  simp [object, Value.resolved]

section Heights

variable (environment : Environment) (names : List String) (steps : List Step)
  (named : ∀ key, .name key ∈ steps → key ∈ names ∧ key ≠ "$this")

include named

theorem outcome_run_tower (more : steps ≠ []) (ending : steps.getLast? ≠ some .up)
    (height count : Nat) (high : steps.length ≤ height) (deep : steps.length ≤ count)
    (last : Value) (final : Nat) :
    Step.Reads (∃ fields, · = .object fields) environment steps (tower names height)
        ((List.range' (height + 1) count).map (tower names)) settled ∧
      outcome (Step.run environment steps (tower names height)
          ((List.range' (height + 1) count).map (tower names)) last) settled =
        (.ok (tower names (Step.ascend steps height final)), settled) := by
  induction steps generalizing height count last final with
  | nil => exact absurd rfl more
  | cons step rest ih =>
    have namedRest : ∀ key, .name key ∈ rest → key ∈ names ∧ key ≠ "$this" := fun key member =>
      named key (List.mem_cons_of_mem _ member)
    have endingRest := Step.ending_of_cons ending
    simp only [List.length_cons] at high deep
    cases step with
    | up =>
      have moreRest := Step.ne_nil_of_ending ending
      obtain ⟨count, rfl⟩ : ∃ fewer, count = fewer + 1 := ⟨count - 1, by omega⟩
      exact ih namedRest moreRest endingRest (height + 1) count (by omega) (by omega) last final
    | name key =>
      obtain ⟨height, rfl⟩ : ∃ below, height = below + 1 := ⟨height - 1, by omega⟩
      obtain ⟨found, other⟩ := named key (by simp)
      have read := outcome_read_tower environment found other height
      rw [Step.run, outcome_bind_ok read]
      by_cases moreRest : rest = []
      · subst moreRest
        exact ⟨Step.reads_of_read read (absurd rfl) trivial, rfl⟩
      · obtain ⟨reads, ran⟩ := ih namedRest moreRest endingRest height (count + 1) (by omega)
          (by omega) (tower names height) height
        exact ⟨Step.reads_of_read read (fun _ => tower_object names height) reads, ran⟩

theorem outcome_climb_tower (more : steps ≠ [])
    (plain : ∀ key, .name key ∈ steps → Step.Plain key) (ending : steps.getLast? ≠ some .up)
    (frame : Frame) (outer : List Frame) (scope : Scope) (top : Nat) (heights entered : List Nat)
    (onTop : frame.value = tower names top)
    (around : outer.map Frame.value = heights.map (tower names))
    (inScope : scope.frames.map Frame.value = entered.map (tower names))
    (high : ∀ height ∈ top :: heights ++ entered, steps.length ≤ height)
    (deep : steps.length ≤ heights.length) (deepEntered : steps.length ≤ entered.length)
    (last : Nat) :
    outcome (Segment.climb environment (steps.map Step.segment) (frame :: outer) scope) settled =
      (.ok (tower names (Step.detour steps top heights entered last)), settled) := by
  induction steps generalizing frame outer scope top heights entered last with
  | nil => exact absurd rfl more
  | cons step rest ih =>
    have namedRest : ∀ key, .name key ∈ rest → key ∈ names ∧ key ≠ "$this" := fun key member =>
      named key (List.mem_cons_of_mem _ member)
    have plainRest : ∀ key, .name key ∈ rest → Step.Plain key := fun key member =>
      plain key (List.mem_cons_of_mem _ member)
    have endingRest := Step.ending_of_cons ending
    simp only [List.length_cons] at high deep deepEntered
    cases step with
    | up =>
      have moreRest := Step.ne_nil_of_ending ending
      rcases heights with _ | ⟨parentHeight, heights⟩
      · simp at deep
      rcases outer with _ | ⟨parent, outer⟩
      · simp at around
      simp only [List.map_cons, List.cons.injEq] at around
      simp only [List.length_cons] at deep
      rw [List.map_cons, Segment.climb_up (by simpa using moreRest)]
      refine ih namedRest moreRest plainRest endingRest parent outer scope parentHeight heights
        entered around.1 around.2 inScope ?_ (by omega) (by omega) last
      intro height member
      exact Nat.le_of_succ_le (high height (List.mem_cons_of_mem _ member))
    | name key =>
      obtain ⟨top, rfl⟩ : ∃ below, top = below + 1 :=
        ⟨top - 1, by have := high top (by simp); omega⟩
      obtain ⟨found, other⟩ := named key (by simp)
      have read := outcome_read_tower environment found other top
      rw [List.map_cons, Segment.climb_name (plain key (by simp)), onTop, outcome_bind_ok read]
      by_cases moreRest : rest = []
      · subst moreRest
        rfl
      · rw [Segment.descend_context moreRest plainRest (tower_context names top)]
        refine ih namedRest moreRest plainRest endingRest _ scope.frames _ top entered
          (top :: entered) rfl inScope (congrArg _ inScope) ?_ (by omega)
          (by simp only [List.length_cons]; omega) top
        intro height member
        simp only [List.cons_append, List.mem_cons, List.mem_append] at member
        have onTopHigh := high (top + 1) (by simp)
        rcases member with rfl | inner | rfl | inner
        · omega
        · have := high height (by simp [inner])
          omega
        · omega
        · have := high height (by simp [inner])
          omega

end Heights

theorem Scope.fromRoot_of_root {frame : Frame} (root : frame.root = true) (outer : List Frame) :
    Scope.fromRoot (frame :: outer) = frame :: outer := by
  cases outer with
  | nil => rfl
  | cons parent outer => simp [fromRoot, root]

theorem Step.exists_name {steps : List Step} (more : steps ≠ [])
    (ending : steps.getLast? ≠ some .up) : ∃ key, .name key ∈ steps := by
  rw [List.getLast?_eq_some_getLast more] at ending
  rcases last : steps.getLast more with _ | key
  · exact absurd (congrArg some last) ending
  · exact ⟨key, last ▸ List.getLast_mem more⟩

namespace Route

variable (route : Route)

/-- A tower of a height, which has all names of a path. -/
def tower (height : Nat) : Value :=
  PathQuery.tower (Step.keys route.steps) height

def lowest : Nat :=
  route.steps.length + 1

/-- Contexts around that of the lowest height; each of them is a root. -/
def towers : Scope where
  frames := (List.range' (route.lowest + 1) route.lowest).map fun height =>
    ⟨route.tower height, true⟩

def heights : List Nat :=
  List.range' route.lowest (route.lowest + 1)

theorem heights_towers :
    (route.towers.enter (route.tower route.lowest)).frames.map Frame.value =
      route.heights.map route.tower := by
  simp [Scope.enter, towers, heights, List.range'_succ, Function.comp_def]

/-- The frames that a path starts from hold heights that grow by one. With a leading slash they all
lie above the frames that have been entered. -/
theorem start_towers :
    ∃ frame outer top count,
      route.start (route.towers.enter (route.tower route.lowest)) = frame :: outer ∧
        frame.value = route.tower top ∧
        outer.map Frame.value = (List.range' (top + 1) count).map route.tower ∧
        route.lowest ≤ top ∧ route.steps.length ≤ count ∧
        (route.absolute = false → route.heights = top :: List.range' (top + 1) count) ∧
        (route.absolute = true → Step.Lags (some 0) top route.heights) := by
  unfold start
  cases route.absolute with
  | false =>
    refine ⟨_, _, route.lowest, route.lowest, rfl, rfl, ?_, Nat.le_refl _, Nat.le_succ _, ?_, by simp⟩
    · simp [towers, Function.comp_def]
    · simp [heights, List.range'_succ]
  | true =>
    refine ⟨⟨route.tower (route.lowest + 1), true⟩,
      (List.range' (route.lowest + 2) route.steps.length).map fun height =>
        ⟨route.tower height, true⟩, route.lowest + 1, route.steps.length, ?_, rfl, ?_,
      Nat.le_succ _, Nat.le_refl _, by simp, fun _ => (Step.lags_range _ _).lower⟩
    · simp [Scope.enter, towers, lowest, List.range'_succ, Scope.fromRoot, Scope.fromRoot_of_root]
    · simp [Function.comp_def]

/-- A path that is not tracked comes to a lower tower in frames than on a stack. -/
theorem outcome_ne_of_untracked {environment : Environment}
    (parents : environment.settings.parentLookup = false)
    (roots : environment.settings.rootLookup = false) (untracked : route.tracked = false)
    (other : "$this" ∉ Step.keys route.steps) :
    ∃ context scope registries lower higher,
      route.Reads (∃ fields, · = .object fields) environment context scope registries ∧
        outcome (Segment.walk environment true route.segments (scope.enter context)) registries =
          (.ok lower, registries) ∧
        outcome (route.onStack environment context scope) registries = (.ok higher, registries) ∧
        lower ≠ higher := by
  have more : route.steps ≠ [] := by
    intro none
    rw [tracked, none] at untracked
    cases untracked
  obtain ⟨key, member⟩ := Step.exists_name more route.ending
  have named : ∀ key, .name key ∈ route.steps → key ∈ Step.keys route.steps ∧ key ≠ "$this" := by
    intro key member
    refine ⟨Step.mem_keys member, ?_⟩
    rintro rfl
    exact other (Step.mem_keys member)
  obtain ⟨frame, outer, top, count, started, onTop, around, high, deep, relative, absolute⟩ :=
    route.start_towers
  have above : ∀ height ∈ top :: List.range' (top + 1) count ++ route.heights,
      route.steps.length ≤ height := by
    intro height member
    simp only [lowest] at high
    simp only [heights, lowest, List.cons_append, List.mem_cons, List.mem_append,
      List.mem_range'_1] at member
    omega
  have long : route.steps.length ≤ route.heights.length := by
    simp only [heights, lowest, List.length_range']
    omega
  have lower := Step.detour_lt_ascend route.steps route.ending none route.absolute untracked top
    (List.range' (top + 1) count) route.heights 0 0 high (by simpa using deep) long
    (Step.lags_range _ _) relative absolute
  obtain ⟨reads, ran⟩ := outcome_run_tower environment _ route.steps named more route.ending top
    count (Nat.le_of_succ_le high) deep .null 0
  have climbed := outcome_climb_tower environment _ route.steps named more route.plain_of_mem route.ending
    frame outer (route.towers.enter (route.tower route.lowest)) top _ route.heights onTop around
    route.heights_towers above (by simpa using deep) long 0
  refine ⟨route.tower route.lowest, route.towers, settled,
    route.tower (Step.detour route.steps top (List.range' (top + 1) count) route.heights 0),
    route.tower (Step.ascend route.steps top 0), ?_, ?_, ?_, ?_⟩
  · simp only [Reads, started, List.map_cons, onTop, around]
    exact reads
  · rw [walk_segments parents roots route more, started]
    exact climbed
  · simp only [onStack, started, List.map_cons, onTop, around]
    exact ran
  · intro same
    exact Nat.ne_of_lt lower (tower_injective (Step.mem_keys member) same)

end Route

end PathQuery
