import Mathlib
import PathQuery.Proofs.MethodSearch

/-!
The choices of a registry of methods in the course of registrations, loads and calls. A choice that
is remembered stands until the next registration, also when a group is loaded that has a better one.
Main statement: `MethodRegistry.answers_iff`.
-/

namespace PathQuery

namespace MethodRegistry

/-- What happens to a registry. -/
inductive Event where
  | register (group : MethodGroup)
  | setLoader (load : String → Option MethodGroup)
  /-- The loader that is set answers differently from now on. -/
  | reload (load : String → Option MethodGroup)
  | resolve (settings : Settings) (name : String) (arity : Nat)

/-- Whether all choices are forgotten. -/
def Event.forgets : Event → Bool
  | .register _ | .setLoader _ => true
  | .reload _ | .resolve .. => false

/-- The group that is registered. -/
def Event.group? : Event → Option MethodGroup
  | .register group => some group
  | .setLoader _ | .reload _ | .resolve .. => none

def after (registry : MethodRegistry) : Event → MethodRegistry
  | .register group => registry.register group
  | .setLoader load => registry.setLoader load
  | .reload load => { registry with load }
  | .resolve settings name arity => ((resolve settings name arity).run registry).2

/-- A registry with the given groups and loader after some events. -/
def afterAll (groups : List MethodGroup) (load : String → Option MethodGroup)
    (events : List Event) : MethodRegistry :=
  events.foldl after { groups, load }

/-- Whether a run has gone on from a call without forgetting what was chosen for it. The first
events are those up to the call. -/
def Since (call : MethodCall) (made events : List Event) : Prop :=
  (∃ early settings, made = early ++ [.resolve settings call.name call.arity] ∧
    MethodCall.ofSettings call.name call.arity settings = call) ∧
  ∃ late, events = made ++ late ∧ ∀ event ∈ late, event.forgets = false

/-- Whether a better method for a call has been loaded since one was chosen for it. -/
def Overtaken (groups : List MethodGroup) (load : String → Option MethodGroup)
    (events : List Event) (call : MethodCall) : Prop :=
  ∃ made loaded, Since call made events ∧
    (afterAll groups load events).groups = (afterAll groups load made).groups ++ loaded ∧
    call.Improved (afterAll groups load made).groups loaded

section Steps

variable {settings : Settings} {name : String} {arity : Nat} {registry next : MethodRegistry}
  {call : MethodCall} {method : Method} {groups : List MethodGroup}
  {load : String → Option MethodGroup} {events : List Event} {event : Event}

/-- The registry in which a call that nothing was chosen for is searched. -/
def searched (settings : Settings) (call : MethodCall) (registry : MethodRegistry) :
    MethodRegistry :=
  if settings.anyNamespace then loadFor call registry else registry

theorem resolve_of_chosen
    (chosen : registry.chosen.lookup (.ofSettings name arity settings) = some method) :
    (resolve settings name arity).run registry = (.ok method, registry) := by
  simp only [resolve, StateT.run_bind, StateT.run_get, pure_bind, chosen]
  rfl

theorem resolve_of_fresh
    (fresh : registry.chosen.lookup (.ofSettings name arity settings) = none) :
    (resolve settings name arity).run registry =
      let call := MethodCall.ofSettings name arity settings
      let next := searched settings call registry
      match call.find? next.groups with
      | some method => (.ok method, { next with chosen := (call, method) :: next.chosen })
      | none => (.error (.unresolvedMethod name arity), next) := by
  simp only [resolve, searched, StateT.run_bind, StateT.run_get, pure_bind, fresh]
  cases loads : settings.anyNamespace with
  | true =>
    simp only [if_true, StateT.run_bind, StateT.run_modify, StateT.run_get, pure_bind]
    cases MethodCall.find? (.ofSettings name arity settings)
      (loadFor (.ofSettings name arity settings) registry).groups <;> rfl
  | false =>
    simp only [Bool.false_eq_true, if_false, StateT.run_bind, StateT.run_get, pure_bind]
    cases MethodCall.find? (.ofSettings name arity settings) registry.groups <;> rfl

/-- Whether a registry goes on from another without forgetting a choice. -/
structure Extends (registry next : MethodRegistry) : Prop where
  groups : ∃ loaded, next.groups = registry.groups ++ loaded
  chosen : ∀ call method, registry.chosen.lookup call = some method →
    next.chosen.lookup call = some method

theorem Extends.refl (registry : MethodRegistry) : Extends registry registry :=
  ⟨⟨[], by simp⟩, fun _ _ chosen => chosen⟩

theorem Extends.trans {last : MethodRegistry} (first : Extends registry next)
    (second : Extends next last) : Extends registry last := by
  obtain ⟨loaded, one⟩ := first.groups
  obtain ⟨more, two⟩ := second.groups
  exact ⟨⟨loaded ++ more, by rw [two, one, List.append_assoc]⟩,
    fun call method chosen => second.chosen call method (first.chosen call method chosen)⟩

theorem extends_searched : Extends registry (searched settings call registry) := by
  unfold searched loadFor
  split
  · split
    · exact .refl registry
    · split
      · exact .refl registry
      · split
        · exact ⟨⟨_, rfl⟩, fun _ _ chosen => chosen⟩
        · exact .refl registry
  · exact .refl registry

theorem extends_after (keeps : event.forgets = false) :
    Extends registry (registry.after event) := by
  cases event with
  | register | setLoader => cases keeps
  | reload load => exact ⟨⟨[], by simp [after]⟩, fun _ _ chosen => chosen⟩
  | resolve settings name arity =>
    rw [after]
    cases chosen : registry.chosen.lookup (.ofSettings name arity settings) with
    | some method =>
      rw [resolve_of_chosen chosen]
      exact .refl registry
    | none =>
      rw [resolve_of_fresh chosen]
      have loads := @extends_searched settings registry (.ofSettings name arity settings)
      dsimp only
      split
      · refine ⟨loads.groups, fun call method held => ?_⟩
        have kept := loads.chosen call method held
        rw [List.lookup_cons]
        split
        · -- the new choice hides none, its call had none
          rename_i same
          rw [eq_of_beq same, chosen] at held
          cases held
        · exact kept
      · exact loads

theorem extends_foldl (keeps : ∀ event ∈ events, event.forgets = false) :
    Extends registry (events.foldl after registry) := by
  induction events generalizing registry with
  | nil => exact .refl registry
  | cons event events ih =>
    exact (extends_after (keeps event List.mem_cons_self)).trans
      (ih fun other member => keeps other (List.mem_cons_of_mem event member))

theorem chosen_searched : (searched settings call registry).chosen = registry.chosen := by
  unfold searched loadFor
  repeat' split
  all_goals rfl

/-- A choice that is remembered after an event was remembered before it, or is what a search of the
groups has found in the event. -/
theorem chosen_after (chosen : (registry.after event).chosen.lookup call = some method) :
    event.forgets = false ∧ registry.chosen.lookup call = some method ∨
      (∃ settings, event = .resolve settings call.name call.arity ∧
        MethodCall.ofSettings call.name call.arity settings = call) ∧
      call.find? (registry.after event).groups = some method := by
  cases event with
  | register | setLoader => cases chosen
  | reload load => exact .inl ⟨rfl, chosen⟩
  | resolve settings name arity =>
    rw [after] at chosen ⊢
    cases before : registry.chosen.lookup (.ofSettings name arity settings) with
    | some other =>
      rw [resolve_of_chosen before] at chosen
      exact .inl ⟨rfl, chosen⟩
    | none =>
      rw [resolve_of_fresh before] at chosen ⊢
      dsimp only at chosen ⊢
      cases found : MethodCall.find? (.ofSettings name arity settings)
        (searched settings (.ofSettings name arity settings) registry).groups with
      | none =>
        rw [found] at chosen
        exact .inl ⟨rfl, by rwa [chosen_searched] at chosen⟩
      | some other =>
        rw [found] at chosen
        by_cases same : call = .ofSettings name arity settings
        · subst same
          rw [List.lookup_cons_self] at chosen
          exact .inr ⟨⟨settings, rfl, rfl⟩, by rw [← chosen]; exact found⟩
        · rw [List.lookup_cons, beq_false_of_ne same, chosen_searched] at chosen
          exact .inl ⟨rfl, chosen⟩

theorem chosen_of_find
    (missing : ((registry.after (.resolve settings name arity)).chosen.lookup
      (.ofSettings name arity settings)) = none) :
    MethodCall.find? (.ofSettings name arity settings)
      (registry.after (.resolve settings name arity)).groups = none := by
  rw [after] at missing ⊢
  cases before : registry.chosen.lookup (.ofSettings name arity settings) with
  | some other =>
    rw [resolve_of_chosen before, before] at missing
    cases missing
  | none =>
    rw [resolve_of_fresh before] at missing ⊢
    dsimp only at missing ⊢
    cases found : MethodCall.find? (.ofSettings name arity settings)
      (searched settings (.ofSettings name arity settings) registry).groups with
    | none => exact found
    | some other =>
      rw [found, List.lookup_cons_self] at missing
      cases missing

end Steps

section Runs

variable {settings : Settings} {name : String} {arity : Nat} {call : MethodCall} {method : Method}
  {groups : List MethodGroup} {load : String → Option MethodGroup} {made events : List Event}
  {event : Event}

theorem afterAll_snoc :
    afterAll groups load (events ++ [event]) = (afterAll groups load events).after event := by
  rw [afterAll, List.foldl_append]
  rfl

theorem Since.snoc (since : Since call made events) (keeps : event.forgets = false) :
    Since call made (events ++ [event]) := by
  obtain ⟨called, late, rfl, kept⟩ := since
  refine ⟨called, late ++ [event], by rw [List.append_assoc], ?_⟩
  intro other member
  rcases List.mem_append.mp member with member | member
  · exact kept other member
  · rwa [List.mem_singleton.mp member]

theorem Since.extends (since : Since call made events) (groups : List MethodGroup)
    (load : String → Option MethodGroup) :
    Extends (afterAll groups load made) (afterAll groups load events) := by
  obtain ⟨-, late, rfl, kept⟩ := since
  rw [afterAll, afterAll, List.foldl_append]
  exact extends_foldl kept

/-- A choice that is remembered was found in the groups that there were in some call. -/
theorem found_of_chosen
    (chosen : (afterAll groups load events).chosen.lookup call = some method) :
    ∃ made, Since call made events ∧
      call.find? (afterAll groups load made).groups = some method := by
  -- on the last event: a call that it resolves is the one sought, others go back further
  induction events using List.reverseRecOn with
  | nil => cases chosen
  | append_singleton events event ih =>
    rw [afterAll_snoc] at chosen
    rcases chosen_after chosen with ⟨keeps, before⟩ | ⟨⟨settings, rfl, same⟩, found⟩
    · obtain ⟨made, since, found⟩ := ih before
      exact ⟨made, since.snoc keeps, found⟩
    · refine ⟨events ++ [.resolve settings call.name call.arity],
        ⟨⟨events, settings, rfl, same⟩, [], by simp, by simp⟩, ?_⟩
      rwa [afterAll_snoc]

/-- Once a call has had a method, one of the groups of then is remembered for it. -/
theorem chosen_of_since (since : Since call made events) {entry : MethodGroup × Method} {fit : Fit}
    (member : entry ∈ MethodCall.registered (afterAll groups load made).groups)
    (fits : call.Fits entry.1 entry.2 fit) :
    ∃ group method fit, (afterAll groups load events).chosen.lookup call = some method ∧
      (group, method) ∈ MethodCall.registered (afterAll groups load made).groups ∧
      call.Fits group method fit := by
  obtain ⟨⟨early, settings, rfl, same⟩, -⟩ := id since
  have kept := since.extends groups load
  rw [afterAll_snoc] at member kept ⊢
  cases chosen : ((afterAll groups load early).after
      (.resolve settings call.name call.arity)).chosen.lookup call with
  | none =>
    have missing := chosen_of_find (same.symm ▸ chosen)
    rw [same] at missing
    exact absurd fits (MethodCall.find_eq_none_iff.mp missing entry member fit)
  | some method =>
    have now := kept.chosen call method chosen
    -- it may have been remembered before the call already, from fewer groups
    rw [← afterAll_snoc] at chosen
    obtain ⟨first, before, found⟩ := found_of_chosen chosen
    obtain ⟨group, fit, present, fits⟩ := (MethodCall.prefers_of_find found).fits
    obtain ⟨loaded, more⟩ := (before.extends groups load).groups
    refine ⟨group, method, fit, now, ?_, fits⟩
    rw [← afterAll_snoc, more, MethodCall.registered_append]
    exact List.mem_append_left _ present

end Runs

section Uniform

variable {caseSensitive : Bool} {call : MethodCall} {known : MethodGroup}
  {load : String → Option MethodGroup} {registry : MethodRegistry} {event : Event}
  {groups : List MethodGroup} {made events : List Event}

/-- Whether the case of names counts in all calls or in none, and loaders answer for a namespace
with a group of it. -/
def Event.Uniform (caseSensitive : Bool) : Event → Prop
  | .register _ => True
  | .setLoader load | .reload load => MethodCall.Apt caseSensitive load
  | .resolve settings _ _ => settings.caseSensitiveMethods = caseSensitive

theorem load_searched {settings : Settings} :
    (searched settings call registry).load = registry.load := by
  unfold searched loadFor
  repeat' split
  all_goals rfl

theorem apt_after (apt : MethodCall.Apt caseSensitive registry.load)
    (uniform : event.Uniform caseSensitive) :
    MethodCall.Apt caseSensitive (registry.after event).load := by
  cases event with
  | register => exact apt
  | setLoader load | reload load => exact uniform
  | resolve settings name arity =>
    rw [after]
    cases chosen : registry.chosen.lookup (.ofSettings name arity settings) with
    | some method => rwa [resolve_of_chosen chosen]
    | none =>
      rw [resolve_of_fresh chosen]
      dsimp only
      split <;> rwa [load_searched]

/-- A search loads no group that a call goes to when it goes to one that is there already. -/
theorem elsewhere_searched (settings : Settings) (other : MethodCall)
    (apt : MethodCall.Apt caseSensitive registry.load) (mine : call.caseSensitive = caseSensitive)
    (theirs : other.caseSensitive = caseSensitive) (present : known ∈ registry.groups)
    (addressed : call.addresses known = true) :
    ∃ loaded, (searched settings other registry).groups = registry.groups ++ loaded ∧
      ∀ group ∈ loaded, ¬call.addresses group = true := by
  unfold searched loadFor
  split
  · split
    · exact ⟨[], by simp, by simp⟩
    · rename_i space named
      split
      · exact ⟨[], by simp, by simp⟩
      · rename_i unknown
        split
        · rename_i group answered
          refine ⟨[group], rfl, ?_⟩
          intro loaded member shared
          obtain rfl := List.mem_singleton.mp member
          -- the call that loads the group would go to the known one as well
          have goes := MethodCall.addresses_of_apt apt theirs named answered
          have sensitive := theirs.trans mine.symm
          exact unknown (List.any_eq_true.mpr
            ⟨known, present, MethodCall.addresses_of_shared sensitive goes shared addressed⟩)
        · exact ⟨[], by simp, by simp⟩
  · exact ⟨[], by simp, by simp⟩

theorem elsewhere_after (apt : MethodCall.Apt caseSensitive registry.load)
    (mine : call.caseSensitive = caseSensitive) (uniform : event.Uniform caseSensitive)
    (keeps : event.forgets = false) (present : known ∈ registry.groups)
    (addressed : call.addresses known = true) :
    ∃ loaded, (registry.after event).groups = registry.groups ++ loaded ∧
      ∀ group ∈ loaded, ¬call.addresses group = true := by
  cases event with
  | register | setLoader => cases keeps
  | reload load => exact ⟨[], by simp [after], by simp⟩
  | resolve settings name arity =>
    rw [after]
    cases chosen : registry.chosen.lookup (.ofSettings name arity settings) with
    | some method =>
      rw [resolve_of_chosen chosen]
      exact ⟨[], by simp, by simp⟩
    | none =>
      rw [resolve_of_fresh chosen]
      have loads := elsewhere_searched settings (.ofSettings name arity settings) apt mine uniform
        present addressed
      dsimp only
      split <;> exact loads

/-- The groups that are loaded while nothing is forgotten are not those of a call that goes to a
known one. -/
theorem elsewhere_foldl (apt : MethodCall.Apt caseSensitive registry.load)
    (mine : call.caseSensitive = caseSensitive)
    (uniform : ∀ event ∈ events, event.Uniform caseSensitive)
    (keeps : ∀ event ∈ events, event.forgets = false) (present : known ∈ registry.groups)
    (addressed : call.addresses known = true) :
    ∃ loaded, (events.foldl after registry).groups = registry.groups ++ loaded ∧
      ∀ group ∈ loaded, ¬call.addresses group = true := by
  induction events generalizing registry with
  | nil => exact ⟨[], by simp, by simp⟩
  | cons event events ih =>
    have first := uniform event List.mem_cons_self
    obtain ⟨loaded, now, elsewhere⟩ :=
      elsewhere_after apt mine first (keeps event List.mem_cons_self) present addressed
    obtain ⟨more, next, later⟩ := ih (apt_after apt first)
      (fun other member => uniform other (List.mem_cons_of_mem event member))
      (fun other member => keeps other (List.mem_cons_of_mem event member))
      (by rw [now]; exact List.mem_append_left loaded present)
    refine ⟨loaded ++ more, by rw [List.foldl_cons, next, now, List.append_assoc], ?_⟩
    intro group member
    rcases List.mem_append.mp member with member | member
    · exact elsewhere group member
    · exact later group member

theorem apt_afterAll (groups : List MethodGroup) (apt : MethodCall.Apt caseSensitive load)
    (uniform : ∀ event ∈ events, event.Uniform caseSensitive) :
    MethodCall.Apt caseSensitive (afterAll groups load events).load := by
  induction events using List.reverseRecOn with
  | nil => exact apt
  | append_singleton events event ih =>
    rw [afterAll_snoc]
    exact apt_after (ih fun other member => uniform other (List.mem_append_left [event] member))
      (uniform event (by simp))

theorem not_overtaken (apt : MethodCall.Apt caseSensitive load)
    (uniform : ∀ event ∈ events, event.Uniform caseSensitive)
    (mine : call.caseSensitive = caseSensitive) : ¬Overtaken groups load events call := by
  rintro ⟨made, loaded, ⟨-, late, rfl, keeps⟩, whole, ⟨entry, member, fit, fits⟩, other, better,
    otherFit, otherFits, -⟩
  have known : entry.1 ∈ (afterAll groups load made).groups := by
    obtain ⟨group, present, inside⟩ := List.mem_flatMap.mp member
    obtain ⟨method, -, rfl⟩ := List.mem_map.mp inside
    exact present
  have before := apt_afterAll groups apt fun event member =>
    uniform event (List.mem_append_left late member)
  have behind := fun event member => uniform event (List.mem_append_right made member)
  obtain ⟨more, now, elsewhere⟩ := elsewhere_foldl before mine behind keeps known fits.addressed
  rw [afterAll, List.foldl_append] at whole
  obtain rfl : loaded = more := List.append_cancel_left (whole.symm.trans now)
  obtain ⟨group, present, inside⟩ := List.mem_flatMap.mp better
  obtain ⟨method, -, rfl⟩ := List.mem_map.mp inside
  exact elsewhere group present otherFits.addressed

end Uniform

section Answer

variable {settings : Settings} {name : String} {arity : Nat}
  {load : String → Option MethodGroup} {groups : List MethodGroup} {events : List Event}

/-- A choice that is remembered is that of a search just when it is not overtaken. -/
theorem prefers_iff {call : MethodCall} {method : Method}
    (chosen : (afterAll groups load events).chosen.lookup call = some method) :
    call.Prefers (afterAll groups load events).groups method ↔
      ¬Overtaken groups load events call := by
  constructor
  · rintro prefers ⟨made, loaded, since, whole, ⟨known, member, fit, fits⟩, other, present,
      otherFit, otherFits, better⟩
    -- the method that is remembered stems from the groups before the better one
    obtain ⟨group, held, heldFit, remembered, stems, heldFits⟩ := chosen_of_since since member fits
    obtain rfl : method = held := Option.some.inj (chosen.symm.trans remembered)
    refine prefers.best heldFits ?_ otherFits (better _ stems heldFit heldFits)
    rw [whole, MethodCall.registered_append]
    exact List.mem_append_right _ present
  · intro ahead
    obtain ⟨made, since, found⟩ := found_of_chosen chosen
    obtain ⟨loaded, whole⟩ := (since.extends groups load).groups
    rw [whole]
    exact (MethodCall.prefers_of_find found).append fun improved =>
      ahead ⟨made, loaded, since, whole, improved⟩

theorem not_overtaken_of_fresh {call : MethodCall}
    (fresh : (afterAll groups load events).chosen.lookup call = none) :
    ¬Overtaken groups load events call := by
  rintro ⟨made, loaded, since, -, ⟨known, member, fit, fits⟩, -⟩
  obtain ⟨group, method, fit, chosen, -⟩ := chosen_of_since since member fits
  rw [fresh] at chosen
  cases chosen

theorem sublist_afterAll (groups : List MethodGroup) (load : String → Option MethodGroup)
    (events : List Event) :
    (groups ++ events.filterMap Event.group?).Sublist (afterAll groups load events).groups := by
  induction events using List.reverseRecOn with
  | nil => simp [afterAll]
  | append_singleton events event ih =>
    rw [afterAll_snoc, List.filterMap_append, ← List.append_assoc]
    cases event with
    | register group => exact ih.append (List.Sublist.refl [group])
    | setLoader | reload => simpa [List.filterMap_cons, Event.group?, after, setLoader] using ih
    | resolve settings name arity =>
      have keeps : (Event.resolve settings name arity).forgets = false := rfl
      obtain ⟨loaded, more⟩ := (extends_after keeps).groups
      rw [more]
      exact ih.append (List.nil_sublist loaded)

/-- In the course of registrations, loads and calls, the answer to a call is that of a search of
all groups that there are just when no better method has been loaded since the one that is
remembered was chosen; in particular always when the case of names counts in all calls or in none
and loaders answer for a namespace with a group of it. All groups that were registered are there, in
their order. -/
theorem answers_iff (groups : List MethodGroup) (load : String → Option MethodGroup)
    (events : List Event) (settings : Settings) (name : String) (arity : Nat) :
    let call := MethodCall.ofSettings name arity settings
    let result := (resolve settings name arity).run (afterAll groups load events)
    (call.Answers result.2.groups result.1 ↔ ¬Overtaken groups load events call) ∧
      (MethodCall.Apt settings.caseSensitiveMethods load →
        (∀ event ∈ events, event.Uniform settings.caseSensitiveMethods) →
        call.Answers result.2.groups result.1) ∧
      (groups ++ events.filterMap Event.group?).Sublist result.2.groups := by
  intro call result
  have answers : call.Answers result.2.groups result.1 ↔ ¬Overtaken groups load events call := by
    cases chosen : (afterAll groups load events).chosen.lookup call with
    | some method =>
      rw [show result = _ from resolve_of_chosen chosen]
      exact prefers_iff chosen
    | none =>
      rw [show result = _ from resolve_of_fresh chosen]
      refine iff_of_true ?_ (not_overtaken_of_fresh chosen)
      dsimp only
      cases found : call.find? (searched settings call (afterAll groups load events)).groups with
      | some method => exact MethodCall.prefers_of_find found
      | none => exact ⟨rfl, MethodCall.find_eq_none_iff.mp found⟩
  refine ⟨answers, fun apt uniform => answers.mpr (not_overtaken apt uniform rfl), ?_⟩
  have whole := sublist_afterAll groups load (events ++ [.resolve settings name arity])
  rw [afterAll_snoc, List.filterMap_append] at whole
  simp only [List.filterMap_cons, Event.group?, List.filterMap_nil, List.append_nil] at whole
  exact whole

/-- A namespace with a method `f` of the given parameters. -/
def units (space : String) (parameters : List Parameter) : MethodGroup where
  space? := some space
  methods := [{ name := "f", parameters, body := fun _ => .ok .null }]

def unitLoader (space : String) : Option MethodGroup :=
  if space = "u" then some (units "u" [Method.any]) else none

theorem answers_of_loader :
    let settings : Settings := { anyNamespace := true }
    let call := MethodCall.ofSettings "u.f" 1 settings
    let result := (resolve settings "u.f" 1).run
      (afterAll [] unitLoader [.register Method.core, .resolve settings "u.f" 2])
    call.Answers result.2.groups result.1 := by
  refine (answers_iff _ _ _ _ _ _).2.1 ?_ ?_
  · intro space group answered
    obtain ⟨rfl, same⟩ := Option.ite_none_right_eq_some.mp answered
    obtain rfl := Option.some.inj same
    rfl
  · intro event member
    rcases List.mem_cons.mp member with rfl | member
    · trivial
    · obtain rfl := List.mem_singleton.mp member
      rfl

/-- A call without regard to case, and then another that loads a group with a better method. -/
def overtaking : List Event :=
  [.register (units "U" [Method.any, Method.any]), .setLoader unitLoader,
    .resolve { caseSensitiveMethods := false } "u.f" 1,
    .resolve { anyNamespace := true } "u.f" 1]

def overtakenResult : Except EvalError Method × MethodRegistry :=
  (resolve { caseSensitiveMethods := false } "u.f" 1).run
    (afterAll [] (fun _ => none) overtaking)

/-- The first choice stands. -/
theorem not_answers_of_overtaking :
    ¬(MethodCall.ofSettings "u.f" 1 { caseSensitiveMethods := false }).Answers
      overtakenResult.2.groups overtakenResult.1 := by
  have answer : overtakenResult.1.toOption.map Method.parameters =
      some [Method.any, Method.any] := by
    cbv
  have candidates : ((MethodCall.ofSettings "u.f" 1 { caseSensitiveMethods := false }).candidates
      overtakenResult.2.groups).map Prod.fst = [.nullCompleted 1, .exact] := by
    cbv
  have better : Fit.exact ∈ ((MethodCall.ofSettings "u.f" 1
      { caseSensitiveMethods := false }).candidates overtakenResult.2.groups).map Prod.fst := by
    rw [candidates]
    decide
  rw [MethodCall.candidates_eq] at better
  obtain ⟨found, member, exact⟩ := List.mem_map.mp better
  obtain ⟨entry, present, candidate⟩ := List.mem_filterMap.mp member
  have theirs := (MethodCall.fits_of_candidate candidate).2
  rw [exact] at theirs
  intro answers
  cases first : overtakenResult.1 with
  | error error =>
    rw [first] at answer
    cases answer
  | ok method =>
    rw [first] at answers answer
    obtain ⟨group, fit, -, fits⟩ := MethodCall.Prefers.fits answers
    have same := fits.fits
    rw [Option.some.inj answer] at same
    obtain rfl : Fit.nullCompleted 1 = fit := Option.some.inj same
    exact MethodCall.Prefers.best answers fits present theirs (.exactCompleted 1)

end Answer

end MethodRegistry

end PathQuery
