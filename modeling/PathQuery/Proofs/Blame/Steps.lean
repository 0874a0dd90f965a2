import PathQuery.Proofs.AccessorChoice
import PathQuery.Proofs.Blame.Operators
import PathQuery.Proofs.Blame.Standard
import PathQuery.Proofs.MethodChoice
import PathQuery.Proofs.Outcome

/-!
The steps of an evaluation keep registries bare, and come to bare values if what they are given is
bare. Their errors are bare or those of the computations that they are put together from.
-/

namespace PathQuery

namespace AccessorRegistry

variable {host : Host} {registry : AccessorRegistry}

theorem Bare.select (bare : registry.Bare host) (provided : host.Bare)
    (lineage : List ContextType) : (registry.select lineage).Bare host := by
  have follows := registry.follows_select lineage
  generalize registry.select lineage = accessor at follows
  cases follows with
  | chosen _ split => exact bare.accessors _ (by simp [split])
  | fallback => exact Accessor.host_bare provided

theorem Bare.resolve (bare : registry.Bare host) (provided : host.Bare) (value : Value) :
    ((resolve value).run registry).1.Bare host ∧ ((resolve value).run registry).2.Bare host := by
  cases made : registry.chosen.lookup (ContextType.first value) with
  | some accessor =>
    rw [resolve_of_chosen made]
    obtain ⟨before, after, split, -⟩ := List.lookup_eq_some_iff.mp made
    have member : (ContextType.first value, accessor) ∈ registry.chosen := by simp [split]
    exact ⟨bare.chosen _ member, bare⟩
  | none =>
    rw [resolve_of_fresh made]
    have selected := bare.select provided (ContextType.lineage value)
    exact ⟨selected, bare.accessors, List.forall_mem_cons.mpr ⟨selected, bare.chosen⟩⟩

theorem Bare.get (bare : registry.Bare host) (provided : host.Bare) {context : Value}
    (held : context.bare = true) (name : String) :
    BareResult ((get host context name).run registry).1 ∧
      ((get host context name).run registry).2.Bare host := by
  unfold AccessorRegistry.get ask
  by_cases null : context.isNull = true
  · rw [if_pos null]
    exact ⟨rfl, bare⟩
  · rw [if_neg null]
    obtain ⟨accessor, after⟩ := bare.resolve provided context
    exact ⟨accessor context name held, after⟩

end AccessorRegistry

namespace MethodRegistry

variable {registry : MethodRegistry}

theorem Bare.searched (bare : registry.Bare) (settings : Settings) (call : MethodCall) :
    (searched settings call registry).Bare := by
  unfold MethodRegistry.searched loadFor
  split
  · split
    · exact bare
    · next space _ =>
      split
      · exact bare
      · split
        · next group loaded =>
          exact { bare with
            groups := List.forall_mem_append.mpr
              ⟨bare.groups, by simpa using bare.load space group loaded⟩ }
        · exact bare
  · exact bare

theorem Bare.find (bare : registry.Bare) {call : MethodCall} {method : Method}
    (found : call.find? registry.groups = some method) : method.Bare := by
  obtain ⟨_, group, _, _, split, -⟩ := MethodCall.prefers_of_find found
  have member : (group, method) ∈ MethodCall.registered registry.groups := by simp [split]
  simp only [MethodCall.registered, List.mem_flatMap, List.mem_map, Prod.mk.injEq] at member
  obtain ⟨_, inside, _, held, rfl, rfl⟩ := member
  exact bare.groups _ inside _ held

theorem Bare.resolve (bare : registry.Bare) (settings : Settings) (name : String) (arity : Nat) :
    Yields Method.Bare (fun error => error.bare = true)
        ((resolve settings name arity).run registry).1 ∧
      ((resolve settings name arity).run registry).2.Bare := by
  cases made : registry.chosen.lookup (.ofSettings name arity settings) with
  | some method =>
    rw [resolve_of_chosen made]
    obtain ⟨before, after, split, -⟩ := List.lookup_eq_some_iff.mp made
    have member : (.ofSettings name arity settings, method) ∈ registry.chosen := by simp [split]
    exact ⟨bare.chosen _ member, bare⟩
  | none =>
    rw [resolve_of_fresh made]
    have next := bare.searched settings (.ofSettings name arity settings)
    dsimp only
    split
    · next method found =>
      have chosen := next.find found
      exact ⟨chosen, { next with chosen := List.forall_mem_cons.mpr ⟨chosen, next.chosen⟩ }⟩
    · exact ⟨rfl, next⟩

end MethodRegistry

namespace Method

variable {converter : Converter}

theorem yields_bind_parameters (bare : converter.Bare) {parameters : List Parameter}
    {arguments : List Value} (held : ∀ argument ∈ arguments, argument.bare = true) :
    Yields (fun values => ∀ value ∈ values, value.bare = true) (fun _ => True)
      (bind converter parameters arguments) := by
  have coerced (parameter : Parameter) (argument : Value) (held : argument.bare = true) :
      Yields (fun value => value.bare = true) (fun _ => True)
        (coerce converter parameter argument) := by
    unfold coerce
    split
    · exact bare argument _ held
    · exact held
  induction parameters generalizing arguments with
  | nil => simp [bind]
  | cons parameter parameters ih =>
    rw [bind]
    split
    · refine (yields_mapM fun argument member => coerced parameter argument
        (held argument member)).bind fun rest elements => ?_
      refine (@ih [] (by simp)).bind fun values others => ?_
      exact List.forall_mem_cons.mpr ⟨Value.bare_array.mpr elements, others⟩
    · refine (coerced parameter _ (Value.bare_headD held)).bind fun first head => ?_
      refine (ih fun argument member => held argument (List.mem_of_mem_tail member)).bind
        fun values others => ?_
      exact List.forall_mem_cons.mpr ⟨head, others⟩

theorem Bare.call {method : Method} (bare : method.Bare) (sound : converter.Bare)
    {arguments : List Value} (held : ∀ argument ∈ arguments, argument.bare = true) :
    BareResult (method.call converter arguments) := by
  have bound : Yields (fun values => ∀ value ∈ values, value.bare = true)
      (fun error => error.bare = true)
      ((bind converter method.parameters arguments).mapError EvalError.conversion) :=
    (yields_bind_parameters sound held).mapError fun _ _ => rfl
  exact bound.bind fun values held => bare values (Value.allBare_iff.mpr held)

end Method

namespace Evaluation

section Ensures

variable {α β : Type} {host : Host} {good : α → Prop} {bad : EvalError → Prop}

/-- Whether a computation that begins with bare registries leaves such behind, and comes to a value
or an error that the respective property holds of. -/
def Ensures (host : Host) (good : α → Prop) (bad : EvalError → Prop)
    (computation : Evaluation α) : Prop :=
  ∀ registries : Registries, registries.Bare host →
    Yields good bad (outcome computation registries).1 ∧
      (outcome computation registries).2.Bare host

theorem ensures_lift {result : Except EvalError α} (yields : Yields good bad result) :
    Ensures host good bad (liftM result : Evaluation α) :=
  fun _ bare => ⟨yields, bare⟩

theorem ensures_pure {value : α} (holds : good value) :
    Ensures host good bad (pure value : Evaluation α) :=
  fun _ bare => ⟨holds, bare⟩

theorem ensures_throw {error : EvalError} (holds : bad error) :
    Ensures host good bad (throw error : Evaluation α) :=
  fun _ bare => ⟨holds, bare⟩

theorem Ensures.weaken {bad' : EvalError → Prop} {computation : Evaluation α}
    (ensures : Ensures host good bad computation) (errors : ∀ error, bad error → bad' error) :
    Ensures host good bad' computation :=
  fun registries bare => (ensures registries bare).imp_left fun yields => yields.weaken errors

theorem Ensures.bind {good' : β → Prop} {computation : Evaluation α} {next : α → Evaluation β}
    (first : Ensures host good bad computation)
    (rest : ∀ value, good value → Ensures host good' bad (next value)) :
    Ensures host good' bad (computation >>= next) := by
  intro registries bare
  have kept := first registries bare
  rw [outcome_bind]
  rcases came : outcome computation registries with ⟨error | value, between⟩ <;> rw [came] at kept
  · exact kept
  · exact rest value kept.1 between kept.2

theorem ensures_mapM {good : β → Prop} {values : List α} {f : α → Evaluation β}
    (each : ∀ value ∈ values, Ensures host good bad (f value)) :
    Ensures host (fun results => ∀ result ∈ results, good result) bad (values.mapM f) := by
  induction values with
  | nil => exact ensures_pure (by simp)
  | cons value values ih =>
    rw [List.forall_mem_cons] at each
    rw [List.mapM_cons]
    refine each.1.bind fun result first => (ih each.2).bind fun results rest => ?_
    exact ensures_pure (List.forall_mem_cons.mpr ⟨first, rest⟩)

/-- Whether a computation leaves bare registries behind, and comes to a bare value or to an error
that a property holds of. -/
abbrev EnsuresValue (host : Host) (bad : EvalError → Prop) (computation : Evaluation Value) :
    Prop :=
  Ensures host (fun value => value.bare = true) bad computation

end Ensures

section Names

variable {environment : Environment} {frames : List Frame} {scope : Scope}

theorem ensures_member (provided : environment.host.Bare) {context : Value}
    (held : context.bare = true) (name : String) :
    EnsuresValue environment.host (fun error => error.bare = true)
      (member environment context name) := by
  intro registries bare
  obtain ⟨answered, accessors⟩ := bare.accessors.get provided held name
  exact ⟨answered.bind fun _ held => Value.bareResult_resolved held, accessors, bare.methods⟩

theorem ensures_method (environment : Environment) (name : String) (arity : Nat) :
    Ensures environment.host Method.Bare (fun error => error.bare = true)
      (method environment name arity) := by
  intro registries bare
  obtain ⟨answered, methods⟩ := bare.methods.resolve environment.settings name arity
  exact ⟨answered, bare.accessors, methods⟩

theorem ensures_methodOf (provided : environment.host.Bare) (arity : Nat) (value : Value) :
    Ensures environment.host Method.Bare (fun error => error.bare = true)
      (methodOf environment arity value) := by
  unfold methodOf
  split
  · next ref =>
    split
    · exact ensures_pure (provided.invoke ref.handle)
    · exact ensures_throw rfl
  · exact ensures_method environment _ arity
  · exact ensures_throw rfl

theorem ensures_read (provided : environment.host.Bare) (name : String) {context : Value}
    (held : context.bare = true) :
    EnsuresValue environment.host (fun error => error.bare = true)
      (read environment name context) := by
  unfold read
  split
  · exact ensures_pure held
  · exact ensures_member provided held name

theorem ensures_seek (provided : environment.host.Bare) (name : String)
    (held : ∀ frame ∈ frames, frame.value.bare = true) :
    Ensures environment.host (fun found => found.1.bare = true ∧ found.2.bare = true)
      (fun error => error.bare = true) (seek environment name frames) := by
  induction frames with
  | nil => exact ensures_pure ⟨rfl, rfl⟩
  | cons frame frames ih =>
    rw [List.forall_mem_cons] at held
    rw [seek]
    refine (ensures_read provided name held.1).bind fun value bare => ?_
    split
    · exact ih held.2
    · exact ensures_pure ⟨bare, held.1⟩

theorem mem_of_mem_fromRoot {frame : Frame} (member : frame ∈ Scope.fromRoot frames) :
    frame ∈ frames := by
  fun_induction Scope.fromRoot frames with
  | case1 => exact member
  | case2 => exact member
  | case3 => exact member
  | case4 _ _ _ _ ih => exact List.mem_cons_of_mem _ (ih member)

theorem mem_of_mem_sources {settings : Settings} {first : Bool} {name : String} {frame : Frame}
    (member : frame ∈ sources settings first name scope frames) :
    frame ∈ frames ∨ frame ∈ scope.frames := by
  have start : ∀ frame ∈ (if name.startsWith "/" then Scope.fromRoot scope.frames else frames),
      frame ∈ frames ∨ frame ∈ scope.frames := by
    intro frame member
    split at member
    · exact .inr (mem_of_mem_fromRoot member)
    · exact .inl member
  unfold sources at member
  split at member
  · dsimp only at member
    split at member
    · exact start frame member
    · split at member
      · rcases List.mem_append.mp member with member | member
        · exact start frame (List.mem_of_mem_take member)
        · exact .inr (mem_of_mem_fromRoot (List.mem_of_mem_take member))
      · exact start frame (List.mem_of_mem_take member)
  · exact .inl (List.mem_of_mem_take member)

/-- Whether what becomes of a path after a name comes to bare values or to errors that a property
holds of, if it goes on with bare values. -/
structure Continuation.Keeps (host : Host) (bad : EvalError → Prop) (next : Continuation) :
    Prop where
  stay : ∀ scope : Scope, scope.Bare → EnsuresValue host bad (next.stay scope)
  climb : ∀ (frames : List Frame) (scope : Scope), (∀ frame ∈ frames, frame.value.bare = true) →
    scope.Bare → EnsuresValue host bad (next.climb frames scope)
  descend : ∀ (value context : Value) (scope : Scope), value.bare = true → context.bare = true →
    scope.Bare → EnsuresValue host bad (next.descend value context scope)

variable {bad : EvalError → Prop} {next : Continuation}

theorem ensures_climbed (provided : environment.host.Bare)
    (weak : ∀ error, error.bare = true → bad error) (keeps : next.Keeps environment.host bad)
    (first : Bool) (name : String) (last : Bool)
    (held : ∀ frame ∈ frames, frame.value.bare = true) (entered : scope.Bare) :
    EnsuresValue environment.host bad
      (climbed environment first name last next frames scope) := by
  unfold climbed
  split
  · split
    · exact ensures_throw (weak _ rfl)
    · split
      · exact ensures_throw (weak _ rfl)
      · have above : ∀ frame ∈ frames.tail, frame.value.bare = true :=
          fun frame member => held frame (List.mem_of_mem_tail member)
        exact keeps.climb _ scope above entered
  · have sourced : ∀ frame ∈ sources environment.settings first name scope frames,
        frame.value.bare = true := by
      intro frame member
      rcases mem_of_mem_sources member with member | member
      · exact held frame member
      · exact entered frame member
    have sought := (ensures_seek provided (bareName name) sourced).weaken weak
    exact sought.bind fun found bare => keeps.descend _ _ scope bare.1 bare.2 entered

theorem ensures_named (provided : environment.host.Bare)
    (weak : ∀ error, error.bare = true → bad error) (keeps : next.Keeps environment.host bad)
    (first : Bool) (name : String) (last : Bool) (entered : scope.Bare) :
    EnsuresValue environment.host bad (named environment first name last next scope) := by
  unfold named
  split
  · split
    · exact ensures_throw (weak _ rfl)
    · exact keeps.stay scope entered
  · exact ensures_climbed provided weak keeps first name last entered entered

end Names

section Lists

variable {environment : Environment} {bad : EvalError → Prop} {evaluate : Value → Evaluation Value}

theorem bare_atNull (segments : List Segment) : (atNull segments).bare = true := by
  unfold atNull
  split
  · split <;> rfl
  · rfl

theorem yields_elementsOf {value : Value} (bare : value.bare = true) :
    Yields (fun elements => ∀ element ∈ elements, element.bare = true)
      (fun error => error.bare = true) (elementsOf value) := by
  refine yields_mapM fun element member => Value.bareResult_resolved ?_
  cases list : value.elements? with
  | none => simp [list] at member
  | some elements =>
    rw [list] at member
    exact Value.bare_of_mem_elements bare list element member

theorem bare_of_mem_spliced {results : List Value} (bare : ∀ result ∈ results, result.bare = true) :
    ∀ value ∈ spliced results, value.bare = true := by
  intro value member
  obtain ⟨result, inside, held⟩ := List.mem_flatMap.mp member
  have resultBare := bare result inside
  split at held
  · exact Value.bare_array.mp resultBare value held
  · rw [List.mem_singleton.mp held]
    exact resultBare

theorem elementAt_bare (environment : Environment) (index : Expression) {elements : List Value}
    (held : ∀ element ∈ elements, element.bare = true) (position : Value) :
    BareResult (elementAt environment index elements position) := by
  unfold elementAt
  extract_lets invalid
  split
  · rfl
  · split
    · rfl
    · split
      · rfl
      · split
        · rfl
        · exact Value.bareResult_resolved (Value.bare_getD held _)

theorem ensures_filtered {host : Host} (converter : Converter) {elements : List Value}
    (held : ∀ element ∈ elements, element.bare = true)
    (ensures : ∀ element, element.bare = true → EnsuresValue host bad (evaluate element)) :
    Ensures host (fun kept => ∀ element ∈ kept, element.bare = true) bad
      (filtered converter evaluate elements) := by
  induction elements with
  | nil => exact ensures_pure (by simp)
  | cons element elements ih =>
    rw [List.forall_mem_cons] at held
    rw [filtered]
    refine (ensures element held.1).bind fun verdict _ => (ih held.2).bind fun kept bare => ?_
    apply ensures_pure
    split
    · exact List.forall_mem_cons.mpr ⟨held.1, bare⟩
    · exact bare

theorem ensures_indexed (provided : environment.host.Bare)
    (weak : ∀ error, error.bare = true → bad error) (index : Expression)
    (ensures : ∀ context, context.bare = true →
      EnsuresValue environment.host bad (evaluate context))
    {value context : Value} (held : value.bare = true) (around : context.bare = true)
    (concatenated : Bool) :
    Ensures environment.host (fun indexed => indexed.1.bare = true) bad
      (indexed environment index evaluate value context concatenated) := by
  unfold indexed
  split
  · next fields _ =>
    refine (ensures context around).bind fun key _ => ?_
    split
    · exact ensures_pure rfl
    · have member := Value.bareResult_resolved (Value.bare_get (Value.bare_object.mp held) key.text)
      exact (ensures_lift (member.weaken weak)).bind fun _ bare => ensures_pure bare
  · refine (ensures context around).bind fun key _ => ?_
    split
    · exact ensures_throw (weak _ rfl)
    · have member := (ensures_member provided held key.text).weaken weak
      exact member.bind fun _ bare => ensures_pure bare
  · next elements _ list =>
    have bare := Value.bare_of_mem_elements held list
    split
    · refine (ensures context around).bind fun position _ => ?_
      have element := (elementAt_bare environment index bare position).weaken weak
      exact (ensures_lift element).bind fun _ bare => ensures_pure bare
    · refine (ensures_lift ((yields_elementsOf held).weaken weak)).bind
        fun elements bare => ?_
      exact (ensures_filtered environment.converter bare ensures).bind fun _ kept =>
        ensures_pure (Value.bare_array.mpr kept)

end Lists

end Evaluation

end PathQuery
