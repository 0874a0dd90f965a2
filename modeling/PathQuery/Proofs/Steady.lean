import PathQuery.Proofs.MethodChoice

/-!
Registries of methods that answer calls in the same way, whichever calls they have answered before.
Main statement: `MethodRegistry.steady_of_impartial`.
-/

namespace PathQuery

/-- Whether a loader answers the same for namespaces that are the same to calls. -/
def MethodCall.Impartial (caseSensitive : Bool) (load : String → Option MethodGroup) : Prop :=
  ∀ space other, spelling caseSensitive space = spelling caseSensitive other →
    load space = load other

theorem MethodCall.find_congr {call : MethodCall} {groups others : List MethodGroup}
    (same : groups.filter call.addresses = others.filter call.addresses) :
    call.find? groups = call.find? others := by
  rw [find?, find?, candidates, candidates, same]

namespace MethodRegistry

/-- The registries that a registry becomes in calls that are answered. -/
inductive Served (settings : Settings) (registry : MethodRegistry) : MethodRegistry → Prop
  | refl : Served settings registry registry
  | answered {next : MethodRegistry} {name : String} {arity : Nat} {method : Method} :
      Served settings registry next →
        ((resolve settings name arity).run next).1 = .ok method →
          Served settings registry ((resolve settings name arity).run next).2

/-- Whether a registry answers every call in the same way, whichever calls it has answered before. -/
def Steady (settings : Settings) (registry : MethodRegistry) : Prop :=
  ∀ next, Served settings registry next → ∀ name arity,
    ((resolve settings name arity).run next).1 = ((resolve settings name arity).run registry).1

variable {settings : Settings} {registry : MethodRegistry} {call other : MethodCall}
  {method : Method}

/-- The group that is loaded for a call, if any. -/
def loaded (call : MethodCall) (registry : MethodRegistry) : List MethodGroup :=
  match call.parts.1 with
  | none => []
  | some space =>
      if registry.groups.any call.addresses then [] else (registry.load space).toList

theorem groups_loadFor :
    (loadFor call registry).groups = registry.groups ++ loaded call registry := by
  unfold loadFor loaded
  cases call.parts.1 with
  | none => simp
  | some space =>
    dsimp only
    split
    · simp
    · cases registry.load space <;> simp

theorem load_loadFor : (loadFor call registry).load = registry.load := by
  unfold loadFor
  repeat' split
  all_goals rfl

theorem loaded_eq_cons {group : MethodGroup} {groups : List MethodGroup}
    (loads : loaded call registry = group :: groups) :
    groups = [] ∧ (∃ space, call.parts.1 = some space ∧ registry.load space = some group) ∧
      ∀ known ∈ registry.groups, call.addresses known = false := by
  unfold loaded at loads
  split at loads
  · cases loads
  · next space named =>
    split at loads
    · cases loads
    · next unknown =>
      cases answer : registry.load space with
      | none =>
        rw [answer] at loads
        cases loads
      | some held =>
        rw [answer] at loads
        cases loads
        exact ⟨rfl, ⟨space, named, answer⟩, by simpa using unknown⟩

/-- A group that is loaded for a call that is answered then is one that the call goes to. -/
theorem addresses_of_loaded (found : call.find? (loadFor call registry).groups = some method)
    {group : MethodGroup} (loads : loaded call registry = [group]) :
    call.addresses group = true := by
  obtain ⟨-, -, unknown⟩ := loaded_eq_cons loads
  obtain ⟨home, fit, member, fits⟩ := (MethodCall.prefers_of_find found).fits
  rw [groups_loadFor, loads, MethodCall.registered_append, List.mem_append] at member
  simp only [MethodCall.registered, List.mem_flatMap, List.mem_map, Prod.mk.injEq] at member
  rcases member with ⟨known, inside, _, _, rfl, _⟩ | ⟨known, inside, _, _, rfl, _⟩
  · have elsewhere := unknown known inside
    rw [fits.addressed] at elsewhere
    cases elsewhere
  · rw [← List.mem_singleton.mp inside]
    exact fits.addressed

/-- What is loaded for a call that is answered makes no difference to other calls. -/
theorem filter_loadFor (impartial : MethodCall.Impartial call.caseSensitive registry.load)
    (sensitive : other.caseSensitive = call.caseSensitive)
    (found : call.find? (loadFor call registry).groups = some method) :
    (loadFor other (loadFor call registry)).groups.filter other.addresses =
      (loadFor other registry).groups.filter other.addresses := by
  have first := @groups_loadFor registry call
  have theirs := @groups_loadFor registry other
  have second := @groups_loadFor (loadFor call registry) other
  rw [second, theirs, first]
  cases loads : loaded call registry with
  | nil =>
    rw [loads, List.append_nil] at first
    simp only [loaded, first, load_loadFor, List.append_nil]
  | cons group groups =>
    obtain ⟨rfl, ⟨space, named, answered⟩, unknown⟩ := loaded_eq_cons loads
    have mine := addresses_of_loaded found loads
    rw [loads] at first
    by_cases theirs : other.addresses group = true
    · -- the other call would have loaded the same group
      obtain ⟨wanted, wants, same⟩ : ∃ wanted, other.parts.1 = some wanted ∧
          MethodCall.spelling call.caseSensitive wanted =
            MethodCall.spelling call.caseSensitive space := by
        rw [MethodCall.addresses_iff] at mine theirs
        rw [sensitive, mine, named] at theirs
        simpa [eq_comm] using theirs
      have none : registry.groups.any other.addresses = false := by
        rw [List.any_eq_false]
        intro known member addressed
        have shared := MethodCall.addresses_of_shared sensitive.symm mine theirs addressed
        simp [unknown known member] at shared
      have one : loaded other registry = [group] := by
        simp [loaded, wants, none, impartial wanted space same, answered]
      have nothing : loaded other (loadFor call registry) = [] := by
        simp [loaded, wants, first, theirs]
      rw [one, nothing, List.append_nil]
    · have same : loaded other (loadFor call registry) = loaded other registry := by
        simp [loaded, first, load_loadFor, theirs]
      simp [same, theirs]

variable {name : String} {arity : Nat}

/-- A search does not depend on what was chosen before. -/
theorem groups_searched {chosen : List (MethodCall × Method)} :
    (searched settings call { registry with chosen }).groups =
      (searched settings call registry).groups := by
  unfold searched
  split
  · rw [groups_loadFor, groups_loadFor]
    rfl
  · rfl

theorem find_searched (impartial : settings.anyNamespace = true →
      MethodCall.Impartial settings.caseSensitiveMethods registry.load)
    (mine : call.caseSensitive = settings.caseSensitiveMethods)
    (theirs : other.caseSensitive = settings.caseSensitiveMethods)
    (found : call.find? (searched settings call registry).groups = some method) :
    other.find? (searched settings other (searched settings call registry)).groups =
      other.find? (searched settings other registry).groups := by
  cases loads : settings.anyNamespace with
  | false => simp [searched, loads]
  | true =>
    simp only [searched, loads, if_true] at found ⊢
    rw [← mine] at impartial theirs
    exact MethodCall.find_congr (filter_loadFor (impartial loads) theirs found)

theorem load_resolve : ((resolve settings name arity).run registry).2.load = registry.load := by
  cases chosen : registry.chosen.lookup (.ofSettings name arity settings) with
  | some method => rw [resolve_of_chosen chosen]
  | none =>
    rw [resolve_of_fresh chosen]
    dsimp only
    split <;> exact load_searched

/-- A call that is answered leaves the answers to other calls as they are. -/
theorem answer_resolve (impartial : settings.anyNamespace = true →
      MethodCall.Impartial settings.caseSensitiveMethods registry.load)
    (answered : ((resolve settings name arity).run registry).1 = .ok method)
    (wanted : String) (count : Nat) :
    ((resolve settings wanted count).run ((resolve settings name arity).run registry).2).1 =
      ((resolve settings wanted count).run registry).1 := by
  cases chosen : registry.chosen.lookup (.ofSettings name arity settings) with
  | some held => rw [resolve_of_chosen chosen]
  | none =>
    have unchanged := answered
    rw [resolve_of_fresh chosen] at answered ⊢
    cases found : MethodCall.find? (.ofSettings name arity settings)
      (searched settings (.ofSettings name arity settings) registry).groups with
    | none => simp [found] at answered
    | some best =>
      simp only [found] at answered ⊢
      by_cases same : MethodCall.ofSettings wanted count settings = .ofSettings name arity settings
      · obtain ⟨rfl, rfl⟩ : wanted = name ∧ count = arity := by
          simpa [MethodCall.ofSettings] using same
        rw [unchanged, ← answered, resolve_of_chosen List.lookup_cons_self]
      · have kept : List.lookup (MethodCall.ofSettings wanted count settings)
            ((.ofSettings name arity settings, best) ::
              (searched settings (.ofSettings name arity settings) registry).chosen) =
            registry.chosen.lookup (.ofSettings wanted count settings) := by
          rw [List.lookup_cons, beq_false_of_ne same, chosen_searched]
        cases before : registry.chosen.lookup (.ofSettings wanted count settings) with
        | some held => rw [resolve_of_chosen before, resolve_of_chosen (kept.trans before)]
        | none =>
          rw [resolve_of_fresh before, resolve_of_fresh (kept.trans before)]
          have searches := @find_searched settings registry (.ofSettings name arity settings)
            (.ofSettings wanted count settings) best impartial rfl rfl found
          dsimp only
          rw [groups_searched, searches]
          split <;> rfl

/-- A registry is steady if it loads no namespaces, or its loader does not tell apart namespaces that
are the same to calls. -/
theorem steady_of_impartial (impartial : settings.anyNamespace = true →
    MethodCall.Impartial settings.caseSensitiveMethods registry.load) :
    Steady settings registry := by
  intro next served
  have kept : next.load = registry.load ∧ ∀ name arity,
      ((resolve settings name arity).run next).1 =
        ((resolve settings name arity).run registry).1 := by
    induction served with
    | refl => exact ⟨rfl, fun _ _ => rfl⟩
    | answered _ answered ih =>
      obtain ⟨load, same⟩ := ih
      refine ⟨load_resolve.trans load, fun name arity => ?_⟩
      rw [← load] at impartial
      rw [answer_resolve impartial answered, same]
  exact kept.2

end MethodRegistry

end PathQuery
