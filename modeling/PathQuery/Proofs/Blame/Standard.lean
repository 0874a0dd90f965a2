import PathQuery.Proofs.Blame.Bare
import PathQuery.Proofs.Conversion

/-!
The standard conversions, accessors and methods are bare, and an engine stays bare when bare
methods, accessors and operators are added to it.
-/

namespace PathQuery

namespace Conversion

theorem bare_of_toType {value converted : Value} {target : ValueType} (bare : value.bare = true)
    (found : toType? value target = some converted) : converted.bare = true := by
  cases target <;>
    simp only [toType?, Option.map_eq_some_iff, Option.some.injEq, reduceCtorEq] at found
  case string => subst found; rfl
  case array =>
    obtain ⟨elements, list, rfl⟩ := found
    exact Value.bare_array.mpr (Value.bare_of_mem_elements bare list)
  all_goals
    obtain ⟨_, -, rfl⟩ := found
    rfl

theorem bare_of_leads {value converted : Value} {target : ValueType} (bare : value.bare = true)
    (leads : Leads target value converted) : converted.bare = true := by
  induction leads with
  | computed _ ih => exact ih (Value.bare_deferred.mp bare)
  | itself => exact bare
  | counterpart found => exact bare_of_toType bare found

theorem standard_bare : standard.Bare := by
  intro value target bare
  show Yields _ _ (convert value target)
  cases came : convert value target with
  | error error => trivial
  | ok converted => exact bare_of_leads bare (leads_of_convert came)

end Conversion

namespace Accessor

variable {host : Host}

theorem map_bare : map.Bare host := by
  intro context name bare
  cases context with
  | object fields => exact Value.bare_get (Value.bare_object.mp bare) name
  | _ => rfl

theorem collection_bare : collection.Bare host := by
  intro context name bare
  unfold collection
  dsimp only
  split
  · next position elements _ list =>
    exact Value.bareResult_resolved
      (Value.bare_getD (Value.bare_of_mem_elements bare list) position)
  · rfl

theorem host_bare (bare : host.Bare) : Accessor.host.Bare host := by
  intro context name _
  cases context with
  | host ref =>
    show ((host.field ref name).getD .null).bare = true
    cases held : host.field ref name with
    | none => rfl
    | some value => exact bare.field ref name value held
  | _ => rfl

end Accessor

theorem AccessorRegistry.standard_bare (host : Host) : standard.Bare host where
  accessors := by
    intro accessor member
    simp only [standard, List.mem_cons, List.not_mem_nil, or_false] at member
    rcases member with rfl | rfl
    · exact Accessor.collection_bare
    · exact Accessor.map_bare
  chosen := by simp [standard]

/-- A method is bare if all that it comes to for bare values is. -/
theorem StandardMethod.method_bare {standard : StandardMethod}
    (reads : ∀ values, Value.allBare values = true → ∀ result,
      standard.read values = some result → BareResult result) : standard.method.Bare := by
  intro values bare
  show BareResult ((standard.read values).getD (.ok .null))
  cases read : standard.read values with
  | none => rfl
  | some result => exact reads values bare result read

namespace Method

theorem choose_bare {candidates : Value} (bare : candidates.bare = true) :
    BareResult (choose candidates) := by
  unfold choose
  split
  · next candidates =>
    have held := Value.bare_array.mp bare
    cases found : candidates.find? (!·.isNull) with
    | none => rfl
    | some value => exact held value (List.mem_of_find?_eq_some found)
  · rfl

theorem negate_bare (value : Value) : BareResult (negate value) := by
  unfold negate
  split <;> rfl

theorem bare_integer_or_long (small : Option Int32) (n : Int64) :
    ((small.map Value.integer).getD (.long n)).bare = true := by
  cases small <;> rfl

theorem substringAfter_bare (text target : Value) : BareResult (substringAfter text target) := by
  unfold substringAfter
  split
  · split <;> rfl
  · rfl

theorem bareFailure_index (value : Value) : BareFailure (index value) := by
  unfold index
  split
  · split <;> trivial
  · trivial

theorem substring_bare (text offset : Value) (length? : Option Value) :
    BareResult (substring text offset length?) := by
  unfold substring
  split
  · next text =>
    refine (bareFailure_index offset).bind fun start _ => ?_
    have ended (stop : Nat) : BareResult (if start ≤ text.toList.length && stop ≤ text.toList.length
        then pure (.string (String.ofList ((text.toList.take stop).drop start)))
        else throw (.invocation "substring"
          s!"range {start}..{stop} is outside a string of length {text.toList.length}")) := by
      split <;> rfl
    cases length? with
    | none => exact ended _
    | some length =>
      have stops : BareFailure ((index length).map (start + ·)) :=
        (bareFailure_index length).map fun _ _ => trivial
      exact stops.bind fun stop _ => ended stop
  · rfl

theorem core_bare : core.Bare := by
  intro method member
  obtain ⟨standard, listed, rfl⟩ := List.mem_map.mp member
  refine StandardMethod.method_bare fun values bare result read => ?_
  have held {position : Nat} {value : Value} (found : values[position]? = some value) :
      value.bare = true :=
    Value.allBare_iff.mp bare value (List.mem_of_getElem? found)
  simp only [coreMethods, List.mem_cons, List.not_mem_nil, or_false] at listed
  rcases listed with rfl | rfl | rfl | rfl | rfl | rfl | rfl | rfl <;>
    simp only [Bind.bind, Pure.pure, Option.bind_eq_some_iff, Option.some.injEq] at read
  · obtain ⟨candidates, first, rfl⟩ := read
    exact choose_bare (held first)
  · obtain ⟨value, -, rfl⟩ := read
    rfl
  · obtain ⟨value, -, rfl⟩ := read
    exact negate_bare value
  · obtain ⟨text, -, offset, -, rfl⟩ := read
    exact substring_bare text offset none
  · obtain ⟨text, -, offset, -, length, -, rfl⟩ := read
    exact substring_bare text offset (some length)
  · obtain ⟨text, -, target, -, rfl⟩ := read
    exact substringAfter_bare text target
  · obtain ⟨value, -, rfl⟩ := read
    exact bare_integer_or_long _ _
  · obtain ⟨value, first, rfl⟩ := read
    exact held first

theorem bareFailure_zoneOf (name : String) (value : Option Value) :
    BareFailure (zoneOf name value) := by
  unfold zoneOf
  split
  · dsimp only
    split <;> trivial
  · trivial

theorem bareFailure_dateText (layout : String) (zone : Time.Zone) (instant : Time.Instant) :
    BareFailure (dateText layout zone instant) := by
  unfold dateText
  split <;> trivial

theorem bareFailure_truncated (layout : String) (zone : Time.Zone) (instant : Time.Instant) :
    BareFailure (truncated layout zone instant) :=
  (bareFailure_dateText layout zone instant).bind fun _ _ => trivial

theorem parseDate_bare (text layout : Value) (zone? : Option Value) :
    BareResult (parseDate text layout zone?) := by
  unfold parseDate
  split
  · refine (bareFailure_zoneOf "parse" zone?).bind fun zone _ => ?_
    extract_lets instant
    cases instant <;> rfl
  · rfl

theorem formatDate_bare (date layout : Value) (zone? : Option Value) :
    BareResult (formatDate date layout zone?) := by
  unfold formatDate
  split
  · next instant layout =>
    exact (bareFailure_zoneOf "format" zone?).bind fun zone _ =>
      (bareFailure_dateText layout zone instant).bind fun _ _ => rfl
  · rfl

theorem millisOf_bare (date : Value) : BareResult (millisOf date) := by
  unfold millisOf
  split <;> rfl

theorem dateRange_bare (first last increment : Value) (layout? zone? : Option Value) :
    BareResult (dateRange first last increment layout? zone?) := by
  unfold dateRange
  split
  · next first last increment =>
    cases Time.Step.ofText? increment with
    | none => rfl
    | some step =>
      refine (bareFailure_zoneOf "range" zone?).bind fun zone _ => ?_
      extract_lets through
      have bounded (first last : Time.Instant) : BareFailure (through first last) := by
        dsimp only [through]
        split <;> trivial
      split
      · next layout =>
        refine (bareFailure_truncated layout zone first).bind fun first _ => ?_
        refine (bareFailure_truncated layout zone last).bind fun last _ => ?_
        refine (bounded first last).bind fun dates _ => ?_
        refine (yields_mapM fun date _ =>
          bareFailure_dateText layout zone date).bind fun texts _ => ?_
        exact Value.bare_array_map (f := .string) fun _ => rfl
      · refine (bounded first last).bind fun dates _ => ?_
        exact Value.bare_array_map (f := .date) fun _ => rfl
  · rfl

theorem dates_bare (now : Time.Instant) : (dates now).Bare := by
  intro method member
  obtain ⟨standard, listed, rfl⟩ := List.mem_map.mp member
  refine StandardMethod.method_bare fun values _ result read => ?_
  simp only [dateMethods, List.mem_cons, List.not_mem_nil, or_false] at listed
  rcases listed with rfl | rfl | rfl | rfl | rfl | rfl | rfl | rfl | rfl <;>
    simp only [Bind.bind, Pure.pure, Option.bind_eq_some_iff, Option.some.injEq] at read
  · subst read
    rfl
  · obtain ⟨text, -, layout, -, rfl⟩ := read
    exact parseDate_bare text layout _
  · obtain ⟨text, -, layout, -, rfl⟩ := read
    exact parseDate_bare text layout _
  · obtain ⟨date, -, layout, -, rfl⟩ := read
    exact formatDate_bare date layout _
  · obtain ⟨date, -, layout, -, rfl⟩ := read
    exact formatDate_bare date layout _
  · obtain ⟨first, -, last, -, increment, -, rfl⟩ := read
    exact dateRange_bare first last increment _ _
  · obtain ⟨first, -, last, -, increment, -, rfl⟩ := read
    exact dateRange_bare first last increment _ _
  · obtain ⟨first, -, last, -, increment, -, rfl⟩ := read
    exact dateRange_bare first last increment _ _
  · obtain ⟨date, -, rfl⟩ := read
    exact millisOf_bare date

end Method

theorem MethodRegistry.standard_bare (now : Time.Instant) : (standard now).Bare where
  groups := by
    intro group member
    simp only [standard, List.mem_cons, List.not_mem_nil, or_false] at member
    rcases member with rfl | rfl
    · exact Method.core_bare
    · exact Method.dates_bare now
  load := by simp [standard]
  chosen := by simp [standard]

/-- A host without functions and objects. -/
theorem Host.empty_bare : Host.Bare {} where
  invoke := by
    intro handle arguments _
    simp [invoke, Value.bare]
  field := by simp [field, object]
  operate := by
    intro ref operator right result _ answered
    simp [object] at answered

theorem Environment.standard_bare (settings : Settings) : Environment.Bare { settings } where
  converter := Conversion.standard_bare
  executors := by simp
  host := Host.empty_bare

namespace Engine

theorem standard_bare (settings : Settings) (now : Time.Instant) :
    (standard settings now).Bare where
  environment := Environment.standard_bare settings
  registries := ⟨AccessorRegistry.standard_bare _, MethodRegistry.standard_bare now⟩

variable {engine : Engine}

theorem Bare.registerMethods {group : MethodGroup} (bare : engine.Bare) (added : group.Bare) :
    (engine.registerMethods group).Bare where
  environment := bare.environment
  registries := ⟨bare.registries.accessors, {
    groups := List.forall_mem_append.mpr ⟨bare.registries.methods.groups, by simpa using added⟩
    load := bare.registries.methods.load
    chosen := by simp [Engine.registerMethods, MethodRegistry.register] }⟩

theorem Bare.setLoader {load : String → Option MethodGroup} (bare : engine.Bare)
    (loaded : ∀ space group, load space = some group → group.Bare) :
    (engine.setLoader load).Bare where
  environment := bare.environment
  registries := ⟨bare.registries.accessors, {
    groups := bare.registries.methods.groups
    load := loaded
    chosen := by simp [Engine.setLoader, MethodRegistry.setLoader] }⟩

theorem Bare.registerAccessor {accessor : Accessor} (bare : engine.Bare)
    (added : accessor.Bare engine.environment.host) : (engine.registerAccessor accessor).Bare where
  environment := bare.environment
  registries := ⟨{
    accessors := List.forall_mem_cons.mpr ⟨added, bare.registries.accessors.accessors⟩
    chosen := by simp [Engine.registerAccessor, AccessorRegistry.register] },
    bare.registries.methods⟩

theorem Bare.registerExecutor {executor : Executor} (bare : engine.Bare)
    (added : Executor.Bare executor) : (engine.registerExecutor executor).Bare where
  environment := {
    converter := bare.environment.converter
    executors := List.forall_mem_append.mpr ⟨bare.environment.executors, by simpa using added⟩
    host := bare.environment.host }
  registries := bare.registries

end Engine

end PathQuery
