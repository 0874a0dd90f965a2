import PathQuery.Method.Registry

/-!
The search of groups of methods for the method of a call. Main statements:
`MethodCall.prefers_of_find` and `MethodCall.find_eq_none_iff`.
-/

namespace PathQuery

/-- Whether the one fit comes before the other in the order of preference. -/
inductive Fit.Better : Fit → Fit → Prop
  | exactVariadic : Better .exact .variadic
  | exactCompleted (missing : Nat) : Better .exact (.nullCompleted missing)
  | variadicCompleted (missing : Nat) : Better .variadic (.nullCompleted missing)
  | fewerMissing {fewer more : Nat} : fewer < more →
      Better (.nullCompleted fewer) (.nullCompleted more)

theorem Fit.better_iff_rank_lt {left right : Fit} : left.Better right ↔ left.rank < right.rank := by
  constructor
  · intro better
    cases better with
    | exactVariadic => decide
    | exactCompleted | variadicCompleted => simp only [rank]; omega
    | fewerMissing fewer => simp only [rank]; omega
  · intro lower
    cases left <;> cases right <;> simp only [rank] at lower
    case exact.variadic => exact .exactVariadic
    case exact.nullCompleted missing => exact .exactCompleted missing
    case variadic.nullCompleted missing => exact .variadicCompleted missing
    case nullCompleted.nullCompleted => exact .fewerMissing (by omega)
    all_goals omega

namespace MethodCall

variable {call : MethodCall} {group : MethodGroup} {groups loaded : List MethodGroup}
  {method : Method} {fit : Fit}

/-- Whether a call may go to a method of a group, and how the method fits it. -/
structure Fits (call : MethodCall) (group : MethodGroup) (method : Method) (fit : Fit) : Prop where
  addressed : call.addresses group = true
  named : call.sameName method.name call.parts.2 = true
  fits : Fit.of? method.parameters call.arity call.nullCompletion = some fit

/-- The methods of groups, each with its group, in the order of registration. -/
def registered (groups : List MethodGroup) : List (MethodGroup × Method) :=
  groups.flatMap fun group => group.methods.map (group, ·)

/-- Whether a method is the earliest of those that fit a call best. -/
def Prefers (call : MethodCall) (groups : List MethodGroup) (method : Method) : Prop :=
  ∃ earlier group later fit, registered groups = earlier ++ (group, method) :: later ∧
    call.Fits group method fit ∧
    (∀ other ∈ earlier, ∀ otherFit, call.Fits other.1 other.2 otherFit → fit.Better otherFit) ∧
    ∀ other ∈ later, ∀ otherFit, call.Fits other.1 other.2 otherFit → ¬otherFit.Better fit

/-- Whether an answer is that of a search of the groups: the preferred method, or the error that
there is none. -/
def Answers (call : MethodCall) (groups : List MethodGroup) : Except EvalError Method → Prop
  | .ok method => call.Prefers groups method
  | .error error => error = .unresolvedMethod call.name call.arity ∧
      ∀ entry ∈ registered groups, ∀ fit, ¬call.Fits entry.1 entry.2 fit

/-- Whether a call has a method in the one groups and a better one in the others. -/
def Improved (call : MethodCall) (known loaded : List MethodGroup) : Prop :=
  (∃ entry ∈ registered known, ∃ fit, call.Fits entry.1 entry.2 fit) ∧
    ∃ entry ∈ registered loaded, ∃ fit, call.Fits entry.1 entry.2 fit ∧
      ∀ other ∈ registered known, ∀ otherFit, call.Fits other.1 other.2 otherFit →
        fit.Better otherFit

section Search

theorem registered_append (groups loaded : List MethodGroup) :
    registered (groups ++ loaded) = registered groups ++ registered loaded := by
  simp [registered]

/-- A method as a candidate, if the call may go to it. -/
def candidate? (call : MethodCall) (entry : MethodGroup × Method) : Option (Fit × Method) :=
  if call.addresses entry.1 then (call.fit? entry.2).map (·, entry.2) else none

theorem fits_of_candidate {entry : MethodGroup × Method} {found : Fit × Method}
    (candidate : call.candidate? entry = some found) :
    found.2 = entry.2 ∧ call.Fits entry.1 entry.2 found.1 := by
  unfold candidate? fit? at candidate
  split at candidate
  · split at candidate
    · rename_i addressed named
      obtain ⟨fit, fits, rfl⟩ := Option.map_eq_some_iff.mp candidate
      exact ⟨rfl, addressed, named, fits⟩
    · cases candidate
  · cases candidate

theorem candidate_of_fits {entry : MethodGroup × Method} (fits : call.Fits entry.1 entry.2 fit) :
    call.candidate? entry = some (fit, entry.2) := by
  simp only [candidate?, fit?, fits.addressed, fits.named, fits.fits, if_true, Option.map_some]

theorem candidates_eq (call : MethodCall) (groups : List MethodGroup) :
    call.candidates groups = (registered groups).filterMap call.candidate? := by
  unfold candidates registered
  induction groups with
  | nil => rfl
  | cons group groups ih =>
    rw [List.flatMap_cons, List.filterMap_append, ← ih, List.filterMap_map, List.filter_cons]
    by_cases addressed : call.addresses group = true
    · rw [if_pos addressed, List.flatMap_cons, List.filterMap_append]
      congr 2
      funext method
      simp [candidate?, addressed]
    · rw [if_neg addressed]
      have misses : group.methods.filterMap
          (call.candidate? ∘ fun method => (group, method)) = [] := by
        rw [List.filterMap_eq_nil_iff]
        intro method _
        simp [candidate?, addressed]
      rw [misses, List.nil_append]

theorem split_of_best {candidates : List (Fit × Method)} {found : Fit × Method}
    (best : best? candidates = some found) :
    ∃ earlier later, candidates = earlier ++ found :: later ∧
      (∀ other ∈ earlier, found.1.rank < other.1.rank) ∧
      ∀ other ∈ later, found.1.rank ≤ other.1.rank := by
  -- the best of the others is passed over only for a first one that is strictly better
  induction candidates generalizing found with
  | nil => cases best
  | cons first others ih =>
    rw [best?] at best
    cases rest : best? others with
    | none =>
      rw [rest] at best
      cases best
      cases others with
      | nil => exact ⟨[], [], rfl, by simp, by simp⟩
      | cons other others =>
        rw [best?] at rest
        cases second : best? others <;> rw [second] at rest <;> simp at rest
        split at rest <;> cases rest
    | some other =>
      obtain ⟨earlier, later, rfl, before, behind⟩ := ih rest
      simp only [rest] at best
      split at best
      · rename_i lower
        cases best
        refine ⟨first :: earlier, later, rfl, ?_, behind⟩
        intro candidate member
        rcases List.mem_cons.mp member with rfl | member
        · exact lower
        · exact before candidate member
      · rename_i lower
        cases best
        refine ⟨[], earlier ++ other :: later, rfl, by simp, ?_⟩
        intro candidate member
        rcases List.mem_append.mp member with member | member
        · have := before candidate member
          omega
        · rcases List.mem_cons.mp member with rfl | member
          · omega
          · have := behind candidate member
            omega

theorem best_eq_none_iff {candidates : List (Fit × Method)} :
    best? candidates = none ↔ candidates = [] := by
  cases candidates with
  | nil => simp [best?]
  | cons first others =>
    rw [best?]
    cases best? others with
    | none => simp
    | some other => by_cases lower : other.1.rank < first.1.rank <;> simp [lower]

theorem prefers_of_find (found : call.find? groups = some method) : call.Prefers groups method := by
  obtain ⟨⟨fit, _⟩, best, rfl⟩ := Option.map_eq_some_iff.mp found
  obtain ⟨earlier, later, split, before, behind⟩ := split_of_best best
  rw [candidates_eq] at split
  -- the registered methods, divided where the candidates are
  obtain ⟨front, rest, whole, earlierEq, restEq⟩ := List.filterMap_eq_append_iff.mp split
  obtain ⟨skipped, entry, back, rfl, misses, chosen, laterEq⟩ :=
    List.filterMap_eq_cons_iff.mp restEq
  obtain ⟨rfl, fits⟩ := fits_of_candidate chosen
  refine ⟨front ++ skipped, entry.1, back, fit, by simp [whole], fits, ?_, ?_⟩
  · intro other member otherFit fitted
    have candidate := candidate_of_fits fitted
    rcases List.mem_append.mp member with member | member
    · have member : (otherFit, other.2) ∈ earlier := by
        rw [← earlierEq]
        exact List.mem_filterMap.mpr ⟨other, member, candidate⟩
      exact Fit.better_iff_rank_lt.mpr (before _ member)
    · rw [misses other member] at candidate
      cases candidate
  · intro other member otherFit fitted better
    have candidate := candidate_of_fits fitted
    have member : (otherFit, other.2) ∈ later := by
      rw [← laterEq]
      exact List.mem_filterMap.mpr ⟨other, member, candidate⟩
    exact absurd (Fit.better_iff_rank_lt.mp better) (Nat.not_lt.mpr (behind _ member))

theorem find_eq_none_iff : call.find? groups = none ↔
    ∀ entry ∈ registered groups, ∀ fit, ¬call.Fits entry.1 entry.2 fit := by
  rw [find?, Option.map_eq_none_iff, best_eq_none_iff, candidates_eq, List.filterMap_eq_nil_iff]
  refine forall₂_congr fun entry _ => ?_
  constructor
  · intro none fit fits
    rw [candidate_of_fits fits] at none
    cases none
  · intro misfits
    rw [Option.eq_none_iff_forall_ne_some]
    intro found chosen
    exact misfits _ (fits_of_candidate chosen).2

/-- No method fits a call better than the preferred one, whichever group that one is called in. -/
theorem Prefers.best {entry : MethodGroup × Method} {other : Fit}
    (prefers : call.Prefers groups method) (mine : call.Fits group method fit)
    (member : entry ∈ registered groups)
    (theirs : call.Fits entry.1 entry.2 other) : ¬other.Better fit := by
  obtain ⟨earlier, chosen, later, found, split, fits, before, behind⟩ := prefers
  obtain rfl : found = fit := Option.some.inj (fits.fits.symm.trans mine.fits)
  intro better
  have lower := Fit.better_iff_rank_lt.mp better
  rw [split] at member
  rcases List.mem_append.mp member with member | member
  · have higher := Fit.better_iff_rank_lt.mp (before entry member other theirs)
    omega
  · rcases List.mem_cons.mp member with rfl | member
    · obtain rfl : found = other := Option.some.inj (fits.fits.symm.trans theirs.fits)
      omega
    · exact behind entry member other theirs better

theorem Prefers.fits (prefers : call.Prefers groups method) :
    ∃ group fit, (group, method) ∈ registered groups ∧ call.Fits group method fit := by
  obtain ⟨earlier, group, later, fit, split, fits, -⟩ := prefers
  exact ⟨group, fit, by simp [split], fits⟩

theorem Prefers.append (prefers : call.Prefers groups method)
    (unimproved : ¬call.Improved groups loaded) : call.Prefers (groups ++ loaded) method := by
  have best := @Prefers.best call
  obtain ⟨earlier, group, later, fit, split, fits, before, behind⟩ := prefers
  refine ⟨earlier, group, later ++ registered loaded, fit, ?_, fits, before, ?_⟩
  · rw [registered_append, split, List.append_assoc, List.cons_append]
  · intro other member otherFit theirs better
    rcases List.mem_append.mp member with member | member
    · exact behind other member otherFit theirs better
    · -- better than the preferred one, so better than all the groups had
      refine unimproved ⟨⟨(group, method), by simp [split], fit, fits⟩, other, member, otherFit,
        theirs, fun known present knownFit knownFits => ?_⟩
      have lower := Fit.better_iff_rank_lt.mp better
      have least := best ⟨earlier, group, later, fit, split, fits, before, behind⟩ fits present
        knownFits
      rw [Fit.better_iff_rank_lt] at least ⊢
      omega

end Search

section Spelling

variable {caseSensitive : Bool} {other : MethodCall} {known : MethodGroup}
  {load : String → Option MethodGroup} {space : String}

/-- What counts of a name. -/
def spelling (caseSensitive : Bool) (name : String) : String :=
  if caseSensitive then name else name.map Char.toLower

/-- Whether a loader answers for a namespace with a group of it. -/
def Apt (caseSensitive : Bool) (load : String → Option MethodGroup) : Prop :=
  ∀ space group, load space = some group →
    group.space?.map (spelling caseSensitive) = some (spelling caseSensitive space)

theorem sameName_iff {left right : String} : call.sameName left right = true ↔
    spelling call.caseSensitive left = spelling call.caseSensitive right := by
  unfold sameName spelling
  split <;> exact beq_iff_eq

theorem addresses_iff : call.addresses group = true ↔
    group.space?.map (spelling call.caseSensitive) =
      call.parts.1.map (spelling call.caseSensitive) := by
  unfold addresses
  cases call.parts.1 with
  | none => cases group.space? <;> simp
  | some wanted =>
    cases group.space? with
    | none => simp
    | some actual =>
      simp only [sameName_iff, Option.map_some, Option.some.injEq]
      exact eq_comm

theorem addresses_of_apt (apt : Apt caseSensitive load)
    (sensitive : call.caseSensitive = caseSensitive) (named : call.parts.1 = some space)
    (answered : load space = some group) :
    call.addresses group = true := by
  subst sensitive
  rw [addresses_iff, apt space group answered, named, Option.map_some]

/-- A call that shares a group with another goes to every group the other goes to. -/
theorem addresses_of_shared (sensitive : call.caseSensitive = other.caseSensitive)
    (mine : call.addresses group = true) (theirs : other.addresses group = true)
    (addressed : other.addresses known = true) : call.addresses known = true := by
  rw [addresses_iff] at *
  rw [← sensitive] at theirs addressed
  rw [addressed, ← theirs, mine]

end Spelling

end MethodCall

end PathQuery
