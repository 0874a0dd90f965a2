import PathQuery.Evaluation
import PathQuery.Proofs.Outcome

/-!
Paths of names and `..`, and the stack of contexts on which they are meant to run: a name is read
from the top and its value pushed, `..` pops, and a leading slash drops what lies above the root.
-/

namespace PathQuery

/-- A step of a path without brackets. -/
inductive Step where
  | up
  | name (name : String)
deriving DecidableEq

namespace Step

/-- Whether a name has no meaning as a step of another kind. -/
def Plain (name : String) : Prop :=
  name ≠ "." ∧ name ≠ ".." ∧ name.toList.head? ≠ some '/'

instance (name : String) : Decidable (Plain name) := by
  unfold Plain
  infer_instance

def segment : Step → Segment
  | .up => .name ".."
  | .name key => .name key

/-- Runs steps on a stack of contexts, of which the top is given apart, and answers the value that
was read last. -/
def run (environment : Environment) : List Step → Value → List Value → Value → Evaluation Value
  | [], _, _, last => return last
  | .up :: _, _, [], _ => throw .invalidContext
  | .up :: steps, _, parent :: below, last => run environment steps parent below last
  | .name key :: steps, top, below, _ => do
      let value ← Evaluation.read environment key top
      run environment steps value (top :: below) value

/-- Whether each value that a run reads before the last name is accepted. -/
def Reads (accepted : Value → Prop) (environment : Environment) :
    List Step → Value → List Value → Registries → Prop
  | [], _, _, _ => True
  | .up :: _, _, [], _ => True
  | .up :: steps, _, parent :: below, registries =>
      Reads accepted environment steps parent below registries
  | .name key :: steps, top, below, registries =>
      ∀ value after,
        Evaluation.outcome (Evaluation.read environment key top) registries = (.ok value, after) →
          (steps ≠ [] → accepted value) ∧
            Reads accepted environment steps value (top :: below) after

theorem reads_of_read {accepted : Value → Prop} {environment : Environment} {key : String}
    {steps : List Step} {top value : Value} {below : List Value} {registries after : Registries}
    (found : Evaluation.outcome (Evaluation.read environment key top) registries =
      (.ok value, after))
    (accepts : steps ≠ [] → accepted value)
    (rest : Reads accepted environment steps value (top :: below) after) :
    Reads accepted environment (.name key :: steps) top below registries := by
  intro other next result
  obtain ⟨rfl, rfl⟩ : value = other ∧ after = next := by
    rw [found] at result
    simpa using result
  exact ⟨accepts, rest⟩

/-- Whether `..` leads to the same contexts as on a stack. A name enters its value inside of all that
was entered before, also of what `..` has left, so after a run of `..` one can only go back to names
behind it. The count says how many frames around the present one are those of the stack, `none` if
all are, and the flag whether the last step went up. -/
def tracked : Option Nat → Bool → List Step → Bool
  | _, _, [] => true
  | none, _, .up :: steps => tracked none true steps
  | some 0, _, .up :: _ => false
  | some (count + 1), _, .up :: steps => tracked (some count) true steps
  | count, climbed, .name _ :: steps =>
      tracked (if climbed then some 0 else count.map (· + 1)) false steps

def keys (steps : List Step) : List String :=
  steps.filterMap fun
    | .up => none
    | .name key => some key

theorem mem_keys {steps : List Step} {key : String} (member : .name key ∈ steps) :
    key ∈ keys steps :=
  List.mem_filterMap.mpr ⟨_, member, rfl⟩

theorem ending_of_cons {step : Step} {steps : List Step}
    (ending : (step :: steps).getLast? ≠ some .up) : steps.getLast? ≠ some .up := by
  cases steps with
  | nil => simp
  | cons next steps => rwa [List.getLast?_cons_of_ne_nil (List.cons_ne_nil _ _)] at ending

theorem ne_nil_of_ending {steps : List Step} (ending : (up :: steps).getLast? ≠ some .up) :
    steps ≠ [] := by
  rintro rfl
  exact ending rfl

end Step

/-- A path of names and `..` that does not end with `..`; a leading slash stands before a name. -/
structure Route where
  absolute : Bool
  steps : List Step
  plain : ∀ key ∈ Step.keys steps, Step.Plain key
  ending : steps.getLast? ≠ some .up
  beginning : absolute = true → ∃ key, steps.head? = some (.name key)

namespace Route

/-- The segments of a path, of which the first takes the slash. -/
def segments (route : Route) : List Segment :=
  match route.absolute, route.steps with
  | true, .name key :: steps => .name ("/" ++ key) :: steps.map Step.segment
  | _, steps => steps.map Step.segment

def expression (route : Route) : Expression :=
  .path route.segments

/-- The frames that a path starts from, the innermost first. -/
def start (route : Route) (scope : Scope) : List Frame :=
  if route.absolute then Scope.fromRoot scope.frames else scope.frames

/-- What a path comes to on a stack that begins with the contexts around it. -/
def onStack (environment : Environment) (route : Route) (context : Value) (scope : Scope) :
    Evaluation Value :=
  match (route.start (scope.enter context)).map Frame.value with
  | [] => throw .invalidContext
  | top :: below => Step.run environment route.steps top below .null

/-- Whether each value that a path reads before its last name on a stack is accepted. -/
def Reads (accepted : Value → Prop) (environment : Environment) (route : Route) (context : Value)
    (scope : Scope) (registries : Registries) : Prop :=
  match (route.start (scope.enter context)).map Frame.value with
  | [] => True
  | top :: below => Step.Reads accepted environment route.steps top below registries

/-- Whether `..` always leads to the same context as on a stack: every run of `..` but the first has
fewer steps than the run of names before it, and so has the first behind a leading slash. -/
def tracked (route : Route) : Bool :=
  Step.tracked none route.absolute route.steps

end Route

end PathQuery
