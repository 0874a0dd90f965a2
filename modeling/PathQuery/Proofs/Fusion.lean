import PathQuery.Proofs.Memory
import PathQuery.Proofs.Sifting
import PathQuery.Proofs.ShortCircuit
import PathQuery.Proofs.Descent
import PathQuery.Proofs.Route.Tower

/-!
Filters that follow each other. Main statement: `Segment.evaluate_filters`, a list that is filtered
twice is filtered by the conjunction.
-/

namespace PathQuery

open Evaluation

/-- Whether an expression comes to a truth value in a context, wherever it comes to a value from
registries that answer as the given ones. -/
def Expression.Decides (environment : Environment) (base : Registries) (expression : Expression)
    (context : Value) (scope : Scope) : Prop :=
  ∀ registries, (base.regime environment.settings).kept registries → ∀ value,
    (outcome (expression.computed environment context scope) registries).1 = .ok value →
      ∃ b, value = .boolean b

/-- Whether a part is an expression as the operand of another. -/
inductive Part.Holds : Part → Expression → Prop
  | literal (kind : TokenKind) (b : Bool) :
      Holds (.literal kind (.boolean b)) (.literal (.boolean b))
  | expression (kind : TokenKind) (expression : Expression) :
      Holds (.expression kind expression) expression

/-- Whether a converter leaves truth values as they are. -/
def Converter.Truthful (converter : Converter) : Prop :=
  ∀ b, converter.convert (.boolean b) .boolean = .ok (.boolean b)

section Judging

variable {environment : Environment} {scope : Scope}

theorem Part.Holds.evaluate {part : Part} {expression : Expression} (holds : part.Holds expression)
    (context : Value) :
    part.evaluate environment context scope = expression.computed environment context scope := by
  cases holds with
  | literal kind b =>
    rw [Part.evaluate, Expression.computed, Expression.evaluate]
    rfl
  | expression kind => rw [Part.evaluate, Expression.computed]

namespace Evaluation

/-- Whether a filter keeps an element. -/
def judged (environment : Environment) (index : Expression) (scope : Scope) (element : Value) :
    Evaluation Bool := do
  let verdict ← index.computed environment element scope
  return keeps environment.converter verdict

theorem filtered_eq_sift (index : Expression) (elements : List Value) :
    filtered environment.converter (fun element => index.computed environment element scope)
      elements = sift (judged environment index scope) elements := by
  induction elements with
  | nil => rfl
  | cons element elements ih =>
    rw [filtered, sift, ih, judged]
    simp only [bind_assoc, pure_bind]

theorem composed_computed (index : Expression) (context : Value) :
    Composed environment (index.computed environment context scope) :=
  (index.composed environment context scope).bind fun value => .lift value.resolved

theorem composed_judged (index : Expression) (element : Value) :
    Composed environment (judged environment index scope element) :=
  (composed_computed index element).bind fun _ => .pure _

variable {converter : Converter}

theorem keeps_boolean (truthful : converter.Truthful) (b : Bool) :
    keeps converter (.boolean b) = b := by
  simp [keeps, truthful b, Value.isNull, Value.bool?]

theorem truth_of_boolean (truthful : converter.Truthful) (b : Bool) :
    truth converter (.boolean b) = b := by
  simp [truth, toBool?, truthful b, Value.isNull, Value.bool?]

/-- A filter that decides comes to a truth value, by which it keeps the element. -/
theorem exists_verdict {base : Registries}
    (governs : (base.regime environment.settings).Governs environment)
    (truthful : environment.converter.Truthful) (index : Expression) (element : Value) :
    ∃ verdict : Except EvalError Bool,
      (base.regime environment.settings).Comes (judged environment index scope element) verdict ∧
        (index.Decides environment base element scope →
          (base.regime environment.settings).Comes (index.computed environment element scope)
            (verdict.map .boolean)) := by
  have computes := governs.determined (@composed_computed environment scope index element)
  by_cases decides : index.Decides environment base element scope
  · obtain ⟨result, comes, truths⟩ := computes.comes_among decides
    have judges := comes.bind
      (fun value _ => Regime.comes_pure (keeps environment.converter value))
      fun value => Regime.spoils_pure _
    cases result with
    | error error => exact ⟨.error error, judges, fun _ => comes⟩
    | ok value =>
      obtain ⟨b, rfl⟩ := truths value rfl
      refine ⟨.ok b, ?_, fun _ => comes⟩
      rw [← keeps_boolean truthful b]
      exact judges
  · obtain ⟨verdict, judges⟩ :=
      (governs.determined (@composed_judged environment scope index element)).comes
    exact ⟨verdict, judges, fun sure => absurd sure decides⟩

variable {regime : Regime}

/-- A conjunction comes to what its operands come to, of which the right one is only asked where the
left one holds. -/
theorem comes_conjunction (executors : environment.executors = [])
    (truthful : environment.converter.Truthful) {left right : Evaluation Value}
    {first second : Except EvalError Bool} (leftComes : regime.Comes left (first.map .boolean))
    (rightComes : regime.Comes right (second.map .boolean)) (spoils : regime.Spoils right) :
    regime.Comes (do
        let left ← left
        match decided? environment.converter .logicalAnd left with
        | some value => return value
        | none =>
            let right ← right
            operated environment .logicalAnd left right)
      ((do if ← first then second else return false : Except EvalError Bool).map .boolean) := by
  have undecided : decided? environment.converter .logicalAnd (.boolean true) = none := by
    simp [decided?, truth_of_boolean truthful]
  have decided : decided? environment.converter .logicalAnd (.boolean false) =
      some (.boolean false) := by
    simp [decided?, truth_of_boolean truthful]
  have joined : ∀ c, operated environment .logicalAnd (.boolean true) (.boolean c) =
      .ok (.boolean c) := by
    intro c
    simp [operated, overloaded?, executors, applied, truth_of_boolean truthful]
  have asked : regime.Comes (right >>= fun right =>
      liftM (operated environment .logicalAnd (.boolean true) right)) (second.map .boolean) := by
    have comes := rightComes.bind (fun value _ => Regime.comes_lift
      (operated environment .logicalAnd (.boolean true) value)) fun value => Regime.spoils_lift _
    cases second with
    | error error => exact comes
    | ok c =>
      change regime.Comes _ (.ok (Value.boolean c))
      rw [← joined c]
      exact comes
  have spoilsRest : ∀ left, regime.Spoils
      (match decided? environment.converter .logicalAnd left with
        | some value => pure value
        | none => right >>= fun right =>
            liftM (operated environment .logicalAnd left right)) := by
    intro left
    split
    · exact Regime.spoils_pure _
    · exact spoils.bind fun right => Regime.spoils_lift _
  rcases first with error | _ | _
  · have fails := leftComes.bind (fun value came => show regime.Comes _ (.ok value) by cases came)
      spoilsRest
    exact fails
  · have ends := leftComes.bind (fun value came => show regime.Comes _ (.ok (Value.boolean false)) by
      cases came
      rw [decided]
      exact Regime.comes_pure _) spoilsRest
    exact ends
  · have goes := leftComes.bind (fun value came => show regime.Comes _ (second.map Value.boolean) by
      cases came
      rw [undecided]
      exact asked) spoilsRest
    exact goes

theorem comes_joined (executors : environment.executors = [])
    (truthful : environment.converter.Truthful) (governs : regime.Governs environment)
    {left right : Part} {first second : Expression} (spelling : String)
    (leftHolds : left.Holds first) (rightHolds : right.Holds second) {element : Value}
    {firsts seconds : Value → Except EvalError Bool}
    (leftComes : regime.Comes (first.computed environment element scope)
      ((firsts element).map .boolean))
    (rightComes : regime.Comes (second.computed environment element scope)
      ((seconds element).map .boolean)) :
    regime.Comes (judged environment (.joined .conjunction left spelling right) scope element)
      ((conjoin firsts seconds element).mapError fun error =>
        error.within (Expression.joined .conjunction left spelling right).text) := by
  have taken : TokenKind.logicalAnd.takesLeft = true ∧ TokenKind.logicalAnd.takesRight = true :=
    ⟨rfl, rfl⟩
  have body := comes_conjunction executors truthful leftComes rightComes
    (governs.determined (composed_computed second element)).spoils
  have computes :=
    (body.within fun _ => (Expression.joined .conjunction left spelling right).text).bind
      (fun value _ => Regime.comes_lift value.resolved) fun value => Regime.spoils_lift _
  have judges := computes.bind
    (fun verdict _ => Regime.comes_pure (keeps environment.converter verdict))
    fun verdict => Regime.spoils_pure _
  rw [judged, Expression.computed, Expression.joined, Expression.evaluate]
  simp only [Connective.kind, taken, Part.operand, if_true, leftHolds.evaluate, rightHolds.evaluate]
  rw [conjoin]
  generalize (do if ← firsts element then seconds element else return false :
    Except EvalError Bool) = verdict at judges ⊢
  cases verdict with
  | error error => exact judges
  | ok b =>
    change regime.Comes _ (.ok b)
    rw [← keeps_boolean truthful b]
    exact judges

end Evaluation

end Judging

section Elements

variable {α β ε : Type}

theorem exists_of_mapM_eq_ok {f : α → Except ε β} {values : List α} {results : List β}
    (came : values.mapM f = .ok results) :
    ∀ result ∈ results, ∃ value ∈ values, f value = .ok result := by
  induction values generalizing results with
  | nil =>
    cases came
    simp
  | cons value values ih =>
    rw [List.mapM_cons] at came
    obtain ⟨first, found, came⟩ := Tiers.bind_eq_ok.mp came
    obtain ⟨others, rest, same⟩ := Tiers.bind_eq_ok.mp came
    cases same
    rw [List.forall_mem_cons]
    refine ⟨⟨value, List.mem_cons_self, found⟩, fun result member => ?_⟩
    obtain ⟨source, inside, found⟩ := ih rest result member
    exact ⟨source, List.mem_cons_of_mem _ inside, found⟩

theorem Evaluation.elementsOf_array {elements : List Value}
    (settled : ∀ element ∈ elements, element.resolved = .ok element) :
    elementsOf (.array elements) = .ok elements := by
  change elements.mapM Value.resolved = .ok elements
  induction elements with
  | nil => rfl
  | cons element elements ih =>
    rw [List.forall_mem_cons] at settled
    rw [List.mapM_cons, settled.1, ih settled.2]
    rfl

/-- The elements of a list are those that it holds, computed. -/
theorem Evaluation.exists_of_elementsOf {value : Value} {elements found : List Value}
    (isList : value.elements? = some elements) (came : elementsOf value = .ok found) :
    ∀ result ∈ found, ∃ element ∈ elements, element.resolved = .ok result := by
  rw [elementsOf, isList] at came
  exact exists_of_mapM_eq_ok came

end Elements

namespace Segment

variable {environment : Environment} {value origin : Value} {concatenated : Bool} {scope : Scope}
  {elements : List Value}

theorem descend_sift {index : Expression} (filters : isPositional index = false)
    (held : value.elements? = some elements) (segments : List Segment) :
    descend environment (.expression index :: segments) value origin concatenated scope = (do
      let elements ← elementsOf value
      let kept ← sift (judged environment index scope) elements
      descend environment segments (.array kept) origin true scope) := by
  rw [descend_filter filters held]
  simp only [filtered_eq_sift]

/-- What a filter keeps of computed elements has been computed already. -/
theorem outcome_sift_twice {first second : Expression} {found : List Value}
    (filters : isPositional first = false) (filtersToo : isPositional second = false)
    (isList : value.elements? = some elements) (came : elementsOf value = .ok found)
    (settled : ∀ element ∈ found, element.resolved = .ok element) (rest : List Segment)
    (registries : Registries) :
    outcome (descend environment (.expression first :: .expression second :: rest) value origin
        concatenated scope) registries =
      outcome (sift (judged environment first scope) found >>= fun kept =>
        sift (judged environment second scope) kept >>= fun kept =>
          descend environment rest (.array kept) origin true scope) registries := by
  simp only [descend_sift filters isList, came, lift_ok_bind]
  refine outcome_bind_congr fun kept after sifted => ?_
  have still : ∀ element ∈ kept, element.resolved = .ok element :=
    fun element member => settled element ((sublist_of_sift sifted).subset member)
  rw [descend_sift filtersToo rfl, elementsOf_array still, lift_ok_bind]

/-- Two filters and their conjunction leave the same of a list, or both fail. -/
theorem outcome_filters {base : Registries}
    (governs : (base.regime environment.settings).Governs environment)
    (executors : environment.executors = []) (truthful : environment.converter.Truthful)
    {first second : Expression} (filters : isPositional first = false)
    (filtersToo : isPositional second = false) {left right : Part} (spelling : String)
    (leftHolds : left.Holds first) (rightHolds : right.Holds second)
    (isList : value.elements? = some elements) (prompt : ∀ element ∈ elements, element.Prompt)
    (decides : ∀ element ∈ elements, ∀ value, element.resolved = .ok value →
      first.Decides environment base value scope ∧ second.Decides environment base value scope)
    (rest : List Segment) {registries : Registries}
    (kept : (base.regime environment.settings).kept registries) :
    let twice := outcome (descend environment (.expression first :: .expression second :: rest) value
      origin concatenated scope) registries
    let once := outcome (descend environment
      (.expression (.joined .conjunction left spelling right) :: rest) value origin concatenated
        scope) registries
    ¬(base.regime environment.settings).spoiled twice.2 →
      ¬(base.regime environment.settings).spoiled once.2 →
        ∀ result, twice.1 = .ok result ↔ once.1 = .ok result := by
  intro twice once
  have joins : isPositional (.joined .conjunction left spelling right) = false := by rfl
  cases came : elementsOf value with
  | error error =>
    have failed : twice = (.error error, registries) ∧ once = (.error error, registries) := by
      simp only [twice, once, descend_sift filters isList, descend_sift joins isList, came]
      exact ⟨rfl, rfl⟩
    simp [failed]
  | ok found =>
    have source := exists_of_elementsOf isList came
    have settled : ∀ element ∈ found, element.resolved = .ok element := by
      intro element member
      obtain ⟨held, inside, resolved⟩ := source element member
      exact prompt held inside element resolved
    have twiceEq : twice = _ :=
      outcome_sift_twice filters filtersToo isList came settled rest registries
    have onceEq : once = outcome (sift (judged environment (.joined .conjunction left spelling right)
        scope) found >>= fun kept =>
          descend environment rest (.array kept) origin true scope) registries := by
      simp only [once, descend_sift joins isList, came, lift_ok_bind]
    rw [twiceEq, onceEq]
    have decided : ∀ element ∈ found, first.Decides environment base element scope ∧
        second.Decides environment base element scope := by
      intro element member
      obtain ⟨held, inside, resolved⟩ := source element member
      exact decides held inside element resolved
    choose firsts judges computes using @exists_verdict environment scope base governs truthful first
    choose seconds judgesToo computesToo using
      @exists_verdict environment scope base governs truthful second
    have spoils := fun index element =>
      (governs.determined (@composed_judged environment scope index element)).spoils
    have conjoined := fun element (member : element ∈ found) =>
      comes_joined executors truthful governs spelling leftHolds rightHolds
        (computes element (decided element member).1)
        (computesToo element (decided element member).2)
    have behind := fun kept => governs.determined
      ((Segment.composed environment rest).descend (.array kept) origin true scope)
    exact Regime.outcome_sift_sift (spoils first) (spoils second) (spoils _) judges judgesToo
      conjoined behind kept

/-- A list that is filtered twice comes to the same as one that is filtered by the conjunction, or
both fail, if the operands of the conjunction decide and no host objects are met. -/
theorem evaluate_filters {environment : Environment} (executors : environment.executors = [])
    (truthful : environment.converter.Truthful) {registries : Registries}
    (steady : registries.methods.Steady environment.settings) {segment : Segment}
    {context list : Value} {scope : Scope} {elements : List Value}
    (held : (outcome ((Expression.path [segment]).evaluate environment context scope)
      registries).1 = .ok list)
    (isList : list.elements? = some elements) (prompt : ∀ element ∈ elements, element.Prompt)
    {first second : Expression} (filters : isPositional first = false)
    (filtersToo : isPositional second = false)
    (decides : ∀ element ∈ elements, ∀ value, element.resolved = .ok value →
      first.Decides environment registries value (scope.enter context) ∧
        second.Decides environment registries value (scope.enter context))
    {left right : Part} (leftHolds : left.Holds first) (rightHolds : right.Holds second)
    (spelling : String) (rest : List Segment) :
    let run := fun segments => outcome
      ((Expression.path (segment :: segments)).evaluate environment context scope) registries
    let twice := run (.expression first :: .expression second :: rest)
    let once := run (.expression (.joined .conjunction left spelling right) :: rest)
    registries.accessors.MeetsNoHosts twice.2.accessors →
      registries.accessors.MeetsNoHosts once.2.accessors →
        ∀ value, twice.1 = .ok value ↔ once.1 = .ok value := by
  intro run twice once meets meetsOnce value
  obtain ⟨after, came⟩ := exists_outcome held
  obtain ⟨origin, goes⟩ := Segment.outcome_of_evaluate came
  have governs := @Registries.governs_regime environment registries steady
  have unspoiled := @Registries.not_spoiled_of_meetsNoHosts environment.settings registries
  have clean := unspoiled meets
  have cleanOnce := unspoiled meetsOnce
  simp only [twice, once, run, goes, outcome_within_snd, outcome_within_eq_ok_iff]
    at clean cleanOnce ⊢
  have cleanAfter : ¬(registries.regime environment.settings).spoiled after := fun spoiled =>
    clean ((governs.determined ((Segment.composed environment _).descend list origin false
      (scope.enter context))).spoils after spoiled)
  have kept := (governs.determined (Expression.composed environment _ context scope)).keeps
    Registries.kept_base came cleanAfter
  exact outcome_filters governs executors truthful filters filtersToo spelling leftHolds rightHolds
    isList prompt decides rest kept clean cleanOnce value

end Segment

/-- Chains of `and` and `or` decide. -/
theorem Evaluation.decides_joined {environment : Environment} (unextended : environment.Unextended)
    (base : Registries) (connective : Connective) (left : Part) (spelling : String) (right : Part)
    (context : Value) (scope : Scope) :
    (Expression.joined connective left spelling right).Decides environment base context scope := by
  intro registries _ value came
  have alike : Alike ((Expression.joined connective left spelling right).evaluate environment
      context scope)
      (.boolean <$> connective.truthOf environment [left, right] context scope) :=
    evaluate_of_alike unextended connective context scope spelling
      (truth_operand unextended connective context scope (.leaf left))
      (truth_operand unextended connective context scope (.leaf right))
  have alike := alike registries
  rw [Expression.computed, outcome_bind] at came
  rw [map_eq_pure_bind, outcome_bind] at alike
  generalize outcome ((Expression.joined connective left spelling right).evaluate environment context
    scope) registries = ran at came alike
  generalize outcome (connective.truthOf environment _ context scope) registries = found at alike
  rcases ran with ⟨error | result, after⟩
  · cases came
  · rcases found with ⟨error | b, last⟩
    · cases alike
    · cases alike
      exact ⟨b, (Except.ok.inj came).symm⟩

/-- An operand that is a path of one name. -/
def Part.ofName (name : String) : Part :=
  .expression .expression (.path [.name name])

theorem Segment.evaluate_filters_of_rows :
    let first := Expression.joined .conjunction (.ofName "open") "and"
      (.literal .trueLiteral (.boolean true))
    let second := Expression.joined .disjunction (.ofName "late") "or"
      (.literal .falseLiteral (.boolean false))
    let both := Expression.joined .conjunction (.expression .expression first) "and"
      (.expression .expression second)
    let rows := [Value.object [("late", .boolean true), ("open", .boolean true)],
      .object [("late", .boolean true)]]
    let context := Value.object [("rows", .array rows)]
    let run := fun segments => outcome
      ((Expression.path (.name "rows" :: segments)).evaluate {} context {}) settled
    let twice := run [.expression first, .expression second, .name "open"]
    let once := run [.expression both, .name "open"]
    (run []).1 = .ok (.array rows) ∧ (∀ row ∈ rows, row.Prompt) ∧
      (∀ value, first.Decides {} settled value (Scope.enter {} context) ∧
        second.Decides {} settled value (Scope.enter {} context)) ∧
      settled.accessors.MeetsNoHosts twice.2.accessors ∧
      settled.accessors.MeetsNoHosts once.2.accessors ∧
      ∀ value, twice.1 = .ok value ↔ once.1 = .ok value := by
  intro first second both rows context run twice once
  have unextended : Environment.Unextended {} := ⟨rfl, rfl, fun _ _ _ => rfl⟩
  have held : (run []).1 = .ok (.array rows) := by with_unfolding_all rfl
  have prompt : ∀ row ∈ rows, row.Prompt := by
    intro row member value came
    simp only [rows, List.mem_cons, List.not_mem_nil, or_false] at member
    rcases member with rfl | rfl <;> cases came <;> rfl
  have decides : ∀ value, first.Decides {} settled value (Scope.enter {} context) ∧
      second.Decides {} settled value (Scope.enter {} context) := fun value =>
    ⟨decides_joined unextended settled _ _ _ _ _ _, decides_joined unextended settled _ _ _ _ _ _⟩
  have steady : settled.methods.Steady {} :=
    MethodRegistry.steady_of_impartial fun loads => by cases loads
  have meets : settled.accessors.MeetsNoHosts twice.2.accessors := by
    have same : twice.2.accessors = settled.accessors := by with_unfolding_all rfl
    rw [same]
    exact fun _ none => none
  have meetsOnce : settled.accessors.MeetsNoHosts once.2.accessors := by
    have same : once.2.accessors = settled.accessors := by with_unfolding_all rfl
    rw [same]
    exact fun _ none => none
  refine ⟨held, prompt, decides, meets, meetsOnce, ?_⟩
  exact Segment.evaluate_filters rfl (fun _ => rfl) steady held rfl prompt rfl rfl
    (fun _ _ value _ => decides value) (.expression _ _) (.expression _ _) "and" [.name "open"] meets
    meetsOnce

/-- A loader that answers differently for two spellings of a namespace. -/
def spelled (space : String) : Option MethodGroup :=
  if space = "v" then some ⟨some "v", [⟨"g", [], fun _ => .ok (.boolean true)⟩,
    ⟨"f", [], fun _ => .ok (.boolean false)⟩]⟩
  else if space = "V" then some ⟨some "V", [⟨"g", [], fun _ => .ok (.boolean true)⟩,
    ⟨"f", [], fun _ => .ok (.boolean true)⟩]⟩
  else none

/-- A converter that turns truth values round. -/
def Converter.opposite : Converter where
  convert
    | .boolean b, _ => .ok (.boolean !b)
    | value, _ => .ok value
  canConvert _ _ := true

/-- Which of two spellings of a namespace is loaded depends on which filter is asked first, and a
converter may turn verdicts round. -/
theorem Segment.evaluate_filters_ne :
    let context := Value.object [("a", .array [.boolean true, .boolean false])]
    let path := fun segments => Expression.path (.name "a" :: segments)
    let call := fun name => Part.expression .expression (.call (.name name) [])
    let first := Expression.joined .disjunction (.ofName "$this") "or" (call "v.g")
    let second := Expression.joined .conjunction (call "V.f") "and"
      (.literal .trueLiteral (.boolean true))
    let both := Expression.joined .conjunction (.expression .expression first) "and"
      (.expression .expression second)
    let environment : Environment :=
      { settings := { anyNamespace := true, caseSensitiveMethods := false } }
    let run := fun segments => (outcome ((path segments).evaluate environment context {})
      { methods := { load := spelled } }).1.toOption.map Value.text
    let never := Expression.literal (.boolean false)
    let neither := Expression.joined .conjunction (.literal .falseLiteral (.boolean false)) "and"
      (.literal .falseLiteral (.boolean false))
    let turned := fun segments => (outcome
      ((path segments).evaluate { converter := .opposite } context {})
      settled).1.toOption.map Value.text
    (∀ base value scope, first.Decides environment base value scope ∧
      second.Decides environment base value scope) ∧
      run [.expression first, .expression second] = some "[]" ∧
      run [.expression both] = some "[true, false]" ∧
      turned [.expression never, .expression never] = some "[true, false]" ∧
      turned [.expression neither] = some "[]" := by
  intro context path call first second both environment run never neither turned
  have unextended : environment.Unextended := ⟨rfl, rfl, fun _ _ _ => rfl⟩
  refine ⟨fun base value scope => ⟨?_, ?_⟩, ?_, ?_, ?_, ?_⟩
  · exact decides_joined unextended base _ _ _ _ _ _
  · exact decides_joined unextended base _ _ _ _ _ _
  · decide +kernel
  · decide +kernel
  · decide +kernel
  · decide +kernel

end PathQuery
