import Mathlib.Data.Set.Card
import PathQuery.Proofs.Acceptance

/-!
What a parser keeps in the course of calls. It answers what its settings make of a text, whatever
was asked before, and answers the same instance again until the cache is cleared. Main statement:
`Parser.parse_transparent`.
-/

namespace PathQuery.Parser

/-- What is asked of a parser. -/
inductive Call where
  | parse (text : String)
  | parseUncached (text : String)
  | validate (parts : List Part)
  | clear

/-- The parser after a call. Validation only reads the settings. -/
def after (parser : Parser) : Call → Parser
  | .parse text => (parser.parse text).2
  | .parseUncached text => (parser.parseUncached text).2
  | .validate _ => parser
  | .clear => parser.clear

/-- A new parser after some calls. -/
def afterAll (options : ParserOptions) (calls : List Call) : Parser :=
  calls.foldl after { options }

/-- Whether a text has been parsed with success, by a call that fills the cache, since the last time
that the cache was cleared. -/
def Parsed (options : ParserOptions) (calls : List Call) (text : String) : Prop :=
  ∃ before later tree, calls = before ++ .parse text :: later ∧ .clear ∉ later ∧
    ((afterAll options before).parse text).1 = .ok tree

section Steps

variable {parser : Parser} {text : String} {call : Call}

theorem parse_of_kept {tree : Tree} (kept : parser.cache.lookup text = some tree) :
    parser.parse text = (.ok tree, parser) := by
  rw [parse, kept]

theorem parse_of_accepted {expression : Expression} (fresh : parser.cache.lookup text = none)
    (accepted : parse? parser.options text = .ok expression) :
    parser.parse text = (.ok ⟨parser.made, expression⟩,
      { parser with
        cache := (text, ⟨parser.made, expression⟩) :: parser.cache, made := parser.made + 1 }) := by
  simp only [parse, fresh, parseUncached, accepted]

theorem parse_of_refused {error : ParseError} (fresh : parser.cache.lookup text = none)
    (refused : parse? parser.options text = .error error) :
    parser.parse text = (.error error, parser) := by
  simp only [parse, fresh, parseUncached, refused]

/-- What a call can do to a parser. -/
inductive Effect (parser : Parser) : Call → Parser → Prop
  | none {call : Call} : call ≠ .clear → Effect parser call parser
  | made {call : Call} : call ≠ .clear → Effect parser call { parser with made := parser.made + 1 }
  | kept {text : String} {expression : Expression} : parser.cache.lookup text = .none →
      parse? parser.options text = .ok expression →
      Effect parser (.parse text)
        { parser with
          cache := (text, ⟨parser.made, expression⟩) :: parser.cache, made := parser.made + 1 }
  | clear : Effect parser .clear parser.clear

theorem effect (parser : Parser) (call : Call) : parser.Effect call (parser.after call) := by
  cases call with
  | parse text =>
    rw [after]
    cases known : parser.cache.lookup text with
    | some tree =>
      rw [parse_of_kept known]
      exact .none nofun
    | none =>
      cases result : parse? parser.options text with
      | ok expression =>
        rw [parse_of_accepted known result]
        exact .kept known result
      | error error =>
        rw [parse_of_refused known result]
        exact .none nofun
  | parseUncached text =>
    rw [after, parseUncached]
    cases parse? parser.options text with
    | ok expression => exact .made nofun
    | error error => exact .none nofun
  | validate parts => exact .none nofun
  | clear => exact .clear

@[simp] theorem options_after : (parser.after call).options = parser.options := by
  have effect := parser.effect call
  generalize parser.after call = next at effect
  cases effect <;> rfl

/-- Whether a parser keeps each text once, with the expression that its settings make of it, and
each instance once. -/
structure Coherent (parser : Parser) : Prop where
  texts : (parser.cache.map Prod.fst).Nodup
  instances : (parser.cache.map fun entry => entry.2.identity).Nodup
  made : ∀ entry ∈ parser.cache, entry.2.identity < parser.made
  accepted : ∀ entry ∈ parser.cache, parse? parser.options entry.1 = .ok entry.2.expression

theorem not_mem_texts (fresh : parser.cache.lookup text = none) :
    text ∉ parser.cache.map Prod.fst := by
  intro member
  obtain ⟨entry, present, rfl⟩ := List.mem_map.mp member
  simpa using List.lookup_eq_none_iff.mp fresh entry present

theorem mem_cache_of_lookup {tree : Tree} (kept : parser.cache.lookup text = some tree) :
    (text, tree) ∈ parser.cache := by
  obtain ⟨front, back, whole, -⟩ := List.lookup_eq_some_iff.mp kept
  simp [whole]

theorem Coherent.after (coherent : parser.Coherent) : (parser.after call).Coherent := by
  have effect := parser.effect call
  generalize parser.after call = next at effect
  cases effect with
  | none => exact coherent
  | made =>
    refine ⟨coherent.texts, coherent.instances, fun entry member => ?_, coherent.accepted⟩
    exact Nat.lt_succ_of_lt (coherent.made entry member)
  | kept fresh accepted =>
    refine ⟨?_, ?_, ?_, ?_⟩
    · exact List.nodup_cons.mpr ⟨not_mem_texts fresh, coherent.texts⟩
    · refine List.nodup_cons.mpr ⟨fun member => ?_, coherent.instances⟩
      obtain ⟨entry, present, same⟩ := List.mem_map.mp member
      exact absurd same (Nat.ne_of_lt (coherent.made entry present))
    · refine List.forall_mem_cons.mpr ⟨Nat.lt_succ_self _, fun entry member => ?_⟩
      exact Nat.lt_succ_of_lt (coherent.made entry member)
    · exact List.forall_mem_cons.mpr ⟨accepted, coherent.accepted⟩
  | clear => exact ⟨.nil, .nil, nofun, nofun⟩

/-- Whether everything that a later parser keeps was kept by an earlier one or made since. -/
structure Follows (earlier later : Parser) : Prop where
  made : earlier.made ≤ later.made
  kept : ∀ entry ∈ later.cache, entry ∈ earlier.cache ∨ earlier.made ≤ entry.2.identity

theorem follows_after (parser : Parser) (call : Call) : Follows parser (parser.after call) := by
  have effect := parser.effect call
  generalize parser.after call = next at effect
  cases effect with
  | none => exact ⟨Nat.le_refl _, fun entry => .inl⟩
  | made => exact ⟨Nat.le_succ _, fun entry => .inl⟩
  | kept =>
    refine ⟨Nat.le_succ _, List.forall_mem_cons.mpr ⟨.inr (Nat.le_refl _), fun entry => .inl⟩⟩
  | clear => exact ⟨Nat.le_refl _, nofun⟩

theorem Follows.trans {earlier between later : Parser} (first : Follows earlier between)
    (second : Follows between later) : Follows earlier later := by
  refine ⟨first.made.trans second.made, fun entry member => ?_⟩
  rcases second.kept entry member with kept | made
  · exact first.kept entry kept
  · exact .inr (first.made.trans made)

theorem mem_cache_after {entry : String × Tree} (member : entry ∈ parser.cache)
    (keeps : call ≠ .clear) : entry ∈ (parser.after call).cache := by
  have effect := parser.effect call
  generalize parser.after call = next at effect
  cases effect with
  | none | made => exact member
  | kept => exact List.mem_cons_of_mem _ member
  | clear => exact absurd rfl keeps

theorem mem_cache_of_parse {tree : Tree} (answered : (parser.parse text).1 = .ok tree) :
    (text, tree) ∈ (parser.parse text).2.cache := by
  cases known : parser.cache.lookup text with
  | some kept =>
    rw [parse_of_kept known] at answered ⊢
    obtain rfl := Except.ok.inj answered
    exact mem_cache_of_lookup known
  | none =>
    cases result : parse? parser.options text with
    | ok expression =>
      rw [parse_of_accepted known result] at answered ⊢
      obtain rfl := Except.ok.inj answered
      exact List.mem_cons_self
    | error error =>
      rw [parse_of_refused known result] at answered
      cases answered

/-- A parser keeps the texts that it kept before, unless it is cleared, and one that is parsed. -/
theorem mem_texts_after : text ∈ (parser.after call).cache.map Prod.fst ↔
    call ≠ .clear ∧ text ∈ parser.cache.map Prod.fst ∨
      call = .parse text ∧ ∃ tree, (parser.parse text).1 = .ok tree := by
  constructor
  · intro member
    obtain ⟨entry, present, rfl⟩ := List.mem_map.mp member
    have effect := parser.effect call
    generalize same : parser.after call = next at effect present
    cases effect with
    | none keeps | made keeps => exact .inl ⟨keeps, List.mem_map_of_mem present⟩
    | kept fresh accepted =>
      rcases List.mem_cons.mp present with rfl | present
      · exact .inr ⟨rfl, _, congrArg Prod.fst (parse_of_accepted fresh accepted)⟩
      · exact .inl ⟨nofun, List.mem_map_of_mem present⟩
    | clear => cases present
  · rintro (⟨keeps, member⟩ | ⟨rfl, tree, answered⟩)
    · obtain ⟨entry, present, rfl⟩ := List.mem_map.mp member
      exact List.mem_map_of_mem (mem_cache_after present keeps)
    · exact List.mem_map_of_mem (f := Prod.fst) (mem_cache_of_parse answered)

end Steps

section Runs

variable {options : ParserOptions} {calls : List Call} {parser : Parser} {text : String}

theorem afterAll_snoc (call : Call) :
    afterAll options (calls ++ [call]) = (afterAll options calls).after call := by
  rw [afterAll, List.foldl_append]
  rfl

theorem Coherent.foldl (coherent : parser.Coherent) :
    (calls.foldl Parser.after parser).Coherent := by
  induction calls generalizing parser with
  | nil => exact coherent
  | cons call calls ih => exact ih coherent.after

theorem coherent_afterAll (options : ParserOptions) (calls : List Call) :
    (afterAll options calls).Coherent :=
  Coherent.foldl ⟨.nil, .nil, nofun, nofun⟩

theorem options_afterAll : (afterAll options calls).options = options := by
  induction calls using List.reverseRecOn with
  | nil => rfl
  | append_singleton calls call ih => rw [afterAll_snoc, options_after, ih]

theorem follows_foldl (parser : Parser) (calls : List Call) :
    Follows parser (calls.foldl after parser) := by
  induction calls generalizing parser with
  | nil => exact ⟨Nat.le_refl _, fun entry => .inl⟩
  | cons call calls ih => exact (follows_after parser call).trans (ih _)

theorem mem_cache_foldl {entry : String × Tree} (member : entry ∈ parser.cache)
    (keeps : .clear ∉ calls) : entry ∈ (calls.foldl after parser).cache := by
  induction calls generalizing parser with
  | nil => exact member
  | cons call calls ih =>
    obtain ⟨first, others⟩ := not_or.mp (mt List.mem_cons.mpr keeps)
    exact ih (mem_cache_after member (Ne.symm first)) others

/-- What is kept after the cache was cleared was made since. -/
theorem made_le_of_cleared (cleared : .clear ∈ calls) {entry : String × Tree}
    (member : entry ∈ (calls.foldl after parser).cache) : parser.made ≤ entry.2.identity := by
  obtain ⟨before, later, rfl⟩ := List.append_of_mem cleared
  rw [List.foldl_append, List.foldl_cons] at member
  have earlier := (follows_foldl parser before).made
  rcases (follows_foldl _ later).kept entry member with kept | made
  · cases kept
  · exact earlier.trans made

theorem parsed_snoc {call : Call} : Parsed options (calls ++ [call]) text ↔
    call ≠ .clear ∧ Parsed options calls text ∨
      call = .parse text ∧ ∃ tree, ((afterAll options calls).parse text).1 = .ok tree := by
  constructor
  · rintro ⟨before, later, tree, whole, uncleared, answered⟩
    rcases List.eq_nil_or_concat later with rfl | ⟨others, last, rfl⟩
    · obtain ⟨rfl, same⟩ := List.append_inj' whole rfl
      exact .inr ⟨(List.cons.inj same).1, tree, answered⟩
    · rw [List.concat_eq_append] at whole uncleared
      rw [← List.cons_append, ← List.append_assoc] at whole
      obtain ⟨rfl, same⟩ := List.append_inj' whole rfl
      obtain rfl := (List.cons.inj same).1
      simp only [List.mem_append, List.mem_singleton, not_or] at uncleared
      exact .inl ⟨Ne.symm uncleared.2, before, others, tree, rfl, uncleared.1, answered⟩
  · rintro (⟨keeps, before, later, tree, rfl, uncleared, answered⟩ | ⟨rfl, tree, answered⟩)
    · refine ⟨before, later ++ [call], tree, by simp, ?_, answered⟩
      simpa [Ne.symm keeps] using uncleared
    · exact ⟨calls, [], tree, rfl, List.not_mem_nil, answered⟩

theorem mem_texts_afterAll :
    text ∈ (afterAll options calls).cache.map Prod.fst ↔ Parsed options calls text := by
  induction calls using List.reverseRecOn with
  | nil =>
    refine iff_of_false List.not_mem_nil ?_
    rintro ⟨before, later, tree, whole, -⟩
    simp at whole
  | append_singleton calls call ih => rw [afterAll_snoc, mem_texts_after, parsed_snoc, ih]

theorem cachedCount_afterAll (options : ParserOptions) (calls : List Call) :
    {text | Parsed options calls text}.encard = (afterAll options calls).cachedCount := by
  have texts : {text | Parsed options calls text} =
      ((afterAll options calls).cache.map Prod.fst).toFinset := by
    ext text
    rw [Finset.mem_coe, List.mem_toFinset]
    exact mem_texts_afterAll.symm
  rw [texts, Set.encard_coe_eq_coe_finsetCard,
    List.toFinset_card_of_nodup (coherent_afterAll options calls).texts, List.length_map,
    cachedCount]

end Runs

section Answers

variable {options : ParserOptions} {parser : Parser} {text other : String} {first second : Tree}

theorem expression_of_parse (coherent : parser.Coherent) (text : String) :
    (parser.parse text).1.map Tree.expression = parse? parser.options text := by
  cases known : parser.cache.lookup text with
  | some tree =>
    rw [parse_of_kept known, coherent.accepted _ (mem_cache_of_lookup known)]
    rfl
  | none =>
    cases result : parse? parser.options text with
    | ok expression =>
      rw [parse_of_accepted known result]
      rfl
    | error error =>
      rw [parse_of_refused known result]
      rfl

theorem expression_of_parseUncached (parser : Parser) (text : String) :
    (parser.parseUncached text).1.map Tree.expression = parse? parser.options text := by
  rw [parseUncached]
  cases parse? parser.options text <;> rfl

theorem Coherent.eq_iff (coherent : parser.Coherent) (kept : (text, first) ∈ parser.cache)
    (keptOther : (other, second) ∈ parser.cache) :
    first.identity = second.identity ↔ text = other := by
  constructor
  · intro same
    exact congrArg Prod.fst (List.inj_on_of_nodup_map coherent.instances kept keptOther same)
  · intro same
    have entries := List.inj_on_of_nodup_map coherent.texts kept keptOther same
    exact congrArg (·.2.identity) entries

/-- Two answers are the same instance just when they are for the same text and the cache was not
cleared in between. -/
theorem identity_eq_iff (coherent : parser.Coherent) (between : List Call)
    (answered : (parser.parse text).1 = .ok first)
    (again : ((between.foldl after (parser.after (.parse text))).parse other).1 = .ok second) :
    first.identity = second.identity ↔ text = other ∧ .clear ∉ between := by
  have coherentNext : (parser.after (.parse text)).Coherent := coherent.after
  have kept : (text, first) ∈ (parser.after (.parse text)).cache := mem_cache_of_parse answered
  have keptOther := mem_cache_of_parse again
  generalize parser.after (.parse text) = next at *
  have whole : ((between.foldl after next).parse other).2 =
      (between ++ [Call.parse other]).foldl after next := by
    rw [List.foldl_append]
    rfl
  rw [whole] at keptOther
  by_cases cleared : .clear ∈ between
  · refine iff_of_false (fun same => ?_) fun both => both.2 cleared
    have made := made_le_of_cleared (List.mem_append_left [.parse other] cleared) keptOther
    have earlier := coherentNext.made _ kept
    dsimp only at made earlier
    omega
  · have still : (text, first) ∈ ((between ++ [Call.parse other]).foldl after next).cache :=
      mem_cache_foldl kept (by simp [cleared])
    rw [coherentNext.foldl.eq_iff still keptOther, and_iff_left cleared]

/-- Whether a call is neither a success to be kept nor one that clears the cache. -/
def Idle (parser : Parser) : Call → Prop
  | .parse text => ∃ error, (parser.parse text).1 = .error error
  | .parseUncached _ | .validate _ => True
  | .clear => False

theorem cache_of_idle {call : Call} (idle : parser.Idle call) :
    (parser.after call).cache = parser.cache := by
  cases call with
  | parse text =>
    obtain ⟨error, failed⟩ := idle
    have effect := parser.effect (.parse text)
    generalize same : parser.after (.parse text) = next at effect
    cases effect with
    | none | made => rfl
    | kept fresh accepted =>
      rw [parse_of_accepted fresh accepted] at failed
      cases failed
  | parseUncached text =>
    rw [after, parseUncached]
    cases parse? parser.options text <;> rfl
  | validate => rfl
  | clear => exact idle.elim

/-- After any calls, a parser answers what its settings make of a text. Two answers are the same
instance just when they are for the same text and the cache was not cleared in between. The parser
keeps as many expressions as there are texts that were parsed with success since the cache was
cleared, and other calls do not change this number. -/
theorem parse_transparent (options : ParserOptions) (calls : List Call) :
    let parser := afterAll options calls
    (∀ text, (parser.parse text).1.map Tree.expression =
          (parser.parseUncached text).1.map Tree.expression ∧
        (parser.parseUncached text).1.map Tree.expression = parse? options text) ∧
      (∀ text between other first second, (parser.parse text).1 = .ok first →
        ((afterAll options (calls ++ .parse text :: between)).parse other).1 = .ok second →
        (first.identity = second.identity ↔ text = other ∧ .clear ∉ between)) ∧
      {text | Parsed options calls text}.encard = parser.cachedCount ∧
      ∀ call, parser.Idle call → (parser.after call).cachedCount = parser.cachedCount := by
  intro parser
  have coherent : parser.Coherent := coherent_afterAll options calls
  have same : parser.options = options := options_afterAll
  refine ⟨fun text => ?_, ?_, cachedCount_afterAll options calls, ?_⟩
  · rw [expression_of_parse coherent, expression_of_parseUncached, same]
    exact ⟨rfl, rfl⟩
  · intro text between other first second answered again
    rw [afterAll, List.foldl_append, List.foldl_cons] at again
    exact identity_eq_iff coherent between answered again
  · intro call idle
    rw [cachedCount, cache_of_idle idle, cachedCount]

theorem parse_of_cleared :
    let calls : List Call := [.parse "a + b", .parse "a"]
    ∃ first again cleared : Tree, ((afterAll {} calls).parse "a + b").1 = .ok first ∧
      ((afterAll {} (calls ++ [.parse "a + b", .parse ")"])).parse "a + b").1 = .ok again ∧
      ((afterAll {} (calls ++ [.parse "a + b", .clear])).parse "a + b").1 = .ok cleared ∧
      first.identity = again.identity ∧ first.identity ≠ cleared.identity := by
  intro calls
  obtain ⟨parts, expression, accepted, -⟩ := Accepted.of_passes {} "a + b" (fun _ _ => true)
    (by decide +kernel)
  have answers : ∀ calls, ∃ tree, ((afterAll {} calls).parse "a + b").1 = .ok tree := by
    intro calls
    obtain ⟨same, whole⟩ := (parse_transparent {} calls).1 "a + b"
    rw [accepted.parsed] at whole
    rw [whole] at same
    cases answer : ((afterAll {} calls).parse "a + b").1 with
    | ok tree => exact ⟨tree, rfl⟩
    | error error =>
      rw [answer] at same
      cases same
  obtain ⟨first, answered⟩ := answers calls
  obtain ⟨again, answeredAgain⟩ := answers (calls ++ [.parse "a + b", .parse ")"])
  obtain ⟨cleared, answeredLast⟩ := answers (calls ++ [.parse "a + b", .clear])
  have transparent := (parse_transparent {} calls).2.1 "a + b"
  refine ⟨first, again, cleared, answered, answeredAgain, answeredLast, ?_, ?_⟩
  · exact (transparent [.parse ")"] "a + b" _ _ answered answeredAgain).mpr ⟨rfl, by simp⟩
  · intro same
    exact ((transparent [.clear] "a + b" _ _ answered answeredLast).mp same).2 (by simp)

end Answers

end PathQuery.Parser
