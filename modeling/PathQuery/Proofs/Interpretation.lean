import PathQuery.Expression.Part
import PathQuery.Proofs.Analysis.Surplus

/-!
The parts of a text. They are tokens, and the name of a method always stands before an opening
parenthesis, so the analysis can take them for what they are.
-/

namespace PathQuery

namespace Token

theorem kind_ne_expression : ∀ entry ∈ grammar, entry.kind ≠ .expression := by
  decide

theorem identify_ne_expression {lexeme : List Char} {beforeScope : Bool} {kind : TokenKind}
    (identified : identify? lexeme beforeScope = some kind) : kind ≠ .expression := by
  obtain ⟨entry, found, rfl⟩ := Option.map_eq_some_iff.mp identified
  exact kind_ne_expression entry (List.mem_of_find?_eq_some found)

theorem beforeScope_of_method {lexeme : List Char} {beforeScope : Bool}
    (identified : identify? lexeme beforeScope = some .method) : beforeScope = true := by
  obtain ⟨entry, found, method⟩ := Option.map_eq_some_iff.mp identified
  have matched := List.find?_some found
  simpa [method] using (Bool.and_eq_true_iff.mp matched).2

theorem identify_parenthesis (beforeScope : Bool) :
    identify? ['('] beforeScope = some .scopeStart := by
  cases beforeScope <;> decide +kernel

end Token

namespace PlacedPart

/-- A lexeme becomes a part after the parts before it, or after all but the minus sign that it
takes in. -/
inductive Added (parts : List PlacedPart) (lexeme : Lexeme) (beforeScope : Bool) :
    List PlacedPart → Prop
  | behind {placed : PlacedPart} : placed.part.isToken = true →
      (placed.part.kind = .method → beforeScope = true) →
      (lexeme.text = ['('] → placed.part.kind = .scopeStart) →
      Added parts lexeme beforeScope (placed :: parts)
  | signed {minus placed : PlacedPart} {before : List PlacedPart} : parts = minus :: before →
      minus.part.kind = .subtract → placed.part.isToken = true → placed.part.kind ≠ .method →
      lexeme.text ≠ ['('] → Added parts lexeme beforeScope (placed :: before)

theorem minus_of_sign {parts : List PlacedPart} {span : Span} (found : sign? parts = some span) :
    ∃ minus before, parts = minus :: before ∧ minus.part.kind = .subtract := by
  cases parts with
  | nil => cases found
  | cons minus before =>
    refine ⟨minus, before, rfl, ?_⟩
    by_contra other
    simp [sign?, other] at found

theorem added_of_add {lenient : Bool} {parts next : List PlacedPart} {lexeme : Lexeme}
    {beforeScope : Bool} (added : add? lenient parts lexeme beforeScope = .ok next) :
    Added parts lexeme beforeScope next := by
  have parenthesis : ∀ {kind}, Token.identify? lexeme.text beforeScope = some kind →
      kind ≠ .scopeStart → lexeme.text ≠ ['('] := by
    intro kind identified other same
    rw [same, Token.identify_parenthesis] at identified
    exact other (Option.some.inj identified).symm
  unfold add? at added
  split at added
  · rename_i unknown
    split at added
    · cases added
      refine .behind rfl (by simp [Part.kind]) fun same => ?_
      rw [same, Token.identify_parenthesis] at unknown
      cases unknown
    · cases added
  iterate 4
    · rename_i identified
      cases added
      exact .behind rfl (by simp [Part.kind]) fun same =>
        absurd same (parenthesis identified (by simp))
  · rename_i kind notString notTrue notFalse notNull identified
    split at added
    · rename_i number
      have literal : kind.isLiteral = true := by
        simp only [Bool.or_eq_true, beq_iff_eq] at number
        rcases number with rfl | rfl <;> rfl
      have differs : kind ≠ .method ∧ kind ≠ .scopeStart := by
        refine ⟨?_, ?_⟩ <;>
        · rintro rfl
          cases literal
      split at added
      · rename_i span found
        obtain ⟨value, -, added⟩ := Tiers.bind_eq_ok.mp added
        cases added
        obtain ⟨minus, before, rfl, subtract⟩ := minus_of_sign found
        exact .signed rfl subtract literal differs.1 (parenthesis identified differs.2)
      · obtain ⟨value, -, added⟩ := Tiers.bind_eq_ok.mp added
        cases added
        exact .behind literal (fun method => absurd method differs.1) fun same =>
          absurd same (parenthesis identified differs.2)
    · rename_i number
      cases added
      refine .behind ?_ ?_ ?_
      · have other := Token.identify_ne_expression identified
        revert number notString notTrue notFalse notNull other
        cases kind <;> simp [Part.isToken, TokenKind.isLiteral]
      · intro method
        obtain rfl : kind = .method := method
        exact Token.beforeScope_of_method identified
      · intro same
        rw [same, Token.identify_parenthesis] at identified
        exact (Option.some.inj identified).symm

/-- The parts of some lexemes, of which the last comes first, before others: they are tokens, and a
method has its parenthesis behind it. -/
structure Ready (parts : List PlacedPart) (lexemes : List Lexeme) : Prop where
  tokens : ∀ placed ∈ parts, placed.part.isToken = true
  called : parts.IsChain fun next placed => placed.part.kind = .method → next.part.kind = .scopeStart
  awaited : ∀ placed ∈ parts.head?, placed.part.kind = .method →
    lexemes.head?.any (·.text == ['(']) = true

theorem ready_of_added {parts next : List PlacedPart} {lexeme : Lexeme} {lexemes : List Lexeme}
    (ready : Ready parts (lexeme :: lexemes))
    (added : Added parts lexeme (lexemes.head?.any (·.text == ['('])) next) :
    Ready next lexemes := by
  cases added with
  | @behind placed token method scope =>
    refine ⟨List.forall_mem_cons.mpr ⟨token, ready.tokens⟩, ready.called.cons ?_, ?_⟩
    · intro last recent called
      exact scope (by simpa using ready.awaited last recent called)
    · intro last recent
      obtain rfl := Option.some.inj recent
      exact method
  | @signed minus placed before split subtract token notMethod _ =>
    subst split
    refine ⟨List.forall_mem_cons.mpr ⟨token, (List.forall_mem_cons.mp ready.tokens).2⟩,
      ready.called.tail.cons ?_, ?_⟩
    · intro last recent called
      obtain ⟨others, rfl⟩ := List.head?_eq_some_iff.mp recent
      -- The sign is no parenthesis, so no method stands before it.
      have opens := (List.isChain_cons_cons.mp ready.called).1 called
      rw [subtract] at opens
      cases opens
    · intro last recent
      obtain rfl := Option.some.inj recent
      exact fun method => absurd method notMethod

theorem ready_of_addAll {lenient : Bool} {parts result : List PlacedPart} {lexemes : List Lexeme}
    (ready : Ready parts lexemes) (added : addAll? lenient parts lexemes = .ok result) :
    Ready result [] := by
  induction lexemes generalizing parts with
  | nil =>
    cases added
    exact ready
  | cons lexeme lexemes ih =>
    obtain ⟨next, first, others⟩ := Tiers.bind_eq_ok.mp added
    exact ih (ready_of_added ready (added_of_add first)) others

theorem ready_of_text {lenient : Bool} {text : String} {placed : List PlacedPart}
    (interpreted : ofText? lenient text = .ok placed) : Ready placed.reverse [] := by
  obtain ⟨lexemes, -, interpreted⟩ := Tiers.bind_eq_ok.mp interpreted
  obtain ⟨reversed, added, rfl⟩ := Tiers.map_eq_ok.mp interpreted
  rw [List.reverse_reverse]
  exact ready_of_addAll ⟨by simp, .nil, by simp⟩ added

theorem isToken_of_text {lenient : Bool} {text : String} {placed : List PlacedPart}
    (interpreted : ofText? lenient text = .ok placed) :
    ∀ part ∈ placed.map PlacedPart.part, part.isToken = true := by
  intro part member
  obtain ⟨place, present, rfl⟩ := List.mem_map.mp member
  exact (ready_of_text interpreted).tokens place (List.mem_reverse.mpr present)

theorem fit_of_text {lenient : Bool} {text : String} {placed : List PlacedPart}
    (interpreted : ofText? lenient text = .ok placed) :
    Analysis.Fit (placed.map PlacedPart.part) := by
  refine ⟨fun part member => .inl (isToken_of_text interpreted part member), ?_⟩
  rw [List.isChain_map]
  exact List.isChain_reverse.mp (ready_of_text interpreted).called

end PlacedPart

end PathQuery
