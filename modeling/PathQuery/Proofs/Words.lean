import PathQuery.Proofs.Acceptance
import PathQuery.Proofs.Lexing

/-!
What words are read as. The parts of a text depend on its words and not on where these stand. Main
statement: `parse_eq_ok`.
-/

namespace PathQuery

/-- A part that stands nowhere. -/
def Part.unplaced (part : Part) : PlacedPart :=
  ⟨part, ⟨0, 0⟩⟩

/-- A word that stands nowhere. -/
def Lexeme.ofWord (word : List Char) : Lexeme :=
  { text := word, span := ⟨0, 0⟩ }

/-- Adds the part of a word to the parts before it, of which the last comes first. -/
def Part.add? (lenient : Bool) (parts : List Part) (word : List Char) (beforeScope : Bool) :
    Except LexError (List Part) :=
  (PlacedPart.add? lenient (parts.map Part.unplaced) (Lexeme.ofWord word) beforeScope).map
    (·.map PlacedPart.part)

/-- Adds the parts of words to the parts before them, of which the last comes first. -/
def Part.addAll? (lenient : Bool) (parts : List Part) :
    List (List Char) → Except LexError (List Part)
  | [] => .ok parts
  | word :: words => do
      Part.addAll? lenient (← Part.add? lenient parts word (words.head?.any (· == ['(']))) words

theorem head_append {α : Type} {holds : α → Bool} {items others : List α}
    (apart : others.head?.any holds = false) :
    (items ++ others).head?.any holds = items.head?.any holds := by
  cases items with
  | nil => exact apart
  | cons => rfl

namespace PlacedPart

variable {lenient beforeScope : Bool} {placed : List PlacedPart} {lexeme : Lexeme}

theorem sign_unplaced (placed : List PlacedPart) :
    sign? ((placed.map part).map Part.unplaced) = (sign? placed).map fun _ => ⟨0, 0⟩ := by
  rcases placed with _ | ⟨minus, _ | ⟨previous, before⟩⟩
  · rfl
  · simp [sign?, Part.unplaced]
  · simp [sign?, Part.unplaced]

theorem parts_of_add : (add? lenient placed lexeme beforeScope).map (·.map part) =
    Part.add? lenient (placed.map part) lexeme.text beforeScope := by
  have placeless : part ∘ Part.unplaced ∘ part = part := rfl
  unfold Part.add? add?
  simp only [Lexeme.ofWord]
  split
  · cases lenient
    · rfl
    · simp [Except.map, Part.unplaced]
  iterate 4 simp [Except.map, Part.unplaced]
  · split
    · rw [sign_unplaced]
      cases sign? placed with
      | none =>
        simp only [Option.map_none]
        cases number? _ lexeme.text false <;>
          simp [Except.map, Part.unplaced, bind, Except.bind, pure, Except.pure]
      | some span =>
        simp only [Option.map_some]
        cases number? _ lexeme.text true <;>
          simp [Except.map, placeless, bind, Except.bind, pure, Except.pure]
    · simp [Except.map, placeless]

/-- A part behind which a minus sign is the sign of a number. -/
def Fresh (mark : PlacedPart) : Prop :=
  mark.part.kind ≠ .subtract ∧ (mark.part.kind.isOperator || mark.part.kind.opensRange) = true

theorem sign_onto {mark : PlacedPart} (fresh : mark.Fresh) (below : List PlacedPart) :
    sign? (placed ++ mark :: below) = sign? placed := by
  rcases placed with _ | ⟨minus, _ | ⟨previous, before⟩⟩
  · simp [sign?, fresh.1]
  · simp only [sign?, List.cons_append, List.nil_append, List.head?_cons, fresh.2]
    rfl
  · rfl

/-- Behind such a part words are read as at the start of a text. -/
theorem add_onto {mark : PlacedPart} (fresh : mark.Fresh) (below : List PlacedPart) :
    add? lenient (placed ++ mark :: below) lexeme beforeScope =
      (add? lenient placed lexeme beforeScope).map (· ++ mark :: below) := by
  unfold add?
  split
  · cases lenient <;> rfl
  iterate 4 rfl
  · split
    · rw [sign_onto fresh]
      cases sign : sign? placed with
      | none => cases number? _ lexeme.text false <;> rfl
      | some span =>
        obtain ⟨minus, before, rfl, -⟩ := minus_of_sign sign
        cases number? _ lexeme.text true <;> rfl
    · rfl

theorem parts_of_addAll (lexemes : List Lexeme) :
    (addAll? lenient placed lexemes).map (·.map part) =
      Part.addAll? lenient (placed.map part) (lexemes.map Lexeme.text) := by
  induction lexemes generalizing placed with
  | nil => rfl
  | cons lexeme lexemes ih =>
    have before : (lexemes.map Lexeme.text).head?.any (· == ['(']) =
        lexemes.head?.any (·.text == ['(']) := by
      cases lexemes <;> rfl
    rw [List.map_cons, Part.addAll?, before, ← parts_of_add, addAll?]
    cases add? lenient placed lexeme (lexemes.head?.any (·.text == ['('])) with
    | error => rfl
    | ok next => exact ih

theorem addAll_of_add {lexemes : List Lexeme} {next : List PlacedPart}
    (added : add? lenient placed lexeme (lexemes.head?.any (·.text == ['('])) = .ok next) :
    addAll? lenient placed (lexeme :: lexemes) = addAll? lenient next lexemes := by
  rw [addAll?, added]
  rfl

theorem addAll_single (lenient : Bool) (lexeme : Lexeme) :
    addAll? lenient placed [lexeme] = add? lenient placed lexeme false := by
  simp only [addAll?, List.head?_nil, Option.any_none]
  cases add? lenient placed lexeme false <;> rfl

theorem addAll_append {lexemes others : List Lexeme} {next : List PlacedPart}
    (apart : others.head?.any (·.text == ['(']) = false)
    (added : addAll? lenient placed lexemes = .ok next) :
    addAll? lenient placed (lexemes ++ others) = addAll? lenient next others := by
  induction lexemes generalizing placed with
  | nil =>
    cases added
    rfl
  | cons lexeme lexemes ih =>
    obtain ⟨middle, first, added⟩ := Tiers.bind_eq_ok.mp added
    rw [List.cons_append, addAll_of_add (head_append apart ▸ first)]
    exact ih added

theorem ofText_of_split {text : String} {lexemes : List Lexeme}
    (split : Lexeme.split? lenient text = .ok lexemes) :
    ofText? lenient text = ofLexemes? lenient lexemes := by
  rw [ofText?, split]
  rfl

theorem error_of_number {kind : TokenKind} {word : List Char} {negative : Bool} {error : LexError}
    (fails : number? kind word negative = .error error) :
    error = .invalidNumber (String.ofList (if negative then '-' :: word else word)) := by
  unfold number? at fails
  dsimp only at fails
  split at fails
  · cases fails
  · cases fails
    rfl

end PlacedPart

namespace Part

variable {lenient beforeScope : Bool} {parts below next : List Part} {word : List Char}

@[simp] theorem part_unplaced : PlacedPart.part ∘ unplaced = id := rfl

theorem map_unplaced (parts : List Part) : (parts.map unplaced).map PlacedPart.part = parts := by
  simp

theorem kind_of_add (added : add? lenient parts word beforeScope = .ok next) :
    ∃ part before, next = part :: before ∧
      part.kind = (Token.identify? word beforeScope).getD .unknown ∧
      (before = parts ∨ ∃ minus, parts = minus :: before ∧ minus.kind = .subtract ∧
        part.kind.isLiteral = true) := by
  obtain ⟨placed, placing, rfl⟩ := Tiers.map_eq_ok.mp added
  have placeless := map_unplaced parts
  unfold PlacedPart.add? at placing
  simp only [Lexeme.ofWord] at placing
  split at placing
  · rename_i unknown
    split at placing
    · cases placing
      exact ⟨_, _, rfl, by rw [unknown]; rfl, .inl placeless⟩
    · cases placing
  iterate 4
    · rename_i identified
      cases placing
      exact ⟨_, _, rfl, by rw [identified]; rfl, .inl placeless⟩
  · rename_i kind _ _ _ _ identified
    split at placing
    · rename_i number
      split at placing
      · rename_i span sign
        obtain ⟨minus, before, split, subtract⟩ := PlacedPart.minus_of_sign sign
        obtain ⟨value, -, placing⟩ := Tiers.bind_eq_ok.mp placing
        cases placing
        rw [split] at placeless ⊢
        refine ⟨_, _, rfl, by rw [identified]; rfl, .inr ⟨minus.part, placeless.symm, subtract, ?_⟩⟩
        simp only [Bool.or_eq_true, beq_iff_eq] at number
        rcases number with rfl | rfl <;> rfl
      · obtain ⟨value, -, placing⟩ := Tiers.bind_eq_ok.mp placing
        cases placing
        exact ⟨_, _, rfl, by rw [identified]; rfl, .inl placeless⟩
    · cases placing
      exact ⟨_, _, rfl, by rw [identified]; rfl, .inl placeless⟩

theorem ne_nil_of_addAll {words : List (List Char)}
    (added : addAll? lenient parts words = .ok next) (some : parts ≠ [] ∨ words ≠ []) :
    next ≠ [] := by
  induction words generalizing parts with
  | nil =>
    cases added
    exact some.resolve_right fun empty => empty rfl
  | cons word words ih =>
    obtain ⟨middle, first, others⟩ := Tiers.bind_eq_ok.mp added
    obtain ⟨part, before, rfl, -⟩ := kind_of_add first
    exact ih others (.inl (by simp))

/-- Behind an operator other than a minus, or where a range opens, words are read as at the start of
a text. -/
theorem addAll_onto {mark : Part} (fresh : mark.unplaced.Fresh) (below : List Part)
    (words : List (List Char)) :
    addAll? lenient (parts ++ mark :: below) words =
      (addAll? lenient parts words).map (· ++ mark :: below) := by
  induction words generalizing parts with
  | nil => rfl
  | cons word words ih =>
    have first : ∀ ahead, add? lenient (parts ++ mark :: below) word ahead =
        (add? lenient parts word ahead).map (· ++ mark :: below) := by
      intro ahead
      unfold add?
      rw [List.map_append, List.map_cons, PlacedPart.add_onto fresh]
      cases PlacedPart.add? lenient (parts.map unplaced) (Lexeme.ofWord word) ahead with
      | error => rfl
      | ok next =>
        simp [Except.map, unplaced]
    rw [addAll?, addAll?, first]
    cases add? lenient parts word (words.head?.any (· == ['('])) with
    | error => rfl
    | ok next => exact ih

theorem addAll_append {words others : List (List Char)}
    (apart : others.head?.any (· == ['(']) = false) :
    addAll? lenient parts (words ++ others) =
      addAll? lenient parts words >>= fun next => addAll? lenient next others := by
  induction words generalizing parts with
  | nil => rfl
  | cons word words ih =>
    rw [List.cons_append, addAll?, addAll?, head_append apart]
    cases add? lenient parts word (words.head?.any (· == ['('])) with
    | error => rfl
    | ok next => exact ih

end Part

/-- The parts that a text is read as. -/
def Readable (lenient : Bool) (cs : List Char) (parts : List Part) : Prop :=
  ∃ words, Lexes lenient (Cursor.start cs) words ∧
    Part.addAll? lenient [] words = .ok parts.reverse

theorem Lexeme.split_eq_ok {lenient : Bool} {text : String} {lexemes : List Lexeme} :
    split? lenient text = .ok lexemes ↔
      lexemes ≠ [] ∧ from? lenient 0 (Cursor.start text.toList) = .ok lexemes := by
  unfold split?
  cases from? lenient 0 (Cursor.start text.toList) with
  | error => simp [bind, Except.bind]
  | ok found =>
    cases found with
    | nil =>
      simp only [bind, Except.bind, Except.ok.injEq]
      constructor
      · intro thrown
        cases thrown
      · rintro ⟨nonempty, rfl⟩
        exact absurd rfl nonempty
    | cons lexeme others =>
      simp only [bind, Except.bind, Except.ok.injEq]
      constructor
      · intro same
        cases same
        simp
      · rintro ⟨-, rfl⟩
        rfl

theorem text_eq_ok {lenient : Bool} {text : String} {parts : List Part} :
    (PlacedPart.ofText? lenient text).map (·.map PlacedPart.part) = .ok parts ↔
      parts ≠ [] ∧ Readable lenient text.toList parts := by
  have words := Lexeme.lexes_iff lenient 0 (Cursor.start text.toList)
  constructor
  · intro interpreted
    obtain ⟨placed, read, rfl⟩ := Tiers.map_eq_ok.mp interpreted
    obtain ⟨lexemes, split, read⟩ := Tiers.bind_eq_ok.mp read
    obtain ⟨reversed, added, rfl⟩ := Tiers.map_eq_ok.mp read
    obtain ⟨nonempty, split⟩ := Lexeme.split_eq_ok.mp split
    have spoken := @PlacedPart.parts_of_addAll lenient [] lexemes
    rw [added] at spoken
    replace spoken : .ok (reversed.map PlacedPart.part) = Part.addAll? lenient [] _ := spoken
    have some := Part.ne_nil_of_addAll spoken.symm (.inr (by simpa using nonempty))
    refine ⟨by simpa using some, _, (words _).mp ⟨lexemes, split, rfl⟩, ?_⟩
    rw [← List.map_reverse, List.reverse_reverse]
    exact spoken.symm
  · rintro ⟨nonempty, spoken, lexes, added⟩
    obtain ⟨lexemes, split, rfl⟩ := (words spoken).mpr lexes
    have placing := @PlacedPart.parts_of_addAll lenient [] lexemes
    rw [List.map_nil, added] at placing
    obtain ⟨reversed, placed, same⟩ := Tiers.map_eq_ok.mp placing
    have some : lexemes ≠ [] := by
      rintro rfl
      exact nonempty (List.reverse_eq_nil_iff.mp (Except.ok.inj added).symm)
    have text := Lexeme.split_eq_ok.mpr ⟨some, split⟩
    rw [PlacedPart.ofText?, text]
    simp [PlacedPart.ofLexemes?, placed, bind, Except.bind, Except.map, same]

/-- A text is accepted when its words are read as parts that are balanced and can be analyzed. -/
theorem parse_eq_ok {options : ParserOptions} {text : String} {expression : Expression} :
    parse? options text = .ok expression ↔ ∃ parts, parts ≠ [] ∧
      Readable options.lenient text.toList parts ∧ validate options parts = .ok () ∧
      Analysis.analyze parts = .ok expression := by
  simp only [← and_assoc, ← text_eq_ok]
  unfold parse?
  cases PlacedPart.ofText? options.lenient text with
  | error => simp [Except.map, Except.mapError, bind, Except.bind]
  | ok placed =>
    show validate options _ >>= _ = _ ↔ _
    simp only [Except.map, Except.ok.injEq, and_assoc, exists_eq_left', Tiers.bind_eq_ok]
    exact ⟨fun ⟨_, accepted⟩ => accepted, fun accepted => ⟨(), accepted⟩⟩

end PathQuery
