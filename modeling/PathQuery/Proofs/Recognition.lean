import PathQuery.Proofs.Legible
import PathQuery.Proofs.Lexing.Isolation
import PathQuery.Proofs.Partition

/-!
What the lexemes of a text stand for by themselves. The grammar reads each as what it found in the
text, but paths that end with two dots it does not know again. Main statement: `split_recognized`.
-/

namespace PathQuery

namespace Lexeme

/-- A path of a text that ends with two dots. -/
structure Dotted (text : String) (lexeme : Lexeme) : Prop where
  path : Token.findAt? text lexeme.span.start = some (.path, lexeme.span)
  dots : ['.', '.'] <:+ lexeme.text

instance (text : String) (lexeme : Lexeme) : Decidable (lexeme.Dotted text) :=
  decidable_of_iff (Token.findAt? text lexeme.span.start = some (.path, lexeme.span) ∧
    ['.', '.'] <:+ lexeme.text) ⟨fun ⟨path, dots⟩ => ⟨path, dots⟩, fun ⟨path, dots⟩ => ⟨path, dots⟩⟩

variable {text : String} {offset : Nat} {cursor : Cursor} {lexemes : List Lexeme}

/-- A method is called where an opening scope is the next lexeme. -/
theorem called_iff (split : from? false offset cursor = .ok lexemes) :
    lexemes.head?.any (·.text == ['(']) = true ↔ Called cursor.rest := by
  cases finds : Token.find? cursor with
  | none =>
    obtain ⟨passable, rfl⟩ := (from_of_none finds).mp split
    have blank := Text.trimmed_isEmpty_iff.mp (passable.resolve_left Bool.false_ne_true)
    rw [Called, List.dropWhile_eq_nil_iff.mpr blank]
    simp
  | some found =>
    obtain ⟨preamble, others, passes, -, rfl⟩ := (from_of_some finds).mp split
    obtain ⟨begins, placed⟩ := Token.at_of_find finds
    obtain ⟨c, word, lexeme⟩ := List.exists_cons_of_ne_nil placed.nonempty
    obtain ⟨before, rest, passed, rfl, after⟩ := placed.leads.eq_of_leads
    have lexed := placed.begins
    rw [lexeme] at lexed
    have shown : ¬Text.isBlank c = true := fun blank => by
      rw [List.cons_append, Token.lexemeAt_isBlank blank] at lexed
      cases lexed
    have called : Called cursor.rest ↔ c = '(' := by
      rw [Called, placed.skips.rest, List.dropWhile_append_of_pos (blank_of_gap passes).2, lexeme,
        List.cons_append, List.dropWhile_cons_of_neg shown]
      simp
    rw [called, List.head?_cons, Option.any_some, beq_iff_eq, lexeme]
    constructor
    · exact fun same => (List.cons.inj same).1
    · rintro rfl
      -- a parenthesis is a lexeme by itself
      rw [List.cons_append, Token.symbol_scopeStart.found, after, lexeme] at lexed
      have single : word = [] := by
        simpa using congrArg (fun result => result.map (·.2.passed)) lexed
      rw [single]

/-- What a lexeme stands for by itself. -/
theorem recognized_of_leads {front : List Char}
    (leads : (Cursor.start text.toList).Leads front cursor)
    (split : from? false (byteLength front) cursor = .ok lexemes) {earlier behind : List Lexeme}
    {lexeme : Lexeme} (whole : lexemes = earlier ++ lexeme :: behind) :
    ∃ kind, Token.findAt? text lexeme.span.start = some (kind, lexeme.span) ∧
      Token.identify? lexeme.text (behind.head?.any (·.text == ['('])) =
        if kind = .path ∧ ['.', '.'] <:+ lexeme.text then none else some kind := by
  induction earlier generalizing front cursor lexemes with
  | nil =>
    cases finds : Token.find? cursor with
    | none =>
      obtain ⟨-, rfl⟩ := (from_of_none finds).mp split
      cases whole
    | some found =>
      obtain ⟨preamble, others, -, more, rfl⟩ := (from_of_some finds).mp split
      cases whole
      obtain ⟨begins, placed⟩ := Token.at_of_find finds
      have identified := Token.identify_of_lexemeAt placed.begins placed.leads (called_iff more)
      refine ⟨found.kind, ?_, identified⟩
      rw [← byteLength_append, Token.findAt_of_leads (leads.trans placed.skips),
        Token.find_of_lexemeAt placed.leads placed.nonempty placed.begins]
      simp [byteLength]
  | cons skipped earlier ih =>
    cases finds : Token.find? cursor with
    | none =>
      obtain ⟨-, rfl⟩ := (from_of_none finds).mp split
      cases whole
    | some found =>
      obtain ⟨preamble, others, -, more, rfl⟩ := (from_of_some finds).mp split
      obtain ⟨begins, placed⟩ := Token.at_of_find finds
      rw [← byteLength_append, ← byteLength_append] at more
      exact ih ((leads.trans placed.skips).trans placed.leads) more (List.cons.inj whole).2

/-- A lexeme stands for what the grammar found, unless that is a path that ends with two dots. -/
theorem recognized (split : split? false text = .ok lexemes) {front behind : List Lexeme}
    {lexeme : Lexeme} (whole : lexemes = front ++ lexeme :: behind) :
    ∃ kind, Token.findAt? text lexeme.span.start = some (kind, lexeme.span) ∧
      (¬lexeme.Dotted text →
        Token.identify? lexeme.text (behind.head?.any (·.text == ['('])) = some kind) ∧
      (lexeme.Dotted text →
        Token.identify? lexeme.text (behind.head?.any (·.text == ['('])) = none) := by
  obtain ⟨kind, found, identified⟩ :=
    recognized_of_leads (.refl _) (split_eq_ok.mp split).2 whole
  have dotted : kind = .path ∧ ['.', '.'] <:+ lexeme.text ↔ lexeme.Dotted text := by
    constructor
    · rintro ⟨rfl, dots⟩
      exact ⟨found, dots⟩
    · rintro ⟨path, dots⟩
      rw [found] at path
      cases path
      exact ⟨rfl, dots⟩
  rw [identified]
  exact ⟨kind, found, fun other => if_neg (dotted.not.mpr other), fun dots =>
    if_pos (dotted.mpr dots)⟩

theorem unknown_iff (split : split? false text = .ok lexemes) {front behind : List Lexeme}
    {lexeme : Lexeme} (whole : lexemes = front ++ lexeme :: behind) :
    Token.identify? lexeme.text (behind.head?.any (·.text == ['('])) = none ↔
      lexeme.Dotted text := by
  obtain ⟨kind, -, known, unknown⟩ := recognized split whole
  refine ⟨fun none => Classical.byContradiction fun other => ?_, unknown⟩
  rw [known other] at none
  cases none

end Lexeme

namespace PlacedPart

variable {parts next : List PlacedPart} {lexeme : Lexeme} {beforeScope : Bool}

theorem add_unknown (unknown : Token.identify? lexeme.text beforeScope = none) :
    add? false parts lexeme beforeScope =
      .error (.unknownToken (String.ofList lexeme.text)) := by
  simp [add?, unknown]

theorem ne_opening {behind : List Lexeme}
    (unknown : Token.identify? lexeme.text beforeScope = none) :
    (lexeme :: behind).head?.any (·.text == ['(']) = false := by
  refine Bool.eq_false_iff.mpr fun same => ?_
  rw [eq_of_beq (show (lexeme.text == ['(']) = true from same), Token.identify_parenthesis]
    at unknown
  cases unknown

theorem error_of_read {kind : TokenKind} {word : List Char} {negative : Bool} {error : LexError}
    {place : Value → List PlacedPart}
    (fails : (do return place (← number? kind word negative)) = (.error error : Except _ _)) :
    ∃ number, error = .invalidNumber number := by
  cases read : number? kind word negative with
  | ok value =>
    rw [read] at fails
    cases fails
  | error other =>
    rw [read] at fails
    cases fails
    exact ⟨_, error_of_number read⟩

theorem error_of_add {error : LexError}
    (fails : add? false parts lexeme beforeScope = .error error) :
    Token.identify? lexeme.text beforeScope = none ∧
        error = .unknownToken (String.ofList lexeme.text) ∨
      ∃ number, error = .invalidNumber number := by
  unfold add? at fails
  dsimp only at fails
  split at fails
  · rename_i unknown
    cases fails
    exact .inl ⟨unknown, rfl⟩
  iterate 4 cases fails
  · right
    split at fails
    · split at fails
      · exact error_of_read fails
      · exact error_of_read fails
    · cases fails

/-- A lexeme that stands for nothing is the unknown token, when those before it are read. -/
theorem addAll_unknown {front behind : List Lexeme}
    (read : addAll? false parts front = .ok next)
    (unknown : Token.identify? lexeme.text (behind.head?.any (·.text == ['('])) = none) :
    addAll? false parts (front ++ lexeme :: behind) =
      .error (.unknownToken (String.ofList lexeme.text)) := by
  rw [addAll_append (ne_opening unknown) read, addAll?, add_unknown unknown]
  rfl

theorem error_of_addAll {lexemes : List Lexeme} {error : LexError}
    (fails : addAll? false parts lexemes = .error error) :
    (∃ front lexeme behind next, lexemes = front ++ lexeme :: behind ∧
        addAll? false parts front = .ok next ∧
        Token.identify? lexeme.text (behind.head?.any (·.text == ['('])) = none ∧
        error = .unknownToken (String.ofList lexeme.text)) ∨
      ∃ number, error = .invalidNumber number := by
  induction lexemes generalizing parts with
  | nil => cases fails
  | cons lexeme lexemes ih =>
    cases added : add? false parts lexeme (lexemes.head?.any (·.text == ['('])) with
    | error other =>
      rw [addAll?, added] at fails
      cases fails
      rcases error_of_add added with ⟨unknown, rfl⟩ | invalid
      · exact .inl ⟨[], lexeme, lexemes, parts, rfl, rfl, unknown, rfl⟩
      · exact .inr invalid
    | ok next =>
      rw [addAll_of_add added] at fails
      rcases ih fails with ⟨front, stop, behind, last, rfl, read, unknown, rfl⟩ | invalid
      · rw [head_append (ne_opening unknown)] at added
        exact .inl ⟨lexeme :: front, stop, behind, last, rfl, (addAll_of_add added).trans read,
          unknown, rfl⟩
      · exact .inr invalid

theorem identified_of_addAll {front behind : List Lexeme}
    (read : addAll? false parts (front ++ lexeme :: behind) = .ok next) :
    Token.identify? lexeme.text (behind.head?.any (·.text == ['('])) ≠ none := by
  intro unknown
  induction front generalizing parts with
  | nil =>
    rw [List.nil_append, addAll?, add_unknown unknown] at read
    cases read
  | cons skipped front ih =>
    obtain ⟨middle, -, read⟩ := Tiers.bind_eq_ok.mp read
    exact ih read

theorem ofText_eq_error {text : String} {lexemes : List Lexeme} {error : LexError}
    (split : Lexeme.split? false text = .ok lexemes) :
    ofText? false text = .error error ↔ addAll? false [] lexemes = .error error := by
  rw [ofText_of_split split, ofLexemes?]
  cases addAll? false [] lexemes <;> simp [Except.map]

/-- The unknown token is a path that ends with two dots, and the lexemes before it are read. -/
theorem ofText_unknown {text : String} {lexemes : List Lexeme}
    (split : Lexeme.split? false text = .ok lexemes) {word : String} :
    ofText? false text = .error (.unknownToken word) ↔
      ∃ front lexeme behind parts, lexemes = front ++ lexeme :: behind ∧ lexeme.Dotted text ∧
        ofLexemes? false front = .ok parts ∧ word = String.ofList lexeme.text := by
  rw [ofText_eq_error split]
  constructor
  · intro fails
    rcases error_of_addAll fails with
      ⟨front, lexeme, behind, next, whole, read, unknown, same⟩ | ⟨number, same⟩
    · cases same
      have dotted := (Lexeme.unknown_iff split whole).mp unknown
      exact ⟨front, lexeme, behind, next.reverse, whole, dotted,
        Tiers.map_eq_ok.mpr ⟨next, read, rfl⟩, rfl⟩
    · cases same
  · rintro ⟨front, lexeme, behind, parts, whole, dotted, read, rfl⟩
    obtain ⟨next, read, -⟩ := Tiers.map_eq_ok.mp read
    have unknown := (Lexeme.unknown_iff split whole).mpr dotted
    rw [whole]
    exact addAll_unknown read unknown

/-- A text with such a path is not read. -/
theorem fails_of_dotted {text : String} {lexemes : List Lexeme} {lexeme : Lexeme}
    (split : Lexeme.split? false text = .ok lexemes) (member : lexeme ∈ lexemes)
    (dotted : lexeme.Dotted text) :
    (∃ word, ofText? false text = .error (.unknownToken word)) ∨
      ∃ number, ofText? false text = .error (.invalidNumber number) := by
  simp only [ofText_eq_error split]
  cases read : addAll? false [] lexemes with
  | ok next =>
    obtain ⟨front, behind, rfl⟩ := List.append_of_mem member
    exact absurd ((Lexeme.unknown_iff split rfl).mpr dotted) (identified_of_addAll read)
  | error error =>
    rcases error_of_addAll read with ⟨_, lexeme, _, _, _, _, _, rfl⟩ | ⟨number, rfl⟩
    · exact .inl ⟨_, rfl⟩
    · exact .inr ⟨number, rfl⟩

/-- What a text is blamed for, if anything. -/
def blamed? (text : String) : Option LexError :=
  match ofText? false text with
  | .ok _ => none
  | .error error => some error

theorem blamed_iff {text : String} {error : LexError} :
    blamed? text = some error ↔ ofText? false text = .error error := by
  unfold blamed?
  cases ofText? false text <;> simp

end PlacedPart

/-- The lexemes of a text in strict mode, by themselves. Each stands for what the grammar found
where it stands, but a path that ends with two dots stands for nothing. A token is unknown exactly
when it is such a path and the lexemes before it are read; so some token is unknown exactly when
there is such a path and no number is invalid. -/
theorem Lexeme.split_recognized {text : String} {lexemes : List Lexeme}
    (split : split? false text = .ok lexemes) :
    (∀ front lexeme behind, lexemes = front ++ lexeme :: behind →
      ∃ kind, Token.findAt? text lexeme.span.start = some (kind, lexeme.span) ∧
        (¬lexeme.Dotted text →
          Token.identify? lexeme.text (behind.head?.any (·.text == ['('])) = some kind) ∧
        (lexeme.Dotted text →
          Token.identify? lexeme.text (behind.head?.any (·.text == ['('])) = none)) ∧
    (∀ word, PlacedPart.ofText? false text = .error (.unknownToken word) ↔
      ∃ front lexeme behind parts, lexemes = front ++ lexeme :: behind ∧ lexeme.Dotted text ∧
        PlacedPart.ofLexemes? false front = .ok parts ∧ word = String.ofList lexeme.text) ∧
    ((∃ word, PlacedPart.ofText? false text = .error (.unknownToken word)) ↔
      (∃ lexeme ∈ lexemes, lexeme.Dotted text) ∧
        ∀ number, PlacedPart.ofText? false text ≠ .error (.invalidNumber number)) := by
  refine ⟨fun front lexeme behind whole => recognized split whole,
    fun word => PlacedPart.ofText_unknown split, ?_⟩
  constructor
  · rintro ⟨word, unknown⟩
    obtain ⟨front, lexeme, behind, -, rfl, dotted, -, -⟩ :=
      (PlacedPart.ofText_unknown split).mp unknown
    refine ⟨⟨lexeme, by simp, dotted⟩, fun number invalid => ?_⟩
    cases unknown.symm.trans invalid
  · rintro ⟨⟨lexeme, member, dotted⟩, valid⟩
    refine (PlacedPart.fails_of_dotted split member dotted).resolve_right ?_
    rintro ⟨number, invalid⟩
    exact valid number invalid

theorem Lexeme.split_recognized_of_dots : ∃ lexemes, split? false "a ..5" = .ok lexemes ∧
    PlacedPart.ofText? false "a ..5" = .error (.unknownToken "..") ∧
    ∃ lexeme ∈ lexemes, lexeme.Dotted "a ..5" := by
  have accepted : (split? false "a ..5").toOption.isSome = true := by decide +kernel
  have unknown : PlacedPart.ofText? false "a ..5" = .error (.unknownToken "..") :=
    PlacedPart.blamed_iff.mp (by decide +kernel)
  cases split : split? false "a ..5" with
  | error error =>
    rw [split] at accepted
    cases accepted
  | ok lexemes => exact ⟨lexemes, rfl, unknown, ((split_recognized split).2.2.mp ⟨_, unknown⟩).1⟩

/-- A path that ends with two dots is not reported behind a number that is too large. -/
theorem Lexeme.unreported_of_invalidNumber : ∃ lexemes,
    split? false "99999999999999999999999999999999.5b ..5" = .ok lexemes ∧
    (∃ lexeme ∈ lexemes, lexeme.Dotted "99999999999999999999999999999999.5b ..5") ∧
    ∀ word, PlacedPart.ofText? false "99999999999999999999999999999999.5b ..5" ≠
      .error (.unknownToken word) := by
  have dotted : (split? false "99999999999999999999999999999999.5b ..5").toOption.any
      (·.any fun lexeme => lexeme.Dotted "99999999999999999999999999999999.5b ..5") = true := by
    decide +kernel
  have invalid : PlacedPart.blamed? "99999999999999999999999999999999.5b ..5" =
      some (.invalidNumber "99999999999999999999999999999999.5b") := by
    decide +kernel
  cases split : split? false "99999999999999999999999999999999.5b ..5" with
  | error error =>
    rw [split] at dotted
    cases dotted
  | ok lexemes =>
    rw [split] at dotted
    refine ⟨lexemes, rfl, by simpa [Except.toOption] using dotted, fun word unknown => ?_⟩
    cases (PlacedPart.blamed_iff.mp invalid).symm.trans unknown

end PathQuery
