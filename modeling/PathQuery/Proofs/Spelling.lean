import PathQuery.Proofs.Lexing.Decimals
import PathQuery.Proofs.Lexing.Spaces

/-!
Texts that are read as one part wherever an operand may stand. Main statement: `spells_signed`, a
number with or without a minus sign is read as one literal.
-/

namespace PathQuery

/-- Whether a text is read as one part: by itself, after a space behind a text that expects an
operand, and within any text wherever an operand may stand. -/
structure Spells (text : String) (part : Part) : Prop where
  alone (lenient : Bool) :
    PlacedPart.ofText? lenient text = .ok [⟨part, ⟨0, byteLength text.toList⟩⟩]
  behind {front : String} {parts : List PlacedPart} : PlacedPart.ofText? false front = .ok parts →
    Open (parts.map PlacedPart.part).reverse →
    PlacedPart.ofText? false (front ++ " " ++ text) = .ok (parts ++
      [⟨part, ⟨byteLength front.toList + 1,
        byteLength front.toList + 1 + byteLength text.toList⟩⟩])
  within : Legible text.toList [part]

/-- A text has one spelling as a part. -/
theorem Spells.unique {text : String} {part other : Part} (first : Spells text part)
    (second : Spells text other) : part = other := by
  have same := (first.alone false).symm.trans (second.alone false)
  simpa using same

section Numbers

variable {kind : TokenKind} {word : List Char} {value : Value} {negative : Bool}

/-- The characters of a number with its sign. -/
def signedChars (negative : Bool) (word : List Char) : List Char :=
  if negative then '-' :: word else word

variable (numeric : kind = .integerLiteral ∨ kind = .decimalLiteral) (lexed : Lexed kind word)
  (number : PlacedPart.number? kind word negative = .ok value)

include numeric lexed number

/-- The lexemes of a number, and the part that they are. -/
theorem lexemes_of_signed (lenient : Bool) (offset : Nat)
    (digit : ∀ c ∈ word.head?, c.isDigit = true) : ∃ lexemes : List Lexeme,
      (∀ before passed, Neutral before →
        Lexeme.from? lenient offset ⟨before, signedChars negative word, passed⟩ = .ok lexemes) ∧
      lexemes ≠ [] ∧ lexemes.head?.any (·.text == ['(']) = false ∧
      ∀ placed : List PlacedPart, Open (placed.map PlacedPart.part) →
        PlacedPart.addAll? lenient placed lexemes = .ok (⟨.literal kind value,
          ⟨offset, offset + byteLength (signedChars negative word)⟩⟩ :: placed) := by
  have named : kind ≠ .path ∧ kind ≠ .scopeStart := by
    rcases numeric with rfl | rfl <;> decide
  have identified := lexed.identified false fun path => absurd path named.1
  have shut := lexed.ne_opening named.2
  cases negative with
  | false =>
    refine ⟨_, fun before passed neutral => Lexeme.from_of_lexed lexed named.1 neutral passed,
      by simp, by simpa using shut, ?_⟩
    intro placed opened
    have unsigned : PlacedPart.sign? placed = none := by
      have free := opened.unsigned
      rwa [PlacedPart.sign_unplaced, Option.map_eq_none_iff] at free
    rw [PlacedPart.addAll_single, PlacedPart.add_number numeric identified, unsigned, number]
    rfl
  | true =>
    obtain ⟨first, others, rfl⟩ := List.exists_cons_of_ne_nil lexed.nonempty
    have other : first ≠ '-' := by
      rintro rfl
      cases digit '-' rfl
    have sign : ∀ before passed, Cursor.Leads ⟨before, '-' :: first :: others, passed⟩ ['-']
        ⟨some '-', first :: others, passed + 1⟩ := fun _ _ => ⟨rfl, rfl, rfl⟩
    refine ⟨_, fun before passed _ => Lexeme.from_of_lexemeAt (sign before passed) (by simp)
      (Token.lexemeAt_minus other _ _ _) (Lexeme.from_of_lexed lexed named.1
        (show Neutral (some '-') from rfl) _), by simp, by simp, ?_⟩
    intro placed opened
    have signed : PlacedPart.sign?
        (⟨.text .subtract "-", ⟨offset, offset + byteLength ['-']⟩⟩ :: placed) =
          some ⟨offset, offset + byteLength ['-']⟩ := by
      cases placed with
      | nil => rfl
      | cons last placed =>
        have free := opened.expects last.part rfl
        simp [PlacedPart.sign?, free, show (Part.text .subtract "-").kind = .subtract from rfl]
    rw [PlacedPart.addAll_of_add (PlacedPart.add_minus ..), PlacedPart.addAll_single,
      PlacedPart.add_number numeric identified, signed, number]
    have stop : offset + byteLength (signedChars true (first :: others)) =
        offset + byteLength ['-'] + byteLength (first :: others) := by
      rw [Nat.add_assoc, ← byteLength_append]
      rfl
    rw [stop]
    simp only [Except.map, Span.merge, List.drop_one, List.tail_cons, Except.ok.injEq, List.cons.injEq,
      PlacedPart.mk.injEq, Span.mk.injEq, and_true, true_and]
    omega

/-- A number is read as one literal, its sign included. -/
theorem spells_signed (digit : ∀ c ∈ word.head?, c.isDigit = true) :
    Spells (String.ofList (signedChars negative word)) (.literal kind value) := by
  have unsigned : word.head? ≠ some '-' := fun minus => by cases digit '-' minus
  refine ⟨fun lenient => ?_, fun {front parts} read opened => ?_, ?_⟩
  · obtain ⟨lexemes, split, nonempty, -, added⟩ :=
      lexemes_of_signed numeric lexed number lenient 0 digit
    have whole : Lexeme.split? lenient (String.ofList (signedChars negative word)) = .ok lexemes := by
      refine Lexeme.split_eq_ok.mpr ⟨nonempty, ?_⟩
      rw [String.toList_ofList]
      exact split none 0 rfl
    have reads := added [] open_nil
    rw [PlacedPart.ofText_of_split whole, PlacedPart.ofLexemes?, reads, String.toList_ofList,
      Nat.zero_add]
    rfl
  · obtain ⟨before, split, reads⟩ := Tiers.bind_eq_ok.mp read
    obtain ⟨placed, added, rfl⟩ := Tiers.map_eq_ok.mp reads
    obtain ⟨nonempty, split⟩ := Lexeme.split_eq_ok.mp split
    obtain ⟨lexemes, more, -, shut, adds⟩ := lexemes_of_signed numeric lexed number false
      (byteLength front.toList + 1) digit
    have parted : Token.Parted (signedChars negative word) := by
      cases negative with
      | true => exact Token.parted_of_number (.inl rfl)
      | false =>
        obtain ⟨first, others, rfl⟩ := List.exists_cons_of_ne_nil lexed.nonempty
        exact Token.parted_of_number (.inr (digit first rfl))
    have whole : Lexeme.split? false (front ++ " " ++ String.ofList (signedChars negative word)) =
        .ok (before ++ lexemes) := by
      refine Lexeme.split_eq_ok.mpr ⟨by simp [nonempty], ?_⟩
      have place : Cursor.start (front ++ " " ++ String.ofList (signedChars negative word)).toList =
          (Surroundings.spaced (signedChars negative word)).place (Cursor.start front.toList) := by
        simp [Cursor.start, Surroundings.place, Surroundings.spaced]
      rw [place]
      refine Lexeme.from_continued parted split fun passed => ?_
      rw [Nat.zero_add]
      exact more (some ' ') passed rfl
    rw [← List.map_reverse, List.reverse_reverse] at opened
    rw [PlacedPart.ofText_of_split whole, PlacedPart.ofLexemes?,
      PlacedPart.addAll_append shut added, adds placed opened, String.toList_ofList]
    simp [Except.map]
  · rw [String.toList_ofList]
    exact legible_signed numeric lexed unsigned number

end Numbers

end PathQuery
