import Mathlib.Data.Bool.AllAny
import PathQuery.Proofs.Analysis.Ranges
import PathQuery.Proofs.Enclosure
import PathQuery.Proofs.Lexing.Context
import PathQuery.Proofs.WellFormed.Names
import PathQuery.Proofs.Words

/-!
Texts that are joined by commas. Main statement: `parse_joined`, where separators are allowed
outside of brackets, joined texts are accepted when each of them is, and come to the list of what
these come to.
-/

namespace PathQuery

/-- The lexemes of a text, whatever stands between them. -/
def Lexeme.all (text : String) : List Lexeme :=
  match from? true 0 (Cursor.start text.toList) with
  | .ok lexemes => lexemes
  | .error _ => []

/-- The kind of a word that no parenthesis follows. -/
def Token.kindOf (word : List Char) : TokenKind :=
  (identify? word false).getD .unknown

/-- Whether the brackets of a text are closed and its separators stand inside of brackets. -/
def Balanced (text : String) : Prop :=
  Enclosed ((Lexeme.all text).map fun lexeme => Token.kindOf lexeme.text)

instance (text : String) : Decidable (Balanced text) :=
  inferInstanceAs (Decidable (Enclosed _))

/-- A text that balanced pieces make with commas between them. -/
inductive Joined : String → List String → Prop
  | single {piece : String} : Balanced piece → Joined piece [piece]
  | more {piece rest : String} {pieces : List String} : Balanced piece →
      (∃ lexeme ∈ Lexeme.all (piece ++ "," ++ rest), lexeme.span.start = byteLength piece.toList) →
      Joined rest pieces → Joined (piece ++ "," ++ rest) (piece :: pieces)

namespace Token

/-- Whether a word of a kind opens or closes a bracket or separates. -/
def divides (kind : TokenKind) : Bool :=
  kind.opensRange || kind.closesRange

theorem enclose_of_not_divides {kind : TokenKind} (plain : divides kind = false)
    (awaited : List TokenKind) : kind.enclose? awaited = some awaited := by
  revert plain
  cases kind <;> simp [divides, TokenKind.opensRange, TokenKind.closesRange, TokenKind.enclose?]

theorem lexeme_of_divides : ∀ entry ∈ grammar, divides entry.kind = true →
    ∃ c ∈ [',', '(', ')', '[', ']'], entry.lexeme = .exactly c := by
  simp [grammar, divides, TokenKind.opensRange, TokenKind.closesRange, Pattern.text, Pattern.concat]

theorem identify_divider : ∀ c ∈ [',', '(', ')', '[', ']'], ∀ beforeScope other : Bool,
    identify? [c] beforeScope = identify? [c] other := by
  refine List.all_iff_forall_prop.mp ?_
  decide +kernel

theorem identify_of_divides {word : List Char} {kind : TokenKind} {beforeScope : Bool}
    (identified : identify? word beforeScope = some kind) (divided : divides kind = true)
    (other : Bool) : identify? word other = some kind := by
  obtain ⟨entry, found, rfl⟩ := Option.map_eq_some_iff.mp identified
  obtain ⟨c, listed, single⟩ := lexeme_of_divides entry (List.mem_of_find?_eq_some found) divided
  have matched := List.find?_some found
  rw [single] at matched
  obtain rfl := Pattern.spans_exactly.mp
    (Pattern.matchesAll_iff.mp (Bool.and_eq_true_iff.mp matched).1)
  rw [identify_divider c listed other beforeScope, identified]

theorem enclose_kindOf (word : List Char) (beforeScope : Bool) (awaited : List TokenKind) :
    ((identify? word beforeScope).getD .unknown).enclose? awaited =
      (kindOf word).enclose? awaited := by
  have same : ∀ one other, divides ((identify? word one).getD .unknown) = true →
      identify? word other = identify? word one := by
    intro one other divided
    cases identified : identify? word one with
    | none =>
      rw [identified] at divided
      cases divided
    | some kind =>
      rw [identified] at divided
      exact identify_of_divides identified divided other
  cases divided : divides ((identify? word beforeScope).getD .unknown) with
  | true => rw [kindOf, same beforeScope false divided]
  | false =>
    cases alone : divides (kindOf word) with
    | true => rw [kindOf, same false beforeScope alone]
    | false => rw [enclose_of_not_divides divided, enclose_of_not_divides alone]

end Token

section Kinds

variable {lenient : Bool} {parts next : List Part}

/-- What is awaited after some parts, of which the last comes first. -/
def Part.awaited? (parts : List Part) : Option (List TokenKind) :=
  (parts.reverse.map Part.kind).foldlM TokenKind.enclose? []

theorem Part.awaited_cons (part : Part) (parts : List Part) :
    awaited? (part :: parts) = awaited? parts >>= fun awaited => part.kind.enclose? awaited := by
  simp [awaited?, List.foldlM_append]

theorem awaited_of_add {word : List Char} {beforeScope : Bool}
    (added : Part.add? lenient parts word beforeScope = .ok next) :
    Part.awaited? next =
      Part.awaited? parts >>= fun awaited => (Token.kindOf word).enclose? awaited := by
  obtain ⟨part, before, rfl, kind, rfl | ⟨minus, rfl, subtract, literal⟩⟩ := Part.kind_of_add added
  · simp only [Part.awaited_cons, kind, Token.enclose_kindOf]
  · have plain : Token.divides part.kind = false := by
      revert literal
      cases part.kind <;> simp [TokenKind.isLiteral, Token.divides, TokenKind.opensRange,
        TokenKind.closesRange]
    simp only [Part.awaited_cons, ← Token.enclose_kindOf word beforeScope, ← kind, subtract,
      Token.enclose_of_not_divides plain]
    cases Part.awaited? before <;> rfl

theorem awaited_of_addAll {words : List (List Char)}
    (added : Part.addAll? lenient parts words = .ok next) :
    Part.awaited? next = Part.awaited? parts >>= fun awaited =>
      (words.map Token.kindOf).foldlM TokenKind.enclose? awaited := by
  induction words generalizing parts with
  | nil =>
    cases added
    simp
  | cons word words ih =>
    obtain ⟨middle, first, others⟩ := Tiers.bind_eq_ok.mp added
    rw [ih others, awaited_of_add first]
    cases Part.awaited? parts <;> simp [List.foldlM_cons]

end Kinds

theorem Lexeme.texts_all {lenient : Bool} {text : String} {words : List (List Char)}
    (lexes : Lexes lenient (Cursor.start text.toList) words) :
    (all text).map Lexeme.text = words := by
  obtain ⟨lexemes, split, rfl⟩ := (lexes_iff true 0 _ words).mpr lexes.loosen
  rw [all, split]

section Pieces

variable {lenient : Bool} {piece rest : String} {parts block : List Part}

theorem Balanced.enclosed (balanced : Balanced piece)
    (readable : Readable lenient piece.toList block) : Enclosed (block.map Part.kind) := by
  obtain ⟨words, lexes, added⟩ := readable
  have closed := awaited_of_addAll added
  rw [Part.awaited?, List.reverse_reverse] at closed
  rw [Enclosed, closed]
  rw [Balanced, ← Function.comp_def, ← List.map_map, Lexeme.texts_all lexes] at balanced
  exact balanced

def Part.comma : Part :=
  .text .separator ","

theorem Part.kind_comma : comma.kind = .separator := rfl

theorem add_comma (beforeScope : Bool) :
    Part.add? lenient parts [','] beforeScope = .ok (Part.comma :: parts) := by
  have separates : Token.identify? [','] beforeScope = some .separator := by
    cases beforeScope <;> decide +kernel
  simp [Part.add?, PlacedPart.add?, Lexeme.ofWord, separates, Except.map, Part.comma]

theorem fresh_comma : Part.comma.unplaced.Fresh :=
  ⟨by decide, rfl⟩

theorem addAll_comma (front back : List (List Char)) :
    Part.addAll? lenient [] (front ++ [','] :: back) = (do
      let before ← Part.addAll? lenient [] front
      let behind ← Part.addAll? lenient [] back
      return behind ++ Part.comma :: before) := by
  rw [Part.addAll_append (by rfl)]
  congr 1
  funext before
  rw [Part.addAll?, add_comma]
  show Part.addAll? lenient ([] ++ Part.comma :: before) back = _
  rw [Part.addAll_onto fresh_comma]
  cases Part.addAll? lenient [] back <;> rfl

theorem lexes_joined
    (stands : ∃ lexeme ∈ Lexeme.all (piece ++ "," ++ rest),
      lexeme.span.start = byteLength piece.toList) {words : List (List Char)} :
    Lexes lenient (Cursor.start (piece ++ "," ++ rest).toList) words ↔
      ∃ front back, words = front ++ [','] :: back ∧
        Lexes lenient (Cursor.start piece.toList) front ∧
        Lexes lenient (Cursor.start rest.toList) back := by
  have place : (Surroundings.comma rest.toList).place (Cursor.start piece.toList) =
      Cursor.start (piece ++ "," ++ rest).toList := by
    simp [Surroundings.comma, Surroundings.place, Cursor.start]
  obtain ⟨lexeme, member, start⟩ := stands
  rw [Lexeme.all] at member
  split at member
  · rename_i lexemes split
    rw [← place] at split ⊢
    exact lexes_comma split ⟨lexeme, member, by simpa [Cursor.start] using start⟩
  · cases member

theorem readable_comma
    (stands : ∃ lexeme ∈ Lexeme.all (piece ++ "," ++ rest),
      lexeme.span.start = byteLength piece.toList) :
    Readable lenient (piece ++ "," ++ rest).toList parts ↔
      ∃ front back, Readable lenient piece.toList front ∧ Readable lenient rest.toList back ∧
        parts = front ++ Part.comma :: back := by
  constructor
  · rintro ⟨words, lexes, added⟩
    obtain ⟨front, back, rfl, before, behind⟩ := (lexes_joined stands).mp lexes
    rw [addAll_comma] at added
    obtain ⟨first, addedFirst, added⟩ := Tiers.bind_eq_ok.mp added
    obtain ⟨second, addedSecond, added⟩ := Tiers.bind_eq_ok.mp added
    refine ⟨first.reverse, second.reverse, ⟨front, before, by simpa using addedFirst⟩,
      ⟨back, behind, by simpa using addedSecond⟩, ?_⟩
    rw [← List.reverse_inj, ← Except.ok.inj added]
    simp
  · rintro ⟨first, second, ⟨front, before, addedFirst⟩, ⟨back, behind, addedSecond⟩, rfl⟩
    refine ⟨_, (lexes_joined stands).mpr ⟨front, back, rfl, before, behind⟩, ?_⟩
    rw [addAll_comma, addedFirst, addedSecond]
    simp [bind, Except.bind, pure, Except.pure]

end Pieces

namespace Joined

variable {lenient : Bool} {text : String} {pieces : List String} {parts : List Part}

theorem nonempty (joined : Joined text pieces) : pieces ≠ [] := by
  cases joined <;> simp

theorem balanced (joined : Joined text pieces) : ∀ piece ∈ pieces, Balanced piece := by
  induction joined with
  | single balanced => simpa using balanced
  | more balanced _ _ ih => exact List.forall_mem_cons.mpr ⟨balanced, ih⟩

theorem readable_iff (joined : Joined text pieces) :
    Readable lenient text.toList parts ↔ ∃ blocks,
      List.Forall₂ (fun piece block => Readable lenient piece.toList block) pieces blocks ∧
        parts = [Part.comma].intercalate blocks := by
  induction joined generalizing parts with
  | single =>
    constructor
    · intro readable
      exact ⟨[parts], .cons readable .nil, by simp⟩
    · rintro ⟨blocks, all, rfl⟩
      cases all with
      | cons readable none =>
        cases none
        simpa using readable
  | @more piece rest pieces balanced stands joined ih =>
    have some := joined.nonempty
    rw [readable_comma stands]
    constructor
    · rintro ⟨front, back, first, second, rfl⟩
      obtain ⟨blocks, all, rfl⟩ := ih.mp second
      cases all with
      | nil => exact absurd rfl some
      | @cons _ next _ blocks readable others =>
        exact ⟨front :: next :: blocks, .cons first (.cons readable others), by simp⟩
    · rintro ⟨blocks, all, rfl⟩
      cases all with
      | @cons _ front _ blocks first others =>
        cases others with
        | nil => exact absurd rfl some
        | @cons _ next _ blocks readable others =>
          exact ⟨front, _, first, ih.mpr ⟨next :: blocks, .cons readable others, rfl⟩, by simp⟩

end Joined

theorem Readable.unique {lenient : Bool} {cs : List Char} {parts others : List Part}
    (readable : Readable lenient cs parts) (more : Readable lenient cs others) :
    parts = others := by
  obtain ⟨words, lexes, added⟩ := readable
  obtain ⟨same, again, addedAgain⟩ := more
  obtain rfl := lexes.unique again
  exact List.reverse_inj.mp (Except.ok.inj (added.symm.trans addedAgain))

theorem Readable.tokens {lenient : Bool} {text : String} {parts : List Part}
    (readable : Readable lenient text.toList parts) : Analysis.Tokens parts := by
  by_cases none : parts = []
  · subst none
    exact ⟨⟨by simp, .nil⟩, by simp⟩
  · obtain ⟨placed, read, rfl⟩ := Tiers.map_eq_ok.mp (text_eq_ok.mpr ⟨none, readable⟩)
    exact ⟨PlacedPart.fit_of_text read, fun part member =>
      ⟨PlacedPart.isToken_of_text read part member, PlacedPart.proper_of_text read part member⟩⟩

section Acceptance

variable {options : ParserOptions} {text : String} {pieces : List String}
  {expression : Expression} {block : List Part}

/-- A balanced text is accepted as the expression that the grammar derives. -/
theorem parse_balanced_iff {piece : String} (unscoped : options.allowUnscopedSeparators = true)
    (balanced : Balanced piece) (readable : Readable options.lenient piece.toList block)
    (free : Analysis.Free block) :
    parse? options piece = .ok expression ↔ Derives block expression := by
  have enclosed := balanced.enclosed readable
  have valid : validate options block = .ok () := by
    have joined : ∀ part ∈ [block], Enclosed (part.map Part.kind) := by simpa using enclosed
    simpa using validate_joined unscoped Part.kind_comma joined
  have analyzed : Analysis.analyze block = .ok expression ↔ _ :=
    Analysis.analyze_iff_elements readable.tokens free (surplus_of_validate valid)
  rw [parse_eq_ok]
  constructor
  · rintro ⟨parts, -, again, -, accepted⟩
    obtain rfl := readable.unique again
    obtain ⟨values, elements, rfl⟩ := analyzed.mp accepted
    obtain ⟨value, rfl, derives⟩ := (elements_enclosed_iff enclosed).mp elements
    exact derives
  · intro derives
    exact ⟨block, derives.ne_nil, readable, valid,
      analyzed.mpr ⟨[expression], .single derives, rfl⟩⟩

theorem parse_pieces_iff {blocks : List (List Part)} {expressions : List Expression}
    (unscoped : options.allowUnscopedSeparators = true)
    (balanced : ∀ piece ∈ pieces, Balanced piece)
    (readable : List.Forall₂ (fun piece block => Readable options.lenient piece.toList block)
      pieces blocks)
    (free : ∀ block ∈ blocks, Analysis.Free block) :
    List.Forall₂ (fun piece expression => parse? options piece = .ok expression) pieces
      expressions ↔ List.Forall₂ Derives blocks expressions := by
  induction readable generalizing expressions with
  | nil => simp
  | cons first _ ih =>
    obtain ⟨firstBalanced, otherBalanced⟩ := List.forall_mem_cons.mp balanced
    obtain ⟨firstFree, otherFree⟩ := List.forall_mem_cons.mp free
    simp only [List.forall₂_cons_left_iff, ih otherBalanced otherFree,
      parse_balanced_iff unscoped firstBalanced first firstFree]

theorem infix_of_mem_intercalate {separator : List Part} {blocks : List (List Part)}
    (member : block ∈ blocks) : block <:+: separator.intercalate blocks := by
  induction blocks with
  | nil => cases member
  | cons first blocks ih =>
    cases blocks with
    | nil =>
      obtain rfl := List.mem_singleton.mp member
      simp
    | cons next blocks =>
      rw [List.intercalate_cons_cons]
      rcases List.mem_cons.mp member with rfl | later
      · rw [List.append_assoc]
        exact (List.prefix_append _ _).isInfix
      · exact (ih later).trans (List.suffix_append _ _).isInfix

theorem Joined.parts_ne_nil {lenient : Bool} {blocks : List (List Part)}
    (joined : Joined text pieces) (several : 2 ≤ pieces.length)
    (readable : List.Forall₂ (fun piece block => Readable lenient piece.toList block)
      pieces blocks) : [Part.comma].intercalate blocks ≠ [] := by
  cases joined with
  | single => simp at several
  | more _ _ others =>
    rcases readable with _ | ⟨-, _ | _⟩
    · exact absurd rfl others.nonempty
    · simp

theorem readable_of_parsed {expressions : List Expression}
    (parsed : List.Forall₂ (fun piece expression => parse? options piece = .ok expression) pieces
      expressions) :
    ∃ blocks, List.Forall₂ (fun piece block => Readable options.lenient piece.toList block)
      pieces blocks := by
  induction parsed with
  | nil => exact ⟨[], .nil⟩
  | cons first _ ih =>
    obtain ⟨block, -, readable, -⟩ := parse_eq_ok.mp first
    obtain ⟨blocks, others⟩ := ih
    exact ⟨block :: blocks, .cons readable others⟩

theorem Joined.enclosed {lenient : Bool} {blocks : List (List Part)} (joined : Joined text pieces)
    (readable : List.Forall₂ (fun piece block => Readable lenient piece.toList block)
      pieces blocks) : ∀ block ∈ blocks, Enclosed (block.map Part.kind) := by
  have balanced := joined.balanced
  clear joined
  induction readable with
  | nil => simp
  | cons first _ ih =>
    obtain ⟨here, later⟩ := List.forall_mem_cons.mp balanced
    exact List.forall_mem_cons.mpr ⟨here.enclosed first, ih later⟩

theorem analyze_joined_iff {blocks : List (List Part)}
    (unscoped : options.allowUnscopedSeparators = true) (joined : Joined text pieces)
    (several : 2 ≤ pieces.length)
    (readable : List.Forall₂ (fun piece block => Readable options.lenient piece.toList block)
      pieces blocks) (free : Analysis.Free ([Part.comma].intercalate blocks)) :
    Analysis.analyze ([Part.comma].intercalate blocks) = .ok expression ↔ ∃ expressions,
      List.Forall₂ (fun piece expression => parse? options piece = .ok expression) pieces
        expressions ∧ expression = Analysis.listOf expressions := by
  have enclosed := joined.enclosed readable
  have whole := joined.readable_iff.mpr ⟨blocks, readable, rfl⟩
  have surplus := surplus_of_validate (validate_joined unscoped Part.kind_comma enclosed)
  have nonempty : blocks ≠ [] := by
    rintro rfl
    exact joined.parts_ne_nil several readable rfl
  rw [Analysis.analyze_iff_elements whole.tokens free surplus]
  simp only [elements_joined_iff Part.kind_comma enclosed nonempty,
    ← parse_pieces_iff unscoped joined.balanced readable fun block member =>
      free.of_infix (infix_of_mem_intercalate member)]
  refine exists_congr fun expressions => and_congr_right fun parsed => ?_
  -- There are several pieces, so their list is a list.
  have counts := parsed.length_eq
  rcases expressions with _ | ⟨first, _ | ⟨second, others⟩⟩
  · rfl
  · simp at counts
    omega
  · rfl

/-- Where separators are allowed outside of brackets, and none of a text is followed by an operator
that takes a left operand, a joined text is accepted when each of its pieces is, and comes to the
list of what these come to. -/
theorem parse_joined (unscoped : options.allowUnscopedSeparators = true)
    (joined : Joined text pieces) (several : 2 ≤ pieces.length)
    (free : ∀ parts, (PlacedPart.ofText? options.lenient text).map (·.map PlacedPart.part) =
      .ok parts → Analysis.Free parts) :
    parse? options text = .ok expression ↔ ∃ expressions,
      List.Forall₂ (fun piece expression => parse? options piece = .ok expression) pieces
        expressions ∧ expression = Analysis.listOf expressions := by
  have read : ∀ {blocks}, List.Forall₂ (fun piece block =>
      Readable options.lenient piece.toList block) pieces blocks →
      [Part.comma].intercalate blocks ≠ [] ∧
        Readable options.lenient text.toList ([Part.comma].intercalate blocks) :=
    fun readable =>
      ⟨joined.parts_ne_nil several readable, joined.readable_iff.mpr ⟨_, readable, rfl⟩⟩
  rw [parse_eq_ok]
  constructor
  · rintro ⟨parts, -, whole, -, accepted⟩
    obtain ⟨blocks, readable, rfl⟩ := joined.readable_iff.mp whole
    exact (analyze_joined_iff unscoped joined several readable
      (free _ (text_eq_ok.mpr (read readable)))).mp accepted
  · rintro ⟨expressions, parsed, rfl⟩
    obtain ⟨blocks, readable⟩ := readable_of_parsed parsed
    obtain ⟨some, whole⟩ := read readable
    exact ⟨_, some, whole, validate_joined unscoped Part.kind_comma (joined.enclosed readable),
      (analyze_joined_iff unscoped joined several readable
        (free _ (text_eq_ok.mpr ⟨some, whole⟩))).mpr ⟨expressions, parsed, rfl⟩⟩

end Acceptance

/-- Three pieces, the commas in the call and in the string being inside of them. -/
theorem parse_list_of_call : ∃ expressions,
    parse? { allowUnscopedSeparators := true } "1, f(a, [2]) + 3, 'b, c'" =
        .ok (Analysis.listOf expressions) ∧
      List.Forall₂ (fun piece expression =>
          parse? { allowUnscopedSeparators := true } piece = .ok expression)
        ["1", " f(a, [2]) + 3", " 'b, c'"] expressions := by
  have joined : Joined "1, f(a, [2]) + 3, 'b, c'" ["1", " f(a, [2]) + 3", " 'b, c'"] := by
    have last : Joined " 'b, c'" [" 'b, c'"] := .single (by decide +kernel)
    have others : Joined (" f(a, [2]) + 3" ++ "," ++ " 'b, c'") [" f(a, [2]) + 3", " 'b, c'"] :=
      .more (by decide +kernel) (by decide +kernel) last
    exact @Joined.more "1" _ _ (by decide +kernel) (by decide +kernel) others
  obtain ⟨parts, expression, accepted, free⟩ := Accepted.of_passes
    { allowUnscopedSeparators := true } "1, f(a, [2]) + 3, 'b, c'"
    (fun parts _ => decide (Analysis.Free parts)) (by decide +kernel)
  obtain ⟨expressions, all, rfl⟩ := (parse_joined rfl joined (by decide) (by
    intro others interpreted
    obtain rfl := Except.ok.inj (accepted.interpreted.symm.trans interpreted)
    exact of_decide_eq_true free)).mp accepted.parsed
  exact ⟨expressions, accepted.parsed, all⟩

/-- An operator behind a comma takes what stands before the comma. -/
theorem parse_of_leading_operator :
    Joined "1, + 2" ["1", " + 2"] ∧
      (∃ expression, parse? { allowUnscopedSeparators := true } "1, + 2" = .ok expression) ∧
      ∀ expression, parse? { allowUnscopedSeparators := true } " + 2" ≠ .ok expression := by
  refine ⟨?_, ?_, ?_⟩
  · have last : Joined " + 2" [" + 2"] := .single (by decide +kernel)
    exact @Joined.more "1" _ _ (by decide +kernel) (by decide +kernel) last
  · obtain ⟨parts, expression, accepted, -⟩ := Accepted.of_passes
      { allowUnscopedSeparators := true } "1, + 2" (fun _ _ => true) (by decide +kernel)
    exact ⟨expression, accepted.parsed⟩
  · have rejected : (parse? { allowUnscopedSeparators := true } " + 2").isOk = false := by
      decide +kernel
    intro expression parsed
    rw [parsed] at rejected
    cases rejected

end PathQuery
