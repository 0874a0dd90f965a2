import PathQuery.Proofs.Nesting

/-!
Parts whose brackets are closed and whose separators all stand inside of brackets. Expressions are
such, so where such parts are joined by separators, these divide the elements. Main statements:
`elements_enclosed_iff`, `elements_joined_iff`.
-/

namespace PathQuery

/-- What is awaited after a token to close the brackets that are open, the last of them first;
`none` when the token closes another bracket, or separates outside of all brackets. -/
def TokenKind.enclose? (awaited : List TokenKind) : TokenKind → Option (List TokenKind)
  | .scopeStart => some (.scopeStop :: awaited)
  | .indexStart => some (.indexStop :: awaited)
  | .scopeStop => if awaited.head? = some .scopeStop then some awaited.tail else none
  | .indexStop => if awaited.head? = some .indexStop then some awaited.tail else none
  | .separator => if awaited = [] then none else some awaited
  | _ => some awaited

/-- Whether every bracket is closed and no separator stands outside of all brackets. -/
def Enclosed (kinds : List TokenKind) : Prop :=
  kinds.foldlM TokenKind.enclose? [] = some []

instance (kinds : List TokenKind) : Decidable (Enclosed kinds) :=
  inferInstanceAs (Decidable (_ = _))

namespace Nesting

theorem enclose_of_next {nesting after : Nesting} {part : Part}
    (next : nesting.next? part = some after) :
    part.kind.enclose? (nesting.opened.map Bracket.closer) =
      some (after.opened.map Bracket.closer) := by
  obtain ⟨opened, ended⟩ := nesting
  unfold next? at next
  split at next
  · rename_i kind
    cases next
    rw [kind, TokenKind.enclose?]
    split <;> rfl
  · rename_i kind
    cases next
    rw [kind, TokenKind.enclose?]
    split <;> rfl
  iterate 2
    · rename_i kind
      cases opened with
      | nil => cases next
      | cons bracket others =>
        dsimp only at next
        split at next
        · rename_i closes
          cases next
          rw [kind] at closes ⊢
          simp [TokenKind.enclose?, closes]
        · cases next
  · rename_i kind
    cases opened with
    | nil => cases next
    | cons bracket others =>
      dsimp only at next
      split at next
      · cases next
        rw [kind]
        rfl
      · cases next
  iterate 2
    · rename_i kind
      cases next
      rw [kind]
      rfl
  · rename_i scopeStart indexStart scopeStop indexStop separator _ _
    cases next
    revert scopeStart indexStart scopeStop indexStop separator
    cases part.kind <;> simp [TokenKind.enclose?]

theorem enclose_of_run {nesting after : Nesting} {parts : List Part}
    (runs : nesting.run parts = some after) :
    (parts.map Part.kind).foldlM TokenKind.enclose? (nesting.opened.map Bracket.closer) =
      some (after.opened.map Bracket.closer) := by
  induction parts generalizing nesting with
  | nil =>
    cases runs
    rfl
  | cons part parts ih =>
    rw [run, List.foldlM_cons] at runs
    obtain ⟨middle, next, runs⟩ := Option.bind_eq_some_iff.mp runs
    rw [List.map_cons, List.foldlM_cons, enclose_of_next next]
    exact ih runs

end Nesting

theorem Derives.enclosed {parts : List Part} {expression : Expression}
    (derives : Derives parts expression) : Enclosed (parts.map Part.kind) := by
  obtain ⟨ended, runs⟩ := derives.run []
  exact Nesting.enclose_of_run runs

namespace Enclosed

variable {block other rest left : List Part} {separator mark : Part}

theorem not_separated (enclosed : Enclosed (block.map Part.kind))
    (separates : separator.kind = .separator) :
    ¬Enclosed ((block ++ separator :: rest).map Part.kind) := by
  intro whole
  rw [Enclosed, List.map_append, List.foldlM_append, enclosed, List.map_cons, separates] at whole
  cases whole

theorem append_inj (enclosed : Enclosed (block.map Part.kind))
    (others : Enclosed (other.map Part.kind)) (separates : separator.kind = .separator)
    (marks : mark.kind = .separator) (same : block ++ separator :: rest = other ++ mark :: left) :
    block = other ∧ rest = left := by
  rcases List.append_eq_append_iff.mp same with ⟨more, rfl, split⟩ | ⟨more, rfl, split⟩
  · cases more with
    | nil => exact ⟨by simp, (List.cons.inj split).2⟩
    | cons first more =>
      obtain ⟨rfl, -⟩ := List.cons.inj split
      exact absurd others (enclosed.not_separated separates)
  · cases more with
    | nil => exact ⟨by simp, (List.cons.inj split).2.symm⟩
    | cons first more =>
      obtain ⟨rfl, -⟩ := List.cons.inj split
      exact absurd enclosed (others.not_separated marks)

end Enclosed

section Elements

variable {block rest : List Part} {separator : Part} {values : List Expression}

theorem elements_enclosed_iff (enclosed : Enclosed (block.map Part.kind)) :
    Elements block values ↔ ∃ value, values = [value] ∧ Derives block value := by
  constructor
  · intro elements
    cases elements with
    | single derives => exact ⟨_, rfl, derives⟩
    | cons derives separates _ => exact absurd enclosed (derives.enclosed.not_separated separates)
  · rintro ⟨value, rfl, derives⟩
    exact .single derives

theorem elements_cons_iff (enclosed : Enclosed (block.map Part.kind))
    (separates : separator.kind = .separator) :
    Elements (block ++ separator :: rest) values ↔
      ∃ value others, values = value :: others ∧ Derives block value ∧ Elements rest others := by
  constructor
  · generalize whole : block ++ separator :: rest = parts
    intro elements
    cases elements with
    | single derives =>
      subst whole
      exact absurd derives.enclosed (enclosed.not_separated separates)
    | cons derives marks elements =>
      obtain ⟨rfl, rfl⟩ := enclosed.append_inj derives.enclosed separates marks whole
      exact ⟨_, _, rfl, derives, elements⟩
  · rintro ⟨value, others, rfl, derives, elements⟩
    exact .cons derives separates elements

/-- Where enclosed parts are joined by separators, these divide the elements. -/
theorem elements_joined_iff {blocks : List (List Part)} (separates : separator.kind = .separator)
    (enclosed : ∀ block ∈ blocks, Enclosed (block.map Part.kind)) (nonempty : blocks ≠ []) :
    Elements ([separator].intercalate blocks) values ↔ List.Forall₂ Derives blocks values := by
  induction blocks generalizing values with
  | nil => exact absurd rfl nonempty
  | cons block blocks ih =>
    obtain ⟨first, later⟩ := List.forall_mem_cons.mp enclosed
    rw [List.forall₂_cons_left_iff]
    cases blocks with
    | nil =>
      rw [List.intercalate_singleton, elements_enclosed_iff first]
      constructor
      · rintro ⟨value, rfl, derives⟩
        exact ⟨value, [], derives, .nil, rfl⟩
      · rintro ⟨value, others, derives, none, rfl⟩
        cases none
        exact ⟨value, rfl, derives⟩
    | cons next blocks =>
      rw [List.intercalate_cons_cons, List.append_assoc, List.singleton_append,
        elements_cons_iff first separates]
      constructor
      · rintro ⟨value, others, rfl, derives, elements⟩
        exact ⟨value, others, derives, (ih later (by simp)).mp elements, rfl⟩
      · rintro ⟨value, others, derives, all, rfl⟩
        exact ⟨value, others, rfl, derives, (ih later (by simp)).mpr all⟩

end Elements

namespace Balance

/-- What is open where some kinds are awaited. -/
def ofAwaited (awaited : List TokenKind) : Balance :=
  { scopes := awaited.count .scopeStop, indexes := awaited.count .indexStop }

variable {options : ParserOptions} {awaited left : List TokenKind}

/-- What is awaited closes brackets. -/
def Closers (awaited : List TokenKind) : Prop :=
  ∀ kind ∈ awaited, kind = .scopeStop ∨ kind = .indexStop

theorem Closers.of_enclose {kind : TokenKind} (closers : Closers awaited)
    (encloses : kind.enclose? awaited = some left) : Closers left := by
  unfold TokenKind.enclose? at encloses
  split at encloses
  iterate 2
    · cases encloses
      exact List.forall_mem_cons.mpr ⟨by simp, closers⟩
  iterate 2
    · split at encloses
      · cases encloses
        exact fun kind member => closers kind (List.mem_of_mem_tail member)
      · cases encloses
  · split at encloses
    · cases encloses
    · cases encloses
      exact closers
  · cases encloses
    exact closers

theorem add_of_enclose {kind : TokenKind} (closers : Closers awaited)
    (encloses : kind.enclose? awaited = some left) :
    (ofAwaited awaited).add? options kind = .ok (ofAwaited left) := by
  unfold TokenKind.enclose? at encloses
  split at encloses
  iterate 2
    · cases encloses
      simp [add?, ofAwaited]
  iterate 2
    · split at encloses
      · rename_i awaits
        cases encloses
        obtain ⟨others, rfl⟩ := List.head?_eq_some_iff.mp awaits
        simp [add?, ofAwaited]
      · cases encloses
  · split at encloses
    · cases encloses
    · rename_i some
      cases encloses
      obtain ⟨kind, others, rfl⟩ := List.exists_cons_of_ne_nil some
      rcases closers kind List.mem_cons_self with rfl | rfl <;> simp [add?, ofAwaited]
  · rename_i scopeStart indexStart scopeStop indexStop separator
    cases encloses
    revert scopeStart indexStart scopeStop indexStop separator
    cases kind <;> simp [add?]

theorem fold_of_enclose {kinds : List TokenKind} (closers : Closers awaited)
    (encloses : kinds.foldlM TokenKind.enclose? awaited = some left) :
    kinds.foldlM (add? options) (ofAwaited awaited) = .ok (ofAwaited left) := by
  induction kinds generalizing awaited with
  | nil =>
    cases encloses
    rfl
  | cons kind kinds ih =>
    rw [List.foldlM_cons] at encloses ⊢
    obtain ⟨middle, first, encloses⟩ := Option.bind_eq_some_iff.mp encloses
    rw [add_of_enclose closers first]
    exact ih (closers.of_enclose first) encloses

theorem fold_of_enclosed {kinds : List TokenKind} (enclosed : Enclosed kinds) :
    kinds.foldlM (add? options) {} = .ok {} :=
  fold_of_enclose (by simp [Closers]) enclosed

end Balance

theorem validate_enclosed {options : ParserOptions} {parts : List Part}
    (enclosed : Enclosed (parts.map Part.kind)) : validate options parts = .ok () := by
  rw [validate, Balance.fold_of_enclosed enclosed]
  rfl

/-- Enclosed parts that are joined by separators are balanced. -/
theorem validate_joined {options : ParserOptions} {separator : Part} {blocks : List (List Part)}
    (unscoped : options.allowUnscopedSeparators = true) (separates : separator.kind = .separator)
    (enclosed : ∀ block ∈ blocks, Enclosed (block.map Part.kind)) :
    validate options ([separator].intercalate blocks) = .ok () := by
  have balanced : (([separator].intercalate blocks).map Part.kind).foldlM
      (Balance.add? options) {} = .ok {} := by
    induction blocks with
    | nil => rfl
    | cons block blocks ih =>
      obtain ⟨first, later⟩ := List.forall_mem_cons.mp enclosed
      have closed : (block.map Part.kind).foldlM (Balance.add? options) {} = .ok {} :=
        Balance.fold_of_enclosed first
      cases blocks with
      | nil => rwa [List.intercalate_singleton]
      | cons next blocks =>
        have passes : Balance.add? options {} .separator = .ok {} := by
          simp [Balance.add?, unscoped]
        rw [List.intercalate_cons_cons, List.append_assoc, List.singleton_append, List.map_append,
          List.map_cons, List.foldlM_append, closed, separates]
        show List.foldlM _ _ _ = _
        rw [List.foldlM_cons, passes]
        exact ih later
  rw [validate, balanced]
  rfl

end PathQuery
