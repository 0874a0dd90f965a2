import PathQuery.Proofs.Acceptance

/-!
Brackets of both kinds on one stack. Main statement: `nested_of_accepted`, in an accepted text that
came to a single expression every bracket closes the last one opened, and separators stand only
between the arguments of a call or the elements of a list.
-/

namespace PathQuery

/-- What an opening bracket encloses: arguments, a scope, the elements of a list, or an index. -/
inductive Bracket where
  | call
  | scope
  | list
  | index
deriving DecidableEq

namespace Bracket

def closer : Bracket → TokenKind
  | call | scope => .scopeStop
  | list | index => .indexStop

/-- Whether separators may stand directly inside of a bracket. -/
def separates : Bracket → Bool
  | call | list => true
  | scope | index => false

end Bracket

/-- What a token ends, as far as it decides what a bracket behind it encloses: something that is
called, a path, or anything else. -/
inductive Ended where
  | callee
  | path
  | other
deriving DecidableEq

/-- The brackets that are open, the last of them first, and what the last token ended. -/
structure Nesting where
  opened : List Bracket
  ended : Ended
deriving DecidableEq

namespace Nesting

/-- What the closing of a bracket ends. -/
def afterClosing : Bracket → Ended
  | .call => .callee
  | .index => .path
  | .scope | .list => .other

/-- The brackets that are open after a token; `none` when the token does not close the last of them
or separates nothing. Behind a path or something that is called, a parenthesis encloses arguments;
behind a path, a square bracket encloses an index. -/
def next? (nesting : Nesting) (part : Part) : Option Nesting :=
  match part.kind with
  | .scopeStart =>
      some ⟨(if nesting.ended = .other then .scope else .call) :: nesting.opened, .other⟩
  | .indexStart =>
      some ⟨(if nesting.ended = .path then .index else .list) :: nesting.opened, .other⟩
  | .scopeStop | .indexStop =>
      match nesting.opened with
      | bracket :: others =>
          if bracket.closer = part.kind then some ⟨others, afterClosing bracket⟩ else none
      | [] => none
  | .separator =>
      match nesting.opened with
      | bracket :: _ => if bracket.separates then some ⟨nesting.opened, .other⟩ else none
      | [] => none
  | .method => some ⟨nesting.opened, .callee⟩
  | .path => some ⟨nesting.opened, .path⟩
  | _ => some ⟨nesting.opened, .other⟩

/-- The brackets that are open after some tokens. -/
def run (nesting : Nesting) (parts : List Part) : Option Nesting :=
  parts.foldlM next? nesting

/-- Whether all brackets are closed where and as they should be, and every separator has its
place. -/
def Closed (parts : List Part) : Prop :=
  (run ⟨[], .other⟩ parts).any (·.opened.isEmpty) = true

instance (parts : List Part) : Decidable (Closed parts) :=
  inferInstanceAs (Decidable (_ = _))

variable {opened : List Bracket} {ended : Ended} {part : Part}

theorem run_cons {nesting middle : Nesting} {parts : List Part}
    (next : nesting.next? part = some middle) :
    nesting.run (part :: parts) = middle.run parts := by
  rw [run, List.foldlM_cons, next]
  rfl

theorem run_append {nesting middle : Nesting} {parts others : List Part}
    (runs : nesting.run parts = some middle) : nesting.run (parts ++ others) = middle.run others := by
  rw [run] at runs
  rw [run, List.foldlM_append, runs]
  rfl

theorem run_singleton {nesting : Nesting} : nesting.run [part] = nesting.next? part := by
  rw [run, List.foldlM_cons]
  cases nesting.next? part <;> rfl

theorem next_of_plain (plain : part.isPlain = true) :
    next? ⟨opened, ended⟩ part = some ⟨opened, .other⟩ := by
  simp only [Part.isPlain, Bool.and_eq_true, Bool.not_eq_true'] at plain
  have other := plain.2
  unfold next?
  revert other
  cases part.kind <;> simp [TokenKind.isStructural]

theorem next_of_scopeStart (opens : part.kind = .scopeStart) :
    next? ⟨opened, ended⟩ part =
      some ⟨(if ended = .other then .scope else .call) :: opened, .other⟩ := by
  simp only [next?, opens]

theorem next_of_indexStart (opens : part.kind = .indexStart) :
    next? ⟨opened, ended⟩ part =
      some ⟨(if ended = .path then .index else .list) :: opened, .other⟩ := by
  simp only [next?, opens]

theorem next_of_closer {bracket : Bracket} (closes : part.kind = bracket.closer) :
    next? ⟨bracket :: opened, ended⟩ part = some ⟨opened, afterClosing bracket⟩ := by
  unfold next?
  rw [closes]
  cases bracket <;> rfl

theorem next_of_separator {bracket : Bracket} (separates : bracket.separates = true)
    (separator : part.kind = .separator) :
    next? ⟨bracket :: opened, ended⟩ part = some ⟨bracket :: opened, .other⟩ := by
  unfold next?
  rw [separator]
  exact if_pos separates

theorem run_brackets {bracket : Bracket} {opening closing : Part} {parts : List Part}
    {inside : Ended} (opens : next? ⟨opened, ended⟩ opening = some ⟨bracket :: opened, .other⟩)
    (runs : run ⟨bracket :: opened, .other⟩ parts = some ⟨bracket :: opened, inside⟩)
    (closes : closing.kind = bracket.closer) :
    run ⟨opened, ended⟩ (opening :: parts ++ [closing]) = some ⟨opened, afterClosing bracket⟩ := by
  rw [List.cons_append, run_cons opens, run_append runs, run_singleton]
  exact next_of_closer closes

end Nesting

open Nesting (run run_append run_cons run_brackets run_singleton)

mutual

theorem Derives.run {parts : List Part} {expression : Expression} :
    Derives parts expression → ∀ opened, ∃ ended,
      Nesting.run ⟨opened, .other⟩ parts = some ⟨opened, ended⟩
  | .phrase sequence phrase _ => by
    intro opened
    exact Sequence.run sequence opened .other phrase.isChain (.inl rfl)

theorem Sequence.run {parts items : List Part} :
    Sequence parts items → ∀ opened ended, items.IsChain Apart →
      (ended = .other ∨ ∀ item ∈ items.head?, item.isOperand = false) →
      ∃ last, Nesting.run ⟨opened, ended⟩ parts = some ⟨opened, last⟩
  | .nil => by
    intro opened ended spaced free
    exact ⟨ended, rfl⟩
  | .plain stays sequence => by
    intro opened ended spaced free
    obtain ⟨last, runs⟩ := Sequence.run sequence opened .other spaced.tail (.inl rfl)
    exact ⟨last, by rw [run_cons (Nesting.next_of_plain stays), runs]⟩
  | @Sequence.atom _ _ items item begins sequence => by
    intro opened ended spaced free
    obtain rfl : ended = .other := by
      rcases free with same | free
      · exact same
      · have operand := free item rfl
        rw [begins.isOperand] at operand
        cases operand
    obtain ⟨middle, block⟩ := Atom.run begins opened
    obtain ⟨last, runs⟩ := Sequence.run sequence opened middle spaced.tail (.inr (by
      intro next first
      obtain ⟨others, rfl⟩ := List.head?_eq_some_iff.mp first
      have apart := (List.isChain_cons_cons.mp spaced).1 begins.isOperand
      by_contra operand
      rw [Part.isOperator_of_isOperand (by simpa using operand)] at apart
      cases apart))
    exact ⟨last, by rw [run_append block, runs]⟩

theorem Atom.run {block : List Part} {item : Part} :
    Atom block item → ∀ opened, ∃ ended,
      Nesting.run ⟨opened, .other⟩ block = some ⟨opened, ended⟩
  | .unit opens closes => by
    intro opened
    exact ⟨_, @run_brackets _ _ _ _ _ [] _ (Nesting.next_of_scopeStart opens) rfl closes⟩
  | .scope opens closes derives => by
    intro opened
    obtain ⟨ended, runs⟩ := Derives.run derives (.scope :: opened)
    exact ⟨_, run_brackets (Nesting.next_of_scopeStart opens) runs closes⟩
  | .array listed => by
    intro opened
    exact ⟨_, Listed.run listed .list opened .other rfl rfl fun _ => Nesting.next_of_indexStart⟩
  | .list listed mixed => by
    intro opened
    exact ⟨_, Listed.run listed .list opened .other rfl rfl fun _ => Nesting.next_of_indexStart⟩
  | .call called => by
    intro opened
    exact ⟨_, Call.run called opened⟩
  | .path walked => by
    intro opened
    exact ⟨_, Path.run walked opened⟩

theorem Call.run {parts : List Part} {target : Target} {arguments : List Expression} :
    Call parts target arguments → ∀ opened,
      Nesting.run ⟨opened, .other⟩ parts = some ⟨opened, .callee⟩
  | .method listed => by
    intro opened
    exact Listed.run listed .call opened .callee rfl rfl fun _ => Nesting.next_of_scopeStart
  | .again called listed => by
    intro opened
    rw [run_append (Call.run called opened)]
    exact Listed.run listed .call opened .callee rfl rfl fun _ => Nesting.next_of_scopeStart
  | .ofPath walked listed => by
    intro opened
    rw [run_append (Path.run walked opened)]
    exact Listed.run listed .call opened .path rfl rfl fun _ => Nesting.next_of_scopeStart

theorem Path.run {parts : List Part} {segments : List Segment} :
    Path parts segments → ∀ opened, Nesting.run ⟨opened, .other⟩ parts = some ⟨opened, .path⟩
  | .start => by
    intro opened
    rfl
  | .after atom => by
    intro opened
    obtain ⟨ended, runs⟩ := Atom.run atom opened
    rw [run_append runs]
    rfl
  | .name walked => by
    intro opened
    rw [run_append (Path.run walked opened)]
    rfl
  | .index walked opens closes derives => by
    intro opened
    obtain ⟨ended, runs⟩ := Derives.run derives (.index :: opened)
    rw [List.append_assoc, run_append (Path.run walked opened)]
    exact run_brackets (Nesting.next_of_indexStart opens) runs closes

theorem Listed.run {start stop : TokenKind} {parts : List Part} {expressions : List Expression} :
    Listed start stop parts expressions → ∀ (bracket : Bracket) opened ended,
      bracket.separates = true → stop = bracket.closer →
      (∀ opening : Part, opening.kind = start →
        Nesting.next? ⟨opened, ended⟩ opening = some ⟨bracket :: opened, .other⟩) →
      Nesting.run ⟨opened, ended⟩ parts = some ⟨opened, Nesting.afterClosing bracket⟩
  | @Listed.empty _ _ opening closing opens closes => by
    intro bracket opened ended separates same encloses
    exact @run_brackets _ _ _ _ _ [] _ (encloses opening opens) rfl (closes.trans same)
  | .elements opens closes elements => by
    intro bracket opened ended separates same encloses
    obtain ⟨inside, runs⟩ := Elements.run elements bracket opened separates
    exact run_brackets (encloses _ opens) runs (closes.trans same)

theorem Elements.run {parts : List Part} {expressions : List Expression} :
    Elements parts expressions → ∀ (bracket : Bracket) opened, bracket.separates = true →
      ∃ ended, Nesting.run ⟨bracket :: opened, .other⟩ parts = some ⟨bracket :: opened, ended⟩
  | .single derives => by
    intro bracket opened separates
    exact Derives.run derives (bracket :: opened)
  | .cons derives separator elements => by
    intro bracket opened separates
    obtain ⟨middle, runs⟩ := Derives.run derives (bracket :: opened)
    obtain ⟨ended, others⟩ := Elements.run elements bracket opened separates
    exact ⟨ended, by
      rw [run_append runs, run_cons (Nesting.next_of_separator separates separator), others]⟩

end

/-- An accepted text comes to a single expression just when the grammar generates it. Then all
brackets are nested, and separators stand between arguments or elements. -/
theorem nested_of_accepted {options : ParserOptions} {text : String} {parts : List Part}
    {expression : Expression} (accepted : Accepted options text parts expression) :
    (Analysis.Single parts ↔ Derives parts expression) ∧
      (Analysis.Single parts → Nesting.Closed parts) := by
  refine ⟨accepted.single_iff_derives, ?_⟩
  intro single
  obtain ⟨ended, runs⟩ := (accepted.single_iff_derives.mp single).run []
  rw [Nesting.Closed, runs]
  rfl

theorem nested_of_scope_in_list : ∃ parts expression,
    Accepted {} "[(a/b[1] + 2) * 3, f(x)(y, [])]" parts expression ∧ Nesting.Closed parts := by
  obtain ⟨parts, expression, accepted, single⟩ := Accepted.of_passes
    {} "[(a/b[1] + 2) * 3, f(x)(y, [])]"
    (fun parts _ => decide (Analysis.Single parts)) (by decide +kernel)
  exact ⟨parts, expression, accepted, (nested_of_accepted accepted).2 (of_decide_eq_true single)⟩

/-- After a scope that takes away a number instead of its parenthesis, crossed brackets pass. -/
theorem not_nested_of_stray_scope : ∃ parts expression,
    Accepted {} "(1 2) [(]) [3, + 1, + 1, + 1, + 1, + 1, + 1, + 1, + 1]" parts expression ∧
      ¬Nesting.Closed parts := by
  obtain ⟨parts, expression, accepted, crossed⟩ := Accepted.of_passes
    {} "(1 2) [(]) [3, + 1, + 1, + 1, + 1, + 1, + 1, + 1, + 1]"
    (fun parts _ => !decide (Nesting.Closed parts)) (by decide +kernel)
  exact ⟨parts, expression, accepted, by simpa using crossed⟩

end PathQuery
