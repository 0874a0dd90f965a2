import PathQuery.Proofs.Precedence

/-!
The passes over a range, seen on all of its parts. A pass leaves what a range has turned into on
both sides of its beginning; `sweep` is the pass from left to right without that division.
-/

namespace PathQuery.Tiers

namespace Range

/-- All the parts of a range, those before its beginning included. -/
def whole (range : Range) : List Part :=
  range.before.reverse ++ range.parts

end Range

/-- Passes from left to right over parts, on a stack of the parts passed. -/
def sweep (tier : Nat) (stack : List Part) (last : Option Expression) :
    List Part → Except ParseError (List Part × Option Expression)
  | [] => .ok (stack, last)
  | part :: rest =>
      match part.kind.precedence? with
      | none => do
          let value ← visit last stack.head? part
          sweep tier (part :: stack) value rest
      | some found =>
          if found < tier then sweep tier (part :: stack) none rest
          else do
            let operator : Operator := ⟨part.kind, part.render⟩
            let left ← leftOperand? operator stack.head?
            let right ← rightOperand? operator rest.head?
            let value := Expression.operation left operator right
            let stack := folded value :: stack.drop left.toList.length
            if right.isSome then
              match rest with
              | [] => .ok (stack, some value)
              | _ :: after => sweep tier stack (some value) after
            else sweep tier stack (some value) rest

theorem place_append (left : Option Part) (value : Expression) (before done : List Part) :
    (place left value before done).2 ++ (place left value before done).1 =
      folded value :: (done ++ before).drop left.toList.length := by
  unfold place
  split <;> simp

theorem forward_eq_sweep (tier : Nat) (before done rest : List Part) (last : Option Expression) :
    (forward tier before done last rest).map
        (fun range => (range.parts.reverse ++ range.before, range.value)) =
      sweep tier (done ++ before) last rest := by
  fun_induction forward tier before done last rest with
  | case1 before done last => simp [sweep, Except.map]
  | case2 before done last part rest neighbour plain ih =>
    rw [sweep, plain]
    show Except.map _ (visit last neighbour part >>= _) = visit last neighbour part >>= _
    cases visit last neighbour part with
    | error => rfl
    | ok value => exact ih value
  | case3 before done last part rest found tiered looser ih =>
    rw [sweep, tiered]
    simp only [looser, if_true]
    exact ih
  | case4 before done last part rest neighbour found tiered tight operator ihAfter ihRest =>
    rw [sweep, tiered]
    simp only [tight, if_false]
    show Except.map _ (leftOperand? operator neighbour >>= _) =
      leftOperand? operator neighbour >>= _
    cases leftOperand? operator neighbour with
    | error => rfl
    | ok left =>
      show Except.map _ (rightOperand? operator rest.head? >>= _) =
        rightOperand? operator rest.head? >>= _
      cases rightOperand? operator rest.head? with
      | error => rfl
      | ok right =>
        have placed := place_append left (.operation left operator right) before done
        show Except.map _ (if right.isSome then _ else _) = if right.isSome then _ else _
        split
        · cases rest with
          | nil =>
            simp only [Except.map, List.reverse_reverse, placed]
            rfl
          | cons next after =>
            rw [← placed]
            exact ihAfter left right
        · rw [← placed]
          exact ihRest left right

end PathQuery.Tiers
