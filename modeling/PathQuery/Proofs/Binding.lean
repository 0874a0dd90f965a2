import Mathlib.Data.List.Forall2
import PathQuery.Method.Core
import PathQuery.Method.Date

/-!
Binding of arguments to parameters. Main statement: `bind_arguments`, every argument of a call that
fits arrives in its place, and every method of the language finds the values that it reads.
-/

namespace PathQuery

/-- The parameter that takes the argument at a position: the one at that position, unless a variadic
parameter comes before it. -/
def Parameter.taker? (parameters : List Parameter) (position : Nat) : Option Parameter :=
  parameters[min position (parameters.findIdx Parameter.variadic)]?

/-- The values of parameters in a row, where the arrays of variadic parameters give their
elements. -/
def Parameter.spliced : List Parameter → List Value → List Value
  | parameter :: parameters, value :: values =>
      if parameter.variadic then value.elements?.getD [] ++ spliced parameters values
      else value :: spliced parameters values
  | _, _ => []

/-- How many parameters that take a single value get none of so many arguments. -/
def Parameter.missing (parameters : List Parameter) (count : Nat) : Nat :=
  (parameters.drop (min count (parameters.findIdx Parameter.variadic))).countP (!·.variadic)

namespace Method

/-- The parameters that take so many arguments, one after another. -/
def takers : List Parameter → Nat → List Parameter
  | parameter :: parameters, count + 1 =>
      if parameter.variadic then List.replicate (count + 1) parameter
      else parameter :: takers parameters count
  | _, _ => []

/-- Values in the places of parameters: those that are left as an array for a variadic parameter,
and null where there is none. -/
def arranged : List Parameter → List Value → List Value
  | [], _ => []
  | parameter :: parameters, values =>
      if parameter.variadic then .array values :: arranged parameters []
      else values.headD .null :: arranged parameters values.tail

/-- Every one of so many arguments has a parameter that takes it. -/
def Room (parameters : List Parameter) (count : Nat) : Prop :=
  parameters.any Parameter.variadic = true ∨ count ≤ parameters.length

/-- The arguments as the parameters that take them want them. -/
def coerced (converter : Converter) (parameters : List Parameter) (arguments : List Value) :
    Except ConversionError (List Value) :=
  ((takers parameters arguments.length).zip arguments).mapM fun (taker, argument) =>
    coerce converter taker argument

variable {parameter : Parameter} {parameters : List Parameter} {arguments values : List Value}
  {count : Nat}

theorem room_of_fit {nullCompletion : Bool} {fit : Fit}
    (fits : Fit.of? parameters count nullCompletion = some fit) : Room parameters count := by
  unfold Fit.of? at fits
  dsimp only at fits
  split at fits
  · next variadic =>
    refine .inl (List.any_eq_true.mpr ?_)
    cases last : parameters.getLast? with
    | none => simp [last] at variadic
    | some parameter =>
      exact ⟨parameter, List.mem_of_getLast? last, by simpa [last] using variadic⟩
  · right
    split at fits
    · omega
    · split at fits
      · next completed =>
        simp only [Bool.and_eq_true, decide_eq_true_eq] at completed
        omega
      · cases fits

theorem coerce_null (parameter : Parameter) :
    coerce Conversion.standard parameter .null = .ok .null := by
  unfold coerce
  cases parameter.type? with
  | none => rfl
  | some type => rfl

theorem mapM_replicate {α β ε : Type} {f : α → β → Except ε Value} (x : α) (ys : List β) :
    ((List.replicate ys.length x).zip ys).mapM (fun (x, y) => f x y) = ys.mapM (f x) := by
  induction ys with
  | nil => rfl
  | cons y ys ih => rw [List.length_cons, List.replicate_succ, List.zip_cons_cons, List.mapM_cons,
      List.mapM_cons, ih]

theorem bind_nil (parameters : List Parameter) :
    bind Conversion.standard parameters [] = .ok (arranged parameters []) := by
  induction parameters with
  | nil => rfl
  | cons parameter parameters ih =>
    unfold bind arranged
    split
    · rw [ih]
      rfl
    · rw [List.headD_nil, coerce_null, List.tail_nil, ih]
      rfl

theorem coerced_cons (single : ¬parameter.variadic = true) (argument : Value) :
    coerced Conversion.standard (parameter :: parameters) (argument :: arguments) =
      (coerce Conversion.standard parameter argument).bind fun first =>
        (coerced Conversion.standard parameters arguments).bind fun others =>
          .ok (first :: others) := by
  rw [coerced, List.length_cons, takers, if_neg single, List.zip_cons_cons, List.mapM_cons]
  rfl

/-- Binding converts the arguments in their order, and then puts them in the places of the
parameters. -/
theorem bind_eq (room : Room parameters arguments.length) :
    bind Conversion.standard parameters arguments =
      (coerced Conversion.standard parameters arguments).map (arranged parameters) := by
  induction parameters generalizing arguments with
  | nil =>
    have none : arguments = [] := List.length_eq_zero_iff.mp (by simpa [Room] using room)
    subst none
    rfl
  | cons parameter parameters ih =>
    cases arguments with
    | nil => exact bind_nil (parameter :: parameters)
    | cons argument arguments =>
      by_cases variadic : parameter.variadic = true
      · rw [bind, if_pos variadic, bind_nil, coerced, List.length_cons, takers, if_pos variadic,
          ← List.length_cons, mapM_replicate]
        cases List.mapM (coerce Conversion.standard parameter) (argument :: arguments) with
        | error => rfl
        | ok values => simp [arranged, variadic, Bind.bind, Except.bind, Pure.pure, Except.pure,
            Except.map]
      · have others : Room parameters arguments.length := by
          simpa [Room, variadic] using room
        rw [bind, if_neg variadic, List.headD_cons, List.tail_cons, ih others,
          coerced_cons variadic]
        cases coerce Conversion.standard parameter argument with
        | error => rfl
        | ok first =>
          cases coerced Conversion.standard parameters arguments with
          | error => rfl
          | ok values => simp [arranged, variadic, Bind.bind, Except.bind, Pure.pure, Except.pure,
            Except.map]

theorem arrays_arranged (parameters : List Parameter) (values : List Value) :
    List.Forall₂ (fun parameter value => parameter.variadic = true →
      ∃ elements, value = .array elements) parameters (arranged parameters values) := by
  induction parameters generalizing values with
  | nil => exact .nil
  | cons parameter parameters ih =>
    unfold arranged
    split
    · exact .cons (fun _ => ⟨values, rfl⟩) (ih [])
    · next single => exact .cons (fun variadic => absurd variadic single) (ih values.tail)

theorem spliced_arranged_nil (parameters : List Parameter) :
    Parameter.spliced parameters (arranged parameters []) =
      List.replicate (parameters.countP (!·.variadic)) .null := by
  induction parameters with
  | nil => rfl
  | cons parameter parameters ih =>
    by_cases variadic : parameter.variadic = true
    · simp [arranged, Parameter.spliced, variadic, Value.elements?, ih]
    · simp [arranged, Parameter.spliced, variadic, ih, List.replicate_succ]

/-- Reading the parameters in order gives back what was put in their places, and then null for each
parameter that got nothing. -/
theorem spliced_arranged (room : Room parameters values.length) :
    Parameter.spliced parameters (arranged parameters values) =
      values ++ List.replicate (Parameter.missing parameters values.length) .null := by
  induction parameters generalizing values with
  | nil =>
    have none : values = [] := List.length_eq_zero_iff.mp (by simpa [Room] using room)
    subst none
    rfl
  | cons parameter parameters ih =>
    by_cases variadic : parameter.variadic = true
    · simp [arranged, Parameter.spliced, Parameter.missing, variadic, Value.elements?,
        spliced_arranged_nil, List.findIdx_cons]
    · cases values with
      | nil => simpa [Parameter.missing] using spliced_arranged_nil (parameter :: parameters)
      | cons value values =>
        have others : Room parameters values.length := by
          simpa [Room, variadic] using room
        simp [arranged, Parameter.spliced, Parameter.missing, variadic, ih others,
          List.findIdx_cons]

theorem takers_getElem {position : Nat} (inside : position < count) :
    (takers parameters count)[position]? = Parameter.taker? parameters position := by
  induction parameters generalizing count position with
  | nil => simp [takers, Parameter.taker?]
  | cons parameter parameters ih =>
    obtain ⟨others, rfl⟩ : ∃ others, count = others + 1 := ⟨count - 1, by omega⟩
    by_cases variadic : parameter.variadic = true
    · simp [takers, Parameter.taker?, variadic, List.findIdx_cons, inside]
    · cases position with
      | zero => simp [takers, Parameter.taker?, variadic]
      | succ position =>
        simpa [takers, Parameter.taker?, variadic, List.findIdx_cons] using
          ih (Nat.lt_of_succ_lt_succ inside)

theorem length_takers (room : Room parameters count) : (takers parameters count).length = count := by
  induction parameters generalizing count with
  | nil => simp_all [Room, takers]
  | cons parameter parameters ih =>
    cases count with
    | zero => rfl
    | succ count =>
      by_cases variadic : parameter.variadic = true
      · simp [takers, variadic]
      · have others : Room parameters count := by
          simpa [Room, variadic] using room
        simp [takers, variadic, ih others]

section Elements

variable {α β ε : Type} {f : α → Except ε β} {xs : List α}

theorem getElem_of_mapM {ys : List β} (came : xs.mapM f = .ok ys) :
    ys.length = xs.length ∧ ∀ (position : Nat) (x : α), xs[position]? = some x →
      ∃ y, ys[position]? = some y ∧ f x = .ok y := by
  induction xs generalizing ys with
  | nil =>
    cases came
    simp
  | cons x xs ih =>
    rw [List.mapM_cons] at came
    obtain ⟨first, found, came⟩ := Tiers.bind_eq_ok.mp came
    obtain ⟨others, rest, same⟩ := Tiers.bind_eq_ok.mp came
    cases same
    obtain ⟨size, each⟩ := ih rest
    refine ⟨by simp [size], fun position => ?_⟩
    cases position with
    | zero => simpa using found
    | succ position => simpa using each position

theorem mapM_fails_iff :
    (∃ error, xs.mapM f = .error error) ↔ ∃ x ∈ xs, ∃ error, f x = .error error := by
  induction xs with
  | nil => simp [Pure.pure, Except.pure]
  | cons x xs ih =>
    rw [List.mapM_cons, List.exists_mem_cons_iff, ← ih]
    cases f x with
    | error error => simp [Bind.bind, Except.bind]
    | ok y => cases xs.mapM f <;> simp [Bind.bind, Except.bind, Pure.pure, Except.pure]

end Elements

theorem zip_takers_getElem {position : Nat} {taker : Parameter} {argument : Value} :
    ((takers parameters arguments.length).zip arguments)[position]? = some (taker, argument) ↔
      Parameter.taker? parameters position = some taker ∧ arguments[position]? = some argument := by
  rw [List.getElem?_zip_eq_some]
  refine and_congr_left fun present => ?_
  rw [takers_getElem (List.getElem?_eq_some_iff.mp present).1]

/-- Of a list with a value for each parameter a method of the language reads only values that are
there. -/
theorem read_of_length {now : Time.Instant} {method : StandardMethod}
    (member : method ∈ coreMethods ++ dateMethods now)
    (size : values.length = method.parameters.length) :
    ∃ result, method.read values = some result := by
  simp only [coreMethods, dateMethods, List.mem_append, List.mem_cons, List.not_mem_nil,
    or_false] at member
  rcases member with
    (rfl | rfl | rfl | rfl | rfl | rfl | rfl | rfl) |
    (rfl | rfl | rfl | rfl | rfl | rfl | rfl | rfl | rfl)
  all_goals
    rcases values with _ | ⟨_, _ | ⟨_, _ | ⟨_, _ | ⟨_, _ | ⟨_, _ | ⟨_, _⟩⟩⟩⟩⟩⟩ <;>
      first | exact ⟨_, rfl⟩ | cases size

section Fitting

variable {nullCompletion : Bool} {fit : Fit}

/-- In a call that fits, arrays are bound to variadic parameters, and what is bound is the converted
arguments in order and nulls after them. -/
theorem bind_places (fits : Fit.of? parameters arguments.length nullCompletion = some fit)
    {bound : List Value} (came : bind Conversion.standard parameters arguments = .ok bound) :
    List.Forall₂ (fun parameter value => parameter.variadic = true →
        ∃ elements, value = .array elements) parameters bound ∧
      ∃ taken, Parameter.spliced parameters bound =
          taken ++ List.replicate (Parameter.missing parameters arguments.length) .null ∧
        taken.length = arguments.length ∧
        ∀ (position : Nat) (argument : Value), arguments[position]? = some argument →
          ∃ taker value, Parameter.taker? parameters position = some taker ∧
            taken[position]? = some value ∧
            coerce Conversion.standard taker argument = .ok value := by
  have room := room_of_fit fits
  rw [bind_eq room] at came
  obtain ⟨taken, conversions, rfl⟩ := Tiers.map_eq_ok.mp came
  obtain ⟨size, each⟩ := getElem_of_mapM conversions
  rw [List.length_zip, length_takers room, Nat.min_self] at size
  refine ⟨arrays_arranged parameters taken, taken, ?_, size, fun position argument present => ?_⟩
  · rw [← size] at room ⊢
    exact spliced_arranged room
  · have inside := (List.getElem?_eq_some_iff.mp present).1
    obtain ⟨taker, takes⟩ : ∃ taker, Parameter.taker? parameters position = some taker := by
      rw [← takers_getElem inside]
      exact ⟨_, List.getElem?_eq_getElem (by rwa [length_takers room])⟩
    obtain ⟨value, found, converts⟩ :=
      each position _ (zip_takers_getElem.mpr ⟨takes, present⟩)
    exact ⟨taker, value, takes, found, converts⟩

theorem bind_fails_iff (fits : Fit.of? parameters arguments.length nullCompletion = some fit) :
    (∃ error, bind Conversion.standard parameters arguments = .error error) ↔
      ∃ (position : Nat) (argument : Value) (taker : Parameter) (error : ConversionError),
        arguments[position]? = some argument ∧
          Parameter.taker? parameters position = some taker ∧
          coerce Conversion.standard taker argument = .error error := by
  have fails : (∃ error, bind Conversion.standard parameters arguments = .error error) ↔
      ∃ error, coerced Conversion.standard parameters arguments = .error error := by
    rw [bind_eq (room_of_fit fits)]
    cases coerced Conversion.standard parameters arguments <;> simp [Except.map]
  rw [fails, coerced, mapM_fails_iff]
  constructor
  · rintro ⟨⟨taker, argument⟩, member, error, failed⟩
    obtain ⟨position, found⟩ := List.mem_iff_getElem?.mp member
    obtain ⟨takes, present⟩ := zip_takers_getElem.mp found
    exact ⟨position, argument, taker, error, present, takes, failed⟩
  · rintro ⟨position, argument, taker, error, present, takes, failed⟩
    exact ⟨(taker, argument),
      List.mem_of_getElem? (zip_takers_getElem.mpr ⟨takes, present⟩), error, failed⟩

/-- The body of a method is what its reading of the bound values makes. -/
theorem call_of_bind {now : Time.Instant} {method : StandardMethod}
    (member : method ∈ coreMethods ++ dateMethods now)
    (fits : Fit.of? method.parameters arguments.length nullCompletion = some fit)
    {bound : List Value}
    (came : bind Conversion.standard method.parameters arguments = .ok bound) :
    ∃ result, method.read bound = some result ∧
      method.method.call Conversion.standard arguments = result := by
  have size : bound.length = method.parameters.length := by
    have arranges := came
    rw [bind_eq (room_of_fit fits)] at arranges
    obtain ⟨taken, -, rfl⟩ := Tiers.map_eq_ok.mp arranges
    exact (arrays_arranged method.parameters taken).length_eq.symm
  obtain ⟨result, read⟩ := read_of_length member size
  refine ⟨result, read, ?_⟩
  simp [call, StandardMethod.method, came, read, Except.mapError, Bind.bind, Except.bind]

end Fitting

end Method

open Method in
/-- In a call that fits, there is one value for each parameter, an array for a variadic one, and
read in order they are the arguments, each converted for the parameter that takes it, and then nulls
for the parameters that got none. Binding fails exactly when an argument cannot be converted. Every
method of the language finds a value at each position that it reads. -/
theorem bind_arguments :
    (∀ parameters arguments nullCompletion fit,
      Fit.of? parameters arguments.length nullCompletion = some fit →
      (∀ bound, bind Conversion.standard parameters arguments = .ok bound →
        List.Forall₂ (fun parameter value => parameter.variadic = true →
          ∃ elements, value = .array elements) parameters bound ∧
        ∃ taken, Parameter.spliced parameters bound =
            taken ++ List.replicate (Parameter.missing parameters arguments.length) .null ∧
          taken.length = arguments.length ∧
          ∀ (position : Nat) (argument : Value), arguments[position]? = some argument →
            ∃ taker value, Parameter.taker? parameters position = some taker ∧
              taken[position]? = some value ∧
              coerce Conversion.standard taker argument = .ok value) ∧
      ((∃ error, bind Conversion.standard parameters arguments = .error error) ↔
        ∃ (position : Nat) (argument : Value) (taker : Parameter) (error : ConversionError),
          arguments[position]? = some argument ∧
            Parameter.taker? parameters position = some taker ∧
            coerce Conversion.standard taker argument = .error error)) ∧
    ∀ now, ∀ method ∈ coreMethods ++ dateMethods now, ∀ arguments nullCompletion fit,
      Fit.of? method.parameters arguments.length nullCompletion = some fit →
      ∀ bound, bind Conversion.standard method.parameters arguments = .ok bound →
        ∃ result, method.read bound = some result ∧
          method.method.call Conversion.standard arguments = result := by
  constructor
  · intro parameters arguments nullCompletion fit fits
    exact ⟨fun bound came => bind_places fits came, bind_fails_iff fits⟩
  · intro now method member arguments nullCompletion fit fits bound came
    exact call_of_bind member fits came

/-- A variadic parameter before the last one takes all arguments, and the last one is left with
null. -/
theorem bind_arguments_of_leading_variadic :
    let parameters : List Parameter := [{ type? := some .long, variadic := true }, Method.any]
    let arguments : List Value := [.integer 1, .string "2"]
    let bound : List Value := [.array [.long 1, .long 2], .null]
    Fit.of? parameters 2 false = some .exact ∧
      Method.bind Conversion.standard parameters arguments = .ok bound ∧
      ∃ taken, Parameter.spliced parameters bound = taken ++ [.null] ∧ taken.length = 2 := by
  intro parameters arguments bound
  have fits : Fit.of? parameters arguments.length false = some .exact := by decide
  have came : Method.bind Conversion.standard parameters arguments = .ok bound := by rfl
  obtain ⟨-, taken, reads, size, -⟩ :=
    (bind_arguments.1 parameters arguments false .exact fits).1 bound came
  exact ⟨fits, came, taken, reads, size⟩

end PathQuery
