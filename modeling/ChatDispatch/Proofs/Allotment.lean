import ChatDispatch.Dispatch.Binding
import ChatDispatch.Proofs.Checked

/-!
# Which raw values go to which parameter

Binding takes raw values from the inputs and converts them in one pass. The two are taken apart here:
the values that go to each parameter depend on the parameters and the inputs alone, and the argument of
a parameter depends on its own values alone.

* **`allot`** — the raw values that go to each of the parameters.
* **`Parameter.argument`** — the argument that a parameter makes of its values.
* **`bindParameters_eq_mapM`** — binding is the second of these after the first, errors included.
* **`bindArguments_eq_ok_iff`** — what a success means, parameter by parameter.
-/

namespace ChatDispatch

variable {σ : Type}

/-! ## Taking values and making arguments

What a parameter takes does not depend on what is made of it, so the two can be done one after the other for all
parameters. -/

/-- The raw values that go to a parameter when it is its turn, and the inputs that are left. -/
def Inputs.share (inputs : Inputs) (p : ParameterSpec) : List RawValue × Inputs :=
  if p.variadic then inputs.takeAll
  else
    match inputs.next? p.name with
    | some (value, rest) => ([value], rest)
    | none => ([], inputs)

/-- The raw values that go to each of the parameters, in their order. -/
def allot : List (Parameter σ) → Inputs → List (List RawValue)
  | [], _ => []
  | p :: ps, inputs =>
    (inputs.share p.toParameterSpec).1 :: allot ps (inputs.share p.toParameterSpec).2

/-- The argument that a parameter makes of the raw values that go to it. -/
def Parameter.argument (interaction : Interaction) (p : Parameter σ) (values : List RawValue) :
    Except BindError Argument :=
  if p.variadic then
    if values.isEmpty && p.required then .error (.missing p.name)
    else (values.mapM (p.convert interaction)).map .variadic
  else
    match values with
    | value :: _ => p.convert interaction value
    | [] => if p.required then .error (.missing p.name) else .ok (p.default.getD .missing)

theorem length_allot (ps : List (Parameter σ)) (inputs : Inputs) :
    (allot ps inputs).length = ps.length := by
  induction ps generalizing inputs with
  | nil => rfl
  | cons p ps ih => rw [allot, List.length_cons, ih, List.length_cons]

/-- A parameter that is not variadic takes one value at most. -/
theorem length_share_le {inputs : Inputs} {p : ParameterSpec} (h : p.variadic = false) :
    (inputs.share p).1.length ≤ 1 := by
  unfold Inputs.share
  rw [h]
  cases inputs.next? p.name with
  | none => simp
  | some taken => simp

/-- So does each such parameter in its turn. -/
theorem length_allot_le {ps : List (Parameter σ)} {inputs : Inputs} {i : Nat} {p : Parameter σ}
    {values : List RawValue} (hp : ps[i]? = some p) (hvalues : (allot ps inputs)[i]? = some values)
    (h : p.variadic = false) : values.length ≤ 1 := by
  induction ps generalizing inputs i with
  | nil => simp at hp
  | cons q ps ih =>
    cases i with
    | zero =>
      cases hp
      cases hvalues
      exact length_share_le h
    | succ i => exact ih hp hvalues

/-- The value that is taken is the first under the name, and the others stay in their order. -/
theorem takeNamed?_eq (name : String) (named : List (String × RawValue)) :
    takeNamed? name named = (named.find? (Text.sameAscii ·.1 name)).map fun e =>
      (e.2, named.eraseP (Text.sameAscii ·.1 name)) := by
  induction named with
  | nil => rfl
  | cons e named ih =>
    obtain ⟨n, value⟩ := e
    rw [takeNamed?, List.find?_cons, List.eraseP_cons, ih]
    cases Text.sameAscii n name with
    | true => rfl
    | false =>
      cases named.find? (Text.sameAscii ·.1 name) with
      | none => rfl
      | some found => rfl

/-- As long as there are positional values, a parameter that is not variadic takes the first. -/
theorem share_positional {p : ParameterSpec} (hsingle : p.variadic = false) (value : RawValue)
    (positional : List RawValue) (named : List (String × RawValue)) :
    Inputs.share ⟨value :: positional, named⟩ p = ([value], ⟨positional, named⟩) := by
  unfold Inputs.share
  rw [hsingle]
  rfl

/-- Afterwards it takes the first value under its name, if there is one. -/
theorem share_named {p : ParameterSpec} (hsingle : p.variadic = false)
    (named : List (String × RawValue)) :
    Inputs.share ⟨[], named⟩ p =
      ((named.find? (Text.sameAscii ·.1 p.name)).toList.map (·.2),
        ⟨[], named.eraseP (Text.sameAscii ·.1 p.name)⟩) := by
  unfold Inputs.share Inputs.next?
  rw [hsingle, takeNamed?_eq]
  cases hfound : named.find? (Text.sameAscii ·.1 p.name) with
  | some e => rfl
  | none =>
    have hnone := List.find?_eq_none.mp hfound
    rw [List.eraseP_of_forall_not hnone]
    rfl

/-! ## Binding is taking, then making

First for one parameter, then for all of them. -/

/-- Binding a parameter makes its argument of its share and leaves the rest. -/
theorem bindParameter_eq (interaction : Interaction) (p : Parameter σ) (inputs : Inputs) :
    bindParameter interaction p inputs =
      (p.argument interaction (inputs.share p.toParameterSpec).1).map
        (·, (inputs.share p.toParameterSpec).2) := by
  unfold bindParameter Parameter.argument Inputs.share
  cases hvariadic : p.variadic with
  | true =>
    simp only [if_true]
    split
    · rfl
    · cases inputs.takeAll.1.mapM (p.convert interaction) with
      | ok elements => rfl
      | error e => rfl
  | false =>
    simp only [Bool.false_eq_true, if_false]
    cases inputs.next? p.name with
    | some taken => rfl
    | none =>
      cases p.required with
      | true => rfl
      | false => rfl

/-- **All parameters.** Binding gives the argument that each parameter makes of its values, or the
first error. -/
theorem bindParameters_eq_mapM (interaction : Interaction) (ps : List (Parameter σ))
    (inputs : Inputs) :
    bindParameters interaction ps inputs =
      (ps.zip (allot ps inputs)).mapM fun pv => pv.1.argument interaction pv.2 := by
  induction ps generalizing inputs with
  | nil => rfl
  | cons p ps ih =>
    -- what is left for `ps` depends on the share of `p` and not on the argument made of it
    rw [bindParameters, bindParameter_eq, allot, List.zip_cons_cons, List.mapM_cons]
    cases p.argument interaction (inputs.share p.toParameterSpec).1 with
    | error e => rfl
    | ok a =>
      rw [← ih]
      rfl

/-- **What a success means.** There is one argument for each parameter, made of the values that go to
it. -/
theorem bindArguments_eq_ok_iff {command : CommandSpec σ} {interaction : Interaction}
    {inputs : Inputs} {arguments : Arguments} :
    bindArguments command interaction inputs = .ok arguments ↔
      List.Forall₂ (fun pv a => pv.1.argument interaction pv.2 = .ok a)
        (command.parameters.zip (allot command.parameters inputs)) arguments.toList := by
  rw [bindArguments, map_eq_ok_iff, bindParameters_eq_mapM]
  simp only [mapM_eq_ok_iff]
  constructor
  · rintro ⟨as, has, rfl⟩
    exact has
  · intro h
    exact ⟨arguments.toList, h, rfl⟩

/-- There are as many arguments as parameters. -/
theorem length_of_bindArguments {command : CommandSpec σ} {interaction : Interaction}
    {inputs : Inputs} {arguments : Arguments}
    (h : bindArguments command interaction inputs = .ok arguments) :
    arguments.toList.length = command.parameters.length := by
  have hlength := (bindArguments_eq_ok_iff.mp h).length_eq
  rw [List.length_zip, length_allot, Nat.min_self] at hlength
  exact hlength.symm

/-- A success at one position: the values of the parameter there, and the argument made of them. -/
theorem argument_of_bindArguments {command : CommandSpec σ} {interaction : Interaction}
    {inputs : Inputs} {arguments : Arguments}
    (h : bindArguments command interaction inputs = .ok arguments) {i : Nat} {p : Parameter σ}
    (hp : command.parameters[i]? = some p) :
    ∃ values argument, (allot command.parameters inputs)[i]? = some values ∧
      arguments.toList[i]? = some argument ∧ p.argument interaction values = .ok argument := by
  have hi : i < (allot command.parameters inputs).length := by
    rw [length_allot]
    exact (List.getElem?_eq_some_iff.mp hp).1
  obtain ⟨values, hvalues⟩ : ∃ values, (allot command.parameters inputs)[i]? = some values :=
    ⟨_, List.getElem?_eq_getElem hi⟩
  -- parameters and shares are matched by position
  have hpair : (command.parameters.zip (allot command.parameters inputs))[i]? = some (p, values) :=
    List.getElem?_zip_eq_some.mpr ⟨hp, hvalues⟩
  obtain ⟨argument, hargument, hmade⟩ := forall₂_getElem? (bindArguments_eq_ok_iff.mp h) hpair
  exact ⟨values, argument, hvalues, hargument, hmade⟩

end ChatDispatch
