import ChatDispatch.Proofs.Allotment

/-!
# What a parameter does with its values

Binding an argument is a sequence of checks and conversions that ends at the first that fails. Here it is
said without any sequence what a parameter asks of the raw values that go to it, what it makes of them,
and what is wrong with them otherwise.

* **`Parameter.Accepts`** — what is asked of one raw value: it is offered as a choice, it is within the
  bounds if it is a number, and the converter takes it.
* **`Parameter.Satisfied`** — what is asked of all values of a parameter.
* **`Parameter.Makes`** — the argument for values that satisfy the parameter.
* **`Parameter.Violated`** — the error for values that do not.
* **`Parameter.decides_convert`**, **`Parameter.decides_argument`** — binding does this.
-/

namespace ChatDispatch

variable {σ : Type}

/-! ## The rules

Choices come first, then bounds, then conversion, and each later rule is looked at only when those before are
kept. -/

/-- If the parameter has choices, the value is one of them. -/
def ParameterSpec.Offers (p : ParameterSpec) (value : RawValue) : Prop :=
  p.choices ≠ [] → ∃ c ∈ p.choices, c.matches value = true

/-- The number is neither below the least nor above the greatest number of the parameter. -/
structure ParameterSpec.Spans (p : ParameterSpec) (x : Float) : Prop where
  not_below : ∀ min, p.min = some min → ¬ x < min
  not_above : ∀ max, p.max = some max → ¬ x > max

/-- What a parameter asks of one raw value. Bounds are for values that are numbers. -/
structure Parameter.Accepts (interaction : Interaction) (p : Parameter σ) (value : RawValue) : Prop where
  offered : p.Offers value
  spanned : ∀ x, boundedNumber? value = some x → p.Spans x
  converted : ∃ a, p.converter.convert interaction value p.type = .ok a

/-- What a parameter asks of the raw values that go to it. -/
structure Parameter.Satisfied (interaction : Interaction) (p : Parameter σ) (values : List RawValue) :
    Prop where
  supplied : p.required = true → values ≠ []
  accepted : ∀ value ∈ values, p.Accepts interaction value

/-- The argument that a parameter makes of its values. -/
inductive Parameter.Makes (interaction : Interaction) (p : Parameter σ) : List RawValue → Argument → Prop where
  /-- A variadic parameter collects what its values are converted to, if it is only an empty list. -/
  | collected {values : List RawValue} {elements : List Argument} (hvariadic : p.variadic = true)
      (helements : List.Forall₂ (fun value a => p.converter.convert interaction value p.type = .ok a)
        values elements) : p.Makes interaction values (.variadic elements)
  | converted {value : RawValue} {a : Argument} (hsingle : p.variadic = false)
      (ha : p.converter.convert interaction value p.type = .ok a) : p.Makes interaction [value] a
  | absent (hsingle : p.variadic = false) : p.Makes interaction [] (p.default.getD .missing)

/-- Why a parameter does not accept a raw value, by the first thing that is wrong with it. -/
inductive Parameter.Refuses (interaction : Interaction) (p : Parameter σ) (value : RawValue) :
    BindError → Prop where
  | notAChoice (hchoice : ¬ p.Offers value) : p.Refuses interaction value (.notAChoice p.name value)
  | outOfRange {x : Float} (hchoice : p.Offers value) (hx : boundedNumber? value = some x)
      (hbounds : ¬ p.Spans x) : p.Refuses interaction value (.outOfRange p.name x)
  | declined {e : ConversionError} (hchoice : p.Offers value)
      (hbounds : ∀ x, boundedNumber? value = some x → p.Spans x)
      (he : p.converter.convert interaction value p.type = .error e) :
      p.Refuses interaction value (.declined p.name e)

/-- What is wrong with the values of a parameter: there are none, or the first that is not accepted. -/
inductive Parameter.Violated (interaction : Interaction) (p : Parameter σ) :
    List RawValue → BindError → Prop where
  | missing (hrequired : p.required = true) : p.Violated interaction [] (.missing p.name)
  | refused {values : List RawValue} {e : BindError}
      (hfirst : FirstBroken (p.Accepts interaction) (p.Refuses interaction) values e) :
      p.Violated interaction values e

/-! ## One value

Each check decides its rule; together they decide whether the value is accepted. -/

/-- The check of the choices decides whether the value is offered. -/
theorem decides_checkChoices (p : ParameterSpec) (value : RawValue) :
    Decides (checkChoices p value) (p.Offers value) (fun _ => True)
      (fun e => e = .notAChoice p.name value) := by
  have hoffers : (p.choices.isEmpty || p.choices.any (·.matches value)) = true ↔ p.Offers value := by
    rw [Bool.or_eq_true, List.isEmpty_iff, List.any_eq_true]
    unfold ParameterSpec.Offers
    by_cases h : p.choices = [] <;> simp [h]
  unfold checkChoices
  by_cases h : p.Offers value
  · exact .accepted (if_pos (hoffers.mpr h)) h trivial
  · exact .refused (if_neg (mt hoffers.mp h)) h rfl

/-- A number is within the bounds when neither of them is passed. -/
theorem withinBounds_iff_spans {p : ParameterSpec} {x : Float} :
    withinBounds p.min p.max x = true ↔ p.Spans x := by
  rw [withinBounds, Bool.and_eq_true, Bool.not_eq_true', Bool.not_eq_true', Option.any_eq_false,
    Option.any_eq_false]
  constructor
  · intro ⟨hmin, hmax⟩
    exact ⟨fun min h => of_decide_eq_false (hmin min h), fun max h => of_decide_eq_false (hmax max h)⟩
  · intro ⟨hmin, hmax⟩
    exact ⟨fun min h => decide_eq_false (hmin min h), fun max h => decide_eq_false (hmax max h)⟩

/-- The check of the bounds decides whether the value, if it is a number, is within them. -/
theorem decides_checkBounds (p : ParameterSpec) (value : RawValue) :
    Decides (checkBounds p value) (∀ x, boundedNumber? value = some x → p.Spans x) (fun _ => True)
      (fun e => ∃ x, boundedNumber? value = some x ∧ ¬ p.Spans x ∧ e = .outOfRange p.name x) := by
  unfold checkBounds
  cases hnumber : boundedNumber? value with
  | none => exact .accepted rfl nofun trivial
  | some x =>
    by_cases h : p.Spans x
    · refine .accepted (if_pos (withinBounds_iff_spans.mpr h)) (fun y hy => ?_) trivial
      cases hy
      exact h
    · refine .refused (if_neg (mt withinBounds_iff_spans.mp h)) (fun hall => h (hall x rfl)) ?_
      exact ⟨x, rfl, h, rfl⟩

/-- **One value.** It is converted if the parameter accepts it. -/
theorem Parameter.decides_convert (p : Parameter σ) (interaction : Interaction) (value : RawValue) :
    Decides (p.convert interaction value) (p.Accepts interaction value)
      (fun a => p.converter.convert interaction value p.type = .ok a)
      (p.Refuses interaction value) := by
  unfold Parameter.convert
  -- the three checks in their order, each only after the one before it
  cases decides_checkChoices p.toParameterSpec value with
  | refused hx hchoice he =>
    subst he
    rw [hx]
    exact .refused rfl (fun h => hchoice h.offered) (.notAChoice hchoice)
  | accepted hx hchoice _ =>
    rw [hx]
    cases decides_checkBounds p.toParameterSpec value with
    | refused hx hbounds he =>
      obtain ⟨x, hnumber, hspans, rfl⟩ := he
      rw [hx]
      exact .refused rfl (fun h => hbounds h.spanned) (.outOfRange hchoice hnumber hspans)
    | accepted hx hbounds _ =>
      rw [hx]
      cases hconvert : p.converter.convert interaction value p.type with
      | ok a => exact .accepted rfl ⟨hchoice, hbounds, a, hconvert⟩ rfl
      | error e =>
        refine .refused rfl (fun h => ?_) (.declined hchoice hbounds hconvert)
        obtain ⟨a, ha⟩ := h.converted
        cases ha.symm.trans hconvert

/-! ## All values of a parameter

A parameter with values is satisfied by each of them; one without values is missing if it is required. -/

/-- A parameter with some values is satisfied if it accepts all of them. -/
theorem Parameter.satisfied_cons_iff {p : Parameter σ} {interaction : Interaction} {value : RawValue}
    {values : List RawValue} :
    p.Satisfied interaction (value :: values) ↔ ∀ v ∈ value :: values, p.Accepts interaction v :=
  ⟨fun h => h.accepted, fun h => ⟨fun _ => List.cons_ne_nil _ _, h⟩⟩

/-- **One parameter.** It makes an argument of its values if they satisfy it. One that is not variadic
has one value at most. -/
theorem Parameter.decides_argument (p : Parameter σ) (interaction : Interaction) {values : List RawValue}
    (hlength : p.variadic = false → values.length ≤ 1) :
    Decides (p.argument interaction values) (p.Satisfied interaction values)
      (p.Makes interaction values) (p.Violated interaction values) := by
  unfold Parameter.argument
  cases values with
  | nil =>
    cases hrequired : p.required with
    | true =>
      have hmissing : ¬ p.Satisfied interaction [] := fun h => h.supplied hrequired rfl
      cases hvariadic : p.variadic with
      | true => exact .refused rfl hmissing (.missing hrequired)
      | false => exact .refused rfl hmissing (.missing hrequired)
    | false =>
      have hnone : p.Satisfied interaction [] :=
        ⟨fun h => absurd (hrequired.symm.trans h) Bool.false_ne_true, List.forall_mem_nil _⟩
      cases hvariadic : p.variadic with
      | true => exact .accepted rfl hnone (.collected hvariadic .nil)
      | false => exact .accepted rfl hnone (.absent hvariadic)
  | cons value values =>
    cases hvariadic : p.variadic with
    | true =>
      have hall := Decides.mapM fun v (_ : v ∈ value :: values) => p.decides_convert interaction v
      exact hall.map satisfied_cons_iff.symm (fun _ => .collected hvariadic) fun _ => .refused
    | false =>
      -- there is only this one value
      have hnil : values = [] := by
        have := hlength hvariadic
        simpa using this
      subst hnil
      show Decides (p.convert interaction value) _ _ _
      cases p.decides_convert interaction value with
      | accepted hx haccepts ha =>
        exact .accepted hx (satisfied_cons_iff.mpr (List.forall_mem_singleton.mpr haccepts))
          (.converted hvariadic ha)
      | refused hx hrefuses he =>
        refine .refused hx (fun h => hrefuses (h.accepted value List.mem_cons_self)) (.refused ?_)
        show FirstBroken _ _ ([] ++ [value]) _
        exact .intro (List.forall_mem_nil _) he

end ChatDispatch
