import ChatDispatch.Argument.ConverterTable
import ChatDispatch.Proofs.Acceptance
import ChatDispatch.Proofs.Assembly

/-!
# Numbers within the bounds of a parameter

The bounds of a parameter are checked on raw values, before the converter runs, and only raw values that
are numbers are looked at. An integer that arrives as one is therefore within the bounds when a handler
sees it. A text, which wildcards, select menus and modal fields give, is converted unchecked.

* **`ParameterSpec.InBounds`** — what the bounds say of an integer.
* **`convert_integer_eq_ok_iff`** — what becomes of one raw value.
* **`received_inBounds_iff`** — the headline: the integers that a command receives are within the bounds
  of their parameter exactly when those are that its values have as texts.
-/

namespace ChatDispatch

variable {σ : Type}

/-! ## The bounds

Bounds are given as doubles, so integers are compared as doubles too. -/

/-- As a double, the integer is neither below the least nor above the greatest number of the
parameter. -/
structure ParameterSpec.InBounds (p : ParameterSpec) (n : Int64) : Prop where
  not_below : ∀ min, p.min = some min → ¬ Converter.widen n < min
  not_above : ∀ max, p.max = some max → ¬ Converter.widen n > max

theorem withinBounds_iff_inBounds {p : ParameterSpec} {n : Int64} :
    withinBounds p.min p.max (Converter.widen n) = true ↔ p.InBounds n := by
  rw [withinBounds_iff_spans]
  exact ⟨fun ⟨hmin, hmax⟩ => ⟨hmin, hmax⟩, fun ⟨hmin, hmax⟩ => ⟨hmin, hmax⟩⟩

/-- The check of a raw integer is the rule for integers. -/
theorem checkBounds_integer_eq_ok_iff {p : ParameterSpec} {n : Int64} :
    checkBounds p (.integer n) = .ok () ↔ p.InBounds n := by
  rw [← withinBounds_iff_inBounds]
  simp only [checkBounds, boundedNumber?]
  cases withinBounds p.min p.max (Converter.widen n) with
  | true => simp
  | false => simp

/-! ## One raw value

An integer parameter makes integers of raw integers and of texts. Only the former are checked. -/

/-- What stands for an integer is a raw integer or a text. -/
theorem integer_or_text_of_integerOf? {value : RawValue} {n : Int64}
    (h : Converter.integerOf? value = some n) : value = .integer n ∨ ∃ s, value = .text s := by
  cases value with
  | integer m =>
    cases h
    exact .inl rfl
  | text s => exact .inr ⟨s, rfl⟩
  | number | boolean | user | role | mentionable | channel | message | attachment => cases h

/-- An integer parameter makes an argument of the values that pass its checks and stand for an
integer. -/
theorem convert_integer_eq_ok_iff {p : Parameter σ} (hconverter : p.converter = .integer)
    {interaction : Interaction} {value : RawValue} {a : Argument} :
    p.convert interaction value = .ok a ↔
      checkChoices p.toParameterSpec value = .ok () ∧ checkBounds p.toParameterSpec value = .ok () ∧
        ∃ n, Converter.integerOf? value = some n ∧ a = .value (.integer .i64 n.toInt) := by
  simp only [Parameter.convert, bind_eq_ok_iff, hconverter, Converter.integer, Converter.ofType]
  constructor
  · rintro ⟨_, hchoices, _, hbounds, h⟩
    cases hvalue : Converter.integerOf? value with
    | none => simp [hvalue] at h
    | some n =>
      simp only [hvalue, Option.map_some] at h
      cases h
      exact ⟨hchoices, hbounds, n, rfl, rfl⟩
  · rintro ⟨hchoices, hbounds, n, hvalue, rfl⟩
    refine ⟨(), hchoices, (), hbounds, ?_⟩
    simp only [hvalue, Option.map_some]

/-! ## All values of a parameter

A variadic parameter holds an integer for each of its values, any other one for its only value. -/

/-- The arguments that stand for one raw value each. -/
def Argument.elements : Argument → List Argument
  | variadic elements => elements
  | a => [a]

/-- The argument holds the integer for one of the raw values that it is made of. -/
def Argument.Receives (argument : Argument) (values : List RawValue) (n : Int64) : Prop :=
  ∃ value, (value, .value (.integer .i64 n.toInt)) ∈ values.zip argument.elements

/-- An integer parameter that got values has converted each of them. -/
theorem forall₂_convert_of_argument {p : Parameter σ} (hconverter : p.converter = .integer)
    {interaction : Interaction} {values : List RawValue} {argument : Argument}
    (hlength : p.variadic = false → values.length ≤ 1) (hvalues : values ≠ [])
    (h : p.argument interaction values = .ok argument) :
    List.Forall₂ (fun value a => p.convert interaction value = .ok a) values argument.elements := by
  unfold Parameter.argument at h
  cases hvariadic : p.variadic with
  | true =>
    rw [hvariadic, if_pos rfl, if_neg (by simp [hvalues])] at h
    obtain ⟨elements, helements, rfl⟩ := map_eq_ok_iff.mp h
    exact mapM_eq_ok_iff.mp helements
  | false =>
    rw [hvariadic, if_neg Bool.false_ne_true] at h
    match values, hlength hvariadic with
    | [value], _ =>
      -- the integer converter never gives a variadic argument, so this one is its own only element
      obtain ⟨_, _, n, _, rfl⟩ := (convert_integer_eq_ok_iff hconverter).mp h
      exact .cons h .nil

/-- A value of an integer parameter that got an argument stands for an integer, has passed the check of
its bounds, and is what the argument holds the integer for. -/
theorem exists_integer_of_mem_values {p : Parameter σ} (hconverter : p.converter = .integer)
    {interaction : Interaction} {values : List RawValue} {argument : Argument}
    (hlength : p.variadic = false → values.length ≤ 1)
    (h : p.argument interaction values = .ok argument) {value : RawValue} (hvalue : value ∈ values) :
    ∃ n, Converter.integerOf? value = some n ∧ checkBounds p.toParameterSpec value = .ok () ∧
      (value, .value (.integer .i64 n.toInt)) ∈ values.zip argument.elements := by
  have hall := forall₂_convert_of_argument hconverter hlength (List.ne_nil_of_mem hvalue) h
  obtain ⟨k, hk⟩ := List.mem_iff_getElem?.mp hvalue
  obtain ⟨a, ha, hconvert⟩ := forall₂_getElem? hall hk
  obtain ⟨_, hbounds, n, hn, rfl⟩ := (convert_integer_eq_ok_iff hconverter).mp hconvert
  exact ⟨n, hn, hbounds, List.mem_of_getElem? (List.getElem?_zip_eq_some.mpr ⟨hk, ha⟩)⟩

/-- What an integer parameter receives for its values are the integers that they stand for. -/
theorem receives_iff {p : Parameter σ} (hconverter : p.converter = .integer)
    {interaction : Interaction} {values : List RawValue} {argument : Argument}
    (hlength : p.variadic = false → values.length ≤ 1)
    (h : p.argument interaction values = .ok argument) {n : Int64} :
    argument.Receives values n ↔ ∃ value ∈ values, Converter.integerOf? value = some n := by
  constructor
  · rintro ⟨value, hmem⟩
    have hvalue : value ∈ values := (List.of_mem_zip hmem).1
    have hall := forall₂_convert_of_argument hconverter hlength (List.ne_nil_of_mem hvalue) h
    obtain ⟨_, _, m, hm, heq⟩ :=
      (convert_integer_eq_ok_iff hconverter).mp ((List.forall₂_iff_zip.mp hall).2 hmem)
    -- the argument tells which integer the value stands for
    have hnm : n = m := by
      injection heq with heq
      injection heq with _ heq
      exact Int64.toInt_inj.mp heq
    exact ⟨value, hvalue, hnm ▸ hm⟩
  · rintro ⟨value, hvalue, hn⟩
    obtain ⟨m, hm, _, hmem⟩ := exists_integer_of_mem_values hconverter hlength h hvalue
    cases hn.symm.trans hm
    exact ⟨value, hmem⟩

/-- **What the bounds promise.** An integer parameter receives the integers that its values stand for.
A value that arrives as an integer is within the bounds. All that the parameter receives is within the
bounds exactly when that holds of the values that are texts. -/
theorem received_inBounds_iff {table : ConverterTable} {around : List (ModuleDecl σ)}
    {command : Command σ} (h : Assembled table around command)
    (htable : table.find? (.integer .i64) = some .integer)
    {interaction : Interaction} {inputs : Inputs} {arguments : Arguments}
    (hbind : bindArguments command.toCommandSpec interaction inputs = .ok arguments)
    {i : Nat} {p : Parameter σ} (hp : command.parameters[i]? = some p)
    (htype : p.type = .integer .i64) :
    ∃ values argument,
      (allot command.parameters inputs)[i]? = some values ∧
      arguments.toList[i]? = some argument ∧
      (∀ value ∈ values, ∃ n, Converter.integerOf? value = some n ∧ argument.Receives values n) ∧
      (∀ n, .integer n ∈ values → p.InBounds n) ∧
      ((∀ n, argument.Receives values n → p.InBounds n) ↔
        ∀ s n, .text s ∈ values → Converter.integerOf? (.text s) = some n → p.InBounds n) := by
  have hconverter : p.converter = .integer := by
    have hfind := h.converter_eq (List.mem_of_getElem? hp)
    rw [htype, htable] at hfind
    exact (Option.some.inj hfind).symm
  obtain ⟨values, argument, hvalues, hargument, hmade⟩ := argument_of_bindArguments hbind hp
  have hlength := length_allot_le hp hvalues
  -- a raw integer is checked before it is converted
  have hinteger : ∀ n, RawValue.integer n ∈ values → p.InBounds n := by
    intro n hn
    obtain ⟨_, _, hbounds, _⟩ := exists_integer_of_mem_values hconverter hlength hmade hn
    exact checkBounds_integer_eq_ok_iff.mp hbounds
  refine ⟨values, argument, hvalues, hargument, ?_, hinteger, ?_⟩
  · intro value hvalue
    obtain ⟨n, hn, _, hmem⟩ := exists_integer_of_mem_values hconverter hlength hmade hvalue
    exact ⟨n, hn, value, hmem⟩
  · simp only [receives_iff hconverter hlength hmade]
    constructor
    · intro hall s n hs hn
      exact hall n ⟨_, hs, hn⟩
    · rintro htext n ⟨value, hvalue, hn⟩
      -- a text is not checked, so for texts the bounds are what is asked for
      rcases integer_or_text_of_integerOf? hn with rfl | ⟨s, rfl⟩
      · exact hinteger n hvalue
      · exact htext s n hvalue hn

/-- A button gives its captures as texts: this one makes the command receive 1000, where it declares 10
as the greatest number. -/
theorem purge_receives_thousand :
    Assembled .standard [Sample.moderation, Sample.cleanup] Sample.purge ∧
    ConverterTable.standard.find? (.integer .i64) = some .integer ∧
    bindArguments Sample.purge.toCommandSpec (Sample.press 1 none).interaction
      ⟨[.text "1000"], []⟩ = .ok ⟨[.value (.integer .i64 1000)]⟩ ∧
    ¬ ∀ n, (Argument.value (.integer .i64 1000)).Receives [.text "1000"] n →
      (Sample.count.toParameter .integer).InBounds n := by
  have hbind : bindArguments Sample.purge.toCommandSpec (Sample.press 1 none).interaction
      ⟨[.text "1000"], []⟩ = .ok ⟨[.value (.integer .i64 1000)]⟩ := rfl
  refine ⟨Sample.assembled_purge, rfl, hbind, ?_⟩
  obtain ⟨values, argument, hvalues, hargument, _, _, hiff⟩ :=
    received_inBounds_iff Sample.assembled_purge rfl hbind (i := 0) rfl rfl
  cases hvalues
  cases hargument
  intro hall
  -- the text stands for a number above the bound
  have hread : Converter.integerOf? (.text "1000") = some 1000 := by decide +kernel
  exact (hiff.mp hall "1000" 1000 List.mem_cons_self hread).not_above 10 rfl (by decide)

end ChatDispatch
