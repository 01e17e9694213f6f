import ChatDispatch.Proofs.Acceptance
import ChatDispatch.Proofs.ArgumentTypes
import ChatDispatch.Proofs.Assembly

/-!
# Reading arguments

A handler reads the arguments of its command by position and by the types of the parameters. Once the
arguments have been bound, it meets no error.

* **`Parameter.Reads`** — what a handler gets when it reads the argument of a parameter.
* **`Parameter.reads_of_argument`** — the argument that a parameter makes of its values can be read.
* **`Assembled.reads_of_bindArguments`** — the headline, for all parameters of an assembled command.
-/

namespace ChatDispatch

variable {σ : Type}

/-- A handler gets values of the parameter's type for the argument at the position: one if the parameter is
required, at most one if it is optional, and any number if it is variadic, at least one if it is required as
well. -/
structure Parameter.Reads (p : Parameter σ) (arguments : Arguments) (i : Nat) : Prop where
  required : p.variadic = false → p.required = true →
    ∃ v, arguments.required p.type.name i = .ok v ∧ v.HasType p.type
  optional : p.variadic = false → p.required = false →
    ∃ found, arguments.optional p.type.name i = .ok found ∧ ∀ v ∈ found, v.HasType p.type
  variadic : p.variadic = true →
    ∃ vs, arguments.variadic p.type.name i = .ok vs ∧ (∀ v ∈ vs, v.HasType p.type) ∧
      (p.required = true → vs ≠ [])

/-! ## Reading one argument

What a handler gets for an argument at a known position, when the value there is of the type that it asks for. -/

section Reading

variable {arguments : Arguments} {i : Nat} {v : ArgValue} {t : ArgType}

/-- A value of a type can be read under the name of this type. -/
theorem valueOf?_of_hasType (h : v.HasType t) : (Argument.value v).valueOf? t.name = some v := by
  rw [Argument.valueOf?, if_pos h.typeName_eq]

theorem get_eq_ok {a : Argument} (hget : arguments.toList[i]? = some a) : arguments.get i = .ok a := by
  rw [Arguments.get, hget]

/-- A value of the type can be read as one that must be there. -/
theorem required_of_hasType (hget : arguments.toList[i]? = some (.value v)) (h : v.HasType t) :
    arguments.required t.name i = .ok v := by
  refine bind_eq_ok_iff.mpr ⟨_, get_eq_ok hget, ?_⟩
  rw [valueOf?_of_hasType h]
  rfl

theorem optional_of_hasType (hget : arguments.toList[i]? = some (.value v)) (h : v.HasType t) :
    arguments.optional t.name i = .ok (some v) := by
  refine bind_eq_ok_iff.mpr ⟨_, get_eq_ok hget, ?_⟩
  rw [valueOf?_of_hasType h]
  rfl

theorem optional_of_missing (typeName : String) (hget : arguments.toList[i]? = some .missing) :
    arguments.optional typeName i = .ok none :=
  bind_eq_ok_iff.mpr ⟨_, get_eq_ok hget, rfl⟩

/-- Values of the type can be read together. -/
theorem variadic_of_hasType {vs : List ArgValue}
    (hget : arguments.toList[i]? = some (.variadic (vs.map .value))) (h : ∀ v ∈ vs, v.HasType t) :
    arguments.variadic t.name i = .ok vs := by
  refine bind_eq_ok_iff.mpr ⟨_, get_eq_ok hget, mapM_eq_ok_iff.mpr ?_⟩
  rw [List.forall₂_map_left_iff, List.forall₂_same]
  intro v hv
  rw [valueOf?_of_hasType (h v hv)]

end Reading

/-! ## Binding one parameter

Converters give values of the types that they serve, and defaults are of the type of their parameter. So is each
argument that can come about. -/

section Binding

variable {p : Parameter σ} {interaction : Interaction}

/-- A raw value is converted to a value of the parameter's type. -/
theorem isOfType_of_convert (hserves : p.converter.Serves p.type) {raw : RawValue} {a : Argument}
    (h : p.convert interaction raw = .ok a) : a.IsOfType p.type :=
  hserves interaction raw a ((p.decides_convert interaction raw).result_of_ok h)

/-- So are several ones, each to a value of its own. -/
theorem exists_values_of_mapM (hserves : p.converter.Serves p.type) {raws : List RawValue}
    {elements : List Argument} (h : raws.mapM (p.convert interaction) = .ok elements) :
    ∃ vs : List ArgValue, elements = vs.map .value ∧ (∀ v ∈ vs, v.HasType p.type) ∧
      vs.length = raws.length := by
  induction mapM_eq_ok_iff.mp h with
  | nil => exact ⟨[], rfl, fun _ hv => absurd hv List.not_mem_nil, rfl⟩
  | cons hconvert hrest ih =>
    obtain ⟨v, rfl, hv⟩ := isOfType_of_convert hserves hconvert
    obtain ⟨vs, rfl, hvs, hlength⟩ := ih (mapM_eq_ok_iff.mpr hrest)
    exact ⟨v :: vs, rfl, List.forall_mem_cons.mpr ⟨hv, hvs⟩, congrArg (· + 1) hlength⟩

/-- The argument of a parameter that is not variadic is a value of its type, or missing if it is optional. -/
theorem isOfType_or_missing_of_argument (hserves : p.converter.Serves p.type)
    (hdefault : ∀ a, p.default = some a → a.IsOfType p.type) (hsingle : p.variadic = false)
    {raws : List RawValue} {a : Argument} (h : p.argument interaction raws = .ok a) :
    a.IsOfType p.type ∨ p.required = false ∧ a = .missing := by
  unfold Parameter.argument at h
  rw [hsingle, if_neg Bool.false_ne_true] at h
  cases raws with
  | cons raw raws => exact .inl (isOfType_of_convert hserves h)
  | nil =>
    dsimp only at h
    split at h
    · cases h
    · next hoptional =>
      cases h
      cases hgiven : p.default with
      | none => exact .inr ⟨eq_false_of_ne_true hoptional, rfl⟩
      | some a => exact .inl (hdefault a hgiven)

/-- The argument of a variadic parameter collects values of its type, at least one if it is required. -/
theorem exists_values_of_argument (hserves : p.converter.Serves p.type) (hvariadic : p.variadic = true)
    {raws : List RawValue} {a : Argument} (h : p.argument interaction raws = .ok a) :
    ∃ vs : List ArgValue, a = .variadic (vs.map .value) ∧ (∀ v ∈ vs, v.HasType p.type) ∧
      (p.required = true → vs ≠ []) := by
  unfold Parameter.argument at h
  rw [hvariadic, if_pos rfl] at h
  split at h
  · cases h
  · next hsupplied =>
    obtain ⟨elements, helements, rfl⟩ := map_eq_ok_iff.mp h
    obtain ⟨vs, rfl, hvs, hlength⟩ := exists_values_of_mapM hserves helements
    -- there are as many values as raw ones, and a required parameter has been supplied
    refine ⟨vs, rfl, hvs, fun hrequired hnone => hsupplied ?_⟩
    rw [hnone, List.length_nil, eq_comm, List.length_eq_zero_iff] at hlength
    rw [hlength, hrequired]
    rfl

/-- **One parameter.** The argument that a parameter makes of its raw values can be read. -/
theorem Parameter.reads_of_argument (hserves : p.converter.Serves p.type)
    (hdefault : ∀ a, p.default = some a → a.IsOfType p.type) {raws : List RawValue}
    {arguments : Arguments} {i : Nat} {a : Argument} (hget : arguments.toList[i]? = some a)
    (h : p.argument interaction raws = .ok a) : p.Reads arguments i where
  required hsingle hrequired := by
    obtain ⟨v, rfl, hv⟩ | ⟨hoptional, _⟩ :=
      isOfType_or_missing_of_argument hserves hdefault hsingle h
    · exact ⟨v, required_of_hasType hget hv, hv⟩
    · cases hrequired.symm.trans hoptional
  optional hsingle _ := by
    obtain ⟨v, rfl, hv⟩ | ⟨_, rfl⟩ := isOfType_or_missing_of_argument hserves hdefault hsingle h
    · exact ⟨some v, optional_of_hasType hget hv, fun _ hw => Option.mem_some.mp hw ▸ hv⟩
    · exact ⟨none, optional_of_missing _ hget, fun v hv => absurd hv (Option.not_mem_none v)⟩
  variadic hvariadic := by
    obtain ⟨vs, rfl, hvs, hnonempty⟩ := exists_values_of_argument hserves hvariadic h
    exact ⟨vs, variadic_of_hasType hget hvs, hvs, hnonempty⟩

end Binding

/-! ## All parameters of a command

Arguments stand at the positions of their parameters, so the statement about one parameter settles all. -/

/-- **Handlers read what their commands declare.** Take a command that was assembled with an unmodified table,
whose parameters have types of the library and defaults of these types. Whatever inputs its arguments have been
bound from, there is one argument for each parameter, and a handler that reads them by position and type gets
values of the types of the parameters and never an error. -/
theorem Assembled.reads_of_bindArguments {table : ConverterTable} {around : List (ModuleDecl σ)}
    {command : Command σ} (h : Assembled table around command) (htable : table.Unmodified)
    (htypes : ∀ p ∈ command.parameters, p.type.IsOwn)
    (hdefaults : ∀ p ∈ command.parameters, ∀ a, p.default = some a → a.IsOfType p.type)
    {interaction : Interaction} {inputs : Inputs} {arguments : Arguments}
    (hbind : bindArguments command.toCommandSpec interaction inputs = .ok arguments) :
    arguments.toList.length = command.parameters.length ∧
    ∀ i (p : Parameter σ), command.parameters[i]? = some p → p.Reads arguments i := by
  refine ⟨length_of_bindArguments hbind, fun i p hp => ?_⟩
  have hmem : p ∈ command.parameters := List.mem_of_getElem? hp
  have hserves := htable.serves (htypes p hmem) (h.converter_eq hmem)
  obtain ⟨raws, a, _, hget, hargument⟩ := argument_of_bindArguments hbind hp
  exact p.reads_of_argument hserves (hdefaults p hmem) hget hargument

namespace Sample

def points : ParameterDecl Unit where
  name := "points"
  type := .integer .u8

def reason : ParameterDecl Unit where
  name := "reason"
  type := .text
  required := false
  default := some (.value (.text "none"))

def members : ParameterDecl Unit where
  name := "members"
  type := .user
  required := false
  variadic := true

/-- Gives points to users. -/
def awardDecl : CommandDecl Unit where
  kind := .component
  name := "award"
  parameters := [points, reason, members]
  handler := some handler

def awards : ModuleDecl Unit :=
  ⟨"host::Awards", "Awards", none, true, [], [awardDecl], [], construct "host::Awards"⟩

def award : Command Unit :=
  awardDecl.toCommand (awards.owner 1 [] .none) handler
    [points.toParameter (.ofFamily .integer fun raw => (Converter.integerOf? raw).map .integer),
      reason.toParameter .text,
      members.toParameter (.ofFamily .user fun raw => (Converter.userOf? raw).map .user)]

theorem assembled_award : Assembled .standard [awards] award :=
  .intro (show assemble .standard 1 awards = .ok _ from rfl) (.here awards _) List.mem_cons_self

theorem isOwn_award : ∀ p ∈ award.parameters, p.type.IsOwn := by
  show ∀ p ∈ [_, _, _], _
  simp only [List.forall_mem_cons, List.not_mem_nil, false_implies, implies_true, and_true]
  exact ⟨.integer .u8, .text, .user⟩

theorem isOfType_default_award :
    ∀ p ∈ award.parameters, ∀ a, p.default = some a → a.IsOfType p.type := by
  show ∀ p ∈ [_, _, _], _
  simp only [List.forall_mem_cons, List.not_mem_nil, false_implies, implies_true, and_true]
  refine ⟨nofun, fun a ha => ?_, nofun⟩
  cases ha
  exact ⟨_, rfl, .text "none"⟩

/-- The points come as a text, and no reason is given. -/
def praise : Inputs :=
  ⟨[], [("members", .mentionable (.user ⟨⟨4⟩, "bob"⟩)), ("points", .text " 7")]⟩

end Sample

/-- The points are read as a number, the reason from its default, and the members as users. -/
theorem reads_of_bindArguments_award :
    Assembled .standard [Sample.awards] Sample.award ∧ ConverterTable.Unmodified .standard ∧
    (∀ p ∈ Sample.award.parameters, p.type.IsOwn) ∧
    (∀ p ∈ Sample.award.parameters, ∀ a, p.default = some a → a.IsOfType p.type) ∧
    ∃ arguments, bindArguments Sample.award.toCommandSpec (Sample.press 1 none).interaction
        Sample.praise = .ok arguments ∧
      arguments.toList = [.value (.integer .u8 7), .value (.text "none"),
        .variadic [.value (.user ⟨⟨4⟩, "bob"⟩)]] ∧
      arguments.toList.length = Sample.award.parameters.length ∧
      ∀ i (p : Parameter Unit), Sample.award.parameters[i]? = some p → p.Reads arguments i := by
  have hbind : bindArguments Sample.award.toCommandSpec (Sample.press 1 none).interaction
      Sample.praise = .ok ⟨[.value (.integer .u8 7), .value (.text "none"),
        .variadic [.value (.user ⟨⟨4⟩, "bob"⟩)]]⟩ := rfl
  exact ⟨Sample.assembled_award, .standard, Sample.isOwn_award, Sample.isOfType_default_award, _,
    hbind, rfl, Assembled.reads_of_bindArguments Sample.assembled_award .standard Sample.isOwn_award
      Sample.isOfType_default_award hbind⟩

end ChatDispatch
