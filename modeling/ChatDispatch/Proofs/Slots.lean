import ChatDispatch.Proofs.Acceptance
import ChatDispatch.Proofs.Lists
import ChatDispatch.Proofs.TypedArguments

/-!
# Where the values of a parameter come from

Binding consumes its inputs: every parameter takes values away from those after it. The reference allocation
consumes nothing. It names the slots in the inputs whose values go to a parameter, from the position of the
parameter and the slots that the parameters before it have taken.

* **`Inputs.slotsFor`** — the rule for one parameter, **`Inputs.slots`** — for all parameters in order.
* **`Inputs.Remains`** — what binding has left of the inputs, in terms of slots, with one step
  (`Remains.share_single`) and all of them (`Remains.allot_eq`).
* **`nodup_slots`** — no slot is taken twice.
* **`Assembled.bind_allocated`** — the headline: binding is the reference allocation, value by value and error
  by error.
-/

namespace ChatDispatch

variable {σ : Type}

/-! ## The reference allocation

A slot names a value of the inputs by its position in one of the two lists, so that two equal values are still
told apart. -/

/-- Where a raw value stands in the inputs of a command. -/
inductive Slot where
  | positional (i : Nat)
  | named (i : Nat)
deriving DecidableEq

namespace Inputs

/-- The raw value at a slot. -/
def at? (inputs : Inputs) : Slot → Option RawValue
  | .positional i => inputs.positional[i]?
  | .named i => inputs.named[i]?.map (·.2)

/-- The named values at slots that have not been taken, with their positions. -/
def untaken (inputs : Inputs) (taken : List Slot) : List ((String × RawValue) × Nat) :=
  inputs.named.zipIdx.filter fun e => .named e.2 ∉ taken

/-- The slots whose values go to the parameter at position `i`, where `taken` are those of the parameters
before it. As long as there are positional values, a variadic parameter gets all of them from the `i`-th on
and any other one the `i`-th. Then a variadic parameter gets all named values that are left, and any other one
the first of them that has its name, without regard to the case of A to Z. -/
def slotsFor (inputs : Inputs) (taken : List Slot) (i : Nat) (p : ParameterSpec) : List Slot :=
  if i < inputs.positional.length then
    if p.variadic then (inputs.positional.zipIdx.drop i).map fun e => .positional e.2
    else [.positional i]
  else if p.variadic then (inputs.untaken taken).map fun e => .named e.2
  else ((inputs.untaken taken).find? fun e => Text.sameAscii e.1.1 p.name).toList.map fun e => .named e.2

/-- The slots of each of the parameters from position `i` on. -/
def slotsFrom (inputs : Inputs) (taken : List Slot) (i : Nat) : List (Parameter σ) → List (List Slot)
  | [] => []
  | p :: ps =>
    inputs.slotsFor taken i p.toParameterSpec ::
      inputs.slotsFrom (taken ++ inputs.slotsFor taken i p.toParameterSpec) (i + 1) ps

/-- The slots of each of the parameters of a command. -/
def slots (inputs : Inputs) (ps : List (Parameter σ)) : List (List Slot) := inputs.slotsFrom [] 0 ps

/-- Each parameter with the values at its slots. -/
def allocated (inputs : Inputs) (ps : List (Parameter σ)) : List (Parameter σ × List RawValue) :=
  ps.zip ((inputs.slots ps).map (·.filterMap inputs.at?))

/-! ## What is left of the inputs

Positional values are taken from the front and named ones from anywhere, so what is left is the rest of the one
list from a position on and the other list without the slots taken. -/

/-- What is left of the inputs for the parameters from position `i` on when those before have taken the values
at `taken`. -/
structure Remains (inputs : Inputs) (taken : List Slot) (i : Nat) (rest : Inputs) : Prop where
  positional : rest.positional = inputs.positional.drop i
  named : rest.named = (inputs.untaken taken).map (·.1)

variable {inputs rest : Inputs} {taken : List Slot} {i : Nat}

theorem at?_named {e : (String × RawValue) × Nat} (h : e ∈ inputs.named.zipIdx) :
    inputs.at? (.named e.2) = some e.1.2 := by
  show (inputs.named[e.2]?).map (·.2) = some e.1.2
  rw [List.mem_zipIdx_iff_getElem?.mp h]
  rfl

/-- The slots of some positional values hold these values. -/
theorem filterMap_at?_positional {es : List (RawValue × Nat)}
    (h : ∀ e ∈ es, e ∈ inputs.positional.zipIdx) :
    (es.map fun e => Slot.positional e.2).filterMap inputs.at? = es.map (·.1) := by
  rw [List.filterMap_map, ← List.filterMap_eq_map]
  refine List.filterMap_congr fun e he => ?_
  exact List.mem_zipIdx_iff_getElem?.mp (h e he)

theorem filterMap_at?_named {es : List ((String × RawValue) × Nat)}
    (h : ∀ e ∈ es, e ∈ inputs.named.zipIdx) :
    (es.map fun e => Slot.named e.2).filterMap inputs.at? = es.map (·.1.2) := by
  rw [List.filterMap_map, ← List.filterMap_eq_map]
  exact List.filterMap_congr fun e he => at?_named (h e he)

/-- Taking further slots leaves those of the untaken values that are not among them. -/
theorem untaken_append (inputs : Inputs) (taken others : List Slot) :
    inputs.untaken (taken ++ others) = (inputs.untaken taken).filter fun e => .named e.2 ∉ others := by
  unfold untaken
  rw [List.filter_filter]
  refine List.filter_congr fun e _ => ?_
  simp [List.mem_append, Bool.and_comm]

theorem mem_zipIdx_of_mem_untaken {e : (String × RawValue) × Nat} (h : e ∈ inputs.untaken taken) :
    e ∈ inputs.named.zipIdx :=
  (List.mem_filter.mp h).1

theorem not_mem_of_mem_untaken {e : (String × RawValue) × Nat} (h : e ∈ inputs.untaken taken) :
    Slot.named e.2 ∉ taken :=
  of_decide_eq_true (List.mem_filter.mp h).2

/-- The values that are left stand at different positions. -/
theorem nodup_untaken (inputs : Inputs) (taken : List Slot) :
    ((inputs.untaken taken).map (·.2)).Nodup := by
  have hnodup : (inputs.named.zipIdx.map Prod.snd).Nodup := by
    rw [List.zipIdx_map_snd]
    exact List.nodup_range'
  -- they are some of all positions, which differ
  exact hnodup.sublist (List.filter_sublist.map _)

/-- Positions tell the values apart, so erasing the first that qualifies is taking its slot. -/
theorem eraseP_untaken (inputs : Inputs) (taken : List Slot) (q : (String × RawValue) × Nat → Bool) :
    (inputs.untaken taken).eraseP q =
      inputs.untaken (taken ++ ((inputs.untaken taken).find? q).toList.map fun e => .named e.2) := by
  rw [untaken_append]
  cases hfound : (inputs.untaken taken).find? q with
  | none =>
    rw [List.eraseP_of_forall_not (List.find?_eq_none.mp hfound)]
    simp
  | some e =>
    rw [eraseP_eq_filter (nodup_untaken inputs taken) hfound]
    simp

/-- The slot of a parameter that is not variadic, while there are positional values. -/
theorem slotsFor_positional {p : ParameterSpec} (hsingle : p.variadic = false)
    (hi : i < inputs.positional.length) : inputs.slotsFor taken i p = [.positional i] := by
  unfold slotsFor
  rw [if_pos hi, hsingle]
  rfl

/-- The slot of a parameter that is not variadic, when the positional values are used up. -/
theorem slotsFor_named {p : ParameterSpec} (hsingle : p.variadic = false)
    (hi : ¬ i < inputs.positional.length) :
    inputs.slotsFor taken i p =
      ((inputs.untaken taken).find? fun e => Text.sameAscii e.1.1 p.name).toList.map
        fun e => .named e.2 := by
  unfold slotsFor
  rw [if_neg hi, hsingle]
  rfl

/-- One step of binding: a parameter that is not variadic gets the value at its slot, and the inputs that it
leaves are those without this slot. -/
theorem Remains.share_single {p : ParameterSpec} (h : Remains inputs taken i rest)
    (hsingle : p.variadic = false) :
    (rest.share p).1 = (inputs.slotsFor taken i p).filterMap inputs.at? ∧
      Remains inputs (taken ++ inputs.slotsFor taken i p) (i + 1) (rest.share p).2 := by
  obtain ⟨positional, named⟩ := rest
  obtain ⟨hpositional, hnamed⟩ := h
  dsimp only at hpositional hnamed
  subst hpositional hnamed
  by_cases hi : i < inputs.positional.length
  · -- the first positional value that is left is the one at `i`
    rw [List.drop_eq_getElem_cons hi, share_positional hsingle, slotsFor_positional hsingle hi]
    refine ⟨?_, rfl, ?_⟩
    · simp [at?, hi]
    · show (inputs.untaken taken).map (·.1) = _
      rw [untaken_append]
      simp
  · -- no positional value is left: the first named value of this name is taken away
    rw [List.drop_eq_nil_of_le (Nat.le_of_not_lt hi), share_named hsingle, slotsFor_named hsingle hi,
      List.find?_map, List.eraseP_map]
    refine ⟨?_, (List.drop_eq_nil_of_le (Nat.le_succ_of_le (Nat.le_of_not_lt hi))).symm, ?_⟩
    · rw [filterMap_at?_named, Option.toList_map, List.map_map]
      · rfl
      · intro e he
        exact mem_zipIdx_of_mem_untaken (List.mem_of_find?_eq_some (Option.mem_toList.mp he))
    · rw [← eraseP_untaken]
      rfl

/-- A variadic parameter gets the values at its slots. -/
theorem Remains.share_variadic {p : ParameterSpec} (h : Remains inputs taken i rest)
    (hvariadic : p.variadic = true) :
    (rest.share p).1 = (inputs.slotsFor taken i p).filterMap inputs.at? := by
  unfold Inputs.share takeAll slotsFor
  rw [hvariadic, h.positional, h.named, if_pos rfl, if_pos rfl, if_pos rfl]
  by_cases hi : i < inputs.positional.length
  · -- all positional values from `i` on
    rw [if_pos hi, if_neg (by simp [hi]), filterMap_at?_positional, List.map_drop, List.zipIdx_map_fst]
    intro e he
    exact List.mem_of_mem_drop he
  · -- all named values that are left
    rw [if_neg hi, if_pos (by simpa using hi), filterMap_at?_named, List.map_map]
    · rfl
    · intro e he
      exact mem_zipIdx_of_mem_untaken he

theorem remains_start (inputs : Inputs) : Remains inputs [] 0 inputs where
  positional := rfl
  named := by simp [untaken]

/-- No parameter follows a variadic one. -/
theorem eq_nil_of_variadic {p : Parameter σ} {ps : List (Parameter σ)}
    (hlast : (p :: ps).Pairwise fun p _ => p.variadic = false) (hvariadic : p.variadic = true) :
    ps = [] := by
  apply List.eq_nil_iff_forall_not_mem.mpr
  intro q hq
  cases hvariadic.symm.trans (List.rel_of_pairwise_cons hlast hq)

/-- **All parameters.** Where only the last may be variadic, they get the values at their slots. -/
theorem Remains.allot_eq {ps : List (Parameter σ)} (h : Remains inputs taken i rest)
    (hlast : ps.Pairwise fun p _ => p.variadic = false) :
    allot ps rest = (inputs.slotsFrom taken i ps).map (·.filterMap inputs.at?) := by
  -- on the parameters, with the slots taken and the inputs left generalised
  induction ps generalizing taken i rest with
  | nil => rfl
  | cons p ps ih =>
    rw [allot, slotsFrom, List.map_cons]
    cases hvariadic : p.variadic with
    | false =>
      obtain ⟨hvalues, hrest⟩ := h.share_single hvariadic
      rw [hvalues, ih hrest hlast.of_cons]
    | true =>
      -- nothing follows, so what the variadic parameter leaves does not matter
      rw [eq_nil_of_variadic hlast hvariadic, h.share_variadic hvariadic]
      rfl

/-! ## No slot is taken twice

A slot is a position not passed yet or one that `untaken` still has, so that it differs from all slots taken
before. -/

/-- What a parameter takes: positional slots from its own position on, or named slots that are left. -/
theorem mem_slotsFor {p : ParameterSpec} {slot : Slot} (h : slot ∈ inputs.slotsFor taken i p) :
    (∃ j, i ≤ j ∧ j < inputs.positional.length ∧ slot = .positional j) ∨
      ∃ e ∈ inputs.untaken taken, slot = .named e.2 := by
  unfold slotsFor at h
  split at h
  · next hi =>
    split at h
    · obtain ⟨e, he, rfl⟩ := List.mem_map.mp h
      -- the `k`-th value behind the position `i`
      obtain ⟨k, hk⟩ := List.mem_iff_getElem?.mp he
      rw [List.getElem?_drop, List.getElem?_zipIdx, Option.map_eq_some_iff] at hk
      obtain ⟨value, hvalue, rfl⟩ := hk
      have hlt : i + k < inputs.positional.length := (List.getElem?_eq_some_iff.mp hvalue).1
      exact .inl ⟨_, by omega, by omega, rfl⟩
    · rw [List.mem_singleton] at h
      exact .inl ⟨i, Nat.le_refl i, hi, h⟩
  · split at h
    · obtain ⟨e, he, rfl⟩ := List.mem_map.mp h
      exact .inr ⟨e, he, rfl⟩
    · obtain ⟨e, he, rfl⟩ := List.mem_map.mp h
      exact .inr ⟨e, List.mem_of_find?_eq_some (Option.mem_toList.mp he), rfl⟩

/-- Every slot of a parameter holds a value. -/
theorem exists_at?_of_mem_slotsFrom {ps : List (Parameter σ)} {slot : Slot}
    (h : slot ∈ (inputs.slotsFrom taken i ps).flatten) : ∃ value, inputs.at? slot = some value := by
  induction ps generalizing taken i with
  | nil => exact absurd h List.not_mem_nil
  | cons p ps ih =>
    rw [slotsFrom, List.flatten_cons, List.mem_append] at h
    cases h with
    | inr h => exact ih h
    | inl h =>
      rcases mem_slotsFor h with ⟨j, _, hj, rfl⟩ | ⟨e, he, rfl⟩
      · exact ⟨_, List.getElem?_eq_getElem hj⟩
      · exact ⟨_, at?_named (mem_zipIdx_of_mem_untaken he)⟩

theorem nodup_map_snd {β : Type} {es : List (β × Nat)} {f : Nat → Slot} (hf : Function.Injective f)
    (h : (es.map (·.2)).Nodup) : (es.map fun e => f e.2).Nodup := by
  have hnodup := List.Nodup.map hf h
  rw [List.map_map] at hnodup
  exact hnodup

/-- The slots of one parameter are different. -/
theorem nodup_slotsFor (inputs : Inputs) (taken : List Slot) (i : Nat) (p : ParameterSpec) :
    (inputs.slotsFor taken i p).Nodup := by
  have hpositional : Function.Injective Slot.positional := fun _ _ h => Slot.positional.inj h
  have hnamed : Function.Injective Slot.named := fun _ _ h => Slot.named.inj h
  unfold slotsFor
  -- what a parameter takes is positional as long as there are such values
  split
  · split
    · refine nodup_map_snd hpositional ?_
      rw [List.map_drop, List.zipIdx_map_snd]
      exact List.Nodup.sublist (List.drop_sublist _ _) List.nodup_range'
    · exact List.nodup_singleton _
  · split
    · exact nodup_map_snd hnamed (nodup_untaken inputs taken)
    · cases (inputs.untaken taken).find? fun e => Text.sameAscii e.1.1 p.name with
      | none => exact .nil
      | some e => exact List.nodup_singleton _

/-- The slots of the parameters from position `i` on differ from each other and from those taken before. -/
theorem nodup_append_slotsFrom {ps : List (Parameter σ)} (hnodup : taken.Nodup)
    (hbelow : ∀ j, .positional j ∈ taken → j < i) (hlast : ps.Pairwise fun p _ => p.variadic = false) :
    (taken ++ (inputs.slotsFrom taken i ps).flatten).Nodup := by
  induction ps generalizing taken i with
  | nil => simpa [slotsFrom] using hnodup
  | cons p ps ih =>
    rw [slotsFrom, List.flatten_cons, ← List.append_assoc]
    -- positions below `i` are all that was taken of the positional values, and `untaken` leaves taken ones out
    have hnew : (taken ++ inputs.slotsFor taken i p.toParameterSpec).Nodup := by
      refine List.nodup_append.mpr ⟨hnodup, nodup_slotsFor _ _ _ _, ?_⟩
      intro slot hslot other hother heq
      subst heq
      rcases mem_slotsFor hother with ⟨j, hj, _, rfl⟩ | ⟨e, he, rfl⟩
      · exact absurd (hbelow j hslot) (Nat.not_lt_of_le hj)
      · exact not_mem_of_mem_untaken he hslot
    cases hvariadic : p.variadic with
    | true =>
      rw [eq_nil_of_variadic hlast hvariadic, slotsFrom, List.flatten_nil, List.append_nil]
      exact hnew
    | false =>
      refine ih hnew (fun j hj => ?_) hlast.of_cons
      -- the positional slots are below `i + 1`, since the parameter takes the `i`-th at most
      rcases List.mem_append.mp hj with hj | hj
      · exact Nat.lt_succ_of_lt (hbelow j hj)
      · by_cases hi : i < inputs.positional.length
        · rw [slotsFor_positional hvariadic hi, List.mem_singleton] at hj
          cases hj
          exact Nat.lt_succ_self i
        · rw [slotsFor_named hvariadic hi] at hj
          obtain ⟨e, _, he⟩ := List.mem_map.mp hj
          cases he

theorem nodup_slots (inputs : Inputs) {ps : List (Parameter σ)}
    (hlast : ps.Pairwise fun p _ => p.variadic = false) : (inputs.slots ps).flatten.Nodup :=
  nodup_append_slotsFrom .nil nofun hlast

theorem length_slotsFrom (inputs : Inputs) (taken : List Slot) (i : Nat) (ps : List (Parameter σ)) :
    (inputs.slotsFrom taken i ps).length = ps.length := by
  induction ps generalizing taken i with
  | nil => rfl
  | cons p ps ih => rw [slotsFrom, List.length_cons, List.length_cons, ih]

theorem map_fst_allocated (inputs : Inputs) (ps : List (Parameter σ)) :
    (inputs.allocated ps).map (·.1) = ps := by
  refine List.map_fst_zip (Nat.le_of_eq ?_)
  rw [List.length_map, slots, length_slotsFrom]

end Inputs

/-! ## Binding

Binding makes each argument from the values that its parameter is allotted, and those are the ones at its slots.
-/

/-- Binding decides whether every parameter is satisfied by the values at its slots. -/
theorem Assembled.decides_bindArguments {table : ConverterTable} {around : List (ModuleDecl σ)}
    {command : Command σ} (h : Assembled table around command) (interaction : Interaction)
    (inputs : Inputs) :
    Decides (bindArguments command.toCommandSpec interaction inputs)
      (∀ pv ∈ inputs.allocated command.parameters, pv.1.Satisfied interaction pv.2)
      (fun arguments => List.Forall₂ (fun pv a => pv.1.Makes interaction pv.2 a)
        (inputs.allocated command.parameters) arguments.toList)
      (FirstBroken (fun pv => pv.1.Satisfied interaction pv.2)
        (fun pv => pv.1.Violated interaction pv.2) (inputs.allocated command.parameters)) := by
  -- what the parameters are allotted stands at their slots
  have hallot : allot command.parameters inputs =
      (inputs.slots command.parameters).map (·.filterMap inputs.at?) :=
    inputs.remains_start.allot_eq h.variadic_last
  unfold bindArguments Inputs.allocated
  rw [bindParameters_eq_mapM, ← hallot]
  refine Decides.map (Decides.mapM fun pv hpv => ?_) Iff.rfl (fun _ hmade => hmade) fun _ he => he
  -- a parameter that is not variadic has one slot at most
  obtain ⟨i, hi⟩ := List.mem_iff_getElem?.mp hpv
  obtain ⟨hp, hvalues⟩ := List.getElem?_zip_eq_some.mp hi
  exact pv.1.decides_argument interaction (length_allot_le hp hvalues)

/-- **Binding is the reference allocation.** Each parameter of an assembled command has its slots in the
inputs, which hold values and are different from those of all other parameters. The arguments are bound if
every parameter is satisfied by the values at its slots, and then each is made of these values. Otherwise the
arguments are refused for what is wrong with the values of the first parameter that is not satisfied. -/
theorem Assembled.bind_allocated {table : ConverterTable} {around : List (ModuleDecl σ)}
    {command : Command σ} (h : Assembled table around command) (interaction : Interaction)
    (inputs : Inputs) :
    (inputs.allocated command.parameters).map (·.1) = command.parameters ∧
    (inputs.slots command.parameters).flatten.Nodup ∧
    (∀ slot ∈ (inputs.slots command.parameters).flatten, ∃ value, inputs.at? slot = some value) ∧
    ((∃ arguments, bindArguments command.toCommandSpec interaction inputs = .ok arguments) ↔
      ∀ pv ∈ inputs.allocated command.parameters, pv.1.Satisfied interaction pv.2) ∧
    (∀ arguments, bindArguments command.toCommandSpec interaction inputs = .ok arguments →
      List.Forall₂ (fun pv a => pv.1.Makes interaction pv.2 a) (inputs.allocated command.parameters)
        arguments.toList) ∧
    (∀ e, bindArguments command.toCommandSpec interaction inputs = .error e →
      FirstBroken (fun pv => pv.1.Satisfied interaction pv.2)
        (fun pv => pv.1.Violated interaction pv.2) (inputs.allocated command.parameters) e ∧
      e.toResult.kind? = some .badArgs) := by
  have hdecides := h.decides_bindArguments interaction inputs
  refine ⟨inputs.map_fst_allocated _, inputs.nodup_slots h.variadic_last,
    fun _ => Inputs.exists_at?_of_mem_slotsFrom, hdecides.exists_ok_iff, ?_, ?_⟩
  · intro arguments hbind
    exact hdecides.result_of_ok hbind
  · intro e hbind
    exact ⟨hdecides.reason_of_error hbind, rfl⟩

namespace Sample

/-- The points come by position, and the reason and the members by name in another order. -/
def scolding : Inputs :=
  ⟨[.text " 7"], [("members", .mentionable (.user ⟨⟨4⟩, "bob"⟩)), ("REASON", .text "late"),
    ("members", .mentionable (.user ⟨⟨5⟩, "eve"⟩))]⟩

end Sample

/-- Two of the values are named like the variadic parameter and stand around the reason. -/
theorem bind_allocated_award :
    Assembled .standard [Sample.awards] Sample.award ∧
    Sample.scolding.slots Sample.award.parameters =
      [[.positional 0], [.named 1], [.named 0, .named 2]] ∧
    ∃ arguments, bindArguments Sample.award.toCommandSpec (Sample.press 1 none).interaction
        Sample.scolding = .ok arguments ∧
      (∀ pv ∈ Sample.scolding.allocated Sample.award.parameters,
        pv.1.Satisfied (Sample.press 1 none).interaction pv.2) ∧
      List.Forall₂ (fun pv a => pv.1.Makes (Sample.press 1 none).interaction pv.2 a)
        (Sample.scolding.allocated Sample.award.parameters) arguments.toList := by
  obtain ⟨_, _, _, haccepted, hmade, _⟩ :=
    Assembled.bind_allocated Sample.assembled_award (Sample.press 1 none).interaction Sample.scolding
  have hbind : bindArguments Sample.award.toCommandSpec (Sample.press 1 none).interaction
      Sample.scolding = .ok ⟨[.value (.integer .u8 7), .value (.text "late"),
        .variadic [.value (.user ⟨⟨4⟩, "bob"⟩), .value (.user ⟨⟨5⟩, "eve"⟩)]]⟩ := rfl
  exact ⟨Sample.assembled_award, by decide, _, hbind, haccepted.mp ⟨_, hbind⟩, hmade _ hbind⟩

end ChatDispatch
