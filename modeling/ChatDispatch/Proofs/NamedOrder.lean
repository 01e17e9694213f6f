import ChatDispatch.Proofs.Lists
import ChatDispatch.Proofs.TypedArguments

/-!
# The order of named values

Named values are searched and taken away one after the other, so what a parameter gets could depend on their
order, and on values that are for nobody. It does not where no two values share a name and no parameter is
variadic.

* **`Inputs.AgreeOn`** — inputs that parameters of given names cannot tell apart.
* **`Inputs.AgreeOn.share`** — one parameter takes the same from both and leaves what the others cannot tell
  apart.
* **`Inputs.AgreeOn.allot_eq`** — neither can all parameters together.
* **`bindArguments_named_order`** — the headline.
-/

namespace ChatDispatch

variable {σ : Type}

/-! ## Names without regard to case

Values are selected by names up to the case of ASCII letters, so two names either mean the same values or none in
common. -/

/-- Two names select the same names or no common one. -/
theorem Text.sameAscii_same_or_apart (name other : String) :
    (∀ n, sameAscii n name = sameAscii n other) ∨
      ∀ n, sameAscii n name = true → sameAscii n other = false := by
  unfold sameAscii
  by_cases h : name.toList.map Char.toLower = other.toList.map Char.toLower
  · left
    intro n
    rw [h]
  · right
    intro n hn
    rw [beq_iff_eq] at hn
    rw [hn]
    exact beq_false_of_ne h

/-! ## Inputs that cannot be told apart

Parameters see of the named values only those under their own names, each in the order given. So inputs that agree
on these lead to the same arguments. -/

/-- The inputs have the same positional values, and the same values under each of the names. -/
structure Inputs.AgreeOn (names : List String) (a b : Inputs) : Prop where
  positional : a.positional = b.positional
  named : ∀ name ∈ names,
    a.named.filter (Text.sameAscii ·.1 name) = b.named.filter (Text.sameAscii ·.1 name)

namespace Inputs.AgreeOn

variable {a b : Inputs}

/-- What agrees under two names still does when the first value under one of them is taken away. -/
theorem filter_eraseP_eq {named others : List (String × RawValue)} {name other : String}
    (hname : named.filter (Text.sameAscii ·.1 name) = others.filter (Text.sameAscii ·.1 name))
    (hother : named.filter (Text.sameAscii ·.1 other) = others.filter (Text.sameAscii ·.1 other)) :
    (named.eraseP (Text.sameAscii ·.1 name)).filter (Text.sameAscii ·.1 other) =
      (others.eraseP (Text.sameAscii ·.1 name)).filter (Text.sameAscii ·.1 other) := by
  cases Text.sameAscii_same_or_apart name other with
  | inl hsame =>
    have hkept := filter_eraseP_of_same fun e : String × RawValue => hsame e.1
    rw [hkept, hkept, hname]
  | inr hapart =>
    have hkept := filter_eraseP_of_apart fun e : String × RawValue => hapart e.1
    rw [hkept, hkept, hother]

/-- **One parameter.** It gets the same values from both, and what it leaves agrees on the other names. -/
theorem share {p : ParameterSpec} {names : List String} (h : AgreeOn (p.name :: names) a b)
    (hsingle : p.variadic = false) :
    (a.share p).1 = (b.share p).1 ∧ AgreeOn names (a.share p).2 (b.share p).2 := by
  obtain ⟨positional, named⟩ := a
  obtain ⟨_, others⟩ := b
  obtain ⟨rfl, hnamed⟩ := h
  cases positional with
  | cons value positional =>
    rw [share_positional hsingle, share_positional hsingle]
    exact ⟨rfl, rfl, fun name hname => hnamed name (List.mem_cons_of_mem _ hname)⟩
  | nil =>
    -- the first value under a name is the first of those under it
    have hname := hnamed p.name List.mem_cons_self
    rw [share_named hsingle, share_named hsingle, ← List.head?_filter, ← List.head?_filter]
    refine ⟨by rw [hname], rfl, fun other hother => ?_⟩
    exact filter_eraseP_eq hname (hnamed other (List.mem_cons_of_mem _ hother))

/-- **All parameters.** They get the same values from both. -/
theorem allot_eq {ps : List (Parameter σ)} (h : AgreeOn (ps.map (·.name)) a b)
    (hsingle : ∀ p ∈ ps, p.variadic = false) : allot ps a = allot ps b := by
  induction ps generalizing a b with
  | nil => rfl
  | cons p ps ih =>
    obtain ⟨hvalues, hrest⟩ := h.share (hsingle p List.mem_cons_self)
    rw [allot, allot, hvalues, ih hrest fun q hq => hsingle q (List.mem_cons_of_mem _ hq)]

end Inputs.AgreeOn

/-! ## Other orders and further values

With one value for each name there is nothing to order within a name, and what is for nobody is under no name. -/

/-- Where no two values share a name, each name has one value at most. -/
theorem length_filter_sameAscii_le_one {named : List (String × RawValue)}
    (hdistinct : named.Pairwise fun e f => Text.sameAscii e.1 f.1 = false) (name : String) :
    (named.filter (Text.sameAscii ·.1 name)).length ≤ 1 := by
  refine length_filter_le_one_of_pairwise (hdistinct.imp fun {e f} hdiffer he => ?_)
  cases Text.sameAscii_same_or_apart f.1 name with
  | inl hsame => exact absurd ((hsame e.1).symm.trans hdiffer) (by rw [he]; exact nofun)
  | inr hapart => exact hapart f.1 (beq_self_eq_true _)

/-- Values in another order, with further ones for nobody, cannot be told apart from the values alone. -/
theorem agreeOn_of_perm {names : List String} {positional : List RawValue}
    {named others extra : List (String × RawValue)}
    (hdistinct : named.Pairwise fun e f => Text.sameAscii e.1 f.1 = false)
    (hextra : ∀ e ∈ extra, ∀ name ∈ names, Text.sameAscii e.1 name = false)
    (hperm : others.Perm (named ++ extra)) :
    Inputs.AgreeOn names ⟨positional, others⟩ ⟨positional, named⟩ := by
  refine ⟨rfl, fun name hname => ?_⟩
  have hnone : extra.filter (Text.sameAscii ·.1 name) = [] :=
    List.filter_eq_nil_iff.mpr fun e he => Bool.not_eq_true _ ▸ hextra e he name hname
  -- under each name both inputs have the same values up to order, and there is one at most
  have hfiltered := hperm.filter (Text.sameAscii ·.1 name)
  rw [List.filter_append, hnone, List.append_nil] at hfiltered
  exact eq_of_perm_of_length_le_one hfiltered (length_filter_sameAscii_le_one hdistinct name)

/-- **Named values may come in any order.** Take a command without a variadic parameter and named values of
which no two share a name without regard to the case of A to Z. The arguments, or what is wrong with the
values, are the same if the values come in another order, and if values come with them under names that no
parameter has. -/
theorem bindArguments_named_order {command : CommandSpec σ}
    (hsingle : ∀ p ∈ command.parameters, p.variadic = false) (interaction : Interaction)
    {positional : List RawValue} {named others extra : List (String × RawValue)}
    (hdistinct : named.Pairwise fun e f => Text.sameAscii e.1 f.1 = false)
    (hextra : ∀ e ∈ extra, ∀ p ∈ command.parameters, Text.sameAscii e.1 p.name = false)
    (hperm : others.Perm (named ++ extra)) :
    bindArguments command interaction ⟨positional, others⟩ =
      bindArguments command interaction ⟨positional, named⟩ := by
  have hagree : Inputs.AgreeOn (command.parameters.map (·.name)) ⟨positional, others⟩ ⟨positional, named⟩ :=
    agreeOn_of_perm hdistinct (fun e he => List.forall_mem_map.mpr (hextra e he)) hperm
  unfold bindArguments
  rw [bindParameters_eq_mapM, bindParameters_eq_mapM, hagree.allot_eq hsingle]

namespace Sample

/-- The award without its members. -/
def prize : CommandSpec Unit :=
  { award.toCommandSpec with parameters := award.parameters.take 2 }

theorem not_variadic_prize : ∀ p ∈ prize.parameters, p.variadic = false := by
  show ∀ p ∈ [_, _], _
  simp only [List.forall_mem_cons, List.not_mem_nil, false_implies, implies_true, and_true]
  exact ⟨rfl, rfl⟩

def given : List (String × RawValue) := [("points", .text " 7"), ("Reason", .text "late")]

/-- A value for nobody. -/
def stray : List (String × RawValue) := [("points ", .boolean true)]

/-- The same in another order. -/
def shuffled : List (String × RawValue) :=
  [("Reason", .text "late"), ("points ", .boolean true), ("points", .text " 7")]

end Sample

theorem bindArguments_named_order_prize :
    (∀ p ∈ Sample.prize.parameters, p.variadic = false) ∧
    Sample.given.Pairwise (fun e f => Text.sameAscii e.1 f.1 = false) ∧
    (∀ e ∈ Sample.stray, ∀ p ∈ Sample.prize.parameters, Text.sameAscii e.1 p.name = false) ∧
    Sample.shuffled.Perm (Sample.given ++ Sample.stray) ∧
    bindArguments Sample.prize (Sample.press 1 none).interaction ⟨[], Sample.shuffled⟩ =
      .ok ⟨[.value (.integer .u8 7), .value (.text "late")]⟩ := by
  have hdistinct : Sample.given.Pairwise fun e f => Text.sameAscii e.1 f.1 = false :=
    List.pairwise_pair.mpr (by decide)
  have hextra : ∀ e ∈ Sample.stray, ∀ p ∈ Sample.prize.parameters,
      Text.sameAscii e.1 p.name = false := by
    show ∀ e ∈ [_], ∀ p ∈ [_, _], _
    simp only [List.forall_mem_cons, List.not_mem_nil, false_implies, implies_true, and_true]
    decide
  -- the first value is moved to the end
  have hperm : Sample.shuffled.Perm (Sample.given ++ Sample.stray) := by
    show ([_, _] ++ [_]).Perm ([_] ++ [_, _])
    exact List.perm_append_comm
  refine ⟨Sample.not_variadic_prize, hdistinct, hextra, hperm, ?_⟩
  rw [bindArguments_named_order Sample.not_variadic_prize _ hdistinct hextra hperm]
  rfl

end ChatDispatch
