import ChatDispatch.Proofs.Assembly
import ChatDispatch.Proofs.Tier

/-!
# Modules inside modules

A command is checked against the modules around it as one tier: the checks of all of them in a row,
regrouped by label. A label means the same on every level of the tree, so the checks of an inner module
join the groups of the outer ones.

* **`MetElsewhere`** — a label of one module that only another module of the chain lets pass.
* **`checkTier_alone_iff`** — the headline: once the chain is let through, a module of it on its own is
  let through exactly when it has no such label. Its checks without a label pass in any case.
* **`nesting_can_weaken`** — such labels occur: an inner module can let through what an outer one with
  the same label refuses.
-/

namespace ChatDispatch

variable {σ : Type}

/-- A label of the module at position `i` of a chain that none of its own members meets, and that a
member declared on another module of the chain does. -/
def MetElsewhere (around : List (ModuleDecl σ)) (i : Nat) (passes : Precondition σ → Prop)
    (label : String) : Prop :=
  label ≠ "" ∧
  (∃ d, around[i]? = some d ∧ (∃ p ∈ d.preconditions, p.label = some label) ∧
    ∀ p ∈ d.preconditions, p.label = some label → ¬ passes p) ∧
  ∃ j e, j ≠ i ∧ around[j]? = some e ∧ ∃ q ∈ e.preconditions, q.label = some label ∧ passes q

/-- The rule for a chain of modules as one tier against the rule for one of them on its own. -/
theorem tierPasses_alone_iff {around : List (ModuleDecl σ)} {passes : Precondition σ → Prop}
    (hchain : TierPasses (around.flatMap (·.preconditions)) passes) {i : Nat} {d : ModuleDecl σ}
    (hd : around[i]? = some d) :
    TierPasses d.preconditions passes ↔ ¬ ∃ label, MetElsewhere around i passes label := by
  have hmem : ∀ {j : Nat} {e : ModuleDecl σ}, around[j]? = some e → ∀ p ∈ e.preconditions,
      p ∈ around.flatMap (·.preconditions) := by
    intro j e he p hp
    exact List.mem_flatMap.mpr ⟨e, List.mem_of_getElem? he, hp⟩
  constructor
  · rintro halone ⟨label, hne, ⟨d', hd', hdeclared, hfails⟩, _⟩
    cases hd.symm.trans hd'
    obtain ⟨p, hp, hlabel, hpass⟩ := halone.labelled label hne hdeclared
    exact hfails p hp hlabel hpass
  · intro hnone
    refine ⟨fun p hp hlabel => hchain.unlabelled p (hmem hd p hp) hlabel, ?_⟩
    rintro label hne ⟨p, hp, hlabel⟩
    -- the chain has a passing member with this label; unless the module has one, it stands elsewhere
    obtain ⟨q, hq, hqlabel, hqpass⟩ := hchain.labelled label hne ⟨p, hmem hd p hp, hlabel⟩
    obtain ⟨e, he, hqe⟩ := List.mem_flatMap.mp hq
    obtain ⟨j, hj⟩ := List.mem_iff_getElem?.mp he
    apply Classical.byContradiction
    intro hown
    have hji : j ≠ i := by
      rintro rfl
      cases hd.symm.trans hj
      exact hown ⟨q, hqe, hqlabel, hqpass⟩
    have hfails : ∀ p ∈ d.preconditions, p.label = some label → ¬ passes p :=
      fun p hp hlabel hpass => hown ⟨p, hp, hlabel, hpass⟩
    exact hnone ⟨label, hne, ⟨d, hd, ⟨p, hp, hlabel⟩, hfails⟩, j, e, hji, hj, q, hqe, hqlabel, hqpass⟩

/-- **What nesting keeps of the requirements of a module.** When the chain of modules around a command
is let through, the checks without a label of each of these modules pass, and the module on its own is
let through unless one of its labels is met on another module of the chain only. -/
theorem checkTier_alone_iff {table : ConverterTable} {around : List (ModuleDecl σ)}
    {command : Command σ} (h : Assembled table around command) (context : Context) (services : σ)
    (hchain : (checkTier command.modulePreconditions command.toCommandSpec context services).value =
      .ok ())
    {i : Nat} {d : ModuleDecl σ} (hd : around[i]? = some d) :
    (∀ p ∈ d.preconditions, p.label = none ∨ p.label = some "" →
      p.Passes command.toCommandSpec context services) ∧
    ((checkTier d.preconditions command.toCommandSpec context services).value = .ok () ↔
      ¬ ∃ label, MetElsewhere around i
        (Precondition.Passes command.toCommandSpec context services) label) := by
  rw [h.modulePreconditions_eq, checkTier_ok_iff] at hchain
  rw [checkTier_ok_iff, tierPasses_alone_iff hchain hd]
  refine ⟨fun p hp hlabel => hchain.unlabelled p ?_ hlabel, Iff.rfl⟩
  exact List.mem_flatMap.mpr ⟨d, List.mem_of_getElem? hd, hp⟩

/-- The second user passes the chain by the label of the inner module. On its own the inner module lets
this user pass too; the outer one does not, and its label is met elsewhere only. -/
theorem checkTier_alone_purge :
    Assembled .standard [Sample.moderation, Sample.cleanup] Sample.purge ∧
    (checkTier Sample.purge.modulePreconditions Sample.purge.toCommandSpec
      (Sample.press 2 (some ⟨9⟩)) ()).value = .ok () ∧
    (∃ label, MetElsewhere [Sample.moderation, Sample.cleanup] 0
      (Precondition.Passes Sample.purge.toCommandSpec (Sample.press 2 (some ⟨9⟩)) ()) label) ∧
    ¬ ∃ label, MetElsewhere [Sample.moderation, Sample.cleanup] 1
      (Precondition.Passes Sample.purge.toCommandSpec (Sample.press 2 (some ⟨9⟩)) ()) label := by
  have houter := checkTier_alone_iff Sample.assembled_purge (Sample.press 2 (some ⟨9⟩)) () rfl
    (i := 0) rfl
  have hinner := checkTier_alone_iff Sample.assembled_purge (Sample.press 2 (some ⟨9⟩)) () rfl
    (i := 1) rfl
  refine ⟨Sample.assembled_purge, rfl, ?_, hinner.2.mp rfl⟩
  -- the outer check fails on its own, so something else must have met it
  apply Classical.byContradiction
  intro hnone
  cases houter.2.mpr hnone

/-- **Nesting can weaken a requirement.** It is not so that every module around a command lets through
what their chain lets through. -/
theorem nesting_can_weaken :
    ¬ ∀ (table : ConverterTable) (around : List (ModuleDecl Unit)) (command : Command Unit)
        (context : Context), Assembled table around command →
      (checkTier command.modulePreconditions command.toCommandSpec context ()).value = .ok () →
      ∀ d ∈ around, (checkTier d.preconditions command.toCommandSpec context ()).value = .ok () := by
  intro h
  have houter := h .standard [Sample.moderation, Sample.cleanup] Sample.purge
    (Sample.press 2 (some ⟨9⟩)) Sample.assembled_purge rfl Sample.moderation List.mem_cons_self
  cases houter

end ChatDispatch
