import ChatDispatch.Argument.Family

/-!
# The order of families

A family lies under its parent, under the parent of that one, and so on. The converters of families compare
them by their names, so this order can be read off names only where no two families share one.

* **`Family.DerivesFrom`** — one family lies somewhere under another one.
* **`Family.depth_lt_of_derivesFrom`** — and then it lies deeper.
* **`Family.DerivesFrom.comparable`** — of two families above the same one, one is above the other.
* **`Family.Hierarchy`** — families with all that lie above them, known by their names.
* **`Family.Hierarchy.covers_iff`** — in a hierarchy a family covers itself and those that derive from it.
* **`Family.hierarchy_standard`** — the families that the library brings along are one.
-/

namespace ChatDispatch.Family

/-- The first family lies under the second one, directly or under one that does. -/
inductive DerivesFrom : Family → Family → Prop where
  | direct (name : String) (f : Family) : DerivesFrom (under name f) f
  | further {g f : Family} (name : String) (h : DerivesFrom g f) : DerivesFrom (under name g) f

/-- In the chain of a family are the family and what it derives from. -/
theorem mem_chain_iff {f g : Family} : f ∈ g.chain ↔ f = g ∨ g.DerivesFrom f := by
  induction g with
  | root name =>
    rw [chain, List.mem_singleton]
    refine ⟨.inl, fun h => h.resolve_right ?_⟩
    nofun
  | under name parent ih =>
    rw [chain, List.mem_cons, ih]
    refine or_congr_right ⟨?_, ?_⟩
    · rintro (rfl | h)
      · exact .direct name _
      · exact .further name h
    · intro h
      cases h with
      | direct => exact .inl rfl
      | further _ h => exact .inr h

theorem depth_lt_of_derivesFrom {f g : Family} (h : g.DerivesFrom f) : f.depth < g.depth := by
  induction h with
  | direct name f => exact Nat.lt_succ_self f.depth
  | further name _ ih => exact Nat.lt_succ_of_lt ih

theorem DerivesFrom.ne {f g : Family} (h : g.DerivesFrom f) : g ≠ f := by
  rintro rfl
  exact Nat.lt_irrefl _ (depth_lt_of_derivesFrom h)

/-- What derives from a derived family derives from the first. -/
theorem DerivesFrom.trans {f g k : Family} (h : k.DerivesFrom g) (h' : g.DerivesFrom f) : k.DerivesFrom f := by
  induction h with
  | direct name _ => exact .further name h'
  | further name _ ih => exact .further name (ih h')

/-- What a family derives from stands in one line, as every family has one parent at most. -/
theorem DerivesFrom.comparable {f g k : Family} (hf : k.DerivesFrom f) (hg : k.DerivesFrom g) :
    f = g ∨ g.DerivesFrom f ∨ f.DerivesFrom g := by
  induction hf with
  | direct name f =>
    cases hg with
    | direct => exact .inl rfl
    | further _ hg => exact .inr (.inr hg)
  | further name hf ih =>
    cases hg with
    | direct => exact .inr (.inl hf)
    | further _ hg => exact ih hg

/-- The families have their parents among them, and no two have the same name. -/
structure Hierarchy (members : Family → Prop) : Prop where
  parent : ∀ {f p : Family}, members f → f.parent? = some p → members p
  eq_of_name_eq : ∀ {f g : Family}, members f → members g → f.name = g.name → f = g

namespace Hierarchy

variable {members : Family → Prop} {f g : Family}

/-- What a member derives from is a member. -/
theorem of_derivesFrom (h : Hierarchy members) (hg : members g) (hderives : g.DerivesFrom f) :
    members f := by
  -- on the derivation: parents are members
  induction hderives with
  | direct name f => exact h.parent hg rfl
  | further name _ ih => exact ih (h.parent hg rfl)

theorem same_iff (h : Hierarchy members) (hf : members f) (hg : members g) :
    f.same g = true ↔ f = g := by
  rw [same, beq_iff_eq]
  exact ⟨h.eq_of_name_eq hf hg, congrArg name⟩

/-- **What a family covers** is itself and all that derives from it. -/
theorem covers_iff (h : Hierarchy members) (hf : members f) (hg : members g) :
    f.covers g = true ↔ f = g ∨ g.DerivesFrom f := by
  rw [← mem_chain_iff, covers, List.any_eq_true]
  constructor
  · rintro ⟨e, he, hsame⟩
    -- all that lies above a member is a member, and known by its name
    have hmember : members e := by
      rcases mem_chain_iff.mp he with rfl | hderives
      · exact hg
      · exact h.of_derivesFrom hg hderives
    rwa [(h.same_iff hmember hf).mp hsame] at he
  · intro hmem
    exact ⟨f, hmem, beq_self_eq_true f.name⟩

end Hierarchy

/-- **The families that the library brings along** are a hierarchy. -/
theorem hierarchy_standard : Hierarchy (· ∈ standard) where
  parent := by
    intro f p hf hp
    simp only [standard, List.mem_cons, List.not_mem_nil, or_false] at hf ⊢
    rcases hf with rfl | rfl | rfl | rfl | rfl | rfl | rfl | rfl | rfl | rfl | rfl | rfl <;> cases hp <;> simp
  eq_of_name_eq := by
    have hfind : ∀ f ∈ standard, standard.find? (·.name == f.name) = some f := by
      intro f hf
      simp only [standard, List.mem_cons, List.not_mem_nil, or_false] at hf
      rcases hf with rfl | rfl | rfl | rfl | rfl | rfl | rfl | rfl | rfl | rfl | rfl | rfl <;> rfl
    intro f g hf hg hname
    exact Option.some.inj ((hfind f hf).symm.trans (hname ▸ hfind g hg))

end ChatDispatch.Family
