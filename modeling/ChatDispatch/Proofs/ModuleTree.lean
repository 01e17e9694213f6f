import ChatDispatch.Proofs.Assembly
import Mathlib.Data.List.Flatten

/-!
# Trees of modules

Where a module stands in its tree, and what tells it apart.

* **`Module.forall_of_submodules`** — induction on a tree, from the modules directly below one to this one.
* **`Module.mem_forest_iff`** — a module of a forest is a root or stands directly below another one.
* **`Module.Built`** — the module was made of a declaration, and so were all modules below it.
* **`Module.Built.parent_eq`**, **`Module.Built.moduleId_eq`** — submodules and commands name the module
  that they belong to.
* **`numbers_of_buildModule`** — modules are numbered depth first, without gaps.
-/

namespace ChatDispatch

variable {σ : Type} {table : ConverterTable}

namespace Module

/-! ## Places in a forest

A forest lists its trees depth first, each module before those below it. -/

/-- The modules of two lists of trees stand one after the other. -/
theorem forest_append (ms others : List (Module σ)) :
    forest (ms ++ others) = forest ms ++ forest others := by
  simp only [forest_eq_flatMap, List.flatMap_append]

theorem forest_singleton (m : Module σ) : forest [m] = m.descendants := by
  rw [forest_eq_flatMap, List.flatMap_singleton]

theorem descendants_eq (m : Module σ) : m.descendants = m :: forest m.submodules := by
  cases m
  rw [descendants.eq_def]

theorem mem_descendants_self (m : Module σ) : m ∈ m.descendants := mem_descendants_iff.mpr (.inl rfl)

theorem mem_descendants_of_mem_submodules {m s root : Module σ} (hs : s ∈ root.submodules)
    (hm : m ∈ s.descendants) : m ∈ root.descendants := mem_descendants_iff.mpr (.inr ⟨s, hs, hm⟩)

/-- The roots stand in the forest in their order. -/
theorem sublist_forest (ms : List (Module σ)) : ms.Sublist (forest ms) := by
  induction ms with
  | nil => exact List.nil_sublist _
  | cons m ms ih =>
    rw [forest_eq_flatMap, List.flatMap_cons, ← forest_eq_flatMap, descendants_eq, List.cons_append]
    exact (ih.trans (List.sublist_append_right _ _)).cons_cons m

theorem mem_forest_of_mem {m : Module σ} {ms : List (Module σ)} (h : m ∈ ms) : m ∈ forest ms :=
  (sublist_forest ms).subset h

/-- Induction on a tree of modules, from the modules directly below one to this one. -/
theorem forall_of_submodules {P : Module σ → Prop} (h : ∀ m, (∀ s ∈ m.submodules, P s) → P m) (m : Module σ) :
    P m :=
  h m fun s _ => forall_of_submodules h s
termination_by sizeOf m
decreasing_by
  have hlt : sizeOf s < sizeOf m.submodules := List.sizeOf_lt_of_mem ‹_›
  cases m
  simp only [Module.mk.sizeOf_spec] at hlt ⊢
  omega

/-- A module of a tree is its root or stands directly below another module of the tree. -/
theorem mem_descendants_iff_parent {m root : Module σ} :
    m ∈ root.descendants ↔ m = root ∨ ∃ p ∈ root.descendants, m ∈ p.submodules := by
  induction root using forall_of_submodules with
  | h root ih =>
    rw [mem_descendants_iff]
    refine or_congr_right ⟨?_, ?_⟩
    · rintro ⟨s, hs, hms⟩
      -- the root of a tree below stands directly below this root
      rcases (ih s hs).mp hms with rfl | ⟨p, hp, hmp⟩
      · exact ⟨root, mem_descendants_self root, hs⟩
      · exact ⟨p, mem_descendants_of_mem_submodules hs hp, hmp⟩
    · rintro ⟨p, hp, hmp⟩
      rcases mem_descendants_iff.mp hp with rfl | ⟨s, hs, hps⟩
      · exact ⟨m, hmp, mem_descendants_self m⟩
      · exact ⟨s, hs, (ih s hs).mpr (.inr ⟨p, hps, hmp⟩)⟩

/-- **A module of a forest** is one of its roots or stands directly below another module of it. -/
theorem mem_forest_iff {m : Module σ} {roots : List (Module σ)} :
    m ∈ forest roots ↔ m ∈ roots ∨ ∃ p ∈ forest roots, m ∈ p.submodules := by
  simp only [forest_eq_flatMap, List.mem_flatMap]
  constructor
  · rintro ⟨root, hroot, hm⟩
    rcases mem_descendants_iff_parent.mp hm with rfl | ⟨p, hp, hmp⟩
    · exact .inl hroot
    · exact .inr ⟨p, ⟨root, hroot, hp⟩, hmp⟩
  · rintro (hm | ⟨p, ⟨root, hroot, hp⟩, hmp⟩)
    · exact ⟨m, hm, mem_descendants_self m⟩
    · exact ⟨root, hroot, mem_descendants_iff_parent.mpr (.inr ⟨p, hp, hmp⟩)⟩

theorem forest_sublist {roots others : List (Module σ)} (h : roots.Sublist others) :
    (forest roots).Sublist (forest others) := by
  rw [forest_eq_flatMap, forest_eq_flatMap]
  exact h.flatMap _

theorem forest_perm {roots others : List (Module σ)} (h : roots.Perm others) :
    (forest roots).Perm (forest others) := by
  rw [forest_eq_flatMap, forest_eq_flatMap]
  exact h.flatMap_right _

/-! ## Modules and what belongs to them

Every module of a tree was made by one step of assembly, which gives it and its commands their identities. -/

/-- The module is what some declaration turned into. -/
def Built (m : Module σ) : Prop :=
  ∃ table number around decl, buildModule table number around decl = .ok m

/-- All modules of a tree that was built were built. -/
theorem Built.of_mem_descendants {m root : Module σ} (h : root.Built) (hm : m ∈ root.descendants) :
    m.Built := by
  obtain ⟨table, number, around, decl, hbuild⟩ := h
  obtain ⟨chain, howned⟩ := exists_ownership hbuild hm
  obtain ⟨k, surroundings, d, hbuilt, -⟩ := howned.exists_buildModule hbuild
  exact ⟨table, k, surroundings, d, hbuilt⟩

/-- A submodule names the module around it. -/
theorem Built.parent_eq {m s : Module σ} (h : m.Built) (hs : s ∈ m.submodules) :
    s.parent = some m.id := by
  obtain ⟨table, number, around, decl, hbuild⟩ := h
  obtain ⟨groupPath, declared, submodules, _, _, hsubmodules, rfl⟩ := buildModule_eq_ok_iff.mp hbuild
  obtain ⟨d, _, k, hk⟩ := forall₂_mem_right (forall₂_of_buildModules hsubmodules) hs
  obtain ⟨_, _, _, _, _, _, rfl⟩ := buildModule_eq_ok_iff.mp hk
  rfl

/-- A command names the module that declares it. -/
theorem Built.moduleId_eq {m : Module σ} {c : Command σ} (h : m.Built) (hc : c ∈ m.declared) :
    c.moduleId = m.id := by
  obtain ⟨table, number, around, decl, hbuild⟩ := h
  obtain ⟨groupPath, declared, submodules, _, hdeclared, _, rfl⟩ := buildModule_eq_ok_iff.mp hbuild
  obtain ⟨d, _, hd⟩ := forall₂_mem_right (forall₂_of_buildCommands hdeclared) hc
  obtain ⟨_, _, handler, parameters, _, _, rfl⟩ := buildCommand_eq_ok_iff.mp hd
  rfl

/-- Every command of a module is of one of the kinds under which it lists them. -/
theorem mem_commands_iff {m : Module σ} {c : Command σ} : c ∈ m.commands ↔ c ∈ m.declared := by
  simp only [commands, slashCommands, contextCommands, componentCommands, modalCommands,
    autocompleteCommands, List.mem_append, List.mem_filter, decide_eq_true_eq]
  rcases hkind : c.kind with _ | (_ | _) | _ | _ | _ <;> simp

end Module

/-! ## Numbers

Numbers are given out depth first, by two functions that call each other along the tree. -/

theorem ModuleDecl.size_eq (decl : ModuleDecl σ) : decl.size = sizeOfDecls decl.submodules + 1 := by
  cases decl
  rw [ModuleDecl.size.eq_def, Nat.add_comm]

mutual

/-- **The numbers of a tree** follow each other, depth first, from that of its root on. -/
theorem numbers_of_buildModule {number : Nat} {around : Surroundings σ} {decl : ModuleDecl σ}
    {m : Module σ} (h : buildModule table number around decl = .ok m) :
    m.descendants.map (·.id.number) = List.range' number decl.size := by
  obtain ⟨groupPath, declared, submodules, _, _, hsubmodules, rfl⟩ := buildModule_eq_ok_iff.mp h
  have hbelow := numbers_of_buildModules hsubmodules
  rw [Module.descendants.eq_def, List.map_cons, hbelow, decl.size_eq, List.range'_succ]
termination_by sizeOf decl
decreasing_by
  cases decl
  simp only [ModuleDecl.mk.sizeOf_spec]
  omega

/-- The numbers of trees side by side follow each other. -/
theorem numbers_of_buildModules {number : Nat} {around : Surroundings σ} {decls : List (ModuleDecl σ)}
    {ms : List (Module σ)} (h : buildModules table number around decls = .ok ms) :
    (Module.forest ms).map (·.id.number) = List.range' number (sizeOfDecls decls) := by
  cases decls with
  | nil =>
    rw [buildModules.eq_def] at h
    cases h
    rw [Module.forest.eq_def, sizeOfDecls.eq_def]
    rfl
  | cons decl decls =>
    rw [buildModules.eq_def] at h
    simp only [bind_eq_ok_iff] at h
    obtain ⟨m, hm, ms', hms', heq⟩ := h
    cases heq
    rw [Module.forest.eq_def, sizeOfDecls.eq_def, List.map_append, numbers_of_buildModule hm,
      numbers_of_buildModules hms', List.range'_append_1]
termination_by sizeOf decls

end

end ChatDispatch
