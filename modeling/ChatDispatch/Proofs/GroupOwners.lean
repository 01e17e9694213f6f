import ChatDispatch.Proofs.Validity

/-!
# The owners of groups

Many modules can stand below the same groups: those that declare the innermost of them, and modules below these
that have no group of their own. A search that takes the first module with the groups never ends at one of the
latter.

* **`Module.Built.groupPath_of_mem_submodules`** — one level of the tree: the groups around a module and its own.
* **`Module.Built.group_of_find?`** — in a tree, the first module with some groups has one of its own, or is the root.
* **`Module.Built.exists_groupPath`** — all groups around a module are those of modules in its tree.
* **`Reachable.exists_groupOwner`** — every beginning of the groups of a loaded module has an owner.
-/

namespace ChatDispatch

variable {σ : Type} {table : ConverterTable}

namespace Module

/-! ## One level of the tree

What one step of assembly does to the groups: it adds the group that the module declares, if it declares one. -/

theorem groupPath_of_buildModule {number : Nat} {around : Surroundings σ} {decl : ModuleDecl σ} {m : Module σ}
    (h : buildModule table number around decl = .ok m) :
    m.groupPath = around.groupPath ++ (m.group.map (·.name)).toList := by
  obtain ⟨_, _, _, hgroup, _, _, rfl⟩ := buildModule_eq_ok_iff.mp h
  exact path_of_checkGroup hgroup

/-- Below a module stand modules with its groups, or with its groups and one of their own. -/
theorem Built.groupPath_of_mem_submodules {m s : Module σ} (h : m.Built) (hs : s ∈ m.submodules) :
    s.groupPath = m.groupPath ++ (s.group.map (·.name)).toList := by
  obtain ⟨table, number, around, decl, hbuild⟩ := h
  obtain ⟨_, _, _, _, _, hsubmodules, rfl⟩ := buildModule_eq_ok_iff.mp hbuild
  obtain ⟨_, _, k, hk⟩ := forall₂_mem_right (forall₂_of_buildModules hsubmodules) hs
  exact groupPath_of_buildModule hk

/-- A command stands under the groups of its module, or under none. -/
theorem Built.prefix_groupPath {m : Module σ} {c : Command σ} (h : m.Built) (hc : c ∈ m.declared) :
    c.groupPath <+: m.groupPath := by
  obtain ⟨table, number, around, decl, hbuild⟩ := h
  obtain ⟨groupPath, _, _, _, hdeclared, _, rfl⟩ := buildModule_eq_ok_iff.mp hbuild
  obtain ⟨own, _, hown⟩ := forall₂_mem_right (forall₂_of_buildCommands hdeclared) hc
  obtain ⟨_, _, handler, parameters, _, _, rfl⟩ := buildCommand_eq_ok_iff.mp hown
  show (if own.ignoresGroups then [] else groupPath) <+: groupPath
  split
  · exact List.nil_prefix
  · exact List.prefix_rfl

theorem Built.of_mem_submodules {m s : Module σ} (h : m.Built) (hs : s ∈ m.submodules) : s.Built :=
  h.of_mem_descendants (mem_descendants_of_mem_submodules hs (mem_descendants_self s))

/-- The description of a group is checked where the group is declared. -/
theorem Built.length_description {m : Module σ} (h : m.Built) {g : Group} (hg : m.group = some g) :
    g.description.length ∈ Set.Icc 1 100 := by
  obtain ⟨table, number, around, decl, hbuild⟩ := h
  obtain ⟨_, _, _, hgroup, _, _, rfl⟩ := buildModule_eq_ok_iff.mp hbuild
  have hdeclared : decl.group = some g := hg
  rw [hdeclared] at hgroup
  simp only [checkGroup, bind_eq_ok_iff, checkDescription_eq_ok_iff] at hgroup
  obtain ⟨_, _, _, hdescription, _⟩ := hgroup
  exact hdescription

/-! ## Trees

Down a tree groups are only added, one at a time. So a module with some groups stands below one that declares the
last of them. -/

theorem groupPath_of_find? {ms : List (Module σ)} {m : Module σ} {path : List String}
    (h : ms.find? (·.groupPath = path) = some m) : m.groupPath = path := by
  simpa using List.find?_some h

/-- **The first module with some groups** declares the innermost one itself, or is the root of the tree. Before any
module without a group of its own stands the one around it, which has the same groups. -/
theorem Built.group_of_find? {root m : Module σ} {path : List String} (h : root.Built)
    (hfind : root.descendants.find? (·.groupPath = path) = some m) : m = root ∨ ∃ g, m.group = some g := by
  -- on the tree: the module is the root or the first one in a tree below
  induction root using forall_of_submodules generalizing m with
  | h root ih =>
    rw [descendants_eq, List.find?_cons] at hfind
    split at hfind
    · exact .inl (Option.some.inj hfind).symm
    · rename_i hroot
      rw [forest_eq_flatMap, List.find?_flatMap] at hfind
      obtain ⟨s, hs, hfind⟩ := List.exists_of_findSome?_eq_some hfind
      rcases ih s hs (h.of_mem_submodules hs) hfind with rfl | hgroup
      · cases hgroup : m.group with
        | some g => exact .inr ⟨g, rfl⟩
        | none =>
          -- it has the groups of the root, which stands before it and was passed over
          have hsame : m.groupPath = root.groupPath := by
            rw [h.groupPath_of_mem_submodules hs, hgroup]
            exact List.append_nil _
          exact absurd (hsame.symm.trans (groupPath_of_find? hfind)) (of_decide_eq_false hroot)
      · exact .inr hgroup

/-- **The groups around a module** up to any one of them are those of a module in its tree, but for the groups of
the root. -/
theorem Built.exists_groupPath {root m : Module σ} {path : List String} (h : root.Built)
    (hm : m ∈ root.descendants) (hpath : path <+: m.groupPath) :
    path <+: root.groupPath ∨ ∃ owner ∈ root.descendants, owner.groupPath = path := by
  induction root using forall_of_submodules with
  | h root ih =>
    rcases mem_descendants_iff.mp hm with rfl | ⟨s, hs, hms⟩
    · exact .inl hpath
    rcases ih s hs (h.of_mem_submodules hs) hms with hbegins | ⟨owner, howner, heq⟩
    · rw [h.groupPath_of_mem_submodules hs] at hbegins
      cases hgroup : s.group with
      | none =>
        rw [hgroup] at hbegins
        exact .inl (by simpa using hbegins)
      | some g =>
        rw [hgroup] at hbegins
        -- they end with the group of `s`, or are all around it
        rcases List.prefix_concat_iff.mp hbegins with heq | hbegins
        · refine .inr ⟨s, mem_descendants_of_mem_submodules hs (mem_descendants_self s), ?_⟩
          rw [h.groupPath_of_mem_submodules hs, hgroup, heq]
          rfl
        · exact .inl hbegins
    · exact .inr ⟨owner, mem_descendants_of_mem_submodules hs howner, heq⟩

end Module

/-! ## Loaded modules

Above a root there are no groups, so that every group around a loaded module is declared by a loaded module. -/

/-- `GroupOwner modules path m g`: the first of the modules with the groups `path` is `m`, and `g` is its own group. -/
structure GroupOwner (modules : List (Module σ)) (path : List String) (m : Module σ) (g : Group) : Prop where
  first : modules.find? (·.groupPath = path) = some m
  own : m.group = some g

section Reachable

variable {d : Dispatcher σ}

theorem Reachable.groupPath_of_mem_roots (h : Reachable d) {root : Module σ} (hroot : root ∈ d.catalog.roots) :
    root.groupPath = (root.group.map (·.name)).toList := by
  obtain ⟨table, number, decl, hassemble⟩ := h.exists_assemble hroot
  exact Module.groupPath_of_buildModule (assemble_eq_ok_iff.mp hassemble).1

/-- Around a root there is nothing, so that its groups are its own one. -/
theorem Reachable.group_of_mem_roots (h : Reachable d) {root : Module σ} (hroot : root ∈ d.catalog.roots)
    (hne : root.groupPath ≠ []) : ∃ g, root.group = some g ∧ root.groupPath = [g.name] := by
  have hpath := h.groupPath_of_mem_roots hroot
  cases hgroup : root.group with
  | none =>
    rw [hgroup] at hpath
    exact absurd hpath hne
  | some g =>
    rw [hgroup] at hpath
    exact ⟨g, rfl, hpath⟩

/-- All groups around a loaded module up to any one of them are those of a loaded module. -/
theorem Reachable.exists_groupPath (h : Reachable d) {m : Module σ} (hm : m ∈ d.catalog.modules)
    {path : List String} (hne : path ≠ []) (hpath : path <+: m.groupPath) :
    ∃ owner ∈ d.catalog.modules, owner.groupPath = path := by
  rw [Catalog.modules, Module.forest_eq_flatMap, List.mem_flatMap] at hm
  obtain ⟨root, hroot, hm⟩ := hm
  have hbuilt : root.Built := h.intact.built (Module.mem_forest_of_mem hroot)
  rcases hbuilt.exists_groupPath hm hpath with hbegins | ⟨owner, howner, heq⟩
  · -- the groups begin at the root, which has one group of its own at most
    have hroots : root.groupPath ≠ [] := fun hnil => hne (List.prefix_nil.mp (hnil ▸ hbegins))
    obtain ⟨g, _, hg⟩ := h.group_of_mem_roots hroot hroots
    refine ⟨root, Module.mem_forest_of_mem hroot, (hbegins.eq_of_length_le ?_).symm⟩
    rw [hg]
    exact List.length_pos_of_ne_nil hne
  · refine ⟨owner, ?_, heq⟩
    rw [Catalog.modules, Module.forest_eq_flatMap]
    exact List.mem_flatMap.mpr ⟨root, hroot, howner⟩

/-- The first loaded module with some groups declares the innermost of them. -/
theorem Reachable.group_of_find? (h : Reachable d) {m : Module σ} {path : List String} (hne : path ≠ [])
    (hfind : d.catalog.modules.find? (·.groupPath = path) = some m) : ∃ g, m.group = some g := by
  rw [Catalog.modules, Module.forest_eq_flatMap, List.find?_flatMap] at hfind
  obtain ⟨root, hroot, hfind⟩ := List.exists_of_findSome?_eq_some hfind
  have hbuilt : root.Built := h.intact.built (Module.mem_forest_of_mem hroot)
  rcases hbuilt.group_of_find? hfind with rfl | hgroup
  · have hpath : m.groupPath ≠ [] := (Module.groupPath_of_find? hfind).symm ▸ hne
    obtain ⟨g, hg, _⟩ := h.group_of_mem_roots hroot hpath
    exact ⟨g, hg⟩
  · exact hgroup

/-- **The owner of groups.** Every beginning of the groups of a loaded module is declared by a module, and the first
module with it is such a one. -/
theorem Reachable.exists_groupOwner (h : Reachable d) {m : Module σ} (hm : m ∈ d.catalog.modules)
    {path : List String} (hne : path ≠ []) (hpath : path <+: m.groupPath) :
    ∃ owner g, GroupOwner d.catalog.modules path owner g := by
  obtain ⟨other, hother, heq⟩ := h.exists_groupPath hm hne hpath
  -- some module has the groups, so there is a first one
  have hsome : (d.catalog.modules.find? (·.groupPath = path)).isSome := by
    rw [List.find?_isSome]
    exact ⟨other, hother, decide_eq_true heq⟩
  obtain ⟨owner, hfind⟩ := Option.isSome_iff_exists.mp hsome
  obtain ⟨g, hg⟩ := h.group_of_find? hne hfind
  exact ⟨owner, g, hfind, hg⟩

end Reachable

end ChatDispatch
