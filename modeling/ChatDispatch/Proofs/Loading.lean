import ChatDispatch.Dispatcher.Basic
import ChatDispatch.Proofs.ModuleTree
import Mathlib.Data.List.Nodup

/-!
# What is loaded

Modules are loaded in batches and unloaded root by root. Every change builds the catalog anew, so all of
it follows from the roots; this module says what it is, for every dispatcher that changes lead to.

* **`Change`**, **`Dispatcher.change`** — a change with its answer and the dispatcher after it.
* **`Reachable`** — what changes lead to from a new dispatcher, whatever is dispatched in between.
* **`Catalog.build_eq_ok_iff`** — the catalog of some roots.
* **`Dispatcher.Intact`** — the invariant: the catalog is that of its roots, these are assembled, and
  modules are numbered apart from each other and from those still to come.
* **`Dispatcher.Intact.change`**, **`Reachable.intact`** — one change keeps it, and so does any run of them.
* **`Reachable.exists_assemble`** — the roots come out of assembly, whatever has been unloaded since.
* **`Reachable.consistent`** — the headline: roots, indexes, parents and listings agree after every change,
  and a change that is refused leaves everything as it is.
-/

namespace ChatDispatch

variable {σ : Type}

/-! ## Changes

All that changes what is loaded goes through one function, with the dispatcher as it was when the change is
refused. -/

/-- What a host asks for to change what is loaded. -/
inductive Change (σ : Type) where
  | load (decls : List (ModuleDecl σ))
  | unload (id : ModuleId)
  | unloadType (typeName : String)

namespace Dispatcher

/-- The modules that a change loads or unloads, and the dispatcher when it has done so. -/
def attempt (d : Dispatcher σ) : Change σ → Except LoadError (List (Module σ) × Dispatcher σ)
  | .load decls => d.load decls
  | .unload id => (d.unload id).map fun (m, d') => ([m], d')
  | .unloadType typeName => (d.unloadType typeName).map fun (m, d') => ([m], d')

/-- The answer to a change and the dispatcher that takes the next one. -/
def change (d : Dispatcher σ) (c : Change σ) : Except LoadError (List (Module σ)) × Dispatcher σ :=
  match d.attempt c with
  | .ok (modules, d') => (.ok modules, d')
  | .error e => (.error e, d)

end Dispatcher

/-- The dispatchers that changes lead to from a new one. In between, anything may happen that leaves the
settings, what is loaded and the numbering alone: dispatches, subscriptions, new converters. -/
inductive Reachable : Dispatcher σ → Prop where
  | new (settings : Settings) (clock : Nat → Nat) : Reachable (.new settings clock)
  | change {d : Dispatcher σ} (h : Reachable d) (c : Change σ) : Reachable (d.change c).2
  | between {d d' : Dispatcher σ} (h : Reachable d) (hsettings : d'.settings = d.settings)
      (hcatalog : d'.catalog = d.catalog) (hnext : d'.nextModule = d.nextModule) : Reachable d'

/-! ## Catalogs

A catalog is a function of its roots and the settings, or it is refused. -/

namespace Catalog

/-- Modules can be indexed when their types differ from each other and from those in the index. -/
theorem indexTypes_eq_ok_iff {index result : List (String × Module σ)} {ms : List (Module σ)} :
    indexTypes index ms = .ok result ↔
      (ms.map (·.typeName)).Nodup ∧ (∀ m ∈ ms, m.typeName ∉ index.map (·.1)) ∧
        result = index ++ ms.map fun m => (m.typeName, m) := by
  induction ms generalizing index with
  | nil => simp [indexTypes, eq_comm]
  | cons m ms ih =>
    rw [indexTypes]
    have hany : index.any (·.1 == m.typeName) = true ↔ m.typeName ∈ index.map (·.1) := by
      simp [List.mem_map]
    split
    · rename_i hmem
      refine iff_of_false nofun ?_
      rintro ⟨_, hfresh, _⟩
      exact hfresh m List.mem_cons_self (hany.mp hmem)
    · rename_i hmem
      rw [hany] at hmem
      rw [ih]
      simp only [List.map_append, List.map_cons, List.map_nil, List.mem_append, List.mem_singleton,
        List.nodup_cons, List.mem_map, List.forall_mem_cons, List.append_assoc, List.singleton_append]
      grind

/-- **The catalog of some roots.** It holds every module once by its type and once by its identifier, in
depth-first order, and routes their commands in that order. -/
theorem build_eq_ok_iff {settings : Settings} {roots : List (Module σ)} {catalog : Catalog σ} :
    build settings roots = .ok catalog ↔
      ((Module.forest roots).map (·.typeName)).Nodup ∧
      ∃ routers, (Routers.empty settings).insertAll ((Module.forest roots).flatMap (·.commands)) =
          .ok routers ∧
        catalog = {
          roots := roots
          byType := (Module.forest roots).map fun m => (m.typeName, m)
          byId := (Module.forest roots).map fun m => (m.id, m)
          routers := routers } := by
  have hsteps : build settings roots = .ok catalog ↔
      ∃ byType, indexTypes [] (Module.forest roots) = .ok byType ∧
        ∃ routers, (Routers.empty settings).insertAll ((Module.forest roots).flatMap (·.commands)) =
          .ok routers ∧
        Except.ok ⟨roots, byType, (Module.forest roots).map fun m => (m.id, m), routers⟩ =
          (Except.ok catalog : Except LoadError (Catalog σ)) := by
    rw [build, bind_eq_ok_iff]
    refine exists_congr fun byType => and_congr_right fun _ => ?_
    cases (Routers.empty settings).insertAll ((Module.forest roots).flatMap (·.commands)) with
    | error e => exact iff_of_false nofun (by rintro ⟨_, h, _⟩; cases h)
    | ok routers => simp [pure, Except.pure, bind, Except.bind]
  simp only [hsteps, indexTypes_eq_ok_iff]
  constructor
  · rintro ⟨byType, ⟨htypes, _, rfl⟩, routers, hrouters, heq⟩
    cases heq
    exact ⟨htypes, routers, hrouters, rfl⟩
  · rintro ⟨htypes, routers, hrouters, rfl⟩
    exact ⟨_, ⟨htypes, by simp, rfl⟩, routers, hrouters, rfl⟩

/-- Why a set of roots is refused. -/
theorem build_eq_error {settings : Settings} {roots : List (Module σ)} {e : LoadError}
    (h : build settings roots = .error e) :
    (∃ typeName, e = .alreadyLoaded typeName) ∨ ∃ r, e = .route r := by
  have hindex : ∀ {index : List (String × Module σ)} {ms : List (Module σ)},
      indexTypes index ms = .error e → ∃ typeName, e = .alreadyLoaded typeName := by
    intro index ms herror
    induction ms generalizing index with
    | nil => cases herror
    | cons m ms ih =>
      rw [indexTypes] at herror
      split at herror
      · cases herror
        exact ⟨_, rfl⟩
      · exact ih herror
  rw [build] at h
  cases htypes : indexTypes [] (Module.forest roots) with
  | error e' =>
    rw [htypes] at h
    cases h
    exact .inl (hindex htypes)
  | ok byType =>
    rw [htypes] at h
    cases hrouters : (Routers.empty settings).insertAll
        ((Module.forest roots).flatMap (·.commands)) with
    | error r =>
      rw [hrouters] at h
      cases h
      exact .inr ⟨r, rfl⟩
    | ok routers =>
      rw [hrouters] at h
      cases h

end Catalog

/-! ## The invariant

Four facts are enough for every change to keep them and for all else to follow. -/

/-- The modules made of declarations are numbered without gaps, and none stands below another one. -/
theorem assembleAll_spec {table : ConverterTable} {number : Nat} {decls : List (ModuleDecl σ)}
    {ms : List (Module σ)} (h : Dispatcher.assembleAll table number decls = .ok ms) :
    (Module.forest ms).map (·.id.number) = List.range' number (sizeOfDecls decls) ∧
      ∀ m ∈ ms, m.Built ∧ m.parent = none := by
  induction decls generalizing number ms with
  | nil =>
    cases h
    rw [Module.forest.eq_def, sizeOfDecls.eq_def]
    exact ⟨rfl, nofun⟩
  | cons decl decls ih =>
    simp only [Dispatcher.assembleAll, bind_eq_ok_iff] at h
    obtain ⟨m, hm, ms', hms', heq⟩ := h
    cases heq
    obtain ⟨hnumbers, hbuilt⟩ := ih hms'
    obtain ⟨hm, -⟩ := assemble_eq_ok_iff.mp hm
    refine ⟨?_, ?_⟩
    · rw [Module.forest.eq_def, sizeOfDecls.eq_def, List.map_append, numbers_of_buildModule hm, hnumbers,
        List.range'_append_1]
    · intro other hother
      rcases List.mem_cons.mp hother with rfl | hother
      · refine ⟨⟨table, number, .none, decl, hm⟩, ?_⟩
        obtain ⟨_, _, _, _, _, _, rfl⟩ := buildModule_eq_ok_iff.mp hm
        rfl
      · exact hbuilt other hother

/-- Each declaration is assembled on its own, at a number that follows those before it. -/
theorem forall₂_of_assembleAll {table : ConverterTable} {number : Nat} {decls : List (ModuleDecl σ)}
    {ms : List (Module σ)} (h : Dispatcher.assembleAll table number decls = .ok ms) :
    List.Forall₂ (fun decl m => ∃ k, assemble table k decl = .ok m) decls ms := by
  induction decls generalizing number ms with
  | nil =>
    cases h
    exact .nil
  | cons decl decls ih =>
    simp only [Dispatcher.assembleAll, bind_eq_ok_iff] at h
    obtain ⟨m, hm, ms', hms', heq⟩ := h
    cases heq
    exact .cons ⟨number, hm⟩ (ih hms')

namespace Dispatcher

/-- What changes rely on and keep: the catalog is that of its roots, these are assembled, and modules are
numbered apart from each other and from those still to come. -/
structure Intact (d : Dispatcher σ) : Prop where
  catalog_eq : Catalog.build d.settings d.catalog.roots = .ok d.catalog
  roots : ∀ root ∈ d.catalog.roots, root.Built ∧ root.parent = none
  numbers_nodup : (d.catalog.modules.map (·.id.number)).Nodup
  numbers_lt : ∀ m ∈ d.catalog.modules, m.id.number < d.nextModule

variable {d d' : Dispatcher σ}

/-- A new dispatcher is intact. -/
theorem intact_new (settings : Settings) (clock : Nat → Nat) :
    (new settings clock : Dispatcher σ).Intact where
  catalog_eq := by
    rw [Catalog.build_eq_ok_iff]
    simp [new, Catalog.empty, Module.forest.eq_def, Routers.insertAll]
  roots := nofun
  numbers_nodup := by simp [new, Catalog.empty, Catalog.modules, Module.forest.eq_def]
  numbers_lt := by simp [new, Catalog.empty, Catalog.modules, Module.forest.eq_def]

/-- A load puts the new modules behind the roots. -/
theorem load_eq_ok_iff {decls : List (ModuleDecl σ)} {ms : List (Module σ)} :
    d.load decls = .ok (ms, d') ↔
      assembleAll d.converters d.nextModule decls = .ok ms ∧
      ∃ catalog, Catalog.build d.settings (d.catalog.roots ++ ms) = .ok catalog ∧
        d' = { d with catalog := catalog, nextModule := d.nextModule + sizeOfDecls decls } := by
  rw [load]
  cases assembleAll d.converters d.nextModule decls with
  | error e => exact iff_of_false nofun (by rintro ⟨h, _⟩; cases h)
  | ok built =>
    show (Catalog.build d.settings (d.catalog.roots ++ built) >>= _) = _ ↔ _
    rw [bind_eq_ok_iff]
    constructor
    · rintro ⟨catalog, hcatalog, heq⟩
      cases heq
      exact ⟨rfl, catalog, hcatalog, rfl⟩
    · rintro ⟨heq, catalog, hcatalog, rfl⟩
      cases heq
      exact ⟨catalog, hcatalog, rfl⟩

/-- An unload takes a root away. -/
theorem unload_eq_ok_iff {id : ModuleId} {m : Module σ} :
    d.unload id = .ok (m, d') ↔
      d.catalog.roots.find? (·.id = id) = some m ∧
      ∃ catalog, Catalog.build d.settings (d.catalog.roots.filter (·.id ≠ id)) = .ok catalog ∧
        d' = { d with catalog := catalog } := by
  rw [unload]
  cases d.catalog.roots.find? (·.id = id) with
  | none => exact iff_of_false nofun (by rintro ⟨h, _⟩; cases h)
  | some removed =>
    rw [bind_eq_ok_iff]
    constructor
    · rintro ⟨catalog, hcatalog, heq⟩
      cases heq
      exact ⟨rfl, catalog, hcatalog, rfl⟩
    · rintro ⟨heq, catalog, hcatalog, rfl⟩
      cases heq
      exact ⟨catalog, hcatalog, rfl⟩

/-- Unloading by type is unloading by the identifier of a loaded module. -/
theorem unloadType_eq_ok {typeName : String} {m : Module σ}
    (h : d.unloadType typeName = .ok (m, d')) : ∃ id, d.unload id = .ok (m, d') := by
  rw [unloadType] at h
  split at h
  · cases h
  · exact ⟨_, h⟩

end Dispatcher

theorem Catalog.roots_of_build {settings : Settings} {roots : List (Module σ)} {catalog : Catalog σ}
    (h : Catalog.build settings roots = .ok catalog) : catalog.roots = roots := by
  obtain ⟨_, routers, _, rfl⟩ := Catalog.build_eq_ok_iff.mp h
  rfl

theorem Dispatcher.roots_of_load {d d' : Dispatcher σ} {decls : List (ModuleDecl σ)}
    {ms : List (Module σ)} (h : d.load decls = .ok (ms, d')) :
    d'.catalog.roots = d.catalog.roots ++ ms := by
  obtain ⟨_, catalog, hbuild, rfl⟩ := load_eq_ok_iff.mp h
  exact Catalog.roots_of_build hbuild

theorem Dispatcher.roots_of_unload {d d' : Dispatcher σ} {id : ModuleId} {m : Module σ}
    (h : d.unload id = .ok (m, d')) :
    d'.catalog.roots = d.catalog.roots.filter (·.id ≠ id) := by
  obtain ⟨_, catalog, hbuild, rfl⟩ := unload_eq_ok_iff.mp h
  exact Catalog.roots_of_build hbuild

namespace Dispatcher.Intact

variable {d d' : Dispatcher σ}

/-- Loaded modules are numbered from the next number on, so none of them has the number of another. -/
theorem load (h : d.Intact) {decls : List (ModuleDecl σ)} {ms : List (Module σ)}
    (hload : d.load decls = .ok (ms, d')) : d'.Intact := by
  obtain ⟨hassemble, catalog, hbuild, rfl⟩ := load_eq_ok_iff.mp hload
  obtain ⟨hnumbers, hnew⟩ := assembleAll_spec hassemble
  have hroots := Catalog.roots_of_build hbuild
  have hmodules : catalog.modules = d.catalog.modules ++ Module.forest ms := by
    rw [Catalog.modules, hroots, Module.forest_append, Catalog.modules]
  -- the new modules take the numbers from the next one on
  have hnumber : ∀ m ∈ Module.forest ms,
      d.nextModule ≤ m.id.number ∧ m.id.number < d.nextModule + sizeOfDecls decls := by
    intro m hm
    have hrange := List.mem_map_of_mem (f := (·.id.number)) hm
    rw [hnumbers, List.mem_range'_1] at hrange
    exact hrange
  refine ⟨?_, ?_, ?_, ?_⟩
  · show Catalog.build d.settings catalog.roots = _
    rw [hroots]
    exact hbuild
  · intro root hroot
    rw [show catalog.roots = _ from hroots] at hroot
    rcases List.mem_append.mp hroot with hroot | hroot
    · exact h.roots root hroot
    · exact hnew root hroot
  · show (catalog.modules.map _).Nodup
    rw [hmodules, List.map_append, List.nodup_append]
    refine ⟨h.numbers_nodup, ?_, ?_⟩
    · rw [hnumbers]
      exact List.nodup_range'
    · intro k hk l hl
      obtain ⟨m, hm, rfl⟩ := List.mem_map.mp hk
      obtain ⟨m', hm', rfl⟩ := List.mem_map.mp hl
      -- loaded before, and numbered below the next number
      have hlt := h.numbers_lt m hm
      have hle := (hnumber m' hm').1
      omega
  · intro m hm
    rw [show catalog.modules = _ from hmodules] at hm
    show m.id.number < d.nextModule + sizeOfDecls decls
    rcases List.mem_append.mp hm with hm | hm
    · have hlt := h.numbers_lt m hm
      omega
    · exact (hnumber m hm).2

/-- What stays after an unload was loaded before. -/
theorem unload (h : d.Intact) {id : ModuleId} {m : Module σ} (hunload : d.unload id = .ok (m, d')) :
    d'.Intact := by
  obtain ⟨_, catalog, hbuild, rfl⟩ := unload_eq_ok_iff.mp hunload
  have hroots := Catalog.roots_of_build hbuild
  -- the rest of the roots have part of the modules
  have hmodules : catalog.modules.Sublist d.catalog.modules := by
    rw [Catalog.modules, hroots]
    exact Module.forest_sublist List.filter_sublist
  refine ⟨?_, ?_, ?_, ?_⟩
  · show Catalog.build d.settings catalog.roots = _
    rw [hroots]
    exact hbuild
  · intro root hroot
    rw [show catalog.roots = _ from hroots] at hroot
    exact h.roots root (List.mem_filter.mp hroot).1
  · exact h.numbers_nodup.sublist (hmodules.map _)
  · intro other hother
    exact h.numbers_lt other (hmodules.subset hother)

/-- **One change** keeps the invariant. -/
theorem change (h : d.Intact) (c : Change σ) : (d.change c).2.Intact := by
  rw [Dispatcher.change]
  cases hattempt : d.attempt c with
  | error e => exact h
  | ok answer =>
    obtain ⟨ms, d'⟩ := answer
    show d'.Intact
    cases c with
    | load decls => exact h.load hattempt
    | unload id =>
      obtain ⟨⟨m, d''⟩, hunload, heq⟩ := map_eq_ok_iff.mp hattempt
      cases heq
      exact h.unload hunload
    | unloadType typeName =>
      obtain ⟨⟨m, d''⟩, hunload, heq⟩ := map_eq_ok_iff.mp hattempt
      cases heq
      obtain ⟨id, hid⟩ := unloadType_eq_ok hunload
      exact h.unload hid

end Dispatcher.Intact

/-- **Any run of changes** keeps the invariant. -/
theorem Reachable.intact {d : Dispatcher σ} (h : Reachable d) : d.Intact := by
  induction h with
  | new settings clock => exact Dispatcher.intact_new settings clock
  | change _ c ih => exact ih.change c
  | between _ hsettings hcatalog hnext ih =>
    refine ⟨?_, ?_, ?_, ?_⟩
    · rw [hsettings, hcatalog]
      exact ih.catalog_eq
    · rw [hcatalog]
      exact ih.roots
    · rw [hcatalog]
      exact ih.numbers_nodup
    · rw [hcatalog, hnext]
      exact ih.numbers_lt

/-- Dispatching changes nothing that is loaded. -/
theorem Reachable.dispatch {d : Dispatcher σ} (h : Reachable d) (context : Context) (services : σ) :
    Reachable (d.dispatch context services).2 := by
  -- a report is sent and the clock is read, at most
  have hrun : ∀ command inputs, Reachable (d.run command context inputs services).2 := by
    intro command inputs
    rw [Dispatcher.run]
    split
    · exact h
    · exact h.between rfl rfl rfl
  rw [Dispatcher.dispatch]
  split
  · exact hrun _ _
  · exact h
  · exact h

/-- A root was a root before a change, or the change has assembled it. -/
theorem Dispatcher.mem_roots_change {d : Dispatcher σ} {c : Change σ} {root : Module σ}
    (hroot : root ∈ (d.change c).2.catalog.roots) :
    root ∈ d.catalog.roots ∨ ∃ table number decl, assemble table number decl = .ok root := by
  rw [change] at hroot
  cases hattempt : d.attempt c with
  | error e =>
    rw [hattempt] at hroot
    exact .inl hroot
  | ok answer =>
    obtain ⟨ms, d'⟩ := answer
    rw [hattempt] at hroot
    have hroot : root ∈ d'.catalog.roots := hroot
    -- an unload adds no root
    have hunloaded : ∀ {id m}, d.unload id = .ok (m, d') → root ∈ d.catalog.roots := by
      intro id m hunload
      rw [roots_of_unload hunload] at hroot
      exact (List.mem_filter.mp hroot).1
    cases c with
    | load decls =>
      have hassemble := (load_eq_ok_iff.mp hattempt).1
      rw [roots_of_load hattempt] at hroot
      rcases List.mem_append.mp hroot with hbefore | hnew
      · exact .inl hbefore
      · obtain ⟨decl, _, k, hk⟩ := forall₂_mem_right (forall₂_of_assembleAll hassemble) hnew
        exact .inr ⟨_, k, decl, hk⟩
    | unload id =>
      obtain ⟨⟨m, _⟩, hunload, heq⟩ := map_eq_ok_iff.mp hattempt
      cases heq
      exact .inl (hunloaded hunload)
    | unloadType typeName =>
      obtain ⟨⟨m, _⟩, hunload, heq⟩ := map_eq_ok_iff.mp hattempt
      cases heq
      obtain ⟨id, hid⟩ := unloadType_eq_ok hunload
      exact .inl (hunloaded hid)

/-- Every root is assembled from a declaration. -/
theorem Reachable.exists_assemble {d : Dispatcher σ} (h : Reachable d) {root : Module σ}
    (hroot : root ∈ d.catalog.roots) : ∃ table number decl, assemble table number decl = .ok root := by
  induction h with
  | new settings clock => cases hroot
  | change _ c ih =>
    rcases Dispatcher.mem_roots_change hroot with hbefore | hassembled
    · exact ih hbefore
    · exact hassembled
  | between _ _ hcatalog _ ih =>
    rw [hcatalog] at hroot
    exact ih hroot

/-! ## What the invariant means for a host

Both indexes, the parents and the listings are read off the modules, which are numbered and typed differently. -/

/-- In an index with different keys, a key leads to the module that has it. -/
theorem find?_indexed {κ : Type} {key : Module σ → κ} {k : κ} {p : κ → Bool}
    (hp : ∀ x, p x = true ↔ x = k) {ms : List (Module σ)} (hkeys : (ms.map key).Nodup)
    {m : Module σ} :
    ((ms.map fun m => (key m, m)).find? (p ·.1)).map (·.2) = some m ↔ m ∈ ms ∧ key m = k := by
  induction ms with
  | nil => simp
  | cons other ms ih =>
    rw [List.map_cons, List.nodup_cons] at hkeys
    obtain ⟨hfresh, hkeys⟩ := hkeys
    rw [List.map_cons, List.find?_cons]
    cases hother : p (key other) with
    | true =>
      rw [hp] at hother
      constructor
      · rintro heq
        cases heq
        exact ⟨List.mem_cons_self, hother⟩
      · rintro ⟨hm, hkey⟩
        rcases List.mem_cons.mp hm with rfl | hm
        · rfl
        · -- a second module with the key
          rw [hother, ← hkey] at hfresh
          exact absurd (List.mem_map_of_mem hm) hfresh
    | false =>
      -- this one has another key, so the search goes on
      have hne : key other ≠ k := fun heq => by simp [(hp _).mpr heq] at hother
      show _ = some m ↔ _
      rw [ih hkeys, List.mem_cons]
      constructor
      · rintro ⟨hm, hkey⟩
        exact ⟨.inr hm, hkey⟩
      · rintro ⟨rfl | hm, hkey⟩
        · exact absurd hkey hne
        · exact ⟨hm, hkey⟩

namespace Dispatcher

/-- The roots, the indexes, the parents, the listings and the routers of a dispatcher agree. -/
structure Consistent (d : Dispatcher σ) : Prop where
  modules_eq : d.catalog.modules = d.catalog.roots.flatMap Module.descendants
  byType_eq : d.catalog.byType = d.catalog.modules.map fun m => (m.typeName, m)
  byId_eq : d.catalog.byId = d.catalog.modules.map fun m => (m.id, m)
  types_nodup : (d.catalog.modules.map (·.typeName)).Nodup
  ids_nodup : (d.catalog.modules.map (·.id)).Nodup
  module?_eq_some_iff : ∀ id m, d.catalog.module? id = some m ↔ m ∈ d.catalog.modules ∧ m.id = id
  ofType?_eq_some_iff : ∀ typeName m,
    d.catalog.ofType? typeName = some m ↔ m ∈ d.catalog.modules ∧ m.typeName = typeName
  parentOf?_eq_some_iff : ∀ m ∈ d.catalog.modules, ∀ p,
    d.catalog.parentOf? m = some p ↔ p ∈ d.catalog.modules ∧ m ∈ p.submodules
  parentOf?_eq_none_iff : ∀ m ∈ d.catalog.modules,
    d.catalog.parentOf? m = none ↔ m ∈ d.catalog.roots
  slashCommands_eq : d.slashCommands =
    d.catalog.roots.flatMap fun root => root.descendants.flatMap (·.slashCommands)
  contextCommands_eq : d.contextCommands =
    d.catalog.roots.flatMap fun root => root.descendants.flatMap (·.contextCommands)
  componentCommands_eq : d.componentCommands =
    d.catalog.roots.flatMap fun root => root.descendants.flatMap (·.componentCommands)
  modalCommands_eq : d.modalCommands =
    d.catalog.roots.flatMap fun root => root.descendants.flatMap (·.modalCommands)
  autocompleteCommands_eq : d.autocompleteCommands =
    d.catalog.roots.flatMap fun root => root.descendants.flatMap (·.autocompleteCommands)
  routers_eq : (Routers.empty d.settings).insertAll (d.catalog.modules.flatMap (·.commands)) =
    .ok d.catalog.routers

variable {d : Dispatcher σ}

/-- The routers are those of the commands of all modules. -/
theorem Intact.routers_eq (h : d.Intact) :
    (Routers.empty d.settings).insertAll (d.catalog.modules.flatMap (·.commands)) =
      .ok d.catalog.routers := by
  obtain ⟨_, routers, hrouters, heq⟩ := Catalog.build_eq_ok_iff.mp h.catalog_eq
  rw [heq]
  exact hrouters

theorem Intact.ids_nodup (h : d.Intact) : (d.catalog.modules.map (·.id)).Nodup := by
  have hnumbers := h.numbers_nodup
  rw [show (fun m : Module σ => m.id.number) = ModuleId.number ∘ (·.id) from rfl,
    ← List.map_map] at hnumbers
  exact List.Nodup.of_map _ hnumbers

/-- An identifier leads to the loaded module that has it. -/
theorem Intact.module?_eq_some_iff (h : d.Intact) (id : ModuleId) (m : Module σ) :
    d.catalog.module? id = some m ↔ m ∈ d.catalog.modules ∧ m.id = id := by
  obtain ⟨_, routers, _, heq⟩ := Catalog.build_eq_ok_iff.mp h.catalog_eq
  have hbyId : d.catalog.byId = d.catalog.modules.map fun m => (m.id, m) := by
    rw [heq]
    rfl
  rw [Catalog.module?, hbyId]
  exact find?_indexed (p := fun x => x = id) (fun x => decide_eq_true_iff) h.ids_nodup

theorem Intact.built (h : d.Intact) {m : Module σ} (hm : m ∈ d.catalog.modules) : m.Built := by
  rw [Catalog.modules, Module.forest_eq_flatMap, List.mem_flatMap] at hm
  obtain ⟨root, hroot, hm⟩ := hm
  exact (h.roots root hroot).1.of_mem_descendants hm

/-- A module that is no root stands below the loaded module that it names as its parent. -/
theorem Intact.parentOf?_of_mem_submodules (h : d.Intact) {m p : Module σ}
    (hp : p ∈ d.catalog.modules) (hm : m ∈ p.submodules) : d.catalog.parentOf? m = some p := by
  rw [Catalog.parentOf?, (h.built hp).parent_eq hm]
  exact (h.module?_eq_some_iff p.id p).mpr ⟨hp, rfl⟩

theorem Intact.parentOf?_of_mem_roots (h : d.Intact) {m : Module σ} (hm : m ∈ d.catalog.roots) :
    d.catalog.parentOf? m = none := by
  rw [Catalog.parentOf?, (h.roots m hm).2]
  rfl

/-- **The invariant in a host's terms.** -/
theorem Intact.toConsistent (h : d.Intact) : d.Consistent := by
  obtain ⟨htypes, routers, _, heq⟩ := Catalog.build_eq_ok_iff.mp h.catalog_eq
  have hbyType : d.catalog.byType = d.catalog.modules.map fun m => (m.typeName, m) := by
    rw [heq]
    rfl
  have hlisting : ∀ commands : Module σ → List (Command σ), d.catalog.modules.flatMap commands =
      d.catalog.roots.flatMap fun root => root.descendants.flatMap commands := by
    intro commands
    rw [Catalog.modules, Module.forest_eq_flatMap, List.flatMap_assoc]
  -- a loaded module is a root or stands below a loaded module, and the two have different parents
  have hplace := fun m (hm : m ∈ d.catalog.modules) => Module.mem_forest_iff.mp hm
  refine {
    modules_eq := Module.forest_eq_flatMap _
    byType_eq := hbyType
    byId_eq := by rw [heq]; rfl
    types_nodup := htypes
    ids_nodup := h.ids_nodup
    module?_eq_some_iff := h.module?_eq_some_iff
    ofType?_eq_some_iff := ?_
    parentOf?_eq_some_iff := ?_
    parentOf?_eq_none_iff := ?_
    slashCommands_eq := hlisting (·.slashCommands)
    contextCommands_eq := hlisting (·.contextCommands)
    componentCommands_eq := hlisting (·.componentCommands)
    modalCommands_eq := hlisting (·.modalCommands)
    autocompleteCommands_eq := hlisting (·.autocompleteCommands)
    routers_eq := h.routers_eq }
  · intro typeName m
    rw [Catalog.ofType?, hbyType]
    exact find?_indexed (p := (· == typeName)) (fun x => beq_iff_eq) htypes
  · intro m hm p
    constructor
    · intro hparent
      rcases hplace m hm with hroot | ⟨p', hp', hmp'⟩
      · rw [h.parentOf?_of_mem_roots hroot] at hparent
        cases hparent
      · rw [h.parentOf?_of_mem_submodules hp' hmp'] at hparent
        cases hparent
        exact ⟨hp', hmp'⟩
    · rintro ⟨hp, hmp⟩
      exact h.parentOf?_of_mem_submodules hp hmp
  · intro m hm
    constructor
    · intro hnone
      rcases hplace m hm with hroot | ⟨p', hp', hmp'⟩
      · exact hroot
      · rw [h.parentOf?_of_mem_submodules hp' hmp'] at hnone
        cases hnone
    · exact h.parentOf?_of_mem_roots

/-- Why an unload is refused: the module is below another one, or nothing has the identifier. -/
theorem unload_eq_error_iff {id : ModuleId} {e : LoadError}
    (hnotRoot : e = .notRoot id ∨ e = .notLoaded id) :
    d.unload id = .error e ↔
      (∀ root ∈ d.catalog.roots, root.id ≠ id) ∧
        e = if (d.catalog.module? id).isSome then .notRoot id else .notLoaded id := by
  rw [unload]
  cases hfind : d.catalog.roots.find? (·.id = id) with
  | none =>
    have hnone : ∀ root ∈ d.catalog.roots, root.id ≠ id := by simpa using hfind
    simp only [Except.error.injEq]
    rw [eq_comm]
    exact (and_iff_right hnone).symm
  | some removed =>
    have hremoved : removed.id = id := by simpa using List.find?_some hfind
    refine iff_of_false ?_ fun h => h.1 removed (List.mem_of_find?_eq_some hfind) hremoved
    intro herror
    show False
    cases hbuild : Catalog.build d.settings (d.catalog.roots.filter (·.id ≠ id)) with
    | ok catalog =>
      simp only [hbuild] at herror
      cases herror
    | error e' =>
      simp only [hbuild] at herror
      cases herror
      -- a set of roots is refused for other reasons
      rcases Catalog.build_eq_error hbuild with ⟨typeName, rfl⟩ | ⟨r, rfl⟩ <;>
        rcases hnotRoot with heq | heq <;> cases heq

/-- What a change does to the roots when it is not refused. -/
theorem roots_change (d : Dispatcher σ) :
    (∀ decls ms, (d.change (.load decls)).1 = .ok ms →
      (d.change (.load decls)).2.catalog.roots = d.catalog.roots ++ ms) ∧
    ∀ id ms, (d.change (.unload id)).1 = .ok ms →
      (d.change (.unload id)).2.catalog.roots = d.catalog.roots.filter (·.id ≠ id) := by
  constructor
  · intro decls ms hok
    rw [change] at hok ⊢
    cases hattempt : d.attempt (.load decls) with
    | error e =>
      rw [hattempt] at hok
      cases hok
    | ok answer =>
      rw [hattempt] at hok
      cases hok
      exact roots_of_load hattempt
  · intro id ms hok
    rw [change] at hok ⊢
    cases hattempt : d.attempt (.unload id) with
    | error e =>
      rw [hattempt] at hok
      cases hok
    | ok answer =>
      obtain ⟨⟨m, d'⟩, hunload, heq⟩ := map_eq_ok_iff.mp hattempt
      rw [← heq]
      exact roots_of_unload hunload

/-- A change that is refused leaves everything as it is. -/
theorem change_of_error {d : Dispatcher σ} {c : Change σ} {e : LoadError}
    (h : (d.change c).1 = .error e) : (d.change c).2 = d := by
  rw [change] at h ⊢
  cases hattempt : d.attempt c with
  | error e' => rfl
  | ok answer =>
    rw [hattempt] at h
    cases h

end Dispatcher

/-- **After every change**, whatever the changes before it: the roots, both indexes, the parents, the
listings and the routers agree. One more change that is refused leaves all of this as it is, and one that
is not adds the new modules behind the roots or takes a root away. An unload is refused for the place of
the module exactly when it is loaded and not a root, and for its absence exactly when it is not loaded. -/
theorem Reachable.consistent {d : Dispatcher σ} (h : Reachable d) :
    d.Consistent ∧
    (∀ c e, (d.change c).1 = .error e → (d.change c).2 = d) ∧
    (∀ decls ms, (d.change (.load decls)).1 = .ok ms →
      (d.change (.load decls)).2.catalog.roots = d.catalog.roots ++ ms) ∧
    (∀ id ms, (d.change (.unload id)).1 = .ok ms →
      (d.change (.unload id)).2.catalog.roots = d.catalog.roots.filter (·.id ≠ id)) ∧
    ∀ id,
      (d.unload id = .error (.notRoot id) ↔
        (∃ m ∈ d.catalog.modules, m.id = id) ∧ ∀ root ∈ d.catalog.roots, root.id ≠ id) ∧
      (d.unload id = .error (.notLoaded id) ↔ ∀ m ∈ d.catalog.modules, m.id ≠ id) := by
  have hintact := h.intact
  refine ⟨hintact.toConsistent, fun _ _ => Dispatcher.change_of_error, (d.roots_change).1,
    (d.roots_change).2, ?_⟩
  intro id
  -- the index tells whether a module is loaded
  have hloaded : (d.catalog.module? id).isSome ↔ ∃ m ∈ d.catalog.modules, m.id = id := by
    rw [Option.isSome_iff_exists]
    exact exists_congr fun m => hintact.module?_eq_some_iff id m
  rw [Dispatcher.unload_eq_error_iff (.inl rfl), Dispatcher.unload_eq_error_iff (.inr rfl), ← hloaded]
  constructor
  · by_cases hsome : (d.catalog.module? id).isSome <;> simp [hsome, and_comm]
  · have hnone : (∀ m ∈ d.catalog.modules, m.id ≠ id) ↔ ¬ (d.catalog.module? id).isSome := by
      rw [hloaded]
      simp
    rw [hnone]
    by_cases hsome : (d.catalog.module? id).isSome
    · simp [hsome]
    · simp only [hsome]
      refine iff_of_true ⟨?_, rfl⟩ Bool.false_ne_true
      intro root hroot hid
      exact hsome (hloaded.mpr ⟨root, Module.mem_forest_of_mem hroot, hid⟩)

namespace Sample

/-- A dispatcher that has loaded a module with another one below it. -/
def moderated : Dispatcher Unit := ((Dispatcher.new {} id).change (.load [moderation])).2

theorem reachable_moderated : Reachable moderated := (Reachable.new {} id).change _

end Sample

/-- The module below cannot be unloaded alone, its parent is the root, and loading both again is refused
and changes nothing. -/
theorem consistent_moderated :
    Reachable Sample.moderated ∧ Sample.moderated.Consistent ∧
    Sample.moderated.catalog.modules.map (·.typeName) = ["host::Moderation", "host::Cleanup"] ∧
    Sample.moderated.unload ⟨2⟩ = .error (.notRoot ⟨2⟩) ∧
    Sample.moderated.unload ⟨3⟩ = .error (.notLoaded ⟨3⟩) ∧
    (Sample.moderated.change (.load [Sample.moderation])).2 = Sample.moderated := by
  obtain ⟨hconsistent, hrefused, _, _, hunload⟩ := Reachable.consistent Sample.reachable_moderated
  refine ⟨Sample.reachable_moderated, hconsistent, rfl, (hunload ⟨2⟩).1.mpr ?_, (hunload ⟨3⟩).2.mpr ?_,
    hrefused (.load [Sample.moderation]) (.alreadyLoaded "host::Moderation") rfl⟩
  · -- the second module is loaded, but below a root
    have hids : Sample.moderated.catalog.modules.map (·.id) = [⟨1⟩, ⟨2⟩] := rfl
    have hroots : Sample.moderated.catalog.roots.map (·.id) = [⟨1⟩] := rfl
    refine ⟨List.mem_map.mp (by rw [hids]; decide), ?_⟩
    intro root hroot hid
    have hmem := List.mem_map_of_mem (f := (·.id)) hroot
    rw [hroots, hid] at hmem
    exact absurd hmem (by decide)
  · intro m hm hid
    -- no module has the third number
    have hids : Sample.moderated.catalog.modules.map (·.id) = [⟨1⟩, ⟨2⟩] := rfl
    have hmem := List.mem_map_of_mem (f := (·.id)) hm
    rw [hids, hid] at hmem
    exact absurd hmem (by decide)

end ChatDispatch
