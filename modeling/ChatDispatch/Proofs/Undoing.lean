import ChatDispatch.Proofs.Unloading

/-!
# Undoing a load

The catalog is built anew from the roots at every change, so what was loaded can be taken back: when the
roots that a load has added are gone, all that is left of it are the numbers that were given out.

* **`Dispatcher.unloadAll`** — unloads roots one after another.
* **`Dispatcher.Intact.exists_unloadAll`** — no order in which roots are unloaded is refused, and what is
  loaded afterwards depends on which roots stay and on nothing else.
* **`Reachable.unload_undoes_load`** — the headline: unloading is never refused for what stays, and undoes
  loading in any order.
-/

namespace ChatDispatch

variable {σ : Type}

namespace Dispatcher

/-- Unloads roots one after another, up to the first that is refused. -/
def unloadAll (d : Dispatcher σ) : List ModuleId → Except LoadError (Dispatcher σ)
  | [] => .ok d
  | id :: ids => do
    let (_, d') ← d.unload id
    d'.unloadAll ids

variable {d : Dispatcher σ}

/-- One root is unloaded, and the others stay in their order. -/
theorem Intact.exists_unload_filter (h : d.Intact) {root : Module σ} (hroot : root ∈ d.catalog.roots) :
    ∃ catalog, Catalog.build d.settings (d.catalog.roots.filter (·.id ≠ root.id)) = .ok catalog ∧
      d.unload root.id = .ok (root, { d with catalog := catalog }) := by
  obtain ⟨front, back, hroots⟩ := List.append_of_mem hroot
  rw [h.filter_roots_eq hroots]
  exact h.exists_unload hroots

/-- **Unloading several roots** succeeds in any order, and leaves the catalog of the roots that stay. -/
theorem Intact.exists_unloadAll (h : d.Intact) {ids : List ModuleId} (hdifferent : ids.Nodup)
    (hroots : ∀ id ∈ ids, ∃ root ∈ d.catalog.roots, root.id = id) :
    ∃ catalog, Catalog.build d.settings (d.catalog.roots.filter (·.id ∉ ids)) = .ok catalog ∧
      d.unloadAll ids = .ok { d with catalog := catalog } := by
  -- on the identifiers, for every dispatcher: each step leaves one that is intact and has the other roots
  induction ids generalizing d with
  | nil =>
    refine ⟨d.catalog, ?_, rfl⟩
    have hall : d.catalog.roots.filter (fun root => decide (root.id ∉ ([] : List ModuleId))) =
        d.catalog.roots := by simp
    rw [hall]
    exact h.catalog_eq
  | cons id ids ih =>
    obtain ⟨root, hroot, rfl⟩ := hroots id List.mem_cons_self
    obtain ⟨hfresh, hrestDifferent⟩ := List.nodup_cons.mp hdifferent
    obtain ⟨between, hbuild, hunload⟩ := h.exists_unload_filter hroot
    have hbetween : between.roots = d.catalog.roots.filter (·.id ≠ root.id) :=
      Catalog.roots_of_build hbuild
    have hothers : ∀ id ∈ ids, ∃ other ∈ between.roots, other.id = id := by
      intro id hid
      obtain ⟨other, hother, hotherId⟩ := hroots id (List.mem_cons_of_mem _ hid)
      refine ⟨other, ?_, hotherId⟩
      have hne : other.id ≠ root.id := by
        intro heq
        rw [← heq, hotherId] at hfresh
        exact hfresh hid
      rw [hbetween]
      exact List.mem_filter.mpr ⟨hother, decide_eq_true hne⟩
    obtain ⟨catalog, hcatalog, hrest⟩ := ih (h.unload hunload) hrestDifferent hothers
    refine ⟨catalog, ?_, ?_⟩
    · have hstays : d.catalog.roots.filter (·.id ∉ root.id :: ids) =
          between.roots.filter (·.id ∉ ids) := by
        rw [hbetween, List.filter_filter]
        refine List.filter_congr fun other _ => ?_
        simp only [List.mem_cons, not_or, Bool.decide_and, Bool.and_comm]
      rw [hstays]
      exact hcatalog
    · rw [unloadAll, hunload]
      exact hrest

/-- An unload is refused only for the place of the module: it is no root, or it is not loaded. -/
theorem Intact.unload_eq_error (h : d.Intact) {id : ModuleId} {e : LoadError}
    (hrefused : d.unload id = .error e) : e = .notRoot id ∨ e = .notLoaded id := by
  cases hfind : d.catalog.roots.find? (·.id = id) with
  | none =>
    rw [Dispatcher.unload, hfind] at hrefused
    -- the number is that of no root, so the unload is refused for one of two reasons
    have herror : (if (d.catalog.module? id).isSome then .notRoot id else .notLoaded id) = e := by
      cases hrefused
      rfl
    rw [← herror]
    split
    · exact .inl rfl
    · exact .inr rfl
  | some root =>
    have hid : root.id = id := by simpa using List.find?_some hfind
    obtain ⟨catalog, -, hunload⟩ := h.exists_unload_filter (List.mem_of_find?_eq_some hfind)
    rw [hid, hrefused] at hunload
    cases hunload

/-- **Taking back a load.** When every root that the load has added is unloaded, in any order, the catalog
is the one before the load, and only the numbering has gone on. -/
theorem Intact.unloadAll_of_load {d' : Dispatcher σ} (h : d.Intact) {decls : List (ModuleDecl σ)}
    {ms : List (Module σ)} (hload : d.load decls = .ok (ms, d')) {ids : List ModuleId}
    (hids : ids.Perm (ms.map (·.id))) :
    d'.unloadAll ids = .ok { d with nextModule := d'.nextModule } := by
  have hintact' := h.load hload
  have hroots' := roots_of_load hload
  -- roots have identifiers of their own, so those of the new ones pick out just these
  have hnodup : ((d.catalog.roots ++ ms).map (·.id)).Nodup := by
    rw [← hroots']
    exact hintact'.ids_nodup.sublist ((Module.sublist_forest _).map _)
  rw [List.map_append, List.nodup_append] at hnodup
  obtain ⟨_, hdifferent, hapart⟩ := hnodup
  have hadded : ∀ id ∈ ids, ∃ root ∈ d'.catalog.roots, root.id = id := by
    intro id hid
    obtain ⟨root, hroot, rfl⟩ := List.mem_map.mp (hids.mem_iff.mp hid)
    rw [hroots']
    exact ⟨root, List.mem_append_right _ hroot, rfl⟩
  have hbefore : d'.catalog.roots.filter (·.id ∉ ids) = d.catalog.roots := by
    have hold : d.catalog.roots.filter (·.id ∉ ids) = d.catalog.roots := by
      rw [List.filter_eq_self]
      intro root hroot
      refine decide_eq_true ?_
      intro hid
      exact hapart root.id (List.mem_map_of_mem hroot) root.id (hids.mem_iff.mp hid) rfl
    have hnew : ms.filter (·.id ∉ ids) = [] := by
      rw [List.filter_eq_nil_iff]
      intro root hroot
      simpa using hids.mem_iff.mpr (List.mem_map_of_mem hroot)
    rw [hroots', List.filter_append, hold, hnew, List.append_nil]
  obtain ⟨catalog, hcatalog, hunload⟩ :=
    hintact'.exists_unloadAll (hids.nodup_iff.mpr hdifferent) hadded
  -- a load changes nothing but the catalog and the numbering, and both are accounted for
  obtain ⟨_, loaded, _, rfl⟩ := load_eq_ok_iff.mp hload
  rw [hbefore, h.catalog_eq] at hcatalog
  cases hcatalog
  exact hunload

end Dispatcher

/-- **Unloading undoes loading.** Take any dispatcher that loads and unloads lead to. Every root can be
unloaded, and what is refused is refused because it is below another module or not loaded, never for the
types and the routes of what stays. After any load that is not refused, the new roots can be unloaded one
by one in any order. Then all is as before the load, the roots, both indexes and all six routers included;
only the numbers of the modules are used up. -/
theorem Reachable.unload_undoes_load {d : Dispatcher σ} (h : Reachable d) :
    (∀ root ∈ d.catalog.roots, ∃ d', d.unload root.id = .ok (root, d')) ∧
    (∀ id e, d.unload id = .error e → e = .notRoot id ∨ e = .notLoaded id) ∧
    ∀ decls ms d', d.load decls = .ok (ms, d') → ∀ ids, ids.Perm (ms.map (·.id)) →
      d'.unloadAll ids = .ok { d with nextModule := d'.nextModule } := by
  have hintact := h.intact
  refine ⟨?_, ?_, ?_⟩
  · intro root hroot
    obtain ⟨catalog, -, hunload⟩ := hintact.exists_unload_filter hroot
    exact ⟨_, hunload⟩
  · intro id e hrefused
    exact hintact.unload_eq_error hrefused
  · intro decls ms d' hload ids hids
    exact hintact.unloadAll_of_load hload hids

/-- Two more panels beside three with a common wildcard are unloaded in the reverse order, and the three
panels are left as they were. -/
theorem unload_undoes_load_panels :
    Reachable Sample.panels ∧ ∃ ms d',
      Sample.panels.load [Sample.panel "Fourth" "p*:y", Sample.panel "Fifth" "q:*"] = .ok (ms, d') ∧
      ms.map (·.id) = [⟨4⟩, ⟨5⟩] ∧
      d'.unloadAll [⟨5⟩, ⟨4⟩] = .ok { Sample.panels with nextModule := 6 } := by
  obtain ⟨ms, d', hload, hids, hnext⟩ : ∃ ms d', Sample.panels.load
      [Sample.panel "Fourth" "p*:y", Sample.panel "Fifth" "q:*"] = .ok (ms, d') ∧
        ms.map (·.id) = [⟨4⟩, ⟨5⟩] ∧ d'.nextModule = 6 := ⟨_, _, rfl, rfl, rfl⟩
  have horder : List.Perm [⟨5⟩, ⟨4⟩] (ms.map (·.id)) := by
    rw [hids]
    exact List.Perm.swap _ _ _
  refine ⟨Sample.reachable_panels, ms, d', hload, hids, ?_⟩
  rw [← hnext]
  exact (Reachable.unload_undoes_load Sample.reachable_panels).2.2 _ _ _ hload _ horder

end ChatDispatch
