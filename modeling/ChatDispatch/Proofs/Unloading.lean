import ChatDispatch.Proofs.RoutePriority

/-!
# Unloading and the routes that stay

Unloading a root module builds the routers anew from what stays loaded. The routes keep their order, but a
wildcard that a removed route has introduced may come up later than before, behind another one.

* **`Dispatcher.Intact.exists_unload`** — unloading a root succeeds, whatever else is loaded.
* **`Route.SharesWildcard`** — two routes lead through a common wildcard, after which both go on.
* **`Route.TriedBefore.of_removed`** — without a shared wildcard, nothing that stays gets in front of a
  route.
* **`Dispatcher.coherent_routes`** — names in lower case match alike where they take the same place.
* **`Reachable.search_unload`** — the headline: what an identifier leads to after an unload.
-/

namespace ChatDispatch

open Router

namespace Router

variable {α : Type}

/-! ## Routes without some of them

When routes are removed, those that stay keep their order, but for wildcards that were in the tree on account of a
removed route. These come up later than before. -/

/-- What comes up before something else still does when routes are removed that do not lead through it. -/
theorem introduction_le_of_removed {front removed back : List (Route α)}
    {beginning beginning' : List Segment} {goesOn goesOn' : Bool}
    (hremoved : ¬ ∃ r ∈ removed, r.Leads beginning goesOn)
    (hle : introduction (front ++ removed ++ back) beginning goesOn ≤
      introduction (front ++ removed ++ back) beginning' goesOn') :
    introduction (front ++ back) beginning goesOn ≤ introduction (front ++ back) beginning' goesOn' := by
  have hnot := introduction_lt_length_iff.not.mpr hremoved
  simp only [introduction_append, List.length_append] at hle ⊢
  split_ifs at hle ⊢ <;> omega

/-- The two routes lead through a common beginning that ends in a wildcard, and both go on after it. -/
def Route.SharesWildcard (r r' : Route α) : Prop :=
  ∃ shared s rest, r'.segments = shared ++ s :: rest ∧ s.isExact = false ∧ rest ≠ [] ∧
    r.Leads (shared ++ [s]) true

/-- A route that leads up to the end of another one and ends there takes the same places. -/
theorem Route.samePlaces_of_leads {r r' : Route α} (h : r.Leads r'.segments false) :
    SamePlaces r.segments r'.segments := by
  obtain ⟨hsame, hends⟩ := h
  have hlength := hsame.length_eq
  rw [List.length_take] at hlength
  have htake : r.segments.take r'.segments.length = r.segments := by
    apply List.take_of_length_le
    simpa using hends
  rw [htake] at hsame
  exact hsame

/-- **What gets in front.** If a route that stays is tried before another one only after some routes are
removed, then one of these shares a wildcard with the other one. -/
theorem Route.TriedBefore.of_removed {front removed back : List (Route α)} {r r' : Route α}
    (hdifferent : ∀ e ∈ removed, ¬ SamePlaces e.segments r.segments)
    (hshares : ∀ e ∈ removed, ¬ e.SharesWildcard r)
    (hlength : r'.segments.length = r.segments.length)
    (h : r'.TriedBefore (front ++ back) r) : r'.TriedBefore (front ++ removed ++ back) r := by
  cases h with
  | exact h' h hshared hs' hs => exact .exact h' h hshared hs' hs
  | @wildcard shared' shared rest' rest s' s h' h hshared hs' hs hfirst =>
    -- both routes fit the same tokens, so they end at the same distance behind what they share
    have hrest : rest'.length = rest.length := by
      have hshared := hshared.length_eq
      rw [h, h', List.length_append, List.length_append, List.length_cons, List.length_cons] at hlength
      omega
    refine .wildcard h' h hshared hs' hs ?_
    apply Nat.lt_of_not_le
    intro hle
    refine absurd hfirst (Nat.not_lt.mpr (introduction_le_of_removed ?_ hle))
    rintro ⟨e, he, hleads⟩
    cases rest with
    | nil =>
      have hwhole : shared ++ [s] = r.segments := h.symm
      rw [hwhole] at hleads
      exact hdifferent e he (samePlaces_of_leads hleads)
    | cons next rest =>
      exact hshares e he ⟨shared, s, next :: rest, h, hs, List.cons_ne_nil _ _, hleads⟩

/-- **Look-up without some routes.** What was found by a route that stays is still found if no route that
stays and fits is tried before it. Something is found in any case. -/
theorem Node.find?_of_removed {front removed back : List (Route α)} {node node' : Node α}
    (hgrow : empty.grow (front ++ removed ++ back) = some node)
    (hgrow' : empty.grow (front ++ back) = some node')
    (hcoherent : Coherent (front ++ removed ++ back)) {r : Route α}
    (honly : ∀ e ∈ front ++ removed ++ back, e.command = r.command → e = r)
    (hstays : ∀ e ∈ removed, e.command ≠ r.command) {tokens : List String} {captures : List String}
    (hfind : node.find? tokens = some (r.command, captures)) :
    (node'.find? tokens).isSome ∧
      (node'.find? tokens = some (r.command, captures) ↔
        ∀ e ∈ front ++ back, e.Fits tokens → ¬ e.TriedBefore (front ++ back) r) ∧
      ((∀ e ∈ removed, ¬ e.SharesWildcard r) → node'.find? tokens = some (r.command, captures)) := by
  have hsubset : front ++ back ⊆ front ++ removed ++ back := by
    intro e he
    simp only [List.mem_append] at he ⊢
    exact he.imp_left .inl
  -- what was coherent with the removed routes is so without them
  have hcoherent' := hcoherent.mono hsubset
  obtain ⟨found, hfound, hfits, hcommand, rfl, hbest⟩ := (find?_eq_some_iff hcoherent hgrow).mp hfind
  obtain rfl := honly found hfound hcommand
  have hmem : found ∈ front ++ back := by
    simp only [List.mem_append] at hfound ⊢
    rcases hfound with (hfound | hfound) | hfound
    · exact .inl hfound
    · exact absurd rfl (hstays found hfound)
    · exact .inr hfound
  have hiff : node'.find? tokens = some (found.command, found.captured tokens) ↔
      ∀ e ∈ front ++ back, e.Fits tokens → ¬ e.TriedBefore (front ++ back) found := by
    rw [find?_eq_some_iff hcoherent' hgrow']
    constructor
    · rintro ⟨other, hother, _, hcommand, _, hbest'⟩
      rw [← honly other (hsubset hother) hcommand]
      exact hbest'
    · intro hbest'
      exact ⟨found, hmem, hfits, rfl, rfl, hbest'⟩
  refine ⟨isSome_find?_of_fits hcoherent' hgrow' hmem hfits, hiff, ?_⟩
  intro hshares
  rw [hiff]
  intro e he hefits htried
  refine hbest e (hsubset he) hefits (htried.of_removed ?_ hshares ?_)
  · -- routes that were added take different places
    have hdifferent := ((isSome_grow_iff ordered_empty).mp (Option.isSome_of_eq_some hgrow)).2
    rw [List.pairwise_append, List.pairwise_append] at hdifferent
    intro other hother hsame
    rcases List.mem_append.mp hmem with hfront | hback
    · exact hdifferent.1.2.2 found hfront other hother hsame.symm
    · exact hdifferent.2.2 other (List.mem_append_right _ hother) found hback hsame
  · rw [List.Forall₂.length_eq hefits, List.Forall₂.length_eq hfits]

end Router

variable {σ : Type}

namespace Dispatcher

variable {d : Dispatcher σ}

/-! ## Unloading a root

A root is found by its number, which nothing else has. All routers are built again from the roots that stay. -/

/-- What is not below a root has other identifiers than the root and what is below it. -/
theorem Intact.id_ne_of_mem_forest (h : d.Intact) {front back : List (Module σ)} {root : Module σ}
    (hroots : d.catalog.roots = front ++ root :: back) :
    ∀ other ∈ Module.forest (front ++ back), ∀ m ∈ root.descendants, other.id ≠ m.id := by
  have hids := h.ids_nodup
  rw [Catalog.modules, hroots, Module.forest_append, Module.forest.eq_def (root :: back),
    List.map_append, List.map_append, List.nodup_append, List.nodup_append] at hids
  obtain ⟨_, ⟨_, _, hback⟩, hfront⟩ := hids
  intro other hother m hm
  have hmem : m.id ∈ root.descendants.map (·.id) := List.mem_map_of_mem hm
  rw [Module.forest_append] at hother
  rcases List.mem_append.mp hother with hother | hother
  · exact hfront other.id (List.mem_map_of_mem hother) m.id (List.mem_append_left _ hmem)
  · exact (hback m.id hmem other.id (List.mem_map_of_mem hother)).symm

/-- No other root has the number of a root. -/
theorem Intact.id_ne_of_mem_roots (h : d.Intact) {front back : List (Module σ)} {root : Module σ}
    (hroots : d.catalog.roots = front ++ root :: back) :
    ∀ other ∈ front ++ back, other.id ≠ root.id := by
  intro other hother
  exact h.id_ne_of_mem_forest hroots other (Module.mem_forest_of_mem hother) root
    (Module.mem_descendants_iff.mpr (.inl rfl))

/-- What stays when one root is taken away are the roots before it and behind it. -/
theorem Intact.filter_roots_eq (h : d.Intact) {front back : List (Module σ)} {root : Module σ}
    (hroots : d.catalog.roots = front ++ root :: back) :
    d.catalog.roots.filter (·.id ≠ root.id) = front ++ back := by
  rw [hroots, List.filter_append, List.filter_cons_of_neg (by simp), ← List.filter_append,
    List.filter_eq_self]
  intro other hother
  simpa using h.id_ne_of_mem_roots hroots other hother

/-- **Unloading a root succeeds.** What stays was loaded beside it, so its types differ and its routes take
different places. -/
theorem Intact.exists_unload (h : d.Intact) {front back : List (Module σ)} {root : Module σ}
    (hroots : d.catalog.roots = front ++ root :: back) :
    ∃ catalog, Catalog.build d.settings (front ++ back) = .ok catalog ∧
      d.unload root.id = .ok (root, { d with catalog := catalog }) := by
  have hstays : (front ++ back).Sublist d.catalog.roots := by
    rw [hroots]
    exact (List.sublist_cons_self _ _).append_left _
  obtain ⟨catalog, hcatalog⟩ := Catalog.exists_build_of_sublist hstays ⟨_, h.catalog_eq⟩
  refine ⟨catalog, hcatalog, unload_eq_ok_iff.mpr ⟨?_, catalog, ?_, rfl⟩⟩
  · -- the root is the first with its number
    have hfront : front.find? (fun m => decide (m.id = root.id)) = none := by
      rw [List.find?_eq_none]
      intro other hother
      simpa using h.id_ne_of_mem_roots hroots other (List.mem_append_left _ hother)
    rw [hroots, List.find?_append, hfront, Option.none_or, List.find?_cons, decide_eq_true rfl]
  · rw [h.filter_roots_eq hroots]
    exact hcatalog

/-! ## Identifiers after an unload

What is known of trees of routes is carried over to the routers for components and forms. -/

/-- The command that an identifier leads to. Only those for components and forms have identifiers. -/
def search (d : Dispatcher σ) : CommandKind → String → Option (Command σ × List String)
  | .component, id => d.findComponent? id
  | .modal, id => d.findModal? id
  | _, _ => none

/-- A search cuts the identifier into tokens and looks these up. -/
theorem search_eq {kind : CommandKind} (hkind : kind = .component ∨ kind = .modal) (id : String) :
    d.search kind id =
      (d.catalog.routers.ofKind kind).root.find? ((d.catalog.routers.ofKind kind).tokenize id) := by
  rcases hkind with rfl | rfl <;> rfl

/-- Only components and forms are found by identifiers. -/
theorem kind_of_search_eq_some {kind : CommandKind} {id : String} {found : Command σ × List String}
    (h : d.search kind id = some found) : kind = .component ∨ kind = .modal := by
  cases kind with
  | component => exact .inl rfl
  | modal => exact .inr rfl
  | _ => cases h

/-- Names in lower case are coherent: segments that take the same place are written as the same token. -/
theorem coherent_routes {kind : CommandKind}
    (hlower : ∀ m ∈ d.catalog.modules, ∀ c ∈ m.commands, c.kind = kind →
      ∀ token ∈ c.route (d.catalog.routers.ofKind kind), Text.lowercase token = token) :
    Coherent (d.routes kind) := by
  -- each segment was written as a token that is its own lower case
  have htokens : ∀ r ∈ d.routes kind, ∀ s ∈ r.segments, ∃ token,
      Segment.ofToken (d.catalog.routers.ofKind kind).marker token = s ∧
        Text.lowercase token = token := by
    intro r hr s hs
    obtain ⟨c, ⟨m, hm, hc⟩, hkind, rfl⟩ := mem_routesIn_iff.mp hr
    obtain ⟨token, htoken, rfl⟩ := List.mem_map.mp hs
    exact ⟨token, rfl, hlower m hm c hc hkind token htoken⟩
  intro r hr r' hr' s hs s' hs' hsame text
  obtain ⟨token, rfl, htoken⟩ := htokens r hr s hs
  obtain ⟨token', rfl, htoken'⟩ := htokens r' hr' s' hs'
  have heq := Segment.samePlace_ofToken hsame
  rw [htoken, htoken'] at heq
  rw [heq]

end Dispatcher

/-- **What an identifier leads to after an unload.** Take any dispatcher that loads and unloads lead to, a
root, and an identifier that leads to a command outside of it. Unloading the root succeeds. If segments
that take the same place match the same tokens, the identifier still leads to a command that is loaded.
It is the same command with the same captures exactly when no route that stays and fits is tried before
the route of the command, and always when no removed route shares a wildcard with it. -/
theorem Reachable.search_unload {d : Dispatcher σ} (h : Reachable d) {root : Module σ}
    (hroot : root ∈ d.catalog.roots) {kind : CommandKind} {id : String} {c : Command σ}
    {captures : List String} (hfound : d.search kind id = some (c, captures))
    (hstays : ∀ m ∈ root.descendants, c.moduleId ≠ m.id) :
    ∃ d', d.unload root.id = .ok (root, d') ∧
      (Coherent (d.routes kind) →
        (∃ c' captures', d'.search kind id = some (c', captures')) ∧
        (d'.search kind id = some (c, captures) ↔
          ∀ r ∈ d'.routes kind, r.Fits ((d.catalog.routers.ofKind kind).tokenize id) →
            ¬ r.TriedBefore (d'.routes kind) ((d.catalog.routers.ofKind kind).routeOf c)) ∧
        ((∀ r ∈ d.routesIn kind [root],
            ¬ r.SharesWildcard ((d.catalog.routers.ofKind kind).routeOf c)) →
          d'.search kind id = some (c, captures))) := by
  have hintact := h.intact
  have hkind := Dispatcher.kind_of_search_eq_some hfound
  obtain ⟨front, back, hroots⟩ := List.append_of_mem hroot
  obtain ⟨catalog, hbuild, hunload⟩ := hintact.exists_unload hroots
  obtain ⟨d', hd'⟩ : ∃ d', d' = { d with catalog := catalog } := ⟨_, rfl⟩
  rw [← hd'] at hunload
  have hintact' : d'.Intact := hintact.unload hunload
  have hsettings : d'.settings = d.settings := by rw [hd']
  have hroots' : d'.catalog.roots = front ++ back := by
    rw [hd']
    exact Catalog.roots_of_build hbuild
  refine ⟨d', hunload, fun hcoherent => ?_⟩
  have htokens : (d'.catalog.routers.ofKind kind).tokenize id =
      (d.catalog.routers.ofKind kind).tokenize id := by
    rw [tokenize, tokenize, hintact'.delimiters_eq, hsettings, hintact.delimiters_eq]
  -- the routes that stay are those before and after the routes of the root
  have hroutes : d.routes kind =
      d.routesIn kind front ++ d.routesIn kind [root] ++ d.routesIn kind back := by
    rw [Dispatcher.routes, hroots, ← Dispatcher.routesIn_append, ← Dispatcher.routesIn_append,
      List.append_assoc, List.singleton_append]
  have hroutes' : d'.routes kind = d.routesIn kind front ++ d.routesIn kind back := by
    rw [Dispatcher.routes, hroots', hintact'.routesIn_eq, hsettings, ← hintact.routesIn_eq,
      Dispatcher.routesIn_append]
  have hgrow := hintact.grow_routes kind
  have hgrow' := hintact'.grow_routes kind
  rw [hroutes] at hgrow hcoherent
  rw [hroutes'] at hgrow'
  have honly : ∀ e ∈ d.routesIn kind front ++ d.routesIn kind [root] ++ d.routesIn kind back,
      e.command = ((d.catalog.routers.ofKind kind).routeOf c).command →
        e = (d.catalog.routers.ofKind kind).routeOf c := by
    intro e he hcommand
    rw [← hroutes] at he
    obtain ⟨other, _, _, rfl⟩ := Dispatcher.mem_routesIn_iff.mp he
    rw [show other = c from hcommand]
  have houtside : ∀ e ∈ d.routesIn kind [root],
      e.command ≠ ((d.catalog.routers.ofKind kind).routeOf c).command := by
    intro e he hcommand
    obtain ⟨other, ⟨m, hm, hother⟩, _, rfl⟩ := Dispatcher.mem_routesIn_iff.mp he
    obtain rfl : other = c := hcommand
    rw [Module.forest_singleton] at hm
    have hbuilt := (hintact.roots root hroot).1.of_mem_descendants hm
    exact hstays m hm (hbuilt.moduleId_eq (Module.mem_commands_iff.mp hother))
  rw [Dispatcher.search_eq hkind] at hfound ⊢
  rw [htokens, hroutes']
  obtain ⟨hsome, hiff, hkept⟩ := Node.find?_of_removed hgrow hgrow' hcoherent honly houtside hfound
  obtain ⟨⟨c', captures'⟩, hfound'⟩ := Option.isSome_iff_exists.mp hsome
  exact ⟨⟨c', captures', hfound'⟩, hiff, hkept⟩

namespace Sample

def panel (name pattern : String) : ModuleDecl Unit :=
  ⟨"host::" ++ name, name, none, true, [],
    [{ kind := .component, name := pattern, handler := some handler }], [], construct name⟩

/-- Three panels with one button each. The first introduces the wildcard that the third one shares. -/
def panels : Dispatcher Unit :=
  ((Dispatcher.new { delimiters := [':'] } id).change
    (.load [panel "First" "p*:x", panel "Second" "*:z", panel "Third" "p*:z"])).2

theorem reachable_panels : Reachable panels := (Reachable.new { delimiters := [':'] } id).change _

end Sample

/-- The second panel shares no wildcard with the third, so unloading it leaves the third one's identifiers
alone. -/
theorem search_unload_panel :
    ∃ root ∈ Sample.panels.catalog.roots, ∃ c,
      root.name = "Second" ∧ c.moduleName = "Third" ∧
      Sample.panels.search .component "pq:z" = some (c, ["q"]) ∧
      (∀ m ∈ root.descendants, c.moduleId ≠ m.id) ∧ Coherent (Sample.panels.routes .component) ∧
      ∃ d', Sample.panels.unload root.id = .ok (root, d') ∧
        d'.search .component "pq:z" = some (c, ["q"]) := by
  have hroot : Sample.panels.catalog.roots[1] ∈ Sample.panels.catalog.roots := List.getElem_mem _
  have hcoherent : Coherent (Sample.panels.routes .component) :=
    Dispatcher.coherent_routes (by decide)
  have hfound : Sample.panels.search .component "pq:z" =
      some (Sample.panels.componentCommands[2], ["q"]) := rfl
  obtain ⟨d', hunload, hsearch⟩ :=
    Reachable.search_unload Sample.reachable_panels hroot hfound (by decide)
  refine ⟨_, hroot, _, rfl, rfl, hfound, by decide, hcoherent, d', hunload,
    (hsearch hcoherent).2.2 ?_⟩
  intro r hr ⟨shared, s, rest, hsegments, _, hrest, hleads⟩
  cases List.mem_singleton.mp hr
  -- of two segments, only the first one is followed by another
  have hlength : 2 = (shared ++ s :: rest).length := congrArg List.length hsegments
  have hpos := List.length_pos_of_ne_nil hrest
  rw [List.length_append, List.length_cons] at hlength
  obtain rfl : shared = [] := List.eq_nil_of_length_eq_zero (by omega)
  cases hsegments
  revert hleads
  decide

/-- Without the first panel, the wildcard of the second one comes up before that of the third, and an
identifier that led to the third leads to the second. -/
theorem unload_can_reroute :
    Reachable Sample.panels ∧
    ∃ root ∈ Sample.panels.catalog.roots, ∃ c c' d',
      Sample.panels.findComponent? "pq:z" = some (c, ["q"]) ∧
      (∀ m ∈ root.descendants, c.moduleId ≠ m.id) ∧
      Sample.panels.unload root.id = .ok (root, d') ∧
      d'.findComponent? "pq:z" = some (c', ["pq"]) ∧ c'.moduleId ≠ c.moduleId := by
  refine ⟨Sample.reachable_panels, _, List.mem_cons_self, _, _, _, rfl, ?_, rfl, rfl, by decide⟩
  decide

end ChatDispatch
