import ChatDispatch.Proofs.Loading
import ChatDispatch.Proofs.RouteSet

/-!
# Registered commands

The routers of a catalog come about by registering commands one after another. This module says when that
succeeds and which routes there are afterwards.

* **`Node.grow`** — a tree with routes added one after another.
* **`Node.isSome_grow_iff`** — the routes can be added exactly when none is empty and no two take the same
  places. So any part of routes that can be added can be added, too.
* **`Node.exists_has_grow`**, **`Node.exists_mem_of_has_grow`** — the tree has the routes that were added.
* **`Routers.exists_insertAll_iff`**, **`Routers.grow_of_insertAll`** — the router for a kind of command is
  the tree of the routes of these commands.
* **`Catalog.exists_build_iff`** — which roots can be loaded together; so can any part of them.
* **`Dispatcher.routes`**, **`Dispatcher.Intact.grow_routes`** — the routes of the loaded commands, and the
  routers of a dispatcher as their trees.
* **`Dispatcher.Intact.loaded_of_find?`** — a router finds loaded commands of its own kind only.
-/

namespace ChatDispatch

namespace Router.Node

variable {α : Type}

/-! ## Several routes

Adding routes one after another, in terms of one insert. -/

/-- Adds routes one after another, up to the first that is refused. -/
def grow (node : Node α) : List (Route α) → Option (Node α)
  | [] => some node
  | r :: rs => (node.insert? r.segments r.command).bind (grow · rs)

variable {node node' : Node α} {rs : List (Route α)}

/-- All routes are added when the first one is and then the others. -/
theorem grow_cons_eq_some_iff {r : Route α} :
    node.grow (r :: rs) = some node' ↔
      ∃ between, node.insert? r.segments r.command = some between ∧ between.grow rs = some node' := by
  rw [grow, Option.bind_eq_some_iff]

/-- Two lists of routes are added one after the other. -/
theorem grow_append (node : Node α) (rs rs' : List (Route α)) :
    node.grow (rs ++ rs') = (node.grow rs).bind (·.grow rs') := by
  induction rs generalizing node with
  | nil => rfl
  | cons r rs ih =>
    rw [List.cons_append, grow, grow, Option.bind_assoc]
    exact congrArg _ (funext fun between => ih between)

/-- Adding routes keeps a tree ordered. -/
theorem ordered_grow (hordered : node.Ordered) (h : node.grow rs = some node') : node'.Ordered := by
  induction rs generalizing node with
  | nil =>
    cases h
    exact hordered
  | cons r rs ih =>
    obtain ⟨between, hinsert, hrest⟩ := grow_cons_eq_some_iff.mp h
    exact ih (ordered_insert? hinsert hordered) hrest

/-- Every route of the tree was there before or is one of those added, stored at its places. -/
theorem exists_mem_of_has_grow (hordered : node.Ordered) (h : node.grow rs = some node')
    {r' : Route α} (hhas : node'.Has r') :
    node.Has r' ∨ ∃ r ∈ rs, r'.command = r.command ∧ SamePlaces r'.segments r.segments := by
  induction rs generalizing node with
  | nil =>
    cases h
    exact .inl hhas
  | cons r rs ih =>
    obtain ⟨between, hinsert, hrest⟩ := grow_cons_eq_some_iff.mp h
    rcases ih (ordered_insert? hinsert hordered) hrest with hbetween | ⟨other, hmem, hother⟩
    · rcases (has_insert?_iff hordered hinsert).mp hbetween with hbefore | rfl
      · exact .inl hbefore
      · exact .inr ⟨r, List.mem_cons_self, rfl, samePlaces_placed _ _⟩
    · exact .inr ⟨other, List.mem_cons_of_mem _ hmem, hother⟩

/-- Adding routes keeps those that were there before. -/
theorem has_grow_of_has (hordered : node.Ordered) (h : node.grow rs = some node') {r : Route α}
    (hhas : node.Has r) : node'.Has r := by
  induction rs generalizing node with
  | nil =>
    cases h
    exact hhas
  | cons other rs ih =>
    obtain ⟨between, hinsert, hrest⟩ := grow_cons_eq_some_iff.mp h
    exact ih (ordered_insert? hinsert hordered) hrest
      ((has_insert?_iff hordered hinsert).mpr (.inl hhas))

/-- Every route that was added is in the tree, stored at its places. -/
theorem exists_has_grow (hordered : node.Ordered) (h : node.grow rs = some node') {r : Route α}
    (hmem : r ∈ rs) :
    ∃ r', node'.Has r' ∧ r'.command = r.command ∧ SamePlaces r'.segments r.segments := by
  induction rs generalizing node with
  | nil => cases hmem
  | cons other rs ih =>
    obtain ⟨between, hinsert, hrest⟩ := grow_cons_eq_some_iff.mp h
    have hbetween := ordered_insert? hinsert hordered
    rcases List.mem_cons.mp hmem with rfl | hmem
    · exact ⟨_, has_grow_of_has hbetween hrest ((has_insert?_iff hordered hinsert).mpr (.inr rfl)), rfl,
        samePlaces_placed _ _⟩
    · exact ih hbetween hrest hmem

/-- **When routes can be added.** None of them is empty, and none takes the same places as a route of the
tree or as another one of them. -/
theorem isSome_grow_iff (hordered : node.Ordered) :
    (node.grow rs).isSome ↔
      (∀ r ∈ rs, r.segments ≠ [] ∧ ∀ r', node.Has r' → ¬ SamePlaces r'.segments r.segments) ∧
        rs.Pairwise fun r r' => ¬ SamePlaces r.segments r'.segments := by
  induction rs generalizing node with
  | nil => simp [grow]
  | cons r rs ih =>
    rw [grow, List.forall_mem_cons, List.pairwise_cons]
    cases hinsert : node.insert? r.segments r.command with
    | none =>
      -- the first route is refused, so it is empty or its places are taken
      refine iff_of_false Bool.false_ne_true ?_
      rintro ⟨⟨⟨hne, hfree⟩, _⟩, _⟩
      rcases (insert?_eq_none_iff hordered).mp hinsert with hnil | ⟨r', hhas, hsame⟩
      · exact hne hnil
      · exact hfree r' hhas hsame
    | some between =>
      have haccepted : ¬ (r.segments = [] ∨ ∃ r', node.Has r' ∧ SamePlaces r'.segments r.segments) := by
        intro hrefused
        rw [(insert?_eq_none_iff hordered).mpr hrefused] at hinsert
        cases hinsert
      -- for the rest, the tree has one more route, at the places of the one just added
      have hsame : ∀ segments, SamePlaces (node.placed r.segments) segments ↔
          SamePlaces r.segments segments := fun segments =>
        ⟨(samePlaces_placed _ _).symm.trans, (samePlaces_placed _ _).trans⟩
      have hfree : ∀ segments, (∀ r', between.Has r' → ¬ SamePlaces r'.segments segments) ↔
          (∀ r', node.Has r' → ¬ SamePlaces r'.segments segments) ∧
            ¬ SamePlaces r.segments segments := by
        intro segments
        simp only [has_insert?_iff hordered hinsert, or_imp, forall_and, forall_eq, hsame]
      rw [Option.bind_some, ih (ordered_insert? hinsert hordered)]
      simp only [hfree]
      grind

theorem isSome_grow_of_sublist {part : List (Route α)} (hsublist : part.Sublist rs)
    (h : (grow empty rs).isSome) : (grow empty part).isSome := by
  rw [isSome_grow_iff ordered_empty] at h ⊢
  exact ⟨fun r hr => h.1 r (hsublist.subset hr), h.2.sublist hsublist⟩

end Router.Node

/-! ## Routers of commands

There is one router for each kind of command, and registering a command concerns the router for its kind only. -/

open Router

variable {σ : Type}

/-- The route of a command. -/
def Router.routeOf (router : Router (Command σ)) (c : Command σ) : Route (Command σ) where
  segments := (c.route router).map (Segment.ofToken router.marker)
  command := c

/-- The routes of those commands that are of one kind, in their order. -/
def Router.routesOf (router : Router (Command σ)) (kind : CommandKind) (cs : List (Command σ)) :
    List (Route (Command σ)) :=
  (cs.filter (·.kind = kind)).map router.routeOf

/-- The routes of two lists of commands stand one after the other. -/
theorem Router.routesOf_append (router : Router (Command σ)) (kind : CommandKind)
    (cs cs' : List (Command σ)) :
    router.routesOf kind (cs ++ cs') = router.routesOf kind cs ++ router.routesOf kind cs' := by
  rw [routesOf, List.filter_append, List.map_append]
  rfl

theorem Router.routesOf_sublist (router : Router (Command σ)) (kind : CommandKind)
    {cs cs' : List (Command σ)} (h : cs.Sublist cs') :
    (router.routesOf kind cs).Sublist (router.routesOf kind cs') :=
  (h.filter _).map _

namespace Routers

variable {routers routers' : Routers σ} {cs : List (Command σ)}

theorem ofKind_setKind_self (routers : Routers σ) (kind : CommandKind)
    (router : Router (Command σ)) : (routers.setKind kind router).ofKind kind = router := by
  cases kind with
  | context target => cases target <;> rfl
  | _ => rfl

theorem ofKind_setKind_of_ne (routers : Routers σ) {kind other : CommandKind} (h : other ≠ kind)
    (router : Router (Command σ)) :
    (routers.setKind kind router).ofKind other = routers.ofKind other := by
  rcases kind with _ | (_ | _) | _ | _ | _ <;> rcases other with _ | (_ | _) | _ | _ | _ <;>
    first | rfl | exact absurd rfl h

/-- A command is registered when its route can be added for its kind. -/
theorem insert_eq_ok_iff {c : Command σ} :
    routers.insert c = .ok routers' ↔
      ∃ root, (routers.ofKind c.kind).root.insert? ((routers.ofKind c.kind).routeOf c).segments c =
          some root ∧
        routers' = routers.setKind c.kind { routers.ofKind c.kind with
          root := root, size := (routers.ofKind c.kind).size + 1 } := by
  simp only [insert, map_eq_ok_iff, Router.insert_eq_ok_iff]
  constructor
  · rintro ⟨_, ⟨root, hroot, rfl⟩, rfl⟩
    exact ⟨root, hroot, rfl⟩
  · rintro ⟨root, hroot, rfl⟩
    exact ⟨_, ⟨root, hroot, rfl⟩, rfl⟩

/-- Registering one command leaves, for every kind, the routes of the others to be added. -/
theorem grow_routesOf_cons {c : Command σ} (h : routers.insert c = .ok routers') (kind : CommandKind) :
    (routers.ofKind kind).root.grow ((routers.ofKind kind).routesOf kind (c :: cs)) =
      (routers'.ofKind kind).root.grow ((routers'.ofKind kind).routesOf kind cs) := by
  obtain ⟨root, hroot, rfl⟩ := insert_eq_ok_iff.mp h
  by_cases hkind : kind = c.kind
  · subst hkind
    -- for its own kind the command is the first route that is added
    rw [ofKind_setKind_self, routesOf, List.filter_cons_of_pos (by simp), List.map_cons, Node.grow]
    show Option.bind _ _ = Node.grow root _
    rw [show ((routers.ofKind c.kind).routeOf c).command = c from rfl, hroot]
    rfl
  · -- for another kind there is nothing to add
    rw [ofKind_setKind_of_ne routers hkind, routesOf,
      List.filter_cons_of_neg (by simpa [eq_comm] using hkind)]
    rfl

/-- **When commands can be registered.** For every kind, their routes can be added to the tree. -/
theorem exists_insertAll_iff :
    (∃ routers', routers.insertAll cs = .ok routers') ↔
      ∀ kind, ((routers.ofKind kind).root.grow ((routers.ofKind kind).routesOf kind cs)).isSome := by
  induction cs generalizing routers with
  | nil => exact iff_of_true ⟨routers, rfl⟩ fun _ => rfl
  | cons c cs ih =>
    simp only [insertAll, bind_eq_ok_iff]
    constructor
    · rintro ⟨routers', between, hinsert, hrest⟩ kind
      rw [grow_routesOf_cons hinsert]
      exact ih.mp ⟨routers', hrest⟩ kind
    · intro h
      -- the first command is the first route of its own kind, so it can be registered
      have hown := h c.kind
      rw [routesOf, List.filter_cons_of_pos (by simp), List.map_cons] at hown
      obtain ⟨_, hgrow⟩ := Option.isSome_iff_exists.mp hown
      obtain ⟨root, hroot, -⟩ := Node.grow_cons_eq_some_iff.mp hgrow
      have hinsert := insert_eq_ok_iff.mpr ⟨root, hroot, rfl⟩
      obtain ⟨routers', hrest⟩ := ih.mpr fun kind => by
        rw [← grow_routesOf_cons hinsert]
        exact h kind
      exact ⟨routers', _, hinsert, hrest⟩

/-- **The router for a kind** holds the routes of the commands of this kind, added in their order. -/
theorem grow_of_insertAll (h : routers.insertAll cs = .ok routers') (kind : CommandKind) :
    (routers'.ofKind kind).delimiters = (routers.ofKind kind).delimiters ∧
    (routers'.ofKind kind).marker = (routers.ofKind kind).marker ∧
    (routers.ofKind kind).root.grow ((routers.ofKind kind).routesOf kind cs) =
      some (routers'.ofKind kind).root := by
  induction cs generalizing routers with
  | nil =>
    cases h
    exact ⟨rfl, rfl, rfl⟩
  | cons c cs ih =>
    simp only [insertAll, bind_eq_ok_iff] at h
    obtain ⟨between, hinsert, hrest⟩ := h
    obtain ⟨hdelimiters, hmarker, hgrow⟩ := ih hrest
    rw [grow_routesOf_cons hinsert]
    obtain ⟨root, -, rfl⟩ := insert_eq_ok_iff.mp hinsert
    by_cases hkind : kind = c.kind
    · subst hkind
      rw [ofKind_setKind_self] at hdelimiters hmarker hgrow
      exact ⟨hdelimiters, hmarker, by rw [ofKind_setKind_self]; exact hgrow⟩
    · rw [ofKind_setKind_of_ne routers hkind] at hdelimiters hmarker hgrow
      exact ⟨hdelimiters, hmarker, by rw [ofKind_setKind_of_ne routers hkind]; exact hgrow⟩

theorem root_ofKind_empty (settings : Settings) (kind : CommandKind) :
    ((empty settings : Routers σ).ofKind kind).root = .empty := by
  rcases kind with _ | (_ | _) | _ | _ | _ <;> rfl

end Routers

/-! ## Catalogs of roots

A catalog registers the commands of all modules in one go, whatever roots they are below. -/

namespace Catalog

variable {settings : Settings} {roots part : List (Module σ)}

/-- **When roots can be loaded together.** No type occurs twice, and for every kind of command the routes
can be added. -/
theorem exists_build_iff :
    (∃ catalog, build settings roots = .ok catalog) ↔
      ((Module.forest roots).map (·.typeName)).Nodup ∧
      ∀ kind, (Node.empty.grow (((Routers.empty settings).ofKind kind).routesOf kind
        ((Module.forest roots).flatMap (·.commands)))).isSome := by
  simp only [build_eq_ok_iff]
  constructor
  · rintro ⟨_, htypes, routers, hrouters, -⟩
    refine ⟨htypes, fun kind => ?_⟩
    have hgrow := Routers.exists_insertAll_iff.mp ⟨routers, hrouters⟩ kind
    rw [Routers.root_ofKind_empty] at hgrow
    exact hgrow
  · rintro ⟨htypes, hgrow⟩
    -- each router takes the commands of its kind, and no other
    have hregistered : ∃ routers, (Routers.empty settings).insertAll
        ((Module.forest roots).flatMap (·.commands)) = .ok routers := by
      rw [Routers.exists_insertAll_iff]
      intro kind
      rw [Routers.root_ofKind_empty]
      exact hgrow kind
    obtain ⟨routers, hrouters⟩ := hregistered
    exact ⟨_, htypes, routers, hrouters, rfl⟩

/-- Part of the roots that can be loaded together can be loaded, too. -/
theorem exists_build_of_sublist (hsublist : part.Sublist roots)
    (h : ∃ catalog, build settings roots = .ok catalog) :
    ∃ catalog, build settings part = .ok catalog := by
  rw [exists_build_iff] at h ⊢
  have hforest := Module.forest_sublist hsublist
  refine ⟨h.1.sublist (hforest.map _), fun kind => ?_⟩
  exact Node.isSome_grow_of_sublist (routesOf_sublist _ kind (hforest.flatMap _)) (h.2 kind)

end Catalog

/-! ## Routers of a dispatcher

The routers of a dispatcher are those of its catalog, so they are told by the loaded commands and the settings. -/

namespace Dispatcher

variable {d : Dispatcher σ}

/-- The routes that the commands of a kind have in modules side by side and all below them. -/
def routesIn (d : Dispatcher σ) (kind : CommandKind) (ms : List (Module σ)) : List (Route (Command σ)) :=
  (d.catalog.routers.ofKind kind).routesOf kind ((Module.forest ms).flatMap (·.commands))

/-- The routes of the loaded commands of a kind, in the order in which they were registered. -/
def routes (d : Dispatcher σ) (kind : CommandKind) : List (Route (Command σ)) :=
  d.routesIn kind d.catalog.roots

/-- The routes of two lists of modules stand one after the other. -/
theorem routesIn_append (d : Dispatcher σ) (kind : CommandKind) (ms others : List (Module σ)) :
    d.routesIn kind (ms ++ others) = d.routesIn kind ms ++ d.routesIn kind others := by
  rw [routesIn, Module.forest_append, List.flatMap_append, routesOf_append]
  rfl

/-- The routes for a kind are those of the commands of this kind. -/
theorem mem_routesIn_iff {kind : CommandKind} {ms : List (Module σ)} {r : Route (Command σ)} :
    r ∈ d.routesIn kind ms ↔
      ∃ c, (∃ m ∈ Module.forest ms, c ∈ m.commands) ∧ c.kind = kind ∧
        r = (d.catalog.routers.ofKind kind).routeOf c := by
  simp only [routesIn, routesOf, List.mem_map, List.mem_filter, List.mem_flatMap, decide_eq_true_eq,
    and_assoc, eq_comm (a := r)]

theorem Intact.delimiters_eq (h : d.Intact) (kind : CommandKind) :
    (d.catalog.routers.ofKind kind).delimiters =
      ((Routers.empty d.settings : Routers σ).ofKind kind).delimiters :=
  (Routers.grow_of_insertAll h.routers_eq kind).1

theorem Intact.marker_eq (h : d.Intact) (kind : CommandKind) :
    (d.catalog.routers.ofKind kind).marker =
      ((Routers.empty d.settings : Routers σ).ofKind kind).marker :=
  (Routers.grow_of_insertAll h.routers_eq kind).2.1

theorem Intact.routeOf_eq (h : d.Intact) (kind : CommandKind) (c : Command σ) :
    (d.catalog.routers.ofKind kind).routeOf c = ((Routers.empty d.settings).ofKind kind).routeOf c := by
  simp only [routeOf, Command.route, tokenize, h.delimiters_eq, h.marker_eq]

theorem Intact.routesIn_eq (h : d.Intact) (kind : CommandKind) (ms : List (Module σ)) :
    d.routesIn kind ms = ((Routers.empty d.settings).ofKind kind).routesOf kind
      ((Module.forest ms).flatMap (·.commands)) :=
  List.map_congr_left fun c _ => h.routeOf_eq kind c

/-- **The router for a kind of command** is built from the routes of the loaded commands. -/
theorem Intact.grow_routes (h : d.Intact) (kind : CommandKind) :
    Node.empty.grow (d.routes kind) = some (d.catalog.routers.ofKind kind).root := by
  have hgrow := (Routers.grow_of_insertAll h.routers_eq kind).2.2
  rw [Routers.root_ofKind_empty] at hgrow
  rw [routes, h.routesIn_eq]
  exact hgrow

/-- The command belongs to a loaded module. -/
def Loaded (d : Dispatcher σ) (c : Command σ) : Prop :=
  ∃ m ∈ d.catalog.modules, c ∈ m.commands

/-- What the router for a kind of command finds is a loaded command of this kind. -/
theorem Intact.loaded_of_find? (h : d.Intact) {kind : CommandKind} {tokens : List String}
    {c : Command σ} {captures : List String}
    (hfind : (d.catalog.routers.ofKind kind).find? tokens = some (c, captures)) :
    d.Loaded c ∧ c.kind = kind := by
  -- what is found belongs to a route, and every route of the tree was added for a command
  obtain ⟨r, hhas, -, rfl, -⟩ := Node.exists_of_find? hfind
  rcases Node.exists_mem_of_has_grow Node.ordered_empty (h.grow_routes kind) hhas with
    hempty | ⟨r', hmem, hcommand, -⟩
  · exact absurd hempty Node.not_has_empty
  · obtain ⟨c, hc, hkind, rfl⟩ := mem_routesIn_iff.mp hmem
    rw [hcommand]
    exact ⟨hc, hkind⟩

end Dispatcher

end ChatDispatch
