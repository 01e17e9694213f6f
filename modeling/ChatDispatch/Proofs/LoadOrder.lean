import ChatDispatch.Proofs.InPlace
import ChatDispatch.Proofs.PathRouting
import ChatDispatch.Proofs.Renumbering
import Mathlib.Data.List.Perm.Basic

/-!
# The order of loads

Modules may be loaded in any order, one by one or in batches. What is accepted in the end does not depend on
it, and neither does what paths lead to.

* **`Settings.SamePath`** — two commands have the same path, up to case and apart from their wildcards.
* **`Settings.Compatible`** — no type occurs twice among some modules, and no path. The order of the modules
  makes no difference.
* **`Catalog.exists_build_iff_compatible`** — compatible modules, and no others, have a catalog.
* **`Dispatcher.Intact.loadAll_eq_ok_iff`** — batches are loaded as if they were one.
* **`Reachable.loads_iff_compatible`** — the headline: compatible modules can be loaded in any order and in
  any batches, and then the same commands are found by the same paths.
-/

namespace ChatDispatch

open Router

variable {σ : Type}

/-! ## Equal paths

Two commands are in each other's way when the routers would put them in one place. In terms of their paths this is
equality up to case, and wildcards are compared with wildcards only. -/

/-- Two tokens of paths for a kind of command are the same: they are equal up to case and, where wildcards
are taken, both hold the marker or neither does. -/
def Settings.SameToken (s : Settings) (kind : CommandKind) (token other : String) : Prop :=
  Text.lowercase token = Text.lowercase other ∧
    (kind.takesWildcards = true → (s.Literal token ↔ s.Literal other))

def Settings.pathOf (s : Settings) (c : Command σ) : List String :=
  c.route ((Routers.empty s).ofKind c.kind)

/-- Two commands are of the same kind and have the same path, token by token. -/
def Settings.SamePath (s : Settings) (c other : Command σ) : Prop :=
  c.kind = other.kind ∧ List.Forall₂ (s.SameToken c.kind) (s.pathOf c) (s.pathOf other)

/-- Having the same path is symmetric. -/
theorem Settings.SamePath.symm {s : Settings} {c other : Command σ} (h : s.SamePath c other) :
    s.SamePath other c := by
  obtain ⟨hkind, hpath⟩ := h
  refine ⟨hkind.symm, ?_⟩
  rw [← hkind]
  exact hpath.flip.imp fun _ _ hsame => ⟨hsame.1.symm, fun htakes => (hsame.2 htakes).symm⟩

theorem Settings.holdsMarker_iff {s : Settings} {token : String} :
    HoldsMarker s.wildcard token ↔ ¬ s.Literal token := by
  simp [HoldsMarker, Literal]

/-- **Two tokens take the same place** in the router for a kind of command exactly when they are the same. -/
theorem Settings.samePlace_ofToken_iff {s : Settings} {kind : CommandKind} {token other : String} :
    (Segment.ofToken ((Routers.empty s : Routers σ).ofKind kind).marker token).samePlace
        (.ofToken ((Routers.empty s : Routers σ).ofKind kind).marker other) = true ↔
      s.SameToken kind token other := by
  cases hkind : kind.takesWildcards with
  | false =>
    rw [Routers.marker_ofKind_empty_eq_none s hkind, SameToken, hkind]
    simp [Segment.ofToken, Segment.samePlace]
  | true =>
    -- the router for such a kind has the marker of the settings
    have hmarker : ((Routers.empty s : Routers σ).ofKind kind).marker = s.wildcard.filter (!·.isEmpty) := by
      cases kind with
      | slash => cases hkind
      | context target => cases hkind
      | _ => rfl
    rw [hmarker, Segment.samePlace_ofToken_iff, Router.SameToken, SameToken, holdsMarker_iff,
      holdsMarker_iff, not_iff_not, hkind]
    simp only [forall_const]

/-! ## Compatible modules

What is required of modules is said of pairs, so that neither their order nor their numbers matter. -/

/-- Among the modules no type occurs twice, and no two commands have the same path. -/
structure Settings.Compatible (s : Settings) (ms : List (Module σ)) : Prop where
  types_nodup : (ms.map (·.typeName)).Nodup
  paths_differ : (ms.flatMap (·.commands)).Pairwise fun c other => ¬ s.SamePath c other

theorem Settings.compatible_iff {s : Settings} {ms : List (Module σ)} :
    s.Compatible ms ↔ (ms.map (·.typeName)).Nodup ∧
      (ms.flatMap (·.commands)).Pairwise fun c other => ¬ s.SamePath c other :=
  ⟨fun h => ⟨h.types_nodup, h.paths_differ⟩, fun h => ⟨h.1, h.2⟩⟩

theorem Settings.compatible_perm {s : Settings} {ms others : List (Module σ)} (h : ms.Perm others) :
    s.Compatible ms ↔ s.Compatible others := by
  have hsymm : ∀ {c other : Command σ}, ¬ s.SamePath c other → ¬ s.SamePath other c :=
    fun hdiffer hsame => hdiffer hsame.symm
  rw [compatible_iff, compatible_iff, (h.map _).nodup_iff, (h.flatMap_right _).pairwise_iff hsymm]

theorem Settings.compatible_outline {s : Settings} {ms : List (Module σ)} :
    s.Compatible (ms.map Module.outline) ↔ s.Compatible ms := by
  rw [compatible_iff, compatible_iff, Module.map_typeName_outline, Module.flatMap_commands_outline,
    List.pairwise_map]
  rfl

/-- No command has an empty route. -/
theorem Command.route_ne_nil (c : Command σ) (router : Router (Command σ)) : c.route router ≠ [] := by
  have htokenize : c.groupPath ++ router.tokenize c.name ≠ [] :=
    List.append_ne_nil_of_right_ne_nil _ (router.tokenize_ne_nil c.name)
  have hpath : c.path ≠ [] := List.append_ne_nil_of_right_ne_nil _ (List.cons_ne_nil _ _)
  rw [Command.route]
  split
  · exact hpath
  · exact List.cons_ne_nil _ _
  · exact htokenize
  · exact htokenize
  · exact htokenize

/-- Two commands of a kind take the same places in its router exactly when they have the same path. -/
theorem Settings.samePlaces_routeOf_iff {s : Settings} {kind : CommandKind} {c other : Command σ}
    (hc : c.kind = kind) (hother : other.kind = kind) :
    SamePlaces (((Routers.empty s).ofKind kind).routeOf c).segments
        (((Routers.empty s).ofKind kind).routeOf other).segments ↔ s.SamePath c other := by
  subst hc
  rw [SamePath, pathOf, pathOf, hother, SamePlaces, routeOf, routeOf, List.forall₂_map_left_iff,
    List.forall₂_map_right_iff]
  simp only [samePlace_ofToken_iff, true_and]

/-- The routes of a kind can be added to an empty router when no two of them have the same path. -/
theorem Settings.isSome_grow_routesOf_iff {s : Settings} {kind : CommandKind} {cs : List (Command σ)} :
    (Node.empty.grow (((Routers.empty s).ofKind kind).routesOf kind cs)).isSome ↔
      cs.Pairwise fun c other => c.kind = kind → other.kind = kind → ¬ s.SamePath c other := by
  -- nothing is in the way at first, and no route is empty
  have hfree : ∀ r ∈ ((Routers.empty s).ofKind kind).routesOf kind cs, r.segments ≠ [] ∧
      ∀ r' : Route (Command σ), Node.empty.Has r' → ¬ SamePlaces r'.segments r.segments := by
    intro r hr
    obtain ⟨c, _, rfl⟩ := List.mem_map.mp hr
    refine ⟨?_, fun r' hhas => absurd hhas Node.not_has_empty⟩
    rw [routeOf, ne_eq, List.map_eq_nil_iff]
    exact c.route_ne_nil _
  rw [Node.isSome_grow_iff Node.ordered_empty, and_iff_right hfree, routesOf, List.pairwise_map,
    List.pairwise_filter]
  refine List.Pairwise.iff fun c other => ?_
  simp only [decide_eq_true_eq]
  refine forall_congr' fun hc => forall_congr' fun hother => ?_
  rw [samePlaces_routeOf_iff hc hother]

/-- **When modules can be loaded together.** Their types differ, and so do the paths of their commands. -/
theorem Catalog.exists_build_iff_compatible {s : Settings} {roots : List (Module σ)} :
    (∃ catalog, build s roots = .ok catalog) ↔ s.Compatible (Module.forest roots) := by
  rw [exists_build_iff, Settings.compatible_iff]
  refine and_congr_right fun _ => ?_
  -- commands of different kinds never have the same path, so all kinds can be taken together
  simp only [Settings.isSome_grow_routesOf_iff, List.pairwise_iff_forall_sublist]
  constructor
  · intro h c other hsublist hsame
    exact h other.kind hsublist hsame.1 rfl hsame
  · intro h kind c other hsublist _ _
    exact h hsublist

/-! ## Loads one after another

A batch is assembled as a whole and numbered on from the batches before, so two batches can be joined. -/

namespace Dispatcher

/-- Loads batches one after another, up to the first that is refused. -/
def loadAll (d : Dispatcher σ) : List (List (ModuleDecl σ)) → Except LoadError (Dispatcher σ)
  | [] => .ok d
  | decls :: batches => do
    let (_, d') ← d.load decls
    d'.loadAll batches

variable {d d' : Dispatcher σ}

/-- Two batches have as many modules as both together. -/
theorem sizeOfDecls_append (decls more : List (ModuleDecl σ)) :
    sizeOfDecls (decls ++ more) = sizeOfDecls decls + sizeOfDecls more := by
  induction decls with
  | nil => rw [List.nil_append, sizeOfDecls.eq_def [], Nat.zero_add]
  | cons decl decls ih =>
    rw [List.cons_append, sizeOfDecls.eq_def, sizeOfDecls.eq_def (decl :: decls)]
    simp only [ih, Nat.add_assoc]

/-- Two batches assemble together when each does, the second one numbered on. -/
theorem assembleAll_append_eq_ok_iff {table : ConverterTable} {number : Nat}
    {decls more : List (ModuleDecl σ)} {ms : List (Module σ)} :
    assembleAll table number (decls ++ more) = .ok ms ↔
      ∃ first rest, assembleAll table number decls = .ok first ∧
        assembleAll table (number + sizeOfDecls decls) more = .ok rest ∧ ms = first ++ rest := by
  induction decls generalizing number ms with
  | nil =>
    rw [List.nil_append, sizeOfDecls.eq_def [], Nat.add_zero]
    constructor
    · intro h
      exact ⟨[], ms, rfl, h, rfl⟩
    · rintro ⟨first, rest, hfirst, hrest, rfl⟩
      cases hfirst
      exact hrest
  | cons decl decls ih =>
    have hsize : number + sizeOfDecls (decl :: decls) = number + decl.size + sizeOfDecls decls := by
      rw [sizeOfDecls.eq_def (decl :: decls), Nat.add_assoc]
    rw [List.cons_append, hsize]
    simp only [assembleAll, bind_eq_ok_iff, ih]
    constructor
    · rintro ⟨m, hm, _, ⟨first, rest, hfirst, hrest, rfl⟩, heq⟩
      cases heq
      exact ⟨m :: first, rest, ⟨m, hm, first, hfirst, rfl⟩, hrest, rfl⟩
    · rintro ⟨_, rest, ⟨m, hm, first, hfirst, heq⟩, hrest, rfl⟩
      cases heq
      exact ⟨m, hm, first ++ rest, ⟨first, rest, hfirst, hrest, rfl⟩, rfl⟩

/-- **Two batches** are loaded one after the other as if they were one. -/
theorem load_append_eq_ok_iff {decls more : List (ModuleDecl σ)} {ms : List (Module σ)} :
    d.load (decls ++ more) = .ok (ms, d') ↔
      ∃ first between rest, d.load decls = .ok (first, between) ∧ between.load more = .ok (rest, d') ∧
        ms = first ++ rest := by
  -- the second batch is numbered on from the first
  have hnext : d.nextModule + sizeOfDecls (decls ++ more) =
      d.nextModule + sizeOfDecls decls + sizeOfDecls more := by
    rw [sizeOfDecls_append, Nat.add_assoc]
  simp only [load_eq_ok_iff, hnext]
  constructor
  · rintro ⟨hassemble, catalog, hbuild, rfl⟩
    obtain ⟨first, rest, hfirst, hrest, rfl⟩ := assembleAll_append_eq_ok_iff.mp hassemble
    rw [← List.append_assoc] at hbuild
    -- what is accepted together is accepted without the second batch
    obtain ⟨between, hbetween⟩ :=
      Catalog.exists_build_of_sublist (List.sublist_append_left (d.catalog.roots ++ first) rest)
        ⟨_, hbuild⟩
    -- the first batch leaves the roots that the second one is added to
    refine ⟨first, _, rest, ⟨hfirst, between, hbetween, rfl⟩, ⟨hrest, catalog, ?_, rfl⟩, rfl⟩
    rw [← Catalog.roots_of_build hbetween] at hbuild
    exact hbuild
  · rintro ⟨first, _, rest, ⟨hfirst, between, hbetween, rfl⟩, ⟨hrest, catalog, hbuild, rfl⟩, rfl⟩
    refine ⟨assembleAll_append_eq_ok_iff.mpr ⟨first, rest, hfirst, hrest, rfl⟩, catalog, ?_, rfl⟩
    rw [← List.append_assoc, ← Catalog.roots_of_build hbetween]
    exact hbuild

/-- **Batches** are loaded one after another as if they were one. -/
theorem Intact.loadAll_eq_ok_iff (h : d.Intact) {batches : List (List (ModuleDecl σ))} :
    d.loadAll batches = .ok d' ↔ ∃ ms, d.load batches.flatten = .ok (ms, d') := by
  -- on the batches, for every dispatcher that is intact, as the first batch leaves another such one
  induction batches generalizing d with
  | nil =>
    -- loading nothing builds the catalog that is there
    rw [List.flatten_nil, loadAll]
    constructor
    · intro heq
      cases heq
      refine ⟨[], load_eq_ok_iff.mpr ⟨rfl, d'.catalog, ?_, ?_⟩⟩
      · rw [List.append_nil]
        exact h.catalog_eq
      · rw [sizeOfDecls.eq_def]
        rfl
    · rintro ⟨ms, hload⟩
      obtain ⟨hassemble, catalog, hbuild, rfl⟩ := load_eq_ok_iff.mp hload
      cases hassemble
      rw [List.append_nil, h.catalog_eq] at hbuild
      cases hbuild
      rw [sizeOfDecls.eq_def]
      rfl
  | cons decls batches ih =>
    rw [List.flatten_cons]
    simp only [loadAll, bind_eq_ok_iff, load_append_eq_ok_iff]
    constructor
    · -- the first batch leaves an intact dispatcher, and the others are one batch by induction
      rintro ⟨⟨first, between⟩, hfirst, hrest⟩
      obtain ⟨rest, hrest⟩ := (ih (h.load hfirst)).mp hrest
      exact ⟨_, first, between, rest, hfirst, hrest, rfl⟩
    · rintro ⟨_, first, between, rest, hfirst, hrest, rfl⟩
      exact ⟨⟨first, between⟩, hfirst, (ih (h.load hfirst)).mpr ⟨rest, hrest⟩⟩

/-! ## Loads into an empty dispatcher

The declarations assemble one by one, at whatever numbers, and are loaded in some order. -/

section Empty

variable {decls order : List (ModuleDecl σ)} {own : List (Module σ)}

/-- What is assembled for a load is, numbers and order apart, what is assembled on its own. -/
theorem exists_assembleAll_of_perm
    (hown : AssembleAlone d.converters decls own) (horder : order.Perm decls) :
    ∃ ms, assembleAll d.converters d.nextModule order = .ok ms ∧
      ((Module.forest ms).map Module.outline).Perm ((Module.forest own).map Module.outline) := by
  obtain ⟨own', hown', hperm⟩ := List.perm_comp_forall₂ horder hown
  obtain ⟨ms, hassemble, houtlines⟩ := AssembleAlone.exists_assembleAll hown' d.nextModule
  refine ⟨ms, hassemble, ?_⟩
  rw [houtlines]
  exact (Module.forest_perm hperm).map _

/-- What is loaded is what assembles on its own, numbers and order apart. -/
theorem outlines_perm_of_load (hempty : d.catalog.roots = [])
    (hown : AssembleAlone d.converters decls own) (horder : order.Perm decls) {ms : List (Module σ)}
    (hload : d.load order = .ok (ms, d')) :
    (d'.catalog.modules.map Module.outline).Perm ((Module.forest own).map Module.outline) := by
  obtain ⟨_, hassemble, houtlines⟩ := exists_assembleAll_of_perm hown horder
  cases (load_eq_ok_iff.mp hload).1.symm.trans hassemble
  rw [Catalog.modules, roots_of_load hload, hempty, List.nil_append]
  exact houtlines

/-- An empty dispatcher accepts the declarations of compatible modules, and no others. -/
theorem exists_load_iff_compatible (hempty : d.catalog.roots = [])
    (hown : AssembleAlone d.converters decls own) (horder : order.Perm decls) :
    (∃ ms d', d.load order = .ok (ms, d')) ↔ d.settings.Compatible (Module.forest own) := by
  obtain ⟨ms, hassemble, houtlines⟩ := exists_assembleAll_of_perm hown horder
  -- what is assembled for this load has a catalog exactly when the modules on their own are compatible
  have hbuild : (∃ catalog, Catalog.build d.settings ms = .ok catalog) ↔
      d.settings.Compatible (Module.forest own) := by
    rw [Catalog.exists_build_iff_compatible, ← Settings.compatible_outline,
      Settings.compatible_perm houtlines, Settings.compatible_outline]
  rw [← hbuild]
  simp only [load_eq_ok_iff, hempty, List.nil_append]
  constructor
  · rintro ⟨_, _, hassemble', catalog, hcatalog, rfl⟩
    cases hassemble.symm.trans hassemble'
    exact ⟨catalog, hcatalog⟩
  · rintro ⟨catalog, hcatalog⟩
    exact ⟨ms, _, hassemble, catalog, hcatalog, rfl⟩

/-- In whatever batches and whatever order, the declarations of compatible modules are accepted, and no others. -/
theorem Intact.exists_loadAll_iff_compatible (h : d.Intact) (hempty : d.catalog.roots = [])
    (hown : AssembleAlone d.converters decls own)
    {batches : List (List (ModuleDecl σ))} (horder : batches.flatten.Perm decls) :
    (∃ d', d.loadAll batches = .ok d') ↔ d.settings.Compatible (Module.forest own) := by
  rw [← exists_load_iff_compatible hempty hown horder, exists_comm]
  exact exists_congr fun d' => h.loadAll_eq_ok_iff

end Empty

/-! ## Look-up after loads

A slash or menu command is found by its path and by nothing else, which does not depend on when it was loaded. -/

/-- The routers of a dispatcher cut paths as its settings say. -/
theorem Intact.route_eq_pathOf (h : d.Intact) (c : Command σ) :
    c.route (d.catalog.routers.ofKind c.kind) = d.settings.pathOf c := by
  simp only [Settings.pathOf, Command.route, tokenize, h.delimiters_eq]

/-- **Look-up without wildcards does not see the order.** Where the same modules are loaded, numbers apart,
the same commands are found, numbers apart. -/
theorem Intact.exists_find?_of_outlines {d₁ d₂ : Dispatcher σ} (h₁ : d₁.Intact) (h₂ : d₂.Intact)
    (hsettings : d₁.settings = d₂.settings)
    (hsame : d₁.catalog.modules.map Module.outline ⊆ d₂.catalog.modules.map Module.outline)
    {kind : CommandKind} (hkind : kind.takesWildcards = false) {tokens captures : List String}
    {c : Command σ} (hfind : (d₁.catalog.routers.ofKind kind).find? tokens = some (c, captures)) :
    ∃ other, (d₂.catalog.routers.ofKind kind).find? tokens = some (other, captures) ∧
      other.unnumbered = c.unnumbered := by
  obtain ⟨⟨m, hm, hc⟩, rfl, htokens, hcaptures⟩ :=
    (h₁.find?_eq_some_iff_of_not_takesWildcards hkind).mp hfind
  -- a module of the same outline is loaded there, and the same command is among its own
  obtain ⟨m', hm', houtline⟩ := List.mem_map.mp (hsame (List.mem_map_of_mem hm))
  have hmem : c.unnumbered ∈ m'.commands.map (·.unnumbered) := by
    rw [← Module.commands_outline, houtline, Module.commands_outline]
    exact List.mem_map_of_mem hc
  obtain ⟨other, hother, heq⟩ := List.mem_map.mp hmem
  have hotherKind : other.kind = c.kind := congrArg (·.kind) heq
  -- its path is the same, since paths do not depend on numbers
  have hpath : d₂.settings.pathOf other = d₁.settings.pathOf c := by
    have hunnumbered : d₂.settings.pathOf other.unnumbered = d₂.settings.pathOf c.unnumbered := by
      rw [heq]
    rw [hsettings]
    exact hunnumbered
  refine ⟨other, (h₂.find?_eq_some_iff_of_not_takesWildcards hkind).mpr
    ⟨⟨m', hm', hother⟩, hotherKind, ?_, hcaptures⟩, heq⟩
  rw [htokens, h₁.route_eq_pathOf, ← hotherKind, h₂.route_eq_pathOf, hpath]

/-- Where the same modules are loaded, look-ups without wildcards agree, numbers apart. -/
theorem Intact.map_find?_eq_of_outlines {d₁ d₂ : Dispatcher σ} (h₁ : d₁.Intact) (h₂ : d₂.Intact)
    (hsettings : d₁.settings = d₂.settings)
    (hsame : (d₁.catalog.modules.map Module.outline).Perm (d₂.catalog.modules.map Module.outline))
    {kind : CommandKind} (hkind : kind.takesWildcards = false) (tokens : List String) :
    ((d₁.catalog.routers.ofKind kind).find? tokens).map (Prod.map Command.unnumbered id) =
      ((d₂.catalog.routers.ofKind kind).find? tokens).map (Prod.map Command.unnumbered id) := by
  apply Option.ext
  intro answer
  rw [Option.map_eq_some_iff, Option.map_eq_some_iff]
  constructor
  · rintro ⟨⟨c, captures⟩, hfind, rfl⟩
    obtain ⟨other, hother, heq⟩ :=
      h₁.exists_find?_of_outlines h₂ hsettings hsame.subset hkind hfind
    exact ⟨(other, captures), hother, by rw [Prod.map, heq]; rfl⟩
  · rintro ⟨⟨c, captures⟩, hfind, rfl⟩
    obtain ⟨other, hother, heq⟩ :=
      h₂.exists_find?_of_outlines h₁ hsettings.symm hsame.symm.subset hkind hfind
    exact ⟨(other, captures), hother, by rw [Prod.map, heq]; rfl⟩

end Dispatcher

/-- **Loads in any order.** Take any dispatcher that loads and unloads lead to and that has nothing loaded,
whatever its settings and its converters are, and any declarations each of which assembles on its own.

One by one in some order they are all accepted exactly when they are accepted together in some order, and
in whatever batches they come, they are accepted exactly when no type of a module occurs twice in the trees
and no two commands of one kind have the same path. Then slash and menu commands are found by the same
paths in every case, and only the numbers of their modules differ. -/
theorem Reachable.loads_iff_compatible {d : Dispatcher σ} (h : Reachable d)
    (hempty : d.catalog.roots = []) {decls : List (ModuleDecl σ)} {own : List (Module σ)}
    (hown : AssembleAlone d.converters decls own) :
    (∀ order order' : List (ModuleDecl σ), order.Perm decls → order'.Perm decls →
      ((∃ d', d.loadAll (order.map fun decl => [decl]) = .ok d') ↔
        ∃ ms d', d.load order' = .ok (ms, d'))) ∧
    (∀ batches : List (List (ModuleDecl σ)), batches.flatten.Perm decls →
      ((∃ d', d.loadAll batches = .ok d') ↔ d.settings.Compatible (Module.forest own))) ∧
    ∀ (batches batches' : List (List (ModuleDecl σ))) (d₁ d₂ : Dispatcher σ),
      batches.flatten.Perm decls → batches'.flatten.Perm decls →
      d.loadAll batches = .ok d₁ → d.loadAll batches' = .ok d₂ →
      ∀ kind, (kind = .slash ∨ ∃ target, kind = .context target) → ∀ tokens,
        ((d₁.catalog.routers.ofKind kind).find? tokens).map (Prod.map Command.unnumbered id) =
          ((d₂.catalog.routers.ofKind kind).find? tokens).map (Prod.map Command.unnumbered id) := by
  have hintact := h.intact
  refine ⟨?_, ?_, ?_⟩
  · intro order order' horder horder'
    -- one by one is in batches of one
    have hflatten : (order.map fun decl => [decl]).flatten = order := by
      rw [← List.flatMap_def, List.flatMap_singleton']
    rw [Dispatcher.exists_load_iff_compatible hempty hown horder']
    apply hintact.exists_loadAll_iff_compatible hempty hown
    rw [hflatten]
    exact horder
  · intro batches horder
    exact hintact.exists_loadAll_iff_compatible hempty hown horder
  · intro batches batches' d₁ d₂ horder horder' hload hload' kind hkind tokens
    obtain ⟨ms, hload⟩ := hintact.loadAll_eq_ok_iff.mp hload
    obtain ⟨ms', hload'⟩ := hintact.loadAll_eq_ok_iff.mp hload'
    have hsettings : d₁.settings = d₂.settings := by
      obtain ⟨_, _, _, rfl⟩ := Dispatcher.load_eq_ok_iff.mp hload
      obtain ⟨_, _, _, rfl⟩ := Dispatcher.load_eq_ok_iff.mp hload'
      rfl
    -- either way the loaded modules have the outlines of those assembled on their own
    have hsame : (d₁.catalog.modules.map Module.outline).Perm (d₂.catalog.modules.map Module.outline) :=
      (Dispatcher.outlines_perm_of_load hempty hown horder hload).trans
        (Dispatcher.outlines_perm_of_load hempty hown horder' hload').symm
    have hliteral : kind.takesWildcards = false := by
      rcases hkind with rfl | ⟨target, rfl⟩
      · rfl
      · rfl
    exact (hintact.load hload).map_find?_eq_of_outlines (hintact.load hload') hsettings hsame hliteral
      tokens

namespace Sample

/-- Another module with a slash command of the same path. -/
def rival : ModuleDecl Unit :=
  ⟨"host::Rival", "Rival", some ⟨"social", "Being social"⟩, true, [], [hello], [],
    construct "host::Rival"⟩

end Sample

/-- Two modules are accepted one by one in one order, so they are accepted together in the other one, and
the slash command is found as before. A module with a command of the same path is refused in one order, and
so it is in the other one. -/
theorem loads_iff_compatible_greetings :
    (∃ d₁ d₂,
      (Dispatcher.new {} id).loadAll [[Sample.greetings], [Sample.moderation]] = .ok d₁ ∧
      (Dispatcher.new {} id).loadAll [[Sample.moderation, Sample.greetings]] = .ok d₂ ∧
      (d₁.catalog.routers.ofKind .slash).find? ["social", "hello"] =
        some (Sample.greeting Sample.hello, []) ∧
      ((d₂.catalog.routers.ofKind .slash).find? ["social", "hello"]).map
        (Prod.map Command.unnumbered id) = some ((Sample.greeting Sample.hello).unnumbered, [])) ∧
    ¬ ∃ d', (Dispatcher.new {} id).loadAll [[Sample.greetings], [Sample.rival]] = .ok d' := by
  constructor
  · obtain ⟨own, hown⟩ : ∃ own, AssembleAlone .standard [Sample.greetings, Sample.moderation] own :=
      ⟨_, .cons ⟨1, rfl⟩ (.cons ⟨1, rfl⟩ .nil)⟩
    obtain ⟨_, hbatches, hanswers⟩ :=
      Reachable.loads_iff_compatible (Reachable.new ({} : Settings) id) rfl hown
    obtain ⟨d₁, hload, hfound⟩ : ∃ d₁,
        (Dispatcher.new {} id).loadAll [[Sample.greetings], [Sample.moderation]] = .ok d₁ ∧
        (d₁.catalog.routers.ofKind .slash).find? ["social", "hello"] =
          some (Sample.greeting Sample.hello, []) := ⟨_, rfl, rfl⟩
    have horder : [[Sample.moderation, Sample.greetings]].flatten.Perm
        [Sample.greetings, Sample.moderation] := List.Perm.swap _ _ _
    -- one order is accepted, so the modules are compatible, and the other order is accepted, too
    have hcompatible := (hbatches _ (List.Perm.refl _)).mp ⟨d₁, hload⟩
    obtain ⟨d₂, hload'⟩ := (hbatches _ horder).mpr hcompatible
    refine ⟨d₁, d₂, hload, hload', hfound, ?_⟩
    rw [← hanswers _ _ d₁ d₂ (List.Perm.refl _) horder hload hload' .slash (.inl rfl), hfound]
    rfl
  · obtain ⟨own, hown⟩ : ∃ own, AssembleAlone .standard [Sample.greetings, Sample.rival] own :=
      ⟨_, .cons ⟨1, rfl⟩ (.cons ⟨1, rfl⟩ .nil)⟩
    obtain ⟨hbatch, _, _⟩ :=
      Reachable.loads_iff_compatible (Reachable.new ({} : Settings) id) rfl hown
    -- the rival has the route of a command that is there
    have hrefused : (Dispatcher.new {} id).load [Sample.rival, Sample.greetings] =
        .error (.route (.duplicatePath ["social", "hello"])) := rfl
    intro haccepted
    obtain ⟨ms, d', hload⟩ := (hbatch [Sample.greetings, Sample.rival] [Sample.rival, Sample.greetings]
      (List.Perm.refl _) (List.Perm.swap _ _ _)).mp haccepted
    cases hrefused.symm.trans hload

end ChatDispatch
