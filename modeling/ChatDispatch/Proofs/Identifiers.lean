import ChatDispatch.Proofs.Registration
import ChatDispatch.Proofs.Splitting

/-!
# Identifiers of components and forms

A component or a form is looked up by one identifier, which is cut at the delimiters. Its command is
registered under the pieces of its name below its groups, and groups are not cut. This module says which
commands have an identifier at all.

* **`Settings.Literal`** — the wildcard marker does not occur in a token.
* **`Settings.Spells`** — groups can be written in front of a name, as pieces of an identifier.
* **`Dispatcher.Intact.find?_eq_some_iff_literal`** — a command with a literal route is found by the tokens
  of its path, up to case, and by no others.
* **`Router.exists_tokenize_iff`** — the tokens that identifiers have.
* **`Reachable.exists_id_iff`** — the headline: a literal command for components or forms can be reached
  exactly when its groups can be written.
-/

namespace ChatDispatch

/-- The token is taken literally: the wildcard marker does not occur in it. An empty marker is none. -/
def Settings.Literal (s : Settings) (token : String) : Prop :=
  ∀ marker, s.wildcard = some marker → marker ≠ "" → ¬ marker.toList <:+: token.toList

/-- The groups can be written in an identifier: there are none, or identifiers are cut and each group is
the same, up to case, as a text without delimiters. -/
def Settings.Spells (s : Settings) (groups : List String) : Prop :=
  groups = [] ∨ s.delimiters ≠ [] ∧ ∀ group ∈ groups, ∃ piece : String,
    Text.lowercase piece = Text.lowercase group ∧ ∀ c ∈ piece.toList, c ∉ s.delimiters

namespace Router

variable {α : Type}

/-! ## Literal routes

A literal route has one exact segment for each token, so it fits one list of tokens up to case. -/

/-- The route that takes every token of a path literally. -/
def literalRoute (path : List String) : List Segment :=
  path.map fun token => .exact (Text.lowercase token)

/-- A literal route fits its own tokens, up to case, and no others. -/
theorem fits_literalRoute_iff {path tokens : List String} {command : α} :
    (⟨literalRoute path, command⟩ : Route α).Fits tokens ↔
      tokens.map Text.lowercase = path.map Text.lowercase := by
  rw [Route.Fits, literalRoute, List.forall₂_map_left_iff]
  induction path generalizing tokens with
  | nil => simp [List.forall₂_nil_left_iff]
  | cons token path ih =>
    cases tokens with
    | nil => simp
    | cons other tokens => rw [List.forall₂_cons, ih, List.map_cons, List.map_cons, List.cons.injEq]; rfl

/-- What takes the places of a literal route is the same route. -/
theorem SamePlaces.eq_literalRoute {segments : List Segment} {path : List String}
    (h : SamePlaces segments (literalRoute path)) : segments = literalRoute path := by
  induction path generalizing segments with
  | nil =>
    cases h
    rfl
  | cons token path ih =>
    obtain ⟨s, rest, hs, hrest, rfl⟩ := List.forall₂_cons_right_iff.mp h
    rw [ih hrest]
    have hexact := Segment.eq_of_samePlace_of_isExact (Segment.samePlace_symm hs) rfl
    rw [← hexact]
    rfl

/-- A literal route captures nothing. -/
theorem captured_literalRoute (path tokens : List String) (command : α) :
    (⟨literalRoute path, command⟩ : Route α).captured tokens = [] := by
  rw [Route.captured, List.flatMap_eq_nil_iff]
  intro pair hpair
  have hsegment : pair.1 ∈ literalRoute path := (List.of_mem_zip hpair).1
  obtain ⟨_, _, hexact⟩ := List.mem_map.mp hsegment
  show pair.1.captured pair.2 = []
  rw [← hexact]
  rfl

/-- A command whose only route is literal is found by the tokens of its path, up to case, and by no
others. Nothing is captured. -/
theorem Node.find?_eq_some_iff_literal {node : Node α} (hordered : node.Ordered) {path : List String}
    {command : α} (hhas : node.Has ⟨literalRoute path, command⟩)
    (honly : ∀ r, node.Has r → r.command = command → r.segments = literalRoute path)
    (tokens captures : List String) :
    node.find? tokens = some (command, captures) ↔
      tokens.map Text.lowercase = path.map Text.lowercase ∧ captures = [] := by
  constructor
  · intro hfind
    obtain ⟨⟨segments, other⟩, hother, hfits, rfl, hcaptured⟩ := exists_of_find? hfind
    cases honly _ hother rfl
    exact ⟨fits_literalRoute_iff.mp hfits,
      hcaptured.symm.trans (captured_literalRoute path tokens other)⟩
  · rintro ⟨heq, rfl⟩
    -- the tokens have the same literal route, under which the command is found
    have hsame : literalRoute path = literalRoute tokens := by
      have hexact := congrArg (List.map Segment.exact) heq.symm
      rw [List.map_map, List.map_map] at hexact
      exact hexact
    rw [hsame] at hhas
    exact find?_of_has_exact hordered hhas

/-! ## Tokens of identifiers

Identifiers are cut at all delimiters. A piece without delimiters can be put in front of any identifier, and no
other piece can. -/

/-- A piece without delimiters can be written in front of an identifier. -/
theorem tokenize_cons {router : Router α} {d : Char} (hd : d ∈ router.delimiters) {piece : String}
    (hpiece : ∀ c ∈ piece.toList, c ∉ router.delimiters) (id : String) :
    router.tokenize (String.ofList (piece.toList ++ d :: id.toList)) = piece :: router.tokenize id := by
  have hne : router.delimiters.isEmpty = false := by
    rw [List.isEmpty_eq_false_iff]
    exact List.ne_nil_of_mem hd
  have hcut : router.delimiters.contains d = true := List.contains_iff_mem.mpr hd
  -- the piece is not cut
  have hwhole : Text.splitChars (router.delimiters.contains ·) piece.toList = [piece.toList] := by
    apply Text.splitChars_eq_singleton
    intro c hc
    simpa using hpiece c hc
  rw [tokenize, hne, tokenize, hne]
  simp only [Bool.false_eq_true, if_false, String.toList_ofList]
  rw [Text.splitChars_append_cons hcut, hwhole, List.map_append, List.map_singleton,
    String.ofList_toList]
  rfl

/-- No token of an identifier holds a delimiter. -/
theorem notMem_of_mem_tokenize {router : Router α} (hdelimiters : router.delimiters ≠ [])
    {id token : String} (htoken : token ∈ router.tokenize id) {c : Char} (hc : c ∈ token.toList) :
    c ∉ router.delimiters := by
  rw [tokenize, if_neg (by simpa using hdelimiters)] at htoken
  obtain ⟨piece, hpiece, rfl⟩ := List.mem_map.mp htoken
  rw [String.toList_ofList] at hc
  simpa using Text.eq_false_of_mem_splitChars hpiece hc

theorem tokenize_ne_nil (router : Router α) (id : String) : router.tokenize id ≠ [] := by
  rw [tokenize]
  split
  · exact List.cons_ne_nil _ _
  · simpa using Text.splitChars_ne_nil _ _

/-- **The tokens that identifiers have.** Groups in front of a name are tokens of an identifier, up to
case, when there are none or each of them can be written without a delimiter. -/
theorem exists_tokenize_iff {router : Router α} {settings : Settings}
    (hdelimiters : router.delimiters = settings.delimiters) (groups : List String) (name : String) :
    (∃ id, (router.tokenize id).map Text.lowercase =
        (groups ++ router.tokenize name).map Text.lowercase) ↔ settings.Spells groups := by
  rw [Settings.Spells, ← hdelimiters]
  constructor
  · rintro ⟨id, htokens⟩
    rw [or_iff_not_imp_left]
    intro hgroups
    have hne : router.delimiters ≠ [] := by
      intro hnil
      -- an identifier that is not cut is one token, too few for a group and a name
      have hlength := congrArg List.length htokens
      have hname := List.length_pos_of_ne_nil (router.tokenize_ne_nil name)
      have hgroup := List.length_pos_of_ne_nil hgroups
      rw [tokenize, hnil, List.isEmpty_nil, if_pos rfl, List.length_map, List.length_map,
        List.length_append, List.length_singleton] at hlength
      omega
    -- each group is a token of the identifier, up to case
    refine ⟨hne, ?_⟩
    intro group hgroup
    have hmem : Text.lowercase group ∈ (router.tokenize id).map Text.lowercase := by
      rw [htokens]
      exact List.mem_map_of_mem (List.mem_append_left _ hgroup)
    obtain ⟨token, htoken, heq⟩ := List.mem_map.mp hmem
    exact ⟨token, heq, fun c hc => notMem_of_mem_tokenize hne htoken hc⟩
  · rintro (rfl | ⟨hne, hpieces⟩)
    · exact ⟨name, rfl⟩
    · obtain ⟨d, hd⟩ := List.exists_mem_of_ne_nil _ hne
      induction groups with
      | nil => exact ⟨name, rfl⟩
      | cons group groups ih =>
        -- the groups are written in front one after another, with a delimiter behind each
        obtain ⟨piece, heq, hpiece⟩ := hpieces group List.mem_cons_self
        obtain ⟨id, hid⟩ := ih fun g hg => hpieces g (List.mem_cons_of_mem _ hg)
        refine ⟨String.ofList (piece.toList ++ d :: id.toList), ?_⟩
        rw [tokenize_cons hd hpiece, List.map_cons, hid, heq, List.cons_append, List.map_cons]

end Router

/-! ## Loaded commands

A command without markers has a literal route, whatever its kind. -/

variable {σ : Type}

open Router

/-- A router has the marker of the settings or none. -/
theorem Routers.marker_ofKind_empty (settings : Settings) (kind : CommandKind) {marker : String}
    (h : ((Routers.empty settings : Routers σ).ofKind kind).marker = some marker) :
    settings.wildcard = some marker ∧ marker ≠ "" := by
  have hsettings : settings.wildcard.filter (!·.isEmpty) = some marker := by
    rcases kind with _ | (_ | _) | _ | _ | _
    all_goals first | exact h | cases h
  simpa [Option.filter_eq_some_iff] using hsettings

/-- A token without wildcard markers names itself, whatever the kind of command. -/
theorem Settings.Literal.ofToken_eq {settings : Settings} {token : String}
    (h : settings.Literal token) (kind : CommandKind) :
    Segment.ofToken ((Routers.empty settings : Routers σ).ofKind kind).marker token =
      .exact (Text.lowercase token) := by
  cases hmarker : ((Routers.empty settings : Routers σ).ofKind kind).marker with
  | none => rfl
  | some marker =>
    obtain ⟨hwildcard, hne⟩ := Routers.marker_ofKind_empty settings kind hmarker
    exact Segment.ofToken_eq_exact hne (h marker hwildcard hne)

namespace Dispatcher

variable {d : Dispatcher σ}

/-- **A loaded command with a literal route** is found by the tokens of its path, up to case, and by no
others. -/
theorem Intact.find?_eq_some_iff_literal (h : d.Intact) {c : Command σ} (hloaded : d.Loaded c)
    {path : List String}
    (hsegments : ((d.catalog.routers.ofKind c.kind).routeOf c).segments = literalRoute path)
    (tokens captures : List String) :
    (d.catalog.routers.ofKind c.kind).find? tokens = some (c, captures) ↔
      tokens.map Text.lowercase = path.map Text.lowercase ∧ captures = [] := by
  have hgrow := h.grow_routes c.kind
  have hmem : (d.catalog.routers.ofKind c.kind).routeOf c ∈ d.routes c.kind :=
    mem_routesIn_iff.mpr ⟨c, hloaded, rfl, rfl⟩
  apply Node.find?_eq_some_iff_literal (Node.ordered_grow Node.ordered_empty hgrow)
  · obtain ⟨⟨segments, other⟩, hhas, hcommand, hsame⟩ :=
      Node.exists_has_grow Node.ordered_empty hgrow hmem
    rw [hsegments] at hsame
    have hother : other = c := hcommand
    rw [hother] at hhas
    rw [← hsame.eq_literalRoute]
    exact hhas
  · -- no other route of the tree is for this command
    intro r hhas hcommand
    rcases Node.exists_mem_of_has_grow Node.ordered_empty hgrow hhas with hempty | ⟨r', hr', heq, hsame⟩
    · exact absurd hempty Node.not_has_empty
    · -- the route was added for the same command
      obtain ⟨c', _, _, rfl⟩ := mem_routesIn_iff.mp hr'
      obtain rfl : c' = c := heq.symm.trans hcommand
      rw [hsegments] at hsame
      exact hsame.eq_literalRoute

/-- A command without wildcard markers is found by the tokens of its path, up to case, and by no others. -/
theorem Intact.map_find?_eq_some_iff (h : d.Intact) {c : Command σ} {m : Module σ}
    (hm : m ∈ d.catalog.modules) (hc : c ∈ m.commands)
    (hliteral : ∀ token ∈ c.route (d.catalog.routers.ofKind c.kind), d.settings.Literal token)
    (tokens : List String) :
    ((d.catalog.routers.ofKind c.kind).find? tokens).map (·.1) = some c ↔
      tokens.map Text.lowercase =
        (c.route (d.catalog.routers.ofKind c.kind)).map Text.lowercase := by
  -- no token holds the marker, so all segments are exact
  have hsegments : ((d.catalog.routers.ofKind c.kind).routeOf c).segments =
      literalRoute (c.route (d.catalog.routers.ofKind c.kind)) := by
    rw [routeOf, h.marker_eq, literalRoute, List.map_inj_left]
    intro token htoken
    exact (hliteral token htoken).ofToken_eq c.kind
  have hfind := h.find?_eq_some_iff_literal ⟨m, hm, hc⟩ hsegments tokens
  constructor
  · intro hfound
    obtain ⟨⟨_, captures⟩, hsome, rfl⟩ := Option.map_eq_some_iff.mp hfound
    exact ((hfind captures).mp hsome).1
  · intro htokens
    rw [(hfind []).mpr ⟨htokens, rfl⟩]
    rfl

/-- A command among those for components, or among those for forms, has an identifier exactly when its groups can
be written. -/
theorem Intact.exists_findId?_iff (h : d.Intact) {kind : CommandKind} (hkind : kind = .component ∨ kind = .modal)
    {c : Command σ} (hc : c ∈ d.catalog.modules.flatMap fun m => m.declared.filter (·.kind = kind))
    (hliteral : ∀ token ∈ c.groupPath ++ (d.catalog.routers.ofKind kind).tokenize c.name,
      d.settings.Literal token) :
    (∃ id, ((d.catalog.routers.ofKind kind).findId? id).map (·.1) = some c) ↔
      d.settings.Spells c.groupPath := by
  obtain ⟨m, hm, hmem⟩ := List.mem_flatMap.mp hc
  obtain ⟨hdeclared, hown⟩ := List.mem_filter.mp hmem
  obtain rfl : c.kind = kind := of_decide_eq_true hown
  have hroute : c.route (d.catalog.routers.ofKind c.kind) =
      c.groupPath ++ (d.catalog.routers.ofKind c.kind).tokenize c.name := by
    rcases hkind with hkind | hkind <;> rw [Command.route, hkind]
  rw [← hroute] at hliteral
  -- identifiers are cut at the delimiters of the settings, for either kind
  have hdelimiters : (d.catalog.routers.ofKind c.kind).delimiters = d.settings.delimiters := by
    rw [h.delimiters_eq]
    rcases hkind with hkind | hkind <;> rw [hkind] <;> rfl
  simp only [findId?, h.map_find?_eq_some_iff hm (Module.mem_commands_iff.mpr hdeclared) hliteral, hroute]
  exact exists_tokenize_iff hdelimiters _ _

end Dispatcher

/-- **Which commands can be reached.** Take any settings, any dispatcher that loads and unloads lead to,
and any loaded command for components, or for forms, none of whose tokens holds the wildcard marker. It
has an identifier exactly when it stands under no group, or identifiers are cut and each of its groups
can be written without a delimiter. -/
theorem Reachable.exists_id_iff {d : Dispatcher σ} (h : Reachable d) (c : Command σ) :
    (c ∈ d.componentCommands →
      (∀ token ∈ c.groupPath ++ d.catalog.routers.component.tokenize c.name,
        d.settings.Literal token) →
      ((∃ id, (d.findComponent? id).map (·.1) = some c) ↔ d.settings.Spells c.groupPath)) ∧
    (c ∈ d.modalCommands →
      (∀ token ∈ c.groupPath ++ d.catalog.routers.modal.tokenize c.name, d.settings.Literal token) →
      ((∃ id, (d.findModal? id).map (·.1) = some c) ↔ d.settings.Spells c.groupPath)) := by
  constructor
  · intro hc hliteral
    exact h.intact.exists_findId?_iff (.inl rfl) hc hliteral
  · intro hc hliteral
    exact h.intact.exists_findId?_iff (.inr rfl) hc hliteral

namespace Sample

def confirmDecl : CommandDecl Unit where
  kind := .component
  name := "confirm"
  handler := some handler

def administration : ModuleDecl Unit :=
  ⟨"host::Administration", "Administration", some ⟨"admin", "Administration"⟩, true, [],
    [confirmDecl], [], construct "host::Administration"⟩

/-- A dispatcher that has loaded a module with a group, and cuts identifiers at the delimiters. -/
def administered (delimiters : List Char) : Dispatcher Unit :=
  ((Dispatcher.new { delimiters := delimiters } id).change (.load [administration])).2

theorem reachable_administered (delimiters : List Char) : Reachable (administered delimiters) :=
  (Reachable.new { delimiters := delimiters } id).change _

def confirm : Command Unit :=
  confirmDecl.toCommand (administration.owner 1 ["admin"] .none) handler []

end Sample

/-- The command below a group is accepted in both cases, and can be reached only if identifiers are cut. -/
theorem exists_id_confirm :
    Sample.confirm ∈ (Sample.administered [':']).componentCommands ∧
    (∃ id, ((Sample.administered [':']).findComponent? id).map (·.1) = some Sample.confirm) ∧
    Sample.confirm ∈ (Sample.administered []).componentCommands ∧
    ¬ ∃ id, ((Sample.administered []).findComponent? id).map (·.1) = some Sample.confirm := by
  have hliteral : ∀ settings : Settings, settings.wildcard = some "*" →
      ∀ token ∈ ["admin", "confirm"], settings.Literal token := by
    intro settings hwildcard token htoken marker hmarker _
    cases hwildcard.symm.trans hmarker
    revert token
    decide
  have hcut : Sample.confirm ∈ (Sample.administered [':']).componentCommands := List.mem_cons_self
  have hwhole : Sample.confirm ∈ (Sample.administered []).componentCommands := List.mem_cons_self
  refine ⟨hcut, ?_, hwhole, ?_⟩
  · refine ((Reachable.exists_id_iff (Sample.reachable_administered [':']) Sample.confirm).1 hcut
      (hliteral _ rfl)).mpr (.inr ⟨List.cons_ne_nil _ _, ?_⟩)
    -- the name of the group has no delimiter in it
    have hpiece : ∀ c ∈ "admin".toList, c ∉ [':'] := by simp
    intro group hgroup
    cases List.mem_singleton.mp hgroup
    exact ⟨"admin", rfl, hpiece⟩
  · rw [(Reachable.exists_id_iff (Sample.reachable_administered []) Sample.confirm).1 hwhole
      (hliteral _ rfl)]
    -- without delimiters an identifier is one token, which two names cannot be
    rintro (hnone | ⟨hdelimiters, _⟩)
    · cases hnone
    · exact hdelimiters rfl

end ChatDispatch
