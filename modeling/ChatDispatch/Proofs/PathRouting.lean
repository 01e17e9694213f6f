import ChatDispatch.Proofs.Destinations
import ChatDispatch.Proofs.Identifiers
import ChatDispatch.Proofs.Naming
import ChatDispatch.Proofs.Unloading

/-!
# Routing by paths

Slash commands are typed as a path, and menu commands are picked by their name. Neither has wildcards, so
what an interaction leads to can be read off the loaded commands.

* **`CommandKind.takesWildcards`** — the kinds of commands whose names may hold wildcards.
* **`Dispatcher.Intact.find?_eq_some_iff_of_not_takesWildcards`** — what a router without wildcards finds.
* **`Dispatcher.Intact.not_loaded_of_unload`** — the commands below a root that is unloaded are gone.
* **`Reachable.route_eq_loaded`** — the headline: slash and menu commands are routed to by their own path,
  and only those that are loaded.
-/

namespace ChatDispatch

open Router

variable {σ : Type}

/-! ## Kinds without wildcards

The routers for slash and menu commands have no marker, so each of their segments stands for itself and captures
nothing. -/

/-- Whether the wildcard marker means something in the names of such commands. -/
def CommandKind.takesWildcards : CommandKind → Bool
  | .slash | .context _ => false
  | .component | .autocomplete | .modal => true

/-- Kinds without wildcards have routers without a marker, from the beginning on. -/
theorem Routers.marker_ofKind_empty_eq_none (settings : Settings) {kind : CommandKind}
    (hkind : kind.takesWildcards = false) :
    ((empty settings : Routers σ).ofKind kind).marker = none := by
  cases kind with
  | slash => rfl
  | context target =>
    cases target with
    | user => rfl
    | message => rfl
  | component => cases hkind
  | autocomplete => cases hkind
  | modal => cases hkind

/-- The kind of the commands in the menus of users or of messages is that of their invocations. -/
def MenuTarget.invocationKind : MenuTarget → InvocationKind
  | .user => .user
  | .message => .message

namespace Dispatcher

variable {d : Dispatcher σ}

/-- The slash commands of a dispatcher are the loaded commands of this kind. -/
theorem mem_slashCommands_iff {c : Command σ} :
    c ∈ d.slashCommands ↔ d.Loaded c ∧ c.kind = .slash := by
  simp only [slashCommands, Module.slashCommands, Loaded, List.mem_flatMap, List.mem_filter,
    Module.mem_commands_iff, decide_eq_true_eq, ← and_assoc, exists_and_right]

/-- The menu commands are those of the two kinds for menus. -/
theorem mem_contextCommands_iff {c : Command σ} :
    c ∈ d.contextCommands ↔ d.Loaded c ∧ ∃ target, c.kind = .context target := by
  have htarget : (c.kind = .context .user ∨ c.kind = .context .message) ↔
      ∃ target, c.kind = .context target := by
    constructor
    · rintro (hkind | hkind)
      · exact ⟨_, hkind⟩
      · exact ⟨_, hkind⟩
    · rintro ⟨_ | _, hkind⟩
      · exact .inl hkind
      · exact .inr hkind
  simp only [contextCommands, Module.contextCommands, Loaded, List.mem_flatMap, List.mem_filter,
    Module.mem_commands_iff, decide_eq_true_eq, htarget, ← and_assoc, exists_and_right]

/-- **What a router without wildcards finds**: the loaded command of its kind that has the tokens as its
path, up to case. Nothing is captured. -/
theorem Intact.find?_eq_some_iff_of_not_takesWildcards (h : d.Intact) {kind : CommandKind}
    (hkind : kind.takesWildcards = false) {tokens captures : List String} {c : Command σ} :
    (d.catalog.routers.ofKind kind).find? tokens = some (c, captures) ↔
      d.Loaded c ∧ c.kind = kind ∧
        tokens.map Text.lowercase =
          (c.route (d.catalog.routers.ofKind kind)).map Text.lowercase ∧ captures = [] := by
  have hsegments : ∀ c : Command σ, ((d.catalog.routers.ofKind kind).routeOf c).segments =
      literalRoute (c.route (d.catalog.routers.ofKind kind)) := by
    intro c
    rw [routeOf, h.marker_eq, Routers.marker_ofKind_empty_eq_none d.settings hkind]
    rfl
  constructor
  · intro hfind
    obtain ⟨hloaded, hc⟩ := h.loaded_of_find? hfind
    subst hc
    exact ⟨hloaded, rfl,
      (h.find?_eq_some_iff_literal hloaded (hsegments c) tokens captures).mp hfind⟩
  · rintro ⟨hloaded, rfl, hpath⟩
    exact (h.find?_eq_some_iff_literal hloaded (hsegments c) tokens captures).mpr hpath

/-! ## What is no longer loaded

Numbers of modules tell what is below a root from what stays. -/

/-- **The commands of a root that is unloaded are gone**, those of the modules below it included. They
name their module, and no module that stays has its number. -/
theorem Intact.not_loaded_of_unload {d' : Dispatcher σ} (h : d.Intact) {id : ModuleId} {root m : Module σ}
    (hunload : d.unload id = .ok (root, d')) (hm : m ∈ root.descendants) {c : Command σ}
    (hc : c ∈ m.commands) : ¬ d'.Loaded c := by
  obtain ⟨hfind, -⟩ := unload_eq_ok_iff.mp hunload
  have hroot : root ∈ d.catalog.roots := List.mem_of_find?_eq_some hfind
  have hid : root.id = id := by simpa using List.find?_some hfind
  obtain ⟨front, back, hroots⟩ := List.append_of_mem hroot
  have hmodules : d'.catalog.modules = Module.forest (front ++ back) := by
    rw [Catalog.modules, roots_of_unload hunload, ← hid, h.filter_roots_eq hroots]
  -- the command names the module that declares it, which would be one that stays and one that does not
  intro hloaded
  obtain ⟨other, hother, hcother⟩ := hloaded
  have hmodule : m ∈ d.catalog.modules := by
    rw [Catalog.modules, Module.forest_eq_flatMap]
    exact List.mem_flatMap.mpr ⟨root, hroot, hm⟩
  have hown : c.moduleId = m.id := (h.built hmodule).moduleId_eq (Module.mem_commands_iff.mp hc)
  have hnamed : c.moduleId = other.id :=
    ((h.unload hunload).built hother).moduleId_eq (Module.mem_commands_iff.mp hcother)
  rw [hmodules] at hother
  exact h.id_ne_of_mem_forest hroots other hother m hm (hnamed.symm.trans hown)

/-! ## Typed and picked commands

An interaction for a slash command brings a path of names along, one for a menu command its name and what it was
picked on. -/

/-- A menu command is found by its name. -/
theorem Intact.route_eq_command_iff_of_target (h : d.Intact) {target : MenuTarget} {data : Invocation}
    (htarget : data.kind = target.invocationKind) {c : Command σ} {captures : List String} :
    d.route (.command data) = .command c captures ↔
      c ∈ d.contextCommands ∧ c.kind = .context target ∧
        Text.lowercase data.name = Text.lowercase c.name ∧ captures = [] := by
  have hkind : (Payload.command data).commandKind = .context target := by
    rw [Payload.commandKind, htarget]
    cases target with
    | user => rfl
    | message => rfl
  have htokens : d.routingTokens (.command data) = [data.name] := by
    rw [routingTokens, htarget]
    cases target with
    | user => rfl
    | message => rfl
  -- the router for menus has no wildcards, so a route is a name
  rw [route_eq_command_iff, hkind, htokens, h.find?_eq_some_iff_of_not_takesWildcards rfl,
    mem_contextCommands_iff]
  constructor
  · rintro ⟨hloaded, hc, hname, hcaptures⟩
    rw [Command.route, hc] at hname
    exact ⟨⟨hloaded, target, hc⟩, hc, List.singleton_inj.mp hname, hcaptures⟩
  · rintro ⟨⟨hloaded, _⟩, hc, hname, hcaptures⟩
    refine ⟨hloaded, hc, ?_, hcaptures⟩
    rw [Command.route, hc]
    exact List.singleton_inj.mpr hname

end Dispatcher

/-- A slash command is found by its groups and its name, which are in lower case. -/
theorem Reachable.findSlash?_eq_some_iff {d : Dispatcher σ} (h : Reachable d) {tokens captures : List String}
    {c : Command σ} :
    d.findSlash? tokens = some (c, captures) ↔
      c ∈ d.slashCommands ∧ tokens.map Text.lowercase = c.groupPath ++ [c.name] ∧ captures = [] := by
  show (d.catalog.routers.ofKind .slash).find? tokens = _ ↔ _
  rw [h.intact.find?_eq_some_iff_of_not_takesWildcards rfl, Dispatcher.mem_slashCommands_iff, and_assoc]
  refine and_congr_right ?_
  intro hloaded
  obtain ⟨m, hm, hc⟩ := hloaded
  refine and_congr_right fun hkind => ?_
  have hroute : c.route (d.catalog.routers.ofKind .slash) = c.path := by
    rw [Command.route, hkind]
  rw [hroute, h.lowercase_path hm hc hkind]
  rfl

/-- **Slash and menu commands are routed to by their own path.** Take any dispatcher that loads and unloads
lead to.

A slash command is found by the tokens that are its groups and its name in lower case, if it is loaded,
and by no others. What is picked from the menu of a user or of a message goes to the loaded command for
this menu that has the same name up to case, and to no other. Nothing is captured.

So every loaded slash command has exactly one path up to case, and every loaded menu command exactly one
name. When a root is unloaded, no interaction leads any longer to its commands or to those below it. -/
theorem Reachable.route_eq_loaded {d : Dispatcher σ} (h : Reachable d) :
    (∀ tokens c captures, d.findSlash? tokens = some (c, captures) ↔
      c ∈ d.slashCommands ∧ tokens.map Text.lowercase = c.groupPath ++ [c.name] ∧ captures = []) ∧
    (∀ (target : MenuTarget) (data : Invocation) c captures, data.kind = target.invocationKind →
      (d.route (.command data) = .command c captures ↔
        c ∈ d.contextCommands ∧ c.kind = .context target ∧
          Text.lowercase data.name = Text.lowercase c.name ∧ captures = [])) ∧
    (∀ c ∈ d.slashCommands, ∃ path : List String, ∀ tokens,
      (∃ captures, d.findSlash? tokens = some (c, captures)) ↔
        tokens.map Text.lowercase = path.map Text.lowercase) ∧
    (∀ c ∈ d.contextCommands, ∃ (target : MenuTarget) (name : String), ∀ data : Invocation,
      data.kind = target.invocationKind → ((∃ captures, d.route (.command data) = .command c captures) ↔
        Text.lowercase data.name = Text.lowercase name)) ∧
    ∀ id root d', d.unload id = .ok (root, d') → ∀ m ∈ root.descendants, ∀ c ∈ m.commands,
      (∀ tokens captures, d'.findSlash? tokens ≠ some (c, captures)) ∧
      ∀ payload captures, d'.route payload ≠ .command c captures := by
  have hintact := h.intact
  refine ⟨?_, ?_, ?_, ?_, ?_⟩
  · intro tokens c captures
    exact h.findSlash?_eq_some_iff
  · intro target data c captures htarget
    exact hintact.route_eq_command_iff_of_target htarget
  · intro c hc
    obtain ⟨⟨m, hm, hmem⟩, hkind⟩ := Dispatcher.mem_slashCommands_iff.mp hc
    -- the path is the one of the command itself
    refine ⟨c.path, fun tokens => ?_⟩
    rw [h.lowercase_path hm hmem hkind]
    constructor
    · rintro ⟨captures, hfind⟩
      exact (h.findSlash?_eq_some_iff.mp hfind).2.1
    · intro htokens
      exact ⟨[], h.findSlash?_eq_some_iff.mpr ⟨hc, htokens, rfl⟩⟩
  · intro c hc
    obtain ⟨_, target, hkind⟩ := Dispatcher.mem_contextCommands_iff.mp hc
    refine ⟨target, c.name, fun data htarget => ?_⟩
    have hroute : ∀ captures, d.route (.command data) = .command c captures ↔ _ :=
      fun captures => hintact.route_eq_command_iff_of_target htarget
    constructor
    · rintro ⟨captures, hfound⟩
      exact ((hroute captures).mp hfound).2.2.1
    · intro hname
      exact ⟨[], (hroute []).mpr ⟨hc, hkind, hname, rfl⟩⟩
  · intro id root d' hunload m hm c hc
    -- what a router finds is loaded, and these commands are not any more
    have hgone := hintact.not_loaded_of_unload hunload hm hc
    have hintact' := hintact.unload hunload
    constructor
    · intro tokens captures hfind
      have hfind : (d'.catalog.routers.ofKind .slash).find? tokens = some (c, captures) := hfind
      exact hgone (hintact'.loaded_of_find? hfind).1
    · intro payload captures hroute
      exact hgone (hintact'.loaded_of_find? (Dispatcher.route_eq_command_iff.mp hroute)).1

namespace Sample

def hello : CommandDecl Unit where
  kind := .slash
  name := "hello"
  description := some "Says hello"
  handler := some handler

def wave : CommandDecl Unit where
  kind := .context .user
  name := "Wave"
  handler := some handler

/-- A group with a slash command and a command in the menu of users. -/
def greetings : ModuleDecl Unit :=
  ⟨"host::Greetings", "Greetings", some ⟨"social", "Being social"⟩, true, [], [hello, wave], [],
    construct "host::Greetings"⟩

def greeted : Dispatcher Unit := ((Dispatcher.new {} id).change (.load [greetings])).2

theorem reachable_greeted : Reachable greeted := (Reachable.new {} id).change _

/-- The command as it is loaded from the group. -/
def greeting (decl : CommandDecl Unit) : Command Unit :=
  decl.toCommand (greetings.owner 1 ["social"] .none) handler []

end Sample

/-- Both commands are found in any case, the one by its group and its name, the other by its name alone.
After an unload the path leads nowhere. -/
theorem route_eq_loaded_greeted :
    Reachable Sample.greeted ∧
    Sample.greeted.slashCommands = [Sample.greeting Sample.hello] ∧
    Sample.greeted.contextCommands = [Sample.greeting Sample.wave] ∧
    Sample.greeted.findSlash? ["Social", "HELLO"] = some (Sample.greeting Sample.hello, []) ∧
    Sample.greeted.findSlash? ["hello"] ≠ some (Sample.greeting Sample.hello, []) ∧
    Sample.greeted.route (.command ⟨"WAVE", .user, [], none⟩) =
      .command (Sample.greeting Sample.wave) [] ∧
    ∃ root d', Sample.greeted.unload ⟨1⟩ = .ok (root, d') ∧
      d'.findSlash? ["social", "hello"] ≠ some (Sample.greeting Sample.hello, []) := by
  obtain ⟨hslash, hmenu, _, _, hgone⟩ := Reachable.route_eq_loaded Sample.reachable_greeted
  refine ⟨Sample.reachable_greeted, rfl, rfl, ?_, ?_, ?_, _, _, rfl, ?_⟩
  · exact (hslash _ _ _).mpr ⟨List.mem_cons_self, by decide, rfl⟩
  · intro hfind
    -- the name alone is not the path
    have hpath : ["hello"] = ["social", "hello"] := ((hslash _ _ _).mp hfind).2.1
    exact absurd hpath (by decide)
  · -- menu commands are compared without regard to case
    have hname : Text.lowercase "WAVE" = Text.lowercase "Wave" := by decide
    exact (hmenu .user _ _ _ rfl).mpr ⟨List.mem_cons_self, rfl, hname, rfl⟩
  · exact (hgone ⟨1⟩ _ _ rfl _ List.mem_cons_self _ List.mem_cons_self).1 _ _

end ChatDispatch
