import ChatDispatch.Proofs.ModuleTree

/-!
# The tree of modules and the tree of declarations

A tree of declarations that assembles becomes a tree of modules of the same form. What a module and its
commands take over from the modules around them is known from the declarations alone.

* **`CommandDecl.Makes`**, **`ModuleDecl.Makes`** — what is made of one declaration, given the declarations
  around it.
* **`Mirrors`** — the two trees side by side, module for module.
* **`makes_of_buildModule`** — one level of assembly, and **`mirrors_of_buildModule`**, all levels below it.
* **`assemble_mirrors`** — the headline, for the tree of a root.
-/

namespace ChatDispatch

variable {σ : Type} {table : ConverterTable}

/-! ## What is made of a declaration

Two relations between what is declared and what is built, for a command and for a module. Neither mentions how
assembly goes about it. -/

/-- The names of the groups along a chain of declarations around one another, outermost first. -/
def groupNames (chain : List (ModuleDecl σ)) : List String :=
  chain.filterMap fun d => d.group.map (·.name)

/-- The lists that a module keeps its commands in. -/
inductive Listing where
  | slash
  | context
  | component
  | modal
  | autocomplete
deriving DecidableEq

def CommandKind.listing : CommandKind → Listing
  | .slash => .slash
  | .context _ => .context
  | .component => .component
  | .modal => .modal
  | .autocomplete => .autocomplete

def Module.listed (m : Module σ) : Listing → List (Command σ)
  | .slash => m.slashCommands
  | .context => m.contextCommands
  | .component => m.componentCommands
  | .modal => m.modalCommands
  | .autocomplete => m.autocompleteCommands

/-- `decl.Makes chain owner c`: the command `c` of the module `owner` is what `decl` says. `chain` are the
declarations of the modules around it, outermost first, that of `owner` being the last. -/
structure CommandDecl.Makes (decl : CommandDecl σ) (chain : List (ModuleDecl σ)) (owner : ModuleId)
    (c : Command σ) : Prop where
  name_eq : c.name = decl.name
  kind_eq : c.kind = decl.kind
  handler_eq : decl.handler = some c.handler
  moduleId_eq : c.moduleId = owner
  preconditions_eq : c.preconditions = decl.preconditions
  modulePreconditions_eq : c.modulePreconditions = chain.flatMap (·.preconditions)
  groupPath_eq : c.groupPath = if decl.ignoresGroups then [] else groupNames chain
  isTopLevel_iff : c.isTopLevel = true ↔ decl.ignoresGroups = true ∨ ∀ d ∈ chain, d.group = none

/-- `decl.Makes above parent m`: the module `m` is what `decl` says below the declarations `above`, outermost
first, when the module around it is `parent`. -/
structure ModuleDecl.Makes (decl : ModuleDecl σ) (above : List (ModuleDecl σ)) (parent : Option ModuleId)
    (m : Module σ) : Prop where
  typeName_eq : m.typeName = decl.typeName
  name_eq : m.name = decl.name
  group_eq : m.group = decl.group
  preconditions_eq : m.preconditions = decl.preconditions
  parent_eq : m.parent = parent
  groupPath_eq : m.groupPath = groupNames (above ++ [decl])
  isTopLevelGroup_iff : m.isTopLevelGroup = true ↔ decl.group ≠ none ∧ ∀ d ∈ above, d.group = none
  /-- Each list holds what is made of the declarations of its kind, in their order. -/
  listed : ∀ l : Listing, List.Forall₂ (fun d c => d.Makes (above ++ [decl]) m.id c)
    (decl.commands.filter (·.kind.listing = l)) (m.listed l)

mutual

/-- `Mirrors above parent decl m`: the module `m` is made of `decl`, and so are the modules below it, one for
each declaration below `decl` and in the same order, each of which has `m` as its parent. -/
inductive Mirrors : List (ModuleDecl σ) → Option ModuleId → ModuleDecl σ → Module σ → Prop where
  | node {above : List (ModuleDecl σ)} {parent : Option ModuleId} {decl : ModuleDecl σ} {m : Module σ}
      (own : decl.Makes above parent m)
      (below : MirrorsAll (above ++ [decl]) (some m.id) decl.submodules m.submodules) :
      Mirrors above parent decl m

/-- The same for modules side by side. -/
inductive MirrorsAll : List (ModuleDecl σ) → Option ModuleId → List (ModuleDecl σ) → List (Module σ) → Prop where
  | nil {above : List (ModuleDecl σ)} {parent : Option ModuleId} : MirrorsAll above parent [] []
  | cons {above : List (ModuleDecl σ)} {parent : Option ModuleId} {decl : ModuleDecl σ} {m : Module σ}
      {decls : List (ModuleDecl σ)} {ms : List (Module σ)} (head : Mirrors above parent decl m)
      (tail : MirrorsAll above parent decls ms) : MirrorsAll above parent (decl :: decls) (m :: ms)

end

/-! ## Groups along a chain

A module that declares a group adds its name to the groups around it, and one that declares none adds nothing. -/

theorem groupNames_append (chain others : List (ModuleDecl σ)) :
    groupNames (chain ++ others) = groupNames chain ++ groupNames others :=
  List.filterMap_append

/-- One module adds the name of its group, if it declares one. -/
theorem groupNames_singleton (decl : ModuleDecl σ) :
    groupNames [decl] = (decl.group.map (·.name)).toList := by
  cases hgroup : decl.group with
  | none => simp [groupNames, hgroup]
  | some group => simp [groupNames, hgroup]

/-- There are no groups along a chain exactly when no module in it declares one. -/
theorem groupNames_eq_nil_iff {chain : List (ModuleDecl σ)} :
    groupNames chain = [] ↔ ∀ d ∈ chain, d.group = none := by
  simp [groupNames, List.filterMap_eq_nil_iff]

/-- A group that is accepted adds its name to the groups around it. -/
theorem path_of_checkGroup {around path : List String} {group : Option Group}
    (h : checkGroup around group = .ok path) : path = around ++ (group.map (·.name)).toList := by
  cases group with
  | none =>
    cases h
    exact (List.append_nil _).symm
  | some group =>
    simp only [checkGroup, bind_eq_ok_iff] at h
    obtain ⟨_, _, _, _, _, _, heq⟩ := h
    cases heq
    rfl

/-! ## Commands

Commands are filed by kind in lists of their module, and each is made of one declaration. -/

/-- Each list holds the declared commands of some kinds, in the order of declaration. -/
theorem Module.listed_eq_filter (m : Module σ) (l : Listing) :
    m.listed l = m.declared.filter (·.kind.listing = l) := by
  have hkinds : ∀ c : Command σ, c.kind.listing = .context ↔
      c.kind = .context .user ∨ c.kind = .context .message := by
    intro c
    rcases c.kind with _ | (_ | _) | _ | _ | _ <;> simp [CommandKind.listing]
  cases l with
  | context => simp only [listed, contextCommands, hkinds]
  | slash | component | modal | autocomplete =>
    refine List.filter_congr fun c _ => ?_
    rcases c.kind with _ | (_ | _) | _ | _ | _ <;> rfl

/-- A command that is built is made of its declaration, if the owner passes on the groups and the checks of the
chain. -/
theorem makes_of_buildCommand {owner : Owner σ} {decl : CommandDecl σ} {c : Command σ}
    (chain : List (ModuleDecl σ)) (h : buildCommand table owner decl = .ok c)
    (hgroups : owner.groupPath = groupNames chain)
    (hpreconditions : owner.preconditions = chain.flatMap (·.preconditions)) :
    decl.Makes chain owner.id c := by
  obtain ⟨_, _, handler, parameters, hhandler, _, rfl⟩ := buildCommand_eq_ok_iff.mp h
  have hpath : (decl.toCommand owner handler parameters).groupPath =
      if decl.ignoresGroups then [] else groupNames chain := by
    rw [← hgroups]
    rfl
  refine ⟨rfl, rfl, hhandler, rfl, rfl, hpreconditions, hpath, ?_⟩
  -- no group is left when the command ignores them, or when there is none along the chain
  rw [CommandSpec.isTopLevel, List.isEmpty_iff, hpath, ← groupNames_eq_nil_iff]
  split
  · simp_all
  · simp_all

/-! ## Modules

One level of assembly says how the surroundings of the modules below come about. The induction over the
declarations then follows these surroundings down. -/

/-- **One level of assembly.** Where the groups and the checks around a module are those of the declarations
`above`, what is made of `decl` is known from `above` and `decl`. -/
theorem makes_of_buildModule {above : List (ModuleDecl σ)} {number : Nat} {around : Surroundings σ}
    {decl : ModuleDecl σ} {m : Module σ} (h : buildModule table number around decl = .ok m)
    (hgroups : around.groupPath = groupNames above)
    (hpreconditions : around.preconditions = above.flatMap (·.preconditions)) :
    decl.Makes above around.parent m := by
  obtain ⟨groupPath, declared, submodules, hgroup, hdeclared, _, rfl⟩ := buildModule_eq_ok_iff.mp h
  have hpath : groupPath = groupNames (above ++ [decl]) := by
    rw [path_of_checkGroup hgroup, hgroups, groupNames_append, groupNames_singleton]
  refine ⟨rfl, rfl, rfl, rfl, rfl, hpath, ?_, fun l => ?_⟩
  · -- its own group is the only one exactly when no group stands around it
    rw [Module.isTopLevelGroup, hpath, groupNames_append, groupNames_singleton, ← groupNames_eq_nil_iff]
    cases hown : decl.group with
    | none => simp
    | some group => simp
  · have hcommands := (forall₂_of_buildCommands hdeclared).imp fun d c hc =>
      makes_of_buildCommand (above ++ [decl]) hc hpath (by
        rw [List.flatMap_append, List.flatMap_singleton, ← hpreconditions]
        rfl)
    rw [Module.listed_eq_filter]
    refine List.rel_filter (fun d c hc => ?_) hcommands
    simp only [hc.kind_eq]

mutual

/-- **Assembly keeps the trees side by side**, level by level. -/
theorem mirrors_of_buildModule (above : List (ModuleDecl σ)) {number : Nat} {around : Surroundings σ}
    {decl : ModuleDecl σ} {m : Module σ} (h : buildModule table number around decl = .ok m)
    (hgroups : around.groupPath = groupNames above)
    (hpreconditions : around.preconditions = above.flatMap (·.preconditions)) :
    Mirrors above around.parent decl m := by
  have hmakes := makes_of_buildModule h hgroups hpreconditions
  obtain ⟨groupPath, declared, submodules, _, _, hsubmodules, rfl⟩ := buildModule_eq_ok_iff.mp h
  -- the modules below take over the groups and the checks of the whole chain
  have hbelow := mirrorsAll_of_buildModules (above ++ [decl]) hsubmodules hmakes.groupPath_eq (by
    rw [ModuleDecl.surroundings, List.flatMap_append, List.flatMap_singleton, hpreconditions])
  exact .node hmakes hbelow
termination_by sizeOf decl
decreasing_by
  cases decl
  simp only [ModuleDecl.mk.sizeOf_spec]
  omega

/-- Declarations side by side become modules side by side. -/
theorem mirrorsAll_of_buildModules (above : List (ModuleDecl σ)) {number : Nat} {around : Surroundings σ}
    {decls : List (ModuleDecl σ)} {ms : List (Module σ)}
    (h : buildModules table number around decls = .ok ms)
    (hgroups : around.groupPath = groupNames above)
    (hpreconditions : around.preconditions = above.flatMap (·.preconditions)) :
    MirrorsAll above around.parent decls ms := by
  cases decls with
  | nil =>
    rw [buildModules.eq_def] at h
    cases h
    exact .nil
  | cons decl decls =>
    rw [buildModules.eq_def] at h
    simp only [bind_eq_ok_iff] at h
    obtain ⟨m, hm, ms', hms', heq⟩ := h
    cases heq
    exact .cons (mirrors_of_buildModule above hm hgroups hpreconditions)
      (mirrorsAll_of_buildModules above hms' hgroups hpreconditions)
termination_by sizeOf decls

end

/-- **The tree of modules mirrors the tree of declarations.** When a declaration assembles, the module made of
it and all modules below it correspond to the declarations, one to one and in the same nesting and order. Each
has the parent, the groups, the commands and the inherited checks that follow from the declarations on its
way down from the root. -/
theorem assemble_mirrors {number : Nat} {decl : ModuleDecl σ} {root : Module σ}
    (h : assemble table number decl = .ok root) : Mirrors [] none decl root :=
  mirrors_of_buildModule [] (assemble_eq_ok_iff.mp h).1 rfl rfl

namespace Sample

/-- Takes what is asked for in a group, or next to it. -/
def about (name : String) (ignoresGroups : Bool) : CommandDecl Unit where
  kind := .slash
  name := name
  description := some "About the library"
  ignoresGroups := ignoresGroups
  handler := some handler

def shelves : ModuleDecl Unit :=
  ⟨"host::Shelves", "Shelves", some ⟨"shelf", "One shelf"⟩, true, [staff 1],
    [about "add" false, purgeDecl, about "help" true], [], construct "host::Shelves"⟩

def library : ModuleDecl Unit :=
  ⟨"host::Library", "Library", some ⟨"library", "All shelves"⟩, true, [.require .guild],
    [about "find" false], [shelves, cleanup], construct "host::Library"⟩

end Sample

/-- Two groups around one another, and a module without one beside the inner of them. -/
theorem assemble_mirrors_library :
    ∃ root, assemble .standard 1 Sample.library = .ok root ∧ Mirrors [] none Sample.library root :=
  ⟨_, rfl, assemble_mirrors (show assemble .standard 1 Sample.library = .ok _ from rfl)⟩

end ChatDispatch
