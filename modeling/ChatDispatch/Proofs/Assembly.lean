import ChatDispatch.Module.Assembly
import ChatDispatch.Proofs.Checked

/-!
# Assembled modules

What a declaration that assembles turns into. Each step of assembly has one lemma that says when it
succeeds and what it then gives; everything else about assembled modules follows from these.

* **`buildModule_eq_ok_iff`**, **`buildCommand_eq_ok_iff`**, … — the steps, taken apart once.
* **`Ownership`** — the place of a module in the tree, with the declarations around it outermost first.
* **`Assembled`** — a command of an assembled tree, with the declarations of the modules around it.
* **`Assembled.modulePreconditions_eq`** — the checks that a command takes over from its modules are
  those declared on the modules around it, outermost first, and no others.
* **`Assembled.converter_eq`** — every parameter holds the converter that the table finds for its type.
-/

namespace ChatDispatch

variable {σ : Type} {table : ConverterTable}

/-! ## The steps of assembly

Each step checks something and makes one piece: a parameter, a command, a module. One lemma for each takes it
apart. -/

theorem ensure_eq_ok_iff {condition : Bool} {e : DeclError} {u : Unit} :
    ensure condition e = .ok u ↔ condition = true := by
  cases condition <;> simp [ensure]

/-- The parameter that a declaration turns into, given its converter. -/
def ParameterDecl.toParameter (decl : ParameterDecl σ) (converter : Converter) : Parameter σ where
  name := decl.name
  description := decl.description.getD decl.name
  type := decl.type
  required := decl.required
  default := decl.default
  variadic := decl.variadic
  choices := decl.choices
  min := decl.min
  max := decl.max
  preconditions := decl.preconditions
  converter := converter
  suggester := decl.suggester

/-- A parameter is built when the table has a converter for its type. -/
theorem buildParameter_eq_ok_iff {decl : ParameterDecl σ} {p : Parameter σ} :
    buildParameter table decl = .ok p ↔
      ∃ converter, table.find? decl.type = some converter ∧ p = decl.toParameter converter := by
  unfold buildParameter
  cases table.find? decl.type with
  | none => simp
  | some converter => simp [ParameterDecl.toParameter, eq_comm]

/-- What is made of the first of several parameters, and of the others after it. -/
theorem exists_of_buildParameters_cons {kind : CommandKind} {command : String} {seen : List String}
    {optional : Bool} {decl : ParameterDecl σ} {decls : List (ParameterDecl σ)} {ps : List (Parameter σ)}
    (h : buildParameters table kind command seen optional (decl :: decls) = .ok ps) :
    checkParameterName kind decl.name = .ok () ∧ Text.lowercase decl.name ∉ seen ∧
      (decl.variadic = true → decls = []) ∧
      ∃ p ps', buildParameter table decl = .ok p ∧
        buildParameters table kind command (Text.lowercase decl.name :: seen)
          (optional || !decl.required) decls = .ok ps' ∧ ps = p :: ps' := by
  simp only [buildParameters, bind_eq_ok_iff] at h
  obtain ⟨_, hname, _, hfresh, _, hlast, _, _, h⟩ := h
  have hfresh : Text.lowercase decl.name ∉ seen := by simpa using ensure_eq_ok_iff.mp hfresh
  -- a variadic parameter has no others after it
  have hlast : decl.variadic = true → decls = [] := by
    intro hvariadic
    simpa [hvariadic] using ensure_eq_ok_iff.mp hlast
  refine ⟨hname, hfresh, hlast, ?_⟩
  -- the rest is the same whether there is a description to check or not
  cases hdescription : decl.description with
  | none =>
    simp only [hdescription, bind_eq_ok_iff] at h
    obtain ⟨_, _, p, hp, ps', hps', heq⟩ := h
    cases heq
    exact ⟨p, ps', hp, hps', rfl⟩
  | some description =>
    simp only [hdescription, bind_eq_ok_iff] at h
    obtain ⟨_, _, p, hp, ps', hps', heq⟩ := h
    cases heq
    exact ⟨p, ps', hp, hps', rfl⟩

/-- The parameters are built from their declarations, one by one. -/
theorem forall₂_of_buildParameters {kind : CommandKind} {command : String} {seen : List String}
    {optional : Bool} {decls : List (ParameterDecl σ)} {ps : List (Parameter σ)}
    (h : buildParameters table kind command seen optional decls = .ok ps) :
    List.Forall₂ (fun decl p => buildParameter table decl = .ok p) decls ps := by
  induction decls generalizing seen optional ps with
  | nil =>
    cases h
    exact .nil
  | cons decl decls ih =>
    obtain ⟨_, _, _, p, ps', hp, hps', rfl⟩ := exists_of_buildParameters_cons h
    exact .cons hp (ih hps')

/-- A parameter that has others after it is not variadic. -/
theorem pairwise_of_buildParameters {kind : CommandKind} {command : String} {seen : List String}
    {optional : Bool} {decls : List (ParameterDecl σ)} {ps : List (Parameter σ)}
    (h : buildParameters table kind command seen optional decls = .ok ps) :
    ps.Pairwise fun p _ => p.variadic = false := by
  induction decls generalizing seen optional ps with
  | nil =>
    cases h
    exact .nil
  | cons decl decls ih =>
    obtain ⟨_, _, hlast, p, ps', hp, hps', rfl⟩ := exists_of_buildParameters_cons h
    obtain ⟨_, _, rfl⟩ := buildParameter_eq_ok_iff.mp hp
    refine .cons (fun q hq => ?_) (ih hps')
    show decl.variadic = false
    cases hvariadic : decl.variadic with
    | false => rfl
    | true =>
      -- then there are no declarations after it, of which `q` could be made
      rw [hlast hvariadic] at hps'
      cases hps'
      cases hq

/-- The command that a declaration turns into, given its handler and its parameters. -/
def CommandDecl.toCommand (decl : CommandDecl σ) (owner : Owner σ) (handler : Handler σ)
    (parameters : List (Parameter σ)) : Command σ where
  name := decl.name
  methodName := decl.methodName.getD (owner.name ++ "." ++ decl.name)
  kind := decl.kind
  description := decl.description
  defaultPermission := decl.defaultPermission
  ignoresGroups := decl.ignoresGroups
  runMode := decl.runMode
  parameters := parameters
  groupPath := if decl.ignoresGroups then [] else owner.groupPath
  moduleId := owner.id
  moduleName := owner.name
  moduleType := owner.typeName
  preconditions := decl.preconditions
  modulePreconditions := owner.preconditions
  construct := owner.construct
  handler := handler

/-- A command is built when its name is valid, its parameters are not too many, it has a handler and
its parameters are built. -/
theorem buildCommand_eq_ok_iff {owner : Owner σ} {decl : CommandDecl σ} {c : Command σ} :
    buildCommand table owner decl = .ok c ↔
      checkCommandName decl.kind decl.name decl.description = .ok () ∧
      (decl.kind ≠ .slash ∨ decl.parameters.length ≤ maxParameters) ∧
      ∃ handler parameters, decl.handler = some handler ∧
        buildParameters table decl.kind decl.name [] false decl.parameters = .ok parameters ∧
        c = decl.toCommand owner handler parameters := by
  simp only [buildCommand, bind_eq_ok_iff, ensure_eq_ok_iff, Bool.or_eq_true, decide_eq_true_eq]
  constructor
  · rintro ⟨_, hname, _, hcount, h⟩
    cases hhandler : decl.handler with
    | none => simp [hhandler] at h
    | some handler =>
      simp only [hhandler, bind_eq_ok_iff] at h
      obtain ⟨parameters, hparameters, heq⟩ := h
      cases heq
      exact ⟨hname, hcount, handler, parameters, rfl, hparameters, rfl⟩
  · rintro ⟨hname, hcount, handler, parameters, hhandler, hparameters, rfl⟩
    refine ⟨(), hname, (), hcount, ?_⟩
    simp only [hhandler, bind_eq_ok_iff]
    exact ⟨parameters, hparameters, rfl⟩

/-- The commands are built from their declarations, one by one. -/
theorem forall₂_of_buildCommands {owner : Owner σ} {seen : List (CommandKind × String)}
    {decls : List (CommandDecl σ)} {cs : List (Command σ)}
    (h : buildCommands table owner seen decls = .ok cs) :
    List.Forall₂ (fun decl c => buildCommand table owner decl = .ok c) decls cs := by
  induction decls generalizing seen cs with
  | nil =>
    cases h
    exact .nil
  | cons decl decls ih =>
    simp only [buildCommands, bind_eq_ok_iff] at h
    obtain ⟨_, _, c, hc, cs', hcs', heq⟩ := h
    cases heq
    exact .cons hc (ih hcs')

/-- What the commands of a declared module take from it. -/
def ModuleDecl.owner (decl : ModuleDecl σ) (number : Nat) (groupPath : List String)
    (around : Surroundings σ) : Owner σ :=
  ⟨⟨number⟩, decl.name, decl.typeName, groupPath, around.preconditions ++ decl.preconditions,
    decl.construct⟩

/-- What the modules below a declared module take over. -/
def ModuleDecl.surroundings (decl : ModuleDecl σ) (number : Nat) (groupPath : List String)
    (around : Surroundings σ) : Surroundings σ :=
  ⟨some ⟨number⟩, groupPath, around.preconditions ++ decl.preconditions⟩

/-- A module is built when its group is valid and its commands and the modules below it are built. -/
theorem buildModule_eq_ok_iff {number : Nat} {around : Surroundings σ} {decl : ModuleDecl σ}
    {m : Module σ} :
    buildModule table number around decl = .ok m ↔
      ∃ groupPath declared submodules,
        checkGroup around.groupPath decl.group = .ok groupPath ∧
        buildCommands table (decl.owner number groupPath around) [] decl.commands = .ok declared ∧
        buildModules table (number + 1) (decl.surroundings number groupPath around) decl.submodules =
          .ok submodules ∧
        m = {
          id := ⟨number⟩
          typeName := decl.typeName
          name := decl.name
          group := decl.group
          defaultPermission := decl.defaultPermission
          parent := around.parent
          groupPath := groupPath
          preconditions := decl.preconditions
          declared := declared
          submodules := submodules } := by
  cases decl
  rw [buildModule.eq_def]
  simp only [bind_eq_ok_iff, ModuleDecl.owner, ModuleDecl.surroundings]
  constructor
  · rintro ⟨groupPath, hgroup, declared, hdeclared, submodules, hsubmodules, heq⟩
    cases heq
    exact ⟨groupPath, declared, submodules, hgroup, hdeclared, hsubmodules, rfl⟩
  · rintro ⟨groupPath, declared, submodules, hgroup, hdeclared, hsubmodules, rfl⟩
    exact ⟨groupPath, hgroup, declared, hdeclared, submodules, hsubmodules, rfl⟩

/-- The submodules are built from their declarations, one by one, at some numbers. -/
theorem forall₂_of_buildModules {number : Nat} {around : Surroundings σ}
    {decls : List (ModuleDecl σ)} {ms : List (Module σ)}
    (h : buildModules table number around decls = .ok ms) :
    List.Forall₂ (fun decl m => ∃ k, buildModule table k around decl = .ok m) decls ms := by
  induction decls generalizing number ms with
  | nil =>
    rw [buildModules.eq_def] at h
    cases h
    exact .nil
  | cons decl decls ih =>
    rw [buildModules.eq_def] at h
    simp only [bind_eq_ok_iff] at h
    obtain ⟨m, hm, ms', hms', heq⟩ := h
    cases heq
    exact .cons ⟨number, hm⟩ (ih hms')

/-- A tree is assembled when it is built and none of its groups is too large. -/
theorem assemble_eq_ok_iff {number : Nat} {decl : ModuleDecl σ} {m : Module σ} :
    assemble table number decl = .ok m ↔
      buildModule table number .none decl = .ok m ∧ checkGroupSizes m.descendants = .ok () := by
  simp only [assemble, bind_eq_ok_iff]
  constructor
  · rintro ⟨m', hbuild, _, hsizes, heq⟩
    cases heq
    exact ⟨hbuild, hsizes⟩
  · rintro ⟨hbuild, hsizes⟩
    exact ⟨m, hbuild, (), hsizes, rfl⟩

/-! ## Places in the tree

The tree of declarations and the tree of modules are walked together. -/

/-- `Ownership decl root chain m`: going down from the declaration `decl` and the module `root` side
by side leads to the module `m`, through the declarations `chain`, outermost first. The last of them
is the declaration of `m` itself. -/
inductive Ownership : ModuleDecl σ → Module σ → List (ModuleDecl σ) → Module σ → Prop where
  | here (decl : ModuleDecl σ) (root : Module σ) : Ownership decl root [decl] root
  | inside {decl : ModuleDecl σ} {root : Module σ} {i : Nat} {d : ModuleDecl σ} {s : Module σ}
      {chain : List (ModuleDecl σ)} {m : Module σ}
      (hdecl : decl.submodules[i]? = some d) (hroot : root.submodules[i]? = some s)
      (rest : Ownership d s chain m) : Ownership decl root (decl :: chain) m

/-- A command of a tree that assembles, with the declarations of the modules around it, outermost
first. -/
inductive Assembled (table : ConverterTable) : List (ModuleDecl σ) → Command σ → Prop where
  | intro {number : Nat} {decl : ModuleDecl σ} {root m : Module σ} {chain : List (ModuleDecl σ)}
      {command : Command σ} (hbuilt : assemble table number decl = .ok root)
      (howned : Ownership decl root chain m) (hdeclared : command ∈ m.declared) :
      Assembled table chain command

theorem Module.forest_eq_flatMap (ms : List (Module σ)) :
    Module.forest ms = ms.flatMap Module.descendants := by
  induction ms with
  | nil => rw [Module.forest.eq_def]; rfl
  | cons m ms ih => rw [Module.forest.eq_def, List.flatMap_cons, ← ih]

/-- A module of a tree is its root or below one of its submodules. -/
theorem Module.mem_descendants_iff {m root : Module σ} :
    m ∈ root.descendants ↔ m = root ∨ ∃ s ∈ root.submodules, m ∈ s.descendants := by
  cases root
  rw [Module.descendants.eq_def]
  simp only [List.mem_cons, Module.forest_eq_flatMap, List.mem_flatMap]

/-- Every module of a tree that is built has a place in it. -/
theorem exists_ownership {number : Nat} {around : Surroundings σ} {decl : ModuleDecl σ}
    {root m : Module σ} (h : buildModule table number around decl = .ok root)
    (hm : m ∈ root.descendants) : ∃ chain, Ownership decl root chain m := by
  rcases Module.mem_descendants_iff.mp hm with rfl | ⟨s, hs, hms⟩
  · exact ⟨_, .here decl m⟩
  · obtain ⟨groupPath, declared, submodules, _, _, hsubmodules, rfl⟩ := buildModule_eq_ok_iff.mp h
    have hcorresponds := forall₂_of_buildModules hsubmodules
    -- the declaration of a submodule stands at the same position
    obtain ⟨i, hi⟩ := List.mem_iff_getElem?.mp hs
    obtain ⟨d, hd, k, hk⟩ := forall₂_getElem? hcorresponds.flip hi
    obtain ⟨chain, hchain⟩ := exists_ownership hk hms
    exact ⟨decl :: chain, .inside hd hi hchain⟩
termination_by sizeOf decl
decreasing_by
  have hlt : sizeOf d < sizeOf decl.submodules :=
    List.sizeOf_lt_of_mem (List.mem_of_getElem? hd)
  cases decl
  simp only [ModuleDecl.mk.sizeOf_spec] at hlt ⊢
  omega

/-- Every command of a tree that assembles is an assembled command. -/
theorem exists_assembled {number : Nat} {decl : ModuleDecl σ} {root m : Module σ}
    {command : Command σ} (hbuilt : assemble table number decl = .ok root)
    (hm : m ∈ root.descendants) (hdeclared : command ∈ m.declared) :
    ∃ chain, Assembled table chain command := by
  obtain ⟨chain, howned⟩ := exists_ownership (assemble_eq_ok_iff.mp hbuilt).1 hm
  exact ⟨chain, .intro hbuilt howned hdeclared⟩

/-! ## What a command takes over

Checks are handed down from module to module, and a command takes over what has been handed down to its own. -/

/-- A module with a place in a tree that is built is itself built, with the checks of the modules
around it in front of its own. -/
theorem Ownership.exists_buildModule {number : Nat} {around : Surroundings σ} {decl : ModuleDecl σ}
    {root m : Module σ} {chain : List (ModuleDecl σ)} (howned : Ownership decl root chain m)
    (h : buildModule table number around decl = .ok root) :
    ∃ k surroundings d, buildModule table k surroundings d = .ok m ∧
      surroundings.preconditions ++ d.preconditions =
        around.preconditions ++ chain.flatMap (·.preconditions) := by
  induction howned generalizing number around with
  | here decl root => exact ⟨number, around, decl, h, by simp⟩
  | inside hdecl hroot _ ih =>
    obtain ⟨groupPath, declared, submodules, _, _, hsubmodules, rfl⟩ := buildModule_eq_ok_iff.mp h
    -- the next module on the way was built with the checks of this one added
    obtain ⟨s, hs, k, hk⟩ := forall₂_getElem? (forall₂_of_buildModules hsubmodules) hdecl
    cases hroot.symm.trans hs
    obtain ⟨k', surroundings, d, hbuild, hchain⟩ := ih hk
    refine ⟨k', surroundings, d, hbuild, ?_⟩
    rw [hchain, ModuleDecl.surroundings, List.flatMap_cons, List.append_assoc]

/-- An assembled command is built from a declaration by the module that declares it, whose checks are
those of all modules around the command. -/
theorem Assembled.exists_buildCommand {chain : List (ModuleDecl σ)} {command : Command σ}
    (h : Assembled table chain command) :
    ∃ owner decl, buildCommand table owner decl = .ok command ∧
      owner.preconditions = chain.flatMap (·.preconditions) := by
  obtain ⟨hbuilt, howned, hdeclared⟩ := h
  obtain ⟨k, surroundings, d, hbuild, hchain⟩ :=
    howned.exists_buildModule (assemble_eq_ok_iff.mp hbuilt).1
  obtain ⟨groupPath, declared, submodules, _, hcommands, _, rfl⟩ := buildModule_eq_ok_iff.mp hbuild
  obtain ⟨decl, _, hcommand⟩ := forall₂_mem_right (forall₂_of_buildCommands hcommands) hdeclared
  exact ⟨_, decl, hcommand, hchain⟩

/-- **The checks that a command takes over** are those declared on the modules around it, outermost
first. -/
theorem Assembled.modulePreconditions_eq {chain : List (ModuleDecl σ)} {command : Command σ}
    (h : Assembled table chain command) :
    command.modulePreconditions = chain.flatMap (·.preconditions) := by
  obtain ⟨owner, decl, hcommand, hchain⟩ := h.exists_buildCommand
  obtain ⟨_, _, handler, parameters, _, _, rfl⟩ := buildCommand_eq_ok_iff.mp hcommand
  exact hchain

/-- **The converter of a parameter** is the one that the table finds for its type. -/
theorem Assembled.converter_eq {chain : List (ModuleDecl σ)} {command : Command σ}
    {p : Parameter σ} (h : Assembled table chain command) (hp : p ∈ command.parameters) :
    table.find? p.type = some p.converter := by
  obtain ⟨owner, decl, hcommand, _⟩ := h.exists_buildCommand
  obtain ⟨_, _, handler, parameters, _, hparameters, rfl⟩ := buildCommand_eq_ok_iff.mp hcommand
  obtain ⟨d, _, hd⟩ := forall₂_mem_right (forall₂_of_buildParameters hparameters) hp
  obtain ⟨converter, hfind, rfl⟩ := buildParameter_eq_ok_iff.mp hd
  exact hfind

/-- **A variadic parameter is the last one.** -/
theorem Assembled.variadic_last {chain : List (ModuleDecl σ)} {command : Command σ}
    (h : Assembled table chain command) : command.parameters.Pairwise fun p _ => p.variadic = false := by
  obtain ⟨owner, decl, hcommand, _⟩ := h.exists_buildCommand
  obtain ⟨_, _, handler, parameters, _, hparameters, rfl⟩ := buildCommand_eq_ok_iff.mp hcommand
  exact pairwise_of_buildParameters hparameters

/-! ## A tree with two levels

A module whose staff may use it inside a guild, and below it one that takes further staff. Statements
about assembled commands are tried on its only command. -/

namespace Sample

/-- Lets one user pass, under a label. -/
def staff (user : UInt64) : Precondition Unit where
  label := some "staff"
  check context _ _ := pure <|
    if context.interaction.user.id.value = user then .ok () else .error "not on the staff"

def count : ParameterDecl Unit where
  name := "count"
  type := .integer .i64
  min := some 1
  max := some 10

def handler : Handler Unit := fun _ _ => pure (.returned .completed)

def purgeDecl : CommandDecl Unit where
  kind := .component
  name := "purge"
  parameters := [count]
  handler := some handler

def construct (typeName : String) : Constructor Unit := fun _ =>
  pure (.returned ⟨typeName, fun _ _ => pure (.returned ()), fun _ _ _ => pure (.returned ()), []⟩)

def cleanup : ModuleDecl Unit :=
  ⟨"host::Cleanup", "Cleanup", none, true, [staff 2], [purgeDecl], [], construct "host::Cleanup"⟩

def moderation : ModuleDecl Unit :=
  ⟨"host::Moderation", "Moderation", none, true, [.require .guild, staff 1], [], [cleanup],
    construct "host::Moderation"⟩

def purge : Command Unit :=
  purgeDecl.toCommand (cleanup.owner 2 [] ⟨some ⟨1⟩, [], moderation.preconditions⟩) handler
    [count.toParameter .integer]

theorem assembled_purge : Assembled .standard [moderation, cleanup] purge :=
  .intro (show assemble .standard 1 moderation = .ok _ from rfl)
    (.inside (i := 0) rfl rfl (.here _ _)) List.mem_cons_self

/-- A user presses the button of the command, inside a guild or outside of one. -/
def press (user : UInt64) (guild : Option EntityId) : Context :=
  ⟨⟨⟨1⟩, ⟨⟨user⟩, "ada"⟩, guild, none, .component ⟨"purge", []⟩⟩, none⟩

end Sample

end ChatDispatch
