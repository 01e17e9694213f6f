import ChatDispatch.Proofs.Loading

/-!
# Numbers of modules

Modules are numbered while they are assembled, from wherever the numbering has got to. Whether a declaration
assembles, and what comes out of it, depends on the number in one way only: identifiers hold it.

* **`Command.unnumbered`**, **`Module.outline`** — a command and a module without their numbers.
* **`exists_buildModule_renumbered`** — a declaration that can be built can be built under any number, and
  the outlines stay the same.
* **`exists_assemble_renumbered`**, **`AssembleAlone.exists_assembleAll`** — the same for assembly, of one
  declaration and of several in a row.
-/

namespace ChatDispatch

variable {σ : Type} {table : ConverterTable}

/-! ## Outlines

Two modules that differ in numbers only have the same outline. Whatever is checked about groups, types and routes
can be read off outlines. -/

/-- The command as one of another module. -/
def Command.inModule (c : Command σ) (id : ModuleId) : Command σ := { c with moduleId := id }

/-- The command without the number of its module. -/
def Command.unnumbered (c : Command σ) : Command σ := c.inModule ⟨0⟩

namespace Module

/-- The module alone: without its number, and without the modules around it and below it. -/
def outline (m : Module σ) : Module σ where
  id := ⟨0⟩
  typeName := m.typeName
  name := m.name
  group := m.group
  defaultPermission := m.defaultPermission
  parent := none
  groupPath := m.groupPath
  preconditions := m.preconditions
  declared := m.declared.map (·.unnumbered)
  submodules := []

/-- The outline has the same slash commands but for the number in each. -/
theorem slashCommands_outline (m : Module σ) :
    m.outline.slashCommands = m.slashCommands.map (·.unnumbered) := by
  rw [slashCommands, outline, List.filter_map]
  rfl

theorem commands_outline (m : Module σ) : m.outline.commands = m.commands.map (·.unnumbered) := by
  simp only [commands, slashCommands, contextCommands, componentCommands, modalCommands,
    autocompleteCommands, outline, List.filter_map, List.map_append]
  rfl

theorem map_typeName_outline (ms : List (Module σ)) :
    (ms.map outline).map (·.typeName) = ms.map (·.typeName) := by
  rw [List.map_map]
  rfl

/-- The commands of several modules are those of their outlines but for the numbers. -/
theorem flatMap_commands_outline (ms : List (Module σ)) :
    (ms.map outline).flatMap (·.commands) = (ms.flatMap (·.commands)).map (·.unnumbered) := by
  simp only [List.flatMap_map, List.map_flatMap, commands_outline]

/-- The sizes of groups depend on the outlines only. -/
theorem checkGroupSizes_outline (ms : List (Module σ)) :
    checkGroupSizes (ms.map outline) = checkGroupSizes ms := by
  have hentries : ((ms.map outline).flatMap (·.slashCommands)).flatMap (fun c => pathEntries c.path) =
      (ms.flatMap (·.slashCommands)).flatMap fun c => pathEntries c.path := by
    simp only [List.flatMap_map, List.flatMap_assoc, slashCommands_outline]
    rfl
  rw [checkGroupSizes, checkGroupSizes, hentries]

end Module

/-! ## Building under another number

Numbers are handed out while modules are built, and are written down but never looked at. -/

/-- A command that can be built can be built for a module of any number. -/
theorem buildCommand_inModule {owner : Owner σ} {decl : CommandDecl σ} {c : Command σ}
    (h : buildCommand table owner decl = .ok c) (id : ModuleId) :
    buildCommand table { owner with id := id } decl = .ok (c.inModule id) := by
  obtain ⟨hname, hcount, handler, parameters, hhandler, hparameters, rfl⟩ := buildCommand_eq_ok_iff.mp h
  exact buildCommand_eq_ok_iff.mpr
    ⟨hname, hcount, handler, parameters, hhandler, hparameters, rfl⟩

/-- So can all commands of a module. -/
theorem buildCommands_inModule {owner : Owner σ} {seen : List (CommandKind × String)}
    {decls : List (CommandDecl σ)} {cs : List (Command σ)}
    (h : buildCommands table owner seen decls = .ok cs) (id : ModuleId) :
    buildCommands table { owner with id := id } seen decls = .ok (cs.map (·.inModule id)) := by
  induction decls generalizing seen cs with
  | nil =>
    cases h
    rfl
  | cons decl decls ih =>
    simp only [buildCommands, bind_eq_ok_iff] at h ⊢
    obtain ⟨_, hfresh, c, hc, cs', hcs', heq⟩ := h
    cases heq
    exact ⟨_, hfresh, _, buildCommand_inModule hc id, _, ih hcs', rfl⟩

mutual

/-- **A declaration that can be built** can be built under any number and below any parent, and its
modules have the same outlines. -/
theorem exists_buildModule_renumbered {number : Nat} {around : Surroundings σ} {decl : ModuleDecl σ}
    {m : Module σ} (h : buildModule table number around decl = .ok m) (number' : Nat)
    (parent' : Option ModuleId) :
    ∃ m', buildModule table number' { around with parent := parent' } decl = .ok m' ∧
      m'.descendants.map Module.outline = m.descendants.map Module.outline := by
  obtain ⟨path, declared, submodules, hgroup, hdeclared, hsubmodules, rfl⟩ := buildModule_eq_ok_iff.mp h
  obtain ⟨below, hbelow, houtlines⟩ :=
    exists_buildModules_renumbered hsubmodules (number' + 1) (some ⟨number'⟩)
  have hcommands := buildCommands_inModule hdeclared ⟨number'⟩
  refine ⟨_, buildModule_eq_ok_iff.mpr ⟨path, _, below, hgroup, hcommands, hbelow, rfl⟩, ?_⟩
  rw [Module.descendants.eq_def, Module.descendants.eq_def, List.map_cons, List.map_cons, houtlines]
  have hown : ∀ c : Command σ, (c.inModule ⟨number'⟩).unnumbered = c.unnumbered := fun _ => rfl
  simp only [Module.outline, List.map_map, Function.comp_def, hown]
termination_by sizeOf decl
decreasing_by
  cases decl
  simp only [ModuleDecl.mk.sizeOf_spec]
  omega

/-- Declarations side by side can be built under any numbers. -/
theorem exists_buildModules_renumbered {number : Nat} {around : Surroundings σ}
    {decls : List (ModuleDecl σ)} {ms : List (Module σ)}
    (h : buildModules table number around decls = .ok ms) (number' : Nat)
    (parent' : Option ModuleId) :
    ∃ ms', buildModules table number' { around with parent := parent' } decls = .ok ms' ∧
      (Module.forest ms').map Module.outline = (Module.forest ms).map Module.outline := by
  cases decls with
  | nil =>
    rw [buildModules.eq_def] at h
    cases h
    exact ⟨[], by rw [buildModules.eq_def], rfl⟩
  | cons decl decls =>
    rw [buildModules.eq_def] at h
    simp only [bind_eq_ok_iff] at h
    obtain ⟨m, hm, ms', hms', heq⟩ := h
    cases heq
    obtain ⟨first, hfirst, hfirstOutlines⟩ := exists_buildModule_renumbered hm number' parent'
    obtain ⟨rest, hrest, hrestOutlines⟩ :=
      exists_buildModules_renumbered hms' (number' + decl.size) parent'
    refine ⟨first :: rest, ?_, ?_⟩
    · rw [buildModules.eq_def]
      simp only [bind_eq_ok_iff]
      exact ⟨first, hfirst, rest, hrest, rfl⟩
    · simp only [Module.forest_eq_flatMap, List.flatMap_cons, List.map_append] at hrestOutlines ⊢
      rw [hfirstOutlines, hrestOutlines]
termination_by sizeOf decls

end

/-! ## Assembly under another number

What is checked of the tree that was built depends on outlines, so a tree that passes does so under any number. -/

/-- **A declaration that assembles** does so under any number, with the same outlines. -/
theorem exists_assemble_renumbered {number : Nat} {decl : ModuleDecl σ} {m : Module σ}
    (h : assemble table number decl = .ok m) (number' : Nat) :
    ∃ m', assemble table number' decl = .ok m' ∧
      m'.descendants.map Module.outline = m.descendants.map Module.outline := by
  obtain ⟨hbuild, hsizes⟩ := assemble_eq_ok_iff.mp h
  obtain ⟨m', hbuild', houtlines⟩ := exists_buildModule_renumbered hbuild number' none
  refine ⟨m', assemble_eq_ok_iff.mpr ⟨hbuild', ?_⟩, houtlines⟩
  rw [← Module.checkGroupSizes_outline, houtlines, Module.checkGroupSizes_outline]
  exact hsizes

/-- Each declaration assembles on its own, whatever its number, into the module at the same position. -/
def AssembleAlone (table : ConverterTable) (decls : List (ModuleDecl σ)) (own : List (Module σ)) : Prop :=
  List.Forall₂ (fun decl m => ∃ number, assemble table number decl = .ok m) decls own

/-- **Declarations that assemble alone** assemble in a row. -/
theorem AssembleAlone.exists_assembleAll {decls : List (ModuleDecl σ)} {own : List (Module σ)}
    (h : AssembleAlone table decls own) (number : Nat) :
    ∃ ms, Dispatcher.assembleAll table number decls = .ok ms ∧
      (Module.forest ms).map Module.outline = (Module.forest own).map Module.outline := by
  induction h generalizing number with
  | nil => exact ⟨[], rfl, rfl⟩
  | @cons decl m decls own hdecl _ ih =>
    obtain ⟨k, hk⟩ := hdecl
    obtain ⟨first, hfirst, hfirstOutlines⟩ := exists_assemble_renumbered hk number
    obtain ⟨rest, hrest, hrestOutlines⟩ := ih (number + decl.size)
    refine ⟨first :: rest, ?_, ?_⟩
    · simp only [Dispatcher.assembleAll, bind_eq_ok_iff]
      exact ⟨first, hfirst, rest, hrest, rfl⟩
    · simp only [Module.forest_eq_flatMap, List.flatMap_cons, List.map_append] at hrestOutlines ⊢
      rw [hfirstOutlines, hrestOutlines]

end ChatDispatch
