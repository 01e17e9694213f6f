import ChatDispatch.Command.Basic

/-!
# Modules

A module owns commands and modules below it. The declaration of a module is what a host writes; a
module is what is made of a valid declaration, with everything that it takes over from the modules
around it.

* `Module.descendants` lists a module and all below it, depth first.
* `Module.commands` lists its commands kind by kind.
-/

namespace ChatDispatch

variable {σ : Type}

/-- A group that the slash commands of a module stand under. -/
structure Group where
  name : String
  description : String

/-- The declaration of a module. -/
structure ModuleDecl (σ : Type) where
  typeName : String
  name : String
  group : Option Group
  defaultPermission : Bool
  /-- Checks for every command of the module and of the modules below it. -/
  preconditions : List (Precondition σ)
  commands : List (CommandDecl σ)
  submodules : List (ModuleDecl σ)
  construct : Constructor σ

/-- The last part of the name of a type, type arguments not counted. A module is called by the short
name of its type unless it is given another name. -/
def shortTypeName (typeName : String) : String :=
  let base := typeName.toList.takeWhile (· != '<')
  String.ofList ((Text.splitMarker [':', ':'] base).getLastD base)

/-- A module. -/
structure Module (σ : Type) where
  id : ModuleId
  typeName : String
  name : String
  group : Option Group
  defaultPermission : Bool
  /-- The module around this one. -/
  parent : Option ModuleId
  /-- The groups of the modules around this one and of itself, outermost first. -/
  groupPath : List String
  /-- The checks that the module itself was declared with. -/
  preconditions : List (Precondition σ)
  /-- The commands in the order of their declarations. -/
  declared : List (Command σ)
  submodules : List (Module σ)

namespace Module

/-- Whether the module has a group and no module around it has one. -/
def isTopLevelGroup (m : Module σ) : Bool := m.group.isSome && m.groupPath.length == 1

/-- The slash commands of the module. -/
def slashCommands (m : Module σ) : List (Command σ) := m.declared.filter (·.kind = .slash)

/-- The commands of the module that are picked from menus. -/
def contextCommands (m : Module σ) : List (Command σ) :=
  m.declared.filter fun c => c.kind = .context .user ∨ c.kind = .context .message

/-- The commands of the module for components. -/
def componentCommands (m : Module σ) : List (Command σ) :=
  m.declared.filter (·.kind = .component)

/-- The commands of the module for forms. -/
def modalCommands (m : Module σ) : List (Command σ) := m.declared.filter (·.kind = .modal)

/-- The commands of the module that give suggestions. -/
def autocompleteCommands (m : Module σ) : List (Command σ) :=
  m.declared.filter (·.kind = .autocomplete)

/-- All commands of the module, kind by kind. -/
def commands (m : Module σ) : List (Command σ) :=
  m.slashCommands ++ m.contextCommands ++ m.componentCommands ++ m.modalCommands ++
    m.autocompleteCommands

mutual

/-- The module and all modules below it, depth first. -/
def descendants (m : Module σ) : List (Module σ) :=
  match m with
  | ⟨_, _, _, _, _, _, _, _, _, submodules⟩ => m :: forest submodules

/-- Modules side by side and all below them, depth first. -/
def forest (ms : List (Module σ)) : List (Module σ) :=
  match ms with
  | [] => []
  | m :: ms => m.descendants ++ forest ms

end

end Module

/-! ## Diagnostics -/

mutual

/-- The declaration of a module as diagnostics show it. -/
def ModuleDecl.shown (m : ModuleDecl σ) : String :=
  match m with
  | ⟨typeName, name, group, _, _, commands, submodules, _⟩ =>
    Text.showOpenRecord "ModuleDefinition"
      [("name", Text.quoted name), ("type_name", Text.quoted typeName),
        ("group", Text.showOption
          (fun g => Text.showPair (Text.quoted g.name) (Text.quoted g.description)) group),
        ("commands", Text.showList (commands.map CommandDecl.shown)),
        ("submodules", Text.showList (shownDecls submodules))]

/-- The declarations of modules as diagnostics show them. -/
def shownDecls (ms : List (ModuleDecl σ)) : List String :=
  match ms with
  | [] => []
  | m :: ms => m.shown :: shownDecls ms

end

end ChatDispatch
