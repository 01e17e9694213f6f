import ChatDispatch.Module.Assembly
import ChatDispatch.Module.Uuid
import ChatDispatch.Router.Basic
import ChatDispatch.Settings

/-!
# Catalogs of loaded modules

A catalog holds the modules that are loaded, with an index by type, an index by identifier and one
router for each kind of command. It is built anew from its root modules whenever these change, so
nothing of an attempt that fails is left behind.

* `Command.route` is the path under which a command is registered.
* `Catalog.build` builds a catalog from root modules.
-/

namespace ChatDispatch

variable {σ : Type}

/-- Why a set of modules is refused. -/
inductive LoadError where
  | declaration (e : DeclError)
  | route (e : Router.RouteError)
  | alreadyLoaded (typeName : String)
  | notLoaded (id : ModuleId)
  | typeNotLoaded (typeName : String)
  /-- A module below another one cannot be unloaded alone. -/
  | notRoot (id : ModuleId)

/-- The name by which programs tell errors apart. -/
def LoadError.name : LoadError → String
  | .declaration e => e.name
  | .route e => e.name
  | .alreadyLoaded _ => "AlreadyLoaded"
  | .notLoaded _ => "ModuleNotFound"
  | .typeNotLoaded _ => "TypeNotLoaded"
  | .notRoot _ => "NotRootModule"

/-- The text that explains the error. -/
def LoadError.message : LoadError → String
  | .declaration e => e.message
  | .route e => e.message
  | .alreadyLoaded typeName => s!"module type {typeName} is already loaded"
  | .notLoaded id => s!"module {id.text} is not loaded"
  | .typeNotLoaded typeName => s!"module type {typeName} is not loaded"
  | .notRoot id => s!"module {id.text} is a submodule; unload its root module instead"

/-! ## Routers -/

/-- One router for each kind of command. -/
structure Routers (σ : Type) where
  slash : Router (Command σ)
  user : Router (Command σ)
  message : Router (Command σ)
  component : Router (Command σ)
  modal : Router (Command σ)
  autocomplete : Router (Command σ)

namespace Routers

/-- Routers without commands. Slash and menu commands come as paths and have no wildcards; the
identifiers of components and forms are cut at the delimiters of the settings, the patterns of
suggestions at spaces. -/
def empty (settings : Settings) : Routers σ where
  slash := .empty [] none
  user := .empty [] none
  message := .empty [] none
  component := .empty settings.delimiters settings.wildcard
  modal := .empty settings.delimiters settings.wildcard
  autocomplete := .empty [' '] settings.wildcard

/-- The router for a kind of command. -/
def ofKind (routers : Routers σ) : CommandKind → Router (Command σ)
  | .slash => routers.slash
  | .context .user => routers.user
  | .context .message => routers.message
  | .component => routers.component
  | .modal => routers.modal
  | .autocomplete => routers.autocomplete

/-- Puts a router in place of the one for a kind of command. -/
def setKind (routers : Routers σ) (kind : CommandKind) (router : Router (Command σ)) :
    Routers σ :=
  match kind with
  | .slash => { routers with slash := router }
  | .context .user => { routers with user := router }
  | .context .message => { routers with message := router }
  | .component => { routers with component := router }
  | .modal => { routers with modal := router }
  | .autocomplete => { routers with autocomplete := router }

end Routers

/-- The path under which a command is registered: its name below its groups, cut into tokens by the
router where identifiers are. Menu commands stand under no group. -/
def Command.route (command : Command σ) (router : Router (Command σ)) : List String :=
  match command.kind with
  | .slash => command.path
  | .context _ => [command.name]
  | .component | .modal | .autocomplete => command.groupPath ++ router.tokenize command.name

/-- Registers a command in the router for its kind. -/
def Routers.insert (routers : Routers σ) (command : Command σ) :
    Except Router.RouteError (Routers σ) :=
  let router := routers.ofKind command.kind
  (router.insert (command.route router) command).map (routers.setKind command.kind)

/-- Registers commands in order, up to the first that is refused. -/
def Routers.insertAll (routers : Routers σ) :
    List (Command σ) → Except Router.RouteError (Routers σ)
  | [] => .ok routers
  | command :: commands => do (← routers.insert command).insertAll commands

/-! ## Catalogs -/

/-- The loaded modules. -/
structure Catalog (σ : Type) where
  /-- The modules below no other module, in the order in which they were loaded. -/
  roots : List (Module σ)
  /-- All loaded modules, by the names of their types. -/
  byType : List (String × Module σ)
  /-- All loaded modules, by their identifiers. -/
  byId : List (ModuleId × Module σ)
  routers : Routers σ

namespace Catalog

/-- The catalog without modules. -/
def empty (settings : Settings) : Catalog σ := ⟨[], [], [], .empty settings⟩

/-- Adds modules to an index by type; each type may occur once. -/
def indexTypes (index : List (String × Module σ)) :
    List (Module σ) → Except LoadError (List (String × Module σ))
  | [] => .ok index
  | m :: ms =>
    if index.any (·.1 == m.typeName) then .error (.alreadyLoaded m.typeName)
    else indexTypes (index ++ [(m.typeName, m)]) ms

/-- The catalog of root modules and all modules below them. -/
def build (settings : Settings) (roots : List (Module σ)) : Except LoadError (Catalog σ) := do
  let all := Module.forest roots
  let byType ← indexTypes [] all
  let routers ←
    match (Routers.empty settings).insertAll (all.flatMap (·.commands)) with
    | .ok routers => .ok routers
    | .error e => .error (.route e)
  return ⟨roots, byType, all.map fun m => (m.id, m), routers⟩

/-- All loaded modules, depth first. -/
def modules (catalog : Catalog σ) : List (Module σ) := Module.forest catalog.roots

/-- The loaded module with an identifier. -/
def module? (catalog : Catalog σ) (id : ModuleId) : Option (Module σ) :=
  (catalog.byId.find? (·.1 = id)).map (·.2)

/-- The loaded module of a type. -/
def ofType? (catalog : Catalog σ) (typeName : String) : Option (Module σ) :=
  (catalog.byType.find? (·.1 == typeName)).map (·.2)

/-- The module around a module. -/
def parentOf? (catalog : Catalog σ) (m : Module σ) : Option (Module σ) :=
  m.parent.bind catalog.module?

end Catalog

end ChatDispatch
