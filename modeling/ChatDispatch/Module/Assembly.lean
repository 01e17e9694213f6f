import ChatDispatch.Module.Basic

/-!
# Modules from their declarations

A declaration becomes a module when every name, description and count in it is within bounds, every
command has a handler, and every parameter has a converter. The first thing that is wrong, in the
order of the declaration, is what the error tells. A module takes over the groups and the
preconditions of the modules around it.

* `buildModule` makes a module with all modules below it.
* `assemble` also bounds the number of entries under every group of the whole tree.
-/

namespace ChatDispatch

variable {σ : Type}

/-- What a name is the name of. -/
inductive NameRole where
  | command
  | group
  | parameter
  | customId
  | autocomplete
deriving DecidableEq

/-- The role in words. -/
def NameRole.words : NameRole → String
  | .command => "command"
  | .group => "group"
  | .parameter => "parameter"
  | .customId => "custom id"
  | .autocomplete => "autocomplete"

/-- What is wrong with a declaration. -/
inductive DeclError where
  | invalidName (role : NameRole) (name : String)
  | invalidDescription (owner : String)
  | duplicateCommand (module command : String)
  | duplicateParameter (command parameter : String)
  | tooManyParameters (command : String) (count : Nat)
  | tooManyEntries (group : List String) (count : Nat)
  | nestingTooDeep (path : List String)
  | variadicNotLast (command parameter : String)
  | requiredAfterOptional (command parameter : String)
  | missingHandler (command : String)
  | missingConverter (parameter typeName : String)

/-- The name by which programs tell errors apart. -/
def DeclError.name : DeclError → String
  | .invalidName _ _ => "InvalidName"
  | .invalidDescription _ => "InvalidDescription"
  | .duplicateCommand _ _ => "DuplicateCommand"
  | .duplicateParameter _ _ => "DuplicateParameter"
  | .tooManyParameters _ _ => "TooManyParameters"
  | .tooManyEntries _ _ => "TooManyCommands"
  | .nestingTooDeep _ => "NestingTooDeep"
  | .variadicNotLast _ _ => "VariadicNotLast"
  | .requiredAfterOptional _ _ => "RequiredAfterOptional"
  | .missingHandler _ => "MissingHandler"
  | .missingConverter _ _ => "MissingConverter"

/-- The text that explains the error. -/
def DeclError.message : DeclError → String
  | .invalidName role name => s!"invalid {role.words} name '{name}'"
  | .invalidDescription owner =>
    s!"description of '{owner}' must be between 1 and 100 characters"
  | .duplicateCommand module command => s!"module '{module}' declares '{command}' more than once"
  | .duplicateParameter command parameter =>
    s!"command '{command}' declares parameter '{parameter}' more than once"
  | .tooManyParameters command count =>
    s!"command '{command}' declares {count} parameters (at most 25 allowed)"
  | .tooManyEntries group count =>
    s!"group '{Text.joinSpaces group}' holds {count} entries (at most 25 allowed)"
  | .nestingTooDeep path => s!"group '{Text.joinSpaces path}' nests deeper than two levels"
  | .variadicNotLast command parameter =>
    s!"variadic parameter '{parameter}' of '{command}' must be last"
  | .requiredAfterOptional command parameter =>
    s!"required parameter '{parameter}' of '{command}' follows an optional parameter"
  | .missingHandler command => s!"command '{command}' has no handler"
  | .missingConverter parameter typeName =>
    s!"no type converter for parameter '{parameter}' of type {typeName}"

/-! ## Bounds -/

/-- The greatest length of the names of slash commands, groups, parameters and menu commands. -/
def maxNameLength : Nat := 32

/-- The greatest length of a description. -/
def maxDescriptionLength : Nat := 100

/-- The greatest length of the pattern of an identifier. -/
def maxCustomIdLength : Nat := 100

/-- The greatest number of parameters of a slash command. -/
def maxParameters : Nat := 25

/-- The greatest number of different entries under a group. -/
def maxGroupEntries : Nat := 25

/-- The greatest number of groups around one another. -/
def maxGroupDepth : Nat := 2

/-- Whether a text has at least one and at most `max` characters. -/
def hasLength (s : String) (max : Nat) : Bool := 1 ≤ s.length && s.length ≤ max

/-- Whether `c` may stand in the names of slash commands, their groups and their parameters. -/
def isSlashChar (c : Char) : Bool := c == '-' || c == '_' || c.isLower || c.isDigit

/-- Whether a text is a name for a slash command, a group or a parameter of a slash command. -/
def isSlashName (s : String) : Bool := hasLength s maxNameLength && s.toList.all isSlashChar

/-- Fails unless the condition holds. -/
def ensure (condition : Bool) (e : DeclError) : Except DeclError Unit :=
  if condition then .ok () else .error e

/-- Requires a name for a slash command, a group or a parameter of a slash command. -/
def checkSlashName (role : NameRole) (name : String) : Except DeclError Unit :=
  ensure (isSlashName name) (.invalidName role name)

/-- Requires a name of bounded length. -/
def checkLength (role : NameRole) (name : String) (max : Nat) : Except DeclError Unit :=
  ensure (hasLength name max) (.invalidName role name)

/-- Requires a description of bounded length. -/
def checkDescription (owner description : String) : Except DeclError Unit :=
  ensure (hasLength description maxDescriptionLength) (.invalidDescription owner)

/-- Requires the name and the description that the kind of command wants. -/
def checkCommandName (kind : CommandKind) (name : String) (description : Option String) :
    Except DeclError Unit :=
  match kind with
  | .slash => do
    checkSlashName .command name
    checkDescription name (description.getD "")
  | .context _ => checkLength .command name maxNameLength
  | .component | .modal => checkLength .customId name maxCustomIdLength
  | .autocomplete => checkLength .autocomplete name maxCustomIdLength

/-- Requires the name that a parameter of the kind of command wants. -/
def checkParameterName (kind : CommandKind) (name : String) : Except DeclError Unit :=
  if kind = .slash then checkSlashName .parameter name
  else ensure (!name.isEmpty) (.invalidName .parameter name)

/-! ## Parameters and commands -/

/-- Makes a parameter, finding its converter. Its description is its name unless it has one. -/
def buildParameter (table : ConverterTable) (decl : ParameterDecl σ) :
    Except DeclError (Parameter σ) :=
  match table.find? decl.type with
  | none => .error (.missingConverter decl.name decl.type.name)
  | some converter => .ok {
      name := decl.name
      description := decl.description.getD decl.name
      type := decl.type
      required := decl.required
      default := decl.default
      variadic := decl.variadic
      choices := decl.choices
      min := decl.min
      max := decl.max
      preconditions := decl.preconditions
      converter := converter
      suggester := decl.suggester }

/-- Makes the parameters of a command. `seen` are the names before them in lower case, and
`optional` tells whether one before them is optional. -/
def buildParameters (table : ConverterTable) (kind : CommandKind) (command : String)
    (seen : List String) (optional : Bool) :
    List (ParameterDecl σ) → Except DeclError (List (Parameter σ))
  | [] => .ok []
  | decl :: decls => do
    checkParameterName kind decl.name
    let key := Text.lowercase decl.name
    ensure (!seen.contains key) (.duplicateParameter command decl.name)
    ensure (!decl.variadic || decls.isEmpty) (.variadicNotLast command decl.name)
    ensure (!(decl.required && optional)) (.requiredAfterOptional command decl.name)
    match decl.description with
    | some description => checkDescription decl.name description
    | none => .ok ()
    let parameter ← buildParameter table decl
    let parameters ←
      buildParameters table kind command (key :: seen) (optional || !decl.required) decls
    return parameter :: parameters

/-- What a command takes from the module that declares it. -/
structure Owner (σ : Type) where
  id : ModuleId
  name : String
  typeName : String
  /-- The groups of the module, outermost first. -/
  groupPath : List String
  /-- The checks of the module and of the modules around it, outermost first. -/
  preconditions : List (Precondition σ)
  construct : Constructor σ

/-- Makes a command of a module. -/
def buildCommand (table : ConverterTable) (owner : Owner σ) (decl : CommandDecl σ) :
    Except DeclError (Command σ) := do
  checkCommandName decl.kind decl.name decl.description
  ensure (decl.kind ≠ .slash || decl.parameters.length ≤ maxParameters)
    (.tooManyParameters decl.name decl.parameters.length)
  match decl.handler with
  | none => .error (.missingHandler decl.name)
  | some handler =>
    let parameters ← buildParameters table decl.kind decl.name [] false decl.parameters
    return {
      name := decl.name
      methodName := decl.methodName.getD (owner.name ++ "." ++ decl.name)
      kind := decl.kind
      description := decl.description
      defaultPermission := decl.defaultPermission
      ignoresGroups := decl.ignoresGroups
      runMode := decl.runMode
      parameters := parameters
      groupPath := if decl.ignoresGroups then [] else owner.groupPath
      moduleId := owner.id
      moduleName := owner.name
      moduleType := owner.typeName
      preconditions := decl.preconditions
      modulePreconditions := owner.preconditions
      construct := owner.construct
      handler := handler }

/-- Makes the commands of a module. `seen` are the kinds and the names in lower case of the commands
before them. -/
def buildCommands (table : ConverterTable) (owner : Owner σ) (seen : List (CommandKind × String)) :
    List (CommandDecl σ) → Except DeclError (List (Command σ))
  | [] => .ok []
  | decl :: decls => do
    let key := (decl.kind, Text.lowercase decl.name)
    ensure (!seen.contains key) (.duplicateCommand owner.name decl.name)
    let command ← buildCommand table owner decl
    let commands ← buildCommands table owner (key :: seen) decls
    return command :: commands

/-! ## Modules -/

/-- What a module takes over from the modules around it. -/
structure Surroundings (σ : Type) where
  parent : Option ModuleId
  groupPath : List String
  preconditions : List (Precondition σ)

/-- Nothing around a module. -/
def Surroundings.none : Surroundings σ := ⟨.none, [], []⟩

/-- The groups of a module with a group of its own or without one, below other groups. -/
def checkGroup (around : List String) : Option Group → Except DeclError (List String)
  | none => .ok around
  | some group => do
    checkSlashName .group group.name
    checkDescription group.name group.description
    let path := around ++ [group.name]
    ensure (path.length ≤ maxGroupDepth) (.nestingTooDeep path)
    return path

mutual

/-- The number of modules in a declaration. -/
def ModuleDecl.size (m : ModuleDecl σ) : Nat :=
  match m with
  | ⟨_, _, _, _, _, _, submodules, _⟩ => 1 + sizeOfDecls submodules

/-- The number of modules in declarations side by side. -/
def sizeOfDecls (ms : List (ModuleDecl σ)) : Nat :=
  match ms with
  | [] => 0
  | m :: ms => m.size + sizeOfDecls ms

end

mutual

/-- Makes a module and all modules below it. They are numbered from `number` on, depth first. -/
def buildModule (table : ConverterTable) (number : Nat) (around : Surroundings σ)
    (decl : ModuleDecl σ) : Except DeclError (Module σ) :=
  match decl with
  | ⟨typeName, name, group, defaultPermission, preconditions, commands, submodules, construct⟩ => do
    let groupPath ← checkGroup around.groupPath group
    let id : ModuleId := ⟨number⟩
    let chain := around.preconditions ++ preconditions
    let declared ← buildCommands table ⟨id, name, typeName, groupPath, chain, construct⟩ [] commands
    let below ← buildModules table (number + 1) ⟨some id, groupPath, chain⟩ submodules
    return {
      id := id
      typeName := typeName
      name := name
      group := group
      defaultPermission := defaultPermission
      parent := around.parent
      groupPath := groupPath
      preconditions := preconditions
      declared := declared
      submodules := below }

/-- Makes modules side by side. -/
def buildModules (table : ConverterTable) (number : Nat) (around : Surroundings σ)
    (decls : List (ModuleDecl σ)) : Except DeclError (List (Module σ)) :=
  match decls with
  | [] => .ok []
  | decl :: decls => do
    let m ← buildModule table number around decl
    let ms ← buildModules table (number + decl.size) around decls
    return m :: ms

end

/-! ## Sizes of groups -/

/-- The entries directly under groups that the path of a command makes: every proper beginning of
the path that is not empty, with the name that follows it. -/
def pathEntries (path : List String) : List (List String × String) :=
  (List.range path.length).filterMap fun depth =>
    if depth = 0 then none else path[depth]?.map (path.take depth, ·)

/-- The different names directly under a group. -/
def entriesUnder (group : List String) (entries : List (List String × String)) : List String :=
  ((entries.filter (·.1 = group)).map (·.2)).eraseDups

/-- The first group in the order of paths that satisfies a condition. -/
def firstGroup (condition : List String → Bool) (groups : List (List String)) :
    Option (List String) :=
  (groups.filter condition).foldl
    (fun best group =>
      match best with
      | none => some group
      | some b => if group < b then some group else some b)
    none

/-- Bounds the number of entries under every group that the slash commands of modules name. -/
def checkGroupSizes (modules : List (Module σ)) : Except DeclError Unit :=
  let entries := (modules.flatMap (·.slashCommands)).flatMap fun c => pathEntries c.path
  match firstGroup (fun g => maxGroupEntries < (entriesUnder g entries).length)
      (entries.map (·.1)) with
  | some group => .error (.tooManyEntries group (entriesUnder group entries).length)
  | none => .ok ()

/-- Makes a module that is not below another one, numbered from `number` on. -/
def assemble (table : ConverterTable) (number : Nat) (decl : ModuleDecl σ) :
    Except DeclError (Module σ) := do
  let m ← buildModule table number .none decl
  checkGroupSizes m.descendants
  return m

end ChatDispatch
