import ChatDispatch.Argument.ConverterTable
import ChatDispatch.Command.Context
import ChatDispatch.Command.Kind
import ChatDispatch.Text.Split

/-!
# Parameters and commands

A command describes itself and its parameters by data and holds the code of the host: converters,
preconditions, the construction of its module and the handler. The code of the host sees the data,
the context of the dispatch, and `σ`, whatever the host hands to its own code.

The declaration of a command is what a host writes; a command is what is made of a valid one.
-/

namespace ChatDispatch

/-! ## Parameters -/

/-- The data of a parameter. -/
structure ParameterSpec where
  name : String
  description : String
  type : ArgType
  /-- Whether the parameter must be given a value. -/
  required : Bool
  /-- The argument of an optional parameter that was left out. -/
  default : Option Argument
  /-- Whether the parameter collects all values that are left. -/
  variadic : Bool
  /-- The raw values that the parameter is restricted to; all of them when there are none. -/
  choices : List Choice
  /-- The least number that the parameter takes. -/
  min : Option Float
  /-- The greatest number that the parameter takes. -/
  max : Option Float

/-- A check of a bound argument. A rejection has a reason. -/
structure ParameterPrecondition (σ : Type) where
  check : Context → ParameterSpec → Argument → σ → Noted (Except String Unit)

/-- What is asked of the code that suggests values for an option. -/
structure SuggestionRequest where
  parameter : String
  /-- What has been typed so far. -/
  current : RawValue
  /-- All options of the command that have a value. -/
  options : List NamedValue

/-- Code that suggests values for a parameter. -/
structure Suggester (σ : Type) where
  suggest : Context → SuggestionRequest → σ → Noted (Attempt (List Choice))

/-- A parameter of a command. -/
structure Parameter (σ : Type) extends ParameterSpec where
  preconditions : List (ParameterPrecondition σ)
  converter : Converter
  suggester : Option (Suggester σ)

/-- The declaration of a parameter. -/
structure ParameterDecl (σ : Type) where
  name : String
  type : ArgType
  description : Option String := none
  required : Bool := true
  default : Option Argument := none
  variadic : Bool := false
  choices : List Choice := []
  min : Option Float := none
  max : Option Float := none
  preconditions : List (ParameterPrecondition σ) := []
  suggester : Option (Suggester σ) := none

/-! ## Modules at work -/

/-- The number under which a module was loaded. -/
structure ModuleId where
  number : Nat
deriving DecidableEq

/-- The data of a command, with its parameters. -/
structure CommandSpec (σ : Type) where
  /-- The name, or the pattern of the identifiers that the command handles. -/
  name : String
  /-- The name of the handler for diagnostics. -/
  methodName : String
  kind : CommandKind
  description : Option String
  /-- Whether everyone may use the command unless told otherwise. -/
  defaultPermission : Bool
  ignoresGroups : Bool
  /-- The run mode, when the command does not leave it to the settings. -/
  runMode : Option RunMode
  parameters : List (Parameter σ)
  /-- The groups that the command stands under, outermost first. -/
  groupPath : List String
  moduleId : ModuleId
  moduleName : String
  moduleType : String

/-- A module at work on one dispatch. -/
structure Instance (σ : Type) where
  typeName : String
  before : Context → CommandSpec σ → Noted (Attempt Unit)
  after : Context → CommandSpec σ → Result → Noted (Attempt Unit)
  /-- The notes left when the module is dropped. -/
  dispose : List String

/-- What a handler is called with besides its module. -/
structure Call (σ : Type) where
  context : Context
  arguments : Arguments
  services : σ

/-- The body of a handler. -/
abbrev Handler (σ : Type) := Instance σ → Call σ → Noted (Attempt HandlerReturn)

/-- Makes a module ready for a dispatch. -/
abbrev Constructor (σ : Type) := σ → Noted (Attempt (Instance σ))

/-! ## Commands -/

/-- A check that is made before a command runs. Checks with the same label form a group, of which
one has to pass; an empty label is no label. -/
structure Precondition (σ : Type) where
  label : Option String
  check : Context → CommandSpec σ → σ → Noted (Except String Unit)

/-- A command. -/
structure Command (σ : Type) extends CommandSpec σ where
  /-- The checks of the command itself. -/
  preconditions : List (Precondition σ)
  /-- The checks of the modules around it, outermost first. -/
  modulePreconditions : List (Precondition σ)
  construct : Constructor σ
  handler : Handler σ

/-- The declaration of a command. -/
structure CommandDecl (σ : Type) where
  kind : CommandKind
  name : String
  methodName : Option String := none
  description : Option String := none
  defaultPermission : Bool := true
  ignoresGroups : Bool := false
  runMode : Option RunMode := none
  parameters : List (ParameterDecl σ) := []
  preconditions : List (Precondition σ) := []
  handler : Option (Handler σ) := none

variable {σ : Type}

/-- The names of the groups and of the command itself. -/
def CommandSpec.path (c : CommandSpec σ) : List String := c.groupPath ++ [c.name]

/-- The path in a line. -/
def CommandSpec.displayPath (c : CommandSpec σ) : String := Text.joinSpaces c.path

/-- Whether the command stands under no group. -/
def CommandSpec.isTopLevel (c : CommandSpec σ) : Bool := c.groupPath.isEmpty

/-- Calls the handler with a module, which has to be of the type that the handler was declared
for. -/
def Command.invoke (c : Command σ) (inst : Instance σ) (call : Call σ) :
    Noted (Attempt HandlerReturn) :=
  if inst.typeName = c.moduleType then c.handler inst call
  else pure (.faulted (.ofMessage s!"module instance is not a {c.moduleType}"))

/-! ## Preconditions on the place of an interaction -/

/-- Where an interaction has to happen. -/
inductive Place where
  | guild
  | directMessage

/-- Requires an interaction to happen in a guild, or outside of one. -/
def Precondition.require (place : Place) : Precondition σ where
  label := none
  check context command _ := pure <|
    match place, context.interaction.guild with
    | .guild, some _ | .directMessage, none => .ok ()
    | .guild, none => .error s!"'{command.name}' can only be used inside a guild"
    | .directMessage, some _ => .error s!"'{command.name}' can only be used in direct messages"

/-! ## Diagnostics -/

/-- The parameter as diagnostics show it. -/
def Parameter.shown (p : Parameter σ) : String :=
  Text.showOpenRecord "ParameterInfo"
    [("name", Text.quoted p.name), ("type", Text.quoted p.type.name),
      ("required", Text.showBool p.required), ("variadic", Text.showBool p.variadic),
      ("preconditions", toString p.preconditions.length),
      ("autocomplete", Text.showBool p.suggester.isSome)]

/-- The declaration of a parameter as diagnostics show it. -/
def ParameterDecl.shown (p : ParameterDecl σ) : String :=
  Text.showOpenRecord "ParameterDefinition"
    [("name", Text.quoted p.name), ("type", Text.quoted p.type.name),
      ("required", Text.showBool p.required), ("variadic", Text.showBool p.variadic)]

/-- The command as diagnostics show it. -/
def CommandSpec.shown (c : CommandSpec σ) : String :=
  Text.showOpenRecord "CommandInfo"
    [("name", Text.quoted c.name), ("kind", c.kind.shown),
      ("group_path", Text.showList (c.groupPath.map Text.quoted)),
      ("module", Text.quoted c.moduleName),
      ("run_mode", Text.showOption RunMode.shown c.runMode),
      ("parameters", Text.showList (c.parameters.map Parameter.shown))]

/-- The declaration of a command as diagnostics show it. -/
def CommandDecl.shown (c : CommandDecl σ) : String :=
  Text.showOpenRecord "CommandDefinition"
    [("kind", c.kind.shown), ("name", Text.quoted c.name),
      ("parameters", Text.showList (c.parameters.map ParameterDecl.shown)),
      ("has_handler", Text.showBool c.handler.isSome)]

end ChatDispatch
