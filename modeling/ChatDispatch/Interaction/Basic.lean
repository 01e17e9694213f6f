import ChatDispatch.Interaction.RawValue

/-!
# Interactions

An interaction is one thing that a user did: invoke a command, use a component, type into an option
or submit a form. Options of a command form a tree of subcommand groups and subcommands with values
at its leaves; `optionPath` finds the path that the tree spells and the values at its end.
-/

namespace ChatDispatch

/-- The value of an option of a command. -/
structure NamedValue where
  name : String
  value : RawValue
  /-- Whether the user is typing into this option. -/
  focused : Bool

/-- A node in the tree of options of a command. -/
inductive OptionNode where
  | group (name : String) (options : List OptionNode)
  | subcommand (name : String) (options : List OptionNode)
  | value (v : NamedValue)

/-- The name of the option. -/
def OptionNode.name : OptionNode → String
  | .group name _ => name
  | .subcommand name _ => name
  | .value v => v.name

/-- The value of an option that is one. -/
def OptionNode.value? : OptionNode → Option NamedValue
  | .value v => some v
  | _ => none

/-- A command path and the values of the command at its end. -/
structure OptionPath where
  /-- The names on the way, outermost first. -/
  tokens : List String
  values : List NamedValue

/-- The names of the groups and subcommands on the way down, always through the first option, and
the values where the way ends. -/
def descend : List OptionNode → OptionPath
  | .group name options :: _ =>
    let below := descend options
    { below with tokens := name :: below.tokens }
  | .subcommand name options :: _ =>
    let below := descend options
    { below with tokens := name :: below.tokens }
  | options => { tokens := [], values := options.filterMap OptionNode.value? }

/-- The path that the options of a command spell, beginning with the name of the command. -/
def optionPath (command : String) (options : List OptionNode) : OptionPath :=
  let below := descend options
  { below with tokens := command :: below.tokens }

/-- What a command is invoked from. -/
inductive InvocationKind where
  /-- Typed into the chat. -/
  | chatInput
  /-- The menu of a user. -/
  | user
  /-- The menu of a message. -/
  | message
deriving DecidableEq

/-- The invocation of a command. -/
structure Invocation where
  name : String
  kind : InvocationKind
  options : List OptionNode
  /-- The entity whose menu the command was picked from. -/
  target : Option RawValue

/-- The use of a button or of a menu with selected values. -/
structure ComponentUse where
  customId : String
  values : List String

/-- One text field of a submitted form. -/
structure FormField where
  customId : String
  value : String

/-- The submission of a form. -/
structure FormSubmission where
  customId : String
  fields : List FormField

/-- A request for suggestions while an option is typed. -/
structure CompletionRequest where
  name : String
  options : List OptionNode

/-- What the user did. -/
inductive Payload where
  | command (data : Invocation)
  | component (data : ComponentUse)
  | autocomplete (data : CompletionRequest)
  | modal (data : FormSubmission)

/-- What kind of thing the user did. -/
inductive InteractionKind where
  | applicationCommand
  | messageComponent
  | autocomplete
  | modalSubmit
deriving DecidableEq

/-- The kind in a word. -/
def InteractionKind.name : InteractionKind → String
  | .applicationCommand => "application_command"
  | .messageComponent => "message_component"
  | .autocomplete => "autocomplete"
  | .modalSubmit => "modal_submit"

/-- The kind of a payload. -/
def Payload.kind : Payload → InteractionKind
  | .command _ => .applicationCommand
  | .component _ => .messageComponent
  | .autocomplete _ => .autocomplete
  | .modal _ => .modalSubmit

/-- An interaction. -/
structure Interaction where
  id : EntityId
  user : User
  /-- The guild it happened in; direct messages have none. -/
  guild : Option EntityId
  channel : Option EntityId
  payload : Payload

/-- The kind of an interaction. -/
def Interaction.kind (i : Interaction) : InteractionKind := i.payload.kind

/-- The named value as diagnostics show it. -/
def NamedValue.shown (v : NamedValue) : String :=
  Text.showRecord "NamedValue"
    [("name", Text.quoted v.name), ("value", v.value.shown), ("focused", Text.showBool v.focused)]

end ChatDispatch
