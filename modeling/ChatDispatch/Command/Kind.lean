import ChatDispatch.Interaction.Basic

/-!
# Kinds of commands

What a command is invoked by, and whether the caller of a dispatch waits for it.
-/

namespace ChatDispatch

/-- Whether the caller of a dispatch waits for the handler. -/
inductive RunMode where
  /-- The caller waits and gets the result of the handler. -/
  | inline
  /-- The handler runs on its own and the caller gets a success at once. -/
  | detached
deriving DecidableEq

/-- The run mode as diagnostics show it. -/
def RunMode.shown : RunMode → String
  | .inline => "Sync"
  | .detached => "Async"

/-- What the menu of a context-menu command belongs to. -/
inductive MenuTarget where
  | user
  | message
deriving DecidableEq

/-- The kinds of commands. -/
inductive CommandKind where
  /-- Typed into the chat. -/
  | slash
  /-- Picked from a menu. -/
  | context (target : MenuTarget)
  /-- A button or a select menu. -/
  | component
  /-- Suggestions for an option. -/
  | autocomplete
  /-- A submitted form. -/
  | modal
deriving DecidableEq

namespace CommandKind

/-- All kinds of commands. -/
def all : List CommandKind :=
  [slash, context .user, context .message, component, autocomplete, modal]

/-- The kind in a word. -/
def name : CommandKind → String
  | slash => "slash"
  | context .user => "user"
  | context .message => "message"
  | component => "component"
  | autocomplete => "autocomplete"
  | modal => "modal"

/-- The kind as diagnostics show it. -/
def shown : CommandKind → String
  | slash => "Slash"
  | context .user => "Context(User)"
  | context .message => "Context(Message)"
  | component => "Component"
  | autocomplete => "Autocomplete"
  | modal => "Modal"

/-- Whether a command of this kind can handle the payload. -/
def accepts : CommandKind → Payload → Bool
  | slash, .command data => data.kind = .chatInput
  | context .user, .command data => data.kind = .user
  | context .message, .command data => data.kind = .message
  | component, .component _ => true
  | autocomplete, .autocomplete _ => true
  | modal, .modal _ => true
  | _, _ => false

end CommandKind

end ChatDispatch
