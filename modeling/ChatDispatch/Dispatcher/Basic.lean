import ChatDispatch.Dispatcher.Broadcast
import ChatDispatch.Dispatcher.Catalog
import ChatDispatch.Dispatch.Execution

/-!
# Dispatchers

A dispatcher loads and unloads modules, routes interactions to their commands and reports what came
of every command that it reached.

* `Dispatcher.load` and `Dispatcher.unload` change what is loaded, wholly or not at all.
* `Dispatcher.dispatch` handles an interaction: a loaded command, a suggester, or the result that
  nothing fits.
* `Dispatcher.dispatchTo` hands an interaction to a known command.
* `Dispatcher.subscribe` and `Dispatcher.receive` give reports.
-/

namespace ChatDispatch

variable {σ : Type}

/-- What came of a command that was reached. -/
structure Report (σ : Type) where
  command : Command σ
  context : Context
  result : Result
  /-- When the command was reached. -/
  started : Nat
  /-- When its result was known. -/
  completed : Nat

/-- A dispatcher. -/
structure Dispatcher (σ : Type) where
  settings : Settings
  converters : ConverterTable
  catalog : Catalog σ
  reports : Broadcast (Report σ)
  /-- The time that the clock tells when it is asked for the `n`-th time, from 0 on. -/
  clock : Nat → Nat
  /-- How often the clock has been asked. -/
  readings : Nat
  /-- The number for the next module. -/
  nextModule : Nat

namespace Dispatcher

/-- A dispatcher without modules, with the converters that the library brings along. -/
def new (settings : Settings) (clock : Nat → Nat) : Dispatcher σ where
  settings := settings
  converters := .standard
  catalog := .empty settings
  reports := .ofCapacity settings.reportCapacity
  clock := clock
  readings := 0
  nextModule := 1

/-! ## Loading and unloading -/

/-- Makes modules of declarations in order, numbered from `number` on. -/
def assembleAll (table : ConverterTable) (number : Nat) :
    List (ModuleDecl σ) → Except DeclError (List (Module σ))
  | [] => .ok []
  | decl :: decls => do
    let m ← assemble table number decl
    let ms ← assembleAll table (number + decl.size) decls
    return m :: ms

/-- Loads modules together: the modules made of the declarations and the dispatcher with them. When
one of them is refused, none is loaded. -/
def load (d : Dispatcher σ) (decls : List (ModuleDecl σ)) :
    Except LoadError (List (Module σ) × Dispatcher σ) := do
  let modules ←
    match assembleAll d.converters d.nextModule decls with
    | .ok modules => .ok modules
    | .error e => .error (.declaration e)
  let catalog ← Catalog.build d.settings (d.catalog.roots ++ modules)
  return (modules,
    { d with catalog := catalog, nextModule := d.nextModule + sizeOfDecls decls })

/-- Unloads a root module with all modules below it: the module and the dispatcher without it. -/
def unload (d : Dispatcher σ) (id : ModuleId) : Except LoadError (Module σ × Dispatcher σ) :=
  match d.catalog.roots.find? (·.id = id) with
  | none => .error (if (d.catalog.module? id).isSome then .notRoot id else .notLoaded id)
  | some removed => do
    let catalog ← Catalog.build d.settings (d.catalog.roots.filter (·.id ≠ id))
    return (removed, { d with catalog := catalog })

/-- Unloads the root module of a type. -/
def unloadType (d : Dispatcher σ) (typeName : String) :
    Except LoadError (Module σ × Dispatcher σ) :=
  match d.catalog.ofType? typeName with
  | none => .error (.typeNotLoaded typeName)
  | some m => d.unload m.id

/-! ## What is loaded -/

/-- The loaded slash commands, module by module. -/
def slashCommands (d : Dispatcher σ) : List (Command σ) :=
  d.catalog.modules.flatMap (·.slashCommands)

/-- The loaded menu commands, module by module. -/
def contextCommands (d : Dispatcher σ) : List (Command σ) :=
  d.catalog.modules.flatMap (·.contextCommands)

/-- The loaded commands for components, module by module. -/
def componentCommands (d : Dispatcher σ) : List (Command σ) :=
  d.catalog.modules.flatMap (·.componentCommands)

/-- The loaded commands for forms, module by module. -/
def modalCommands (d : Dispatcher σ) : List (Command σ) :=
  d.catalog.modules.flatMap (·.modalCommands)

/-- The loaded commands that give suggestions, module by module. -/
def autocompleteCommands (d : Dispatcher σ) : List (Command σ) :=
  d.catalog.modules.flatMap (·.autocompleteCommands)

/-- The slash command at a path, with no captures. -/
def findSlash? (d : Dispatcher σ) (tokens : List String) : Option (Command σ × List String) :=
  d.catalog.routers.slash.find? tokens

/-- The command for the component with an identifier, and the captures. -/
def findComponent? (d : Dispatcher σ) (id : String) : Option (Command σ × List String) :=
  d.catalog.routers.component.findId? id

/-- The command for the form with an identifier, and the captures. -/
def findModal? (d : Dispatcher σ) (id : String) : Option (Command σ × List String) :=
  d.catalog.routers.modal.findId? id

/-! ## Dispatching -/

/-- Where an interaction goes. -/
inductive Destination (σ : Type) where
  /-- To a command, with the captures of its identifier. -/
  | command (command : Command σ) (captures : List String)
  /-- To the suggester of a parameter, if there is one. -/
  | suggester (request : CompletionRequest)
  /-- Nowhere: what was looked for, and whether the acknowledgement is taken back. -/
  | unknown (path : String) (cleanup : Bool)

/-- The path of a request for suggestions, ending with the option that is being typed. -/
def completionTokens (request : CompletionRequest) : List String :=
  let path := optionPath request.name request.options
  path.tokens ++ ((path.values.find? (·.focused)).map (·.name)).toList

/-- The destination of an interaction that a router looks up. -/
def Destination.ofLookup (found : Option (Command σ × List String)) (path : String)
    (cleanup : Bool) : Destination σ :=
  match found with
  | some (found, captures) => .command found captures
  | none => .unknown path cleanup

/-- Where an interaction goes. -/
def route (d : Dispatcher σ) : Payload → Destination σ
  | .command data =>
    match data.kind with
    | .chatInput =>
      let tokens := (optionPath data.name data.options).tokens
      .ofLookup (d.findSlash? tokens) (Text.joinSpaces tokens) d.settings.deleteUnknownCommand
    | .user =>
      .ofLookup (d.catalog.routers.user.find? [data.name]) data.name
        d.settings.deleteUnknownCommand
    | .message =>
      .ofLookup (d.catalog.routers.message.find? [data.name]) data.name
        d.settings.deleteUnknownCommand
  | .component data =>
    .ofLookup (d.findComponent? data.customId) data.customId d.settings.deleteUnknownComponent
  | .modal data =>
    .ofLookup (d.findModal? data.customId) data.customId d.settings.deleteUnknownComponent
  | .autocomplete request =>
    let tokens := completionTokens request
    match d.catalog.routers.autocomplete.find? tokens with
    | some (found, captures) => .command found captures
    | none =>
      if d.settings.useSuggesters then .suggester request
      else .unknown (Text.joinSpaces tokens) false

/-- Calls the transport of the context, if it has one. -/
def callResponder (context : Context) (call : ResponderCall) :
    Logged (Except ResponderError Unit) :=
  match context.responder with
  | none => pure (.ok ())
  | some responder => do
    Traced.leave (.respond call)
    runHost (responder.answer call)

/-- Handles an interaction that nothing fits. Whether the transport takes the acknowledgement back
makes no difference to the result. -/
def unknown (context : Context) (path : String) (cleanup : Bool) : Logged Result := do
  if cleanup then
    let _ ← callResponder context .deleteOriginal
  return .ofKind .unknownCommand s!"unknown command '{path}'"

/-- The parameter that is being typed, with its command, its suggester and the option. -/
def suggestionTarget? (d : Dispatcher σ) (path : OptionPath) :
    Option (Command σ × Parameter σ × Suggester σ × NamedValue) := do
  let (command, _) ← d.findSlash? path.tokens
  let focused ← path.values.find? (·.focused)
  let parameter ← command.parameters.find? (Text.sameAscii ·.name focused.name)
  let suggester ← parameter.suggester
  return (command, parameter, suggester, focused)

/-- Asks a suggester and hands its suggestions to the transport. -/
def askSuggester (context : Context) (request : SuggestionRequest) (suggester : Suggester σ)
    (services : σ) : Logged (Except Fault Unit) := do
  let attempt ← runHost (suggester.suggest context request services)
  match attempt.caught with
  | .error fault => return .error fault
  | .ok choices =>
    match ← callResponder context (.suggest choices) with
    | .ok _ => return .ok ()
    | .error e => return .error (.ofMessage e.message)

/-- A dispatch that reaches no command. -/
def withoutCommand (done : Logged (Except DispatchFault Result)) : Execution where
  returned := done.value
  trace := done.trace
  detached := []
  reported := none

/-- Handles a request for suggestions by the suggester of the parameter that is being typed. -/
def suggest (d : Dispatcher σ) (context : Context) (request : CompletionRequest) (services : σ) :
    Execution :=
  let path := optionPath request.name request.options
  withoutCommand <|
    match d.suggestionTarget? path with
    | none => do return .ok (← unknown context (Text.joinSpaces (completionTokens request)) false)
    | some (command, parameter, suggester, focused) => do
      match ← askSuggester context ⟨parameter.name, focused.value, path.values⟩ suggester
          services with
      | .ok _ => return .ok .success
      | .error fault =>
        return if d.settings.raiseFaults then .error ⟨command.displayPath, fault⟩
          else .ok (.ofFault fault)

/-- Hands an interaction with its inputs to a command and reports the result. The clock is asked
when the command is reached and when its result is known. -/
def run (d : Dispatcher σ) (command : Command σ) (context : Context) (inputs : Inputs)
    (services : σ) : Execution × Dispatcher σ :=
  let execution :=
    execute d.settings.runMode d.settings.raiseFaults command context inputs services
  match execution.reported with
  | none => (execution, d)
  | some result =>
    let report : Report σ := {
      command := command
      context := context
      result := result
      started := d.clock d.readings
      completed := d.clock (d.readings + 1) }
    (execution, { d with reports := d.reports.send report, readings := d.readings + 2 })

/-- Handles an interaction. -/
def dispatch (d : Dispatcher σ) (context : Context) (services : σ) :
    Execution × Dispatcher σ :=
  match d.route context.interaction.payload with
  | .command command captures =>
    d.run command context (.ofInteraction context.interaction captures) services
  | .suggester request => (d.suggest context request services, d)
  | .unknown path cleanup =>
    (withoutCommand do return .ok (← unknown context path cleanup), d)

/-- Hands an interaction to a known command. -/
def dispatchTo (d : Dispatcher σ) (command : Command σ) (context : Context) (services : σ) :
    Execution × Dispatcher σ :=
  d.run command context (.ofInteraction context.interaction []) services

/-! ## Reports -/

/-- A subscription to the reports from now on. -/
def subscribe (d : Dispatcher σ) : Cursor := d.reports.subscribe

/-- The next report for a subscriber. -/
def receive (d : Dispatcher σ) (cursor : Cursor) : Received (Report σ) × Cursor :=
  d.reports.receive cursor

end Dispatcher

end ChatDispatch
