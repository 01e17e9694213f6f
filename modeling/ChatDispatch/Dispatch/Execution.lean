import ChatDispatch.Dispatch.Binding
import ChatDispatch.Dispatch.Preconditions

/-!
# Execution of a command

A command that accepts the interaction, whose arguments can be bound and whose preconditions pass
is put to work: its module is made, the hook before the handler runs, then the handler unless the
hook faulted, then the hook after the handler, and the module is dropped. Faults and caught panics
become results.

* `work` is that unit of work.
* `execute` decides whether it is done and what the caller gets: in run mode `inline` its result or
  its fault, in run mode `detached` a success at once.
-/

namespace ChatDispatch

variable {σ : Type}

/-- A fault of a command that is passed on to the caller of the dispatch. -/
structure DispatchFault where
  /-- The path of the command. -/
  command : String
  fault : Fault

/-- The text of the innermost error. -/
def DispatchFault.cause (f : DispatchFault) : String := f.fault.root

/-- The text that explains the fault. -/
def DispatchFault.message (f : DispatchFault) : String :=
  s!"command '{f.command}' faulted: {f.cause}"

/-- What a dispatch did. -/
structure Execution where
  /-- What the caller gets. -/
  returned : Except DispatchFault Result
  /-- What happened until the caller got it. -/
  trace : List Event
  /-- What happened afterwards. -/
  detached : List Event
  /-- The result that is reported to subscribers, when a command was reached. -/
  reported : Option Result

/-- Runs the handler and gives the result of the dispatch so far. -/
def runHandler (command : Command σ) (context : Context) (arguments : Arguments) (services : σ)
    (inst : Instance σ) : Logged Result := do
  Traced.leave .handle
  let attempt ← runHost (command.invoke inst ⟨context, arguments, services⟩)
  match attempt.caught with
  | .ok returned => return returned.toResult
  | .error fault => return .ofFault fault

/-- The result after the hook that runs last: its fault counts unless the result has one already. -/
def afterHook (result : Result) : Except Fault Unit → Result
  | .ok _ => result
  | .error fault => if result.fault?.isSome then result else .ofFault fault

/-- The unit of work of a command. -/
def work (command : Command σ) (context : Context) (arguments : Arguments) (services : σ) :
    Logged Result := do
  Traced.leave .construct
  let constructed ← runHost (command.construct services)
  match constructed.caught with
  | .error fault => return .ofFault fault
  | .ok inst =>
    Traced.leave .before
    let before ← runHost (inst.before context command.toCommandSpec)
    let result ←
      match before.caught with
      | .error fault => pure (Result.ofFault fault)
      | .ok _ => runHandler command context arguments services inst
    Traced.leave (.after result)
    let after ← runHost (inst.after context command.toCommandSpec result)
    Traced.leave .dispose
    let _ ← runHost ⟨(), inst.dispose⟩
    return afterHook result after.caught

/-- The result for a command that cannot handle interactions of this kind. -/
def kindMismatch (command : Command σ) (interaction : Interaction) : Result :=
  .ofKind .parseFailed
    s!"{command.kind.name} command '{command.displayPath}' cannot handle a {interaction.kind.name} interaction"

/-- Binds the arguments of a command and goes through its preconditions. -/
def prepare (command : Command σ) (context : Context) (inputs : Inputs) (services : σ) :
    Logged (Except Result Arguments) :=
  match bindArguments command.toCommandSpec context.interaction inputs with
  | .error e => pure (.error e.toResult)
  | .ok arguments => do
    match ← checkPreconditions command context arguments services with
    | .ok _ => return .ok arguments
    | .error r => return .error r

/-- A dispatch that ends before the command is put to work. -/
def Execution.rejection (result : Result) (trace : List Event) : Execution where
  returned := .ok result
  trace := trace
  detached := []
  reported := some result

/-- What the caller gets for a result of inline work: the fault behind it when faults are raised. -/
def raised (raiseFaults : Bool) (command : String) (result : Result) :
    Except DispatchFault Result :=
  match result.fault? with
  | some fault => if raiseFaults then .error ⟨command, fault⟩ else .ok result
  | none => .ok result

/-- Puts a command to work in a run mode, after `before` has happened. -/
def launch (mode : RunMode) (raiseFaults : Bool) (command : Command σ) (before : List Event)
    (unit : Logged Result) : Execution :=
  match mode with
  | .inline => {
      returned := raised raiseFaults command.displayPath unit.value
      trace := before ++ unit.trace
      detached := []
      reported := some unit.value }
  | .detached => {
      returned := .ok .success
      trace := before
      detached := unit.trace
      reported := some unit.value }

/-- Dispatches an interaction to a command. `mode` is the run mode of commands that declare none. -/
def execute (mode : RunMode) (raiseFaults : Bool) (command : Command σ) (context : Context)
    (inputs : Inputs) (services : σ) : Execution :=
  if !command.kind.accepts context.interaction.payload then
    .rejection (kindMismatch command context.interaction) []
  else
    let prepared := prepare command context inputs services
    match prepared.value with
    | .error result => .rejection result prepared.trace
    | .ok arguments =>
      launch (command.runMode.getD mode) raiseFaults command prepared.trace
        (work command context arguments services)

end ChatDispatch
