import ChatDispatch.Dispatcher.Basic
import ChatDispatch.Wire.Argument

/-!
# Overviews

What is loaded, and what has come of dispatches, as JSON for tools that show it.
-/

namespace ChatDispatch

open Json (Value)

variable {σ : Type}

/-- An array of texts. -/
def textsToJson (texts : List String) : Value := .ofList .text texts

/-- A choice as a pair of its name and its value. -/
def Choice.toPair (c : Choice) : Value := .array [.text c.name, c.value.toJson]

/-- The parameter as JSON; `argument` writes its default and `bound` its bounds. -/
def Parameter.overview (argument : Argument → Value) (bound : Float → Value) (p : Parameter σ) :
    Value :=
  .object [("name", .text p.name), ("description", .text p.description),
    ("type", .text p.type.name), ("required", .boolean p.required),
    ("variadic", .boolean p.variadic), ("default", .ofOption argument p.default),
    ("choices", .ofList Choice.toPair p.choices),
    ("min", .ofOption bound p.min), ("max", .ofOption bound p.max),
    ("preconditions", .ofNat p.preconditions.length),
    ("autocomplete", .boolean p.suggester.isSome)]

/-- The members of a command as JSON; `argument` writes the defaults of parameters and `bound` their
bounds. -/
def Command.overview (argument : Argument → Value) (bound : Float → Value) (c : Command σ) :
    List (String × Value) :=
  [("name", .text c.name), ("method", .text c.methodName), ("kind", .text c.kind.name),
    ("description", .ofOption .text c.description),
    ("default_permission", .boolean c.defaultPermission),
    ("ignore_group_names", .boolean c.ignoresGroups),
    ("run_mode", .ofOption (fun m => .text m.word) c.runMode),
    ("parameters", .ofList (Parameter.overview argument bound) c.parameters),
    ("preconditions", .ofNat c.preconditions.length),
    ("module_preconditions", .ofNat c.modulePreconditions.length),
    ("group_path", textsToJson c.groupPath), ("top_level", .boolean c.isTopLevel),
    ("module", .text c.moduleName), ("display_path", .text c.displayPath)]

/-- The kind and the path of a command, and something else that is told of it. -/
def CommandSpec.line (c : CommandSpec σ) (more : String) : Value :=
  textsToJson [c.kind.name, c.displayPath, more]

mutual

/-- The members of a module as JSON; `label` gives the labels of types of modules. -/
def Module.overview (label : String → String) (m : Module σ) : List (String × Value) :=
  match m with
  | ⟨id, typeName, name, group, defaultPermission, parent, groupPath, preconditions, declared,
      submodules⟩ =>
    let m : Module σ := ⟨id, typeName, name, group, defaultPermission, parent, groupPath,
      preconditions, declared, submodules⟩
    [("type", .text (label typeName)), ("type_name", .text typeName), ("name", .text name),
      ("group", .ofOption (fun g => .text g.name) group),
      ("description", .ofOption (fun g => .text g.description) group),
      ("default_permission", .boolean defaultPermission), ("has_parent", .boolean parent.isSome),
      ("group_path", textsToJson groupPath), ("top_level_group", .boolean m.isTopLevelGroup),
      ("preconditions", .ofNat preconditions.length),
      ("commands", .ofList (fun c => c.line c.methodName) m.commands),
      ("submodules", .array (overviews label submodules)),
      ("descendants", textsToJson (m.descendants.map fun d => label d.typeName))]

/-- Modules as JSON. -/
def overviews (label : String → String) (ms : List (Module σ)) : List Value :=
  match ms with
  | [] => []
  | m :: ms => .object (m.overview label) :: overviews label ms

end

/-- The members of what the caller of a dispatch gets, as JSON. -/
def Execution.overview (e : Execution) : List (String × Value) :=
  match e.returned with
  | .ok result => [("result", result.toJson)]
  | .error f =>
    [("error", .text "Fault"), ("message", .text f.message), ("command", .text f.command),
      ("cause", .text f.cause), ("fault", f.fault.toJson)]

/-- What a transport has been asked for, as JSON. -/
def Recorded.overview (r : Recorded) : Value :=
  .object [("deleted", .ofNat r.deletedOriginals),
    ("choices", .ofList (.ofList Choice.toPair) r.choices)]

/-- The report as JSON. -/
def Report.overview (r : Report σ) : Value :=
  .object [("path", .text r.command.displayPath), ("kind", .text r.command.kind.name),
    ("interaction", .text r.context.interaction.kind.name),
    ("interaction_id", r.context.interaction.id.toJson),
    ("user", .text r.context.interaction.user.name), ("result", r.result.toJson),
    ("started", .ofNat r.started), ("completed", .ofNat r.completed)]

end ChatDispatch
