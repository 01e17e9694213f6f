import ChatDispatch.Command.Kind
import ChatDispatch.Json.Basic
import ChatDispatch.Module.Uuid
import ChatDispatch.Outcome.Result

/-!
# Interactions as JSON

How interactions, their parts and the results of dispatches are written as JSON. Variants with a
name for their content are written as an object of a tag and the content; a mentioned entity and an
option carry the tag among their own members.
-/

namespace ChatDispatch

open Json (Value)

/-- An object of a tag and a content. -/
def tagged (tag content : String) (name : String) (value : Value) : Value :=
  .object [(tag, .text name), (content, value)]

/-- The identifier as JSON. -/
def EntityId.toJson (id : EntityId) : Value := .number (.natural id.value)

/-- The members of a user. -/
def User.members (u : User) : List (String × Value) :=
  [("id", u.id.toJson), ("name", .text u.name)]

/-- The user as JSON. -/
def User.toJson (u : User) : Value := .object u.members

/-- The members of a role. -/
def Role.members (r : Role) : List (String × Value) :=
  [("id", r.id.toJson), ("name", .text r.name)]

/-- The role as JSON. -/
def Role.toJson (r : Role) : Value := .object r.members

/-- The kind of channel in a word. -/
def ChannelKind.word : ChannelKind → String
  | .text => "text"
  | .voice => "voice"
  | .category => "category"
  | .thread => "thread"

/-- The channel as JSON. -/
def Channel.toJson (c : Channel) : Value :=
  .object [("id", c.id.toJson), ("name", .text c.name), ("kind", .text c.kind.word)]

/-- The message as JSON. -/
def Message.toJson (m : Message) : Value :=
  .object [("id", m.id.toJson), ("channel_id", m.channelId.toJson), ("content", .text m.content)]

/-- The attachment as JSON. -/
def Attachment.toJson (a : Attachment) : Value :=
  .object [("id", a.id.toJson), ("filename", .text a.filename), ("url", .text a.url)]

/-- The mentioned entity as JSON. -/
def Mentionable.toJson : Mentionable → Value
  | .user u => .object (("type", .text "user") :: u.members)
  | .role r => .object (("type", .text "role") :: r.members)

/-- The content of a raw value as JSON. -/
def RawValue.content : RawValue → Value
  | .text s => .text s
  | .integer n => .ofInt64 n
  | .number x => .number (.float x)
  | .boolean b => .boolean b
  | .user u => u.toJson
  | .role r => r.toJson
  | .mentionable m => m.toJson
  | .channel c => c.toJson
  | .message m => m.toJson
  | .attachment a => a.toJson

/-- The raw value as JSON. -/
def RawValue.toJson (v : RawValue) : Value := tagged "type" "value" v.kindName v.content

/-- The choice as JSON. -/
def Choice.toJson (c : Choice) : Value :=
  .object [("name", .text c.name), ("value", c.value.toJson)]

mutual

/-- The option as JSON. -/
def OptionNode.toJson : OptionNode → Value
  | .group name options =>
    .object [("type", .text "subcommand_group"), ("name", .text name),
      ("options", .array (optionsToJson options))]
  | .subcommand name options =>
    .object [("type", .text "subcommand"), ("name", .text name),
      ("options", .array (optionsToJson options))]
  | .value v =>
    .object [("type", .text "value"), ("name", .text v.name), ("value", v.value.toJson),
      ("focused", .boolean v.focused)]

/-- The options as JSON. -/
def optionsToJson : List OptionNode → List Value
  | [] => []
  | o :: os => o.toJson :: optionsToJson os

end

/-- What a command is invoked from, in a word. -/
def InvocationKind.word : InvocationKind → String
  | .chatInput => "chat_input"
  | .user => "user"
  | .message => "message"

/-- The invocation as JSON. -/
def Invocation.toJson (i : Invocation) : Value :=
  .object [("name", .text i.name), ("command_type", .text i.kind.word),
    ("options", .array (optionsToJson i.options)),
    ("target", .ofOption RawValue.toJson i.target)]

/-- The use of a component as JSON. -/
def ComponentUse.toJson (c : ComponentUse) : Value :=
  .object [("custom_id", .text c.customId), ("values", .ofList .text c.values)]

/-- The field of a form as JSON. -/
def FormField.toJson (f : FormField) : Value :=
  .object [("custom_id", .text f.customId), ("value", .text f.value)]

/-- The submission of a form as JSON. -/
def FormSubmission.toJson (f : FormSubmission) : Value :=
  .object [("custom_id", .text f.customId), ("fields", .ofList FormField.toJson f.fields)]

/-- The request for suggestions as JSON. -/
def CompletionRequest.toJson (r : CompletionRequest) : Value :=
  .object [("name", .text r.name), ("options", .array (optionsToJson r.options))]

/-- The payload as JSON. -/
def Payload.toJson : Payload → Value
  | .command data => tagged "type" "data" "command" data.toJson
  | .component data => tagged "type" "data" "component" data.toJson
  | .autocomplete data => tagged "type" "data" "autocomplete" data.toJson
  | .modal data => tagged "type" "data" "modal_submit" data.toJson

/-- The interaction as JSON. -/
def Interaction.toJson (i : Interaction) : Value :=
  .object [("id", i.id.toJson), ("user", i.user.toJson),
    ("guild_id", .ofOption EntityId.toJson i.guild),
    ("channel_id", .ofOption EntityId.toJson i.channel), ("data", i.payload.toJson)]

/-- The kind of command as JSON. -/
def CommandKind.toJson : CommandKind → Value
  | .context target => .object [("context", .text (CommandKind.context target).name)]
  | kind => .text kind.name

/-- The fault as JSON: its text, the text of its innermost error, and whether that is a panic. -/
def Fault.toJson (f : Fault) : Value :=
  .object [("display", .text f.message), ("root", .text f.root), ("panic", .boolean f.isPanic)]

mutual

/-- The result as JSON. A failure has nested results and a fault only where there are any. -/
def Result.toJson : Result → Value
  | .success => .text "success"
  | .failure kind reason nested =>
    .object ([("kind", .text kind.name), ("reason", .text reason)] ++
      (if nested.isEmpty then [] else [("nested", .array (resultsToJson nested))]))
  | .ofFault fault =>
    .object [("kind", .text FailureKind.exception.name), ("reason", .text fault.root),
      ("fault", fault.toJson)]

/-- The results as JSON. -/
def resultsToJson : List Result → List Value
  | [] => []
  | r :: rs => r.toJson :: resultsToJson rs

end

/-- The run mode in a word. -/
def RunMode.word : RunMode → String
  | .inline => "sync"
  | .detached => "async"

end ChatDispatch
