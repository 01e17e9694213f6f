import ChatDispatch.Json.Reader
import ChatDispatch.Wire.Encode

/-!
# Interactions from JSON

How interactions and their parts are read from JSON. Members may come in any order and unknown ones
are passed over; a few members may be left out.
-/

namespace ChatDispatch

open Json (Reader ReadError Shape Variant readText readTagged readAdjacent readEnum readList
  readOption)

/-- Reads plain variants by their names. -/
def readWord {α : Type} (words : List (String × α)) : Reader α :=
  readEnum (words.map fun (word, a) => (word, Variant.plain a))

/-- Reads an identifier of an entity. -/
def EntityId.read : Reader EntityId := fun source d => (Json.readUInt64 source d).map .mk

/-- The shape of a user. -/
def User.shape : Shape User :=
  (Shape.both (.required "id" EntityId.read) (.required "name" readText)).map fun (id, name) =>
    ⟨id, name⟩

/-- The shape of a role. -/
def Role.shape : Shape Role :=
  (Shape.both (.required "id" EntityId.read) (.required "name" readText)).map fun (id, name) =>
    ⟨id, name⟩

/-- Reads a kind of channel. -/
def ChannelKind.read : Reader ChannelKind :=
  readWord [("text", .text), ("voice", .voice), ("category", .category), ("thread", .thread)]

/-- The shape of a channel. -/
def Channel.shape : Shape Channel :=
  (Shape.both (.required "id" EntityId.read)
    (.both (.required "name" readText) (.required "kind" ChannelKind.read))).map
    fun (id, name, kind) => ⟨id, name, kind⟩

/-- The shape of a message. -/
def Message.shape : Shape Message :=
  (Shape.both (.required "id" EntityId.read)
    (.both (.required "channel_id" EntityId.read) (.required "content" readText))).map
    fun (id, channelId, content) => ⟨id, channelId, content⟩

/-- The shape of an attachment. -/
def Attachment.shape : Shape Attachment :=
  (Shape.both (.required "id" EntityId.read)
    (.both (.required "filename" readText) (.required "url" readText))).map
    fun (id, filename, url) => ⟨id, filename, url⟩

/-- Reads what another reader reads and wraps it. -/
def readAs {α β : Type} (wrap : α → β) (read : Reader α) : Reader β :=
  fun source d => (read source d).map wrap

/-- Reads a mentioned entity. -/
def Mentionable.read : Reader Mentionable :=
  readTagged "type" [
    ("user", readAs .user User.shape.read),
    ("role", readAs .role Role.shape.read)]

/-- Reads a raw value. -/
def RawValue.read : Reader RawValue :=
  readAdjacent "type" "value" [
    ("string", readAs .text readText),
    ("integer", readAs .integer Json.readInt64),
    ("number", readAs .number Json.readFloat),
    ("boolean", readAs .boolean Json.readBool),
    ("user", readAs .user User.shape.read),
    ("role", readAs .role Role.shape.read),
    ("mentionable", readAs .mentionable Mentionable.read),
    ("channel", readAs .channel Channel.shape.read),
    ("message", readAs .message Message.shape.read),
    ("attachment", readAs .attachment Attachment.shape.read)]

/-- The shape of an option with options below it, which `below` reads. -/
def branchShape (wrap : String → List OptionNode → OptionNode) (below : Reader OptionNode) :
    Shape OptionNode :=
  (Shape.both (.required "name" readText) (.required "options" (readList below))).map
    fun (name, options) => wrap name options

/-- The shape of an option with a value. -/
def NamedValue.shape : Shape NamedValue :=
  (Shape.both (.required "name" readText)
    (.both (.required "value" RawValue.read) (.optional "focused" Json.readBool false))).map
    fun (name, value, focused) => ⟨name, value, focused⟩

/-- Reads an option with at most `depth` options around one another. -/
def readOptionNode : (depth : Nat) → Reader OptionNode
  | 0 => fun _ _ => .error .malformed
  | depth + 1 =>
    readTagged "type" [
      ("subcommand_group", (branchShape .group (readOptionNode depth)).read),
      ("subcommand", (branchShape .subcommand (readOptionNode depth)).read),
      ("value", readAs .value NamedValue.shape.read)]

/-- Reads an option. Options around one another are arrays and objects around one another, so the
limit on those bounds the depth. -/
def OptionNode.read : Reader OptionNode := readOptionNode Json.depthLimit

/-- Reads what a command is invoked from. -/
def InvocationKind.read : Reader InvocationKind :=
  readWord [("chat_input", .chatInput), ("user", .user), ("message", .message)]

/-- The shape of an invocation. -/
def Invocation.shape : Shape Invocation :=
  (Shape.both (.required "name" readText)
    (.both (.required "command_type" InvocationKind.read)
      (.both (.optional "options" (readList OptionNode.read) [])
        (.optional "target" (readOption RawValue.read) none)))).map
    fun (name, kind, options, target) => ⟨name, kind, options, target⟩

/-- The shape of the use of a component. -/
def ComponentUse.shape : Shape ComponentUse :=
  (Shape.both (.required "custom_id" readText) (.optional "values" (readList readText) [])).map
    fun (customId, values) => ⟨customId, values⟩

/-- The shape of a field of a form. -/
def FormField.shape : Shape FormField :=
  (Shape.both (.required "custom_id" readText) (.required "value" readText)).map
    fun (customId, value) => ⟨customId, value⟩

/-- The shape of the submission of a form. -/
def FormSubmission.shape : Shape FormSubmission :=
  (Shape.both (.required "custom_id" readText)
    (.optional "fields" (readList FormField.shape.read) [])).map
    fun (customId, fields) => ⟨customId, fields⟩

/-- The shape of a request for suggestions. -/
def CompletionRequest.shape : Shape CompletionRequest :=
  (Shape.both (.required "name" readText)
    (.optional "options" (readList OptionNode.read) [])).map
    fun (name, options) => ⟨name, options⟩

/-- Reads a payload. -/
def Payload.read : Reader Payload :=
  readAdjacent "type" "data" [
    ("command", readAs .command Invocation.shape.read),
    ("component", readAs .component ComponentUse.shape.read),
    ("autocomplete", readAs .autocomplete CompletionRequest.shape.read),
    ("modal_submit", readAs .modal FormSubmission.shape.read)]

/-- The shape of an interaction. -/
def Interaction.shape : Shape Interaction :=
  (Shape.both (.required "id" EntityId.read)
    (.both (.required "user" User.shape.read)
      (.both (.optional "guild_id" (readOption EntityId.read) none)
        (.both (.optional "channel_id" (readOption EntityId.read) none)
          (.required "data" Payload.read))))).map
    fun (id, user, guild, channel, payload) => ⟨id, user, guild, channel, payload⟩

/-- Reads the text of a module identifier. -/
def ModuleId.read : Reader ModuleId := fun source d => do
  match ModuleId.read? (← readText source d) with
  | some id => .ok id
  | none => .error .mismatched

/-- Reads a run mode. -/
def RunMode.read : Reader RunMode := readWord [("sync", .inline), ("async", .detached)]

/-- Reads what the menu of a command belongs to. -/
def MenuTarget.read : Reader MenuTarget := readWord [("user", .user), ("message", .message)]

/-- Reads a kind of command. -/
def CommandKind.read : Reader CommandKind :=
  readEnum [
    ("slash", .plain .slash),
    ("context", .wrapping (readAs .context MenuTarget.read)),
    ("component", .plain .component),
    ("autocomplete", .plain .autocomplete),
    ("modal", .plain .modal)]

/-- Reads a kind of interaction. -/
def InteractionKind.read : Reader InteractionKind :=
  readWord ([.applicationCommand, .messageComponent, .autocomplete, .modalSubmit].map
    fun k : InteractionKind => (k.name, k))

/-- Reads a kind of failure. -/
def FailureKind.read : Reader FailureKind :=
  readWord ([.unknownCommand, .parseFailed, .badArgs, .exception, .unsuccessful,
    .unmetPrecondition].map fun k : FailureKind => (k.name, k))

end ChatDispatch
