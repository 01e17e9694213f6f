import ChatDispatch.Wire.Decode

/-!
# Settings of a dispatcher

What a host decides about the work of a dispatcher. Settings are read from JSON, where a setting
that is left out keeps its default.
-/

namespace ChatDispatch

/-- The settings of a dispatcher. -/
structure Settings where
  /-- The run mode of commands that declare none. -/
  runMode : RunMode := .detached
  /-- Whether the faults of inline dispatches are passed on to their callers. -/
  raiseFaults : Bool := true
  /-- The text that stands for a capture in the identifiers of components, forms and suggestions;
  without one every identifier is literal. -/
  wildcard : Option String := some "*"
  /-- The characters that cut the identifiers of components and forms into tokens. -/
  delimiters : List Char := []
  /-- Whether the suggesters of parameters are asked when no command gives suggestions. -/
  useSuggesters : Bool := true
  /-- Whether the acknowledgement of an unknown slash or menu command is taken back. -/
  deleteUnknownCommand : Bool := false
  /-- Whether the acknowledgement of an unknown component or form is taken back. -/
  deleteUnknownComponent : Bool := false
  /-- How many reports are kept for subscribers, before rounding. -/
  reportCapacity : Nat := 64

/-- The settings of a dispatcher whose callers wait for every handler. -/
def Settings.inline : Settings := { runMode := .inline }

/-- The settings as JSON. -/
def Settings.toJson (s : Settings) : Json.Value :=
  .object [("default_run_mode", .text s.runMode.word),
    ("throw_on_error", .boolean s.raiseFaults),
    ("wildcard_marker", .ofOption .text s.wildcard),
    ("custom_id_delimiters", .ofList (fun c => .text (String.singleton c)) s.delimiters),
    ("enable_autocomplete_handlers", .boolean s.useSuggesters),
    ("delete_unknown_slash_command_ack", .boolean s.deleteUnknownCommand),
    ("delete_unknown_component_ack", .boolean s.deleteUnknownComponent),
    ("notification_capacity", .ofNat s.reportCapacity)]

/-- The shape of settings. -/
def Settings.shape : Json.Shape Settings :=
  let default : Settings := {}
  (Json.Shape.both (.optional "default_run_mode" RunMode.read default.runMode)
    (.both (.optional "throw_on_error" Json.readBool default.raiseFaults)
      (.both (.optional "wildcard_marker" (Json.readOption Json.readText) default.wildcard)
        (.both (.optional "custom_id_delimiters" (Json.readList Json.readChar) default.delimiters)
          (.both (.optional "enable_autocomplete_handlers" Json.readBool default.useSuggesters)
            (.both (.optional "delete_unknown_slash_command_ack" Json.readBool
                default.deleteUnknownCommand)
              (.both (.optional "delete_unknown_component_ack" Json.readBool
                  default.deleteUnknownComponent)
                (.optional "notification_capacity" (readAs UInt64.toNat Json.readUInt64)
                  default.reportCapacity)))))))).map
    fun (runMode, raiseFaults, wildcard, delimiters, useSuggesters, deleteUnknownCommand,
        deleteUnknownComponent, reportCapacity) =>
      { runMode, raiseFaults, wildcard, delimiters, useSuggesters, deleteUnknownCommand,
        deleteUnknownComponent, reportCapacity }

/-- Settings from a JSON text. -/
def Settings.ofText (s : String) : Except Json.ReadError Settings :=
  Json.readWhole Settings.shape.read s

end ChatDispatch
