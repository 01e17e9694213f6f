import ChatDispatch.Proofs.JsonReading
import ChatDispatch.Wire.Decode

/-!
# Interactions survive being written

An interaction without doubles is read back from its JSON text as what it was, as long as no more arrays and
objects stand around one another in it than a reader enters. The same holds for raw values, mentioned entities
and options on their own.

* **`Interaction.rawValues`** — all the raw values in an interaction.
* **`OptionNode.reads_toJson`** — one option, by induction on the tree below it.
* **`Payload.reads_toJson`** — a payload of any kind.
* **`readWhole_write_toJson`** — the headline, about the texts.
-/

namespace ChatDispatch

open Json (Value Reads)
open Json.Shape (fills_required fills_optional)

/-! ## Raw values in an interaction

Doubles are the one kind of value that is not written exactly, so they are excluded. Where raw values can stand in
an interaction is listed here. -/

mutual

/-- The raw values in an option and below it. -/
def OptionNode.rawValues : OptionNode → List RawValue
  | .group _ options => rawValuesOf options
  | .subcommand _ options => rawValuesOf options
  | .value v => [v.value]

/-- The raw values in options and below them. -/
def rawValuesOf : List OptionNode → List RawValue
  | [] => []
  | o :: os => o.rawValues ++ rawValuesOf os

end

/-- The raw values in a payload. -/
def Payload.rawValues : Payload → List RawValue
  | .command data => rawValuesOf data.options ++ data.target.toList
  | .autocomplete data => rawValuesOf data.options
  | .component _ | .modal _ => []

/-- The raw values in an interaction. -/
def Interaction.rawValues (i : Interaction) : List RawValue := i.payload.rawValues

/-- None of the raw values is a double. -/
def NoNumber (vs : List RawValue) : Prop := ∀ x, RawValue.number x ∉ vs

namespace NoNumber

variable {vs ws : List RawValue} {v : RawValue}

theorem left (h : NoNumber (vs ++ ws)) : NoNumber vs := fun x hx => h x (List.mem_append_left ws hx)

theorem right (h : NoNumber (vs ++ ws)) : NoNumber ws := fun x hx => h x (List.mem_append_right vs hx)

theorem ne (h : NoNumber vs) (hv : v ∈ vs) (x : Float) : v ≠ .number x := fun heq => h x (heq ▸ hv)

end NoNumber

/-! ## Entities

An entity is an object whose members have different names. Each member is read by a reader for its own type, and
the entity from all of them. -/

theorem EntityId.reads_toJson (id : EntityId) : Reads EntityId.read id.toJson id :=
  (Json.reads_natural id.value).map EntityId.mk

/-- The members of a user give the user, also next to the members of something else. -/
theorem User.fills (u : User) : User.shape.Fills u.members u :=
  ((fills_required "id" (EntityId.reads_toJson u.id)).both (fills_required "name" (Json.reads_text u.name))
    (by simp)).map _

/-- The members of a role give the role, also next to the members of something else. -/
theorem Role.fills (r : Role) : Role.shape.Fills r.members r :=
  ((fills_required "id" (EntityId.reads_toJson r.id)).both (fills_required "name" (Json.reads_text r.name))
    (by simp)).map _

/-- A word is read back if it stands for the value in the list of words. -/
theorem reads_word {α : Type} {words : List (String × α)} {word : String} {a : α}
    (h : words.find? (·.1 == word) = some (word, a)) : Reads (readWord words) (.text word) a := by
  refine Json.reads_plain ?_
  rw [List.find?_map]
  exact congrArg (Option.map _) h

/-- The word for a kind of channel stands for this kind and for no other. -/
theorem ChannelKind.reads_word (k : ChannelKind) : Reads ChannelKind.read (.text k.word) k := by
  cases k <;> exact ChatDispatch.reads_word rfl

theorem Channel.reads_toJson (c : Channel) : Reads Channel.shape.read c.toJson c :=
  Json.reads_shape (((fills_required "id" (EntityId.reads_toJson c.id)).both
    ((fills_required "name" (Json.reads_text c.name)).both
      (fills_required "kind" (ChannelKind.reads_word c.kind)) (by simp)) (by simp)).map _)

theorem Message.reads_toJson (m : Message) : Reads Message.shape.read m.toJson m :=
  Json.reads_shape (((fills_required "id" (EntityId.reads_toJson m.id)).both
    ((fills_required "channel_id" (EntityId.reads_toJson m.channelId)).both
      (fills_required "content" (Json.reads_text m.content)) (by simp)) (by simp)).map _)

theorem Attachment.reads_toJson (a : Attachment) : Reads Attachment.shape.read a.toJson a :=
  Json.reads_shape (((fills_required "id" (EntityId.reads_toJson a.id)).both
    ((fills_required "filename" (Json.reads_text a.filename)).both
      (fills_required "url" (Json.reads_text a.url)) (by simp)) (by simp)).map _)

/-- A mentioned entity carries its tag among its own members, none of which has the name of the tag. -/
theorem Mentionable.reads_toJson (m : Mentionable) : Reads Mentionable.read m.toJson m := by
  cases m with
  | user u =>
    exact Json.reads_tagged rfl (by simp [User.members]) ((Json.reads_shape u.fills).map Mentionable.user)
  | role r =>
    exact Json.reads_tagged rfl (by simp [Role.members]) ((Json.reads_shape r.fills).map Mentionable.role)

/-! ## Raw values

A raw value is an object of two members, the tag for its kind and its content. The tag tells which reader is for
the content. -/

/-- A raw value other than a double is read back. -/
theorem RawValue.reads_toJson {v : RawValue} (h : ∀ x, v ≠ .number x) : Reads RawValue.read v.toJson v := by
  cases v with
  | text s => exact Json.reads_adjacent rfl (by decide) ((Json.reads_text s).map RawValue.text)
  | integer n => exact Json.reads_adjacent rfl (by decide) ((Json.reads_ofInt64 n).map RawValue.integer)
  | number x => exact absurd rfl (h x)
  | boolean b => exact Json.reads_adjacent rfl (by decide) ((Json.reads_boolean b).map RawValue.boolean)
  | user u => exact Json.reads_adjacent rfl (by decide) ((Json.reads_shape u.fills).map RawValue.user)
  | role r => exact Json.reads_adjacent rfl (by decide) ((Json.reads_shape r.fills).map RawValue.role)
  | mentionable m => exact Json.reads_adjacent rfl (by decide) (m.reads_toJson.map RawValue.mentionable)
  | channel c => exact Json.reads_adjacent rfl (by decide) (c.reads_toJson.map RawValue.channel)
  | message m => exact Json.reads_adjacent rfl (by decide) (m.reads_toJson.map RawValue.message)
  | attachment a => exact Json.reads_adjacent rfl (by decide) (a.reads_toJson.map RawValue.attachment)

/-! ## Options

Options nest, and the reader goes down with a depth that it must not exceed. A group or a command is two levels
deeper than what stands below it: the object, and the list of options in it. -/

theorem optionsToJson_eq_map (os : List OptionNode) : optionsToJson os = os.map OptionNode.toJson := by
  induction os with
  | nil => rfl
  | cons o os ih => rw [optionsToJson, ih, List.map_cons]

/-- The value of an option, with what the option itself adds. -/
theorem NamedValue.fills {v : NamedValue} (h : ∀ x, v.value ≠ .number x) :
    NamedValue.shape.Fills
      [("name", .text v.name), ("value", v.value.toJson), ("focused", .boolean v.focused)] v :=
  ((fills_required "name" (Json.reads_text v.name)).both
    ((fills_required "value" (RawValue.reads_toJson h)).both
      (fills_optional "focused" false (Json.reads_boolean v.focused)) (by simp)) (by simp)).map _

/-- The members of a group or a command give its name and the options below it. -/
theorem fills_branch {wrap : String → List OptionNode → OptionNode} {below : Json.Reader OptionNode}
    (name : String) {options : List OptionNode} (h : ∀ o ∈ options, Reads below o.toJson o) :
    (branchShape wrap below).Fills [("name", .text name), ("options", .array (optionsToJson options))]
      (wrap name options) := by
  rw [optionsToJson_eq_map]
  exact ((fills_required "name" (Json.reads_text name)).both
    (fills_required "options" (Json.reads_ofList h)) (by simp)).map _

/-- A group or a command nests two levels deeper than its options. -/
theorem nesting_branch (tag name : String) (items : List Value) :
    (Value.object [("type", .text tag), ("name", .text name), ("options", .array items)]).nesting =
      Json.nestingItems items + 2 := by
  simp [Value.nesting, Json.nestingMembers]

mutual

/-- **An option is read back**, by a reader that goes as deep as the option. -/
theorem OptionNode.reads_toJson : (o : OptionNode) → (depth : Nat) → NoNumber o.rawValues →
    o.toJson.nesting ≤ depth → Reads (readOptionNode depth) o.toJson o
  | .group name options, 0, _, hdepth => by
    rw [OptionNode.toJson, nesting_branch] at hdepth
    omega
  | .subcommand name options, 0, _, hdepth => by
    rw [OptionNode.toJson, nesting_branch] at hdepth
    omega
  | .value v, 0, _, hdepth => by
    rw [OptionNode.toJson, Value.nesting] at hdepth
    omega
  | .group name options, depth + 1, hnumber, hdepth => by
    rw [OptionNode.toJson, nesting_branch] at hdepth
    -- two levels are left behind, so the options below are within reach
    have hoptions := reads_optionsToJson options depth hnumber (by omega)
    rw [OptionNode.toJson, readOptionNode]
    exact Json.reads_tagged rfl (by simp) (Json.reads_shape (fills_branch name hoptions))
  | .subcommand name options, depth + 1, hnumber, hdepth => by
    rw [OptionNode.toJson, nesting_branch] at hdepth
    have hoptions := reads_optionsToJson options depth hnumber (by omega)
    rw [OptionNode.toJson, readOptionNode]
    exact Json.reads_tagged rfl (by simp) (Json.reads_shape (fills_branch name hoptions))
  | .value v, depth + 1, hnumber, _ => by
    have hvalue : ∀ x, v.value ≠ .number x := hnumber.ne (List.mem_singleton_self _)
    rw [OptionNode.toJson, readOptionNode]
    exact Json.reads_tagged rfl (by simp) ((Json.reads_shape (NamedValue.fills hvalue)).map OptionNode.value)

/-- All options of a list are read back, by a reader that goes as deep as the deepest of them. -/
theorem reads_optionsToJson : (os : List OptionNode) → (depth : Nat) → NoNumber (rawValuesOf os) →
    Json.nestingItems (optionsToJson os) ≤ depth → ∀ o ∈ os, Reads (readOptionNode depth) o.toJson o
  | [], _, _, _ => by simp
  | o :: os, depth, hnumber, hdepth => by
    rw [rawValuesOf] at hnumber
    rw [optionsToJson, Json.nestingItems, Nat.max_le] at hdepth
    rw [List.forall_mem_cons]
    refine ⟨o.reads_toJson depth hnumber.left hdepth.1, ?_⟩
    exact reads_optionsToJson os depth hnumber.right hdepth.2

end

/-- Options are read back as members of a payload. -/
theorem reads_options {os : List OptionNode} (hnumber : NoNumber (rawValuesOf os))
    (hdepth : (Value.array (optionsToJson os)).nesting ≤ Json.depthLimit) :
    Reads (Json.readList OptionNode.read) (.array (optionsToJson os)) os := by
  have hoptions := reads_optionsToJson os Json.depthLimit hnumber (Nat.le_of_lt hdepth)
  rw [optionsToJson_eq_map]
  exact Json.reads_ofList hoptions

/-! ## Payloads

The kinds of payload differ in their members only. What is missing has a default, and the writer leaves nothing
out. -/

/-- The word for a kind of command stands for this kind and for no other. -/
theorem InvocationKind.reads_word (k : InvocationKind) : Reads InvocationKind.read (.text k.word) k := by
  cases k <;> exact ChatDispatch.reads_word rfl

/-- A use of a command is read back with its options and its target. -/
theorem Invocation.reads_toJson {i : Invocation}
    (hnumber : NoNumber (rawValuesOf i.options ++ i.target.toList))
    (hdepth : i.toJson.nesting ≤ Json.depthLimit) : Reads Invocation.shape.read i.toJson i := by
  -- the options are a member, so they nest less deep than the whole
  have hbelow : (Value.array (optionsToJson i.options)).nesting < i.toJson.nesting :=
    Json.nesting_lt_of_mem (m := ("options", _)) (by simp)
  have hoptions := reads_options hnumber.left (by omega)
  have htarget : Reads (Json.readOption RawValue.read) (.ofOption RawValue.toJson i.target) i.target := by
    refine Json.reads_ofOption (by simp [RawValue.toJson, tagged]) fun v hv => ?_
    exact RawValue.reads_toJson (hnumber.right.ne (Option.mem_toList.mpr hv))
  exact Json.reads_shape (((fills_required "name" (Json.reads_text i.name)).both
    ((fills_required "command_type" i.kind.reads_word).both
      ((fills_optional "options" [] hoptions).both (fills_optional "target" none htarget) (by simp))
      (by simp)) (by simp)).map _)

theorem ComponentUse.reads_toJson (c : ComponentUse) : Reads ComponentUse.shape.read c.toJson c := by
  have hvalues : Reads (Json.readList Json.readText) (.ofList .text c.values) c.values :=
    Json.reads_ofList fun s _ => Json.reads_text s
  exact Json.reads_shape (((fills_required "custom_id" (Json.reads_text c.customId)).both
    (fills_optional "values" [] hvalues) (by simp)).map _)

theorem FormField.reads_toJson (f : FormField) : Reads FormField.shape.read f.toJson f :=
  Json.reads_shape (((fills_required "custom_id" (Json.reads_text f.customId)).both
    (fills_required "value" (Json.reads_text f.value)) (by simp)).map _)

theorem FormSubmission.reads_toJson (f : FormSubmission) : Reads FormSubmission.shape.read f.toJson f := by
  have hfields : Reads (Json.readList FormField.shape.read) (.ofList FormField.toJson f.fields) f.fields :=
    Json.reads_ofList fun field _ => field.reads_toJson
  exact Json.reads_shape (((fills_required "custom_id" (Json.reads_text f.customId)).both
    (fills_optional "fields" [] hfields) (by simp)).map _)

/-- A request for suggestions is read back. -/
theorem CompletionRequest.reads_toJson {r : CompletionRequest} (hnumber : NoNumber (rawValuesOf r.options))
    (hdepth : r.toJson.nesting ≤ Json.depthLimit) : Reads CompletionRequest.shape.read r.toJson r := by
  have hbelow : (Value.array (optionsToJson r.options)).nesting < r.toJson.nesting :=
    Json.nesting_lt_of_mem (m := ("options", _)) (by simp)
  have hoptions := reads_options hnumber (by omega)
  exact Json.reads_shape (((fills_required "name" (Json.reads_text r.name)).both
    (fills_optional "options" [] hoptions) (by simp)).map _)

/-- **A payload of any kind is read back.** -/
theorem Payload.reads_toJson {p : Payload} (hnumber : NoNumber p.rawValues)
    (hdepth : p.toJson.nesting ≤ Json.depthLimit) : Reads Payload.read p.toJson p := by
  cases p with
  | command data =>
    have hdata : data.toJson.nesting < (Payload.command data).toJson.nesting :=
      Json.nesting_lt_of_mem (m := ("data", data.toJson)) (by simp)
    exact Json.reads_adjacent rfl (by decide) ((data.reads_toJson hnumber (by omega)).map Payload.command)
  | component data => exact Json.reads_adjacent rfl (by decide) (data.reads_toJson.map Payload.component)
  | autocomplete data =>
    have hdata : data.toJson.nesting < (Payload.autocomplete data).toJson.nesting :=
      Json.nesting_lt_of_mem (m := ("data", data.toJson)) (by simp)
    exact Json.reads_adjacent rfl (by decide) ((data.reads_toJson hnumber (by omega)).map Payload.autocomplete)
  | modal data => exact Json.reads_adjacent rfl (by decide) (data.reads_toJson.map Payload.modal)

/-! ## Interactions

An interaction is read back member by member, where the places that it may lack are null. -/

theorem reads_optionalId (id : Option EntityId) :
    Reads (Json.readOption EntityId.read) (.ofOption EntityId.toJson id) id :=
  Json.reads_ofOption (by simp [EntityId.toJson]) fun id _ => id.reads_toJson

/-- **An interaction is read back** from its JSON. -/
theorem Interaction.reads_toJson {i : Interaction} (hnumber : NoNumber i.rawValues)
    (hdepth : i.toJson.nesting ≤ Json.depthLimit) : Reads Interaction.shape.read i.toJson i := by
  -- the payload is a member, so it nests less deep than the whole
  have hdata : i.payload.toJson.nesting < i.toJson.nesting :=
    Json.nesting_lt_of_mem (m := ("data", i.payload.toJson)) (by simp)
  have hpayload := i.payload.reads_toJson hnumber (by omega)
  exact Json.reads_shape (((fills_required "id" i.id.reads_toJson).both
    ((fills_required "user" (Json.reads_shape i.user.fills)).both
      ((fills_optional "guild_id" none (reads_optionalId i.guild)).both
        ((fills_optional "channel_id" none (reads_optionalId i.channel)).both
          (fills_required "data" hpayload) (by simp)) (by simp)) (by simp))
    (by simp)).map _)

/-! ## No doubles

The text of a value is the text of its JSON only if there are no doubles in it, which is true of an interaction if
it is of its raw values. -/

theorem Mentionable.exact_toJson (m : Mentionable) : m.toJson.Exact := by
  cases m <;> exact ⟨trivial, trivial, trivial, trivial⟩

/-- The JSON of a raw value other than a double is exact. -/
theorem RawValue.exact_toJson {v : RawValue} (h : ∀ x, v ≠ .number x) : v.toJson.Exact := by
  refine ⟨trivial, ?_, trivial⟩
  cases v with
  | integer n => exact Json.exact_ofInt64 n
  | number x => exact absurd rfl (h x)
  | mentionable m => exact m.exact_toJson
  | text _ | boolean _ => trivial
  | user _ | role _ => exact ⟨trivial, trivial, trivial⟩
  | channel _ | message _ | attachment _ => exact ⟨trivial, trivial, trivial, trivial⟩

mutual

/-- The JSON of an option without doubles is exact, by the tree below it. -/
theorem OptionNode.exact_toJson : (o : OptionNode) → NoNumber o.rawValues → o.toJson.Exact
  | .group _ options, h => ⟨trivial, trivial, exact_optionsToJson options h, trivial⟩
  | .subcommand _ options, h => ⟨trivial, trivial, exact_optionsToJson options h, trivial⟩
  | .value _, h =>
    have hvalue := RawValue.exact_toJson (h.ne (List.mem_singleton_self _))
    ⟨trivial, trivial, hvalue, trivial, trivial⟩

theorem exact_optionsToJson : (os : List OptionNode) → NoNumber (rawValuesOf os) →
    Json.ExactItems (optionsToJson os)
  | [], _ => trivial
  | o :: os, h => ⟨o.exact_toJson h.left, exact_optionsToJson os h.right⟩

end

/-- The JSON of a payload without doubles is exact. -/
theorem Payload.exact_toJson {p : Payload} (h : NoNumber p.rawValues) : p.toJson.Exact := by
  cases p with
  | command data =>
    have hoptions := exact_optionsToJson data.options (NoNumber.left h)
    -- the values of a command are those of its options and of its target
    have htarget : (Value.ofOption RawValue.toJson data.target).Exact :=
      Json.exact_ofOption fun v hv => RawValue.exact_toJson (NoNumber.right h |>.ne (Option.mem_toList.mpr hv))
    exact ⟨trivial, ⟨trivial, trivial, hoptions, htarget, trivial⟩, trivial⟩
  | component data =>
    have hvalues := Json.exact_ofList Value.text data.values fun _ _ => trivial
    exact ⟨trivial, ⟨trivial, hvalues, trivial⟩, trivial⟩
  | autocomplete data => exact ⟨trivial, ⟨trivial, exact_optionsToJson data.options h, trivial⟩, trivial⟩
  | modal data =>
    have hfields := Json.exact_ofList FormField.toJson data.fields fun _ _ => ⟨trivial, trivial, trivial⟩
    exact ⟨trivial, ⟨trivial, hfields, trivial⟩, trivial⟩

theorem Interaction.exact_toJson {i : Interaction} (h : NoNumber i.rawValues) : i.toJson.Exact := by
  have hguild : (Value.ofOption EntityId.toJson i.guild).Exact := Json.exact_ofOption fun _ _ => trivial
  have hchannel : (Value.ofOption EntityId.toJson i.channel).Exact := Json.exact_ofOption fun _ _ => trivial
  exact ⟨trivial, ⟨trivial, trivial, trivial⟩, hguild, hchannel, Payload.exact_toJson h, trivial⟩

/-! ## Texts

The JSON is read back, the JSON is exact, and it does not nest too deep: so the text is read back. -/

theorem Mentionable.nesting_toJson (m : Mentionable) : m.toJson.nesting = 1 := by
  cases m <;> rfl

/-- A raw value on its own is far from the limit on arrays and objects around one another. -/
theorem RawValue.nesting_toJson_le (v : RawValue) : v.toJson.nesting ≤ 2 := by
  -- the content is no array, and no object stands in it
  have hcontent : v.content.nesting ≤ 1 := by
    cases v with
    | mentionable m => exact Nat.le_of_eq m.nesting_toJson
    | text _ | integer _ | number _ | boolean _ => exact Nat.zero_le 1
    | user _ | role _ | channel _ | message _ | attachment _ => exact Nat.le_refl 1
  show max 0 (max v.content.nesting 0) + 1 ≤ 2
  omega

/-- **Interactions survive being written.** The text of an interaction without doubles is read back as the
interaction, if its arrays and objects do not stand around one another beyond the limit of the reader. So are
the texts of raw values other than doubles, of mentioned entities and of options on their own. -/
theorem readWhole_write_toJson :
    (∀ i : Interaction, NoNumber i.rawValues → i.toJson.nesting < Json.depthLimit →
      Json.readWhole Interaction.shape.read (Json.write i.toJson) = .ok i) ∧
    (∀ v : RawValue, (∀ x, v ≠ .number x) → Json.readWhole RawValue.read (Json.write v.toJson) = .ok v) ∧
    (∀ m : Mentionable, Json.readWhole Mentionable.read (Json.write m.toJson) = .ok m) ∧
    (∀ o : OptionNode, NoNumber o.rawValues → o.toJson.nesting < Json.depthLimit →
      Json.readWhole OptionNode.read (Json.write o.toJson) = .ok o) := by
  refine ⟨fun i hnumber hdepth => ?_, fun v hnumber => ?_, fun m => ?_, fun o hnumber hdepth => ?_⟩
  · exact Json.readWhole_write (Interaction.exact_toJson hnumber) hdepth
      (Interaction.reads_toJson hnumber (Nat.le_of_lt hdepth))
  · -- values are shallow, whatever they hold
    have hdepth : v.toJson.nesting < Json.depthLimit := Nat.lt_of_le_of_lt v.nesting_toJson_le (by decide)
    exact Json.readWhole_write (RawValue.exact_toJson hnumber) hdepth (RawValue.reads_toJson hnumber)
  · have hdepth : m.toJson.nesting < Json.depthLimit := m.nesting_toJson ▸ (by decide)
    exact Json.readWhole_write m.exact_toJson hdepth m.reads_toJson
  · exact Json.readWhole_write (o.exact_toJson hnumber) hdepth
      (o.reads_toJson Json.depthLimit hnumber (Nat.le_of_lt hdepth))

/-- Somebody with the greatest identifier grants a role in a subcommand of a group, for a number of days. -/
def Sample.grant : Interaction where
  id := ⟨18446744073709551615⟩
  user := ⟨⟨7⟩, "ada \"the first\""⟩
  guild := none
  channel := some ⟨0⟩
  payload := .command {
    name := "admin"
    kind := .chatInput
    options := [.group "roles" [.subcommand "grant" [
      .value ⟨"role", .mentionable (.role ⟨⟨9⟩, "crew"⟩), false⟩,
      .value ⟨"days", .integer (-9223372036854775808), true⟩]]]
    target := none }

/-- The greatest identifier and the least integer are among what is read back, two levels of options deep. -/
theorem readWhole_write_toJson_grant :
    NoNumber Sample.grant.rawValues ∧ Sample.grant.toJson.nesting < Json.depthLimit ∧
      Json.readWhole Interaction.shape.read (Json.write Sample.grant.toJson) = .ok Sample.grant := by
  have hnumber : NoNumber Sample.grant.rawValues := by
    intro x
    simp [Sample.grant, Interaction.rawValues, Payload.rawValues, rawValuesOf, OptionNode.rawValues]
  have hdepth : Sample.grant.toJson.nesting < Json.depthLimit := by decide
  exact ⟨hnumber, hdepth, readWhole_write_toJson.1 Sample.grant hnumber hdepth⟩

end ChatDispatch
