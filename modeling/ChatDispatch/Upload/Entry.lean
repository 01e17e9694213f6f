import ChatDispatch.Module.Basic
import ChatDispatch.Wire.Encode

/-!
# Descriptions of commands for the platform

The platform is told of all slash and menu commands at once. The commands under one group become
the options of a single command that is named for the group; a second group becomes an option of its
own with the commands below it.

* `describe` gives the descriptions for modules.
-/

namespace ChatDispatch.Upload

open Json (Value)

variable {σ : Type}

/-- The kinds of options. -/
inductive OptionKind where
  | subcommandGroup
  | subcommand
  | text
  | integer
  | number
  | boolean
  | user
  | channel
  | role
  | mentionable
  | attachment
deriving DecidableEq

/-- The description of an option: a group, a command below a group, or a parameter. -/
inductive OptionEntry where
  | mk (name description : String) (kind : OptionKind) (required : Bool) (choices : List Choice)
    (min max : Option Float) (autocomplete : Bool) (options : List OptionEntry)

namespace OptionEntry

/-- The name of the option. -/
def name : OptionEntry → String
  | mk name _ _ _ _ _ _ _ _ => name

/-- The description shown to users. -/
def description : OptionEntry → String
  | mk _ description _ _ _ _ _ _ _ => description

/-- The kind of the option. -/
def kind : OptionEntry → OptionKind
  | mk _ _ kind _ _ _ _ _ _ => kind

/-- Whether the option has to be given. -/
def required : OptionEntry → Bool
  | mk _ _ _ required _ _ _ _ _ => required

/-- Whether suggestions are given while the option is typed. -/
def autocomplete : OptionEntry → Bool
  | mk _ _ _ _ _ _ _ autocomplete _ => autocomplete

/-- The options below the option. -/
def options : OptionEntry → List OptionEntry
  | mk _ _ _ _ _ _ _ _ options => options

/-- A group or a command below a group. -/
def branch (name description : String) (kind : OptionKind) (options : List OptionEntry) :
    OptionEntry :=
  mk name description kind false [] none none false options

/-- Adds an option below the option, after all others. -/
def addOption : (option added : OptionEntry) → OptionEntry
  | mk name description kind required choices min max autocomplete options, added =>
    mk name description kind required choices min max autocomplete (options ++ [added])

end OptionEntry

/-- The description of a command. -/
structure CommandEntry where
  name : String
  kind : InvocationKind
  description : String
  defaultPermission : Bool
  options : List OptionEntry

/-! ## Parameters -/

/-- The kind of option that a type of arguments is given as. -/
def OptionKind.ofType (t : ArgType) : OptionKind :=
  if t.same .boolean then .boolean
  else if t.same (.integer .i64) || t.satisfies .integer then .integer
  else if t.same .float || t.satisfies .float then .number
  else if t.same .user || t.satisfies .user then .user
  else if t.same .role || t.satisfies .role then .role
  else if t.same .mentionable || t.satisfies .mentionable then .mentionable
  else if t.same .channel || t.satisfies .channel then .channel
  else if t.same .attachment || t.satisfies .attachment then .attachment
  else .text

/-- The choices of a parameter: its own or, if it has none, those of its type. -/
def choicesOf (p : ParameterSpec) : List Choice :=
  if p.choices.isEmpty && p.type.satisfies .choice then
    p.type.choices.map fun name => ⟨name, .text name⟩
  else p.choices

/-- The option for a parameter. -/
def parameterOption (p : Parameter σ) (autocomplete : Bool) : OptionEntry :=
  .mk p.name p.description (.ofType p.type) p.required (choicesOf p.toParameterSpec) p.min p.max
    autocomplete []

/-- The paths for which a loaded command gives suggestions, in lower case. -/
def suggestedPaths (modules : List (Module σ)) : List (List String) :=
  (modules.flatMap (·.autocompleteCommands)).map fun c =>
    (c.groupPath ++ Text.splitSpaces c.name).map Text.lowercase

/-- The options for the parameters of a command, in order. -/
def parameterOptions (suggested : List (List String)) (c : Command σ) : List OptionEntry :=
  c.parameters.map fun p =>
    let path := (c.path ++ [p.name]).map Text.lowercase
    parameterOption p (p.suggester.isSome || suggested.contains path)

/-! ## Commands and groups -/

/-- The description of the first module with a group path, the case of A to Z not counted; empty
when there is none or when it has no group of its own. -/
def groupDescription (modules : List (Module σ)) (path : List String) : String :=
  let owner := modules.find? fun m =>
    m.groupPath.length == path.length &&
      (m.groupPath.zip path).all fun (left, right) => Text.sameAscii left right
  ((owner.bind (·.group)).map (·.description)).getD ""

/-- Whether a group is open to everyone: what its first module says. -/
def groupPermission (modules : List (Module σ)) (group : String) : Bool :=
  let owner := modules.find? fun m =>
    m.isTopLevelGroup && m.group.any fun g => Text.sameAscii g.name group
  (owner.map (·.defaultPermission)).getD true

/-- Changes the first item that satisfies a condition, or a fresh one added at the end when there
is none. -/
def changeFirst {α : Type} (condition : α → Bool) (fresh : α) (change : α → α) : List α → List α
  | [] => [change fresh]
  | a :: as => if condition a then change a :: as else a :: changeFirst condition fresh change as

/-- Adds an option to the description named for a group. -/
def addToGroup (modules : List (Module σ)) (group : String)
    (change : List OptionEntry → List OptionEntry) : List CommandEntry → List CommandEntry :=
  changeFirst (fun entry => entry.kind = .chatInput ∧ Text.sameAscii entry.name group)
    { name := group
      kind := .chatInput
      description := groupDescription modules [group]
      defaultPermission := groupPermission modules group
      options := [] }
    fun entry => { entry with options := change entry.options }

/-- Adds an option to the option named for a second group. -/
def addToSubgroup (modules : List (Module σ)) (group subgroup : String) (added : OptionEntry) :
    List OptionEntry → List OptionEntry :=
  changeFirst
    (fun option => option.kind = .subcommandGroup ∧ Text.sameAscii option.name subgroup)
    (.branch subgroup (groupDescription modules [group, subgroup]) .subcommandGroup [])
    (·.addOption added)

/-- The description of a menu command. -/
def menuEntry (c : Command σ) : CommandEntry where
  name := c.name
  kind := if c.kind = .context .message then .message else .user
  description := ""
  defaultPermission := c.defaultPermission
  options := []

/-- Adds a slash command to the descriptions. -/
def addSlash (modules : List (Module σ)) (suggested : List (List String)) (c : Command σ)
    (entries : List CommandEntry) : List CommandEntry :=
  let options := parameterOptions suggested c
  let description := c.description.getD ""
  match c.groupPath with
  | [] => entries ++ [{
      name := c.name
      kind := .chatInput
      description := description
      defaultPermission := c.defaultPermission
      options := options }]
  | [group] =>
    addToGroup modules group (· ++ [.branch c.name description .subcommand options]) entries
  | group :: subgroup :: _ =>
    let added := OptionEntry.branch c.name description .subcommand options
    addToGroup modules group (addToSubgroup modules group subgroup added) entries

/-- Adds the commands of a module to the descriptions: its menu commands, then its slash
commands. -/
def addModule (modules : List (Module σ)) (suggested : List (List String)) (m : Module σ)
    (entries : List CommandEntry) : List CommandEntry :=
  m.slashCommands.foldl (fun entries c => addSlash modules suggested c entries)
    (entries ++ m.contextCommands.map menuEntry)

/-- The descriptions of the commands of root modules and of all modules below them. -/
def describe (roots : List (Module σ)) : List CommandEntry :=
  let modules := Module.forest roots
  let suggested := suggestedPaths modules
  modules.foldl (fun entries m => addModule modules suggested m entries) []

/-! ## As JSON -/

/-- The kind of option in words. -/
def OptionKind.word : OptionKind → String
  | .subcommandGroup => "subcommand_group"
  | .subcommand => "subcommand"
  | .text => "string"
  | .integer => "integer"
  | .number => "number"
  | .boolean => "boolean"
  | .user => "user"
  | .channel => "channel"
  | .role => "role"
  | .mentionable => "mentionable"
  | .attachment => "attachment"

/-- A member of an object that is left out when its value is absent. -/
def memberIf (name : String) : Option Value → List (String × Value)
  | some v => [(name, v)]
  | none => []

/-- An array that is absent when it is empty. -/
def arrayUnlessEmpty (items : List Value) : Option Value :=
  if items.isEmpty then none else some (.array items)

mutual

/-- The description of an option as JSON. Empty lists and absent bounds are left out. -/
def OptionEntry.toJson : OptionEntry → Value
  | .mk name description kind required choices min max autocomplete options =>
    .object ([("name", .text name), ("description", .text description),
        ("kind", .text kind.word), ("required", .boolean required)] ++
      memberIf "choices" (arrayUnlessEmpty (choices.map Choice.toJson)) ++
      memberIf "min_value" (min.map fun x => .number (.float x)) ++
      memberIf "max_value" (max.map fun x => .number (.float x)) ++
      [("autocomplete", .boolean autocomplete)] ++
      memberIf "options" (arrayUnlessEmpty (optionEntriesToJson options)))

/-- The descriptions of options as JSON. -/
def optionEntriesToJson : List OptionEntry → List Value
  | [] => []
  | o :: os => o.toJson :: optionEntriesToJson os

end

/-- The description of a command as JSON that can be written: bounds and choices that are infinite
or not a number are `null`. -/
def CommandEntry.toJson (c : CommandEntry) : Value :=
  Value.finite <| .object [("name", .text c.name), ("kind", .text c.kind.word),
    ("description", .text c.description), ("default_permission", .boolean c.defaultPermission),
    ("options", .array (optionEntriesToJson c.options))]

end ChatDispatch.Upload
