import ChatDispatch.Argument.Basic
import ChatDispatch.Argument.Family

/-!
# Argument types

An argument type has a name and, for every family through which converters can serve it, an adapter
that makes a value of the type from a raw value prepared for the family.

* `ArgType.adapterFor?` finds the adapter under a family that lies deepest.
* The types that the library brings along follow.
-/

namespace ChatDispatch

/-- How values of one type are made from the raw values of a family. -/
structure Adapter where
  family : Family
  adapt : RawValue → Option Argument
  /-- The names of the choices, when the type is an enumeration. -/
  choices : List String

/-- A type of arguments. Types with the same name are the same type. -/
structure ArgType where
  name : String
  adapters : List Adapter

namespace ArgType

/-- Whether two types are the same one. -/
def same (t u : ArgType) : Bool := t.name == u.name

/-- The adapter that lies deepest under a family, the last of several at the same depth. -/
def adapterFor? (t : ArgType) (family : Family) : Option Adapter :=
  (t.adapters.filter fun a => family.covers a.family).foldl
    (fun best a =>
      match best with
      | none => some a
      | some b => if b.family.depth ≤ a.family.depth then some a else some b)
    none

/-- Whether the type has an adapter under the family. -/
def satisfies (t : ArgType) (family : Family) : Bool := (t.adapterFor? family).isSome

/-- The names of the choices of an enumeration. -/
def choices (t : ArgType) : List String :=
  match t.adapterFor? .choice with
  | some a => a.choices
  | none => []

end ArgType

/-- The adapter as diagnostics show it. -/
def Adapter.shown (a : Adapter) : String :=
  Text.showOpenRecord "Capability"
    [("constraint", Text.quoted a.family.name),
      ("choices", Text.showList (a.choices.map Text.quoted))]

/-- The adapter of an enumeration whose values are found by the names of their choices. -/
def Adapter.ofChoices (choices : List String) (find : String → Option ArgValue) : Adapter where
  family := .choice
  adapt
    | .text s => (find s).map .value
    | _ => none
  choices := choices

/-- The adapter of an enumeration whose values are found by numbers. -/
def Adapter.ofInteger (find : Int64 → Option ArgValue) : Adapter where
  family := .integer
  adapt
    | .integer n => (find n).map .value
    | _ => none
  choices := []

namespace ArgType

/-- Texts. -/
def text : ArgType := ⟨(ArgValue.text "").typeName, []⟩

/-- Truth values. -/
def boolean : ArgType := ⟨(ArgValue.boolean false).typeName, []⟩

/-- Integers of a type: of 64 bits with a sign, which raw integers are already, or of another,
where a number outside the type is declined. -/
def integer (t : IntegerType) : ArgType where
  name := t.name
  adapters :=
    if t = .i64 then []
    else [.ofInteger fun n => if t.holds n.toInt then some (.integer t n.toInt) else none]

/-- Doubles. -/
def float : ArgType := ⟨(ArgValue.float 0).typeName, []⟩

/-- Singles, rounded from doubles. -/
def float32 : ArgType where
  name := (ArgValue.float32 0).typeName
  adapters := [{
    family := .float
    adapt
      | .number x => some (.value (.float32 x.toFloat32))
      | _ => none
    choices := [] }]

/-- A type of entities, made from raw values of the one kind that `entity?` takes. -/
def ofEntity (name : String) (family : Family) (entity? : RawValue → Option ArgValue) :
    ArgType where
  name := entityTypeName name
  adapters := [{
    family := family
    adapt := fun raw => (entity? raw).map .value
    choices := [] }]

/-- Users. -/
def user : ArgType := ofEntity "UserRef" .user fun
  | .user u => some (.user u)
  | _ => none

/-- Roles. -/
def role : ArgType := ofEntity "RoleRef" .role fun
  | .role r => some (.role r)
  | _ => none

/-- Users and roles. -/
def mentionable : ArgType := ofEntity "Mentionable" .mentionable fun
  | .mentionable m => some (.mentionable m)
  | _ => none

/-- Channels. -/
def channel : ArgType := ofEntity "ChannelRef" .channel fun
  | .channel c => some (.channel c)
  | _ => none

/-- Messages. -/
def message : ArgType := ofEntity "MessageRef" .message fun
  | .message m => some (.message m)
  | _ => none

/-- Attachments. -/
def attachment : ArgType := ofEntity "AttachmentRef" .attachment fun
  | .attachment a => some (.attachment a)
  | _ => none

end ArgType

end ChatDispatch
