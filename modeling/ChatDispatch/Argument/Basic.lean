import ChatDispatch.Interaction.RawValue

/-!
# Arguments of handlers

A handler receives one argument for each parameter: a value of the parameter's type, a list of such
values for a variadic parameter, or nothing for an optional one that was left out. Handlers read
arguments by position and type and get an error when that is not what the argument holds.
-/

namespace ChatDispatch

/-- The integer types that a parameter can have. -/
inductive IntegerType where
  | i8
  | i16
  | i32
  | i64
  | u8
  | u16
  | u32
  | u64
  | usize
deriving DecidableEq

namespace IntegerType

/-- All integer types. -/
def all : List IntegerType := [i8, i16, i32, i64, u8, u16, u32, u64, usize]

/-- The name of the type. -/
def name : IntegerType → String
  | i8 => "i8"
  | i16 => "i16"
  | i32 => "i32"
  | i64 => "i64"
  | u8 => "u8"
  | u16 => "u16"
  | u32 => "u32"
  | u64 => "u64"
  | usize => "usize"

/-- The number of bits of the type. -/
def bits : IntegerType → Nat
  | i8 | u8 => 8
  | i16 | u16 => 16
  | i32 | u32 => 32
  | i64 | u64 | usize => 64

/-- Whether the type has negative numbers. -/
def isSigned : IntegerType → Bool
  | i8 | i16 | i32 | i64 => true
  | u8 | u16 | u32 | u64 | usize => false

/-- Whether `n` is a number of the type. -/
def holds (t : IntegerType) (n : Int) : Bool :=
  if t.isSigned then -(Nat.pow 2 (t.bits - 1) : Int) ≤ n && n < Nat.pow 2 (t.bits - 1)
  else 0 ≤ n && n < Nat.pow 2 t.bits

end IntegerType

/-- A value of an argument type. -/
inductive ArgValue where
  | text (s : String)
  | boolean (b : Bool)
  | integer (type : IntegerType) (n : Int)
  | float (x : Float)
  | float32 (x : Float32)
  | user (u : User)
  | role (r : Role)
  | mentionable (m : Mentionable)
  | channel (c : Channel)
  | message (m : Message)
  | attachment (a : Attachment)
  /-- A value of a type of the host: what distinguishes it from others of the type, and how
  diagnostics show it. -/
  | host (type content shown : String)
deriving BEq

/-- The name by which messages call the entity types. -/
def entityTypeName (entity : String) : String :=
  "switchboard::interactions::domain::interaction::" ++ entity

namespace ArgValue

/-- The name of the type of the value. Types are known by their names. -/
def typeName : ArgValue → String
  | text _ => "alloc::string::String"
  | boolean _ => "bool"
  | integer t _ => t.name
  | float _ => "f64"
  | float32 _ => "f32"
  | user _ => entityTypeName "UserRef"
  | role _ => entityTypeName "RoleRef"
  | mentionable _ => entityTypeName "Mentionable"
  | channel _ => entityTypeName "ChannelRef"
  | message _ => entityTypeName "MessageRef"
  | attachment _ => entityTypeName "AttachmentRef"
  | host type _ _ => type

/-- The value as diagnostics show it. -/
def shown : ArgValue → String
  | text s => Text.quoted s
  | boolean b => Text.showBool b
  | integer _ n => toString n
  | float x => Decimal.marked x
  | float32 x => Decimal.marked32 x
  | user u => u.shown
  | role r => r.shown
  | mentionable m => m.shown
  | channel c => c.shown
  | message m => m.shown
  | attachment a => a.shown
  | host _ _ shown => shown

end ArgValue

/-- An argument. -/
inductive Argument where
  /-- An optional parameter that was left out and has no default. -/
  | missing
  | value (v : ArgValue)
  /-- What a variadic parameter has collected. -/
  | variadic (elements : List Argument)

instance : Inhabited Argument := ⟨.missing⟩

namespace Argument

/-- Whether nothing was bound. -/
def isMissing : Argument → Bool
  | missing => true
  | _ => false

/-- The value of an argument that holds a value of the named type. -/
def valueOf? (typeName : String) : Argument → Option ArgValue
  | value v => if v.typeName = typeName then some v else none
  | _ => none

mutual

/-- Whether two arguments hold equal values of the same type. -/
def same : Argument → Argument → Bool
  | missing, missing => true
  | value v, value w => v == w
  | variadic as, variadic bs => sameAll as bs
  | _, _ => false

/-- Whether two lists hold the same arguments in the same order. -/
def sameAll : List Argument → List Argument → Bool
  | [], [] => true
  | a :: as, b :: bs => a.same b && sameAll as bs
  | _, _ => false

end

mutual

/-- The argument as diagnostics show it. -/
def shown : Argument → String
  | missing => "<missing>"
  | value v => v.shown
  | variadic elements => Text.showList (shownAll elements)

/-- The arguments as diagnostics show them. -/
def shownAll : List Argument → List String
  | [] => []
  | a :: as => a.shown :: shownAll as

end

end Argument

/-- Why an argument cannot be read. -/
inductive ArgumentError where
  | outOfRange (index : Nat)
  | missing (index : Nat)
  | typeMismatch (index : Nat) (expected : String)

/-- The name by which programs tell errors apart. -/
def ArgumentError.name : ArgumentError → String
  | .outOfRange _ => "OutOfRange"
  | .missing _ => "Missing"
  | .typeMismatch _ _ => "TypeMismatch"

/-- The text that explains the error. -/
def ArgumentError.message : ArgumentError → String
  | .outOfRange index => s!"no argument at position {index}"
  | .missing index => s!"argument at position {index} was not supplied"
  | .typeMismatch index expected => s!"argument at position {index} is not a {expected}"

/-- The arguments of one call, in the order of the parameters. -/
structure Arguments where
  toList : List Argument

namespace Arguments

/-- The name of the type that a variadic argument has. -/
def variadicTypeName : String :=
  "alloc::vec::Vec<switchboard::interactions::domain::argument::Argument>"

/-- The argument at a position. -/
def get (args : Arguments) (index : Nat) : Except ArgumentError Argument :=
  match args.toList[index]? with
  | some a => .ok a
  | none => .error (.outOfRange index)

/-- The value of an argument that must be there. -/
def required (args : Arguments) (typeName : String) (index : Nat) :
    Except ArgumentError ArgValue := do
  let a ← args.get index
  if a.isMissing then .error (.missing index)
  else match a.valueOf? typeName with
    | some v => .ok v
    | none => .error (.typeMismatch index typeName)

/-- The value of an argument that may have been left out. -/
def optional (args : Arguments) (typeName : String) (index : Nat) :
    Except ArgumentError (Option ArgValue) := do
  let a ← args.get index
  if a.isMissing then .ok none
  else match a.valueOf? typeName with
    | some v => .ok (some v)
    | none => .error (.typeMismatch index typeName)

/-- The values that a variadic argument has collected. -/
def variadic (args : Arguments) (typeName : String) (index : Nat) :
    Except ArgumentError (List ArgValue) := do
  match ← args.get index with
  | .variadic elements =>
    elements.mapM fun a =>
      match a.valueOf? typeName with
      | some v => .ok v
      | none => .error (.typeMismatch index typeName)
  | _ => .error (.typeMismatch index variadicTypeName)

/-- Whether two calls have the same arguments. -/
def same (args others : Arguments) : Bool := Argument.sameAll args.toList others.toList

/-- The arguments as diagnostics show them. -/
def shown (args : Arguments) : String :=
  Text.showTagged "Arguments" (Text.showList (Argument.shownAll args.toList))

end Arguments

end ChatDispatch
