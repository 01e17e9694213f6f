import ChatDispatch.Argument.ArgType
import ChatDispatch.Decimal.Reader
import ChatDispatch.Interaction.Basic

/-!
# Converters

A converter turns raw values into arguments of a type. The converters here serve the types that the
library brings along: texts, truth values and numbers by themselves, all other types through the
adapter that the type has for the converter's family.

A converter declines a value in one of two ways: it has no use for values of that kind, or the value
is of the right kind and does not name an argument of the type.
-/

namespace ChatDispatch

/-- Why a converter declines a raw value. -/
inductive ConversionError where
  /-- The converter has no use for values of this kind. -/
  | unsupported (found target : String)
  /-- The value is none of the type. -/
  | invalid (value target : String)

/-- The name by which programs tell errors apart. -/
def ConversionError.name : ConversionError → String
  | .unsupported _ _ => "Unsupported"
  | .invalid _ _ => "InvalidValue"

/-- The text that explains the error. -/
def ConversionError.message : ConversionError → String
  | .unsupported found target => s!"cannot convert a {found} value into {target}"
  | .invalid value target => s!"'{value}' is not a valid {target}"

/-- Turns raw values into arguments of a type. -/
structure Converter where
  /-- Converts a value that came with an interaction. -/
  convert : Interaction → RawValue → ArgType → Except ConversionError Argument
  /-- Whether the converter also serves a type that it was not registered for. -/
  alsoServes : ArgType → Bool

namespace Converter

/-- The error for a value of a kind that is of no use for the type. -/
def unsupported (value : RawValue) (target : ArgType) : ConversionError :=
  .unsupported value.kindName target.name

/-- The error for a value that is none of the type: texts and numbers are of the right kind, all
other values are of no use. -/
def declined (value : RawValue) (target : ArgType) : ConversionError :=
  match value with
  | .text s => .invalid s target.name
  | .integer n => .invalid (toString n.toInt) target.name
  | .number x => .invalid (Decimal.plain x) target.name
  | _ => unsupported value target

/-! ## What raw values can stand for -/

/-- The integer of 64 bits that a raw value stands for. -/
def integerOf? : RawValue → Option Int64
  | .integer n => some n
  | .text s =>
    (Decimal.readInt? (Text.trimBlanks s.toList)).bind fun n =>
      if IntegerType.i64.holds n then some (Int64.ofInt n) else none
  | _ => none

/-- The double nearest to an integer. -/
def widen (n : Int64) : Float := Float.ofInt n.toInt

/-- The double that a raw value stands for. -/
def floatOf? : RawValue → Option Float
  | .number x => some x
  | .integer n => some (widen n)
  | .text s => Decimal.readFloat? (Text.trimBlanks s.toList)
  | _ => none

/-- The name of a choice that a raw value stands for. -/
def choiceOf? : RawValue → Option String
  | .text s => some s
  | .integer n => some (toString n.toInt)
  | _ => none

/-- The mentioned entity that a raw value stands for. -/
def mentionableOf? : RawValue → Option Mentionable
  | .mentionable m => some m
  | .user u => some (.user u)
  | .role r => some (.role r)
  | _ => none

/-- The user that a raw value stands for. -/
def userOf? : RawValue → Option User
  | .user u => some u
  | .mentionable (.user u) => some u
  | _ => none

/-- The role that a raw value stands for. -/
def roleOf? : RawValue → Option Role
  | .role r => some r
  | .mentionable (.role r) => some r
  | _ => none

/-! ## The converters -/

/-- A converter for one type, which makes an argument where `make` does. -/
def ofType (make : RawValue → Option ArgValue) : Converter where
  convert _ value target :=
    match make value with
    | some v => .ok (.value v)
    | none => .error (declined value target)
  alsoServes _ := false

/-- Texts, from any plain value. -/
def text : Converter where
  convert _ value target :=
    match value with
    | .text s => .ok (.value (.text s))
    | .integer n => .ok (.value (.text (toString n.toInt)))
    | .number x => .ok (.value (.text (Decimal.plain x)))
    | .boolean b => .ok (.value (.text (Text.showBool b)))
    | _ => .error (unsupported value target)
  alsoServes _ := false

/-- The truth value that a text is written for, in any case. -/
def boolOf? (s : String) : Option Bool :=
  let word := (Text.trimBlanks s.toList).map Char.toLower
  if word = "true".toList then some true
  else if word = "false".toList then some false
  else none

/-- Truth values, from truth values and texts. -/
def boolean : Converter where
  convert _ value target :=
    match value with
    | .boolean b => .ok (.value (.boolean b))
    | .text s =>
      match boolOf? s with
      | some b => .ok (.value (.boolean b))
      | none => .error (.invalid s target.name)
    | _ => .error (unsupported value target)
  alsoServes _ := false

/-- Integers of 64 bits. -/
def integer : Converter :=
  ofType fun value => (integerOf? value).map fun n => .integer .i64 n.toInt

/-- Doubles. -/
def float : Converter := ofType fun value => (floatOf? value).map .float

/-- A converter for all types of a family: `prepare` makes a value into the kind that the family
wants, and the adapter of the type makes the argument. -/
def ofFamily (family : Family) (prepare : RawValue → Option RawValue) : Converter where
  convert _ value target :=
    match target.adapterFor? family with
    | none => .error (unsupported value target)
    | some adapter =>
      match (prepare value).bind adapter.adapt with
      | some a => .ok a
      | none => .error (declined value target)
  alsoServes _ := false

/-- The families that are served by converters of their own, with the preparation of their
values. -/
def families : List (Family × (RawValue → Option RawValue)) := [
  (.integer, fun value => (integerOf? value).map .integer),
  (.float, fun value => (floatOf? value).map .number),
  (.choice, fun value => (choiceOf? value).map .text),
  (.mentionable, fun value => (mentionableOf? value).map .mentionable),
  (.user, fun value => (userOf? value).map .user),
  (.role, fun value => (roleOf? value).map .role),
  (.channel, some),
  (.message, some),
  (.attachment, some)]

end Converter

end ChatDispatch
