import ChatDispatch.Interaction.Entity
import ChatDispatch.Decimal.Notation
import ChatDispatch.Text.CaseFold

/-!
# Raw values

What the platform delivers for an option, a component or a field before it is converted to the
argument type that a handler wants.
-/

namespace ChatDispatch

/-- A raw value. Texts are also what wildcard captures, menu selections and modal fields give. -/
inductive RawValue where
  | text (s : String)
  | integer (n : Int64)
  | number (x : Float)
  | boolean (b : Bool)
  | user (u : User)
  | role (r : Role)
  | mentionable (m : Mentionable)
  | channel (c : Channel)
  | message (m : Message)
  | attachment (a : Attachment)
deriving BEq

/-- What kind of value this is, in a word for messages. -/
def RawValue.kindName : RawValue → String
  | .text _ => "string"
  | .integer _ => "integer"
  | .number _ => "number"
  | .boolean _ => "boolean"
  | .user _ => "user"
  | .role _ => "role"
  | .mentionable _ => "mentionable"
  | .channel _ => "channel"
  | .message _ => "message"
  | .attachment _ => "attachment"

/-- The text of a text value. -/
def RawValue.text? : RawValue → Option String
  | .text s => some s
  | _ => none

/-- The value as diagnostics show it. -/
def RawValue.shown : RawValue → String
  | .text s => Text.showTagged "String" (Text.quoted s)
  | .integer n => Text.showTagged "Integer" (toString n.toInt)
  | .number x => Text.showTagged "Number" (Decimal.marked x)
  | .boolean b => Text.showTagged "Boolean" (Text.showBool b)
  | .user u => Text.showTagged "User" u.shown
  | .role r => Text.showTagged "Role" r.shown
  | .mentionable m => Text.showTagged "Mentionable" m.shown
  | .channel c => Text.showTagged "Channel" c.shown
  | .message m => Text.showTagged "Message" m.shown
  | .attachment a => Text.showTagged "Attachment" a.shown

/-- A raw value under a name of its own: a choice that a parameter is restricted to, or a
suggestion for completing what is typed. -/
structure Choice where
  name : String
  value : RawValue

/-- Whether `raw` picks the choice. Texts are compared without regard to the case of A to Z. -/
def Choice.matches (choice : Choice) (raw : RawValue) : Bool :=
  match choice.value, raw with
  | .text expected, .text actual => Text.sameAscii expected actual
  | expected, actual => expected == actual

end ChatDispatch
