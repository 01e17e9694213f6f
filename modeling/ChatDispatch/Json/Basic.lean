import ChatDispatch.Decimal.Notation
import ChatDispatch.Text.Hexadecimal

/-!
# JSON values

The values that this library writes: interactions, settings and descriptions of commands as JSON.
Members of an object keep the order in which they are written.
-/

namespace ChatDispatch.Json

/-- A JSON number: an integer of 64 bits if it is one, a double otherwise. -/
inductive Number where
  | natural (n : UInt64)
  /-- An integer below zero. -/
  | negative (n : Int64)
  | float (x : Float)

/-- A JSON value. -/
inductive Value where
  | null
  | boolean (b : Bool)
  | number (n : Number)
  | text (s : String)
  | array (items : List Value)
  | object (members : List (String × Value))

instance : Inhabited Value := ⟨.null⟩

/-- The number for an integer of 64 bits. -/
def Number.ofInt64 (n : Int64) : Number :=
  if n < 0 then .negative n else .natural n.toUInt64

/-- The value for an integer of 64 bits. -/
def Value.ofInt64 (n : Int64) : Value := .number (.ofInt64 n)

/-- The value for an integer that 64 bits can hold. -/
def Value.ofInt (n : Int) : Value :=
  if n < 0 then .ofInt64 (Int64.ofInt n) else .number (.natural (UInt64.ofNat n.toNat))

/-- The value for a count. -/
def Value.ofNat (n : Nat) : Value := .number (.natural n.toUInt64)

/-- A value that may be absent, `null` when it is. -/
def Value.ofOption {α : Type} (f : α → Value) : Option α → Value
  | none => .null
  | some a => f a

/-- The values of a list. -/
def Value.ofList {α : Type} (f : α → Value) (as : List α) : Value := .array (as.map f)

/-- The value of a member of an object; `none` for other values and for names that do not occur. -/
def Value.member? (name : String) : Value → Option Value
  | .object members => (members.find? (·.1 == name)).map (·.2)
  | _ => none

/-- The text of a string. -/
def Value.text? : Value → Option String
  | .text s => some s
  | _ => none

/-- The integer that a number is. -/
def Value.integer? : Value → Option Int
  | .number (.natural n) => some n.toNat
  | .number (.negative n) => some n.toInt
  | _ => none

/-- Whether the value is `true`. -/
def Value.isTrue : Value → Bool
  | .boolean b => b
  | _ => false

/-- The items of an array; other values have none. -/
def Value.items : Value → List Value
  | .array items => items
  | _ => []

mutual

/-- The value with `null` in place of infinities and not-a-number, which JSON has no text for. -/
def Value.finite : Value → Value
  | .number (.float x) => if x.isFinite then .number (.float x) else .null
  | .array items => .array (finiteItems items)
  | .object members => .object (finiteMembers members)
  | v => v

/-- The items of an array with `null` in place of numbers that cannot be written. -/
def finiteItems : List Value → List Value
  | [] => []
  | v :: vs => v.finite :: finiteItems vs

/-- The members of an object with `null` in place of numbers that cannot be written. -/
def finiteMembers : List (String × Value) → List (String × Value)
  | [] => []
  | (name, v) :: ms => (name, v.finite) :: finiteMembers ms

end

/-- One character of a written string. -/
def escapeChar (c : Char) : List Char :=
  if c = '"' ∨ c = '\\' then ['\\', c]
  else if c.toNat < 0x20 then
    ['\\', 'u'] ++ Text.hexadecimalOfWidth 4 c.toNat
  else [c]

/-- A string as it is written. -/
def writeText (s : String) : String := String.ofList ('"' :: s.toList.flatMap escapeChar ++ ['"'])

/-- A number as it is written; JSON has no text for infinities and not-a-number. -/
def writeNumber : Number → String
  | .natural n => toString n.toNat
  | .negative n => toString n.toInt
  | .float x => if x.isNaN || x.isInf then "null" else Decimal.marked x

mutual

/-- A value on one line. -/
def write : Value → String
  | .null => "null"
  | .boolean b => if b then "true" else "false"
  | .number n => writeNumber n
  | .text s => writeText s
  | .array items => "[" ++ ",".intercalate (writeItems items) ++ "]"
  | .object members => "\x7b" ++ ",".intercalate (writeMembers members) ++ "\x7d"

/-- The items of an array, one text each. -/
def writeItems : List Value → List String
  | [] => []
  | v :: vs => write v :: writeItems vs

/-- The members of an object, one text each. -/
def writeMembers : List (String × Value) → List String
  | [] => []
  | (name, v) :: ms => (writeText name ++ ":" ++ write v) :: writeMembers ms

end

end ChatDispatch.Json
