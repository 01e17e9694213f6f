import ChatDispatch.Argument.ArgType
import ChatDispatch.Wire.Decode

/-!
# Values of arguments as JSON

How the values of arguments are written as JSON, and how values of the types that the library brings
along are read from it. The JSON of a value does not tell its type.
-/

namespace ChatDispatch

open Json (Reader Value)

/-- The value as JSON; of a value of a type of the host the content is written. -/
def ArgValue.toJson : ArgValue → Value
  | .text s => .text s
  | .boolean b => .boolean b
  | .integer _ n => .ofInt n
  | .float x => .number (.float x)
  | .float32 x => .number (.float x.toFloat)
  | .user u => u.toJson
  | .role r => r.toJson
  | .mentionable m => m.toJson
  | .channel c => c.toJson
  | .message m => m.toJson
  | .attachment a => a.toJson
  | .host _ content _ => .text content

/-- Reads an integer of a type. -/
def IntegerType.read (t : IntegerType) : Reader ArgValue := fun source d => do
  let n ← match t with
    | .u64 | .usize => (Json.readUInt64 source d).map fun n => (n.toNat : Int)
    | _ => (Json.readInt64 source d).map Int64.toInt
  if t.holds n then .ok (.integer t n) else .error .mismatched

/-- The types that the library brings along, each with the reader of its values. -/
def ArgType.standard : List (ArgType × Reader ArgValue) :=
  IntegerType.all.map (fun t => (.integer t, t.read)) ++ [
    (.text, readAs .text Json.readText),
    (.boolean, readAs .boolean Json.readBool),
    (.float, readAs .float Json.readFloat),
    (.float32, readAs (fun x => .float32 x.toFloat32) Json.readFloat),
    (.user, readAs .user User.shape.read),
    (.role, readAs .role Role.shape.read),
    (.mentionable, readAs .mentionable Mentionable.read),
    (.channel, readAs .channel Channel.shape.read),
    (.message, readAs .message Message.shape.read),
    (.attachment, readAs .attachment Attachment.shape.read)]

end ChatDispatch
