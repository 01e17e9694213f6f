import ChatDispatch.Json.Draft

/-!
# Reading typed values from drafts

A reader walks a draft in the order of its text and stops at the first thing wrong, be it a value
of another shape or a mistake in the text. Values whose shape depends on a member that may come
later are kept whole first and read afterwards; what has been kept has no mistakes, and a few
shapes are taken more liberally in it.

* `Shape` describes a record: named fields, required or with a default, in the order in which an
  array may list them.
* `readEnum` reads a variant, by name or as an object of one member.
* `readTagged` and `readAdjacent` read a variant that a tag names, beside its fields or beside one
  member with its content.
-/

namespace ChatDispatch.Json

/-- The greatest number of arrays and objects around one another, plus one. -/
def depthLimit : Nat := 128

/-- Where a value is read from. -/
inductive Source where
  /-- The text itself, with the number of arrays and objects that may still be entered, plus one. -/
  | live (depth : Nat)
  /-- A value that has been kept whole. -/
  | held

/-- Reads a value of a type from a draft. -/
abbrev Reader (α : Type) := Source → Draft → Except ReadError α

/-- How a reader fails that wants another kind of value. -/
def Draft.mismatch : Draft → ReadError
  | .number (.error flaw) | .text (.error flaw) => flaw.reading
  | .badWord e | .absent e => e
  | _ => .mismatched

/-- Goes into an array or an object. -/
def Source.enter : Source → Except ReadError Source
  | .held => .ok .held
  | .live depth => if depth ≤ 1 then .error .malformed else .ok (.live (depth - 1))

/-- Passes over a value. -/
def skip (d : Draft) : Except ReadError Unit :=
  match d.skipError with
  | some e => .error e
  | none => .ok ()

/-- Keeps a whole value. -/
def hold (source : Source) (d : Draft) : Except ReadError Unit :=
  match source with
  | .held => .ok ()
  | .live depth =>
    match d.holdError depth with
    | some e => .error e
    | none => .ok ()

/-- Requires an array or an object to be closed. -/
def Ending.close (ending : Ending) : Except ReadError Unit :=
  match ending.error? with
  | some e => .error e
  | none => .ok ()

/-- The name of a member. -/
def readName : Except Flaw String → Except ReadError String
  | .ok name => .ok name
  | .error flaw => .error flaw.reading

/-! ## Plain values -/

/-- Reads a string. -/
def readText : Reader String
  | _, .text (.ok s) => .ok s
  | _, d => .error d.mismatch

/-- Reads a truth value. -/
def readBool : Reader Bool
  | _, .boolean b => .ok b
  | _, d => .error d.mismatch

/-- Reads a natural number of 64 bits. -/
def readUInt64 : Reader UInt64
  | _, .number (.ok (.natural n)) => .ok n
  | _, d => .error d.mismatch

/-- Reads an integer of 64 bits. -/
def readInt64 : Reader Int64
  | _, .number (.ok (.natural n)) =>
    if n.toNat < Nat.pow 2 63 then .ok n.toInt64 else .error .mismatched
  | _, .number (.ok (.negative n)) => .ok n
  | _, d => .error d.mismatch

/-- Reads a double; integers are rounded to one. -/
def readFloat : Reader Float
  | _, .number (.ok (.natural n)) => .ok (Float.ofNat n.toNat)
  | _, .number (.ok (.negative n)) => .ok (Float.ofInt n.toInt)
  | _, .number (.ok (.float x)) => .ok x
  | _, d => .error d.mismatch

/-- Reads a string of one character. -/
def readChar : Reader Char := fun source d => do
  match (← readText source d).toList with
  | [c] => .ok c
  | _ => .error .mismatched

/-- Reads a value or `null`. -/
def readOption {α : Type} (read : Reader α) : Reader (Option α)
  | _, .null => .ok none
  | source, d => (read source d).map some

/-- Reads an array of values of one type. -/
def readList {α : Type} (read : Reader α) : Reader (List α)
  | source, .array items ending => do
    let inner ← source.enter
    let values ← items.mapM (read inner)
    ending.close
    return values
  | _, d => .error d.mismatch

/-! ## Records -/

/-- A field of a record under construction `σ`. -/
structure Field (σ : Type) where
  name : String
  /-- Whether the field has been read. -/
  isRead : σ → Bool
  /-- Reads the field into the record. -/
  read : σ → Source → Draft → Except ReadError σ

/-- The shape of a record: its fields, and how the record is made when all members are read. -/
structure Shape (α : Type) where
  Partial : Type
  blank : Partial
  fields : List (Field Partial)
  finish : Partial → Except ReadError α

namespace Shape

variable {α β : Type}

/-- A record of one field, made by `absent` when there is no such member. -/
def ofField (name : String) (read : Reader α) (absent : Except ReadError α) : Shape α where
  Partial := Option α
  blank := none
  fields := [{
    name := name
    isRead := Option.isSome
    read := fun _ source d => (read source d).map some }]
  finish
    | some a => .ok a
    | none => absent

/-- A field that must be there. -/
def required (name : String) (read : Reader α) : Shape α := ofField name read (.error .mismatched)

/-- A field with a value to take when it is not there. -/
def optional (name : String) (read : Reader α) (default : α) : Shape α :=
  ofField name read (.ok default)

/-- The record of the fields of two records. -/
def both (s : Shape α) (t : Shape β) : Shape (α × β) where
  Partial := s.Partial × t.Partial
  blank := (s.blank, t.blank)
  fields :=
    (s.fields.map fun f =>
      { name := f.name
        isRead := fun p => f.isRead p.1
        read := fun p source d => (f.read p.1 source d).map (·, p.2) }) ++
    (t.fields.map fun f =>
      { name := f.name
        isRead := fun p => f.isRead p.2
        read := fun p source d => (f.read p.2 source d).map (p.1, ·) })
  finish := fun p => do return (← s.finish p.1, ← t.finish p.2)

/-- The record made from another one. -/
def map (f : α → β) (s : Shape α) : Shape β where
  Partial := s.Partial
  blank := s.blank
  fields := s.fields
  finish := fun p => (s.finish p).map f

/-- Reads the members of an object into a record. Members that are no fields are passed over, and
no field may come twice. -/
def readMembers (s : Shape α) (source : Source) :
    List (Except Flaw String × Draft) → s.Partial → Except ReadError s.Partial
  | [], p => .ok p
  | (name, d) :: members, p => do
    let name ← readName name
    match s.fields.find? (·.name == name) with
    | none =>
      skip d
      readMembers s source members p
    | some field =>
      if field.isRead p then .error .mismatched
      else readMembers s source members (← field.read p source d)

/-- Reads the items of an array into the fields in their order. Gives the items left over. -/
def readItems {σ : Type} (source : Source) :
    List (Field σ) → List Draft → σ → Except ReadError (σ × List Draft × Bool)
  | [], items, p => .ok (p, items, true)
  | _ :: _, [], p => .ok (p, [], false)
  | field :: fields, d :: items, p => do
    readItems source fields items (← field.read p source d)

/-- Requires that an array ends when all that is wanted has been read from it. -/
def endItems (source : Source) (items : List Draft) (ending : Ending) : Except ReadError Unit :=
  match source, items, ending with
  | _, [], .closed => .ok ()
  | .held, _, _ => .error .mismatched
  | .live _, [], .broken false e => .error e
  | .live _, _, _ => .error .malformed

/-- Reads a record from an object, or from an array that lists its fields. -/
def read (s : Shape α) : Reader α
  | source, .object members ending => do
    let inner ← source.enter
    let p ← s.readMembers inner members s.blank
    ending.close
    s.finish p
  | source, .array items ending => do
    let inner ← source.enter
    let (p, rest, complete) ← readItems inner s.fields items s.blank
    if !complete then ending.close
    let a ← s.finish p
    endItems source rest ending
    return a
  | _, d => .error d.mismatch

end Shape

/-! ## Variants -/

/-- A variant of an enumeration: a value of its own, or made from the value beside its name. -/
inductive Variant (α : Type) where
  | plain (a : α)
  | wrapping (read : Reader α)

/-- The variant with a name. -/
def findVariant {α : Type} (variants : List (String × α)) (name : String) :
    Except ReadError α :=
  match variants.find? (·.1 == name) with
  | some (_, v) => .ok v
  | none => .error .mismatched

/-- Reads what stands beside the name of a plain variant: nothing but `null`. -/
def readNothing : Reader Unit
  | _, .null => .ok ()
  | .held, .object [] .closed => .ok ()
  | _, d => .error d.mismatch

/-- Requires that an object ends after its first member. -/
def endVariant (source : Source) (more : List (Except Flaw String × Draft)) (ending : Ending) :
    Except ReadError Unit :=
  match source, more, ending with
  | _, [], .closed => .ok ()
  | .held, _, _ => .error .mismatched
  | .live _, [], .broken false e => .error e
  | .live _, _, _ => .error .malformed

/-- How a reader of a variant fails at an object without a first name. -/
def noVariantError (source : Source) (ending : Ending) : ReadError :=
  match source, ending with
  | .held, _ => .mismatched
  | .live _, .closed => .malformed
  | .live _, .broken _ e => e

/-- Reads a variant: its name, or an object with its name and what stands beside it. In a text,
anything else counts as a mistake in the text. -/
def readEnum {α : Type} (variants : List (String × Variant α)) : Reader α
  | _, .text name => do
    match ← findVariant variants (← readName name) with
    | .plain a => .ok a
    | .wrapping _ => .error .mismatched
  | source, .object [] ending => do
    let _ ← source.enter
    .error (noVariantError source ending)
  | source, .object ((name, d) :: more) ending => do
    let inner ← source.enter
    match source, more with
    | .held, _ :: _ => .error .mismatched
    | _, _ =>
      let variant ← findVariant variants (← readName name)
      let a ← match variant with
        | .plain a => (readNothing inner d).map fun _ => a
        | .wrapping read => read inner d
      endVariant source more ending
      return a
  | .live _, .absent e => .error e
  | .live _, _ => .error .malformed
  | .held, _ => .error .mismatched

/-- Reads the name of a variant. In a value that has been kept, the position of the variant does as
well. -/
def readTag {α : Type} (variants : List (String × α)) : Reader α
  | _, .text (.ok name) => findVariant variants name
  | .held, .number (.ok (.natural n)) =>
    match variants[n.toNat]? with
    | some (_, v) => .ok v
    | none => .error .mismatched
  | _, d => .error d.mismatch

/-- Reads the members of an object of which one is the tag: the tag, and the other members. -/
def readTagMembers {α : Type} (tag : String) (variants : List (String × α)) (source : Source) :
    List (Except Flaw String × Draft) → Option α →
      Except ReadError (Option α × List (Except Flaw String × Draft))
  | [], v => .ok (v, [])
  | (name, d) :: members, v => do
    if (← readName name) == tag then
      if v.isSome then .error .mismatched
      else readTagMembers tag variants source members (some (← readTag variants source d))
    else
      hold source d
      let (v, rest) ← readTagMembers tag variants source members v
      return (v, (name, d) :: rest)

/-- Reads a variant whose tag stands among its fields, or in front of them in an array. -/
def readTagged {α : Type} (tag : String) (variants : List (String × Reader α)) : Reader α
  | source, .object members ending => do
    let inner ← source.enter
    let (read?, rest) ← readTagMembers tag variants inner members none
    ending.close
    match read? with
    | some read => read .held (.object rest .closed)
    | none => .error .mismatched
  | source, .array items ending => do
    let inner ← source.enter
    match items with
    | [] =>
      ending.close
      .error .mismatched
    | first :: rest =>
      let read ← readTag variants inner first
      rest.forM (hold inner)
      ending.close
      read .held (.array rest .closed)
  | _, d => .error d.mismatch

/-- How far a variant with a tag and a content beside it has been read. -/
inductive Adjacent (α : Type) where
  | nothing
  | tagged (read : Reader α)
  /-- The content came first and is kept. -/
  | content (d : Draft)
  | done (a : α)

/-- Reads the members of an object with a tag and a content. -/
def readAdjacentMembers {α : Type} (tag content : String) (variants : List (String × Reader α))
    (source : Source) :
    List (Except Flaw String × Draft) → Adjacent α → Except ReadError (Adjacent α)
  | [], state => .ok state
  | (name, d) :: members, state => do
    let name ← readName name
    if name == tag then
      match state with
      | .nothing =>
        let read ← readEnum (variants.map fun (n, r) => (n, .plain r)) source d
        readAdjacentMembers tag content variants source members (.tagged read)
      | .content c =>
        let read ← readEnum (variants.map fun (n, r) => (n, .plain r)) source d
        readAdjacentMembers tag content variants source members (.done (← read .held c))
      | _ => .error .mismatched
    else if name == content then
      match state with
      | .nothing =>
        hold source d
        readAdjacentMembers tag content variants source members (.content d)
      | .tagged read =>
        readAdjacentMembers tag content variants source members (.done (← read source d))
      | _ => .error .mismatched
    else
      skip d
      readAdjacentMembers tag content variants source members state

/-- Reads a variant whose tag stands beside its content, in an object, where the tag is read like a
variant, or as an array of the two, where it is read like the tag of a tagged variant. -/
def readAdjacent {α : Type} (tag content : String) (variants : List (String × Reader α)) : Reader α
  | source, .object members ending => do
    let inner ← source.enter
    let state ← readAdjacentMembers tag content variants inner members .nothing
    ending.close
    match state with
    | .done a => .ok a
    | _ => .error .mismatched
  | source, .array items ending => do
    let inner ← source.enter
    match items with
    | [] =>
      ending.close
      .error .mismatched
    | [first] =>
      let _ ← readTag variants inner first
      ending.close
      .error .mismatched
    | first :: second :: rest =>
      let read ← readTag variants inner first
      let a ← read inner second
      Shape.endItems source rest ending
      return a
  | _, d => .error d.mismatch

/-! ## Whole texts -/

/-- Reads a text that is one value of a type and nothing else. -/
def readWhole {α : Type} (read : Reader α) (s : String) : Except ReadError α := do
  let (draft, more) := Draft.ofText s
  let a ← read (.live depthLimit) draft
  if more then .error .malformed else return a

end ChatDispatch.Json
