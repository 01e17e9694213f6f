import ChatDispatch.Json.Token

/-!
# Drafts: JSON texts as far as they can be read

A draft is the tree of a JSON text that may contain mistakes. Every mistake keeps its place in the
tree, so that a reader that walks the draft in the order of the text meets either a value of the
wrong shape or a mistake in the text, whichever comes first.

* `Draft.ofText` builds the draft of a text.
* `Value.draft` is the draft of a value, which has no mistakes.
* `Draft.skipError` is what a reader meets that passes over a value.
* `Draft.holdError` is what a reader meets that keeps a whole value for later.
-/

namespace ChatDispatch.Json

/-- How an array or an object ends. -/
inductive Ending where
  | closed
  /-- The text fails here, right after an item or after the comma that follows it. -/
  | broken (afterComma : Bool) (e : ReadError)

/-- A JSON text as far as it can be read. -/
inductive Draft where
  | null
  | boolean (b : Bool)
  | number (n : Except Flaw Number)
  | text (s : Except Flaw String)
  | badWord (e : ReadError)
  | array (items : List Draft) (ending : Ending)
  | object (members : List (Except Flaw String × Draft)) (ending : Ending)
  /-- No value begins here. -/
  | absent (e : ReadError)

/-! ## Building drafts -/

mutual

/-- The draft of the value at the beginning of the tokens, and the tokens after it. `fuel` bounds
the number of steps around one another; of any two of them one takes a token. -/
def draftOf : (fuel : Nat) → List Token → Draft × List Token
  | _, [] => (.absent .truncated, [])
  | 0, _ => (.absent .malformed, [])
  | fuel + 1, token :: rest =>
    match token with
    | .null => (.null, rest)
    | .boolean b => (.boolean b, rest)
    | .number n => (.number n, rest)
    | .text s => (.text s, rest)
    | .badWord e => (.badWord e, rest)
    | .openArray =>
      match rest with
      | .closeArray :: rest => (.array [] .closed, rest)
      | [] => (.array [] (.broken false .truncated), [])
      | rest =>
        let (items, ending, rest) := itemsOf fuel rest
        (.array items ending, rest)
    | .openObject =>
      match rest with
      | .closeObject :: rest => (.object [] .closed, rest)
      | [] => (.object [] (.broken false .truncated), [])
      | rest =>
        let (members, ending, rest) := membersOf fuel false rest
        (.object members ending, rest)
    | .closeArray | .closeObject | .comma | .colon | .stray => (.absent .malformed, [])

/-- The items of an array from the next item on, how the array ends, and the tokens after it. -/
def itemsOf : (fuel : Nat) → List Token → List Draft × Ending × List Token
  | 0, _ => ([], .broken false .malformed, [])
  | fuel + 1, tokens =>
    let (item, rest) := draftOf fuel tokens
    match rest with
    | .closeArray :: rest => ([item], .closed, rest)
    | [.comma] => ([item], .broken true .truncated, [])
    | .comma :: .closeArray :: _ => ([item], .broken true .malformed, [])
    | .comma :: rest =>
      let (items, ending, rest) := itemsOf fuel rest
      (item :: items, ending, rest)
    | [] => ([item], .broken false .truncated, [])
    | _ => ([item], .broken false .malformed, [])

/-- The members of an object from the next name on, how the object ends, and the tokens after it.
`afterComma` tells whether a comma stands before the name. The text fails at a name that is no
string. -/
def membersOf :
    (fuel : Nat) → (afterComma : Bool) → List Token →
      List (Except Flaw String × Draft) × Ending × List Token
  | 0, afterComma, _ => ([], .broken afterComma .malformed, [])
  | fuel + 1, afterComma, tokens =>
    match tokens with
    | .text name :: .colon :: rest =>
      let (value, rest) := draftOf fuel rest
      match rest with
      | .closeObject :: rest => ([(name, value)], .closed, rest)
      | [.comma] => ([(name, value)], .broken true .truncated, [])
      | .comma :: .closeObject :: _ => ([(name, value)], .broken true .malformed, [])
      | .comma :: rest =>
        let (members, ending, rest) := membersOf fuel true rest
        ((name, value) :: members, ending, rest)
      | [] => ([(name, value)], .broken false .truncated, [])
      | _ => ([(name, value)], .broken false .malformed, [])
    | [.text name] => ([(name, .absent .truncated)], .broken false .truncated, [])
    | .text name :: _ => ([(name, .absent .malformed)], .broken false .malformed, [])
    | _ :: _ => ([], .broken afterComma .malformed, [])
    | [] => ([], .broken afterComma .truncated, [])

end

/-- The draft of a text, and whether something else follows the value. -/
def Draft.ofText (s : String) : Draft × Bool :=
  let ts := tokens s
  let (draft, rest) := draftOf (2 * ts.length + 2) ts
  (draft, !rest.isEmpty)

mutual

/-- The draft of a value. -/
def Value.draft : Value → Draft
  | .null => .null
  | .boolean b => .boolean b
  | .number n => .number (.ok n)
  | .text s => .text (.ok s)
  | .array items => .array (draftItems items) .closed
  | .object members => .object (draftMembers members) .closed

/-- The drafts of the items of an array. -/
def draftItems : List Value → List Draft
  | [] => []
  | v :: vs => v.draft :: draftItems vs

/-- The drafts of the members of an object. -/
def draftMembers : List (String × Value) → List (Except Flaw String × Draft)
  | [] => []
  | (name, v) :: ms => (.ok name, v.draft) :: draftMembers ms

end

mutual

/-- The value of a draft without mistakes. -/
def Draft.value? : Draft → Option Value
  | .null => some .null
  | .boolean b => some (.boolean b)
  | .number (.ok n) => some (.number n)
  | .text (.ok s) => some (.text s)
  | .array items .closed => (valueItems? items).map .array
  | .object members .closed => (valueMembers? members).map .object
  | _ => none

/-- The values of the items of an array. -/
def valueItems? : List Draft → Option (List Value)
  | [] => some []
  | d :: ds => do return (← d.value?) :: (← valueItems? ds)

/-- The values of the members of an object. -/
def valueMembers? : List (Except Flaw String × Draft) → Option (List (String × Value))
  | [] => some []
  | (.ok name, d) :: ms => do return (name, ← d.value?) :: (← valueMembers? ms)
  | (.error _, _) :: _ => none

end

/-! ## Passing over values and keeping them -/

/-- What a reader meets at the end of an array or an object. -/
def Ending.error? : Ending → Option ReadError
  | .closed => none
  | .broken _ e => some e

mutual

/-- The mistake met by a reader that passes over the value, if there is one. -/
def Draft.skipError : Draft → Option ReadError
  | .null | .boolean _ | .number (.ok _) | .text (.ok _) => none
  | .number (.error flaw) | .text (.error flaw) => flaw.skipping
  | .badWord e | .absent e => some e
  | .array items ending => (skipItems items).or ending.error?
  | .object members ending => (skipMembers members).or ending.error?

/-- The first mistake among the items of an array. -/
def skipItems : List Draft → Option ReadError
  | [] => none
  | d :: ds => d.skipError.or (skipItems ds)

/-- The first mistake among the members of an object. -/
def skipMembers : List (Except Flaw String × Draft) → Option ReadError
  | [] => none
  | (name, d) :: ms =>
    (match name with
      | .ok _ => none
      | .error flaw => flaw.skipping).or (d.skipError.or (skipMembers ms))

end

mutual

/-- The mistake met by a reader that keeps the whole value, if there is one. At most `depth`
arrays and objects may stand around one another, less one. -/
def Draft.holdError : (depth : Nat) → Draft → Option ReadError
  | _, .null | _, .boolean _ | _, .number (.ok _) | _, .text (.ok _) => none
  | _, .number (.error flaw) | _, .text (.error flaw) => some flaw.reading
  | _, .badWord e | _, .absent e => some e
  | depth, .array items ending =>
    if depth ≤ 1 then some .malformed else (holdItems (depth - 1) items).or ending.error?
  | depth, .object members ending =>
    if depth ≤ 1 then some .malformed else (holdMembers (depth - 1) members).or ending.error?

/-- The first mistake among the items of an array that is kept. -/
def holdItems : (depth : Nat) → List Draft → Option ReadError
  | _, [] => none
  | depth, d :: ds => (d.holdError depth).or (holdItems depth ds)

/-- The first mistake among the members of an object that is kept. -/
def holdMembers : (depth : Nat) → List (Except Flaw String × Draft) → Option ReadError
  | _, [] => none
  | depth, (name, d) :: ms =>
    (match name with
      | .ok _ => none
      | .error flaw => some flaw.reading).or ((d.holdError depth).or (holdMembers depth ms))

end

end ChatDispatch.Json
