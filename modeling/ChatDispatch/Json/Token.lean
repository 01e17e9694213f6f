import ChatDispatch.Json.Basic
import ChatDispatch.Decimal.Reader

/-!
# Tokens of a JSON text

A text is cut into tokens from left to right. A token with a mistake in it is a token all the same:
what the mistake amounts to depends on whether its value is wanted or passed over, and a mistake
counts only when a reader gets as far as it.

* A mistake that ends the text for every reader is the last token.
* A number beyond the range of a double and a string with half of a surrogate pair stop only a
  reader that wants their value.
-/

namespace ChatDispatch.Json

/-- How the reading of a JSON text can fail. -/
inductive ReadError where
  /-- The text is no JSON. -/
  | malformed
  /-- The text ends too early. -/
  | truncated
  /-- The text is JSON of another shape. -/
  | mismatched
deriving DecidableEq

/-- The name of the error. -/
def ReadError.name : ReadError → String
  | .malformed => "syntax"
  | .truncated => "eof"
  | .mismatched => "data"

/-- A mistake in a token: how it stops a reader that wants the value, and how it stops a reader
that passes over it, if it does. -/
structure Flaw where
  reading : ReadError
  skipping : Option ReadError

/-- A token of a JSON text. -/
inductive Token where
  | openArray
  | closeArray
  | openObject
  | closeObject
  | comma
  | colon
  | null
  | boolean (b : Bool)
  | number (n : Except Flaw Number)
  | text (s : Except Flaw String)
  /-- A word that begins like `null`, `true` or `false` and is none of them. -/
  | badWord (e : ReadError)
  /-- A character that begins no token. -/
  | stray

/-! ## Numbers -/

/-- The powers of ten that a double can be multiplied with, up to `10 ^ 308`. -/
def powerOfTen (n : Nat) : Float := Float.ofScientific 1 false n

/-- `f · 10 ^ exponent` in the arithmetic of doubles: one multiplication or division, after
divisions by `10 ^ 308` while the exponent is lower. `none` when the result is infinite. -/
def scaled? (f : Float) (exponent : Int) : Option Float :=
  if exponent.natAbs ≤ 308 then
    if 0 ≤ exponent then
      let product := f * powerOfTen exponent.natAbs
      if product.isInf then none else some product
    else some (f / powerOfTen exponent.natAbs)
  else if f == 0 then some f
  else if 0 ≤ exponent then none
  else scaled? (f / powerOfTen 308) (exponent + 308)
termination_by (-exponent).toNat
decreasing_by omega

/-- Appends digits to a number as long as the result fits into 64 bits: the result and the digits
left over. -/
def absorb (n : Nat) : List Char → Nat × List Char
  | [] => (n, [])
  | c :: cs =>
    let next := Decimal.valueOf n [c]
    if next < Nat.pow 2 64 then absorb next cs else (n, c :: cs)

/-- The parts of a number token: what stands before the point, after it and in the exponent. -/
structure NumberParts where
  negative : Bool
  whole : List Char
  places : Option (List Char)
  /-- The sign of the exponent, true when it is negative, and its digits. -/
  exponent : Option (Bool × List Char)

/-- The number that the parts stand for; `none` when it is beyond the range of a double. Digits
that do not fit into a significand of 64 bits count as zeros before the point and are dropped
after it. -/
def NumberParts.value? (p : NumberParts) : Option Number :=
  let (lead, excess) := absorb 0 p.whole
  if p.places.isNone && p.exponent.isNone && excess.isEmpty then
    if !p.negative then some (.natural lead.toUInt64)
    else if lead = 0 then some (.float (-0))
    else if lead ≤ Nat.pow 2 63 then some (.negative (Int64.ofInt (-lead)))
    else some (.float (-Float.ofNat lead))
  else
    let places := p.places.getD []
    let (significand, dropped) := absorb lead places
    let point : Int := excess.length - (places.length - dropped.length : Nat)
    let magnitude? :=
      match p.exponent with
      | none => scaled? (Float.ofNat significand) point
      | some (below, digits) =>
        let e := Decimal.valueOf 0 digits
        if Nat.pow 2 31 ≤ e then
          if significand ≠ 0 && !below then none else some 0
        else scaled? (Float.ofNat significand) (if below then point - e else point + e)
    magnitude?.map fun x => .float (if p.negative then -x else x)

/-- A mistake in the form of a number: a reader of the value tells an early end of the text from
another character, `rest` being empty; a reader that passes over it does not. -/
def numberFlaw (rest : List Char) : Flaw where
  reading := if rest.isEmpty then .truncated else .malformed
  skipping := some .malformed

/-- Reads the exponent of a number, if there is one. -/
def scanExponent : List Char → Except Flaw (Option (Bool × List Char) × List Char)
  | [] => .ok (none, [])
  | c :: cs =>
    if c = 'e' ∨ c = 'E' then
      let (below, digits) := Decimal.readSign cs
      let run := digits.takeWhile Char.isDigit
      let rest := digits.dropWhile Char.isDigit
      if run.isEmpty then .error (numberFlaw rest) else .ok (some (below, run), rest)
    else .ok (none, c :: cs)

/-- Reads the digits after the point of a number, if there is a point. -/
def scanPlaces : List Char → Except Flaw (Option (List Char) × List Char)
  | '.' :: cs =>
    let run := cs.takeWhile Char.isDigit
    let rest := cs.dropWhile Char.isDigit
    if run.isEmpty then .error (numberFlaw rest) else .ok (some run, rest)
  | cs => .ok (none, cs)

/-- Reads the digits before the point of a number. Only zero itself begins with a zero. -/
def scanWhole (cs : List Char) : Except Flaw (List Char × List Char) :=
  let run := cs.takeWhile Char.isDigit
  let rest := cs.dropWhile Char.isDigit
  match run with
  | [] => .error (numberFlaw rest)
  | '0' :: _ :: _ => .error { reading := .malformed, skipping := some .malformed }
  | _ => .ok (run, rest)

/-- Reads a number after its sign: the token, and what follows unless the number is malformed. -/
def scanNumber (negative : Bool) (cs : List Char) : Except Flaw Number × List Char :=
  let parts : Except Flaw (NumberParts × List Char) := do
    let (whole, cs) ← scanWhole cs
    let (places, cs) ← scanPlaces cs
    let (exponent, cs) ← scanExponent cs
    return (⟨negative, whole, places, exponent⟩, cs)
  match parts with
  | .error flaw => (.error flaw, [])
  | .ok (p, rest) =>
    match p.value? with
    | some n => (.ok n, rest)
    | none => (.error { reading := .malformed, skipping := none }, rest)

/-! ## Strings -/

/-- Whether `n` is the first half of a surrogate pair. -/
def isLeading (n : Nat) : Bool := 0xD800 ≤ n && n < 0xDC00

/-- Whether `n` is the second half of a surrogate pair. -/
def isTrailing (n : Nat) : Bool := 0xDC00 ≤ n && n < 0xE000

/-- The character that a surrogate pair stands for. -/
def pairChar (lead trail : Nat) : Char :=
  Char.ofNat (0x10000 + (lead - 0xD800) * 0x400 + (trail - 0xDC00))

/-- The character that a short escape stands for. -/
def shortEscape? : Char → Option Char
  | '"' => some '"'
  | '\\' => some '\\'
  | '/' => some '/'
  | 'b' => some '\x08'
  | 'f' => some '\x0c'
  | 'n' => some '\n'
  | 'r' => some '\r'
  | 't' => some '\t'
  | _ => none

/-- How an escape fails that is followed by fewer than four characters: the text ends in it unless
these characters take four bytes, which then are no digits. -/
def shortHexError (cs : List Char) : ReadError :=
  if (String.ofList cs).utf8ByteSize < 4 then .truncated else .malformed

/-- How the first half of a surrogate pair stops a reader when what follows it is no second
half. -/
def unpairedError : List Char → ReadError
  | [] | ['\\'] => .truncated
  | '\\' :: 'u' :: _ :: _ :: _ :: _ :: _ => .malformed
  | '\\' :: 'u' :: cs => shortHexError cs
  | _ => .malformed

/-- The first half of a surrogate pair that has just been read, and how it stops a reader when no
second half follows. -/
structure Lead where
  unit : Nat
  error : ReadError

/-- Reads the rest of a string after its opening quote. `taken` holds the characters so far, in
reverse, `lead` half of a pair when it was the last to be read, and `unpaired` how the first half
without its partner stops a reader, if there was one. -/
def scanText (taken : List Char) (lead : Option Lead) (unpaired : Option ReadError) :
    List Char → Except Flaw String × List Char
  | [] => stop .truncated
  | '"' :: rest =>
    match unpaired.or (lead.map (·.error)) with
    | none => (.ok (String.ofList taken.reverse), rest)
    | some e => (.error { reading := e, skipping := none }, rest)
  | '\\' :: 'u' :: a :: b :: c :: d :: rest =>
    match Text.hexValue? [a, b, c, d], lead with
    | none, _ => stop .malformed
    | some n, some l =>
      if isTrailing n then scanText (pairChar l.unit n :: taken) none unpaired rest
      else scanText taken none (unpaired.or (some l.error)) rest
    | some n, none =>
      if isTrailing n then scanText taken none (unpaired.or (some .malformed)) rest
      else if isLeading n then scanText taken (some ⟨n, unpairedError rest⟩) unpaired rest
      else scanText (Char.ofNat n :: taken) none unpaired rest
  | '\\' :: 'u' :: rest => stop (shortHexError rest)
  | '\\' :: c :: rest =>
    match shortEscape? c with
    | some e => scanText (e :: taken) none (unpaired.or (lead.map (·.error))) rest
    | none => stop .malformed
  | ['\\'] => stop .truncated
  | c :: rest =>
    if c.toNat < 0x20 then stop .malformed
    else scanText (c :: taken) none (unpaired.or (lead.map (·.error))) rest
where
  /-- A mistake that ends the text; half of a pair before it is what a reader of the value meets. -/
  stop (e : ReadError) : Except Flaw String × List Char :=
    (.error { reading := (unpaired.or (lead.map (·.error))).getD e, skipping := some e }, [])

/-! ## Tokens -/

/-- Whether a token is the last one because no reader gets past it. -/
def Token.isLast : Token → Bool
  | .number (.error flaw) => flaw.skipping.isSome
  | .text (.error flaw) => flaw.skipping.isSome
  | .badWord _ => true
  | .stray => true
  | _ => false

/-- Reads the letters of a word after its first one. -/
def scanWord (token : Token) : (letters cs : List Char) → Token × List Char
  | [], cs => (token, cs)
  | _ :: _, [] => (.badWord .truncated, [])
  | l :: letters, c :: cs =>
    if l = c then scanWord token letters cs else (.badWord .malformed, [])

/-- Reads the token that begins with `c`. -/
def scanToken (c : Char) (cs : List Char) : Token × List Char :=
  match c with
  | '[' => (.openArray, cs)
  | ']' => (.closeArray, cs)
  | '\x7b' => (.openObject, cs)
  | '\x7d' => (.closeObject, cs)
  | ',' => (.comma, cs)
  | ':' => (.colon, cs)
  | '"' => let (s, rest) := scanText [] none none cs; (.text s, rest)
  | '-' => let (n, rest) := scanNumber true cs; (.number n, rest)
  | 'n' => scanWord .null ['u', 'l', 'l'] cs
  | 't' => scanWord (.boolean true) ['r', 'u', 'e'] cs
  | 'f' => scanWord (.boolean false) ['a', 'l', 's', 'e'] cs
  | c =>
    if c.isDigit then let (n, rest) := scanNumber false (c :: cs); (.number n, rest)
    else (.stray, cs)

/-- Whether `c` may stand between tokens. -/
def isSpace (c : Char) : Bool := c = ' ' ∨ c = '\n' ∨ c = '\t' ∨ c = '\r'

/-- The tokens of a text. `fuel` bounds their number; every token takes at least one character. -/
def tokensWithin : (fuel : Nat) → List Char → List Token
  | 0, _ => []
  | fuel + 1, cs =>
    match cs.dropWhile isSpace with
    | [] => []
    | c :: rest =>
      let (token, rest) := scanToken c rest
      token :: (if token.isLast then [] else tokensWithin fuel rest)

/-- The tokens of a text. -/
def tokens (s : String) : List Token :=
  let cs := s.toList
  tokensWithin cs.length cs

end ChatDispatch.Json
