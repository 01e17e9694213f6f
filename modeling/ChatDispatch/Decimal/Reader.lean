import ChatDispatch.Text.Blank

/-!
# Numbers written by users

Reading a decimal integer or a decimal fraction from a text. A fraction is rounded once, to the
nearest double; an integer is exact.
-/

namespace ChatDispatch.Decimal

/-- The number that digits stand for, read after the digits of `start`. -/
def valueOf (start : Nat) (digits : List Char) : Nat :=
  digits.foldl (fun n c => 10 * n + (c.toNat - '0'.toNat)) start

/-- A sign in front of a number, and what follows it: whether the number is negative. -/
def readSign : List Char → Bool × List Char
  | '-' :: cs => (true, cs)
  | '+' :: cs => (false, cs)
  | cs => (false, cs)

/-- The natural number that `cs` is written for in decimal digits. -/
def readNat? (cs : List Char) : Option Nat :=
  if !cs.isEmpty && cs.all Char.isDigit then some (valueOf 0 cs) else none

/-- The integer that `cs` is written for: decimal digits, with or without a sign. -/
def readInt? (cs : List Char) : Option Int :=
  let (negative, digits) := readSign cs
  (readNat? digits).map fun n => if negative then -(n : Int) else n

/-- The exponent that follows the digits of a fraction; no text is exponent zero. -/
def readExponent? : List Char → Option Int
  | [] => some 0
  | c :: cs => if c = 'e' ∨ c = 'E' then readInt? cs else none

/-- The double nearest to `mantissa · 10 ^ exponent`. Exponents beyond the range of a double, whose
result no longer depends on them, are not computed. -/
def nearestFloat (mantissa : Nat) (exponent : Int) : Float :=
  let size := exponent + (Nat.toDigits 10 mantissa).length
  if mantissa = 0 ∨ size < -400 then 0
  else if 400 < size then 1 / 0
  else Float.ofScientific mantissa (exponent < 0) exponent.natAbs

/-- The magnitude that `cs` is written for: digits with at most one point among or around them and
perhaps an exponent, or one of the words for infinity and for not-a-number. -/
def readMagnitude? (cs : List Char) : Option Float :=
  let word := cs.map Char.toLower
  if word = "inf".toList ∨ word = "infinity".toList then some (1 / 0)
  else if word = "nan".toList then some (0 / 0)
  else
    let whole := cs.takeWhile Char.isDigit
    let afterWhole := cs.dropWhile Char.isDigit
    let (places, rest) := match afterWhole with
      | '.' :: more => (more.takeWhile Char.isDigit, more.dropWhile Char.isDigit)
      | more => ([], more)
    if whole.isEmpty && places.isEmpty then none
    else (readExponent? rest).map fun exponent =>
      nearestFloat (valueOf 0 (whole ++ places)) (exponent - places.length)

/-- The double that `cs` is written for. -/
def readFloat? (cs : List Char) : Option Float :=
  let (negative, magnitude) := readSign cs
  (readMagnitude? magnitude).map fun x => if negative then -x else x

end ChatDispatch.Decimal
