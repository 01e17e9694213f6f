/-!
# Shortest decimals

The decimal with the fewest digits that a floating-point number can be told apart by: the numbers
nearer to this one than to its neighbours form an interval, and the first grid of decimals with a
point in the interval gives the digits. Everything is computed in natural numbers.
-/

namespace ChatDispatch.Decimal

/-- A positive number `mantissa · 2 ^ exponent` of a binary format, with what is needed to know its
neighbours. -/
structure Binary where
  mantissa : Nat
  exponent : Int
  /-- Whether the number below is only half as far away as the number above. -/
  nearBelow : Bool

/-- A positive decimal: the digits of `digits` (at least one, the first not zero), with the decimal
point `point` places after their beginning. -/
structure Digits where
  digits : List Nat
  point : Int

/-- The interval of rationals that round to a binary number, all over `scale`: its ends and the
number itself. -/
structure Interval where
  low : Nat
  value : Nat
  high : Nat
  scale : Nat
  /-- Whether the ends belong to the interval. -/
  closed : Bool

/-- The interval of the numbers nearest to `b`. Ties go to an even mantissa, so the ends belong to
the interval when the mantissa is even. -/
def Binary.interval (b : Binary) : Interval :=
  let up := Nat.pow 2 b.exponent.toNat
  let below := if b.nearBelow then 1 else 2
  { low := (4 * b.mantissa - below) * up
    value := 4 * b.mantissa * up
    high := (4 * b.mantissa + 2) * up
    scale := 4 * Nat.pow 2 (-b.exponent).toNat
    closed := b.mantissa % 2 = 0 }

/-- Whether the rational `n / scale` lies in the interval. -/
def Interval.holds (i : Interval) (n : Nat) : Bool :=
  if i.closed then i.low ≤ n && n ≤ i.high else i.low < n && n < i.high

/-- The point in the interval, if any, on the grid of the multiples of `step`: the nearer one of the
two neighbours of the value, the one above when both are equally near. -/
def Interval.gridPoint? (i : Interval) (step : Nat) : Option Nat :=
  let below := i.value / step * step
  let above := below + step
  match i.holds below, i.holds above with
  | true, true => some (if 2 * i.value < below + above then below else above)
  | true, false => some below
  | false, true => some above
  | false, false => none

/-- The interval with value and ends multiplied by `n`. -/
def Interval.times (i : Interval) (n : Nat) : Interval :=
  { i with low := i.low * n, value := i.value * n, high := i.high * n }

/-- The least `k` from `start` on, within `fuel` steps, with `value < scale · 10 ^ k`. -/
def placesFrom (value scale : Nat) : (fuel start : Nat) → Nat
  | 0, k => k
  | fuel + 1, k => if value < scale * Nat.pow 10 k then k else placesFrom value scale fuel (k + 1)

/-- The decimal digits of `n` without the zeros at their end, and how many digits there were. -/
def trimmedDigits (n : Nat) : List Nat × Nat :=
  let all := (Nat.toDigits 10 n).map fun c => c.toNat - '0'.toNat
  ((all.reverse.dropWhile (· == 0)).reverse, all.length)

/-- The digits of the first grid with a point in the interval, from `count` digits on. The value
lies below `10 ^ places`; the interval is already multiplied so that its scale stands for one unit
of the seventeenth digit. -/
def digitsFrom (i : Interval) (places : Int) : (fuel count : Nat) → Digits
  | 0, _ =>
    let (digits, total) := trimmedDigits (i.value / i.scale)
    { digits := digits, point := places + (total - 17) }
  | fuel + 1, count =>
    match i.gridPoint? (i.scale * Nat.pow 10 (17 - count)) with
    | some n =>
      let (digits, total) := trimmedDigits (n / i.scale)
      { digits := digits, point := places + (total - 17) }
    | none => digitsFrom i places fuel (count + 1)

/-- How many decimal places a number of a binary format can have before or after its first digit;
it bounds the search for the place of the first digit. -/
def maxPlaces : Nat := 400

/-- The shortest decimal that rounds to `b`, and the nearest to `b` of those. -/
def Binary.shortest (b : Binary) : Digits :=
  let i := b.interval
  -- the value is below `10 ^ places` and not below a tenth of it
  let places : Int :=
    if i.scale ≤ i.value then placesFrom i.value i.scale maxPlaces 1
    else 1 - placesFrom i.scale (i.value + 1) maxPlaces 0
  digitsFrom
    (if places ≤ 17 then i.times (Nat.pow 10 (17 - places).toNat)
     else { i with scale := i.scale * Nat.pow 10 (places - 17).toNat })
    places 17 1

/-- What the bits of a floating-point number say. -/
inductive Class where
  | nan
  | infinite (negative : Bool)
  | zero (negative : Bool)
  | finite (negative : Bool) (magnitude : Binary)

/-- The class of a number whose bits have a sign, `exponentBits` bits of exponent and
`fractionBits` bits of fraction. -/
def classify (exponentBits fractionBits bits : Nat) : Class :=
  let fraction := bits % Nat.pow 2 fractionBits
  let exponent := bits / Nat.pow 2 fractionBits % Nat.pow 2 exponentBits
  let negative := bits / Nat.pow 2 (fractionBits + exponentBits) % 2 = 1
  -- the exponent of the last fraction bit of the smallest numbers
  let least : Int := 2 - Nat.pow 2 (exponentBits - 1) - fractionBits
  if exponent = Nat.pow 2 exponentBits - 1 then
    if fraction = 0 then .infinite negative else .nan
  else if exponent = 0 then
    if fraction = 0 then .zero negative
    else .finite negative { mantissa := fraction, exponent := least, nearBelow := false }
  else
    .finite negative
      { mantissa := Nat.pow 2 fractionBits + fraction
        exponent := least + (exponent - 1 : Int)
        nearBelow := fraction = 0 && exponent > 1 }

/-- The class of a double. -/
def classOfFloat (x : Float) : Class := classify 11 52 x.toBits.toNat

/-- The class of a single. -/
def classOfFloat32 (x : Float32) : Class := classify 8 23 x.toBits.toNat

end ChatDispatch.Decimal
