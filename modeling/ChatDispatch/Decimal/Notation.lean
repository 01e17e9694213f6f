import ChatDispatch.Decimal.Shortest

/-!
# Texts of floating-point numbers

Two notations. The plain one writes every number positionally and a whole number without a point;
messages use it. The marked one always shows that the number is not an integer, by a point or an
exponent; diagnostics use it.
-/

namespace ChatDispatch.Decimal

/-- The characters of digits. -/
def digitText (digits : List Nat) : List Char := digits.map fun d => Char.ofNat (d + '0'.toNat)

/-- Positional notation. `tail` stands after the digits of a whole number. -/
def Digits.positional (d : Digits) (tail : List Char) : List Char :=
  let count := d.digits.length
  if d.point ≤ 0 then
    ['0', '.'] ++ List.replicate (-d.point).toNat '0' ++ digitText d.digits
  else if d.point.toNat < count then
    digitText (d.digits.take d.point.toNat) ++ '.' :: digitText (d.digits.drop d.point.toNat)
  else
    digitText d.digits ++ List.replicate (d.point.toNat - count) '0' ++ tail

/-- Scientific notation: one digit, the others after a point, and the exponent. -/
def Digits.scientific (d : Digits) : List Char :=
  let lead := digitText (d.digits.take 1)
  let rest := digitText (d.digits.drop 1)
  lead ++ (if rest.isEmpty then [] else '.' :: rest) ++ 'e' :: (toString (d.point - 1)).toList

/-- The text of a number given the text of its magnitude when it is finite and not zero. -/
def Class.text (zero : List Char) (magnitude : Digits → List Char) : Class → String
  | .nan => "NaN"
  | .infinite negative => if negative then "-inf" else "inf"
  | .zero negative => String.ofList (if negative then '-' :: zero else zero)
  | .finite negative b =>
    let body := magnitude b.shortest
    String.ofList (if negative then '-' :: body else body)

/-- Plain notation: positional, a whole number without a point. -/
def Class.plain (c : Class) : String := c.text ['0'] (·.positional [])

/-- Marked notation: positional with `.0` after a whole number, scientific below `10 ^ -4` and from
`10 ^ 16` on. -/
def Class.marked (c : Class) : String :=
  c.text ['0', '.', '0'] fun d =>
    if -3 ≤ d.point ∧ d.point ≤ 16 then d.positional ['.', '0'] else d.scientific

/-- The plain text of a double. -/
def plain (x : Float) : String := (classOfFloat x).plain

/-- The marked text of a double. -/
def marked (x : Float) : String := (classOfFloat x).marked

/-- The marked text of a single. -/
def marked32 (x : Float32) : String := (classOfFloat32 x).marked

end ChatDispatch.Decimal
