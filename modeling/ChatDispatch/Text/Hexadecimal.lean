/-!
# Hexadecimal numbers

Numbers in hexadecimal: written in small letters, read in any.
-/

namespace ChatDispatch.Text

/-- `n` in hexadecimal without leading zeros. -/
def hexadecimal (n : Nat) : List Char := Nat.toDigits 16 n

/-- `n` in hexadecimal with leading zeros up to `width` digits. -/
def hexadecimalOfWidth (width n : Nat) : List Char :=
  List.replicate (width - (hexadecimal n).length) '0' ++ hexadecimal n

/-- The value of a hexadecimal digit. -/
def hexDigit? (c : Char) : Option Nat :=
  if c.isDigit then some (c.toNat - '0'.toNat)
  else if 'a' ≤ c ∧ c ≤ 'f' then some (c.toNat - 'a'.toNat + 10)
  else if 'A' ≤ c ∧ c ≤ 'F' then some (c.toNat - 'A'.toNat + 10)
  else none

/-- The number that hexadecimal digits stand for. -/
def hexValue? (digits : List Char) : Option Nat :=
  digits.foldlM (fun n c => (hexDigit? c).map (16 * n + ·)) 0

end ChatDispatch.Text
