/-!
# Ranges of code points

Character properties and case mappings are tables over code points: a property lists the ranges
that have it, a mapping lists runs of characters that move by the same distance.
-/

namespace ChatDispatch.Text

/-- The code points from `first` to `last`, both included. -/
structure CodeRange where
  first : Nat
  last : Nat
deriving DecidableEq, Repr

/-- Whether `c` lies in one of the ranges. -/
def CodeRange.covers (ranges : List CodeRange) (c : Char) : Bool :=
  ranges.any fun r => r.first ≤ c.toNat && c.toNat ≤ r.last

/-- The code points `first`, `first + step`, … up to `last`, each of which a mapping moves by
`shift`. -/
structure CodeRun where
  first : Nat
  last : Nat
  step : Nat
  shift : Int
deriving DecidableEq, Repr

/-- Whether `c` is one of the characters of the run. -/
def CodeRun.contains (r : CodeRun) (c : Char) : Bool :=
  r.first ≤ c.toNat && c.toNat ≤ r.last && (c.toNat - r.first) % r.step == 0

/-- The image of `c` under the mapping that the runs list; other characters stay as they are. -/
def CodeRun.shifted (runs : List CodeRun) (c : Char) : Char :=
  match runs.find? (·.contains c) with
  | some r => Char.ofNat (c.toNat + r.shift).toNat
  | none => c

end ChatDispatch.Text
