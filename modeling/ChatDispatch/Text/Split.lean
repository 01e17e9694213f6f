/-!
# Cutting text into pieces

Identifiers are cut at single delimiter characters, and the pieces of a wildcard token are cut at
a marker of any length. Both keep empty pieces, so the pieces and the cuts rebuild the text.
-/

namespace ChatDispatch.Text

/-- The pieces of `cs` between the characters that satisfy `cut`; there is always one more piece
than there are such characters. -/
def splitChars (cut : Char → Bool) : List Char → List (List Char)
  | [] => [[]]
  | c :: cs =>
    if cut c then [] :: splitChars cut cs
    else match splitChars cut cs with
      | piece :: pieces => (c :: piece) :: pieces
      | [] => [[c]]

/-- What follows `lead` in `cs` when `cs` begins with `lead`. -/
def dropLead? : (lead cs : List Char) → Option (List Char)
  | [], cs => some cs
  | _ :: _, [] => none
  | a :: lead, c :: cs => if a = c then dropLead? lead cs else none

/-- The pieces of `cs` between the occurrences of `marker`, found from left to right without
overlap. `skip` counts the characters of the last marker still to be passed over. -/
def splitMarkerFrom (marker : List Char) : (skip : Nat) → List Char → List (List Char)
  | _, [] => [[]]
  | skip + 1, _ :: cs => splitMarkerFrom marker skip cs
  | 0, c :: cs =>
    if marker.isPrefixOf (c :: cs) then [] :: splitMarkerFrom marker (marker.length - 1) cs
    else match splitMarkerFrom marker 0 cs with
      | piece :: pieces => (c :: piece) :: pieces
      | [] => [[c]]

/-- The pieces of `cs` between the occurrences of `marker`. For an empty marker the pieces are
the single characters; callers cut at markers of at least one character. -/
def splitMarker (marker cs : List Char) : List (List Char) := splitMarkerFrom marker 0 cs

/-- The pieces of `s` between its spaces. -/
def splitSpaces (s : String) : List String :=
  (splitChars (· == ' ') s.toList).map String.ofList

/-- The pieces in a row with one space between neighbours. -/
def joinSpaces (pieces : List String) : String := " ".intercalate pieces

end ChatDispatch.Text
