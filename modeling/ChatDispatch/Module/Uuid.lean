import ChatDispatch.Command.Basic

/-!
# Texts of module identifiers

A module identifier is written as 32 hexadecimal digits in five groups. It is read from that form,
also within braces or after `urn:uuid:` in any case, and from the digits alone.
-/

namespace ChatDispatch

/-- The digits in groups of 8, 4, 4, 4 and 12. -/
def ModuleId.text (id : ModuleId) : String :=
  let d := Text.hexadecimalOfWidth 32 id.number
  String.ofList (d.take 8 ++ '-' :: (d.drop 8).take 4 ++ '-' :: (d.drop 12).take 4 ++
    '-' :: (d.drop 16).take 4 ++ '-' :: d.drop 20)

/-- The digits of a text in five groups. -/
def ungroup? (cs : List Char) : Option (List Char) :=
  match (Text.splitChars (· == '-') cs).map fun g => (g.length, g) with
  | [(8, a), (4, b), (4, c), (4, d), (12, e)] => some (a ++ b ++ c ++ d ++ e)
  | _ => none

/-- The digits of the text of a module identifier. -/
def identifierDigits? (cs : List Char) : Option (List Char) :=
  if cs.length = 32 then some cs
  else if cs.length = 36 then ungroup? cs
  else if cs.length = 38 ∧ cs.head? = some '\x7b' ∧ cs.getLast? = some '\x7d' then
    ungroup? ((cs.drop 1).take 36)
  else if cs.length = 45 ∧ (cs.take 9).map Char.toLower = "urn:uuid:".toList then ungroup? (cs.drop 9)
  else none

/-- The module identifier that a text is written for. -/
def ModuleId.read? (s : String) : Option ModuleId :=
  (identifierDigits? s.toList).bind Text.hexValue? |>.map .mk

end ChatDispatch
