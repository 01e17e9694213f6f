import ChatDispatch.Text.Hexadecimal
import ChatDispatch.Text.Visible

/-!
# Quoted text

How diagnostics show a text: between double quotes, with an escape for every character that has
no glyph of its own. A quote and a backslash are escaped too, so the quoted form never ends early.
-/

namespace ChatDispatch.Text

/-- How one character stands in a quoted text. -/
def escapeChar (c : Char) : List Char :=
  if c = '\u0000' then ['\\', '0']
  else if c = '\t' then ['\\', 't']
  else if c = '\r' then ['\\', 'r']
  else if c = '\n' then ['\\', 'n']
  else if c = '"' ∨ c = '\\' then ['\\', c]
  else if 0x20 ≤ c.toNat ∧ c.toNat < 0x7F then [c]
  else if extendsGrapheme c || !isPrintable c then
    ['\\', 'u', '\x7b'] ++ hexadecimal c.toNat ++ ['\x7d']
  else [c]

/-- The text between double quotes, with its unprintable characters escaped. -/
def quoted (s : String) : String :=
  String.ofList ('"' :: s.toList.flatMap escapeChar ++ ['"'])

end ChatDispatch.Text
