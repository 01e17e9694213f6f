import ChatDispatch.Text.CodeRange

/-!
# Blanks around a text

A text typed by a user is read without the white space around it.
-/

namespace ChatDispatch.Text

/-- The ranges of the property *White_Space*. -/
def blankRanges : List CodeRange := [
  ⟨0x9, 0xD⟩, ⟨0x20, 0x20⟩, ⟨0x85, 0x85⟩, ⟨0xA0, 0xA0⟩, ⟨0x1680, 0x1680⟩, ⟨0x2000, 0x200A⟩,
  ⟨0x2028, 0x2029⟩, ⟨0x202F, 0x202F⟩, ⟨0x205F, 0x205F⟩, ⟨0x3000, 0x3000⟩]

/-- Whether `c` is white space. -/
def isBlank (c : Char) : Bool := CodeRange.covers blankRanges c

/-- The characters of `cs` without the blanks at either end. -/
def trimBlanks (cs : List Char) : List Char :=
  ((cs.dropWhile isBlank).reverse.dropWhile isBlank).reverse

end ChatDispatch.Text
