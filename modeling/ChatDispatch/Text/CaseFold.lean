import ChatDispatch.Text.Lowercase

/-!
# Comparison of characters without regard to case

Two characters are the same up to case when they have the same simple case folding, a mapping of
one character to one character. The folding is the lower case, except that a few letters with
several lower-case forms are brought to one of them, and the youngest pairs of letters are kept
apart.
-/

namespace ChatDispatch.Text

/-- Letters whose folding is not their lower case: variants of a small letter, which fold to the
usual form of that letter. -/
def foldingRuns : List CodeRun := [
  ⟨0xB5, 0xB5, 1, 775⟩, ⟨0x17F, 0x17F, 1, -268⟩, ⟨0x345, 0x345, 1, 116⟩, ⟨0x3C2, 0x3C2, 1, 1⟩,
  ⟨0x3D0, 0x3D0, 1, -30⟩, ⟨0x3D1, 0x3D1, 1, -25⟩, ⟨0x3D5, 0x3D5, 1, -15⟩, ⟨0x3D6, 0x3D6, 1, -22⟩,
  ⟨0x3F0, 0x3F0, 1, -54⟩, ⟨0x3F1, 0x3F1, 1, -48⟩, ⟨0x3F5, 0x3F5, 1, -64⟩,
  ⟨0x1C80, 0x1C80, 1, -6222⟩, ⟨0x1C81, 0x1C81, 1, -6221⟩, ⟨0x1C82, 0x1C82, 1, -6212⟩,
  ⟨0x1C83, 0x1C84, 1, -6210⟩, ⟨0x1C85, 0x1C85, 1, -6211⟩, ⟨0x1C86, 0x1C86, 1, -6204⟩,
  ⟨0x1C87, 0x1C87, 1, -6180⟩, ⟨0x1C88, 0x1C88, 1, 35267⟩, ⟨0x1E9B, 0x1E9B, 1, -58⟩,
  ⟨0x1FBE, 0x1FBE, 1, -7173⟩, ⟨0x1FD3, 0x1FD3, 1, -7235⟩, ⟨0x1FE3, 0x1FE3, 1, -7219⟩,
  ⟨0xFB06, 0xFB06, 1, -1⟩]

/-- Capital letters that have a lower case and yet fold to themselves: the folding is that of edition
16 of the standard, and their pairs came with edition 17. -/
def unfoldedRanges : List CodeRange := [
  ⟨0xA7CE, 0xA7CE⟩, ⟨0xA7D2, 0xA7D2⟩, ⟨0xA7D4, 0xA7D4⟩, ⟨0x16EA0, 0x16EB8⟩]

/-- The simple case folding of `c`. The dotted capital I folds to itself. -/
def foldChar (c : Char) : Char :=
  if c.toNat < 0x80 then c.toLower
  else if foldingRuns.any (·.contains c) then CodeRun.shifted foldingRuns c
  else if CodeRange.covers unfoldedRanges c then c
  else lowerChar c

/-- Whether two characters are the same up to case. -/
def sameFolded (a b : Char) : Bool := foldChar a == foldChar b

/-- What follows `lead` in `cs` when `cs` begins with `lead` up to case. -/
def dropFolded? : (lead cs : List Char) → Option (List Char)
  | [], cs => some cs
  | _ :: _, [] => none
  | a :: lead, c :: cs => if sameFolded a c then dropFolded? lead cs else none

theorem dropFolded?_eq_some {lead cs rest : List Char} (h : dropFolded? lead cs = some rest) :
    lead.length ≤ cs.length ∧ rest = cs.drop lead.length := by
  induction lead generalizing cs with
  | nil => simpa [dropFolded?, eq_comm] using h
  | cons a lead ih =>
    cases cs with
    | nil => simp [dropFolded?] at h
    | cons c cs =>
      simp only [dropFolded?] at h
      split at h
      · simpa using ih h
      · simp at h

/-- Whether two texts are equal when the letters A to Z count as a to z. No other letters are
identified. -/
def sameAscii (s t : String) : Bool := s.toList.map Char.toLower == t.toList.map Char.toLower

end ChatDispatch.Text
