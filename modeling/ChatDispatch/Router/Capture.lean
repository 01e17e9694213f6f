import ChatDispatch.Text.CaseFold

/-!
# Captured text

A text is matched against literals with captured text between neighbours. A capture has at least one
character and holds no line feed; the first captures are as short as the rest allows.

* `searchAfter` says what is captured, trying the shortest captures first and going back when the
  rest does not fit. It can take exponentially many steps.
* `entriesAfter` finds the same for all endings of a text at once, from the last literal to the
  first, in one pass over the text for each literal.
* `matchLiterals` uses the second; `matchLiterals_cons` gives it by the first.
-/

namespace ChatDispatch.Router

/-- Captured texts from left to right. -/
abbrev Captures := List (List Char)

/-- Puts a character in front of the first capture. -/
def extendFirst (c : Char) : Captures → Captures
  | [] => []
  | capture :: captures => (c :: capture) :: captures

/-! ## Captures by search -/

/-- The shortest beginning of a text that can be captured and after which `onward` succeeds, in
front of what `onward` gives. -/
def captureUntil (onward : List Char → Option Captures) : List Char → Option Captures
  | [] => none
  | c :: cs =>
    if c = '\n' then none
    else
      match onward cs with
      | some captures => some ([c] :: captures)
      | none => (captureUntil onward cs).map (extendFirst c)

/-- The captures of a text that goes on with captured text before each of the literals and ends
with the last of them. -/
def searchAfter : (literals : List (List Char)) → List Char → Option Captures
  | [], cs => if cs.isEmpty then some [] else none
  | literal :: literals, cs =>
    captureUntil (fun rest => (Text.dropFolded? literal rest).bind (searchAfter literals)) cs

/-! ## Captures of all endings at once -/

/-- The endings of a text, from the whole of it to the empty one. -/
def endings : List Char → List (List Char)
  | [] => [[]]
  | c :: cs => (c :: cs) :: endings cs

/-- One entry for each ending of a text: what is captured in it. -/
abbrev Entries := List (Option Captures)

/-- The entry for the longest ending. -/
def firstEntry (entries : Entries) : Option Captures := entries.head?.join

/-- The entries when nothing may follow: only the empty ending has captures. -/
def endEntries : List Char → Entries
  | [] => [some []]
  | _ :: cs => none :: endEntries cs

/-- The entries for endings that begin with the literal, given the entries for what follows it:
`behind` is ahead of the text by the length of the literal. -/
def literalEntries (literal : List Char) : (cs : List Char) → (behind : Entries) → Entries
  | [], behind => [if (Text.dropFolded? literal []).isSome then firstEntry behind else none]
  | c :: cs, behind =>
    (if (Text.dropFolded? literal (c :: cs)).isSome then firstEntry behind else none) ::
      literalEntries literal cs (behind.drop 1)

/-- The entries for endings that begin with captured text, given the entries for what follows it. -/
def captureEntries : (cs : List Char) → (onward : Entries) → Entries
  | [], _ => [none]
  | c :: cs, onward =>
    let later := captureEntries cs (onward.drop 1)
    let entry :=
      if c = '\n' then none
      else
        match firstEntry (onward.drop 1) with
        | some captures => some ([c] :: captures)
        | none => (firstEntry later).map (extendFirst c)
    entry :: later

/-- The entries for endings that go on with captured text before each of the literals and end with
the last of them. -/
def entriesAfter : (literals : List (List Char)) → (cs : List Char) → Entries
  | [], cs => endEntries cs
  | literal :: literals, cs =>
    captureEntries cs
      (literalEntries literal cs ((entriesAfter literals cs).drop literal.length))

/-- The captures of a text made of the literals with captured text between neighbours. -/
def matchLiterals : (literals : List (List Char)) → List Char → Option Captures
  | [], _ => none
  | literal :: literals, cs =>
    (Text.dropFolded? literal cs).bind fun rest => firstEntry (entriesAfter literals rest)

/-! ## The entries are what the search finds -/

theorem endings_eq_cons (cs : List Char) : ∃ rest, endings cs = cs :: rest := by
  cases cs with
  | nil => exact ⟨[], rfl⟩
  | cons c cs => exact ⟨endings cs, rfl⟩

theorem firstEntry_map_endings (f : List Char → Option Captures) (cs : List Char) :
    firstEntry ((endings cs).map f) = f cs := by
  obtain ⟨rest, h⟩ := endings_eq_cons cs
  simp [firstEntry, h]

theorem drop_endings {n : Nat} {cs : List Char} (h : n ≤ cs.length) :
    (endings cs).drop n = endings (cs.drop n) := by
  induction n generalizing cs with
  | zero => rfl
  | succ n ih =>
    cases cs with
    | nil => simp at h
    | cons c cs => simpa [endings] using ih (Nat.le_of_succ_le_succ h)

theorem endEntries_eq (cs : List Char) :
    endEntries cs = (endings cs).map (searchAfter []) := by
  induction cs with
  | nil => rfl
  | cons c cs ih => simp [endEntries, endings, searchAfter, ih]

/-- The entry for an ending that begins with the literal, or not. -/
theorem firstEntry_behind (literal cs : List Char) (f : List Char → Option Captures) :
    (if (Text.dropFolded? literal cs).isSome
      then firstEntry (((endings cs).map f).drop literal.length) else none) =
      (Text.dropFolded? literal cs).bind f := by
  cases h : Text.dropFolded? literal cs with
  | none => rfl
  | some rest =>
    obtain ⟨hlen, rfl⟩ := Text.dropFolded?_eq_some h
    simp only [Option.isSome_some, if_true, Option.bind_some]
    rw [← List.map_drop, drop_endings hlen, firstEntry_map_endings]

theorem literalEntries_eq (literal cs : List Char) (f : List Char → Option Captures) :
    literalEntries literal cs (((endings cs).map f).drop literal.length) =
      (endings cs).map fun rest => (Text.dropFolded? literal rest).bind f := by
  induction cs with
  | nil =>
    have entry := firstEntry_behind literal [] f
    simp only [literalEntries, endings, List.map_cons, List.map_nil] at entry ⊢
    rw [entry]
  | cons c cs ih =>
    have entry := firstEntry_behind literal (c :: cs) f
    have later : ((((endings (c :: cs)).map f).drop literal.length).drop 1) =
        ((endings cs).map f).drop literal.length := by
      rw [List.drop_drop]
      simp [endings]
    rw [literalEntries, entry, later, ih]
    rfl

theorem captureEntries_eq (cs : List Char) (onward : List Char → Option Captures) :
    captureEntries cs ((endings cs).map onward) = (endings cs).map (captureUntil onward) := by
  induction cs with
  | nil => rfl
  | cons c cs ih =>
    simp only [endings, List.map_cons, captureEntries, List.drop_succ_cons, List.drop_zero, ih,
      firstEntry_map_endings, captureUntil]

theorem entriesAfter_eq (literals : List (List Char)) (cs : List Char) :
    entriesAfter literals cs = (endings cs).map (searchAfter literals) := by
  induction literals with
  | nil => exact endEntries_eq cs
  | cons literal literals ih =>
    rw [entriesAfter, ih, literalEntries_eq, captureEntries_eq]
    rfl

/-- A match is the first literal followed by what the search finds. -/
theorem matchLiterals_cons (literal : List Char) (literals : List (List Char)) (cs : List Char) :
    matchLiterals (literal :: literals) cs =
      (Text.dropFolded? literal cs).bind (searchAfter literals) := by
  simp only [matchLiterals, entriesAfter_eq, firstEntry_map_endings]

end ChatDispatch.Router
