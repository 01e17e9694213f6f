import ChatDispatch.Proofs.Splitting
import Mathlib.Data.List.Forall2
import Mathlib.Data.List.Lex

/-!
# What a wildcard matches

A token with markers is written down as a pattern: its literal pieces, with a group that captures text for
each marker between them. The pieces may hold characters that have a meaning in patterns, so these are escaped.
Of the ways in which a text can be taken apart, a match gives the one with the shortest captures, where those
on the left count first.

* **`patternText`**, **`ReadsPatterns`** — the text of a pattern, and what is known of a reader of such texts.
* **`ReadsPatterns.read_patternText`** — it reads the literal pieces and the groups, whatever the pieces hold.
* **`candidates`** — all ways in which a pattern matches a text, in the order in which they are tried.
* **`Decomposes`** — a text is made of the pieces, up to case, with captured text between neighbours.
* **`mem_candidates_iff`**, **`pairwise_candidates`** — the candidates are the decompositions, each with
  shorter captures than those after it.
* **`head?_candidates`** — `matchLiterals` finds the first of them.
* **`Segment.captures?_ofToken`** — the headline, for the segment of any token in which the marker occurs.
-/

namespace ChatDispatch.Router

/-! ## Patterns and their text

Text becomes a part of a pattern by way of two functions that are not written here: one that escapes text, and the
reader that makes a pattern of its text. What is said of them is what they promise, and no more. -/

/-- What a pattern is made of. -/
inductive PatternItem where
  /-- A character, in upper or lower case. -/
  | literal (c : Char)
  /-- One or more characters that are no line feeds, as few as possible. They are captured. -/
  | lazyGroup
deriving DecidableEq

/-- The text of a pattern for what lies between the beginning of a text and its end, in upper or lower case. -/
def anchored (body : List Char) : List Char := "(?i)^".toList ++ body ++ "$".toList

/-- The text of the pattern that matches the literals with captured text between neighbours. -/
def patternText (escape : List Char → List Char) (literals : List (List Char)) : List Char :=
  anchored ("(.+?)".toList.intercalate (literals.map escape))

/-- The text does not begin with a sign that repeats what stands in front of it. -/
def BeginsAfresh (body : List Char) : Prop := ∀ c ∈ body.head?, c ∉ ['*', '+', '?', '\x7b']

/-- What is known of a function that escapes text and of the reader of patterns. Behind escaped text, and behind a
group, the pattern goes on with what follows, unless that begins with a sign for repetition; and escaped text
begins with none. -/
structure ReadsPatterns (escape : List Char → List Char) (read? : List Char → Option (List PatternItem)) : Prop
    where
  nil : read? (anchored []) = some []
  escaped : ∀ literal rest, BeginsAfresh rest →
    read? (anchored (escape literal ++ rest)) = (read? (anchored rest)).map (literal.map .literal ++ ·)
  group : ∀ rest, BeginsAfresh rest →
    read? (anchored ("(.+?)".toList ++ rest)) = (read? (anchored rest)).map (.lazyGroup :: ·)
  beginsAfresh : ∀ literal rest, BeginsAfresh rest → BeginsAfresh (escape literal ++ rest)

/-- The pattern of the literals: each character for itself, and a group between neighbours. -/
def itemsOf (literals : List (List Char)) : List PatternItem :=
  [.lazyGroup].intercalate (literals.map (·.map .literal))

theorem itemsOf_singleton (literal : List Char) : itemsOf [literal] = literal.map .literal :=
  List.intercalate_singleton

theorem itemsOf_cons_cons (literal next : List Char) (rest : List (List Char)) :
    itemsOf (literal :: next :: rest) = literal.map .literal ++ .lazyGroup :: itemsOf (next :: rest) := by
  rw [itemsOf, List.map_cons, List.map_cons, List.intercalate_cons_cons, List.append_assoc]
  rfl

section Reading

variable {escape : List Char → List Char} {read? : List Char → Option (List PatternItem)}

/-- Between the literals stand groups, so nothing in the text of a pattern begins with a sign for repetition. -/
theorem ReadsPatterns.beginsAfresh_intercalate (h : ReadsPatterns escape read?) (literals : List (List Char)) :
    BeginsAfresh ("(.+?)".toList.intercalate (literals.map escape)) := by
  have hnil : BeginsAfresh [] := nofun
  cases literals with
  | nil => exact hnil
  | cons literal rest =>
    cases rest with
    | nil =>
      have halone := h.beginsAfresh literal [] hnil
      rw [List.append_nil] at halone
      rwa [List.map_singleton, List.intercalate_singleton]
    | cons next rest =>
      rw [List.map_cons, List.map_cons, List.intercalate_cons_cons, List.append_assoc]
      -- behind the literal stands a group, which begins with a bracket
      refine h.beginsAfresh literal _ ?_
      intro c hc
      cases hc
      decide

/-- **Literal text is never syntax.** The text of a pattern is read as the literals and the groups between
them. -/
theorem ReadsPatterns.read_patternText (h : ReadsPatterns escape read?) (literals : List (List Char)) :
    read? (patternText escape literals) = some (itemsOf literals) := by
  unfold patternText
  induction literals with
  | nil => exact h.nil
  | cons literal rest ih =>
    cases rest with
    | nil =>
      have halone := h.escaped literal [] nofun
      rw [List.append_nil, h.nil] at halone
      rw [List.map_singleton, List.intercalate_singleton, halone, itemsOf_singleton]
      exact congrArg some (List.append_nil _)
    | cons next rest =>
      -- the literal is read first, then the group behind it, and then the rest of the pattern
      have hrest := h.beginsAfresh_intercalate (next :: rest)
      have hgroup : BeginsAfresh ("(.+?)".toList ++ "(.+?)".toList.intercalate ((next :: rest).map escape)) := by
        intro c hc
        cases hc
        decide
      rw [List.map_cons, List.map_cons, List.intercalate_cons_cons, ← List.map_cons, List.append_assoc,
        h.escaped _ _ hgroup, h.group _ hrest, ih, itemsOf_cons_cons]
      rfl

end Reading

/-! ## The matches of a pattern

A group tries the shortest text first and goes on to longer ones when the rest of the pattern does not match. All
matches, in the order in which they are tried, make a list, and the matcher gives the first in it. -/

/-- The captured texts that a text can begin with, each with what follows it, from the shortest on. -/
def taken : List Char → List (List Char × List Char)
  | [] => []
  | c :: cs => if c = '\n' then [] else ([c], cs) :: (taken cs).map fun t => (c :: t.1, t.2)

/-- The captures of a pattern in a text, for all ways in which it matches, in the order in which they are
tried: a group takes as little as possible first, and then more. -/
def candidates : List PatternItem → List Char → List Captures
  | [], cs => if cs.isEmpty then [[]] else []
  | .literal _ :: _, [] => []
  | .literal a :: items, c :: cs => if Text.sameFolded a c then candidates items cs else []
  | .lazyGroup :: items, cs => (taken cs).flatMap fun t => (candidates items t.2).map (t.1 :: ·)

/-- What can be captured is a beginning of the text that is not empty and holds no line feed. -/
theorem mem_taken_iff {cs capture rest : List Char} :
    (capture, rest) ∈ taken cs ↔ (capture ≠ [] ∧ '\n' ∉ capture) ∧ cs = capture ++ rest := by
  induction cs generalizing capture with
  | nil =>
    simp only [taken, List.not_mem_nil, false_iff]
    rintro ⟨⟨hne, -⟩, heq⟩
    exact hne (List.append_eq_nil_iff.mp heq.symm).1
  | cons c cs ih =>
    rw [taken]
    cases capture with
    | nil => split <;> simp
    | cons d capture =>
      -- the capture is its first character and one of the rest, or just this character
      by_cases hline : c = '\n'
      · rw [if_pos hline]
        simp only [List.not_mem_nil, false_iff]
        rintro ⟨⟨-, hnot⟩, heq⟩
        cases heq
        exact hnot (hline ▸ List.mem_cons_self)
      · rw [if_neg hline, List.mem_cons, List.mem_map]
        simp only [Prod.mk.injEq, List.cons.injEq]
        cases capture with
        | nil => grind
        | cons e capture => grind

/-- Longer captures come later. -/
theorem pairwise_taken (cs : List Char) :
    (taken cs).Pairwise fun first later => first.1.length < later.1.length := by
  induction cs with
  | nil => exact .nil
  | cons c cs ih =>
    rw [taken]
    split
    · exact .nil
    · refine .cons ?_ (List.pairwise_map.mpr (ih.imp Nat.succ_lt_succ))
      intro later hlater
      obtain ⟨⟨capture, rest⟩, hmem, rfl⟩ := List.mem_map.mp hlater
      exact Nat.succ_lt_succ (List.length_pos_of_ne_nil (mem_taken_iff.mp hmem).1.1)

/-- What is captured up to a place from which the rest matches is the first of what can be captured. -/
theorem captureUntil_eq (onward : List Char → Option Captures) (cs : List Char) :
    captureUntil onward cs = (taken cs).findSome? fun t => (onward t.2).map (t.1 :: ·) := by
  induction cs with
  | nil => rfl
  | cons c cs ih =>
    rw [captureUntil, taken]
    split
    · rfl
    · rw [List.findSome?_cons, List.findSome?_map, ih]
      cases onward cs with
      | some captures => rfl
      | none =>
        rw [List.map_findSome?]
        simp only [Function.comp_def, Option.map_map, extendFirst]
        rfl

/-- A literal in front takes its characters from the text, or nothing matches. -/
theorem candidates_append (literal : List Char) (items : List PatternItem) (cs : List Char) :
    candidates (literal.map .literal ++ items) cs =
      (Text.dropFolded? literal cs).elim [] (candidates items) := by
  induction literal generalizing cs with
  | nil => rfl
  | cons a literal ih =>
    cases cs with
    | nil => rfl
    | cons c cs =>
      rw [List.map_cons, List.cons_append, candidates, Text.dropFolded?, ih]
      split <;> rfl

/-- **A match** is the first of the candidates. -/
theorem head?_candidates (literal : List Char) (literals : List (List Char)) (cs : List Char) :
    (candidates (itemsOf (literal :: literals)) cs).head? = matchLiterals (literal :: literals) cs := by
  rw [matchLiterals_cons]
  -- each literal is followed by a group and the rest, but for the last one, which ends the text
  induction literals generalizing literal cs with
  | nil =>
    rw [itemsOf_singleton, ← List.append_nil (literal.map _), candidates_append]
    cases Text.dropFolded? literal cs with
    | none => rfl
    | some rest =>
      simp only [Option.elim_some, Option.bind_some, candidates, searchAfter]
      split <;> rfl
  | cons next rest ih =>
    rw [itemsOf_cons_cons, candidates_append]
    cases Text.dropFolded? literal cs with
    | none => rfl
    | some after =>
      simp only [Option.elim_some, Option.bind_some, candidates, searchAfter, captureUntil_eq,
        List.head?_flatMap, List.head?_map, ih]

/-- **The order of the candidates**: each has shorter captures than all after it, where the first capture in
which two differ decides. -/
theorem pairwise_candidates (items : List PatternItem) (cs : List Char) :
    (candidates items cs).Pairwise fun first later => first.map List.length < later.map List.length := by
  induction items generalizing cs with
  | nil =>
    rw [candidates]
    split
    · exact List.pairwise_singleton _ _
    · exact .nil
  | cons item items ih =>
    cases item with
    | literal a =>
      cases cs with
      | nil => exact .nil
      | cons c cs =>
        rw [candidates]
        split
        · exact ih cs
        · exact .nil
    | lazyGroup =>
      rw [candidates, List.pairwise_flatMap]
      -- two ways with the same first capture differ behind it, and else the shorter first capture decides
      constructor
      · intro t _
        exact List.pairwise_map.mpr ((ih t.2).imp List.Lex.cons)
      · refine (pairwise_taken cs).imp fun hshorter => ?_
        intro first hfirst later hlater
        obtain ⟨_, _, rfl⟩ := List.mem_map.mp hfirst
        obtain ⟨_, _, rfl⟩ := List.mem_map.mp hlater
        exact .rel hshorter

/-- The first candidate has the shortest captures of all. -/
theorem eq_or_shorter_of_head?_candidates {items : List PatternItem} {cs : List Char} {shortest other : Captures}
    (h : (candidates items cs).head? = some shortest) (hother : other ∈ candidates items cs) :
    other = shortest ∨ shortest.map List.length < other.map List.length := by
  obtain ⟨later, hcandidates⟩ := List.head?_eq_some_iff.mp h
  have hordered := pairwise_candidates items cs
  rw [hcandidates, List.pairwise_cons] at hordered
  rw [hcandidates, List.mem_cons] at hother
  exact hother.imp_right (hordered.1 other)

/-! ## Decompositions

The other side of the law has no order and no trials: a text is put together of pieces and captures, or it is
not. -/

/-- Texts in a row with a capture between neighbours. -/
def woven : (texts : List (List Char)) → Captures → List Char
  | [], _ => []
  | text :: _, [] => text
  | text :: texts, capture :: captures => text ++ capture ++ woven texts captures

/-- The text is made of the literals, each character in upper or lower case, with one of the captures between
neighbours. None of these is empty or holds a line feed. -/
structure Decomposes (literals : List (List Char)) (captures : Captures) (cs : List Char) : Prop where
  length_eq : captures.length + 1 = literals.length
  capturable : ∀ capture ∈ captures, capture ≠ [] ∧ '\n' ∉ capture
  exists_texts : ∃ texts,
    List.Forall₂ (List.Forall₂ fun a c => Text.sameFolded a c = true) literals texts ∧
      cs = woven texts captures

/-- What is left of a text behind a literal. -/
theorem dropFolded?_eq_some_iff {literal cs rest : List Char} :
    Text.dropFolded? literal cs = some rest ↔
      ∃ text, List.Forall₂ (fun a c => Text.sameFolded a c = true) literal text ∧ cs = text ++ rest := by
  induction literal generalizing cs with
  | nil =>
    simp only [Text.dropFolded?, Option.some.injEq, List.forall₂_nil_left_iff, exists_eq_left,
      List.nil_append]
  | cons a literal ih =>
    cases cs with
    | nil => simp [Text.dropFolded?, List.forall₂_cons_left_iff]
    | cons c cs =>
      simp only [Text.dropFolded?, Option.ite_none_right_eq_some, ih, List.forall₂_cons_left_iff]
      constructor
      · rintro ⟨hsame, text, htext, rfl⟩
        exact ⟨c :: text, ⟨c, text, hsame, htext, rfl⟩, rfl⟩
      · rintro ⟨_, ⟨d, text, hsame, htext, rfl⟩, heq⟩
        cases heq
        exact ⟨hsame, text, htext, rfl⟩

/-- One literal is the whole text, and nothing is captured. -/
theorem decomposes_singleton_iff {literal cs : List Char} {captures : Captures} :
    Decomposes [literal] captures cs ↔ captures = [] ∧ Text.dropFolded? literal cs = some [] := by
  rw [dropFolded?_eq_some_iff]
  constructor
  · rintro ⟨hlength, -, texts, htexts, rfl⟩
    obtain ⟨text, _, htext, hnil, rfl⟩ := List.forall₂_cons_left_iff.mp htexts
    cases hnil
    obtain rfl : captures = [] := List.length_eq_zero_iff.mp (Nat.succ.inj hlength)
    exact ⟨rfl, text, htext, (List.append_nil text).symm⟩
  · rintro ⟨rfl, text, htext, rfl⟩
    exact ⟨rfl, nofun, [text], .cons htext .nil, List.append_nil text⟩

/-- Behind the first literal comes a capture, and then a text that is made of the other literals. -/
theorem decomposes_cons_iff {literal next cs : List Char} {rest : List (List Char)} {captures : Captures} :
    Decomposes (literal :: next :: rest) captures cs ↔
      ∃ after, Text.dropFolded? literal cs = some after ∧ ∃ t ∈ taken after,
        ∃ more, Decomposes (next :: rest) more t.2 ∧ t.1 :: more = captures := by
  constructor
  · rintro ⟨hlength, hcapturable, texts, htexts, rfl⟩
    obtain ⟨text, others, htext, hothers, rfl⟩ := List.forall₂_cons_left_iff.mp htexts
    cases captures with
    | nil => cases hlength
    | cons capture more =>
      obtain ⟨hcapture, hmore⟩ := List.forall_mem_cons.mp hcapturable
      refine ⟨capture ++ woven others more, ?_, (capture, woven others more), ?_, more, ?_, rfl⟩
      · exact dropFolded?_eq_some_iff.mpr ⟨text, htext, by rw [woven, List.append_assoc]⟩
      · exact mem_taken_iff.mpr ⟨hcapture, rfl⟩
      · exact ⟨Nat.succ.inj hlength, hmore, others, hothers, rfl⟩
  · rintro ⟨after, hdrop, ⟨capture, left⟩, htaken, more, ⟨hlength, hmore, others, hothers, rfl⟩, rfl⟩
    obtain ⟨text, htext, rfl⟩ := dropFolded?_eq_some_iff.mp hdrop
    obtain ⟨hcapture, rfl⟩ := mem_taken_iff.mp htaken
    refine ⟨congrArg (· + 1) hlength, List.forall_mem_cons.mpr ⟨hcapture, hmore⟩,
      text :: others, .cons htext hothers, ?_⟩
    rw [woven, List.append_assoc]

/-- **The candidates** are the decompositions of the text. -/
theorem mem_candidates_iff {literal : List Char} {literals : List (List Char)} {captures : Captures}
    {cs : List Char} :
    captures ∈ candidates (itemsOf (literal :: literals)) cs ↔
      Decomposes (literal :: literals) captures cs := by
  induction literals generalizing literal captures cs with
  | nil =>
    rw [decomposes_singleton_iff, itemsOf_singleton, ← List.append_nil (literal.map _), candidates_append]
    cases Text.dropFolded? literal cs with
    | none => simp
    | some rest => simp [candidates, and_comm]
  | cons next rest ih =>
    rw [decomposes_cons_iff, itemsOf_cons_cons, candidates_append]
    cases Text.dropFolded? literal cs with
    | none => simp
    | some after => simp [candidates, ih]

/-- The captures and the literals together are as long as the text. -/
theorem Decomposes.length_text {literals : List (List Char)} {captures : Captures} {cs : List Char}
    (h : Decomposes literals captures cs) :
    cs.length = literals.flatten.length + captures.flatten.length := by
  obtain ⟨hlength, -, texts, htexts, rfl⟩ := h
  induction htexts generalizing captures with
  | nil => cases hlength
  | @cons literal text literals texts htext hrest ih =>
    cases captures with
    | nil =>
      obtain rfl : literals = [] := List.length_eq_zero_iff.mp (Nat.succ.inj hlength).symm
      simp [woven, htext.length_eq]
    | cons capture captures =>
      have hbelow := ih (Nat.succ.inj hlength)
      simp only [woven, List.length_append, hbelow, List.flatten_cons, htext.length_eq]
      omega

/-! ## Segments

The law for lists of characters is carried over to tokens and to the segments that are made of them. -/

/-- **What a wildcard matches.** Take a token in which the marker occurs, and the literal pieces that it is cut
into. The text of their pattern is read as these pieces and a group for each marker, whatever characters they
hold, by any reader that keeps its promises. In a text, the segment of the token finds the first of the ways in
which this pattern matches, that is

* something exactly when the text is made of the pieces, up to case, with captures between them that are not
  empty and hold no line feed,
* and then the captures of such a decomposition, one for each marker. All others have longer captures, where
  the first capture in which two differ decides. All in all the captures are what is left of the text without
  the pieces. -/
theorem Segment.captures?_ofToken {marker token : String} (hmarker : marker ≠ "")
    (hoccurs : marker.toList <:+: token.toList) (text : String) :
    let literals := Text.splitMarker marker.toList token.toList
    let found := (ofToken (some marker) token).captures? text
    marker.toList.intercalate literals = token.toList ∧
    (∀ escape read?, ReadsPatterns escape read? →
      read? (patternText escape literals) = some (itemsOf literals)) ∧
    found = (candidates (itemsOf literals) text.toList).head?.map (·.map String.ofList) ∧
    (found.isSome = true ↔ ∃ captures, Decomposes literals captures text.toList) ∧
    ∀ captures, found = some captures →
      captures.length + 1 = literals.length ∧
      Decomposes literals (captures.map String.toList) text.toList ∧
      (∀ other, Decomposes literals other text.toList →
        other = captures.map String.toList ∨ captures.map String.length < other.map List.length) ∧
      text.length = literals.flatten.length + (captures.map String.toList).flatten.length := by
  intro literals found
  obtain ⟨literal, rest, hliterals⟩ : ∃ literal rest, literals = literal :: rest :=
    List.exists_cons_of_ne_nil (Text.splitMarkerFrom_ne_nil _ _ _)
  have hfirst : found = (candidates (itemsOf literals) text.toList).head?.map (·.map String.ofList) := by
    rw [hliterals, head?_candidates, ← hliterals]
    exact congrArg (captures? · text) (ofToken_eq_wildcard hmarker hoccurs)
  -- the candidates are the ways in which the text can be taken apart
  have hmem : ∀ captures, captures ∈ candidates (itemsOf literals) text.toList ↔
      Decomposes literals captures text.toList := by
    rw [hliterals]
    exact fun captures => mem_candidates_iff
  have hjoined : marker.toList.intercalate literals = token.toList :=
    Text.intercalate_splitMarker (by simpa using hmarker) token.toList
  refine ⟨hjoined, fun escape read? h => h.read_patternText literals, hfirst, ?_, ?_⟩
  · rw [hfirst, Option.isSome_map, List.isSome_head?, ← List.isEmpty_eq_false_iff,
      List.isEmpty_eq_false_iff_exists_mem]
    exact exists_congr hmem
  · intro captures hfound
    rw [hfirst] at hfound
    obtain ⟨shortest, hhead, rfl⟩ := Option.map_eq_some_iff.mp hfound
    have hback : (shortest.map String.ofList).map String.toList = shortest := by
      simp [Function.comp_def]
    have hlengths : (shortest.map String.ofList).map String.length = shortest.map List.length := by
      simp [Function.comp_def]
    have hdecomposes : Decomposes literals shortest text.toList := (hmem shortest).mp (List.mem_of_mem_head? hhead)
    rw [hback, hlengths]
    refine ⟨?_, hdecomposes, fun other hother => ?_, hdecomposes.length_text⟩
    · rw [List.length_map]
      exact hdecomposes.length_eq
    · exact eq_or_shorter_of_head?_candidates hhead ((hmem other).mpr hother)

namespace Sample

/-- The character has a meaning in the text of patterns. Behind a backslash it stands for itself. -/
def isMeta (c : Char) : Bool := "\\.+*?()|[]\x7b\x7d^$#&-~".toList.contains c

/-- The text of a pattern that matches `cs` and nothing else. -/
def escape (cs : List Char) : List Char := cs.flatMap fun c => if isMeta c then ['\\', c] else [c]

/-- The items that are written in the text of a pattern up to the anchor at its end. Texts with any other
syntax are not read. -/
def readItems? : List Char → Option (List PatternItem)
  | [] => none
  | c :: cs =>
    if c = '\\' then
      match cs with
      | [] => none
      | d :: ds => if isMeta d then (readItems? ds).map (.literal d :: ·) else none
    else if c = '(' then
      match cs with
      | '.' :: '+' :: '?' :: ')' :: ds => (readItems? ds).map (.lazyGroup :: ·)
      | _ => none
    else if c = '$' then if cs.isEmpty then some [] else none
    else if isMeta c then none
    else (readItems? cs).map (.literal c :: ·)

/-- The items of a pattern that is anchored at both ends and does not regard case. -/
def read? : List Char → Option (List PatternItem)
  | '(' :: '?' :: 'i' :: ')' :: '^' :: cs => readItems? cs
  | _ => none

/-- Escaped text is read as the characters themselves. -/
theorem readItems?_escape (cs rest : List Char) :
    readItems? (escape cs ++ rest) = (readItems? rest).map (cs.map .literal ++ ·) := by
  induction cs with
  | nil => simp [escape]
  | cons c cs ih =>
    have hcons : escape (c :: cs) = (if isMeta c then ['\\', c] else [c]) ++ escape cs := rfl
    rw [hcons, List.append_assoc]
    cases hmeta : isMeta c with
    | true =>
      simp only [if_true, List.cons_append, List.nil_append, readItems?, hmeta, ih, Option.map_map]
      rfl
    | false =>
      -- a character without a meaning is none of those that the reader looks for
      have hbackslash : c ≠ '\\' := by rintro rfl; revert hmeta; decide
      have hopen : c ≠ '(' := by rintro rfl; revert hmeta; decide
      have hend : c ≠ '$' := by rintro rfl; revert hmeta; decide
      simp only [Bool.false_eq_true, if_false, List.cons_append, List.nil_append]
      rw [readItems?.eq_def]
      simp only [if_neg hbackslash, if_neg hopen, if_neg hend, hmeta, Bool.false_eq_true, if_false, ih,
        Option.map_map]
      rfl

/-- What is read of a pattern is what stands between the signs at its two ends. -/
theorem read?_anchored (body : List Char) : read? (anchored body) = readItems? (body ++ "$".toList) := by
  rw [anchored, List.append_assoc]
  rfl

/-- Signs for repetition are escaped, so escaped text begins with none. -/
theorem beginsAfresh_escape (literal rest : List Char) (h : BeginsAfresh rest) :
    BeginsAfresh (escape literal ++ rest) := by
  cases literal with
  | nil => exact h
  | cons c literal =>
    have hcons : escape (c :: literal) = (if isMeta c then ['\\', c] else [c]) ++ escape literal := rfl
    intro first hfirst hrepeats
    -- a sign for repetition has a meaning, so a backslash stands in front of it
    have hmeta : ∀ sign ∈ ['*', '+', '?', '\x7b'], isMeta sign = true := by
      simp only [List.forall_mem_cons, List.not_mem_nil, false_implies, implies_true, and_true]
      exact ⟨rfl, rfl, rfl, rfl⟩
    rw [hcons] at hfirst
    cases hc : isMeta c with
    | true =>
      simp only [hc, if_true, List.cons_append, List.head?_cons, Option.mem_some_iff] at hfirst
      subst hfirst
      revert hrepeats
      decide
    | false =>
      simp only [hc, Bool.false_eq_true, if_false, List.cons_append, List.head?_cons,
        Option.mem_some_iff] at hfirst
      subst hfirst
      rw [hmeta _ hrepeats] at hc
      cases hc

/-- The sample reader keeps its promises. -/
theorem readsPatterns : ReadsPatterns escape read? where
  nil := rfl
  escaped literal rest _ := by
    rw [read?_anchored, read?_anchored, List.append_assoc, readItems?_escape]
  group rest _ := by
    rw [read?_anchored, read?_anchored, List.append_assoc]
    rfl
  beginsAfresh := beginsAfresh_escape

end Sample

/-- A text can be taken apart in two ways here, as there are two dashes. The first capture is the short one, and
the second takes the rest. The point is no wildcard. -/
theorem captures?_ofToken_version :
    "*" ≠ "" ∧ "*".toList <:+: "v.*-*".toList ∧
    Text.splitMarker "*".toList "v.*-*".toList = [['v', '.'], ['-'], []] ∧
    ReadsPatterns Sample.escape Sample.read? ∧
    Sample.read? (patternText Sample.escape [['v', '.'], ['-'], []]) =
      some [.literal 'v', .literal '.', .lazyGroup, .literal '-', .lazyGroup] ∧
    (Segment.ofToken (some "*") "v.*-*").captures? "V.1-2-3" = some ["1", "2-3"] ∧
    Decomposes [['v', '.'], ['-'], []] [['1'], ['2', '-', '3']] "V.1-2-3".toList ∧
    (∀ other, Decomposes [['v', '.'], ['-'], []] other "V.1-2-3".toList →
      other = [['1'], ['2', '-', '3']] ∨ [1, 3] < other.map List.length) ∧
    ¬ ∃ captures, Decomposes [['v', '.'], ['-'], []] captures "vx1-2".toList := by
  have hoccurs : "*".toList <:+: "v.*-*".toList := by decide
  have hpieces : Text.splitMarker "*".toList "v.*-*".toList = [['v', '.'], ['-'], []] := by decide
  have hfound : (Segment.ofToken (some "*") "v.*-*").captures? "V.1-2-3" = some ["1", "2-3"] := by decide
  have hversion := Segment.captures?_ofToken (by decide) hoccurs "V.1-2-3"
  have hother := Segment.captures?_ofToken (by decide) hoccurs "vx1-2"
  simp only [hpieces] at hversion hother
  obtain ⟨-, hread, -, -, hall⟩ := hversion
  obtain ⟨-, hdecomposes, hshortest, -⟩ := hall _ hfound
  refine ⟨by decide, hoccurs, hpieces, Sample.readsPatterns, hread _ _ Sample.readsPatterns, hfound,
    hdecomposes, hshortest, ?_⟩
  rw [← hother.2.2.2.1]
  decide

end ChatDispatch.Router
