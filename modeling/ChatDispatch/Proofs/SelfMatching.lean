import ChatDispatch.Proofs.Insertion
import ChatDispatch.Proofs.Naming

/-!
# Patterns and their own text

A token with markers is a pattern, and what it is written as may be looked up, too. Lower case is not quite
what patterns compare, so a pattern need not match its own lower case; it does where this is the name of a
slash command.

* **`isSome_captureUntil`** — text can be captured where it ends before something that goes on.
* **`isSome_matchLiterals_splitMarkerFrom`** — the pieces around markers match the text that they were cut
  from, each marker standing for itself.
* **`Text.forall₂_of_lowerAfter`** — what has the name of a slash command as its lower case is the same up to
  case, character by character.
* **`Segment.ofToken_accepts_lowercase`** — so a token accepts its lower case.
-/

namespace ChatDispatch

namespace Router

/-! ## Captures

A marker that is looked up captures itself, or more if what follows it does not match then. -/

/-- Text can be captured where it ends before something that goes on. What is captured may be shorter. -/
theorem isSome_captureUntil {onward : List Char → Option Captures} {taken rest : List Char}
    (hne : taken ≠ []) (hline : ∀ c ∈ taken, c ≠ '\n') (h : (onward rest).isSome = true) :
    (captureUntil onward (taken ++ rest)).isSome = true := by
  induction taken with
  | nil => exact absurd rfl hne
  | cons c taken ih =>
    obtain ⟨hc, htaken⟩ := List.forall_mem_cons.mp hline
    rw [List.cons_append, captureUntil, if_neg hc]
    cases hshort : onward (taken ++ rest) with
    | some captures => rfl
    | none =>
      -- a longer capture, which there is as the shorter one fails
      have hmore : taken ≠ [] := by
        rintro rfl
        rw [List.nil_append] at hshort
        rw [hshort] at h
        cases h
      show ((captureUntil onward (taken ++ rest)).map (extendFirst c)).isSome = true
      rw [Option.isSome_map]
      exact ih hmore htaken

/-- A character of a pattern and one of a text that it matches, which a capture can hold, too. -/
def Alike (c d : Char) : Prop := Text.sameFolded c d = true ∧ d ≠ '\n'

/-- **Pieces around markers** match the text that they were cut from, each marker standing for itself. The
induction is on the cuts, within a marker as well as between two. -/
theorem isSome_matchLiterals_splitMarkerFrom (marker : List Char) {cs ds : List Char}
    (h : List.Forall₂ Alike cs ds) (skip : Nat) :
    (matchLiterals (Text.splitMarkerFrom marker skip cs) (ds.drop skip)).isSome = true := by
  induction h generalizing skip with
  | nil =>
    rw [List.drop_nil, Text.splitMarkerFrom]
    rfl
  | @cons c d cs ds hcd hrest ih =>
    cases skip with
    | succ skip =>
      rw [Text.splitMarkerFrom]
      exact ih skip
    | zero =>
      rw [Text.splitMarkerFrom, List.drop_zero]
      split
      · -- a marker, which captures what stands in its place
        have hpieces := ih (marker.length - 1)
        obtain ⟨piece, pieces, heq⟩ := List.exists_cons_of_ne_nil
          (Text.splitMarkerFrom_ne_nil marker (marker.length - 1) cs)
        rw [heq, matchLiterals_cons] at hpieces
        rw [heq, matchLiterals_cons, Text.dropFolded?, Option.bind_some, searchAfter]
        have htaken : d :: ds = (d :: ds.take (marker.length - 1)) ++ ds.drop (marker.length - 1) := by
          rw [List.cons_append, List.take_append_drop]
        rw [htaken]
        refine isSome_captureUntil (List.cons_ne_nil _ _) (List.forall_mem_cons.mpr ⟨hcd.2, ?_⟩) hpieces
        intro e he
        obtain ⟨_, _, halike⟩ := forall₂_mem_right hrest (List.mem_of_mem_take he)
        exact halike.2
      · have hpieces := ih 0
        rw [List.drop_zero] at hpieces
        obtain ⟨piece, pieces, heq⟩ := List.exists_cons_of_ne_nil (Text.splitMarkerFrom_ne_nil marker 0 cs)
        rw [heq, matchLiterals_cons] at hpieces
        rw [heq]
        show (matchLiterals ((c :: piece) :: pieces) (d :: ds)).isSome = true
        rw [matchLiterals_cons, Text.dropFolded?, if_pos hcd.1]
        exact hpieces

end Router

/-! ## Lower case of names

Few characters have a lower case that is allowed in a name, and all of them are the same as it up to case. -/

/-- Of the runs that lower case moves, all but one that are not ASCII stay so. The one is the sign for
kelvin. -/
theorem Text.lowercaseRuns_stay : ∀ r ∈ lowercaseRuns,
    r.last < 0x80 ∨ 0x80 ≤ r.first + r.shift ∨ r.first = 0x212A ∧ r.last = 0x212A := by
  decide +kernel

/-- A code is that of its character, unless it is the code of none. -/
theorem Text.toNat_ofNat_or (code : Nat) :
    (Char.ofNat code).toNat = code ∨ Char.ofNat code = '\x00' := by
  by_cases hvalid : code.isValidChar
  · left
    rw [Char.ofNat, dif_pos hvalid]
    rfl
  · exact .inr (dif_neg hvalid)

/-- Beside ASCII characters, only the sign for kelvin has one of these as its lower case. -/
theorem Text.eq_kelvin_of_lowerChar {c : Char} (h : isSlashChar (lowerChar c) = true)
    (hascii : ¬ c.toNat < 0x80) : c = '\u212A' := by
  have hbound := (bounds_of_isSlashChar h).1
  rw [lowerChar, if_neg hascii, CodeRun.shifted] at h hbound
  cases hfind : lowercaseRuns.find? (·.contains c) with
  | none =>
    rw [hfind] at hbound
    exact absurd hbound hascii
  | some r =>
    rw [hfind] at h hbound
    have hcontains := List.find?_some hfind
    simp only [CodeRun.contains, Bool.and_eq_true, decide_eq_true_eq] at hcontains
    obtain ⟨⟨hfirst, hlast⟩, _⟩ := hcontains
    rcases lowercaseRuns_stay r (List.mem_of_find?_eq_some hfind) with hlow | hhigh | ⟨hone, hone'⟩
    · omega
    · rcases toNat_ofNat_or (c.toNat + r.shift).toNat with hcode | hzero
      · dsimp only at hbound
        omega
      · -- the code is not one of a character, and stands for one that is in no name
        dsimp only at h
        rw [hzero] at h
        exact absurd h (by decide)
    · have hcode : c.toNat = '\u212A'.toNat := by
        show c.toNat = 0x212A
        omega
      exact Char.toNat_inj.mp hcode

/-- A character whose lower case is allowed in names is matched by it. -/
theorem Text.alike_of_lowerChar {c : Char} (h : isSlashChar (lowerChar c) = true) :
    Router.Alike c (lowerChar c) := by
  constructor
  · by_cases hascii : c.toNat < 0x80
    · have hlower : lowerChar c = c.toLower := if_pos hascii
      have hfold : foldChar c = lowerChar c := (if_pos hascii).trans hlower.symm
      -- folding again changes nothing, as the lower case is a character of a name
      have hself : foldChar (lowerChar c) = lowerChar c := by
        rw [foldChar, if_pos (bounds_of_isSlashChar h).1]
        exact toLower_of_isSlashChar h
      rw [sameFolded, hfold, hself, beq_self_eq_true]
    · rw [eq_kelvin_of_lowerChar h hascii]
      decide
  · intro hline
    rw [hline] at h
    exact absurd h (by decide)

/-- **What has the name of a slash command as its lower case** is the same up to case, character by
character. -/
theorem Text.forall₂_of_lowerAfter {before cs : List Char}
    (h : ∀ d ∈ lowerAfter before cs, isSlashChar d = true) :
    List.Forall₂ Router.Alike cs (lowerAfter before cs) := by
  induction cs generalizing before with
  | nil => exact .nil
  | cons c cs ih =>
    rw [lowerAfter] at h ⊢
    rw [List.forall_mem_append] at h
    -- the two characters whose lower case depends on their place, or is longer, have none like this
    have hsigma : c ≠ 'Σ' := by
      rintro rfl
      rw [if_pos rfl] at h
      have hfinal := h.1 _ List.mem_cons_self
      split at hfinal
      · exact absurd hfinal (by decide)
      · exact absurd hfinal (by decide)
    have hdotted : c ≠ 'İ' := by
      rintro rfl
      rw [if_neg hsigma, if_pos rfl] at h
      exact absurd (h.1 '\u0307' (List.mem_cons_of_mem _ List.mem_cons_self)) (by decide)
    rw [if_neg hsigma, if_neg hdotted] at h ⊢
    exact .cons (alike_of_lowerChar (h.1 _ List.mem_cons_self)) (ih h.2)

/-! ## Tokens

The lower case of a token is compared by the segment of the token itself. -/

/-- **A token accepts its lower case**, if this is the name of a slash command, whatever the marker is. -/
theorem Router.Segment.ofToken_accepts_lowercase (marker : Option String) {token : String}
    (h : isSlashName (Text.lowercase token) = true) :
    (ofToken marker token).Accepts (Text.lowercase token) := by
  have hself := Text.lowercase_of_isSlashName h
  have hchars : ∀ d ∈ Text.lowerAfter [] token.toList, isSlashChar d = true := by
    rw [isSlashName, Bool.and_eq_true, List.all_eq_true, Text.lowercase, String.toList_ofList] at h
    exact h.2
  cases marker with
  | none => exact hself
  | some m =>
    -- the token is matched piece by piece, each marker by itself
    have hmatch : (matchLiterals (Text.splitMarker m.toList token.toList)
        (Text.lowercase token).toList).isSome = true := by
      rw [Text.lowercase, String.toList_ofList]
      exact isSome_matchLiterals_splitMarkerFrom m.toList (Text.forall₂_of_lowerAfter hchars) 0
    rw [ofToken]
    split
    · rename_i heq
      rw [heq] at hmatch
      exact hmatch
    · exact hself

end ChatDispatch
