import ChatDispatch.Router.Segment
import Mathlib.Data.List.Infix

/-!
# Pieces of text

When a text is cut, and where. Identifiers are cut at delimiters, tokens at the wildcard marker.

* **`one_lt_length_splitMarker_iff`** — a text has several pieces exactly when the marker occurs in it.
* **`intercalate_splitMarker`** — the pieces with markers between them are the text.
* **`splitChars_append_cons`** — texts around a delimiter are cut on their own.
* **`splitChars_eq_singleton`** — a text without delimiters is one piece.
* **`eq_false_of_mem_splitChars`** — no piece holds a delimiter.
-/

namespace ChatDispatch

namespace Text

/-! ## Cuts at a marker

Markers are found from the left, and the search goes on behind each. The inductions are on the text with a number
of characters to pass over, as the rest of a marker is passed over. -/

/-- There is always a piece, though it may be empty. -/
theorem splitMarkerFrom_ne_nil (marker : List Char) (skip : Nat) (cs : List Char) :
    splitMarkerFrom marker skip cs ≠ [] := by
  induction cs generalizing skip with
  | nil =>
    rw [splitMarkerFrom]
    exact List.cons_ne_nil _ _
  | cons c cs ih =>
    cases skip with
    | succ skip =>
      rw [splitMarkerFrom]
      exact ih skip
    | zero =>
      rw [splitMarkerFrom]
      split
      · exact List.cons_ne_nil _ _
      · split <;> exact List.cons_ne_nil _ _

/-- A text is cut exactly when the marker occurs in it. -/
theorem one_lt_length_splitMarker_iff {marker cs : List Char} (hmarker : marker ≠ []) :
    1 < (splitMarker marker cs).length ↔ marker <:+: cs := by
  rw [splitMarker]
  induction cs with
  | nil => simp [splitMarkerFrom, hmarker]
  | cons c cs ih =>
    rw [splitMarkerFrom, List.infix_cons_iff]
    by_cases hlead : marker.isPrefixOf (c :: cs) = true
    · have hpieces := List.length_pos_of_ne_nil (splitMarkerFrom_ne_nil marker (marker.length - 1) cs)
      rw [if_pos hlead, List.length_cons]
      exact iff_of_true (by omega) (.inl (List.isPrefixOf_iff_prefix.mp hlead))
    · -- the first character joins the first piece of the rest
      rw [if_neg hlead, ← ih]
      have hstarts : ¬ marker <+: c :: cs := fun h => hlead (List.isPrefixOf_iff_prefix.mpr h)
      cases hpieces : splitMarkerFrom marker 0 cs with
      | nil => exact absurd hpieces (splitMarkerFrom_ne_nil marker 0 cs)
      | cons piece pieces => simp [hstarts]

/-- The pieces with markers between them are the text that was cut, without what was to be passed over. -/
theorem intercalate_splitMarkerFrom {marker : List Char} (hmarker : marker ≠ []) (skip : Nat)
    (cs : List Char) : marker.intercalate (splitMarkerFrom marker skip cs) = cs.drop skip := by
  induction cs generalizing skip with
  | nil => simp [splitMarkerFrom]
  | cons c cs ih =>
    cases skip with
    | succ skip =>
      rw [splitMarkerFrom, List.drop_succ_cons]
      exact ih skip
    | zero =>
      rw [splitMarkerFrom, List.drop_zero]
      split
      · next hlead =>
        obtain ⟨rest, hrest⟩ := List.isPrefixOf_iff_prefix.mp hlead
        have hafter : cs.drop (marker.length - 1) = rest := by
          obtain ⟨d, marker, rfl⟩ := List.exists_cons_of_ne_nil hmarker
          cases hrest
          simp
        rw [List.intercalate_cons_of_ne_nil (splitMarkerFrom_ne_nil _ _ _), List.nil_append, ih, hafter,
          hrest]
      · -- the first character joins the first piece of the rest
        have hrest := ih 0
        obtain ⟨piece, pieces, hpieces⟩ := List.exists_cons_of_ne_nil (splitMarkerFrom_ne_nil marker 0 cs)
        rw [hpieces] at hrest ⊢
        show marker.intercalate ((c :: piece) :: pieces) = c :: cs
        cases pieces with
        | nil =>
          rw [List.intercalate_singleton] at hrest ⊢
          rw [hrest, List.drop_zero]
        | cons next pieces =>
          rw [List.intercalate_cons_cons] at hrest ⊢
          rw [List.cons_append, List.cons_append, hrest, List.drop_zero]

theorem intercalate_splitMarker {marker : List Char} (hmarker : marker ≠ []) (cs : List Char) :
    marker.intercalate (splitMarker marker cs) = cs :=
  intercalate_splitMarkerFrom hmarker 0 cs

/-! ## Cuts at single characters

Between two cuts stands whatever holds no character to cut at, empty pieces included. -/

theorem splitChars_ne_nil (cut : Char → Bool) (cs : List Char) : splitChars cut cs ≠ [] := by
  induction cs with
  | nil => exact List.cons_ne_nil _ _
  | cons c cs ih =>
    rw [splitChars]
    split
    · exact List.cons_ne_nil _ _
    · split <;> exact List.cons_ne_nil _ _

/-- A character to keep joins the first piece of what follows. -/
theorem splitChars_cons_of_not {cut : Char → Bool} {c : Char} {cs piece : List Char}
    {pieces : List (List Char)} (hc : cut c = false) (h : splitChars cut cs = piece :: pieces) :
    splitChars cut (c :: cs) = (c :: piece) :: pieces := by
  rw [splitChars, h]
  simp [hc]

/-- A text without delimiters is one piece. -/
theorem splitChars_eq_singleton {cut : Char → Bool} {cs : List Char}
    (h : ∀ c ∈ cs, cut c = false) : splitChars cut cs = [cs] := by
  induction cs with
  | nil => rfl
  | cons c cs ih =>
    exact splitChars_cons_of_not (h c List.mem_cons_self)
      (ih fun d hd => h d (List.mem_cons_of_mem _ hd))

/-- The texts before and after a delimiter are cut on their own. -/
theorem splitChars_append_cons {cut : Char → Bool} {d : Char} (hd : cut d = true)
    (cs ds : List Char) : splitChars cut (cs ++ d :: ds) = splitChars cut cs ++ splitChars cut ds := by
  induction cs with
  | nil => simp [splitChars, hd]
  | cons c cs ih =>
    rw [List.cons_append]
    cases hc : cut c with
    | true => simp [splitChars, hc, ih]
    | false =>
      obtain ⟨piece, pieces, hpieces⟩ := List.exists_cons_of_ne_nil (splitChars_ne_nil cut cs)
      rw [hpieces, List.cons_append] at ih
      rw [splitChars_cons_of_not hc ih, splitChars_cons_of_not hc hpieces, List.cons_append]

/-- No piece holds a delimiter. -/
theorem eq_false_of_mem_splitChars {cut : Char → Bool} {cs piece : List Char} {c : Char}
    (hpiece : piece ∈ splitChars cut cs) (hc : c ∈ piece) : cut c = false := by
  induction cs generalizing piece with
  | nil => simp_all [splitChars]
  | cons d cs ih =>
    cases hd : cut d with
    | true =>
      simp only [splitChars, hd, if_true, List.mem_cons] at hpiece
      rcases hpiece with rfl | hpiece
      · cases hc
      · exact ih hpiece hc
    | false =>
      obtain ⟨first, pieces, hpieces⟩ := List.exists_cons_of_ne_nil (splitChars_ne_nil cut cs)
      rw [splitChars_cons_of_not hd hpieces] at hpiece
      rw [hpieces] at ih
      rcases List.mem_cons.mp hpiece with rfl | hpiece
      · rcases List.mem_cons.mp hc with rfl | hc
        · exact hd
        · exact ih List.mem_cons_self hc
      · exact ih (List.mem_cons_of_mem _ hpiece) hc

end Text

/-! ## The segment of a token

A token becomes a wildcard exactly when it is cut. -/

namespace Router.Segment

variable {marker token : String}

/-- A token in which the marker does not occur stands for itself. -/
theorem ofToken_eq_exact (hmarker : marker ≠ "") (h : ¬ marker.toList <:+: token.toList) :
    ofToken (some marker) token = .exact (Text.lowercase token) := by
  have hlength := (Text.one_lt_length_splitMarker_iff (by simpa using hmarker)).not.mpr h
  rw [ofToken]
  split
  · rename_i heq
    rw [heq] at hlength
    simp at hlength
  · rfl

/-- A token in which the marker occurs is the wildcard with the pieces between its occurrences. -/
theorem ofToken_eq_wildcard (hmarker : marker ≠ "") (h : marker.toList <:+: token.toList) :
    ofToken (some marker) token =
      .wildcard (Text.lowercase token) (Text.splitMarker marker.toList token.toList) := by
  have hlength := (Text.one_lt_length_splitMarker_iff (by simpa using hmarker)).mpr h
  rw [ofToken]
  match hpieces : Text.splitMarker marker.toList token.toList with
  | [] => simp [hpieces] at hlength
  | [_] => simp [hpieces] at hlength
  | first :: second :: rest => rfl

end Router.Segment

end ChatDispatch
