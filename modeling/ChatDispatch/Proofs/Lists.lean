import Mathlib.Data.List.Nodup

/-!
# Lists

Facts about lists on which statements about commands rest, whatever the entries are.

* **`filter_eraseP_of_same`**, **`filter_eraseP_of_apart`**, **`eraseP_eq_filter`** — what is left when the first
  entry that qualifies is taken away.
* **`pairwise_eraseDups`** — entries without their repetitions stand in the order in which they first appear.
-/

namespace ChatDispatch

variable {α : Type}

theorem eq_of_perm_of_length_le_one {as bs : List α} (h : as.Perm bs) (hlength : bs.length ≤ 1) :
    as = bs := by
  match bs, hlength with
  | [], _ => exact h.eq_nil
  | [b], _ => exact h.eq_singleton

/-- If an entry that qualifies rules out all later ones, at most one qualifies. -/
theorem length_filter_le_one_of_pairwise {p : α → Bool} {as : List α}
    (h : as.Pairwise fun a b => p a = true → p b = false) : (as.filter p).length ≤ 1 := by
  induction h with
  | nil => exact Nat.zero_le 1
  | @cons a as ha _ ih =>
    by_cases hp : p a = true
    · have hnone : as.filter p = [] :=
        List.filter_eq_nil_iff.mpr fun b hb => Bool.not_eq_true _ ▸ ha b hb hp
      rw [List.filter_cons_of_pos hp, hnone]
      exact Nat.le_refl 1
    · rw [List.filter_cons_of_neg hp]
      exact ih

/-- Taking the first that qualifies away takes it from all that qualify. -/
theorem filter_eraseP_of_same {p q : α → Bool} (h : ∀ a, p a = q a) (as : List α) :
    (as.eraseP p).filter q = (as.filter p).tail := by
  rw [← funext h]
  induction as with
  | nil => rfl
  | cons a as ih =>
    by_cases hp : p a = true
    · rw [List.eraseP_cons_of_pos hp, List.filter_cons_of_pos hp]
      rfl
    · rw [List.eraseP_cons_of_neg hp, List.filter_cons_of_neg hp, List.filter_cons_of_neg hp, ih]

/-- Those that never qualify all stay. -/
theorem filter_eraseP_of_apart {p q : α → Bool} (h : ∀ a, p a = true → q a = false) (as : List α) :
    (as.eraseP p).filter q = as.filter q := by
  induction as with
  | nil => rfl
  | cons a as ih =>
    by_cases hp : p a = true
    · rw [List.eraseP_cons_of_pos hp, List.filter_cons_of_neg (by rw [h a hp]; exact Bool.false_ne_true)]
    · rw [List.eraseP_cons_of_neg hp, List.filter_cons, List.filter_cons, ih]

/-- Taking the first that qualifies away leaves all others with other keys. -/
theorem eraseP_eq_filter {β : Type} [DecidableEq β] {key : α → β} {q : α → Bool} {l : List α} {a : α}
    (hnodup : (l.map key).Nodup) (ha : l.find? q = some a) :
    l.eraseP q = l.filter fun x => key x ≠ key a := by
  obtain ⟨hq, before, after, rfl, hbefore⟩ := List.find?_eq_some_iff_append.mp ha
  rw [List.map_append, List.map_cons, List.nodup_append, List.nodup_cons] at hnodup
  obtain ⟨_, ⟨hafter, _⟩, hdisjoint⟩ := hnodup
  -- no other entry has the key of this one, so to filter by keys is to leave out just this one
  have hkeep : ∀ x ∈ before ++ after, decide (key x ≠ key a) = true := by
    intro x hx
    rw [decide_eq_true_eq]
    rcases List.mem_append.mp hx with hx | hx
    · exact hdisjoint _ (List.mem_map_of_mem hx) _ List.mem_cons_self
    · intro heq
      exact hafter (heq ▸ List.mem_map_of_mem hx)
  have herase : (before ++ a :: after).eraseP q = before ++ after := by
    rw [List.eraseP_append_right _ (by simpa using hbefore), List.eraseP_cons_of_pos hq]
  have hfilter : (before ++ a :: after).filter (fun x => key x ≠ key a) =
      (before ++ after).filter fun x => key x ≠ key a := by
    rw [List.filter_append, List.filter_append, List.filter_cons_of_neg (by simp)]
  rw [herase, hfilter, List.filter_eq_self.mpr hkeep]

/-- Of two properties of list entries, the one that comes first also comes first among those entries that
can have either. -/
theorem findIdx_lt_findIdx_filterMap_iff {β : Type} {f : α → Option β} {p q : α → Bool} {p' q' : β → Bool}
    (hp : ∀ x, p x = (f x).any p') (hq : ∀ x, q x = (f x).any q') (xs : List α) :
    (xs.filterMap f).findIdx p' < (xs.filterMap f).findIdx q' ↔ xs.findIdx p < xs.findIdx q := by
  induction xs with
  | nil => rfl
  | cons x xs ih =>
    rw [List.findIdx_cons, List.findIdx_cons, hp, hq]
    cases hx : f x with
    | none => simp [List.filterMap_cons_none hx, ih]
    | some y =>
      rw [List.filterMap_cons_some hx, List.findIdx_cons, List.findIdx_cons, Option.any_some,
        Option.any_some]
      cases p' y <;> cases q' y <;> simp [ih]

section Repetitions

variable [BEq α] [LawfulBEq α]

theorem nodup_eraseDups : ∀ as : List α, as.eraseDups.Nodup
  | [] => List.nodup_nil
  | a :: as => by
    rw [List.eraseDups_cons, List.nodup_cons, List.mem_eraseDups]
    exact ⟨by simp, nodup_eraseDups _⟩
termination_by as => as.length
decreasing_by exact Nat.lt_succ_of_le (List.length_filter_le _ _)

/-- Entries other than one first appear in the same order when that one is removed. -/
theorem idxOf_filter_lt_iff {a b c : α} (hb : b ≠ a) (hc : c ≠ a) (as : List α) :
    (as.filter (!· == a)).idxOf b < (as.filter (!· == a)).idxOf c ↔ as.idxOf b < as.idxOf c := by
  have hkept : ∀ d, d ≠ a → ∀ x, (x == d) = (Option.guard (!· == a) x).any (· == d) := by
    intro d hd x
    by_cases hx : x = a
    · simp [hx, Option.guard, hd.symm]
    · simp [hx, Option.guard]
  rw [← List.filterMap_eq_filter]
  exact findIdx_lt_findIdx_filterMap_iff (hkept b hb) (hkept c hc) as

/-- The entries that are left stand in the order in which they first appear. -/
theorem pairwise_eraseDups : ∀ as : List α, as.eraseDups.Pairwise fun a b => as.idxOf a < as.idxOf b
  | [] => .nil
  | a :: as => by
    have hother : ∀ b ∈ (as.filter (!· == a)).eraseDups, b ≠ a := by
      intro b hb
      rw [List.mem_eraseDups, List.mem_filter] at hb
      simpa using hb.2
    have hidx : ∀ b, b ≠ a → (a :: as).idxOf b = as.idxOf b + 1 :=
      fun b hb => List.idxOf_cons_ne as hb.symm
    rw [List.eraseDups_cons, List.pairwise_cons]
    constructor
    · intro b hb
      rw [List.idxOf_cons_self, hidx b (hother b hb)]
      exact Nat.succ_pos _
    · refine (pairwise_eraseDups (as.filter (!· == a))).imp_of_mem ?_
      intro b c hb hc hlt
      -- `b` and `c` are different from `a`, so leaving `a` out does not change which comes first
      rw [hidx b (hother b hb), hidx c (hother c hc)]
      exact Nat.succ_lt_succ ((idxOf_filter_lt_iff (hother b hb) (hother c hc) as).mp hlt)
termination_by as => as.length
decreasing_by exact Nat.lt_succ_of_le (List.length_filter_le _ _)

end Repetitions

end ChatDispatch
