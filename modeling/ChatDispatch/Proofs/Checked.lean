import Mathlib.Data.List.Forall2

/-!
# Checked computations

Assembly, binding and loading are sequences of steps in `Except` that stop at the first error. To read
off what a success or an error means, each sequence is taken apart with these lemmas and never unfolded
by hand.

* **`bind_eq_ok_iff`**, **`map_eq_ok_iff`**, **`mapM_eq_ok_iff`** — when a sequence succeeds.
* **`Decides`** — a computation and the rule that it checks, with **`Decides.mapM`** for a list of them.
-/

namespace ChatDispatch

variable {ε α β γ : Type}

/-- A sequence succeeds when its first step does and the rest does on what it gave. -/
theorem bind_eq_ok_iff {x : Except ε α} {f : α → Except ε β} {b : β} :
    (x >>= f) = .ok b ↔ ∃ a, x = .ok a ∧ f a = .ok b := by
  cases x with
  | ok a => simp [bind, Except.bind]
  | error e => simp [bind, Except.bind]

theorem map_eq_ok_iff {x : Except ε α} {f : α → β} {b : β} :
    x.map f = .ok b ↔ ∃ a, x = .ok a ∧ f a = b := by
  cases x with
  | ok a => simp [Except.map]
  | error e => simp [Except.map]

/-- A list of steps succeeds when each of them does, position by position. -/
theorem mapM_eq_ok_iff {f : α → Except ε β} {as : List α} {bs : List β} :
    as.mapM f = .ok bs ↔ List.Forall₂ (fun a b => f a = .ok b) as bs := by
  induction as generalizing bs with
  | nil => simp [pure, Except.pure, eq_comm]
  | cons a as ih =>
    simp only [List.mapM_cons, bind_eq_ok_iff, List.forall₂_cons_left_iff, ← ih]
    constructor
    · rintro ⟨b, hb, bs', hbs', heq⟩
      cases heq
      exact ⟨b, bs', hb, hbs', rfl⟩
    · rintro ⟨b, bs', hb, hbs', rfl⟩
      exact ⟨b, hb, bs', hbs', rfl⟩

/-- Items at one position are related. -/
theorem forall₂_getElem? {r : α → β → Prop} {as : List α} {bs : List β}
    (h : List.Forall₂ r as bs) {i : Nat} {a : α} (ha : as[i]? = some a) :
    ∃ b, bs[i]? = some b ∧ r a b := by
  induction h generalizing i with
  | nil => simp at ha
  | cons hr _ ih =>
    cases i with
    | zero =>
      cases ha
      exact ⟨_, rfl, hr⟩
    | succ i => exact ih ha

/-- Every item on the right has one on the left that it is related to. -/
theorem forall₂_mem_right {r : α → β → Prop} {as : List α} {bs : List β}
    (h : List.Forall₂ r as bs) {b : β} (hb : b ∈ bs) : ∃ a ∈ as, r a b := by
  induction h with
  | nil => simp at hb
  | cons hr _ ih =>
    rcases List.mem_cons.mp hb with rfl | hb
    · exact ⟨_, List.mem_cons_self, hr⟩
    · obtain ⟨a, ha, hr⟩ := ih hb
      exact ⟨a, List.mem_cons_of_mem _ ha, hr⟩

/-! ## Rules

A checked computation decides a rule when it succeeds exactly if the rule is kept. What it gives then, and the
error that it gives otherwise, are part of the decision. -/

/-- The computation succeeds with a `result` if the rule is kept, and fails for a `reason` otherwise. -/
inductive Decides (x : Except ε α) (rule : Prop) (result : α → Prop) (reason : ε → Prop) : Prop where
  | accepted {a : α} (hx : x = .ok a) (hrule : rule) (ha : result a)
  | refused {e : ε} (hx : x = .error e) (hrule : ¬ rule) (he : reason e)

/-- The first entry of a list that breaks a rule, and the reason. -/
inductive FirstBroken (rule : α → Prop) (reason : α → ε → Prop) : List α → ε → Prop where
  | intro {before after : List α} {a : α} {e : ε} (hbefore : ∀ x ∈ before, rule x) (ha : reason a e) :
      FirstBroken rule reason (before ++ a :: after) e

/-- An entry in front that keeps its rule is passed over. -/
theorem FirstBroken.cons {rule : α → Prop} {reason : α → ε → Prop} {a : α} {as : List α} {e : ε}
    (ha : rule a) (h : FirstBroken rule reason as e) : FirstBroken rule reason (a :: as) e := by
  cases h with
  | @intro before after b _ hbefore hb =>
    show FirstBroken rule reason ((a :: before) ++ b :: after) e
    exact .intro (List.forall_mem_cons.mpr ⟨ha, hbefore⟩) hb

/-- A rule that follows is broken later, and a reason that follows holds. -/
theorem FirstBroken.imp {rule rule' : α → Prop} {reason reason' : α → ε → Prop} {as : List α} {e : ε}
    (h : FirstBroken rule reason as e) (hrule : ∀ a, rule a → rule' a)
    (hreason : ∀ a e, reason a e → reason' a e) : FirstBroken rule' reason' as e := by
  cases h with
  | intro hbefore ha => exact .intro (fun b hb => hrule b (hbefore b hb)) (hreason _ _ ha)

/-- No rule is broken in an empty list. -/
theorem not_firstBroken_nil {rule : α → Prop} {reason : α → ε → Prop} {e : ε} :
    ¬ FirstBroken rule reason [] e := by
  generalize hlist : [] = list
  intro h
  cases h with
  | @intro before => cases before <;> cases hlist

/-- The first broken rule is that of the first entry, or of one behind it. -/
theorem firstBroken_cons_iff {rule : α → Prop} {reason : α → ε → Prop} {a : α} {as : List α} {e : ε} :
    FirstBroken rule reason (a :: as) e ↔ reason a e ∨ rule a ∧ FirstBroken rule reason as e := by
  constructor
  · intro h
    -- on where the broken entry stands
    generalize hlist : a :: as = list at h
    cases h with
    | @intro before after b _ hbefore hb =>
      cases before with
      | nil =>
        cases hlist
        exact .inl hb
      | cons c before =>
        cases hlist
        obtain ⟨hc, hbefore⟩ := List.forall_mem_cons.mp hbefore
        exact .inr ⟨hc, .intro hbefore hb⟩
  · intro h
    cases h with
    | inl ha =>
      show FirstBroken rule reason ([] ++ a :: as) e
      exact .intro (List.forall_mem_nil _) ha
    | inr h => exact h.2.cons h.1

/-- In a list that is ordered by a key, the entries before one are those with a lesser key. -/
theorem firstBroken_iff_of_pairwise {rule : α → Prop} {reason : α → ε → Prop} {as : List α} {e : ε}
    {key : α → Nat} (hordered : as.Pairwise fun a b => key a < key b) :
    FirstBroken rule reason as e ↔ ∃ a ∈ as, reason a e ∧ ∀ b ∈ as, key b < key a → rule b := by
  constructor
  · intro h
    cases h with
    | @intro before after a _ hbefore ha =>
      refine ⟨a, List.mem_append_right _ List.mem_cons_self, ha, fun b hb hlt => ?_⟩
      cases List.mem_append.mp hb with
      | inl hb => exact hbefore b hb
      | inr hb =>
        -- entries behind have greater keys
        have hafter := List.pairwise_cons.mp (List.pairwise_append.mp hordered).2.1
        cases List.mem_cons.mp hb with
        | inl heq => exact absurd hlt (heq ▸ Nat.lt_irrefl _)
        | inr hb => exact absurd hlt (Nat.lt_asymm (hafter.1 b hb))
  · intro ⟨a, ha, he, hless⟩
    obtain ⟨before, after, rfl⟩ := List.append_of_mem ha
    refine .intro (fun b hb => hless b (List.mem_append_left _ hb) ?_) he
    exact (List.pairwise_append.mp hordered).2.2 b hb a List.mem_cons_self

namespace Decides

variable {x : Except ε α} {rule : Prop} {result : α → Prop} {reason : ε → Prop}

/-- The computation succeeds exactly if the rule is kept. -/
theorem exists_ok_iff (h : Decides x rule result reason) : (∃ a, x = .ok a) ↔ rule := by
  cases h with
  | accepted hx hrule _ => exact iff_of_true ⟨_, hx⟩ hrule
  | refused hx hrule _ =>
    refine iff_of_false (fun ⟨a, ha⟩ => ?_) hrule
    cases hx.symm.trans ha

/-- What it gives when it succeeds. -/
theorem result_of_ok (h : Decides x rule result reason) {a : α} (ha : x = .ok a) : result a := by
  cases h with
  | accepted hx _ hresult =>
    cases hx.symm.trans ha
    exact hresult
  | refused hx _ _ => cases hx.symm.trans ha

/-- What it fails for. -/
theorem reason_of_error (h : Decides x rule result reason) {e : ε} (he : x = .error e) : reason e := by
  cases h with
  | accepted hx _ _ => cases hx.symm.trans he
  | refused hx _ hreason =>
    cases hx.symm.trans he
    exact hreason

/-- What is made of the result afterwards decides nothing. -/
theorem map {f : α → β} {rule' : Prop} {result' : β → Prop} {reason' : ε → Prop}
    (h : Decides x rule result reason) (hrule : rule ↔ rule')
    (hresult : ∀ a, result a → result' (f a)) (hreason : ∀ e, reason e → reason' e) :
    Decides (x.map f) rule' result' reason' := by
  cases h with
  | accepted hx hkept ha =>
    rw [hx]
    exact .accepted rfl (hrule.mp hkept) (hresult _ ha)
  | refused hx hbroken he =>
    rw [hx]
    exact .refused rfl (mt hrule.mpr hbroken) (hreason _ he)

/-- A list of steps decides the rules of all steps. It fails at the first step whose rule is broken. -/
theorem mapM {f : α → Except ε β} {rule : α → Prop} {result : α → β → Prop} {reason : α → ε → Prop}
    {as : List α} (h : ∀ a ∈ as, Decides (f a) (rule a) (result a) (reason a)) :
    Decides (as.mapM f) (∀ a ∈ as, rule a) (List.Forall₂ result as) (FirstBroken rule reason as) := by
  induction as with
  | nil => exact .accepted rfl (List.forall_mem_nil _) .nil
  | cons a as ih =>
    rw [List.mapM_cons, List.forall_mem_cons]
    cases h a List.mem_cons_self with
    -- the first step breaks its rule, so nothing else is looked at
    | refused hx hrule he =>
      rw [hx]
      exact .refused rfl (fun hall => hrule hall.1) (.intro (List.forall_mem_nil _) he)
    | accepted hx hrule hresult =>
      rw [hx]
      cases ih fun b hb => h b (List.mem_cons_of_mem _ hb) with
      | accepted hxs hrules hresults =>
        rw [hxs]
        exact .accepted rfl ⟨hrule, hrules⟩ (.cons hresult hresults)
      | refused hxs hrules he =>
        rw [hxs]
        exact .refused rfl (fun hall => hrules hall.2) (.cons hrule he)

end Decides

end ChatDispatch
