import ChatDispatch.Proofs.Assembly
import ChatDispatch.Proofs.Lists
import ChatDispatch.Proofs.Tier

/-!
# The order of checks

A tier of checks is gone through label by label, and one label check by check. Which checks are made, in which
order, and what a rejection says, is told here from the places of the checks in the tier and from their outcomes,
with no buckets.

* **`FailsWith`** — when the checks with one label fail, and the result then.
* **`GoesThrough`** — the checks that are made, in their order.
* **`value_goThrough_eq_error_iff`**, **`trace_goThrough`** — how steps up to the first that fails end, and what they
  leave behind. Labels and the checks without a label are both gone through like this.
* **`checkTier_goesThrough`** — the headline.
-/

namespace ChatDispatch

variable {σ : Type}

/-! ## The rules

They speak of two things only: where a check stands in the tier, and what comes of it. Which checks are made at
all is a consequence of both. -/

/-- The checks of a tier with one label, in their order. -/
def withLabel (tier : List (Precondition σ)) (label : Option String) : List (Precondition σ) :=
  tier.filter (·.group == label)

/-- The place where a label first appears in a tier. -/
def appearance (tier : List (Precondition σ)) (label : Option String) : Nat :=
  (tier.map (·.group)).idxOf label

/-- The checks with one label fail with a result: without a label with that of the first that fails, with one if
all fail. -/
inductive FailsWith (outcome : Precondition σ → Except String Unit) (tier : List (Precondition σ)) :
    Option String → Result → Prop where
  | unlabelled {r : Result}
      (hfirst : FirstBroken (fun p => outcome p = .ok ())
        (fun p r => ∃ reason, outcome p = .error reason ∧ r = .ofKind .unmetPrecondition reason)
        (withLabel tier none) r) : FailsWith outcome tier none r
  | labelled {label : String} {reasons : List String} (hne : withLabel tier (some label) ≠ [])
      (hall : List.Forall₂ (fun p reason => outcome p = .error reason) (withLabel tier (some label)) reasons) :
      FailsWith outcome tier (some label)
        (.ofGroup s!"precondition group '{label}' failed" (reasons.map (.ofKind .unmetPrecondition)))

/-- The checks that are made, with their places in the tier. Labels come in the order in which they first appear,
and the checks with one label in theirs. A check is made if no label that comes before its own fails and, if it has
none, the checks without a label before it pass. -/
structure GoesThrough (outcome : Precondition σ → Except String Unit) (tier : List (Precondition σ))
    (made : List (Precondition σ × Nat)) : Prop where
  ordered : made.Pairwise fun e f =>
    appearance tier e.1.group < appearance tier f.1.group ∨ e.1.group = f.1.group ∧ e.2 < f.2
  mem_iff : ∀ p i, (p, i) ∈ made ↔ tier[i]? = some p ∧
    (∀ label r, appearance tier label < appearance tier p.group → ¬ FailsWith outcome tier label r) ∧
    (p.group = none → ∀ j q, j < i → tier[j]? = some q → q.group = none → outcome q = .ok ())

/-! ## Steps up to the first that fails

Labels, and the checks without a label, are gone through up to the first that fails. What is made and what is
returned are read off the list of steps. -/

section Steps

variable {α : Type}

/-- The entries up to the first that does not pass, and that one. -/
def upTo (passes : α → Bool) : List α → List α
  | [] => []
  | a :: as => a :: if passes a then upTo passes as else []

/-- In a list with a growing key, what is reached is what nothing fails in front of. -/
theorem mem_upTo_iff {passes : α → Bool} {as : List α} {key : α → Nat}
    (hordered : as.Pairwise fun a b => key a < key b) {a : α} :
    a ∈ upTo passes as ↔ a ∈ as ∧ ∀ b ∈ as, key b < key a → passes b = true := by
  induction hordered with
  | nil => simp [upTo]
  | @cons b as hb _ ih =>
    -- no key is less than the first
    have hleast : ∀ c ∈ b :: as, ¬ key c < key b := by
      intro c hc
      cases List.mem_cons.mp hc with
      | inl heq => exact heq ▸ Nat.lt_irrefl _
      | inr hc => exact Nat.lt_asymm (hb c hc)
    rw [upTo, List.mem_cons, List.mem_cons]
    constructor
    · intro h
      cases h with
      | inl heq =>
        subst heq
        exact ⟨.inl rfl, fun c hc hlt => absurd hlt (hleast c hc)⟩
      | inr h =>
        split at h
        · next hpasses =>
          obtain ⟨ha, hall⟩ := ih.mp h
          exact ⟨.inr ha, List.forall_mem_cons.mpr ⟨fun _ => hpasses, hall⟩⟩
        · cases h
    · intro ⟨ha, hall⟩
      cases ha with
      | inl heq => exact .inl heq
      | inr ha =>
        obtain ⟨hfirst, hrest⟩ := List.forall_mem_cons.mp hall
        rw [if_pos (hfirst (hb a ha))]
        exact .inr (ih.mpr ⟨ha, hrest⟩)

/-- What is reached is a part of the list, in its order. -/
theorem upTo_sublist (passes : α → Bool) (as : List α) : (upTo passes as).Sublist as := by
  induction as with
  | nil => exact .slnil
  | cons a as ih =>
    rw [upTo]
    split
    · exact ih.cons_cons a
    · exact (List.nil_sublist as).cons_cons a

theorem goThrough_map {β : Type} (step : α → Logged (Except Result Unit)) (f : β → α) (bs : List β) :
    goThrough step (bs.map f) = goThrough (fun b => step (f b)) bs := by
  induction bs with
  | nil => rfl
  | cons b bs ih => rw [List.map_cons, goThrough, goThrough, ih]

/-- Two steps fail as the first does, or as the second does if the first succeeds. -/
theorem andThen_error_iff {first next : Logged (Except Result Unit)} {r : Result} :
    (andThen first next).value = .error r ↔
      first.value = .error r ∨ first.value = .ok () ∧ next.value = .error r := by
  rw [andThen, Traced.value_bind]
  cases first.value with
  | ok _ => simp
  | error r => simp

/-- The second of two steps leaves something only if the first succeeds. -/
theorem trace_andThen (first next : Logged (Except Result Unit)) :
    (andThen first next).trace = first.trace ++ if first.value.isOk then next.trace else [] := by
  rw [andThen, Traced.trace_bind]
  cases first.value with
  | ok _ => rfl
  | error r => rfl

/-- The steps fail with the result of the first that fails. -/
theorem value_goThrough_eq_error_iff {step : α → Logged (Except Result Unit)} {as : List α} {r : Result} :
    (goThrough step as).value = .error r ↔
      FirstBroken (fun a => (step a).value = .ok ()) (fun a r => (step a).value = .error r) as r := by
  induction as with
  | nil => exact iff_of_false nofun not_firstBroken_nil
  | cons a as ih => rw [goThrough, andThen_error_iff, firstBroken_cons_iff, ih]

/-- What is left behind is what the steps up to the first that fails leave. -/
theorem trace_goThrough (step : α → Logged (Except Result Unit)) (as : List α) :
    (goThrough step as).trace = (upTo (fun a => (step a).value.isOk) as).flatMap fun a => (step a).trace := by
  induction as with
  | nil => rfl
  | cons a as ih =>
    rw [goThrough, trace_andThen, upTo, List.flatMap_cons, ih]
    split <;> rfl

end Steps

/-! ## The checks with one label

A label is a bucket of checks that stand apart in the tier. Its members are told by their label, and their order
is that of the tier. -/

/-- A single check is rejected with the reason that it gives. -/
theorem value_checkOne_eq_error_iff {check : Noted (Except String Unit)} {r : Result} :
    (checkOne check).value = .error r ↔ ∃ reason, check.value = .error reason ∧ r = rejected reason := by
  show check.value.mapError rejected = .error r ↔ _
  cases check.value with
  | ok _ => exact iff_of_false nofun nofun
  | error reason => simp [Except.mapError, eq_comm]

theorem isOk_checkOne (check : Noted (Except String Unit)) :
    (checkOne check).value.isOk = check.value.isOk := by
  show (check.value.mapError rejected).isOk = _
  cases check.value <;> rfl

/-- All members of a label leave something, whether they pass or not. -/
theorem trace_runMembers (checks : List (Noted (Except String Unit))) :
    (runMembers checks).trace = checks.flatMap fun check => (runHost check).trace := by
  induction checks with
  | nil => rfl
  | cons check checks ih =>
    rw [runMembers, Traced.trace_bind, Traced.trace_bind, ih, List.flatMap_cons, Traced.trace_pure,
      List.append_nil]

section Label

variable (tier : List (Precondition σ)) (command : CommandSpec σ) (context : Context) (services : σ)

/-- What comes of a check for a dispatch to a command. -/
def Precondition.outcome (p : Precondition σ) : Except String Unit :=
  (p.check context command services).value

/-- The checks with one label, made for a dispatch to a command. -/
def checkWithLabel (label : Option String) : Logged (Except Result Unit) :=
  checkLabel label ((withLabel tier label).map (·.check context command services))

/-- A tier is gone through label by label, each label where it first appears. -/
theorem checkTier_eq_goThrough :
    checkTier tier command context services =
      goThrough (checkWithLabel tier command context services) (tier.map (·.group)).eraseDups := by
  unfold checkTier byLabel
  rw [List.map_map, checkLabels_eq_goThrough, goThrough_map]
  rfl

variable {tier command context services}

theorem mem_withLabel_iff {label : Option String} {p : Precondition σ} :
    p ∈ withLabel tier label ↔ p ∈ tier ∧ p.group = label := by
  unfold withLabel
  rw [List.mem_filter, beq_iff_eq]

/-- The labels that occur are those with checks. -/
theorem mem_labels_iff {label : Option String} :
    label ∈ (tier.map (·.group)).eraseDups ↔ withLabel tier label ≠ [] := by
  rw [List.mem_eraseDups, List.mem_map]
  constructor
  · intro ⟨p, hp⟩
    exact List.ne_nil_of_mem (mem_withLabel_iff.mpr hp)
  · intro hne
    obtain ⟨p, hp⟩ := List.exists_mem_of_ne_nil _ hne
    exact ⟨p, mem_withLabel_iff.mp hp⟩

/-- Labels are listed in the order in which they first appear. -/
theorem pairwise_labels (tier : List (Precondition σ)) :
    (tier.map (·.group)).eraseDups.Pairwise fun a b => appearance tier a < appearance tier b :=
  pairwise_eraseDups _

/-- A label that fails has checks. -/
theorem FailsWith.withLabel_ne_nil {outcome : Precondition σ → Except String Unit} {label : Option String}
    {r : Result} (h : FailsWith outcome tier label r) : withLabel tier label ≠ [] := by
  cases h with
  | labelled hne _ => exact hne
  | unlabelled hfirst =>
    intro hnil
    rw [hnil] at hfirst
    exact not_firstBroken_nil hfirst

/-- Checks of which none passes have a reason each. -/
theorem exists_reasons {outcome : Precondition σ → Except String Unit} {ps : List (Precondition σ)}
    (h : ∀ p ∈ ps, outcome p ≠ .ok ()) :
    ∃ reasons, List.Forall₂ (fun p reason => outcome p = .error reason) ps reasons := by
  induction ps with
  | nil => exact ⟨[], .nil⟩
  | cons p ps ih =>
    obtain ⟨hp, hps⟩ := List.forall_mem_cons.mp h
    obtain ⟨reasons, hreasons⟩ := ih hps
    cases houtcome : outcome p with
    | ok _ => exact absurd houtcome hp
    | error reason => exact ⟨reason :: reasons, .cons houtcome hreasons⟩

/-- The results of members that fail are their reasons, each as an unmet precondition. -/
theorem map_memberResult_eq {ps : List (Precondition σ)} {reasons : List String}
    (h : List.Forall₂ (fun p reason => p.outcome command context services = .error reason) ps reasons) :
    ps.map (fun p => memberResult (p.outcome command context services)) =
      reasons.map (.ofKind .unmetPrecondition) := by
  induction h with
  | nil => rfl
  | cons hp _ ih =>
    rw [List.map_cons, List.map_cons, hp, ih]
    rfl

/-- **One label.** Its checks fail by the rule. -/
theorem checkWithLabel_error_iff {label : Option String} {r : Result} (hne : withLabel tier label ≠ []) :
    (checkWithLabel tier command context services label).value = .error r ↔
      FailsWith (Precondition.outcome command context services) tier label r := by
  unfold checkWithLabel
  cases label with
  | none =>
    show (checkEach _).value = _ ↔ _
    rw [checkEach_eq_goThrough, goThrough_map, value_goThrough_eq_error_iff]
    constructor
    · intro h
      exact .unlabelled (h.imp (fun _ => value_checkOne_eq_ok_iff.mp) fun _ _ =>
        value_checkOne_eq_error_iff.mp)
    · intro h
      cases h with
      | unlabelled hfirst =>
        exact hfirst.imp (fun _ => value_checkOne_eq_ok_iff.mpr) fun _ _ =>
          value_checkOne_eq_error_iff.mpr
  | some label =>
    -- the nested results are those of the members, in the order of the tier
    have hresults : (runMembers ((withLabel tier (some label)).map (·.check context command services))).value =
        (withLabel tier (some label)).map
          fun p => memberResult (p.outcome command context services) := by
      rw [value_runMembers, List.map_map]
      rfl
    rw [value_checkLabel_some, hresults]
    constructor
    · intro h
      split at h
      · cases h
      · next hnone =>
        -- no success among the results means that no member passes
        have hfailed : ∀ p ∈ withLabel tier (some label), p.outcome command context services ≠ .ok () := by
          intro p hp hpasses
          apply hnone
          rw [List.any_map, List.any_eq_true]
          exact ⟨p, hp, (isSuccess_memberResult _).mpr hpasses⟩
        obtain ⟨reasons, hreasons⟩ := exists_reasons hfailed
        rw [map_memberResult_eq hreasons] at h
        cases h
        exact .labelled hne hreasons
    · intro h
      cases h with
      | @labelled _ reasons _ hreasons =>
        rw [map_memberResult_eq hreasons, if_neg]
        rw [List.any_map, List.any_eq_true]
        intro ⟨reason, _, hsuccess⟩
        cases hsuccess

/-- A label lets through exactly when it does not fail by the rule. -/
theorem checkWithLabel_ok_iff {label : Option String} (hne : withLabel tier label ≠ []) :
    (checkWithLabel tier command context services label).value = .ok () ↔
      ∀ r, ¬ FailsWith (Precondition.outcome command context services) tier label r := by
  simp only [← checkWithLabel_error_iff hne]
  cases (checkWithLabel tier command context services label).value with
  | ok _ => exact iff_of_true rfl nofun
  | error r => exact iff_of_false nofun fun h => h r rfl

end Label

/-! ## The checks that are made

From the outcomes it is clear which checks of a label are made: all with a label, and those up to the first that
fails without one. -/

/-- Those with one label. Without a label it ends with the first that fails. -/
def madeWith (outcome : Precondition σ → Except String Unit) (tier : List (Precondition σ))
    (label : Option String) : List (Precondition σ × Nat) :=
  let placed := tier.zipIdx.filter (·.1.group == label)
  if label = none then upTo (fun e => (outcome e.1).isOk) placed else placed

section Made

variable {outcome : Precondition σ → Except String Unit} {tier : List (Precondition σ)}
  {label : Option String}

theorem pairwise_placed (tier : List (Precondition σ)) (label : Option String) :
    (tier.zipIdx.filter (·.1.group == label)).Pairwise fun e f => e.2 < f.2 := by
  apply List.Pairwise.filter
  rw [← List.pairwise_map (f := Prod.snd), List.zipIdx_map_snd]
  exact List.pairwise_lt_range'

/-- The checks of one label are made in the order of their places. -/
theorem pairwise_madeWith (outcome : Precondition σ → Except String Unit) (tier : List (Precondition σ))
    (label : Option String) : (madeWith outcome tier label).Pairwise fun e f => e.2 < f.2 := by
  unfold madeWith
  split
  · exact (pairwise_placed tier label).sublist (upTo_sublist _ _)
  · exact pairwise_placed tier label

theorem mem_placed_iff {p : Precondition σ} {i : Nat} :
    (p, i) ∈ tier.zipIdx.filter (·.1.group == label) ↔ tier[i]? = some p ∧ p.group = label := by
  rw [List.mem_filter, List.mem_zipIdx_iff_getElem?, beq_iff_eq]

theorem isOk_iff {ε : Type} {x : Except ε Unit} : x.isOk = true ↔ x = .ok () := by
  cases x with
  | ok _ => exact iff_of_true rfl rfl
  | error e => exact iff_of_false nofun nofun

/-- Which checks of a label are made: without a label those that none before them fails. -/
theorem mem_madeWith_iff {p : Precondition σ} {i : Nat} :
    (p, i) ∈ madeWith outcome tier label ↔ (tier[i]? = some p ∧ p.group = label) ∧
      (label = none → ∀ j q, j < i → tier[j]? = some q → q.group = none → outcome q = .ok ()) := by
  unfold madeWith
  split
  · next hnone =>
    subst hnone
    rw [mem_upTo_iff (pairwise_placed tier none), mem_placed_iff]
    refine and_congr_right fun _ => ?_
    constructor
    · intro h _ j q hlt hq hgroup
      exact isOk_iff.mp (h (q, j) (mem_placed_iff.mpr ⟨hq, hgroup⟩) hlt)
    · intro h (q, j) hmem hlt
      obtain ⟨hq, hgroup⟩ := mem_placed_iff.mp hmem
      exact isOk_iff.mpr (h rfl j q hlt hq hgroup)
  · next hsome =>
    rw [mem_placed_iff]
    exact (and_iff_left fun hnone => absurd hnone hsome).symm

variable {command : CommandSpec σ} {context : Context} {services : σ}

theorem map_fst_placed (tier : List (Precondition σ)) (label : Option String) :
    (tier.zipIdx.filter (·.1.group == label)).map (·.1) = withLabel tier label := by
  have hfilter := List.filter_map (f := Prod.fst) (p := (·.group == label)) (l := tier.zipIdx)
  rw [List.zipIdx_map_fst] at hfilter
  exact hfilter.symm

/-- What a label leaves behind is what the checks that are made leave. -/
theorem trace_checkWithLabel (label : Option String) :
    (checkWithLabel tier command context services label).trace =
      (madeWith (Precondition.outcome command context services) tier label).flatMap
        fun e => (runHost (e.1.check context command services)).trace := by
  unfold checkWithLabel madeWith
  rw [← map_fst_placed, List.map_map]
  -- without a label the steps end with the first that fails, with one all members are run
  cases label with
  | none =>
    show (checkEach _).trace = _
    rw [checkEach_eq_goThrough, goThrough_map, trace_goThrough, if_pos rfl]
    simp only [isOk_checkOne]
    rfl
  | some label =>
    rw [checkLabel, Traced.trace_bind, trace_runMembers, if_neg (Option.some_ne_none label),
      List.flatMap_map]
    exact List.append_nil _

end Made

/-! ## A tier

Labels and places together order the checks of a tier. The labels that are reached and the checks of each label
that are made give the whole. -/

section Tier

variable (tier : List (Precondition σ)) (command : CommandSpec σ) (context : Context) (services : σ)

/-- The checks of a tier that are made. -/
def made : List (Precondition σ × Nat) :=
  (upTo (fun label => (checkWithLabel tier command context services label).value.isOk)
    (tier.map (·.group)).eraseDups).flatMap (madeWith (Precondition.outcome command context services) tier)

/-- The labels that are gone through to their end are those that no label before them fails. -/
theorem mem_upTo_labels_iff {label : Option String} :
    label ∈ upTo (fun label => (checkWithLabel tier command context services label).value.isOk)
        (tier.map (·.group)).eraseDups ↔
      withLabel tier label ≠ [] ∧ ∀ earlier r, appearance tier earlier < appearance tier label →
        ¬ FailsWith (Precondition.outcome command context services) tier earlier r := by
  rw [mem_upTo_iff (pairwise_labels tier), mem_labels_iff]
  refine and_congr_right fun _ => ?_
  constructor
  · intro h earlier r hlt hfails
    have hok := h earlier (mem_labels_iff.mpr hfails.withLabel_ne_nil) hlt
    exact (checkWithLabel_ok_iff hfails.withLabel_ne_nil).mp (isOk_iff.mp hok) r hfails
  · intro h earlier hmem hlt
    refine isOk_iff.mpr ((checkWithLabel_ok_iff (mem_labels_iff.mp hmem)).mpr ?_)
    exact fun r => h earlier r hlt

theorem goesThrough_made : GoesThrough (Precondition.outcome command context services) tier
    (made tier command context services) where
  ordered := by
    -- within one label the places go up, and from label to label the first appearances do
    refine List.pairwise_flatMap.mpr ⟨?_, ?_⟩
    · intro label _
      refine (pairwise_madeWith _ tier label).imp_of_mem fun {e f} he hf hlt => .inr ⟨?_, hlt⟩
      rw [(mem_madeWith_iff.mp he).1.2, (mem_madeWith_iff.mp hf).1.2]
    · refine ((pairwise_labels tier).sublist (upTo_sublist _ _)).imp ?_
      intro label other hlt e he f hf
      rw [(mem_madeWith_iff.mp he).1.2, (mem_madeWith_iff.mp hf).1.2]
      exact .inl hlt
  mem_iff p i := by
    simp only [made, List.mem_flatMap, mem_upTo_labels_iff, mem_madeWith_iff]
    constructor
    · rintro ⟨label, ⟨_, hearlier⟩, ⟨hp, rfl⟩, hunlabelled⟩
      exact ⟨hp, hearlier, hunlabelled⟩
    · intro ⟨hp, hearlier, hunlabelled⟩
      have hmem : p ∈ withLabel tier p.group := mem_withLabel_iff.mpr ⟨List.mem_of_getElem? hp, rfl⟩
      exact ⟨p.group, ⟨List.ne_nil_of_mem hmem, hearlier⟩, ⟨hp, rfl⟩, hunlabelled⟩

variable {tier command context services}

/-- What a tier leaves behind is what the checks that are made leave. -/
theorem trace_checkTier :
    (checkTier tier command context services).trace = (made tier command context services).flatMap
      fun e => (runHost (e.1.check context command services)).trace := by
  unfold made
  rw [checkTier_eq_goThrough, trace_goThrough, List.flatMap_assoc]
  exact List.flatMap_congr fun label _ => trace_checkWithLabel label

/-- A tier fails with the result of the first label that fails. -/
theorem checkTier_error_iff {r : Result} :
    (checkTier tier command context services).value = .error r ↔
      ∃ label, FailsWith (Precondition.outcome command context services) tier label r ∧
        ∀ earlier r', appearance tier earlier < appearance tier label →
          ¬ FailsWith (Precondition.outcome command context services) tier earlier r' := by
  rw [checkTier_eq_goThrough, value_goThrough_eq_error_iff,
    firstBroken_iff_of_pairwise (pairwise_labels tier)]
  constructor
  · intro ⟨label, hmem, hfails, hpass⟩
    refine ⟨label, (checkWithLabel_error_iff (mem_labels_iff.mp hmem)).mp hfails, fun earlier r' hlt hr' => ?_⟩
    have hne := hr'.withLabel_ne_nil
    exact (checkWithLabel_ok_iff hne).mp (hpass earlier (mem_labels_iff.mpr hne) hlt) r' hr'
  · intro ⟨label, hfails, hpass⟩
    -- a label that fails has a check, so it is among those that are gone through
    have hne := hfails.withLabel_ne_nil
    refine ⟨label, mem_labels_iff.mpr hne, (checkWithLabel_error_iff hne).mpr hfails, fun earlier hmem hlt => ?_⟩
    exact (checkWithLabel_ok_iff (mem_labels_iff.mp hmem)).mpr fun r' => hpass earlier r' hlt

/-- No check is made twice. -/
theorem GoesThrough.nodup {outcome : Precondition σ → Except String Unit}
    {made : List (Precondition σ × Nat)} (h : GoesThrough outcome tier made) :
    (made.map (·.2)).Nodup := by
  -- one place has one check, and that does not come before itself
  refine List.pairwise_map.mpr (h.ordered.imp_of_mem fun {e f} he hf hbefore heq => ?_)
  obtain ⟨p, i⟩ := e
  obtain ⟨q, j⟩ := f
  cases heq
  have hp := ((h.mem_iff p i).mp he).1
  have hq := ((h.mem_iff q i).mp hf).1
  cases hp.symm.trans hq
  rcases hbefore with hlt | ⟨_, hlt⟩
  · exact Nat.lt_irrefl _ hlt
  · exact Nat.lt_irrefl _ hlt

/-- The rule for a tier does not depend on the order of its checks. -/
theorem tierPasses_iff_of_perm {other : List (Precondition σ)} {passes : Precondition σ → Prop}
    (hperm : other.Perm tier) : TierPasses other passes ↔ TierPasses tier passes := by
  constructor
  · intro ⟨hunlabelled, hlabelled⟩
    simp only [hperm.mem_iff] at hunlabelled hlabelled
    exact ⟨hunlabelled, hlabelled⟩
  · intro ⟨hunlabelled, hlabelled⟩
    simp only [← hperm.mem_iff] at hunlabelled hlabelled
    exact ⟨hunlabelled, hlabelled⟩

end Tier

/-- **How a tier is gone through.** The checks that are made are told by the rule, none is made twice, and what
the tier leaves behind is what they leave, in their order. The tier fails with the result of the first label that
fails. It is let through if all checks without a label pass and one with each label, so the order of the checks
makes no difference to that. -/
theorem checkTier_goesThrough (tier : List (Precondition σ)) (command : CommandSpec σ) (context : Context)
    (services : σ) :
    (∃ made, GoesThrough (Precondition.outcome command context services) tier made ∧
      (made.map (·.2)).Nodup ∧
      (checkTier tier command context services).trace =
        made.flatMap fun e => (runHost (e.1.check context command services)).trace) ∧
    (∀ r, (checkTier tier command context services).value = .error r ↔
      ∃ label, FailsWith (Precondition.outcome command context services) tier label r ∧
        ∀ earlier r', appearance tier earlier < appearance tier label →
          ¬ FailsWith (Precondition.outcome command context services) tier earlier r') ∧
    ((checkTier tier command context services).value = .ok () ↔
      TierPasses tier (Precondition.Passes command context services)) ∧
    (∀ other, other.Perm tier → ((checkTier other command context services).value = .ok () ↔
      (checkTier tier command context services).value = .ok ())) := by
  have hmade := goesThrough_made tier command context services
  refine ⟨⟨_, hmade, hmade.nodup, trace_checkTier⟩, fun r => checkTier_error_iff,
    checkTier_ok_iff tier command context services, fun other hperm => ?_⟩
  rw [checkTier_ok_iff, checkTier_ok_iff, tierPasses_iff_of_perm hperm]

namespace Sample

/-- Leaves a note and comes to an outcome. -/
def noting (label : Option String) (note : String) (outcome : Except String Unit) : Precondition Unit :=
  ⟨label, fun _ _ _ => ⟨outcome, [note]⟩⟩

/-- Checks with a label on both sides of one without. The last has an empty label. -/
def mixed : List (Precondition Unit) :=
  [noting (some "staff") "first" (.error "not on the staff"), noting none "second" (.error "asleep"),
    noting (some "staff") "third" (.ok ()), noting (some "") "fourth" (.ok ())]

/-- Both checks of the staff fail, and those without a label come behind them. -/
def unstaffed : List (Precondition Unit) :=
  [noting (some "staff") "first" (.error "not on the staff"), noting none "second" (.error "asleep"),
    noting (some "staff") "third" (.error "off duty"), noting (some "owner") "fourth" (.ok ())]

end Sample

/-- In the first tier the checks of the staff are made together, and one passes. Of those without a label the first
fails, so the other is not made. In the second tier no check of the staff passes. The rejection names the label and
holds what each of them says, and no other check is made. -/
theorem checkTier_goesThrough_mixed :
    ((∃ made, GoesThrough (Precondition.outcome Sample.purge.toCommandSpec (Sample.press 1 none) ())
        Sample.mixed made ∧
      made.flatMap (fun e => (runHost (e.1.check (Sample.press 1 none) Sample.purge.toCommandSpec ())).trace) =
        [.note "first", .note "third", .note "second"]) ∧
    (∃ label, FailsWith (Precondition.outcome Sample.purge.toCommandSpec (Sample.press 1 none) ())
      Sample.mixed label (.ofKind .unmetPrecondition "asleep")) ∧
    Sample.mixed.reverse.Perm Sample.mixed ∧
    (checkTier Sample.mixed.reverse Sample.purge.toCommandSpec (Sample.press 1 none) ()).value ≠ .ok ()) ∧
    (∃ made, GoesThrough (Precondition.outcome Sample.purge.toCommandSpec (Sample.press 1 none) ())
        Sample.unstaffed made ∧
      made.flatMap (fun e => (runHost (e.1.check (Sample.press 1 none) Sample.purge.toCommandSpec ())).trace) =
        [.note "first", .note "third"]) ∧
    FailsWith (Precondition.outcome Sample.purge.toCommandSpec (Sample.press 1 none) ()) Sample.unstaffed
      (some "staff") (.ofGroup "precondition group 'staff' failed"
        [.ofKind .unmetPrecondition "not on the staff", .ofKind .unmetPrecondition "off duty"]) ∧
    (checkTier Sample.unstaffed Sample.purge.toCommandSpec (Sample.press 1 none) ()).value =
      .error (.ofGroup "precondition group 'staff' failed"
        [.ofKind .unmetPrecondition "not on the staff", .ofKind .unmetPrecondition "off duty"]) := by
  obtain ⟨⟨made, hmade, _, htrace⟩, hfails, _, hreordered⟩ :=
    checkTier_goesThrough Sample.mixed Sample.purge.toCommandSpec (Sample.press 1 none) ()
  obtain ⟨⟨others, hothers, _, hothersTrace⟩, hothersFail, _⟩ :=
    checkTier_goesThrough Sample.unstaffed Sample.purge.toCommandSpec (Sample.press 1 none) ()
  have hvalue : (checkTier Sample.mixed Sample.purge.toCommandSpec (Sample.press 1 none) ()).value =
      .error (.ofKind .unmetPrecondition "asleep") := rfl
  obtain ⟨label, hlabel, _⟩ := (hfails _).mp hvalue
  have hne : withLabel Sample.unstaffed (some "staff") ≠ [] := List.cons_ne_nil _ _
  have hall : List.Forall₂ (fun p reason => Precondition.outcome Sample.purge.toCommandSpec (Sample.press 1 none) ()
      p = .error reason) (withLabel Sample.unstaffed (some "staff")) ["not on the staff", "off duty"] :=
    .cons rfl (.cons rfl .nil)
  have hstaff : FailsWith (Precondition.outcome Sample.purge.toCommandSpec (Sample.press 1 none) ())
      Sample.unstaffed (some "staff") (.ofGroup "precondition group 'staff' failed"
        [.ofKind .unmetPrecondition "not on the staff", .ofKind .unmetPrecondition "off duty"]) :=
    .labelled hne hall
  -- the staff comes first in the tier, so no label before it fails
  have hfirst : ∀ earlier r', appearance Sample.unstaffed earlier < appearance Sample.unstaffed (some "staff") →
      ¬ FailsWith (Precondition.outcome Sample.purge.toCommandSpec (Sample.press 1 none) ())
        Sample.unstaffed earlier r' := fun earlier r' hlt => absurd hlt (Nat.not_lt_zero _)
  refine ⟨⟨⟨made, hmade, htrace.symm⟩, ⟨label, hlabel⟩, List.reverse_perm _, ?_⟩, ⟨others, hothers, ?_⟩, hstaff,
    (hothersFail _).mpr ⟨_, hstaff, hfirst⟩⟩
  · rw [ne_eq, hreordered _ (List.reverse_perm _), hvalue]
    exact nofun
  · rw [← hothersTrace]
    rfl

end ChatDispatch
