import ChatDispatch.Dispatch.Preconditions

/-!
# What tiers of checks let through

`checkTier` buckets the checks of a tier by label and goes through the buckets up to the first that
fails. Here its verdict is read off the declared labels, with no buckets and no order left:

* **`TierPasses`** — the rule: checks without a label (or with an empty one) all pass, and each label
  that occurs has a member that passes.
* **`checkTier_ok_iff`** — the verdict of `checkTier` is that rule.
* **`checkPreconditions_ok_iff`** — all three tiers, with the checks of a parameter made on the
  argument at the parameter's own position.
* **`goThrough`** — steps up to the first that fails, the one recursion behind both levels of a tier.
* **`OnlyNotes`** — whatever the checks do, the events they leave are notes of the host's code. This is
  what keeps the work of a command out of everything that happens before it.
-/

namespace ChatDispatch

variable {σ : Type}

/-! ## The rule

A check says whether it passes by its outcome alone, so the rules speak of outcomes and never of the order in
which the checks are made. -/

/-- The check passes for a dispatch to `command`. -/
def Precondition.Passes (command : CommandSpec σ) (context : Context) (services : σ)
    (p : Precondition σ) : Prop :=
  (p.check context command services).value = .ok ()

/-- The rule for one tier, over the labels as they were declared. -/
structure TierPasses (tier : List (Precondition σ)) (passes : Precondition σ → Prop) : Prop where
  /-- Checks without a label, or with an empty one, must all pass. -/
  unlabelled : ∀ p ∈ tier, p.label = none ∨ p.label = some "" → passes p
  /-- Of the checks with one label, one must pass. -/
  labelled : ∀ label, label ≠ "" → (∃ p ∈ tier, p.label = some label) →
    ∃ p ∈ tier, p.label = some label ∧ passes p

/-- All checks of a parameter pass on an argument; a missing argument is not checked. -/
def Parameter.Passes (context : Context) (services : σ) (p : Parameter σ) (a : Argument) : Prop :=
  a ≠ .missing → ∀ q ∈ p.preconditions, (q.check context p.toParameterSpec a services).value = .ok ()

/-- Every parameter passes on the argument at its own position. -/
def ParametersPass (parameters : List (Parameter σ)) (arguments : List Argument)
    (context : Context) (services : σ) : Prop :=
  ∀ (i : Nat) (p : Parameter σ) (a : Argument),
    parameters[i]? = some p → arguments[i]? = some a → p.Passes context services a

/-- A check stands without a label if it declares none, or an empty one. -/
theorem Precondition.group_eq_none_iff (p : Precondition σ) :
    p.group = none ↔ p.label = none ∨ p.label = some "" := by
  unfold Precondition.group
  cases p.label <;> simp

/-- A check stands with the label that it declares, unless this is empty. -/
theorem Precondition.group_eq_some_iff (p : Precondition σ) (label : String) :
    p.group = some label ↔ p.label = some label ∧ label ≠ "" := by
  unfold Precondition.group
  rw [Option.filter_eq_some_iff]
  simp

/-! ## Steps up to the first that fails

The labels of a tier are gone through in this way, and so are the checks without a label. -/

section Steps

variable {α : Type} {step : α → Logged (Except Result Unit)}

/-- Takes steps up to the first that fails. -/
def goThrough (step : α → Logged (Except Result Unit)) : List α → Logged (Except Result Unit)
  | [] => pure (.ok ())
  | a :: as => andThen (step a) (goThrough step as)

/-- Two steps succeed when both do. -/
theorem andThen_ok_iff (first next : Logged (Except Result Unit)) :
    (andThen first next).value = .ok () ↔ first.value = .ok () ∧ next.value = .ok () := by
  rw [andThen, Traced.value_bind]
  cases first.value with
  | ok _ => simp
  | error r => simp

theorem goThrough_ok_iff {as : List α} :
    (goThrough step as).value = .ok () ↔ ∀ a ∈ as, (step a).value = .ok () := by
  induction as with
  | nil => exact iff_of_true rfl (List.forall_mem_nil _)
  | cons a as ih => rw [goThrough, andThen_ok_iff, ih, List.forall_mem_cons]

end Steps

/-- A single check and its result. -/
def checkOne (check : Noted (Except String Unit)) : Logged (Except Result Unit) :=
  ⟨check.value.mapError rejected, (runHost check).trace⟩

/-- A single check lets through what it passes. -/
theorem value_checkOne_eq_ok_iff {check : Noted (Except String Unit)} :
    (checkOne check).value = .ok () ↔ check.value = .ok () := by
  show check.value.mapError rejected = .ok () ↔ _
  cases check.value with
  | ok _ => exact iff_of_true rfl rfl
  | error reason => exact iff_of_false nofun nofun

/-- Checks without a label are steps, one for each. -/
theorem checkEach_eq_goThrough (checks : List (Noted (Except String Unit))) :
    checkEach checks = goThrough checkOne checks := by
  induction checks with
  | nil => rfl
  | cons check checks ih =>
    obtain ⟨value, notes⟩ := check
    rw [checkEach, goThrough, ← ih]
    cases value with
    | ok _ => rfl
    | error reason => rfl

/-- The buckets of a tier are steps, one for each label. -/
theorem checkLabels_eq_goThrough (labels : List (Option String × List (Noted (Except String Unit)))) :
    checkLabels labels = goThrough (fun entry => checkLabel entry.1 entry.2) labels := by
  induction labels with
  | nil => rfl
  | cons entry labels ih =>
    rw [goThrough, ← ih]
    rfl

/-! ## Verdicts of the parts of a tier

Of the checks without a label all must pass, of those with one label any one. -/

/-- Checks without a label let through what all of them pass. -/
theorem checkEach_ok_iff (checks : List (Noted (Except String Unit))) :
    (checkEach checks).value = .ok () ↔ ∀ check ∈ checks, check.value = .ok () := by
  rw [checkEach_eq_goThrough, goThrough_ok_iff]
  exact forall₂_congr fun _ _ => value_checkOne_eq_ok_iff

/-- The members of a label are all asked, and each gives its own result. -/
theorem value_runMembers (checks : List (Noted (Except String Unit))) :
    (runMembers checks).value = checks.map fun check => memberResult check.value := by
  induction checks with
  | nil => rfl
  | cons check checks ih =>
    rw [List.map_cons, ← ih]
    rfl

/-- The result of a member is a success when its check passes. -/
theorem isSuccess_memberResult (outcome : Except String Unit) :
    (memberResult outcome).isSuccess = true ↔ outcome = .ok () := by
  cases outcome with
  | ok _ => simp [memberResult, Result.isSuccess]
  | error reason => simp [memberResult, rejected, Result.ofKind, Result.isSuccess]

/-- A label fails with the results of its members, in their order, if none of these is a success. -/
theorem value_checkLabel_some (group : String) (checks : List (Noted (Except String Unit))) :
    (checkLabel (some group) checks).value =
      if (runMembers checks).value.any (·.isSuccess) then .ok ()
      else .error (.ofGroup s!"precondition group '{group}' failed" (runMembers checks).value) := rfl

/-- The checks with one label let through what one of them passes. -/
theorem checkLabel_some_ok_iff (group : String) (checks : List (Noted (Except String Unit))) :
    (checkLabel (some group) checks).value = .ok () ↔ ∃ check ∈ checks, check.value = .ok () := by
  -- a success among the results comes from a check that passes
  have hany : (runMembers checks).value.any (·.isSuccess) = true ↔
      ∃ check ∈ checks, check.value = .ok () := by
    rw [value_runMembers, List.any_map, List.any_eq_true]
    simp only [Function.comp_apply, isSuccess_memberResult]
  rw [← hany, value_checkLabel_some]
  split
  · next h => simp [h]
  · next h => simp [h]

/-- The buckets of a tier let through what each of them does. -/
theorem checkLabels_ok_iff
    (labels : List (Option String × List (Noted (Except String Unit)))) :
    (checkLabels labels).value = .ok () ↔
      ∀ entry ∈ labels, (checkLabel entry.1 entry.2).value = .ok () := by
  rw [checkLabels_eq_goThrough, goThrough_ok_iff]

/-! ## Verdicts of whole tiers

The buckets are no part of the rule: which checks have one label is read off the tier itself. -/

/-- **The verdict of a tier.** It is let through exactly when its checks satisfy the rule. -/
theorem checkTier_ok_iff (tier : List (Precondition σ)) (command : CommandSpec σ)
    (context : Context) (services : σ) :
    (checkTier tier command context services).value = .ok () ↔
      TierPasses tier (Precondition.Passes command context services) := by
  -- one bucket for each group that occurs, with the checks of that group
  have hbuckets : (checkTier tier command context services).value = .ok () ↔
      ∀ p ∈ tier, (checkLabel p.group ((tier.filter (·.group == p.group)).map
        (·.check context command services))).value = .ok () := by
    simp only [checkTier, checkLabels_ok_iff, byLabel, List.map_map, List.forall_mem_map,
      List.mem_eraseDups, Function.comp_apply]
  rw [hbuckets]
  constructor
  · intro h
    refine ⟨?_, ?_⟩
    · intro p hp hlabel
      have hgroup := (p.group_eq_none_iff).2 hlabel
      -- the bucket without a label holds `p` itself
      have hall := h p hp
      rw [hgroup, checkLabel, checkEach_ok_iff, List.forall_mem_map] at hall
      exact hall p (by simp [hp, hgroup])
    · rintro label hne ⟨p, hp, hlabel⟩
      have hgroup := (p.group_eq_some_iff label).2 ⟨hlabel, hne⟩
      have hone := h p hp
      rw [hgroup, checkLabel_some_ok_iff] at hone
      obtain ⟨check, hcheck, hok⟩ := hone
      obtain ⟨q, hq, rfl⟩ := List.mem_map.mp hcheck
      simp only [List.mem_filter, beq_iff_eq] at hq
      exact ⟨q, hq.1, ((q.group_eq_some_iff label).1 hq.2).1, hok⟩
  · rintro ⟨hunlabelled, hlabelled⟩ p hp
    cases hgroup : p.group with
    | none =>
      rw [checkLabel, checkEach_ok_iff, List.forall_mem_map]
      intro q hq
      simp only [List.mem_filter, beq_iff_eq] at hq
      exact hunlabelled q hq.1 ((q.group_eq_none_iff).1 hq.2)
    | some label =>
      obtain ⟨hlabel, hne⟩ := (p.group_eq_some_iff label).1 hgroup
      obtain ⟨q, hq, hqlabel, hok⟩ := hlabelled label hne ⟨p, hp, hlabel⟩
      have hqgroup := (q.group_eq_some_iff label).2 ⟨hqlabel, hne⟩
      rw [checkLabel_some_ok_iff]
      exact ⟨_, List.mem_map_of_mem (List.mem_filter.mpr ⟨hq, by simp [hqgroup]⟩), hok⟩

/-- The checks of the parameters succeed when those of each parameter do, on the argument that stands
at its position. -/
theorem checkParameters_ok_iff (parameters : List (Parameter σ)) (arguments : List Argument)
    (context : Context) (services : σ) :
    (checkParameters parameters arguments context services).value = .ok () ↔
      ParametersPass parameters arguments context services := by
  have hpair : ∀ (p : Parameter σ) (a : Argument),
      (∀ check ∈ (if a.isMissing then [] else
        p.preconditions.map (·.check context p.toParameterSpec a services)),
          check.value = .ok ()) ↔ p.Passes context services a := by
    -- a missing argument has no checks and passes in any case
    intro p a
    cases a <;> simp [Parameter.Passes, Argument.isMissing]
  -- a parameter and an argument meet where they stand at the same position
  have hzip : (∀ pa ∈ parameters.zip arguments, pa.1.Passes context services pa.2) ↔
      ParametersPass parameters arguments context services := by
    constructor
    · intro h i p a hp ha
      exact h (p, a) (List.mem_of_getElem? (List.getElem?_zip_eq_some.mpr ⟨hp, ha⟩))
    · rintro h ⟨p, a⟩ hmem
      obtain ⟨i, hi⟩ := List.mem_iff_getElem?.mp hmem
      obtain ⟨hp, ha⟩ := List.getElem?_zip_eq_some.mp hi
      exact h i p a hp ha
  rw [checkParameters, checkEach_ok_iff, List.forall_mem_flatMap, ← hzip]
  exact forall₂_congr fun pa _ => hpair pa.1 pa.2

/-- **The verdict of all checks of a command.** -/
theorem checkPreconditions_ok_iff (command : Command σ) (context : Context)
    (arguments : Arguments) (services : σ) :
    (checkPreconditions command context arguments services).value = .ok () ↔
      ParametersPass command.parameters arguments.toList context services ∧
      TierPasses command.modulePreconditions
        (Precondition.Passes command.toCommandSpec context services) ∧
      TierPasses command.preconditions
        (Precondition.Passes command.toCommandSpec context services) := by
  rw [checkPreconditions, andThen_ok_iff, andThen_ok_iff, checkParameters_ok_iff,
    checkTier_ok_iff, checkTier_ok_iff]

/-! ## Rejections are unmet preconditions

Whatever a check says, the dispatch that it rejects ends with the one kind of failure that is for checks. This
holds of a single check and is kept on the way up to all three tiers. -/

/-- A computation that fails only with an unmet precondition. -/
def FailsUnmet {α : Type} (x : Logged (Except Result α)) : Prop :=
  ∀ r, x.value = .error r → r.kind? = some .unmetPrecondition

theorem failsUnmet_pure {α : Type} (a : α) : FailsUnmet (pure (.ok a)) := by
  intro r h
  cases h

/-- Of two steps the first that fails decides. -/
theorem failsUnmet_andThen {first next : Logged (Except Result Unit)} (hfirst : FailsUnmet first)
    (hnext : FailsUnmet next) : FailsUnmet (andThen first next) := by
  intro r h
  rw [andThen, Traced.value_bind] at h
  -- the second step is not taken if the first one fails
  cases hvalue : first.value with
  | ok _ =>
    rw [hvalue] at h
    exact hnext r h
  | error r' =>
    rw [hvalue] at h
    cases h
    exact hfirst _ hvalue

theorem failsUnmet_goThrough {α : Type} {step : α → Logged (Except Result Unit)}
    (h : ∀ a, FailsUnmet (step a)) (as : List α) : FailsUnmet (goThrough step as) := by
  induction as with
  | nil => exact failsUnmet_pure ()
  | cons a as ih => exact failsUnmet_andThen (h a) ih

/-- Checks without a label reject with the reason of one of them. -/
theorem failsUnmet_checkEach (checks : List (Noted (Except String Unit))) :
    FailsUnmet (checkEach checks) := by
  rw [checkEach_eq_goThrough]
  refine failsUnmet_goThrough (fun check r h => ?_) checks
  obtain ⟨value, notes⟩ := check
  cases value with
  | ok _ => cases h
  | error reason =>
    cases h
    rfl

/-- The checks with one label reject in the name of the label. -/
theorem failsUnmet_checkLabel (label : Option String)
    (checks : List (Noted (Except String Unit))) : FailsUnmet (checkLabel label checks) := by
  cases label with
  | none => exact failsUnmet_checkEach checks
  | some group =>
    intro r h
    rw [value_checkLabel_some] at h
    split at h
    · cases h
    · cases h
      rfl

theorem failsUnmet_checkLabels
    (labels : List (Option String × List (Noted (Except String Unit)))) :
    FailsUnmet (checkLabels labels) := by
  rw [checkLabels_eq_goThrough]
  exact failsUnmet_goThrough (fun entry => failsUnmet_checkLabel entry.1 entry.2) labels

/-- The checks of a command reject a dispatch as an unmet precondition and as nothing else. -/
theorem failsUnmet_checkPreconditions (command : Command σ) (context : Context)
    (arguments : Arguments) (services : σ) :
    FailsUnmet (checkPreconditions command context arguments services) :=
  failsUnmet_andThen (failsUnmet_checkEach _)
    (failsUnmet_andThen (failsUnmet_checkLabels _) (failsUnmet_checkLabels _))

/-! ## The checks leave notes only

The events of the work itself come from nothing but the work. So before it there are only the notes that the host
leaves in its own checks. -/

/-- All that is left behind are notes of the host's code. -/
def OnlyNotes {α : Type} (x : Logged α) : Prop := ∀ e ∈ x.trace, ∃ text, e = .note text

theorem onlyNotes_pure {α : Type} (a : α) : OnlyNotes (pure a : Logged α) := by
  intro e he
  simp at he

theorem onlyNotes_runHost {α : Type} (x : Noted α) : OnlyNotes (runHost x) := by
  intro e he
  obtain ⟨text, _, rfl⟩ := List.mem_map.mp he
  exact ⟨text, rfl⟩

/-- One part after the other leaves what both leave. -/
theorem OnlyNotes.bind {α β : Type} {x : Logged α} {f : α → Logged β} (hx : OnlyNotes x)
    (hf : OnlyNotes (f x.value)) : OnlyNotes (x >>= f) := by
  intro e he
  rw [Traced.trace_bind] at he
  rcases List.mem_append.mp he with h | h
  · exact hx e h
  · exact hf e h

/-- Two steps leave notes only, also where the second one is not taken. -/
theorem onlyNotes_andThen {first next : Logged (Except Result Unit)} (hfirst : OnlyNotes first)
    (hnext : OnlyNotes next) : OnlyNotes (andThen first next) := by
  refine hfirst.bind ?_
  split
  · exact hnext
  · exact onlyNotes_pure _

theorem onlyNotes_goThrough {α : Type} {step : α → Logged (Except Result Unit)}
    (h : ∀ a, OnlyNotes (step a)) (as : List α) : OnlyNotes (goThrough step as) := by
  induction as with
  | nil => exact onlyNotes_pure _
  | cons a as ih => exact onlyNotes_andThen (h a) ih

/-- Checks without a label leave notes only. -/
theorem onlyNotes_checkEach (checks : List (Noted (Except String Unit))) :
    OnlyNotes (checkEach checks) := by
  rw [checkEach_eq_goThrough]
  refine onlyNotes_goThrough (fun check => ?_) checks
  intro e he
  exact onlyNotes_runHost check e he

theorem onlyNotes_runMembers (checks : List (Noted (Except String Unit))) :
    OnlyNotes (runMembers checks) := by
  induction checks with
  | nil => exact onlyNotes_pure _
  | cons check checks ih => exact (onlyNotes_runHost check).bind (ih.bind (onlyNotes_pure _))

theorem onlyNotes_checkLabel (label : Option String)
    (checks : List (Noted (Except String Unit))) : OnlyNotes (checkLabel label checks) := by
  cases label with
  | none => exact onlyNotes_checkEach checks
  | some group => exact (onlyNotes_runMembers checks).bind (onlyNotes_pure _)

theorem onlyNotes_checkLabels
    (labels : List (Option String × List (Noted (Except String Unit)))) :
    OnlyNotes (checkLabels labels) := by
  rw [checkLabels_eq_goThrough]
  exact onlyNotes_goThrough (fun entry => onlyNotes_checkLabel entry.1 entry.2) labels

/-- **All checks of a command** leave notes only. -/
theorem onlyNotes_checkPreconditions (command : Command σ) (context : Context)
    (arguments : Arguments) (services : σ) :
    OnlyNotes (checkPreconditions command context arguments services) :=
  onlyNotes_andThen (onlyNotes_checkEach _)
    (onlyNotes_andThen (onlyNotes_checkLabels _) (onlyNotes_checkLabels _))

end ChatDispatch
