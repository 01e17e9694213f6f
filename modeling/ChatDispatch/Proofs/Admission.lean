import ChatDispatch.Dispatcher.Basic
import ChatDispatch.Proofs.Allotment
import ChatDispatch.Proofs.Assembly
import ChatDispatch.Proofs.Tier

/-!
# What a command has to pass before it is put to work

Five gates stand before the work of a command: its kind, the binding of its arguments, and three tiers
of checks. They are gathered here into one computation in front of the work.

* **`gate`** — all gates in order, with the result of the first that refuses.
* **`execute_eq_gate`** — a dispatch is its gates, then its work; nothing else happens.
* **`Admitted`** — what has to hold for a dispatch to pass, said without any order and over the
  declarations of the modules around the command.
* **`run_works_iff_admitted`** — the headline: a dispatcher puts a command to work exactly when the
  dispatch is admitted, and otherwise returns and reports the refusal.
-/

namespace ChatDispatch

variable {σ : Type}

/-! ## The gates in front of the work

The kind, the arguments and the checks stand in front of the work in this order, and the first that refuses gives
the result. -/

/-- All gates of a dispatch in their order: the arguments, or the result of the first gate that
refuses. -/
def gate (command : Command σ) (context : Context) (inputs : Inputs) (services : σ) :
    Logged (Except Result Arguments) :=
  if command.kind.accepts context.interaction.payload then prepare command context inputs services
  else pure (.error (kindMismatch command context.interaction))

/-- **A dispatch is its gates, then its work.** -/
theorem execute_eq_gate (mode : RunMode) (raiseFaults : Bool) (command : Command σ)
    (context : Context) (inputs : Inputs) (services : σ) :
    execute mode raiseFaults command context inputs services =
      match (gate command context inputs services).value with
      | .error result => .rejection result (gate command context inputs services).trace
      | .ok arguments =>
        launch (command.runMode.getD mode) raiseFaults command
          (gate command context inputs services).trace
          (work command context arguments services) := by
  unfold execute gate
  cases command.kind.accepts context.interaction.payload with
  | true => rfl
  | false => rfl

/-- The gates let arguments through that were bound and that the checks passed on. -/
theorem gate_eq_ok_iff {command : Command σ} {context : Context} {inputs : Inputs} {services : σ}
    {arguments : Arguments} :
    (gate command context inputs services).value = .ok arguments ↔
      command.kind.accepts context.interaction.payload = true ∧
      bindArguments command.toCommandSpec context.interaction inputs = .ok arguments ∧
      (checkPreconditions command context arguments services).value = .ok () := by
  unfold gate
  cases haccepts : command.kind.accepts context.interaction.payload with
  | false => simp
  | true =>
    simp only [if_true, true_and, prepare]
    cases hbind : bindArguments command.toCommandSpec context.interaction inputs with
    | error e => simp
    | ok bound =>
      rw [Traced.value_bind]
      -- the checks have seen the arguments that were bound, so these are the ones let through
      cases hcheck : (checkPreconditions command context bound services).value with
      | ok _ =>
        simp only [Traced.value_pure, Except.ok.injEq]
        constructor
        · rintro rfl
          exact ⟨rfl, hcheck⟩
        · rintro ⟨rfl, _⟩
          rfl
      | error r =>
        simp only [Traced.value_pure, reduceCtorEq, Except.ok.injEq, false_iff, not_and]
        rintro rfl
        simp [hcheck]

/-- The result with which a dispatch is refused, by the first gate that it does not pass. -/
inductive Refusal (command : Command σ) (context : Context) (inputs : Inputs) : Result → Prop where
  /-- The command cannot handle interactions of this kind. -/
  | wrongKind {r : Result}
      (haccepts : command.kind.accepts context.interaction.payload = false)
      (hkind : r.kind? = some .parseFailed) : Refusal command context inputs r
  /-- The arguments cannot be bound. -/
  | unbound {r : Result} {e : BindError}
      (haccepts : command.kind.accepts context.interaction.payload = true)
      (hbind : bindArguments command.toCommandSpec context.interaction inputs = .error e)
      (hkind : r.kind? = some .badArgs) : Refusal command context inputs r
  /-- A check does not pass. -/
  | unmet {r : Result} {arguments : Arguments}
      (haccepts : command.kind.accepts context.interaction.payload = true)
      (hbind : bindArguments command.toCommandSpec context.interaction inputs = .ok arguments)
      (hkind : r.kind? = some .unmetPrecondition) : Refusal command context inputs r

/-- A result of the gates is a refusal. -/
theorem refusal_of_gate_error {command : Command σ} {context : Context} {inputs : Inputs}
    {services : σ} {r : Result} (h : (gate command context inputs services).value = .error r) :
    Refusal command context inputs r := by
  unfold gate at h
  cases haccepts : command.kind.accepts context.interaction.payload with
  | false =>
    rw [haccepts] at h
    cases h
    exact .wrongKind haccepts rfl
  | true =>
    rw [haccepts] at h
    simp only [if_true, prepare] at h
    cases hbind : bindArguments command.toCommandSpec context.interaction inputs with
    | error e =>
      rw [hbind] at h
      cases h
      exact .unbound haccepts hbind rfl
    | ok arguments =>
      rw [hbind] at h
      simp only [Traced.value_bind] at h
      cases hcheck : (checkPreconditions command context arguments services).value with
      | ok _ =>
        rw [hcheck] at h
        cases h
      | error r' =>
        rw [hcheck] at h
        cases h
        exact .unmet haccepts hbind (failsUnmet_checkPreconditions _ _ _ _ _ hcheck)

/-- Nothing but notes of the host is left behind before the work. -/
theorem onlyNotes_gate (command : Command σ) (context : Context) (inputs : Inputs) (services : σ) :
    OnlyNotes (gate command context inputs services) := by
  unfold gate
  split
  · unfold prepare
    split
    · exact onlyNotes_pure _
    · refine (onlyNotes_checkPreconditions _ _ _ _).bind ?_
      split
      · exact onlyNotes_pure _
      · exact onlyNotes_pure _
  · exact onlyNotes_pure _

/-! ## The work

Notes are no work, and the work begins with the construction, so that it can be told from the events whether there
was any. -/

theorem OnlyNotes.isWork_eq_false {α : Type} {x : Logged α} (h : OnlyNotes x) {e : Event}
    (he : e ∈ x.trace) : e.isWork = false := by
  obtain ⟨text, rfl⟩ := h e he
  rfl

theorem construct_mem_work (command : Command σ) (context : Context) (arguments : Arguments)
    (services : σ) : Event.construct ∈ (work command context arguments services).trace := by
  unfold work
  rw [Traced.trace_bind]
  exact List.mem_append_left _ List.mem_cons_self

/-- What a launched command does, before or after the caller gets its result, is what happened before
the launch and its work. -/
theorem mem_launch_iff {mode : RunMode} {raiseFaults : Bool} {command : Command σ}
    {before : List Event} {unit : Logged Result} {e : Event} :
    e ∈ (launch mode raiseFaults command before unit).trace ++
        (launch mode raiseFaults command before unit).detached ↔
      e ∈ before ∨ e ∈ unit.trace := by
  cases mode with
  | inline => simp [launch]
  | detached => simp [launch]

/-- There is work exactly when the gates give arguments. -/
theorem execute_works_iff_gate {mode : RunMode} {raiseFaults : Bool} {command : Command σ}
    {context : Context} {inputs : Inputs} {services : σ} :
    (∃ e ∈ (execute mode raiseFaults command context inputs services).trace ++
        (execute mode raiseFaults command context inputs services).detached, e.isWork = true) ↔
      ∃ arguments, (gate command context inputs services).value = .ok arguments := by
  have hnotes := onlyNotes_gate command context inputs services
  rw [execute_eq_gate]
  cases hgate : (gate command context inputs services).value with
  | error r =>
    simp only [Execution.rejection, List.append_nil, reduceCtorEq, exists_false, iff_false,
      not_exists, not_and, Bool.not_eq_true]
    -- refused: nothing but notes
    exact fun e he => hnotes.isWork_eq_false he
  | ok arguments =>
    simp only [mem_launch_iff, Except.ok.injEq, exists_eq', iff_true]
    exact ⟨.construct, .inr (construct_mem_work _ _ _ _), rfl⟩

/-- A refused dispatch returns the refusal and reports it. -/
theorem execute_refused (mode : RunMode) (raiseFaults : Bool) {command : Command σ}
    {context : Context} {inputs : Inputs} {services : σ}
    (h : ¬ ∃ arguments, (gate command context inputs services).value = .ok arguments) :
    ∃ r, Refusal command context inputs r ∧
      (execute mode raiseFaults command context inputs services).returned = .ok r ∧
      (execute mode raiseFaults command context inputs services).reported = some r := by
  rw [execute_eq_gate]
  cases hgate : (gate command context inputs services).value with
  | ok arguments => exact absurd ⟨arguments, hgate⟩ h
  | error r => exact ⟨r, refusal_of_gate_error hgate, rfl, rfl⟩

/-- A dispatcher executes a command with its own settings. -/
theorem Dispatcher.run_fst (d : Dispatcher σ) (command : Command σ) (context : Context)
    (inputs : Inputs) (services : σ) :
    (d.run command context inputs services).1 =
      execute d.settings.runMode d.settings.raiseFaults command context inputs services := by
  unfold Dispatcher.run
  dsimp only
  split
  · rfl
  · rfl

/-! ## Admission

The gates of an assembled command, in terms of the declarations that stand around it. -/

/-- What has to hold for a dispatch to put a command to work, where `around` are the declarations of
the modules around the command, outermost first. -/
structure Admitted (around : List (ModuleDecl σ)) (command : Command σ) (context : Context)
    (inputs : Inputs) (services : σ) : Prop where
  /-- The command handles interactions of this kind. -/
  accepts : command.kind.accepts context.interaction.payload = true
  /-- There is an argument for each parameter, and the checks of the parameter pass on it. -/
  bound : ∃ arguments,
    bindArguments command.toCommandSpec context.interaction inputs = .ok arguments ∧
    arguments.toList.length = command.parameters.length ∧
    ParametersPass command.parameters arguments.toList context services
  /-- The checks of all modules around the command pass as one tier. -/
  modules : TierPasses (around.flatMap (·.preconditions))
    (Precondition.Passes command.toCommandSpec context services)
  /-- The checks of the command itself pass as another. -/
  own : TierPasses command.preconditions
    (Precondition.Passes command.toCommandSpec context services)

/-- The gates of an assembled command let through what is admitted. -/
theorem Assembled.gate_ok_iff_admitted {table : ConverterTable} {around : List (ModuleDecl σ)}
    {command : Command σ} (h : Assembled table around command) {context : Context} {inputs : Inputs}
    {services : σ} :
    (∃ arguments, (gate command context inputs services).value = .ok arguments) ↔
      Admitted around command context inputs services := by
  simp only [gate_eq_ok_iff, checkPreconditions_ok_iff, h.modulePreconditions_eq]
  constructor
  · rintro ⟨arguments, haccepts, hbind, hparameters, hmodules, hown⟩
    exact ⟨haccepts, ⟨arguments, hbind, length_of_bindArguments hbind, hparameters⟩, hmodules, hown⟩
  · rintro ⟨haccepts, ⟨arguments, hbind, _, hparameters⟩, hmodules, hown⟩
    exact ⟨arguments, haccepts, hbind, hparameters, hmodules, hown⟩

/-- **Only admitted dispatches put a command to work.** In either run mode a dispatcher constructs the
module of an assembled command, runs a hook or the handler, or drops the module exactly when the
dispatch is admitted. One that is not gets the refusal of the first gate that it does not pass, and
this same result is reported, once. -/
theorem run_works_iff_admitted {table : ConverterTable} {around : List (ModuleDecl σ)}
    {command : Command σ} (h : Assembled table around command) (d : Dispatcher σ)
    (context : Context) (inputs : Inputs) (services : σ) :
    ((∃ e ∈ (d.run command context inputs services).1.trace ++
        (d.run command context inputs services).1.detached, e.isWork = true) ↔
      Admitted around command context inputs services) ∧
    (¬ Admitted around command context inputs services →
      ∃ r, Refusal command context inputs r ∧
        (d.run command context inputs services).1.returned = .ok r ∧
        (d.run command context inputs services).2.reports = d.reports.send {
          command := command
          context := context
          result := r
          started := d.clock d.readings
          completed := d.clock (d.readings + 1) }) := by
  rw [← h.gate_ok_iff_admitted, d.run_fst]
  refine ⟨execute_works_iff_gate, fun hrefused => ?_⟩
  obtain ⟨r, hr, hreturned, hreported⟩ :=
    execute_refused d.settings.runMode d.settings.raiseFaults hrefused
  refine ⟨r, hr, hreturned, ?_⟩
  unfold Dispatcher.run
  simp only [hreported]

/-- The second user is on the staff of the inner module only, and is admitted inside a guild; the third
is on no staff and is refused. -/
theorem purge_admits_staff :
    Assembled .standard [Sample.moderation, Sample.cleanup] Sample.purge ∧
    Admitted [Sample.moderation, Sample.cleanup] Sample.purge (Sample.press 2 (some ⟨9⟩))
      ⟨[.integer 5], []⟩ () ∧
    ¬ Admitted [Sample.moderation, Sample.cleanup] Sample.purge (Sample.press 3 (some ⟨9⟩))
      ⟨[.integer 5], []⟩ () ∧
    ∃ r, Refusal Sample.purge (Sample.press 3 (some ⟨9⟩)) ⟨[.integer 5], []⟩ r ∧
      ((Dispatcher.new {} id).run Sample.purge (Sample.press 3 (some ⟨9⟩))
        ⟨[.integer 5], []⟩ ()).1.returned = .ok r := by
  have hstaff := run_works_iff_admitted Sample.assembled_purge (Dispatcher.new {} id)
    (Sample.press 2 (some ⟨9⟩)) ⟨[.integer 5], []⟩ ()
  have hother := run_works_iff_admitted Sample.assembled_purge (Dispatcher.new {} id)
    (Sample.press 3 (some ⟨9⟩)) ⟨[.integer 5], []⟩ ()
  -- the user with number 3 is on the staff of neither module
  have hrefused := mt hother.1.mpr (by decide)
  obtain ⟨r, hr, hreturned, _⟩ := hother.2 hrefused
  exact ⟨Sample.assembled_purge, hstaff.1.mp (by decide), hrefused, r, hr, hreturned⟩

end ChatDispatch
