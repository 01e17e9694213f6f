import ChatDispatch.Proofs.Admission

/-!
# Run modes

What a command does for an interaction does not depend on its run mode: it goes through its gates and
then does its work. The run mode decides only whether the caller waits for it.

* **`outcome`** — all that a command does, as one computation.
* **`execute_events`**, **`execute_reported`** — every dispatch does this and reports its result.
* **`returned_of_letThrough`** — what the caller gets for a dispatch that has passed the gates.
* **`Command.IgnoresRunMode`** — the code of the host cannot tell two run modes of a command apart.
* **`run_modes_agree`** — the headline: an inline and a detached dispatch of the same command leave the same
  events and report the same result.
-/

namespace ChatDispatch

variable {σ : Type}

/-! ## What a command does

Executing a command splits its outcome in two: what happens before the caller goes on and what happens afterwards.
Put together again it is the outcome, whatever the run mode. -/

/-- All that a command does for an interaction: it goes through its gates and, once they let the dispatch
through, does its work. -/
def outcome (command : Command σ) (context : Context) (inputs : Inputs) (services : σ) :
    Logged Result := do
  match ← gate command context inputs services with
  | .error refusal => return refusal
  | .ok arguments => work command context arguments services

/-- All events of a dispatch, those after the caller got its result included. -/
def Execution.events (e : Execution) : List Event := e.trace ++ e.detached

/-- The gates let a dispatch through: the command accepts the interaction, its arguments can be bound and
its checks pass. -/
def LetThrough (command : Command σ) (context : Context) (inputs : Inputs) (services : σ) : Prop :=
  command.kind.accepts context.interaction.payload = true ∧
    ∃ arguments, bindArguments command.toCommandSpec context.interaction inputs = .ok arguments ∧
      (checkPreconditions command context arguments services).value = .ok ()

/-- The run mode that a command declares or, if it declares none, the given one. -/
def CommandSpec.runModeOr (command : CommandSpec σ) (mode : RunMode) : RunMode :=
  command.runMode.getD mode

section Execute

variable {mode : RunMode} {raiseFaults : Bool} {command : Command σ} {context : Context}
  {inputs : Inputs} {services : σ}

theorem letThrough_iff_gate :
    LetThrough command context inputs services ↔
      ∃ arguments, (gate command context inputs services).value = .ok arguments := by
  simp only [LetThrough, gate_eq_ok_iff, exists_and_left]

theorem value_outcome_of_gate_error {refusal : Result}
    (h : (gate command context inputs services).value = .error refusal) :
    (outcome command context inputs services).value = refusal := by
  rw [outcome, Traced.value_bind, h]
  rfl

/-- A refused dispatch leaves the events of the gates. -/
theorem trace_outcome_of_gate_error {refusal : Result}
    (h : (gate command context inputs services).value = .error refusal) :
    (outcome command context inputs services).trace =
      (gate command context inputs services).trace := by
  rw [outcome, Traced.trace_bind, h]
  exact List.append_nil _

/-- A dispatch that is let through ends with the result of the work. -/
theorem value_outcome_of_gate_ok {arguments : Arguments}
    (h : (gate command context inputs services).value = .ok arguments) :
    (outcome command context inputs services).value =
      (work command context arguments services).value := by
  rw [outcome, Traced.value_bind, h]

/-- A dispatch that is let through leaves the events of the gates and those of the work. -/
theorem trace_outcome_of_gate_ok {arguments : Arguments}
    (h : (gate command context inputs services).value = .ok arguments) :
    (outcome command context inputs services).trace =
      (gate command context inputs services).trace ++
        (work command context arguments services).trace := by
  rw [outcome, Traced.trace_bind, h]

/-- **The events of a dispatch**, before and after its caller goes on, are those of what the command does. -/
theorem execute_events (mode : RunMode) (raiseFaults : Bool) (command : Command σ) (context : Context)
    (inputs : Inputs) (services : σ) :
    (execute mode raiseFaults command context inputs services).events =
      (outcome command context inputs services).trace := by
  rw [execute_eq_gate]
  cases hgate : (gate command context inputs services).value with
  | error refusal =>
    rw [trace_outcome_of_gate_error hgate]
    exact List.append_nil _
  | ok arguments =>
    rw [trace_outcome_of_gate_ok hgate]
    cases hmode : command.runMode.getD mode with
    | inline => exact List.append_nil _
    | detached => rfl

/-- **The reported result** is that of what the command does. -/
theorem execute_reported (mode : RunMode) (raiseFaults : Bool) (command : Command σ)
    (context : Context) (inputs : Inputs) (services : σ) :
    (execute mode raiseFaults command context inputs services).reported =
      some (outcome command context inputs services).value := by
  rw [execute_eq_gate]
  cases hgate : (gate command context inputs services).value with
  | error refusal =>
    rw [value_outcome_of_gate_error hgate]
    rfl
  | ok arguments =>
    rw [value_outcome_of_gate_ok hgate]
    cases hmode : command.runMode.getD mode with
    | inline => rfl
    | detached => rfl

/-! ## What the caller gets

The run mode decides this and nothing else, and only for dispatches that are let through. -/

/-- A refused dispatch gives its caller the refusal. -/
theorem returned_of_not_letThrough (mode : RunMode) (raiseFaults : Bool)
    (h : ¬ LetThrough command context inputs services) :
    Refusal command context inputs (outcome command context inputs services).value ∧
      (execute mode raiseFaults command context inputs services).returned =
        .ok (outcome command context inputs services).value := by
  obtain ⟨refusal, hrefusal, hreturned, hreported⟩ :=
    execute_refused mode raiseFaults (mt letThrough_iff_gate.mpr h)
  -- the refusal is what is reported, so it is the outcome
  rw [execute_reported] at hreported
  cases hreported
  exact ⟨hrefusal, hreturned⟩

/-- A dispatch that has passed the gates gives its caller what the run mode says. -/
theorem returned_of_letThrough (mode : RunMode) (raiseFaults : Bool)
    (h : LetThrough command context inputs services) :
    (execute mode raiseFaults command context inputs services).returned =
      match command.runModeOr mode with
      | .inline => raised raiseFaults command.displayPath (outcome command context inputs services).value
      | .detached => .ok .success := by
  obtain ⟨arguments, hgate⟩ := letThrough_iff_gate.mp h
  rw [execute_eq_gate, hgate, value_outcome_of_gate_ok hgate, CommandSpec.runModeOr]
  cases hmode : command.runMode.getD mode with
  | inline => simp [launch]
  | detached => simp [launch]

end Execute

/-- A dispatch to a command is reported once, with the result of what the command does. -/
theorem Dispatcher.run_snd (d : Dispatcher σ) (command : Command σ) (context : Context)
    (inputs : Inputs) (services : σ) :
    (d.run command context inputs services).2 = { d with
      reports := d.reports.send {
        command := command
        context := context
        result := (outcome command context inputs services).value
        started := d.clock d.readings
        completed := d.clock (d.readings + 1) }
      readings := d.readings + 2 } := by
  unfold Dispatcher.run
  simp only [execute_reported]

/-! ## Two run modes of one command

A command declares its run mode among the data that checks and hooks are shown. If they take no notice of it,
everything up to the run mode itself is the same. -/

/-- The command with another declaration of its run mode. -/
def Command.inRunMode (command : Command σ) (declared : Option RunMode) : Command σ :=
  { command with runMode := declared }

/-- The checks and the hooks do for the command what they do for it with another declaration of its run
mode, which they are shown with the other data of the command. -/
structure Command.IgnoresRunMode (command : Command σ) (declared : Option RunMode)
    (context : Context) (services : σ) : Prop where
  checks : ∀ p ∈ command.modulePreconditions ++ command.preconditions,
    p.check context (command.inRunMode declared).toCommandSpec services =
      p.check context command.toCommandSpec services
  before : ∀ inst, (command.construct services).value.caught = .ok inst →
    inst.before context (command.inRunMode declared).toCommandSpec =
      inst.before context command.toCommandSpec
  after : ∀ inst, (command.construct services).value.caught = .ok inst → ∀ result,
    inst.after context (command.inRunMode declared).toCommandSpec result =
      inst.after context command.toCommandSpec result

/-- No code can tell a command from itself, so two dispatches that differ in the settings alone always
qualify. -/
theorem Command.ignoresRunMode_self (command : Command σ) (context : Context) (services : σ) :
    command.IgnoresRunMode command.runMode context services :=
  ⟨fun _ _ => rfl, fun _ _ => rfl, fun _ _ _ => rfl⟩

/-- The rest of a computation matters only at the value that it goes on with. -/
theorem Traced.bind_congr {ε α β : Type} {x : Traced ε α} {f g : α → Traced ε β}
    (h : f x.value = g x.value) : x >>= f = x >>= g := by
  show Traced.mk (f x.value).value (x.trace ++ (f x.value).trace) = _
  rw [h]
  rfl

section InRunMode

variable {command : Command σ} {declared : Option RunMode} {context : Context} {services : σ}

/-- A tier of checks depends on the command only as far as its checks do. -/
theorem checkTier_congr (tier : List (Precondition σ)) {spec spec' : CommandSpec σ}
    (h : ∀ p ∈ tier, p.check context spec services = p.check context spec' services) :
    checkTier tier spec context services = checkTier tier spec' context services := by
  unfold checkTier byLabel
  rw [List.map_map, List.map_map]
  refine congrArg checkLabels (List.map_congr_left fun label _ => ?_)
  refine congrArg (label, ·) (List.map_congr_left fun p hp => ?_)
  exact h p (List.mem_of_mem_filter hp)

/-- The checks give the same. -/
theorem checkPreconditions_inRunMode (h : command.IgnoresRunMode declared context services)
    (arguments : Arguments) :
    checkPreconditions (command.inRunMode declared) context arguments services =
      checkPreconditions command context arguments services := by
  have hmodules := checkTier_congr command.modulePreconditions
    (fun p hp => h.checks p (List.mem_append_left _ hp))
  have hown := checkTier_congr command.preconditions
    (fun p hp => h.checks p (List.mem_append_right _ hp))
  unfold checkPreconditions
  exact congrArg (andThen _) (congrArg₂ andThen hmodules hown)

theorem gate_inRunMode (h : command.IgnoresRunMode declared context services) (inputs : Inputs) :
    gate (command.inRunMode declared) context inputs services = gate command context inputs services := by
  unfold gate prepare
  simp only [checkPreconditions_inRunMode h]
  rfl

/-- The work is the same. -/
theorem work_inRunMode (h : command.IgnoresRunMode declared context services)
    (arguments : Arguments) :
    work (command.inRunMode declared) context arguments services =
      work command context arguments services := by
  unfold work
  refine Traced.bind_congr (Traced.bind_congr ?_)
  -- whatever the construction gives, the hooks of this module are the ones that `h` speaks of
  have hconstruct : (runHost ((command.inRunMode declared).construct services)).value =
      (runHost (command.construct services)).value := rfl
  rw [hconstruct]
  cases hconstructed : (runHost (command.construct services)).value.caught with
  | error fault => rfl
  | ok inst =>
    simp only [h.before inst hconstructed, h.after inst hconstructed]
    rfl

/-- All that the command does is the same. -/
theorem outcome_inRunMode (h : command.IgnoresRunMode declared context services) (inputs : Inputs) :
    outcome (command.inRunMode declared) context inputs services =
      outcome command context inputs services := by
  unfold outcome
  rw [gate_inRunMode h]
  refine Traced.bind_congr ?_
  cases (gate command context inputs services).value with
  | error refusal => rfl
  | ok arguments => exact work_inRunMode h arguments

theorem letThrough_inRunMode_iff (h : command.IgnoresRunMode declared context services)
    {inputs : Inputs} :
    LetThrough (command.inRunMode declared) context inputs services ↔
      LetThrough command context inputs services := by
  rw [letThrough_iff_gate, letThrough_iff_gate, gate_inRunMode h]

end InRunMode

/-- **Run modes differ in what the caller sees and in nothing else.** Take a dispatch in which a command
runs inline and one in which it runs detached, because the settings differ or because it declares another
run mode, of which the code of the host takes no notice. Both leave the same events, notes of the checks
included, and report the same result. If the gates refuse the dispatch, both give their caller the same
refusal. Otherwise the inline one gives the reported result or raises its fault, and the detached one gives
a success. -/
theorem run_modes_agree {command : Command σ} {declared : Option RunMode} {context : Context}
    {services : σ} (hhost : command.IgnoresRunMode declared context services) (d d' : Dispatcher σ)
    (hinline : command.runModeOr d.settings.runMode = .inline)
    (hdetached : (command.inRunMode declared).runModeOr d'.settings.runMode = .detached)
    (inputs : Inputs) :
    (d.run command context inputs services).1.events =
      (d'.run (command.inRunMode declared) context inputs services).1.events ∧
    ∃ result,
      (d.run command context inputs services).2.reports = d.reports.send {
        command := command
        context := context
        result := result
        started := d.clock d.readings
        completed := d.clock (d.readings + 1) } ∧
      (d'.run (command.inRunMode declared) context inputs services).2.reports = d'.reports.send {
        command := command.inRunMode declared
        context := context
        result := result
        started := d'.clock d'.readings
        completed := d'.clock (d'.readings + 1) } ∧
      (¬ LetThrough command context inputs services →
        Refusal command context inputs result ∧
        (d.run command context inputs services).1.returned = .ok result ∧
        (d'.run (command.inRunMode declared) context inputs services).1.returned = .ok result) ∧
      (LetThrough command context inputs services →
        (d.run command context inputs services).1.returned =
          raised d.settings.raiseFaults command.displayPath result ∧
        (d'.run (command.inRunMode declared) context inputs services).1.returned = .ok .success) := by
  have houtcome := outcome_inRunMode hhost inputs
  simp only [Dispatcher.run_fst, Dispatcher.run_snd]
  refine ⟨?_, (outcome command context inputs services).value, rfl, ?_, ?_, ?_⟩
  · rw [execute_events, execute_events, houtcome]
  · rw [houtcome]
  · -- refused: neither run mode comes to bear
    intro hrefused
    have hrefused' := mt (letThrough_inRunMode_iff hhost).mp hrefused
    obtain ⟨hrefusal, hreturned⟩ :=
      returned_of_not_letThrough d.settings.runMode d.settings.raiseFaults hrefused
    obtain ⟨_, hreturned'⟩ :=
      returned_of_not_letThrough d'.settings.runMode d'.settings.raiseFaults hrefused'
    rw [houtcome] at hreturned'
    exact ⟨hrefusal, hreturned, hreturned'⟩
  · -- let through: one caller waits and the other one does not
    intro hthrough
    have hthrough' := (letThrough_inRunMode_iff hhost).mpr hthrough
    rw [returned_of_letThrough _ _ hthrough, returned_of_letThrough _ _ hthrough', hinline, hdetached]
    exact ⟨rfl, rfl⟩

namespace Sample

/-- An inline command whose handler faults. -/
def broken : Command Unit :=
  { purge with
    runMode := some .inline
    parameters := []
    handler := fun _ _ => pure (.faulted (.ofMessage "database offline")) }

/-- The checks on the way to the command look at its name at most, and the hooks do nothing. -/
theorem ignoresRunMode_broken (declared : Option RunMode) (context : Context) :
    broken.IgnoresRunMode declared context () where
  checks := by
    show ∀ p ∈ [Precondition.require .guild, staff 1, staff 2], _
    simp only [List.forall_mem_cons, List.not_mem_nil, false_implies, implies_true, and_true]
    exact ⟨rfl, rfl, rfl⟩
  before inst hinst := by
    cases hinst
    rfl
  after inst hinst result := by
    cases hinst
    rfl

end Sample

/-- The handler faults in all three dispatches: one that declares to be inline, one that is detached by the
settings and one that is inline by the settings. Their events are the same; the first raises the fault and
the second gives a success. -/
theorem run_modes_agree_broken :
    Sample.broken.IgnoresRunMode none (Sample.press 2 (some ⟨9⟩)) () ∧
    Sample.broken.runModeOr .detached = .inline ∧
    (Sample.broken.inRunMode none).runModeOr .detached = .detached ∧
    LetThrough Sample.broken (Sample.press 2 (some ⟨9⟩)) ⟨[], []⟩ () ∧
    ((Dispatcher.new {} id).run Sample.broken (Sample.press 2 (some ⟨9⟩)) ⟨[], []⟩ ()).1.returned =
      .error ⟨"purge", .ofMessage "database offline"⟩ ∧
    ((Dispatcher.new {} id).run (Sample.broken.inRunMode none) (Sample.press 2 (some ⟨9⟩)) ⟨[], []⟩
      ()).1.returned = .ok .success ∧
    ((Dispatcher.new {} id).run Sample.broken (Sample.press 2 (some ⟨9⟩)) ⟨[], []⟩ ()).1.events =
      ((Dispatcher.new {} id).run (Sample.broken.inRunMode none) (Sample.press 2 (some ⟨9⟩)) ⟨[], []⟩
        ()).1.events ∧
    ((Dispatcher.new .inline id).run (Sample.broken.inRunMode none) (Sample.press 2 (some ⟨9⟩)) ⟨[], []⟩
      ()).1.events =
      ((Dispatcher.new {} id).run (Sample.broken.inRunMode none) (Sample.press 2 (some ⟨9⟩)) ⟨[], []⟩
        ()).1.events := by
  have hhost := Sample.ignoresRunMode_broken none (Sample.press 2 (some ⟨9⟩))
  have hthrough : LetThrough Sample.broken (Sample.press 2 (some ⟨9⟩)) ⟨[], []⟩ () :=
    ⟨rfl, ⟨[]⟩, rfl, rfl⟩
  -- once with the run mode of the command, and once with that of the settings
  obtain ⟨hdeclared, _, _, _, _, hreturned⟩ := run_modes_agree hhost
    (Dispatcher.new {} id) (Dispatcher.new {} id) rfl rfl ⟨[], []⟩
  obtain ⟨_, hdetached⟩ := hreturned hthrough
  obtain ⟨hsettings, _⟩ := run_modes_agree
    ((Sample.broken.inRunMode none).ignoresRunMode_self (Sample.press 2 (some ⟨9⟩)) ())
    (Dispatcher.new .inline id) (Dispatcher.new {} id) rfl rfl ⟨[], []⟩
  exact ⟨hhost, rfl, rfl, hthrough, rfl, hdetached, hdeclared, hsettings⟩

end ChatDispatch
