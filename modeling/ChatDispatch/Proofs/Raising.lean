import ChatDispatch.Proofs.Reporting
import ChatDispatch.Proofs.Suggestions

/-!
# Raised faults

A fault comes up in the work of a command or in a suggester that is asked. It is raised to a caller that waits
for what the fault interrupts, if faults are raised at all. The work of a command is waited for when the
command is inline, a suggester always.

* **`Dispatcher.Faults`** — a fault that comes up while a request is handled.
* **`letThrough_of_fault?`** — gates refuse, they do not fault.
* **`Dispatcher.returned_of_faults`** — what the caller gets for a fault.
* **`Dispatcher.exists_faults_of_error`** — nothing else is raised.
* **`Dispatcher.raises_iff`** — the headline.
-/

namespace ChatDispatch

variable {σ : Type}

/-! ## Where faults come up

There are two places for faults. Gates are not among them, although they run the checks of a program. -/

/-- What a fault interrupts. -/
inductive FaultSite where
  /-- The work of a command. -/
  | work
  /-- The suggester of a parameter. -/
  | suggester

/-- Whether callers wait for it, where `mode` is the run mode of the command. -/
def FaultSite.awaited (mode : RunMode) : FaultSite → Bool
  | work => mode = .inline
  | suggester => true

/-- A fault comes up while a request is handled, in what a command does or in the suggester of one of its
parameters. -/
inductive Dispatcher.Faults (d : Dispatcher σ) (request : Request σ) :
    FaultSite → Command σ → Fault → Prop where
  | work {command : Command σ} {inputs : Inputs} {fault : Fault}
      (hreached : d.reached? request = some (command, inputs))
      (hfault : (outcome command request.context inputs request.services).value.fault? = some fault) :
      d.Faults request .work command fault
  | suggester {data : CompletionRequest} {command : Command σ} {parameter : Parameter σ}
      {suggester : Suggester σ} {focused : NamedValue} {fault : Fault}
      (hknown : request.command = none)
      (hroute : d.route request.context.interaction.payload = .suggester data)
      (htarget : d.suggestionTarget? (optionPath data.name data.options) =
        some (command, parameter, suggester, focused))
      (hfault : (askSuggester request.context
        ⟨parameter.name, focused.value, (optionPath data.name data.options).values⟩ suggester
        request.services).value = .error fault) :
      d.Faults request .suggester command fault

/-- Gates refuse, they do not fault: with a fault, the dispatch has been let through. -/
theorem letThrough_of_fault? {command : Command σ} {context : Context} {inputs : Inputs} {services : σ}
    {fault : Fault} (h : (outcome command context inputs services).value.fault? = some fault) :
    LetThrough command context inputs services := by
  by_contra hrefused
  -- which refusal it is does not depend on the settings
  obtain ⟨hrefusal, _⟩ := returned_of_not_letThrough .inline false hrefused
  rw [hrefusal.fault?_eq_none] at h
  cases h

namespace Dispatcher

variable {d : Dispatcher σ} {request : Request σ} {site : FaultSite} {command : Command σ} {fault : Fault}

/-! ## What the caller gets

A fault is put into words in one way, wherever it comes up; what differs is whether the caller waits for it. -/

/-- What the caller is told of a fault. -/
def tellFault (d : Dispatcher σ) (site : FaultSite) (command : Command σ) (fault : Fault) :
    Except DispatchFault Result :=
  if site.awaited (command.runModeOr d.settings.runMode) then
    if d.settings.raiseFaults then .error ⟨command.displayPath, fault⟩ else .ok (.ofFault fault)
  else .ok .success

/-- A result with a fault in it is raised or handed over, as is asked. -/
theorem raised_of_fault? {raiseFaults : Bool} {path : String} {r : Result}
    (h : r.fault? = some fault) :
    raised raiseFaults path r = if raiseFaults then .error ⟨path, fault⟩ else .ok (.ofFault fault) := by
  cases r with
  | success => cases h
  | failure kind reason nested => cases h
  | ofFault behind =>
    cases h
    rfl

/-- What the caller is told of suggestions for a parameter of a command. -/
def tellSuggested (d : Dispatcher σ) (command : Command σ) :
    Except Fault Unit → Except DispatchFault Result
  | .ok _ => .ok .success
  | .error fault => d.tellFault .suggester command fault

/-- Where a suggester is asked, the caller is told what it answers, or that it failed. -/
theorem returned_suggest_of_target {context : Context} {data : CompletionRequest} {services : σ}
    {parameter : Parameter σ} {suggester : Suggester σ} {focused : NamedValue}
    (htarget : d.suggestionTarget? (optionPath data.name data.options) =
      some (command, parameter, suggester, focused)) :
    (d.suggest context data services).returned =
      d.tellSuggested command (askSuggester context
        ⟨parameter.name, focused.value, (optionPath data.name data.options).values⟩ suggester
        services).value := by
  rw [suggest, htarget]
  simp only [withoutCommand, Traced.value_bind]
  cases (askSuggester context
      ⟨parameter.name, focused.value, (optionPath data.name data.options).values⟩ suggester
      services).value with
  | ok _ => rfl
  | error fault => rfl

/-- **What the caller gets for a fault** depends on where it comes up, and on the settings. -/
theorem returned_of_faults (h : d.Faults request site command fault) :
    (d.serve request).1.returned = d.tellFault site command fault := by
  cases h with
  | work hreached hfault =>
    rw [serve_of_reached hreached, run_fst, returned_of_letThrough _ _ (letThrough_of_fault? hfault)]
    cases hmode : command.runModeOr d.settings.runMode with
    | inline =>
      rw [tellFault, hmode]
      exact raised_of_fault? hfault
    | detached =>
      rw [tellFault, hmode]
      rfl
  | suggester hknown hroute htarget hfault =>
    rw [serve_of_suggester hknown hroute, returned_suggest_of_target htarget, hfault]
    rfl

/-- A fault is raised when faults are raised at all and the caller waits for what it interrupts. It names the
command. -/
theorem tellFault_eq_error_iff {f : DispatchFault} :
    d.tellFault site command fault = .error f ↔
      d.settings.raiseFaults = true ∧ site.awaited (command.runModeOr d.settings.runMode) = true ∧
        f.command = command.displayPath ∧ f.fault = fault := by
  obtain ⟨path, behind⟩ := f
  unfold tellFault
  cases d.settings.raiseFaults with
  | false => split <;> simp
  | true =>
    split
    · next hawaited => simp [hawaited, eq_comm]
    · next hawaited => simp [hawaited]

/-- What is not raised comes back as a result, that of the fault for a caller that waits. -/
theorem tellFault_of_not_raised
    (h : ¬ (d.settings.raiseFaults = true ∧
      site.awaited (command.runModeOr d.settings.runMode) = true)) :
    d.tellFault site command fault =
      .ok (if site.awaited (command.runModeOr d.settings.runMode) then .ofFault fault
        else .success) := by
  unfold tellFault
  split
  · next hawaited =>
    rw [if_neg fun hraise => h ⟨hraise, hawaited⟩]
  · rfl

/-- An error for a request for suggestions comes from a suggester. -/
theorem exists_target_of_suggest_error {context : Context} {data : CompletionRequest} {services : σ}
    {f : DispatchFault} (h : (d.suggest context data services).returned = .error f) :
    ∃ command parameter suggester focused,
      d.suggestionTarget? (optionPath data.name data.options) =
        some (command, parameter, suggester, focused) ∧
      (askSuggester context
        ⟨parameter.name, focused.value, (optionPath data.name data.options).values⟩ suggester
        services).value = .error f.fault := by
  cases htarget : d.suggestionTarget? (optionPath data.name data.options) with
  | none =>
    rw [suggest, htarget] at h
    cases h
  | some target =>
    obtain ⟨command, parameter, suggester, focused⟩ := target
    rw [returned_suggest_of_target htarget] at h
    refine ⟨command, parameter, suggester, focused, rfl, ?_⟩
    cases hasked : (askSuggester context
        ⟨parameter.name, focused.value, (optionPath data.name data.options).values⟩ suggester
        services).value with
    | ok _ =>
      rw [hasked] at h
      cases h
    | error fault =>
      rw [hasked] at h
      obtain ⟨_, _, _, rfl⟩ := tellFault_eq_error_iff.mp h
      rfl

/-- Whatever is raised is a fault that came up. -/
theorem exists_faults_of_error {f : DispatchFault} (h : (d.serve request).1.returned = .error f) :
    ∃ site command, d.Faults request site command f.fault := by
  cases hreached : d.reached? request with
  | some reached =>
    obtain ⟨command, inputs⟩ := reached
    obtain ⟨report, _, hreport⟩ := exists_truthful hreached
    obtain ⟨_, hfault, _⟩ := hreport.raised f h
    rw [hreport.result] at hfault
    exact ⟨.work, report.command, .work hreport.reached hfault⟩
  | none =>
    obtain ⟨hknown, ⟨data, hroute⟩ | ⟨path, cleanup, hroute⟩⟩ := reached?_eq_none_iff.mp hreached
    · rw [serve_of_suggester hknown hroute] at h
      obtain ⟨command, parameter, suggester, focused, htarget, hasked⟩ :=
        exists_target_of_suggest_error h
      exact ⟨.suggester, command, .suggester hknown hroute htarget hasked⟩
    · rw [serve_of_unknown hknown hroute] at h
      cases h

end Dispatcher

/-- **Faults are raised to callers that wait.** Take any dispatcher and any request. The caller gets an error
exactly if faults are raised and one came up in the work of an inline command or in a suggester, under the
path of the command and with this fault. Of a fault that is not raised the caller gets the result or, if it
did not wait, a success.

The run mode of the command does not matter to its suggesters. -/
theorem Dispatcher.raises_iff (d : Dispatcher σ) (request : Request σ) :
    (∀ f : DispatchFault, (d.serve request).1.returned = .error f ↔
      d.settings.raiseFaults = true ∧ ∃ site command, d.Faults request site command f.fault ∧
        site.awaited (command.runModeOr d.settings.runMode) = true ∧ f.command = command.displayPath) ∧
    (∀ site command fault, d.Faults request site command fault →
      ¬ (d.settings.raiseFaults = true ∧ site.awaited (command.runModeOr d.settings.runMode) = true) →
      (d.serve request).1.returned =
        .ok (if site.awaited (command.runModeOr d.settings.runMode) then .ofFault fault
          else .success)) := by
  constructor
  · intro f
    constructor
    · intro h
      obtain ⟨site, command, hfaults⟩ := exists_faults_of_error h
      rw [returned_of_faults hfaults, tellFault_eq_error_iff] at h
      obtain ⟨hraise, hawaited, hcommand, _⟩ := h
      exact ⟨hraise, site, command, hfaults, hawaited, hcommand⟩
    · rintro ⟨hraise, site, command, hfaults, hawaited, hcommand⟩
      rw [returned_of_faults hfaults, tellFault_eq_error_iff]
      exact ⟨hraise, hawaited, hcommand, rfl⟩
  · intro site command fault hfaults hnot
    rw [returned_of_faults hfaults, tellFault_of_not_raised hnot]

namespace Sample

/-- The songs cannot be looked up. -/
def offline : Suggester Unit := ⟨fun _ _ _ => pure (.faulted (.ofMessage "catalog offline"))⟩

def kiosk : ModuleDecl Unit :=
  ⟨"host::Kiosk", "Kiosk", none, true, [],
    [{ play with parameters := [{ song with suggester := some offline }] }], [],
    construct "host::Kiosk"⟩

/-- Commands are detached, and faults are raised. -/
def vended : Dispatcher Unit := ((Dispatcher.new {} id).change (.load [kiosk])).2

theorem reachable_vended : Reachable vended := (Reachable.new {} id).change _

theorem exists_song_vended : ∃ c ∈ vended.slashCommands, c.path = ["play"] ∧ c.runMode = none ∧
    ∃ p ∈ c.parameters, p.name = "song" ∧ p.suggester = some offline :=
  ⟨_, List.mem_cons_self, rfl, rfl, _, List.mem_cons_self, rfl, rfl⟩

/-- The song is being typed. -/
def lookUp : Request Unit where
  command := none
  context := ⟨⟨⟨1⟩, ⟨⟨2⟩, "ada"⟩, none, none, .autocomplete (completionAlong ["play"] [typing])⟩, none⟩
  services := ()

end Sample

/-- **A command need not be inline for a fault to be raised**: one that is detached has a suggester that
faults. -/
theorem exists_raised_though_detached :
    Reachable Sample.vended ∧ ∃ command f,
      (Sample.vended.serve Sample.lookUp).1.returned = .error f ∧
      Sample.vended.Faults Sample.lookUp .suggester command f.fault ∧
      f.command = command.displayPath ∧
      command.runModeOr Sample.vended.settings.runMode = .detached := by
  obtain ⟨c, hc, hpath, hmode, p, hp, hname, hsuggester⟩ := Sample.exists_song_vended
  have hfocused : [Sample.typing].find? (·.focused) = some Sample.typing := rfl
  -- no command for suggestions fits, so the suggester of the parameter is asked
  have hnone : Sample.vended.catalog.routers.autocomplete.find? (c.path ++ [Sample.typing.name]) =
      none := by
    rw [hpath, ← Option.isNone_iff_eq_none]
    decide +kernel
  have hroute := Dispatcher.route_completionAlong_of_none rfl hfocused hnone
  have htarget := Sample.reachable_vended.suggestionTarget?_eq hc hp hfocused hname.symm
  rw [hsuggester, ← optionPath_completionAlong] at htarget
  rw [hpath] at hroute htarget
  have hfaults : Sample.vended.Faults Sample.lookUp .suggester c (.ofMessage "catalog offline") :=
    .suggester rfl hroute htarget rfl
  -- a suggester is waited for, whatever the run mode is
  refine ⟨Sample.reachable_vended, c, ⟨c.displayPath, _⟩, ?_, hfaults, rfl, ?_⟩
  · exact Dispatcher.returned_of_faults hfaults
  · rw [CommandSpec.runModeOr, hmode]
    rfl

end ChatDispatch
