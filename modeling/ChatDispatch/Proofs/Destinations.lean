import ChatDispatch.Proofs.Admission
import ChatDispatch.Proofs.Registration

/-!
# Destinations

Where an interaction goes is decided twice: the payload picks a router, and the command that is reached
checks the payload once more against its own kind. The two tables agree on everything that is routed.

* **`CommandKind.accepts_iff`** — a payload is accepted by commands of one kind and no others.
* **`Dispatcher.route_eq_command_iff`** — the router that a payload picks is that for this very kind.
* **`execute_refusedByKind_iff`** — a command refuses an interaction for its kind only if it does not accept
  the payload.
* **`Reachable.dispatch_not_refusedByKind`** — the headline: no routed interaction is refused for its kind.
-/

namespace ChatDispatch

variable {σ : Type}

/-! ## Payloads and kinds of commands

Routing and acceptance each have a table from payloads to kinds. The two tables agree. -/

/-- The kind of the commands that a payload is meant for. -/
def Payload.commandKind : Payload → CommandKind
  | .command data =>
    match data.kind with
    | .chatInput => .slash
    | .user => .context .user
    | .message => .context .message
  | .component _ => .component
  | .autocomplete _ => .autocomplete
  | .modal _ => .modal

/-- A command accepts the payloads that are meant for its kind. -/
theorem CommandKind.accepts_iff {kind : CommandKind} {payload : Payload} :
    kind.accepts payload = true ↔ kind = payload.commandKind := by
  -- both sides are read off the same two tables, row by row
  rcases payload with ⟨_, _ | _ | _, _, _⟩ | _ | _ | _ <;> rcases kind with _ | (_ | _) | _ | _ | _ <;>
    simp [accepts, Payload.commandKind]

namespace Dispatcher

variable {d : Dispatcher σ}

/-- The tokens by which an interaction is looked up. -/
def routingTokens (d : Dispatcher σ) : Payload → List String
  | .command data =>
    match data.kind with
    | .chatInput => (optionPath data.name data.options).tokens
    | .user | .message => [data.name]
  | .component data => d.catalog.routers.component.tokenize data.customId
  | .autocomplete request => completionTokens request
  | .modal data => d.catalog.routers.modal.tokenize data.customId

/-- A look-up leads to a command when it finds one. -/
theorem Destination.ofLookup_eq_command_iff {found : Option (Command σ × List String)} {path : String}
    {cleanup : Bool} {c : Command σ} {captures : List String} :
    Destination.ofLookup found path cleanup = .command c captures ↔ found = some (c, captures) := by
  cases found with
  | none => exact iff_of_false nofun nofun
  | some found =>
    obtain ⟨other, others⟩ := found
    rw [Destination.ofLookup, Destination.command.injEq, Option.some.injEq, Prod.mk.injEq]

/-- **The router that a payload picks** is the one for the commands that the payload is meant for. -/
theorem route_eq_command_iff {payload : Payload} {c : Command σ} {captures : List String} :
    d.route payload = .command c captures ↔
      (d.catalog.routers.ofKind payload.commandKind).find? (d.routingTokens payload) =
        some (c, captures) := by
  cases payload with
  | command data =>
    obtain ⟨name, invoked, options, target⟩ := data
    cases invoked with
    | chatInput => exact Destination.ofLookup_eq_command_iff
    | user => exact Destination.ofLookup_eq_command_iff
    | message => exact Destination.ofLookup_eq_command_iff
  | component data => exact Destination.ofLookup_eq_command_iff
  | modal data => exact Destination.ofLookup_eq_command_iff
  | autocomplete request =>
    show _ ↔ d.catalog.routers.autocomplete.find? (completionTokens request) = _
    rw [route]
    cases d.catalog.routers.autocomplete.find? (completionTokens request) with
    | some found =>
      obtain ⟨other, others⟩ := found
      simp only [Destination.command.injEq, Option.some.injEq, Prod.mk.injEq]
    | none =>
      -- a suggester or nothing at all, but no command
      refine iff_of_false ?_ nofun
      dsimp only
      split
      · nofun
      · nofun

end Dispatcher

/-! ## Refusals for the kind

A refusal for the kind is told by the report and by the absence of work, as a handler may give the same result of
its own. -/

/-- The dispatch was refused because the command cannot handle interactions of this kind: it is reported
as such, and no work was done. A handler that gives such a result of its own has been put to work. -/
def Execution.RefusedByKind (e : Execution) : Prop :=
  (∃ r, e.reported = some r ∧ r.kind? = some .parseFailed) ∧
    ∀ event ∈ e.trace ++ e.detached, event.isWork = false

/-- A dispatch is refused for the kind exactly when the command does not accept the interaction. -/
theorem execute_refusedByKind_iff (mode : RunMode) (raiseFaults : Bool) (command : Command σ)
    (context : Context) (inputs : Inputs) (services : σ) :
    (execute mode raiseFaults command context inputs services).RefusedByKind ↔
      command.kind.accepts context.interaction.payload = false := by
  have hnotes := onlyNotes_gate command context inputs services
  rw [execute_eq_gate]
  cases hgate : (gate command context inputs services).value with
  | ok arguments =>
    -- past the gates the module is constructed
    have haccepts := (gate_eq_ok_iff.mp hgate).1
    rw [haccepts]
    refine iff_of_false ?_ (by decide)
    intro hrefused
    have hwork : Event.construct.isWork = false :=
      hrefused.2 _ (mem_launch_iff.mpr (.inr (construct_mem_work _ _ _ _)))
    cases hwork
  | error result =>
    have hrejected : (Execution.rejection result (gate command context inputs services).trace).RefusedByKind ↔
        result.kind? = some .parseFailed := by
      constructor
      · intro hrefused
        obtain ⟨r, hr, hparse⟩ := hrefused.1
        cases hr
        exact hparse
      · intro hparse
        refine ⟨⟨result, rfl, hparse⟩, ?_⟩
        intro event hevent
        rw [Execution.rejection, List.append_nil] at hevent
        exact hnotes.isWork_eq_false hevent
    -- each gate refuses with a result of its own kind
    show (Execution.rejection result _).RefusedByKind ↔ _
    rw [hrejected]
    cases refusal_of_gate_error hgate with
    | wrongKind haccepts hkind => exact iff_of_true hkind haccepts
    | unbound haccepts _ hkind =>
      rw [hkind, haccepts]
      exact iff_of_false (by decide) (by decide)
    | unmet haccepts _ hkind =>
      rw [hkind, haccepts]
      exact iff_of_false (by decide) (by decide)

namespace Dispatcher

variable {d : Dispatcher σ}

/-- What is routed is routed to a command of the kind that the payload is meant for. -/
theorem Intact.kind_of_route (h : d.Intact) {payload : Payload} {c : Command σ}
    {captures : List String} (hroute : d.route payload = .command c captures) :
    c.kind = payload.commandKind :=
  (h.loaded_of_find? (route_eq_command_iff.mp hroute)).2

/-- What is done without a command is not reported, and so not refused for the kind. -/
theorem not_refusedByKind_withoutCommand (done : Logged (Except DispatchFault Result)) :
    ¬ (withoutCommand done).RefusedByKind := by
  intro hrefused
  obtain ⟨r, hr, _⟩ := hrefused.1
  cases hr

/-- No interaction that is routed is refused for the kind. -/
theorem Intact.not_refusedByKind_dispatch (h : d.Intact) (context : Context) (services : σ) :
    ¬ (d.dispatch context services).1.RefusedByKind := by
  rw [dispatch]
  cases hroute : d.route context.interaction.payload with
  | command c captures =>
    have haccepts : c.kind.accepts context.interaction.payload = true :=
      CommandKind.accepts_iff.mpr (h.kind_of_route hroute)
    show ¬ (d.run c context _ services).1.RefusedByKind
    rw [d.run_fst, execute_refusedByKind_iff, haccepts]
    decide
  | suggester request => exact not_refusedByKind_withoutCommand _
  | unknown path cleanup => exact not_refusedByKind_withoutCommand _

/-- An interaction that is handed to a command is refused for the kind exactly when the command does not accept
it. -/
theorem dispatchTo_refusedByKind_iff (d : Dispatcher σ) (c : Command σ) (context : Context)
    (services : σ) :
    (d.dispatchTo c context services).1.RefusedByKind ↔
      c.kind.accepts context.interaction.payload = false := by
  rw [dispatchTo, d.run_fst]
  exact execute_refusedByKind_iff _ _ _ _ _ _

end Dispatcher

/-- **Routed interactions are of the right kind.** Take any dispatcher that loads and unloads lead to and
any interaction. Whatever command it is routed to accepts it, so handling the interaction never ends with
a refusal for its kind. Only when it is handed to a known command can it end so, and it does exactly when
this command does not accept it. -/
theorem Reachable.dispatch_not_refusedByKind {d : Dispatcher σ} (h : Reachable d) (context : Context)
    (services : σ) :
    (∀ c captures, d.route context.interaction.payload = .command c captures →
      c.kind.accepts context.interaction.payload = true) ∧
    ¬ (d.dispatch context services).1.RefusedByKind ∧
    ∀ c, (d.dispatchTo c context services).1.RefusedByKind ↔
      c.kind.accepts context.interaction.payload = false := by
  refine ⟨?_, h.intact.not_refusedByKind_dispatch context services, ?_⟩
  · intro c captures hroute
    exact CommandKind.accepts_iff.mpr (h.intact.kind_of_route hroute)
  · intro c
    exact d.dispatchTo_refusedByKind_iff c context services

namespace Sample

/-- A user types a command into the chat. -/
def typed (name : String) : Context :=
  ⟨⟨⟨1⟩, ⟨⟨1⟩, "ada"⟩, none, none, .command ⟨name, .chatInput, [], none⟩⟩, none⟩

end Sample

/-- A button leads to its command, which accepts it. The same command refuses what is typed into the chat,
but only when it is handed over to it. -/
theorem dispatch_not_refusedByKind_purge :
    Reachable Sample.moderated ∧
    (∃ captures, Sample.moderated.route (Sample.press 1 none).interaction.payload =
      .command Sample.purge captures) ∧
    Sample.purge.kind.accepts (Sample.press 1 none).interaction.payload = true ∧
    ¬ (Sample.moderated.dispatch (Sample.press 1 none) ()).1.RefusedByKind ∧
    ¬ (Sample.moderated.dispatch (Sample.typed "purge") ()).1.RefusedByKind ∧
    (Sample.moderated.dispatchTo Sample.purge (Sample.typed "purge") ()).1.RefusedByKind := by
  have hroute : Sample.moderated.route (Sample.press 1 none).interaction.payload =
      .command Sample.purge [] := rfl
  obtain ⟨haccepts, hpressed, _⟩ :=
    Reachable.dispatch_not_refusedByKind Sample.reachable_moderated (Sample.press 1 none) ()
  obtain ⟨_, htyped, hhanded⟩ :=
    Reachable.dispatch_not_refusedByKind Sample.reachable_moderated (Sample.typed "purge") ()
  exact ⟨Sample.reachable_moderated, ⟨[], hroute⟩, haccepts _ _ hroute, hpressed, htyped,
    (hhanded Sample.purge).mpr rfl⟩

end ChatDispatch
