import ChatDispatch.Proofs.Destinations
import ChatDispatch.Proofs.Lifecycle
import ChatDispatch.Proofs.RunModes
import ChatDispatch.Proofs.Suggestions

/-!
# Calls to the transport

The transport that answers an interaction is left to the code of the host, but for two calls that the library makes
itself: it takes the acknowledgement back of what nothing fits, and it hands suggestions over. Both are seen by
users, so what matters is when each is made, that it is made once, and that no other is.

* **`Traced.calls`**, **`Execution.calls`** — the calls in a computation and in a whole dispatch.
* **`calls_outcome`** — what a command does holds none.
* **`Dispatcher.TakesBack`**, **`Dispatcher.Suggests`** — when the two calls are due, said without any order.
* **`Dispatcher.TakesBack.calls_eq`**, **`Reachable.calls_of_suggests`** — a call that is due is made.
* **`Dispatcher.due_of_calls`** — no other call is made.
* **`Reachable.calls_exact`** — the headline.
-/

namespace ChatDispatch

open Upload

variable {σ : Type}

/-! ## Calls in a computation

Calls are read off the trace, and a trace is put together as the computation is. Where there is no transport
nothing is called, but the program goes on as if it had been. -/

/-- The calls to the transport, in their order. -/
def Traced.calls {α : Type} (x : Logged α) : List ResponderCall := x.trace.filterMap Event.call?

/-- All calls of a dispatch, those after the caller got its result included. -/
def Execution.calls (e : Execution) : List ResponderCall := e.events.filterMap Event.call?

/-- The call, where there is a transport to be called. -/
def Context.callsOf (context : Context) (call : ResponderCall) : List ResponderCall :=
  context.responder.toList.map fun _ => call

theorem Context.callsOf_eq_singleton {context : Context} (h : context.responder ≠ none) (call : ResponderCall) :
    context.callsOf call = [call] := by
  obtain ⟨responder, hresponder⟩ := Option.ne_none_iff_exists'.mp h
  rw [callsOf, hresponder]
  rfl

theorem Context.responder_of_callsOf {context : Context} {call : ResponderCall} (h : context.callsOf call ≠ []) :
    context.responder ≠ none := by
  intro hnone
  rw [callsOf, hnone] at h
  exact h rfl

section Computations

variable {α β : Type}

/-- The calls of one computation come before those of the next. -/
theorem calls_bind (x : Logged α) (f : α → Logged β) : (x >>= f).calls = x.calls ++ (f x.value).calls :=
  List.filterMap_append

theorem OnlyNotes.calls_eq_nil {x : Logged α} (h : OnlyNotes x) : x.calls = [] := by
  refine List.filterMap_eq_nil_iff.mpr fun e he => ?_
  obtain ⟨text, rfl⟩ := h e he
  rfl

theorem calls_runHost (x : Noted α) : (runHost x).calls = [] := (onlyNotes_runHost x).calls_eq_nil

/-- Calling the transport is the one call, where there is a transport. -/
theorem calls_callResponder (context : Context) (call : ResponderCall) :
    (Dispatcher.callResponder context call).calls = context.callsOf call := by
  rw [Dispatcher.callResponder, Context.callsOf]
  cases context.responder with
  | none => rfl
  | some responder =>
    dsimp only
    rw [calls_bind, calls_runHost]
    rfl

end Computations

/-! ## Commands make no calls

The gates write notes, and the stages of the work are events of the work with notes between them. -/

theorem Event.call?_of_isWork {e : Event} (h : e.isWork = true) : e.call? = none := by
  cases e with
  | respond call => cases h
  | _ => rfl

section Commands

variable {command : Command σ} {context : Context} {arguments : Arguments} {inputs : Inputs} {services : σ}

/-- Each stage of a unit of work begins with an event of the work. -/
theorem Lives.isWork {stages : List Stage} {result : Result}
    (h : Lives command context arguments services stages result) : ∀ s ∈ stages, s.event.isWork = true := by
  cases h with
  | unborn hconstruct => exact List.forall_mem_singleton.mpr rfl
  | @born inst hconstruct body soFar result hbody hend =>
    -- the stages between construction and destruction
    have hown : ∀ s ∈ body, s.event.isWork = true := by
      cases hbody with
      | skipped hbefore => exact List.forall_mem_nil _
      | faulted hbefore hhandler => exact List.forall_mem_singleton.mpr rfl
      | returned hbefore hhandler hgives => exact List.forall_mem_singleton.mpr rfl
    simp only [List.cons_append, List.forall_mem_cons, List.forall_mem_append]
    exact ⟨rfl, rfl, hown, rfl, rfl, List.forall_mem_nil _⟩

/-- A unit of work makes no calls. -/
theorem calls_work : (work command context arguments services).calls = [] := by
  obtain ⟨stages, result, hlives⟩ := exists_lives command context arguments services
  rw [Traced.calls, hlives.work_eq]
  refine List.filterMap_eq_nil_iff.mpr fun e he => ?_
  -- every event belongs to a stage: it begins the stage or is a note in it
  obtain ⟨s, hs, he⟩ := List.mem_flatMap.mp he
  rcases List.mem_cons.mp he with rfl | he
  · exact Event.call?_of_isWork (hlives.isWork s hs)
  · obtain ⟨text, _, rfl⟩ := List.mem_map.mp he
    rfl

/-- **What a command does** holds no calls, whether it is let through or refused. -/
theorem calls_outcome : (outcome command context inputs services).calls = [] := by
  have hgate : (gate command context inputs services).calls = [] :=
    (onlyNotes_gate command context inputs services).calls_eq_nil
  rw [outcome, calls_bind, hgate, List.nil_append]
  -- refused there is nothing more, let through there is the work
  cases (gate command context inputs services).value with
  | error refusal => rfl
  | ok arguments => exact calls_work

end Commands

namespace Dispatcher

variable {d : Dispatcher σ}

theorem calls_run (d : Dispatcher σ) (command : Command σ) (context : Context) (inputs : Inputs) (services : σ) :
    (d.run command context inputs services).1.calls = [] := by
  rw [run_fst, Execution.calls, execute_events]
  exact calls_outcome

/-- A dispatch without a command makes the calls of what is done instead. -/
theorem calls_withoutCommand (done : Logged (Except DispatchFault Result)) :
    (withoutCommand done).calls = done.calls := by
  rw [Execution.calls, Execution.events, withoutCommand, List.append_nil]
  rfl

/-! ## What nothing fits

Destinations say where an interaction goes; the settings and the kind of the payload say whether the
acknowledgement is taken back there. -/

/-- The command that an interaction is routed to, with the captures. -/
def lookUp? (d : Dispatcher σ) (payload : Payload) : Option (Command σ × List String) :=
  (d.catalog.routers.ofKind payload.commandKind).find? (d.routingTokens payload)

end Dispatcher

/-- What an interaction looks for, in words. -/
def Payload.sought : Payload → String
  | .command data =>
    match data.kind with
    | .chatInput => Text.joinSpaces (optionPath data.name data.options).tokens
    | .user | .message => data.name
  | .component data => data.customId
  | .modal data => data.customId
  | .autocomplete request => Text.joinSpaces (Dispatcher.completionTokens request)

/-- Whether the acknowledgement of such an interaction is taken back when nothing fits it: there is a setting for
slash and menu commands and one for components and forms. -/
def Settings.takesBack (s : Settings) : Payload → Bool
  | .command _ => s.deleteUnknownCommand
  | .component _ | .modal _ => s.deleteUnknownComponent
  | .autocomplete _ => false

namespace Dispatcher

variable {d : Dispatcher σ} {context : Context} {services : σ}

/-- Where an interaction goes that no command fits. -/
theorem route_of_missed {payload : Payload} (h : d.lookUp? payload = none)
    (hother : ∀ request, payload ≠ .autocomplete request) :
    d.route payload = .unknown payload.sought (d.settings.takesBack payload) := by
  cases payload with
  | command data =>
    obtain ⟨name, invoked, options, target⟩ := data
    -- the three kinds of invocation look the same settings up
    cases invoked with
    | chatInput => exact congrArg (Destination.ofLookup · _ _) h
    | user => exact congrArg (Destination.ofLookup · _ _) h
    | message => exact congrArg (Destination.ofLookup · _ _) h
  | component data => exact congrArg (Destination.ofLookup · _ _) h
  | modal data => exact congrArg (Destination.ofLookup · _ _) h
  | autocomplete request => exact absurd rfl (hother request)

/-- A request that no command for suggestions fits goes to the suggesters, if they are asked at all. -/
theorem route_of_missed_autocomplete {request : CompletionRequest}
    (h : d.lookUp? (.autocomplete request) = none) :
    d.route (.autocomplete request) =
      if d.settings.useSuggesters then .suggester request
      else .unknown (Text.joinSpaces (completionTokens request)) false := by
  have hfind : d.catalog.routers.autocomplete.find? (completionTokens request) = none := h
  rw [route, hfind]

/-- The one call for what nothing fits, where cleaning up is on. -/
theorem calls_unknown (context : Context) (path : String) (cleanup : Bool) :
    (unknown context path cleanup).calls = if cleanup then context.callsOf .deleteOriginal else [] := by
  cases cleanup with
  | false => rfl
  | true =>
    rw [unknown, if_pos rfl, calls_bind, calls_callResponder]
    exact List.append_nil _

/-- The result does not depend on the transport, nor on what it answers. -/
theorem value_unknown (context : Context) (path : String) (cleanup : Bool) :
    (unknown context path cleanup).value = .ofKind .unknownCommand s!"unknown command '{path}'" := by
  cases cleanup <;> rfl

/-- The acknowledgement of an interaction is to be taken back: there is a transport, no command fits, and it is the
setting to do so for interactions of this kind. -/
structure TakesBack (d : Dispatcher σ) (context : Context) : Prop where
  responder : context.responder ≠ none
  missed : d.lookUp? context.interaction.payload = none
  setting : d.settings.takesBack context.interaction.payload = true

/-- The calls of a dispatch that finds nothing. -/
theorem calls_of_unknown {path : String} {cleanup : Bool}
    (h : d.route context.interaction.payload = .unknown path cleanup) :
    (d.dispatch context services).1.calls = if cleanup then context.callsOf .deleteOriginal else [] := by
  rw [dispatch, h, ← calls_unknown context path cleanup]
  show (withoutCommand _).calls = _
  rw [calls_withoutCommand, calls_bind]
  exact List.append_nil _

/-- **An acknowledgement** that is to be taken back is taken back, once, and nothing else is done. -/
theorem TakesBack.calls_eq (h : d.TakesBack context) (services : σ) :
    (d.dispatch context services).1.calls = [.deleteOriginal] := by
  have hother : ∀ request, context.interaction.payload ≠ .autocomplete request := by
    -- there is no such setting for requests for suggestions
    intro request hpayload
    have hsetting := h.setting
    rw [hpayload] at hsetting
    cases hsetting
  rw [calls_of_unknown (route_of_missed h.missed hother), h.setting]
  exact context.callsOf_eq_singleton h.responder _

/-! ## Suggestions

`Offers` says what a suggester returns for the option being typed, in terms of the path of the request alone. The
search of the dispatcher for a suggester is the same thing step by step. -/

/-- The path of a request leads to a slash command with a parameter that is named like the option being typed, the
case of A to Z not counted, and the suggester of the parameter returns the choices. -/
inductive Offers (d : Dispatcher σ) (context : Context) (request : CompletionRequest) (services : σ)
    (choices : List Choice) : Prop where
  | intro {command : Command σ} {captures : List String} {focused : NamedValue} {parameter : Parameter σ}
      {suggester : Suggester σ}
      (hcommand : d.findSlash? (optionPath request.name request.options).tokens = some (command, captures))
      (hfocused : (optionPath request.name request.options).values.find? (·.focused) = some focused)
      (hparameter : parameter ∈ command.parameters)
      (hname : Text.sameAscii parameter.name focused.name = true)
      (hsuggester : parameter.suggester = some suggester)
      (hreturned : (suggester.suggest context
        ⟨parameter.name, focused.value, (optionPath request.name request.options).values⟩ services).value =
          .returned choices) :
      d.Offers context request services choices

/-- The choices are to be handed over: there is a transport, no command for suggestions fits, suggesters are asked,
and the one for the option being typed returns the choices. -/
structure Suggests (d : Dispatcher σ) (context : Context) (services : σ) (choices : List Choice) : Prop where
  responder : context.responder ≠ none
  missed : d.lookUp? context.interaction.payload = none
  setting : d.settings.useSuggesters = true
  offered : ∃ request, context.interaction.payload = .autocomplete request ∧
    d.Offers context request services choices

/-- The search finds a suggester exactly when each of its steps does. -/
theorem suggestionTarget?_eq_some_iff {path : OptionPath} {command : Command σ} {parameter : Parameter σ}
    {suggester : Suggester σ} {focused : NamedValue} :
    d.suggestionTarget? path = some (command, parameter, suggester, focused) ↔
      (∃ captures, d.findSlash? path.tokens = some (command, captures)) ∧
      path.values.find? (·.focused) = some focused ∧
      command.parameters.find? (Text.sameAscii ·.name focused.name) = some parameter ∧
      parameter.suggester = some suggester := by
  simp only [suggestionTarget?, Option.bind_eq_bind, Option.bind_eq_some_iff, Option.pure_def,
    Option.some.injEq, Prod.mk.injEq, Prod.exists]
  constructor
  · rintro ⟨_, captures, hcommand, _, hfocused, _, hparameter, _, hsuggester, rfl, rfl, rfl, rfl⟩
    exact ⟨⟨captures, hcommand⟩, hfocused, hparameter, hsuggester⟩
  · rintro ⟨⟨captures, hcommand⟩, hfocused, hparameter, hsuggester⟩
    exact ⟨_, captures, hcommand, _, hfocused, _, hparameter, _, hsuggester, rfl, rfl, rfl, rfl⟩

/-- A suggester is asked without a call, and what it returns is handed over. -/
theorem calls_askSuggester_of_returned {request : SuggestionRequest} {suggester : Suggester σ}
    {choices : List Choice} (h : (suggester.suggest context request services).value = .returned choices) :
    (askSuggester context request suggester services).calls = context.callsOf (.suggest choices) := by
  have hvalue : (runHost (suggester.suggest context request services)).value = .returned choices := h
  rw [askSuggester, calls_bind, calls_runHost, List.nil_append, hvalue, Attempt.caught_eq_ok_iff.mpr rfl]
  dsimp only
  rw [calls_bind, calls_callResponder]
  -- what the transport answers leads to no further call
  cases (callResponder context (.suggest choices)).value <;> exact List.append_nil _

/-- Nothing is handed over when a suggester faults. -/
theorem exists_returned_of_calls {request : SuggestionRequest} {suggester : Suggester σ}
    (h : (askSuggester context request suggester services).calls ≠ []) :
    ∃ choices, (suggester.suggest context request services).value = .returned choices := by
  rcases (suggester.suggest context request services).value.returned_or_faultsWith with hreturned | ⟨fault, hfault⟩
  · exact hreturned
  · have hvalue : (runHost (suggester.suggest context request services)).value.caught = .error fault :=
      Attempt.caught_eq_error_iff.mpr hfault
    rw [askSuggester, calls_bind, calls_runHost, hvalue] at h
    exact absurd rfl h

/-- The calls for a request are those of asking the suggester that is found. -/
theorem calls_suggest (request : CompletionRequest) :
    (d.suggest context request services).calls =
      match d.suggestionTarget? (optionPath request.name request.options) with
      | none => []
      | some (_, parameter, suggester, focused) =>
        (askSuggester context
          ⟨parameter.name, focused.value, (optionPath request.name request.options).values⟩ suggester
          services).calls := by
  rw [suggest, calls_withoutCommand]
  cases d.suggestionTarget? (optionPath request.name request.options) with
  | none => rfl
  | some target =>
    obtain ⟨command, parameter, suggester, focused⟩ := target
    dsimp only
    rw [calls_bind]
    cases (askSuggester context
        ⟨parameter.name, focused.value, (optionPath request.name request.options).values⟩ suggester
        services).value <;> exact List.append_nil _

theorem calls_of_suggester {request : CompletionRequest}
    (h : d.route context.interaction.payload = .suggester request) :
    (d.dispatch context services).1.calls = (d.suggest context request services).calls := by
  rw [dispatch, h]

theorem calls_of_command {command : Command σ} {captures : List String}
    (h : d.route context.interaction.payload = .command command captures) :
    (d.dispatch context services).1.calls = [] := by
  rw [dispatch, h]
  exact d.calls_run command context _ services

/-! ## No other calls

Read the other way: a call that has been made was made by one of the two places that make any, and so all that it
takes for the call holds. -/

/-- A call of a suggester's choices hands over what it offers. -/
theorem exists_offers {request : CompletionRequest} (h : (d.suggest context request services).calls ≠ []) :
    ∃ choices, d.Offers context request services choices ∧
      (d.suggest context request services).calls = context.callsOf (.suggest choices) := by
  rw [calls_suggest] at h ⊢
  cases htarget : d.suggestionTarget? (optionPath request.name request.options) with
  | none =>
    rw [htarget] at h
    exact absurd rfl h
  | some target =>
    obtain ⟨command, parameter, suggester, focused⟩ := target
    -- the search went through, so each of its steps did
    obtain ⟨⟨captures, hcommand⟩, hfocused, hparameter, hsuggester⟩ := suggestionTarget?_eq_some_iff.mp htarget
    have hname : Text.sameAscii parameter.name focused.name = true := by simpa using List.find?_some hparameter
    rw [htarget] at h
    dsimp only at h ⊢
    obtain ⟨choices, hreturned⟩ := exists_returned_of_calls h
    exact ⟨choices, .intro hcommand hfocused (List.mem_of_find?_eq_some hparameter) hname hsuggester hreturned,
      calls_askSuggester_of_returned hreturned⟩

/-- A call for what nothing fits, which asks for no suggestions, is due. -/
theorem takesBack_of_calls (hmissed : d.lookUp? context.interaction.payload = none)
    (hother : ∀ request, context.interaction.payload ≠ .autocomplete request)
    (hcalls : (d.dispatch context services).1.calls ≠ []) : d.TakesBack context := by
  rw [calls_of_unknown (route_of_missed hmissed hother)] at hcalls
  cases hsetting : d.settings.takesBack context.interaction.payload with
  | true =>
    rw [hsetting, if_pos rfl] at hcalls
    exact ⟨Context.responder_of_callsOf hcalls, hmissed, hsetting⟩
  | false =>
    rw [hsetting] at hcalls
    exact absurd rfl hcalls

/-- A call for what no command for suggestions fits is due. -/
theorem exists_suggests_of_calls {request : CompletionRequest}
    (hmissed : d.lookUp? context.interaction.payload = none)
    (hpayload : context.interaction.payload = .autocomplete request)
    (hcalls : (d.dispatch context services).1.calls ≠ []) :
    ∃ choices, d.Suggests context services choices ∧
      (d.dispatch context services).1.calls = [.suggest choices] := by
  have hroute := route_of_missed_autocomplete (hpayload ▸ hmissed)
  rw [← hpayload] at hroute
  by_cases hsetting : d.settings.useSuggesters = true
  · -- suggesters are asked, and one has returned choices
    rw [if_pos hsetting] at hroute
    rw [calls_of_suggester hroute] at hcalls ⊢
    obtain ⟨choices, hoffers, heq⟩ := exists_offers hcalls
    rw [heq] at hcalls ⊢
    have hresponder := Context.responder_of_callsOf hcalls
    exact ⟨choices, ⟨hresponder, hmissed, hsetting, request, hpayload, hoffers⟩,
      context.callsOf_eq_singleton hresponder _⟩
  · -- they are not, and the request is not cleaned up after
    rw [if_neg hsetting] at hroute
    exact absurd (calls_of_unknown hroute) hcalls

/-- **Every call is due**, and there is at most one. -/
theorem due_of_calls (d : Dispatcher σ) (context : Context) (services : σ) :
    (d.dispatch context services).1.calls = [] ∨
    (d.TakesBack context ∧ (d.dispatch context services).1.calls = [.deleteOriginal]) ∨
    ∃ choices, d.Suggests context services choices ∧
      (d.dispatch context services).1.calls = [.suggest choices] := by
  by_cases hcalls : (d.dispatch context services).1.calls = []
  · exact .inl hcalls
  right
  cases hmissed : d.lookUp? context.interaction.payload with
  -- a command that fits makes none
  | some found => exact absurd (calls_of_command (route_eq_command_iff.mpr hmissed)) hcalls
  | none =>
    by_cases hother : ∀ request, context.interaction.payload ≠ .autocomplete request
    · have hback := takesBack_of_calls hmissed hother hcalls
      exact .inl ⟨hback, hback.calls_eq services⟩
    · -- it is a request for suggestions after all
      obtain ⟨request, hpayload⟩ := not_forall_not.mp hother
      exact .inr (exists_suggests_of_calls hmissed hpayload hcalls)

/-- What no command fits comes back as unknown, whatever the transport does, if it does not ask for suggestions. -/
theorem returned_of_missed (h : d.lookUp? context.interaction.payload = none)
    (hother : ∀ request, context.interaction.payload ≠ .autocomplete request) :
    (d.dispatch context services).1.returned =
      .ok (.ofKind .unknownCommand s!"unknown command '{context.interaction.payload.sought}'") := by
  rw [dispatch, route_of_missed h hother, ← value_unknown context _ (d.settings.takesBack context.interaction.payload)]
  rfl

end Dispatcher

section Reachable

variable {d : Dispatcher σ} {context : Context} {services : σ}

/-- Parameters are told apart by their names even without regard to the case of A to Z. -/
theorem Reachable.find?_sameAscii (h : Reachable d) {c : Command σ} (hc : c ∈ d.slashCommands)
    {p : Parameter σ} (hp : p ∈ c.parameters) {name : String} (hname : Text.sameAscii p.name name = true) :
    c.parameters.find? (Text.sameAscii ·.name name) = some p := by
  have hlower : p.name.toList.map Char.toLower = name.toList.map Char.toLower := beq_iff_eq.mp hname
  have hfind := h.find?_parameters hc hp
  -- a name that differs in case is looked up as the same
  simp only [Text.sameAscii, hlower] at hfind
  exact hfind

/-- **Suggestions** that are to be handed over are handed over, once, and nothing else is done. -/
theorem Reachable.calls_of_suggests (h : Reachable d) {choices : List Choice}
    (hsuggests : d.Suggests context services choices) :
    (d.dispatch context services).1.calls = [.suggest choices] := by
  obtain ⟨hresponder, hmissed, hsetting, request, hpayload, hoffers⟩ := hsuggests
  obtain ⟨hcommand, hfocused, hparameter, hname, hsuggester, hreturned⟩ := hoffers
  have hroute := Dispatcher.route_of_missed_autocomplete (hpayload ▸ hmissed)
  rw [if_pos hsetting, ← hpayload] at hroute
  have hslash := (h.findSlash?_eq_some_iff.mp hcommand).1
  -- the parameter of this name is the first one found, since no two share a name
  have htarget := Dispatcher.suggestionTarget?_eq_some_iff.mpr
    ⟨⟨_, hcommand⟩, hfocused, h.find?_sameAscii hslash hparameter hname, hsuggester⟩
  rw [Dispatcher.calls_of_suggester hroute, Dispatcher.calls_suggest, htarget]
  dsimp only
  rw [Dispatcher.calls_askSuggester_of_returned hreturned]
  exact context.callsOf_eq_singleton hresponder _

/-- **Calls to the transport.** Take any dispatcher that loads and unloads lead to, any interaction and any
transport, or none. The acknowledgement is taken back exactly if there is a transport, no command fits, and it is the
setting to do so for slash and menu commands or for components and forms. Suggestions are handed over exactly if
there is a transport, suggesters are asked, no command for suggestions fits and the suggester of the parameter being
typed returns them, and they are handed over as they are. Either is done once, and no other call is made.

What no command fits comes back as unknown, whatever the transport does. An interaction that is handed to a known
command leads to no calls. -/
theorem Reachable.calls_exact (h : Reachable d) (context : Context) (services : σ) :
    ((d.dispatch context services).1.calls = [.deleteOriginal] ↔ d.TakesBack context) ∧
    (∀ choices, (d.dispatch context services).1.calls = [.suggest choices] ↔
      d.Suggests context services choices) ∧
    ((d.dispatch context services).1.calls = [] ∨ (d.dispatch context services).1.calls = [.deleteOriginal] ∨
      ∃ choices, (d.dispatch context services).1.calls = [.suggest choices]) ∧
    (d.lookUp? context.interaction.payload = none →
      (∀ request, context.interaction.payload ≠ .autocomplete request) →
        (d.dispatch context services).1.returned =
          .ok (.ofKind .unknownCommand s!"unknown command '{context.interaction.payload.sought}'")) ∧
    ∀ command, (d.dispatchTo command context services).1.calls = [] := by
  have hdue := d.due_of_calls context services
  refine ⟨⟨fun hcalls => ?_, fun hback => hback.calls_eq services⟩,
    fun choices => ⟨fun hcalls => ?_, h.calls_of_suggests⟩, ?_, Dispatcher.returned_of_missed,
    fun command => d.calls_run command context _ services⟩
  · -- what is made is due, and the other two are different calls
    rw [hcalls] at hdue
    rcases hdue with hnil | ⟨hback, _⟩ | ⟨choices, _, hother⟩
    · cases hnil
    · exact hback
    · cases hother
  · rw [hcalls] at hdue
    rcases hdue with hnil | ⟨_, hother⟩ | ⟨others, hsuggests, heq⟩
    · cases hnil
    · cases hother
    · cases heq
      exact hsuggests
  · rcases hdue with hnil | ⟨_, hcalls⟩ | ⟨choices, _, hcalls⟩
    · exact .inl hnil
    · exact .inr (.inl hcalls)
    · exact .inr (.inr ⟨choices, hcalls⟩)

end Reachable

namespace Sample

/-- A transport that takes no calls. -/
def refusing : Responder := ⟨fun _ => pure (.error .alreadyResponded)⟩

def daisyBell : Choice := ⟨"Daisy Bell", .text "Daisy Bell"⟩

def catalog : Suggester Unit := ⟨fun _ _ _ => pure (.returned [daisyBell])⟩

def bandstand : ModuleDecl Unit :=
  ⟨"host::Bandstand", "Bandstand", none, true, [],
    [{ play with parameters := [{ song with suggester := some catalog }] }], [],
    construct "host::Bandstand"⟩

/-- Acknowledgements of unknown slash commands are taken back. -/
def tidied : Dispatcher Unit :=
  ((Dispatcher.new { deleteUnknownCommand := true } id).change (.load [bandstand])).2

theorem reachable_tidied : Reachable tidied := (Reachable.new { deleteUnknownCommand := true } id).change _

/-- A name that no command has. -/
def mistyped : Context := { request ["pley"] [] with responder := some refusing }

theorem optionPath_mistyped :
    optionPath (typedAlong ["pley"] []).name (typedAlong ["pley"] []).options = ⟨["pley"], []⟩ :=
  optionPath_typedAlong (List.cons_ne_nil _ _) []

/-- The name of the parameter is written otherwise than it was declared. -/
def shouted : NamedValue := ⟨"SONG", .text "Dai", true⟩

def shouting : Context :=
  ⟨⟨⟨1⟩, ⟨⟨2⟩, "ada"⟩, none, none, .autocomplete (completionAlong ["play"] [shouted])⟩, some .accepting⟩

theorem optionPath_shouting :
    optionPath (completionAlong ["play"] [shouted]).name (completionAlong ["play"] [shouted]).options =
      ⟨["play"], [shouted]⟩ :=
  optionPath_typedAlong (List.cons_ne_nil _ _) [shouted]

theorem takesBack_mistyped : tidied.TakesBack mistyped where
  responder := nofun
  missed := by
    show tidied.findSlash? (optionPath _ _).tokens = none
    rw [optionPath_mistyped, ← Option.isNone_iff_eq_none]
    decide +kernel
  setting := rfl

theorem suggests_shouting : tidied.Suggests shouting () [daisyBell] where
  responder := nofun
  missed := by
    show tidied.catalog.routers.autocomplete.find?
      (Dispatcher.completionTokens (completionAlong ["play"] [shouted])) = none
    rw [Dispatcher.completionTokens, optionPath_shouting, ← Option.isNone_iff_eq_none]
    decide +kernel
  setting := rfl
  offered := by
    obtain ⟨c, hc, hpath, p, hp, hname, hsuggester⟩ : ∃ c ∈ tidied.slashCommands, c.path = ["play"] ∧
        ∃ p ∈ c.parameters, Text.sameAscii p.name shouted.name = true ∧ p.suggester = some catalog :=
      ⟨_, List.mem_cons_self, rfl, _, List.mem_cons_self, by decide, rfl⟩
    -- the typed path leads to the command
    have hcommand := reachable_tidied.findSlash?_path hc
    rw [hpath] at hcommand
    have hfound : tidied.findSlash? (optionPath (completionAlong ["play"] [shouted]).name
        (completionAlong ["play"] [shouted]).options).tokens = some (c, []) := by
      rw [optionPath_shouting]
      exact hcommand
    -- the name is typed in upper case, and is that of the parameter nevertheless
    have hfocused : (optionPath (completionAlong ["play"] [shouted]).name
        (completionAlong ["play"] [shouted]).options).values.find? (·.focused) = some shouted := by
      rw [optionPath_shouting]
      rfl
    exact ⟨_, rfl, .intro hfound hfocused hp hname hsuggester rfl⟩

end Sample

/-- The transport refuses to take the acknowledgement back, and the result is that nothing fits all the same. For a
name that is written otherwise the suggestions are handed over. -/
theorem calls_exact_tidied :
    Reachable Sample.tidied ∧ Sample.tidied.TakesBack Sample.mistyped ∧
    (Sample.tidied.dispatch Sample.mistyped ()).1.calls = [.deleteOriginal] ∧
    (Sample.tidied.dispatch Sample.mistyped ()).1.returned =
      .ok (.ofKind .unknownCommand "unknown command 'pley'") ∧
    Sample.tidied.Suggests Sample.shouting () [Sample.daisyBell] ∧
    (Sample.tidied.dispatch Sample.shouting ()).1.calls = [.suggest [Sample.daisyBell]] ∧
    ∀ command, (Sample.tidied.dispatchTo command Sample.mistyped ()).1.calls = [] := by
  obtain ⟨hback, _, _, hreturned, hknown⟩ :=
    Reachable.calls_exact Sample.reachable_tidied Sample.mistyped ()
  obtain ⟨_, hsuggests, _⟩ := Reachable.calls_exact Sample.reachable_tidied Sample.shouting ()
  have hunknown := hreturned Sample.takesBack_mistyped.missed nofun
  -- the text of the answer is the path that was typed
  have hsought : Sample.mistyped.interaction.payload.sought = "pley" := by
    show Text.joinSpaces (optionPath _ _).tokens = "pley"
    rw [Sample.optionPath_mistyped]
    rfl
  rw [hsought] at hunknown
  exact ⟨Sample.reachable_tidied, Sample.takesBack_mistyped, hback.mpr Sample.takesBack_mistyped, hunknown,
    Sample.suggests_shouting, (hsuggests _).mpr Sample.suggests_shouting, hknown⟩

end ChatDispatch
