import Mathlib.Data.Nat.Basic
import Mathlib.Order.Monotone.Defs
import ChatDispatch.Proofs.RunModes

/-!
# Reports

Every request that reaches a command is reported once, and the report tells what the command did. A
subscriber that has not lost a report has received, in their order, the reports of these requests and no
others.

* **`Broadcast.Since`** — what a broadcast still keeps of the messages sent since a subscription.
* **`Request`** — a call to a dispatcher, to be routed or for a known command.
* **`Dispatcher.reached?`** — the command that a request reaches.
* **`Report.Truthful`** — what a report tells of its request and of what the caller got.
* **`Dispatcher.exists_truthful`** — one request: it sends one truthful report if it reaches a command and
  changes nothing otherwise.
* **`Session`** — a dispatcher serving requests while a subscriber receives.
* **`Dispatcher.heard_truthful`** — the headline, over all sessions.
-/

namespace ChatDispatch

variable {σ : Type}

/-! ## Messages since a subscription

A broadcast numbers its messages and drops the oldest when it is full. `Since` counts them from a subscription on,
so that a subscriber at `n` is owed the `n`-th. -/

namespace Broadcast

variable {α : Type} {b : Broadcast α} {c : Cursor} {sent : List α}

/-- `sent` are the messages since a subscription at `c`, of which `b` keeps the last ones. -/
structure Since (b : Broadcast α) (c : Cursor) (sent : List α) : Prop where
  count : b.dropped + b.kept.length = c.position + sent.length
  kept : ∀ i, b.dropped ≤ c.position + i → b.kept[c.position + i - b.dropped]? = sent[i]?

/-- Nothing has been sent since a subscription that has just been made. -/
theorem since_subscribe (b : Broadcast α) : b.Since b.subscribe [] where
  count := rfl
  kept i _ := by
    rw [List.getElem?_nil, List.getElem?_eq_none_iff]
    simp only [subscribe]
    omega

/-- A message that is sent is the last of those since the subscription. -/
theorem Since.send (h : b.Since c sent) (a : α) : (b.send a).Since c (sent ++ [a]) := by
  obtain ⟨hcount, hkept⟩ := h
  have hpos := b.capacity_pos
  unfold Broadcast.send
  split
  · -- there is room: the kept messages and the sent ones are each followed by the new one
    refine ⟨by simp only [List.length_append, List.length_singleton]; omega, fun i hi => ?_⟩
    have hi : b.dropped ≤ c.position + i := hi
    simp only [List.getElem?_append, hkept i hi]
    have hiff : c.position + i - b.dropped < b.kept.length ↔ i < sent.length := by omega
    have hrest : c.position + i - b.dropped - b.kept.length = i - sent.length := by omega
    simp only [hiff, hrest]
  · -- the oldest kept message goes, and all others move up by one
    next hfull =>
    refine ⟨by
      simp only [List.length_append, List.length_drop, List.length_singleton]
      omega, fun i hi => ?_⟩
    have hi : b.dropped + 1 ≤ c.position + i := hi
    have hnext : 1 + (c.position + i - (b.dropped + 1)) = c.position + i - b.dropped := by omega
    simp only [List.getElem?_append, List.getElem?_drop, List.length_drop, hnext, hkept i (by omega)]
    have hiff : c.position + i - (b.dropped + 1) < b.kept.length - 1 ↔ i < sent.length := by omega
    have hrest : c.position + i - (b.dropped + 1) - (b.kept.length - 1) = i - sent.length := by omega
    simp only [hiff, hrest]

/-- A subscriber that has not fallen behind gets the next message since its subscription, if there is one. -/
theorem Since.receive (h : b.Since c sent) {n : Nat} (hn : b.dropped ≤ c.position + n) :
    b.receive ⟨c.position + n⟩ =
      match sent[n]? with
      | some a => (.message a, ⟨c.position + (n + 1)⟩)
      | none => (.empty, ⟨c.position + n⟩) := by
  unfold Broadcast.receive
  rw [if_neg (by simpa using hn)]
  -- the next message is among the kept ones, or there is none
  simp only [h.kept n hn]
  rfl

end Broadcast

namespace Received

variable {α : Type}

def isLagged : Received α → Bool
  | lagged _ => true
  | message _ | empty => false

def message? : Received α → Option α
  | message a => some a
  | empty | lagged _ => none

end Received

/-- A subscriber that is not told that it lags has lost nothing. -/
theorem Broadcast.dropped_le_of_receive {α : Type} {b : Broadcast α} {c : Cursor}
    (h : (b.receive c).1.isLagged = false) : b.dropped ≤ c.position := by
  unfold Broadcast.receive at h
  split at h
  · cases h
  · omega

/-! ## Requests

A call is served by the command that it reaches, and what is served without a command leaves the dispatcher as it
is. -/

/-- A call to a dispatcher: an interaction, for a known command or to be routed. -/
structure Request (σ : Type) where
  command : Option (Command σ)
  context : Context
  services : σ

namespace Dispatcher

def serve (d : Dispatcher σ) (request : Request σ) : Execution × Dispatcher σ :=
  match request.command with
  | some command => d.dispatchTo command request.context request.services
  | none => d.dispatch request.context request.services

/-- The command that a request reaches, and the inputs that it gets. -/
def reached? (d : Dispatcher σ) (request : Request σ) : Option (Command σ × Inputs) :=
  match request.command with
  | some command => some (command, .ofInteraction request.context.interaction [])
  | none =>
    match d.route request.context.interaction.payload with
    | .command command captures =>
      some (command, .ofInteraction request.context.interaction captures)
    | .suggester _ | .unknown _ _ => none

variable {d : Dispatcher σ} {request : Request σ}

/-- A request that reaches a command is run by it. -/
theorem serve_of_reached {command : Command σ} {inputs : Inputs}
    (h : d.reached? request = some (command, inputs)) :
    d.serve request = d.run command request.context inputs request.services := by
  obtain ⟨known, context, services⟩ := request
  cases known with
  | some known =>
    cases h
    rfl
  | none =>
    simp only [reached?] at h
    cases hroute : d.route context.interaction.payload with
    | command found captures =>
      rw [hroute] at h
      cases h
      simp only [serve, dispatch, hroute]
    | suggester data =>
      rw [hroute] at h
      cases h
    | unknown path cleanup =>
      rw [hroute] at h
      cases h

/-- A request reaches no command if it is routed to a suggester or to nothing. -/
theorem reached?_eq_none_iff :
    d.reached? request = none ↔ request.command = none ∧
      ((∃ data, d.route request.context.interaction.payload = .suggester data) ∨
        ∃ path cleanup, d.route request.context.interaction.payload = .unknown path cleanup) := by
  obtain ⟨known, context, services⟩ := request
  cases known with
  | some known => simp [reached?]
  | none =>
    cases hroute : d.route context.interaction.payload with
    | command found captures => simp [reached?, hroute]
    | suggester data => simp [reached?, hroute]
    | unknown path cleanup => simp [reached?, hroute]

theorem serve_of_suggester {data : CompletionRequest} (hknown : request.command = none)
    (hroute : d.route request.context.interaction.payload = .suggester data) :
    d.serve request = (d.suggest request.context data request.services, d) := by
  rw [serve, hknown, dispatch, hroute]

/-- A request that is routed to nothing is served as unknown. -/
theorem serve_of_unknown {path : String} {cleanup : Bool} (hknown : request.command = none)
    (hroute : d.route request.context.interaction.payload = .unknown path cleanup) :
    d.serve request =
      (withoutCommand (do return .ok (← unknown request.context path cleanup)), d) := by
  rw [serve, hknown, dispatch, hroute]

/-- A request that reaches no command changes nothing, and is not reported. -/
theorem serve_of_not_reached (h : d.reached? request = none) :
    (d.serve request).2 = d ∧ (d.serve request).1.reported = none := by
  obtain ⟨hknown, ⟨data, hroute⟩ | ⟨path, cleanup, hroute⟩⟩ := reached?_eq_none_iff.mp h
  · rw [serve_of_suggester hknown hroute]
    exact ⟨rfl, rfl⟩
  · rw [serve_of_unknown hknown hroute]
    exact ⟨rfl, rfl⟩

end Dispatcher

/-! ## Truthful reports

The report is made from the outcome of the command. What the caller gets depends on the run mode and on the
settings besides, and `Truthful` says how the two compare. -/

/-- The caller gets a result, and then this one, unless a fault is raised. -/
theorem raised_eq_ok_iff {raiseFaults : Bool} {command : String} {result r : Result} :
    raised raiseFaults command result = .ok r ↔
      r = result ∧ ¬ (raiseFaults = true ∧ result.fault?.isSome = true) := by
  unfold raised
  cases hfault : result.fault? with
  | none => simp [eq_comm]
  | some fault => cases raiseFaults <;> simp [eq_comm]

/-- A fault is raised if it is to be, and it is the one in the result. -/
theorem raised_eq_error_iff {raiseFaults : Bool} {command : String} {result : Result}
    {f : DispatchFault} :
    raised raiseFaults command result = .error f ↔
      raiseFaults = true ∧ result.fault? = some f.fault ∧ f.command = command := by
  obtain ⟨path, fault⟩ := f
  unfold raised
  cases hfault : result.fault? with
  | none => simp
  | some behind => cases raiseFaults <;> simp [eq_comm, and_comm]

/-- The reason of a failure that comes from a fault is the innermost error of the fault. -/
theorem Result.reason?_of_fault? {r : Result} {fault : Fault} (h : r.fault? = some fault) :
    r.reason? = some fault.root := by
  cases r with
  | ofFault behind =>
    cases h
    rfl
  | success => cases h
  | failure kind reason nested => cases h

/-- A refusal holds no fault. -/
theorem Refusal.fault?_eq_none {command : Command σ} {context : Context} {inputs : Inputs} {r : Result}
    (h : Refusal command context inputs r) : r.fault? = none := by
  cases r with
  | success => rfl
  | failure kind reason nested => rfl
  | ofFault fault =>
    -- its kind would be that of an exception, which no gate refuses with
    cases h with
    | wrongKind _ hkind => cases hkind
    | unbound _ _ hkind => cases hkind
    | unmet _ _ hkind => cases hkind

/-- The caller of an inline dispatch gets the result of what the command did, or the fault that it holds. -/
theorem returned_of_inline {mode : RunMode} (raiseFaults : Bool) {command : Command σ} {context : Context}
    {inputs : Inputs} {services : σ} (hmode : command.runModeOr mode = .inline) :
    (execute mode raiseFaults command context inputs services).returned =
      raised raiseFaults command.displayPath (outcome command context inputs services).value := by
  by_cases hthrough : LetThrough command context inputs services
  · -- let through, the result of the work is awaited
    rw [returned_of_letThrough _ _ hthrough, hmode]
  · -- refused, there is no fault that could be raised
    obtain ⟨hrefusal, hreturned⟩ := returned_of_not_letThrough mode raiseFaults hthrough
    rw [hreturned, raised, hrefusal.fault?_eq_none]

/-- What a report tells of the request that it is about and of what its caller got. -/
structure Report.Truthful (report : Report σ) (d : Dispatcher σ) (request : Request σ)
    (inputs : Inputs) (execution : Execution) : Prop where
  /-- It names the command that the request reached. -/
  reached : d.reached? request = some (report.command, inputs)
  context : report.context = request.context
  /-- Its result is that of what the command did. -/
  result : report.result =
    (outcome report.command request.context inputs request.services).value
  ordered : Monotone d.clock → report.started ≤ report.completed
  /-- The caller of a refused dispatch got the reported result. -/
  refused : ¬ LetThrough report.command request.context inputs request.services →
    execution.returned = .ok report.result
  /-- The caller of an inline dispatch got the reported result, unless faults are raised and it holds one. -/
  inline : report.command.runModeOr d.settings.runMode = .inline →
    (∀ r, execution.returned = .ok r → r = report.result) ∧
    ((∃ f, execution.returned = .error f) ↔
      d.settings.raiseFaults = true ∧ report.result.fault?.isSome = true)
  /-- A raised fault is the reported one, under the path of the command. -/
  raised : ∀ f, execution.returned = .error f →
    f.command = report.command.displayPath ∧ report.result.fault? = some f.fault ∧
      report.result.reason? = some f.cause
  /-- The caller of a detached dispatch got a success. -/
  detached : LetThrough report.command request.context inputs request.services →
    report.command.runModeOr d.settings.runMode = .detached → execution.returned = .ok .success

/-- **One report for each command that is reached.** Whatever the way that the request takes through its
gates and its run mode, one report is sent and it is truthful. -/
theorem Dispatcher.exists_truthful {d : Dispatcher σ} {request : Request σ} {command : Command σ}
    {inputs : Inputs} (h : d.reached? request = some (command, inputs)) :
    ∃ report : Report σ,
      (d.serve request).2 =
        { d with reports := d.reports.send report, readings := d.readings + 2 } ∧
      report.Truthful d request inputs (d.serve request).1 := by
  rw [serve_of_reached h, run_snd, run_fst]
  refine ⟨_, rfl, h, rfl, rfl, fun hclock => hclock (Nat.le_succ _), ?_, ?_, ?_, ?_⟩
  · -- `refused`
    intro hrefused
    exact (returned_of_not_letThrough _ _ hrefused).2
  · -- `inline`
    intro hmode
    rw [returned_of_inline _ hmode]
    refine ⟨fun r hr => (raised_eq_ok_iff.mp hr).1, ?_⟩
    simp only [raised_eq_error_iff, Option.isSome_iff_exists]
    constructor
    · rintro ⟨f, hraise, hfault, _⟩
      exact ⟨hraise, f.fault, hfault⟩
    · rintro ⟨hraise, fault, hfault⟩
      exact ⟨⟨command.displayPath, fault⟩, hraise, hfault, rfl⟩
  · -- `raised`
    intro f hf
    cases hmode : command.runModeOr d.settings.runMode with
    | inline =>
      rw [returned_of_inline _ hmode] at hf
      obtain ⟨_, hfault, hcommand⟩ := raised_eq_error_iff.mp hf
      exact ⟨hcommand, hfault, Result.reason?_of_fault? hfault⟩
    | detached =>
      -- a detached dispatch raises nothing, whether it is let through or refused
      by_cases hthrough : LetThrough command request.context inputs request.services
      · rw [returned_of_letThrough _ _ hthrough, hmode] at hf
        cases hf
      · rw [(returned_of_not_letThrough _ _ hthrough).2] at hf
        cases hf
  · -- `detached`
    intro hthrough hmode
    rw [returned_of_letThrough _ _ hthrough, hmode]

/-! ## Sessions

Serving and receiving take turns in any order. `Sound` holds from the subscription on and is kept by both kinds of
turn. -/

/-- A dispatcher that serves requests while a subscriber receives its reports. -/
structure Session (σ : Type) where
  dispatcher : Dispatcher σ
  /-- Where the subscriber is. -/
  cursor : Cursor
  /-- The requests and what came of them, oldest first. -/
  served : List (Request σ × Execution)
  /-- What the subscriber got, oldest first. -/
  received : List (Received (Report σ))

/-- One turn of a session. -/
inductive Turn (σ : Type) where
  | serve (request : Request σ)
  /-- The subscriber asks for its next report. -/
  | receive

def Turn.request? : Turn σ → Option (Request σ)
  | serve request => some request
  | receive => none

namespace Session

/-- A session that begins with the subscription. -/
def start (d : Dispatcher σ) : Session σ := ⟨d, d.subscribe, [], []⟩

def step (s : Session σ) : Turn σ → Session σ
  | .serve request =>
    let (execution, dispatcher) := s.dispatcher.serve request
    { s with dispatcher := dispatcher, served := s.served ++ [(request, execution)] }
  | .receive =>
    let (received, cursor) := s.dispatcher.receive s.cursor
    { s with cursor := cursor, received := s.received ++ [received] }

/-- Takes turns one after another. -/
def run (s : Session σ) (turns : List (Turn σ)) : Session σ := turns.foldl step s

/-- The reports that the subscriber got. -/
def heard (s : Session σ) : List (Report σ) := s.received.filterMap (·.message?)

/-- The subscriber has lost no report and none is left to be received. -/
structure HearsAll (s : Session σ) : Prop where
  not_lagged : ∀ x ∈ s.received, x.isLagged = false
  drained : (s.dispatcher.receive s.cursor).1 = .empty

/-- What every session that began at `d` keeps to, where `sent` are the reports since: one truthful report
for each request that reached a command, and unless the subscriber has lost some it has got the first of
them. -/
structure Sound (d : Dispatcher σ) (s : Session σ) (sent : List (Report σ)) : Prop where
  unchanged : ∃ reports readings, s.dispatcher = { d with reports := reports, readings := readings }
  truthful : List.Forall₂ (fun q report => ∃ inputs, report.Truthful d q.1 inputs q.2)
    (s.served.filter fun q => (d.reached? q.1).isSome) sent
  since : s.dispatcher.reports.Since d.subscribe sent
  heard : (∀ x ∈ s.received, x.isLagged = false) →
    s.cursor = ⟨d.subscribe.position + s.heard.length⟩ ∧ s.heard = sent.take s.heard.length

variable {d : Dispatcher σ} {s : Session σ} {sent : List (Report σ)}

theorem sound_start (d : Dispatcher σ) : Sound d (start d) [] where
  unchanged := ⟨d.reports, d.readings, rfl⟩
  truthful := .nil
  since := d.reports.since_subscribe
  heard _ := ⟨rfl, rfl⟩

/-- Serving a request keeps a session sound. -/
theorem Sound.serve (h : Sound d s sent) (request : Request σ) :
    ∃ sent', Sound d (s.step (.serve request)) sent' := by
  obtain ⟨⟨reports, readings, hdispatcher⟩, htruthful, hsince, hheard⟩ := h
  -- the requests are routed as at the beginning, since the reports do not matter to that
  have hsame : s.dispatcher.reached? request = d.reached? request := by
    rw [hdispatcher]
    rfl
  cases hreached : d.reached? request with
  | none =>
    -- no command is reached, so no report is added
    obtain ⟨hserved, _⟩ := Dispatcher.serve_of_not_reached (hsame.trans hreached)
    refine ⟨sent, ⟨reports, readings, hserved.trans hdispatcher⟩, ?_, ?_, hheard⟩
    · simpa [step, hreached] using htruthful
    · show (s.dispatcher.serve request).2.reports.Since _ _
      rw [hserved]
      exact hsince
  | some reached =>
    obtain ⟨command, inputs⟩ := reached
    -- the report of this request is added at the end
    obtain ⟨report, hserved, hreport⟩ := Dispatcher.exists_truthful (hsame.trans hreached)
    have hown : report.Truthful d request inputs (s.dispatcher.serve request).1 := by
      rw [hdispatcher] at hreport ⊢
      exact ⟨hreport.reached, hreport.context, hreport.result, hreport.ordered, hreport.refused,
        hreport.inline, hreport.raised, hreport.detached⟩
    refine ⟨sent ++ [report], ⟨s.dispatcher.reports.send report, s.dispatcher.readings + 2, ?_⟩, ?_, ?_, ?_⟩
    · show (s.dispatcher.serve request).2 = _
      rw [hserved, hdispatcher]
    · simp only [step, List.filter_append, List.filter_cons, hreached, Option.isSome_some, if_true,
        List.filter_nil]
      exact List.rel_append htruthful (.cons ⟨inputs, hown⟩ .nil)
    · show (s.dispatcher.serve request).2.reports.Since _ _
      rw [hserved]
      exact hsince.send report
    · intro hall
      obtain ⟨hcursor, hfirst⟩ := hheard hall
      refine ⟨hcursor, ?_⟩
      -- what has been heard is a beginning of `sent`, and so of the longer list
      have hle : s.heard.length ≤ sent.length := by
        rw [hfirst]
        exact List.length_take_le' _ _
      show s.heard = (sent ++ [report]).take s.heard.length
      rw [List.take_append_of_le_length hle]
      exact hfirst

/-- What the subscriber gets when it has heard the first of the messages. -/
theorem Sound.receive_eq (h : Sound d s sent) (hall : ∀ x ∈ s.received, x.isLagged = false)
    (hnext : (s.dispatcher.receive s.cursor).1.isLagged = false) :
    s.dispatcher.receive s.cursor =
      match sent[s.heard.length]? with
      | some report => (.message report, ⟨d.subscribe.position + (s.heard.length + 1)⟩)
      | none => (.empty, ⟨d.subscribe.position + s.heard.length⟩) := by
  obtain ⟨hcursor, _⟩ := h.heard hall
  -- the cursor stands behind what has been heard
  rw [hcursor] at hnext ⊢
  rw [Dispatcher.receive, h.since.receive (Broadcast.dropped_le_of_receive hnext)]
  cases sent[s.heard.length]? with
  | none => rfl
  | some report => rfl

/-- Receiving keeps a session sound. -/
theorem Sound.receive (h : Sound d s sent) : Sound d (s.step .receive) sent := by
  refine ⟨h.unchanged, h.truthful, h.since, fun hall => ?_⟩
  have hall : ∀ x ∈ s.received ++ [(s.dispatcher.receive s.cursor).1], x.isLagged = false := hall
  obtain ⟨hbefore, hnext⟩ := List.forall_mem_append.mp hall
  obtain ⟨_, hfirst⟩ := h.heard hbefore
  have hreceive := h.receive_eq hbefore (hnext _ (List.mem_singleton_self _))
  have hheard : (s.step .receive).heard =
      s.heard ++ (s.dispatcher.receive s.cursor).1.message?.toList := by
    simp only [Session.heard, step, List.filterMap_append, List.filterMap_cons, List.filterMap_nil]
    cases (s.dispatcher.receive s.cursor).1.message? with
    | none => rfl
    | some report => rfl
  have hcursor : (s.step .receive).cursor = (s.dispatcher.receive s.cursor).2 := rfl
  rw [hheard, hcursor, hreceive]
  cases hsent : sent[s.heard.length]? with
  | none => simpa [Received.message?] using hfirst
  | some report =>
    refine ⟨by simp [Received.message?], ?_⟩
    simp only [Received.message?, Option.toList_some, List.length_append, List.length_singleton]
    -- the report that was received is the next of those sent
    rw [List.take_add_one, ← hfirst, hsent, Option.toList_some]

/-- All turns keep a session sound. -/
theorem Sound.run (h : Sound d s sent) (turns : List (Turn σ)) :
    ∃ sent', Sound d (s.run turns) sent' := by
  -- each served request may add a report to the ones that have been sent
  induction turns generalizing s sent with
  | nil => exact ⟨sent, h⟩
  | cons turn turns ih =>
    cases turn with
    | serve request =>
      obtain ⟨sent', hserved⟩ := h.serve request
      exact ih hserved
    | receive => exact ih h.receive

/-- A subscriber that has lost no report and has none left to receive has heard them all. -/
theorem Sound.heard_eq (h : Sound d s sent) (hall : s.HearsAll) : s.heard = sent := by
  have hdrained := h.receive_eq hall.not_lagged (by rw [hall.drained]; rfl)
  obtain ⟨_, hfirst⟩ := h.heard hall.not_lagged
  -- a report that has not been heard would be received next
  cases hsent : sent[s.heard.length]? with
  | none =>
    rw [List.getElem?_eq_none_iff] at hsent
    rw [hfirst, List.take_of_length_le hsent]
  | some report =>
    have hempty := hall.drained
    rw [hdrained, hsent] at hempty
    cases hempty

/-- The requests of a session are those of its turns. -/
theorem served_run (s : Session σ) (turns : List (Turn σ)) :
    (s.run turns).served.map (·.1) = s.served.map (·.1) ++ turns.filterMap (·.request?) := by
  induction turns generalizing s with
  | nil => exact (List.append_nil _).symm
  | cons turn turns ih =>
    have hrun : s.run (turn :: turns) = (s.step turn).run turns := rfl
    rw [hrun, ih]
    cases turn with
    | serve request => simp [step, Turn.request?]
    | receive => simp [step, Turn.request?]

end Session

/-- **Reports are complete and truthful.** Take any dispatcher and any turns of serving requests and of
receiving, after which a subscriber from the beginning has lost no report and has none left. What it has
heard are reports one by one of the requests that reached a command, in the order in which these were served,
each of them truthful of its request and of what the caller got. -/
theorem Dispatcher.heard_truthful (d : Dispatcher σ) (turns : List (Turn σ))
    (hall : ((Session.start d).run turns).HearsAll) :
    ((Session.start d).run turns).served.map (·.1) = turns.filterMap (·.request?) ∧
    List.Forall₂ (fun q report => ∃ inputs, report.Truthful d q.1 inputs q.2)
      (((Session.start d).run turns).served.filter fun q => (d.reached? q.1).isSome)
      ((Session.start d).run turns).heard := by
  obtain ⟨sent, hsound⟩ := (Session.sound_start d).run turns
  rw [hsound.heard_eq hall]
  exact ⟨Session.served_run _ turns, hsound.truthful⟩

namespace Sample

/-- A fault is raised, nothing fits, and arguments are missing, while a subscriber receives. -/
def evening : List (Turn Unit) :=
  [.serve ⟨some broken, press 2 (some ⟨9⟩), ()⟩, .serve ⟨none, press 2 (some ⟨9⟩), ()⟩, .receive,
    .serve ⟨some purge, press 2 (some ⟨9⟩), ()⟩, .receive, .receive]

theorem hearsAll_evening : ((Session.start (Dispatcher.new {} id)).run evening).HearsAll where
  not_lagged x hx := by
    simp only [Session.run, evening, List.foldl_cons, List.foldl_nil] at hx
    revert x
    decide
  drained := rfl

end Sample

/-- Two of the three requests reach a command, and the subscriber hears of both: a raised fault, and a
refusal that the caller got as well. -/
theorem heard_truthful_evening :
    ((Session.start (Dispatcher.new {} id)).run Sample.evening).HearsAll ∧
    ((Session.start (Dispatcher.new {} id)).run Sample.evening).served.length = 3 ∧
    (((Session.start (Dispatcher.new {} id)).run Sample.evening).heard.map (·.result.reason?)) =
      [some "database offline", some "missing required parameter 'count'"] ∧
    ∃ first last,
      ((Session.start (Dispatcher.new {} id)).run Sample.evening).heard = [first, last] ∧
      (∃ inputs execution, first.Truthful (Dispatcher.new {} id)
        ⟨some Sample.broken, Sample.press 2 (some ⟨9⟩), ()⟩ inputs execution) ∧
      (∃ inputs execution, last.Truthful (Dispatcher.new {} id)
        ⟨some Sample.purge, Sample.press 2 (some ⟨9⟩), ()⟩ inputs execution) := by
  obtain ⟨hserved, htruthful⟩ :=
    Dispatcher.heard_truthful (Dispatcher.new {} id) Sample.evening Sample.hearsAll_evening
  have hthree := congrArg List.length hserved
  rw [List.length_map] at hthree
  obtain ⟨⟨_, hfirst⟩, hrest⟩ := List.forall₂_cons.mp htruthful
  obtain ⟨⟨_, hlast⟩, _⟩ := List.forall₂_cons.mp hrest
  exact ⟨Sample.hearsAll_evening, hthree, rfl, _, _, rfl, ⟨_, _, hfirst⟩, ⟨_, _, hlast⟩⟩

end ChatDispatch
