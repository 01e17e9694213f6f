import ChatDispatch.Dispatch.Execution
import ChatDispatch.Proofs.Assembly

/-!
# The life of a module at work

For one unit of work a module is constructed, its hooks run around the handler, and it is dropped. Each of these
stages may end with a fault or a panic. What then comes next, and which fault the result comes from, is a relation
that has one rule for each way through the stages.

* **`Attempt.FaultsWith`** — the fault that a stage ends with, a panic among them.
* **`TakenFor`**, **`HandlerReturn.Gives`** — what a value that a handler returns is taken for, and the result then.
* **`Handles`**, **`Concludes`**, **`Lives`** — the rules for the handler, for the result at the end, and for the
  whole.
* **`Lives.work_eq`** — what the rules say is what the work does.
* **`work_lives`** — the headline, with the reasons of faults.
-/

namespace ChatDispatch

variable {σ : Type}

/-! ## The rules

Each rule is one way through a stage, and says by itself what comes of it. The rules for faults and for what a
handler returns come first, then those for the stages. -/

/-- The texts of a fault and of the errors that caused it, each of the one before. -/
def Fault.chain (f : Fault) : List String := f.wrappers ++ [f.root]

/-- What the host's code attempted ends with a fault: one of its own, or the panic as the only error in it. -/
inductive Attempt.FaultsWith {α : Type} : Attempt α → Fault → Prop where
  | faulted (fault : Fault) : FaultsWith (.faulted fault) fault
  | panicked {text : Option String} {fault : Fault} (hpanic : fault.isPanic = true)
      (hchain : fault.chain = [Fault.panicText (text.getD "handler panicked")]) :
      FaultsWith (.panicked text) fault

/-- What a value that a handler returns is taken for, by its type: nothing for the end of the handler, a result for
itself, a missing value for no result, and an error for a fault. -/
inductive TakenFor : {α : Type} → [ToHandlerReturn α] → α → Except Fault HandlerReturn → Prop where
  | unit : TakenFor () (.ok .completed)
  | handlerReturn (r : HandlerReturn) : TakenFor r (.ok r)
  | result (r : Result) : TakenFor r (.ok (.result r))
  | none {α : Type} [ToHandlerReturn α] : TakenFor (Option.none : Option α) (.ok .empty)
  | some {α : Type} [ToHandlerReturn α] {a : α} {taken : Except Fault HandlerReturn} (ha : TakenFor a taken) :
      TakenFor (Option.some a) taken
  | ok {ε α : Type} [ToFault ε] [ToHandlerReturn α] {a : α} {taken : Except Fault HandlerReturn}
      (ha : TakenFor a taken) : TakenFor (Except.ok a : Except ε α) taken
  | error {ε α : Type} [ToFault ε] [ToHandlerReturn α] (e : ε) :
      TakenFor (Except.error e : Except ε α) (.error (ToFault.toFault e))

/-- The result of what a handler returns: a success at its end, a result of its own as it is, and a failure if it
ends without one. -/
inductive HandlerReturn.Gives : HandlerReturn → Result → Prop where
  | completed : Gives .completed .success
  | result (r : Result) : Gives (.result r) r
  | empty : Gives .empty (.failure .unsuccessful "handler finished without a result" [])

/-- A stage of the work and the notes that the host's code leaves in it. -/
structure Stage where
  event : Event
  notes : List String

/-- What a stage leaves behind. -/
def Stage.events (s : Stage) : List Event := s.event :: s.notes.map .note

section Rules

variable (command : Command σ) (context : Context) (arguments : Arguments) (services : σ)

/-- The stages of the handler and the result after them. The handler runs if the hook before it does not fault. -/
inductive Handles (inst : Instance σ) : List Stage → Result → Prop where
  | skipped {fault : Fault}
      (hbefore : (inst.before context command.toCommandSpec).value.FaultsWith fault) :
      Handles inst [] (.ofFault fault)
  | faulted {fault : Fault} (hbefore : (inst.before context command.toCommandSpec).value = .returned ())
      (hhandler : (command.invoke inst ⟨context, arguments, services⟩).value.FaultsWith fault) :
      Handles inst [⟨.handle, (command.invoke inst ⟨context, arguments, services⟩).trace⟩] (.ofFault fault)
  | returned {r : HandlerReturn} {soFar : Result}
      (hbefore : (inst.before context command.toCommandSpec).value = .returned ())
      (hhandler : (command.invoke inst ⟨context, arguments, services⟩).value = .returned r)
      (hgives : r.Gives soFar) :
      Handles inst [⟨.handle, (command.invoke inst ⟨context, arguments, services⟩).trace⟩] soFar

/-- The result at the end. A fault of the hook after the handler counts if there is no other. -/
inductive Concludes (soFar : Result) (after : Attempt Unit) : Result → Prop where
  | kept (h : after = .returned () ∨ soFar.fault? ≠ none) : Concludes soFar after soFar
  | overruled {fault : Fault} (hafter : after.FaultsWith fault) (hnone : soFar.fault? = none) :
      Concludes soFar after (.ofFault fault)

/-- The stages of a unit of work and its result. Where the module is constructed, both hooks run, the second with
the result so far, and the module is dropped at the end. -/
inductive Lives : List Stage → Result → Prop where
  | unborn {fault : Fault} (hconstruct : (command.construct services).value.FaultsWith fault) :
      Lives [⟨.construct, (command.construct services).trace⟩] (.ofFault fault)
  | born {inst : Instance σ} (hconstruct : (command.construct services).value = .returned inst)
      {body : List Stage} {soFar result : Result} (hbody : Handles command context arguments services inst body soFar)
      (hend : Concludes soFar (inst.after context command.toCommandSpec soFar).value result) :
      Lives (⟨.construct, (command.construct services).trace⟩ ::
        ⟨.before, (inst.before context command.toCommandSpec).trace⟩ :: body ++
        [⟨.after soFar, (inst.after context command.toCommandSpec soFar).trace⟩,
          ⟨.dispose, inst.dispose⟩]) result

end Rules

/-! ## Faults

What is caught of an attempt and what the rules call a fault are the same thing. -/

/-- A value is caught of an attempt that returns it. -/
theorem Attempt.caught_eq_ok_iff {α : Type} {attempt : Attempt α} {a : α} :
    attempt.caught = .ok a ↔ attempt = .returned a := by
  cases attempt with
  | returned b => simp [Attempt.caught]
  | faulted fault => exact iff_of_false nofun nofun
  | panicked text => exact iff_of_false nofun nofun

/-- A fault is caught of an attempt that ends with it. -/
theorem Attempt.caught_eq_error_iff {α : Type} {attempt : Attempt α} {fault : Fault} :
    attempt.caught = .error fault ↔ attempt.FaultsWith fault := by
  constructor
  · intro h
    cases attempt with
    | returned a => cases h
    | faulted fault =>
      cases h
      exact .faulted _
    | panicked text =>
      cases h
      exact .panicked rfl rfl
  · intro h
    cases h with
    | faulted fault => rfl
    | @panicked text fault hpanic hchain =>
      -- the chain has one text, so nothing is around the panic
      obtain ⟨wrappers, root, isPanic⟩ := fault
      cases hpanic
      cases wrappers with
      | nil =>
        cases hchain
        rfl
      | cons wrapper wrappers => simp [Fault.chain] at hchain

/-- The last text of a fault is the root of all errors in it. -/
theorem Fault.getLast?_chain (fault : Fault) : fault.chain.getLast? = some fault.root :=
  List.getLast?_concat

/-! ## What handlers return

The rules for values and for returns leave no choice, so each says what the conversion makes of it. -/

/-- What a value is taken for is what it is converted to. -/
theorem TakenFor.toReturn_eq {α : Type} [ToHandlerReturn α] {a : α} {taken : Except Fault HandlerReturn}
    (h : TakenFor a taken) : toReturn a = taken := by
  -- by the nesting of the types: a value or a success inside is converted first
  induction h with
  | unit => rfl
  | handlerReturn r => rfl
  | result r => rfl
  | none => rfl
  | some _ ih => exact ih
  | ok _ ih => exact ih
  | error e => rfl

/-- The result by the rules is the one that is made. -/
theorem HandlerReturn.Gives.toResult_eq {r : HandlerReturn} {result : Result} (h : r.Gives result) :
    r.toResult = result := by
  cases h with
  | completed => rfl
  | result r => rfl
  | empty => rfl

theorem HandlerReturn.exists_gives (r : HandlerReturn) : ∃ result, r.Gives result := by
  cases r with
  | completed => exact ⟨_, .completed⟩
  | result r => exact ⟨_, .result r⟩
  | empty => exact ⟨_, .empty⟩

/-! ## What the work does

The work is cut where the rules are: the construction, what leads to the result so far, and the end. -/

section Work

variable (command : Command σ) (context : Context) (arguments : Arguments) (services : σ)

/-- The handler, if the hook before it does not fault. -/
def handled (inst : Instance σ) : Logged Result :=
  match (inst.before context command.toCommandSpec).value.caught with
  | .error fault => pure (.ofFault fault)
  | .ok _ => runHandler command context arguments services inst

/-- The hook after the handler and the end of the module. -/
def concluded (inst : Instance σ) (soFar : Result) : Logged Result := do
  Traced.leave (.after soFar)
  let after ← runHost (inst.after context command.toCommandSpec soFar)
  Traced.leave .dispose
  let _ ← runHost ⟨(), inst.dispose⟩
  return afterHook soFar after.caught

variable {command context arguments services}

theorem bind_stage {α β : Type} (event : Event) (x : Noted α) (f : α → Logged β) :
    (Traced.leave event >>= fun _ => runHost x >>= f) =
      ⟨(f x.value).value, Stage.events ⟨event, x.trace⟩ ++ (f x.value).trace⟩ := rfl

theorem work_of_faultsWith {fault : Fault} (h : (command.construct services).value.FaultsWith fault) :
    work command context arguments services =
      ⟨.ofFault fault, Stage.events ⟨.construct, (command.construct services).trace⟩⟩ := by
  rw [work, bind_stage, Attempt.caught_eq_error_iff.mpr h]
  exact congrArg (Traced.mk _) (List.append_nil _)

/-- A module that is constructed goes through the hook, the handler and the end. -/
theorem work_of_returned {inst : Instance σ} (h : (command.construct services).value = .returned inst) :
    work command context arguments services =
      ⟨(handled command context arguments services inst >>= concluded command context inst).value,
        Stage.events ⟨.construct, (command.construct services).trace⟩ ++
          (Stage.events ⟨.before, (inst.before context command.toCommandSpec).trace⟩ ++
            (handled command context arguments services inst >>= concluded command context inst).trace)⟩ := by
  rw [work, bind_stage, Attempt.caught_eq_ok_iff.mpr h]
  dsimp only
  rw [bind_stage, handled]
  cases (inst.before context command.toCommandSpec).value.caught with
  | ok _ => rfl
  | error fault => rfl

/-- The rules for the handler say what it does. -/
theorem Handles.handled_eq {inst : Instance σ} {stages : List Stage} {soFar : Result}
    (h : Handles command context arguments services inst stages soFar) :
    handled command context arguments services inst = ⟨soFar, stages.flatMap Stage.events⟩ := by
  unfold handled
  cases h with
  | skipped hbefore =>
    rw [Attempt.caught_eq_error_iff.mpr hbefore]
    rfl
  | faulted hbefore hhandler =>
    rw [hbefore, runHandler, bind_stage, Attempt.caught_eq_error_iff.mpr hhandler]
    rfl
  | returned hbefore hhandler hgives =>
    rw [hbefore, runHandler, bind_stage, hhandler, ← hgives.toResult_eq]
    rfl

/-- The rules for the end say what it does. -/
theorem Concludes.concluded_eq {inst : Instance σ} {soFar result : Result}
    (h : Concludes soFar (inst.after context command.toCommandSpec soFar).value result) :
    concluded command context inst soFar =
      ⟨result, Stage.events ⟨.after soFar, (inst.after context command.toCommandSpec soFar).trace⟩ ++
        Stage.events ⟨.dispose, inst.dispose⟩⟩ := by
  -- the result of the hook counts as the rules say
  have hresult : afterHook soFar (inst.after context command.toCommandSpec soFar).value.caught = result := by
    unfold afterHook
    cases h with
    | overruled hafter hnone =>
      rw [Attempt.caught_eq_error_iff.mpr hafter, hnone]
      rfl
    | kept h =>
      cases hcaught : (inst.after context command.toCommandSpec soFar).value.caught with
      | ok _ => rfl
      | error fault =>
        cases h with
        -- the hook has returned, so nothing was caught of it
        | inl hreturned => cases (Attempt.caught_eq_ok_iff.mpr hreturned).symm.trans hcaught
        | inr hsome => exact if_pos (Option.isSome_iff_ne_none.mpr hsome)
  rw [concluded, bind_stage, bind_stage, hresult]
  exact congrArg (Traced.mk _) (congrArg _ (List.append_nil _))

/-- **The rules say what the work does.** -/
theorem Lives.work_eq {stages : List Stage} {result : Result}
    (h : Lives command context arguments services stages result) :
    work command context arguments services = ⟨result, stages.flatMap Stage.events⟩ := by
  cases h with
  | unborn hconstruct =>
    rw [work_of_faultsWith hconstruct, List.flatMap_singleton]
  | born hconstruct hbody hend =>
    rw [work_of_returned hconstruct, hbody.handled_eq, Traced.value_bind, Traced.trace_bind, hend.concluded_eq]
    simp only [List.flatMap_cons, List.flatMap_append, List.flatMap_nil, List.append_nil, List.cons_append]

end Work

/-! ## There is a way through the stages

At each stage the host's code returns or faults, and there is a rule for either. -/

theorem Attempt.returned_or_faultsWith {α : Type} (attempt : Attempt α) :
    (∃ a, attempt = .returned a) ∨ ∃ fault, attempt.FaultsWith fault := by
  cases hcaught : attempt.caught with
  | ok a => exact .inl ⟨a, caught_eq_ok_iff.mp hcaught⟩
  | error fault => exact .inr ⟨fault, caught_eq_error_iff.mp hcaught⟩

/-- There is a way through the handler. -/
theorem exists_handles (command : Command σ) (context : Context) (arguments : Arguments) (services : σ)
    (inst : Instance σ) : ∃ stages soFar, Handles command context arguments services inst stages soFar := by
  rcases (inst.before context command.toCommandSpec).value.returned_or_faultsWith with
    ⟨_, hbefore⟩ | ⟨fault, hbefore⟩
  · rcases (command.invoke inst ⟨context, arguments, services⟩).value.returned_or_faultsWith with
      -- the hook returned, and then the handler did or did not
      ⟨r, hhandler⟩ | ⟨fault, hhandler⟩
    · obtain ⟨soFar, hgives⟩ := r.exists_gives
      exact ⟨_, _, .returned hbefore hhandler hgives⟩
    · exact ⟨_, _, .faulted hbefore hhandler⟩
  · exact ⟨_, _, .skipped hbefore⟩

/-- There is a way to the end. -/
theorem exists_concludes (soFar : Result) (after : Attempt Unit) : ∃ result, Concludes soFar after result := by
  by_cases hnone : soFar.fault? = none
  · cases after.returned_or_faultsWith with
    | inl h => exact ⟨_, .kept (.inl h.choose_spec)⟩
    | inr h =>
      obtain ⟨fault, hafter⟩ := h
      exact ⟨_, .overruled hafter hnone⟩
  · exact ⟨_, .kept (.inr hnone)⟩

/-- There is a way through all stages. -/
theorem exists_lives (command : Command σ) (context : Context) (arguments : Arguments) (services : σ) :
    ∃ stages result, Lives command context arguments services stages result := by
  rcases (command.construct services).value.returned_or_faultsWith with ⟨inst, hconstruct⟩ | ⟨fault, hconstruct⟩
  · obtain ⟨body, soFar, hbody⟩ := exists_handles command context arguments services inst
    obtain ⟨result, hend⟩ := exists_concludes soFar (inst.after context command.toCommandSpec soFar).value
    exact ⟨_, _, .born hconstruct hbody hend⟩
  · exact ⟨_, _, .unborn hconstruct⟩

/-- **The life of a module at work.** Whatever the construction, the hooks and the handler do, there is a way
through the stages, and every way gives the result of the work and what it leaves behind. The exception that is
made of a fault has the last error in the chain of the fault for its reason. A handler whose values are of a type
of its own returns what they are taken for. -/
theorem work_lives (command : Command σ) (context : Context) (arguments : Arguments) (services : σ) :
    (∃ stages, Lives command context arguments services stages (work command context arguments services).value) ∧
    (∀ stages result, Lives command context arguments services stages result →
      (work command context arguments services).value = result ∧
      (work command context arguments services).trace = stages.flatMap Stage.events) ∧
    (∀ fault, (Result.ofFault fault).kind? = some .exception ∧
      (Result.ofFault fault).reason? = fault.chain.getLast?) ∧
    (∀ {α : Type} [ToHandlerReturn α] (a : α) taken, TakenFor a taken → toReturn a = taken) := by
  obtain ⟨stages, result, hlives⟩ := exists_lives command context arguments services
  refine ⟨⟨stages, ?_⟩, fun stages result h => ?_, fun fault => ⟨rfl, fault.getLast?_chain.symm⟩,
    fun a taken h => h.toReturn_eq⟩
  · rw [hlives.work_eq]
    exact hlives
  · rw [h.work_eq]
    exact ⟨rfl, rfl⟩

namespace Sample

/-- A module that leaves notes, whose hook after the handler faults. -/
def leaky : Instance Unit where
  typeName := "host::Cleanup"
  before _ _ := ⟨.returned (), ["ready"]⟩
  after _ _ _ := ⟨.faulted ⟨["cannot flush"], "disk full", false⟩, ["flushing"]⟩
  dispose := ["closed"]

/-- A command of this module, with what its handler comes to. -/
def leaking (attempt : Attempt HandlerReturn) : Command Unit :=
  { purge with
    construct := fun _ => ⟨.returned leaky, ["opened"]⟩
    handler := fun _ _ => ⟨attempt, ["purging"]⟩ }

/-- The stages of its work, with the result that the hook after the handler is given. -/
def leakingStages (soFar : Result) : List Stage :=
  [⟨.construct, ["opened"]⟩, ⟨.before, ["ready"]⟩, ⟨.handle, ["purging"]⟩, ⟨.after soFar, ["flushing"]⟩,
    ⟨.dispose, ["closed"]⟩]

/-- Its handler panics. -/
def crashing : Command Unit := leaking (.panicked (some "index out of range"))

def crash : Fault := ⟨[], "handler panicked: index out of range", true⟩

/-- A failure that a handler gives of its own accord, without a fault. -/
def refusal : Result := .ofKind .unsuccessful "nothing to purge"

/-- A fault that a handler gives as its result. -/
def locked : Fault := ⟨["cannot purge"], "channel is locked", false⟩

/-- The fault of the hook. -/
def full : Fault := ⟨["cannot flush"], "disk full", false⟩

theorem lives_crashing :
    Lives crashing (press 2 none) ⟨[]⟩ () (leakingStages (.ofFault crash)) (.ofFault crash) := by
  have hpanic : (Attempt.panicked (some "index out of range") : Attempt HandlerReturn).FaultsWith crash :=
    .panicked rfl rfl
  have hbody : Handles crashing (press 2 none) ⟨[]⟩ () leaky [⟨.handle, ["purging"]⟩] (.ofFault crash) :=
    .faulted rfl hpanic
  exact .born rfl hbody (.kept (.inr nofun))

/-- The handler returns a result, and the hook after it faults. -/
theorem lives_leaking {r result : Result}
    (hend : Concludes r (.faulted full) result) :
    Lives (leaking (.returned (.result r))) (press 2 none) ⟨[]⟩ () (leakingStages r) result := by
  have hbody : Handles (leaking (.returned (.result r))) (press 2 none) ⟨[]⟩ () leaky
      [⟨.handle, ["purging"]⟩] r := .returned rfl rfl (.result r)
  exact .born rfl hbody hend

end Sample

/-- The hook after the handler faults each time. Its fault does not hide the panic of the handler, nor a fault that
the handler gives as its result. It takes the place of a failure without a fault. -/
theorem work_lives_crashing :
    (Lives Sample.crashing (Sample.press 2 none) ⟨[]⟩ () (Sample.leakingStages (.ofFault Sample.crash))
        (.ofFault Sample.crash) ∧
      (work Sample.crashing (Sample.press 2 none) ⟨[]⟩ ()).value = .ofFault Sample.crash ∧
      (work Sample.crashing (Sample.press 2 none) ⟨[]⟩ ()).trace =
        (Sample.leakingStages (.ofFault Sample.crash)).flatMap Stage.events ∧
      (Result.ofFault Sample.crash).reason? = some "handler panicked: index out of range") ∧
    (Lives (Sample.leaking (.returned (.result (.ofFault Sample.locked)))) (Sample.press 2 none) ⟨[]⟩ ()
        (Sample.leakingStages (.ofFault Sample.locked)) (.ofFault Sample.locked) ∧
      (work (Sample.leaking (.returned (.result (.ofFault Sample.locked)))) (Sample.press 2 none) ⟨[]⟩ ()).value =
        .ofFault Sample.locked) ∧
    (Lives (Sample.leaking (.returned (.result Sample.refusal))) (Sample.press 2 none) ⟨[]⟩ ()
        (Sample.leakingStages Sample.refusal) (.ofFault Sample.full) ∧
      (work (Sample.leaking (.returned (.result Sample.refusal))) (Sample.press 2 none) ⟨[]⟩ ()).value =
        .ofFault Sample.full ∧
      (Result.ofFault Sample.full).reason? = some "disk full") ∧
    toReturn (.ok (some Sample.refusal) : Except Fault (Option Result)) = .ok (.result Sample.refusal) := by
  -- a fault in the result of the handler is kept
  have hlocked : Lives (Sample.leaking (.returned (.result (.ofFault Sample.locked)))) (Sample.press 2 none)
      ⟨[]⟩ () (Sample.leakingStages (.ofFault Sample.locked)) (.ofFault Sample.locked) :=
    Sample.lives_leaking (.kept (.inr nofun))
  -- a failure without one is not
  have hrefusal : Lives (Sample.leaking (.returned (.result Sample.refusal))) (Sample.press 2 none)
      ⟨[]⟩ () (Sample.leakingStages Sample.refusal) (.ofFault Sample.full) :=
    Sample.lives_leaking (.overruled (.faulted _) rfl)
  obtain ⟨_, hway, hreason, htaken⟩ := work_lives Sample.crashing (Sample.press 2 none) ⟨[]⟩ ()
  obtain ⟨hvalue, htrace⟩ := hway _ _ Sample.lives_crashing
  obtain ⟨_, hlockedWay, _⟩ :=
    work_lives (Sample.leaking (.returned (.result (.ofFault Sample.locked)))) (Sample.press 2 none) ⟨[]⟩ ()
  obtain ⟨_, hrefusalWay, _⟩ :=
    work_lives (Sample.leaking (.returned (.result Sample.refusal))) (Sample.press 2 none) ⟨[]⟩ ()
  exact ⟨⟨Sample.lives_crashing, hvalue, htrace, (hreason Sample.crash).2⟩,
    ⟨hlocked, (hlockedWay _ _ hlocked).1⟩,
    ⟨hrefusal, (hrefusalWay _ _ hrefusal).1, (hreason Sample.full).2⟩,
    htaken _ _ (.ok (.some (.result Sample.refusal)))⟩

end ChatDispatch
