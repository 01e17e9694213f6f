import ChatDispatch.Outcome.Fault

/-!
# Results of dispatches

A dispatch succeeds or fails for a reason of one of six kinds. A failed group of preconditions holds
the result of every member, and a failure that comes from a fault holds the fault.
-/

namespace ChatDispatch

/-- The kinds of failure. -/
inductive FailureKind where
  /-- No loaded command fits the interaction. -/
  | unknownCommand
  /-- The command cannot handle interactions of this kind. -/
  | parseFailed
  /-- The arguments could not be bound. -/
  | badArgs
  /-- A hook or the handler faulted. -/
  | exception
  /-- The handler ended without a result. -/
  | unsuccessful
  /-- A precondition was not met. -/
  | unmetPrecondition
deriving DecidableEq

/-- The kind in a word. -/
def FailureKind.name : FailureKind → String
  | .unknownCommand => "unknown_command"
  | .parseFailed => "parse_failed"
  | .badArgs => "bad_args"
  | .exception => "exception"
  | .unsuccessful => "unsuccessful"
  | .unmetPrecondition => "unmet_precondition"

/-- The result of a dispatch. -/
inductive Result where
  | success
  | failure (kind : FailureKind) (reason : String) (nested : List Result)
  /-- The failure that a fault leads to. Its kind and its reason are those of the fault. -/
  | ofFault (fault : Fault)

instance : Inhabited Result := ⟨.success⟩

namespace Result

/-- A failure without nested results and without a fault. -/
def ofKind (kind : FailureKind) (reason : String) : Result := failure kind reason []

/-- The failure of a group of preconditions with the result of every member. -/
def ofGroup (reason : String) (nested : List Result) : Result :=
  failure .unmetPrecondition reason nested

/-- Whether the dispatch succeeded. -/
def isSuccess : Result → Bool
  | success => true
  | failure _ _ _ | ofFault _ => false

/-- The kind of a failure. -/
def kind? : Result → Option FailureKind
  | success => none
  | failure kind _ _ => some kind
  | ofFault _ => some .exception

/-- The reason of a failure. That of a fault is its innermost error. -/
def reason? : Result → Option String
  | success => none
  | failure _ reason _ => some reason
  | ofFault fault => some fault.root

/-- The fault that a failure comes from. -/
def fault? : Result → Option Fault
  | success | failure _ _ _ => none
  | ofFault fault => some fault

/-- The result in a line. -/
def message : Result → String
  | success => "success"
  | failure kind reason _ => s!"{kind.name}: {reason}"
  | ofFault fault => s!"{FailureKind.exception.name}: {fault.root}"

mutual

/-- Whether two results are equal; the faults behind them do not count. -/
def same : Result → Result → Bool
  | success, success => true
  | failure k r nested, failure l s others => k = l && r == s && sameAll nested others
  | ofFault f, ofFault g => f.root == g.root
  | failure k r nested, ofFault f | ofFault f, failure k r nested =>
    k = .exception && r == f.root && nested.isEmpty
  | _, _ => false

/-- Whether two lists of results are equal one by one. -/
def sameAll : List Result → List Result → Bool
  | [], [] => true
  | a :: as, b :: bs => a.same b && sameAll as bs
  | _, _ => false

end

end Result

/-! ## What handlers return -/

/-- What the body of a handler produced. -/
inductive HandlerReturn where
  /-- The handler came to its end. -/
  | completed
  /-- The handler gave a result of its own. -/
  | result (r : Result)
  /-- The handler ended without a result. -/
  | empty

/-- The result of a dispatch whose handler returned. -/
def HandlerReturn.toResult : HandlerReturn → Result
  | .completed => .success
  | .result r => r
  | .empty => .ofKind .unsuccessful "handler finished without a result"

/-- Errors that are faults of a handler. -/
class ToFault (ε : Type) where
  toFault : ε → Fault

instance : ToFault Fault := ⟨id⟩

/-- An error that is a message. -/
instance : ToFault String := ⟨Fault.ofMessage⟩

/-- Types that a handler may return. -/
class ToHandlerReturn (α : Type) where
  toReturn : α → Except Fault HandlerReturn

export ToHandlerReturn (toReturn)

/-- A handler that returns nothing came to its end. -/
instance : ToHandlerReturn Unit := ⟨fun _ => .ok .completed⟩

instance : ToHandlerReturn HandlerReturn := ⟨.ok⟩

instance : ToHandlerReturn Result := ⟨fun r => .ok (.result r)⟩

/-- A missing value is a missing result. -/
instance {α : Type} [ToHandlerReturn α] : ToHandlerReturn (Option α) where
  toReturn
    | none => .ok .empty
    | some a => toReturn a

/-- An error is a fault. -/
instance {ε α : Type} [ToFault ε] [ToHandlerReturn α] : ToHandlerReturn (Except ε α) where
  toReturn
    | .ok a => toReturn a
    | .error e => .error (ToFault.toFault e)

end ChatDispatch
