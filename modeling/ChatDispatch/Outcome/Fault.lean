/-!
# Faults

What goes wrong inside the code of the host: an error with the errors that caused it, or a panic. A
panic is kept apart from an error until it has been caught; then it is a fault of its own kind.
-/

namespace ChatDispatch

/-- A fault: the texts of the errors around the innermost one, outermost first, and the innermost
one itself. -/
structure Fault where
  wrappers : List String
  root : String
  /-- Whether the innermost error is a caught panic. -/
  isPanic : Bool
deriving DecidableEq

namespace Fault

/-- A fault that is a message. -/
def ofMessage (message : String) : Fault := ⟨[], message, false⟩

/-- The innermost error of a fault that is a caught panic. -/
def panicText (text : String) : String := s!"handler panicked: {text}"

/-- A caught panic. A panic that carries no text is given one. -/
def ofPanic (text : Option String) : Fault :=
  ⟨[], panicText (text.getD "handler panicked"), true⟩

/-- The text of the fault, that of its outermost error. -/
def message (f : Fault) : String := f.wrappers.head?.getD f.root

end Fault

/-- What a piece of the host's code did. -/
inductive Attempt (α : Type) where
  | returned (a : α)
  | faulted (fault : Fault)
  /-- A panic, with its text if it carries one. -/
  | panicked (text : Option String)

namespace Attempt

variable {α : Type}

/-- The value or the fault; a panic is caught. -/
def caught : Attempt α → Except Fault α
  | returned a => .ok a
  | faulted fault => .error fault
  | panicked text => .error (.ofPanic text)

end Attempt

end ChatDispatch
