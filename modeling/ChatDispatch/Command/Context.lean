import ChatDispatch.Interaction.Basic
import ChatDispatch.Outcome.Result
import ChatDispatch.Outcome.Traced

/-!
# What a dispatch leaves behind

The events of a dispatch in their order, and the context that it hands to the code of the host: the
interaction and the transport that can answer it.
-/

namespace ChatDispatch

/-- A call to the transport that answers interactions. -/
inductive ResponderCall where
  /-- Takes the acknowledgement of the interaction back. -/
  | deleteOriginal
  /-- Answers a request for suggestions. -/
  | suggest (choices : List Choice)

/-- Why the transport refuses a call. -/
inductive ResponderError where
  | alreadyResponded
  | transport (cause : String)

/-- The text that explains the refusal. -/
def ResponderError.message : ResponderError → String
  | .alreadyResponded => "interaction already answered"
  | .transport cause => s!"transport error: {cause}"

/-- The transport that answers an interaction. -/
structure Responder where
  answer : ResponderCall → Noted (Except ResponderError Unit)

/-- A transport that takes every call. -/
def Responder.accepting : Responder := ⟨fun _ => pure (.ok ())⟩

/-- What a recording transport has been asked for. -/
structure Recorded where
  deletedOriginals : Nat
  /-- The suggestions of every answer, in order. -/
  choices : List (List Choice)

/-- Nothing recorded. -/
def Recorded.nothing : Recorded := ⟨0, []⟩

/-- Records one more call. -/
def Recorded.record (r : Recorded) : ResponderCall → Recorded
  | .deleteOriginal => { r with deletedOriginals := r.deletedOriginals + 1 }
  | .suggest choices => { r with choices := r.choices ++ [choices] }

/-- One thing that happened in a dispatch. -/
inductive Event where
  /-- The code of the host left a note. -/
  | note (text : String)
  /-- The construction of the module begins. -/
  | construct
  /-- The hook before the handler begins. -/
  | before
  /-- The body of the handler begins. -/
  | handle
  /-- The hook after the handler begins, with the result so far. -/
  | after (result : Result)
  /-- The module is dropped. -/
  | dispose
  /-- The transport is called. -/
  | respond (call : ResponderCall)

/-- The note in an event. -/
def Event.note? : Event → Option String
  | .note text => some text
  | _ => none

/-- The call to the transport in an event. -/
def Event.call? : Event → Option ResponderCall
  | .respond call => some call
  | _ => none

/-- Whether the event belongs to the work that a command does once it is let through. -/
def Event.isWork : Event → Bool
  | .construct | .before | .handle | .after _ | .dispose => true
  | _ => false

/-- A computation of the library. -/
abbrev Logged := Traced Event

/-- Runs code of the host inside the library. -/
def runHost {α : Type} (x : Noted α) : Logged α := x.mapTrace .note

/-- The interaction that is dispatched and the transport that answers it, if there is one. -/
structure Context where
  interaction : Interaction
  responder : Option Responder

end ChatDispatch
