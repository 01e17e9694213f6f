/-!
# Traced computations

A computation together with what it did on the way, in order. The code of the host leaves notes;
the library leaves events, among them the notes of the code that it runs.
-/

namespace ChatDispatch

/-- A value and what was left on the way to it, oldest first. -/
structure Traced (ε α : Type) where
  value : α
  trace : List ε

namespace Traced

variable {ε δ α β : Type}

instance : Monad (Traced ε) where
  pure a := ⟨a, []⟩
  bind x f :=
    let y := f x.value
    ⟨y.value, x.trace ++ y.trace⟩

/-- Leaves one thing behind. -/
def leave (e : ε) : Traced ε Unit := ⟨(), [e]⟩

/-- Changes what is left behind. -/
def mapTrace (f : ε → δ) (x : Traced ε α) : Traced δ α := ⟨x.value, x.trace.map f⟩

@[simp] theorem value_pure (a : α) : (pure a : Traced ε α).value = a := rfl

@[simp] theorem trace_pure (a : α) : (pure a : Traced ε α).trace = [] := rfl

@[simp] theorem value_bind (x : Traced ε α) (f : α → Traced ε β) :
    (x >>= f).value = (f x.value).value := rfl

@[simp] theorem trace_bind (x : Traced ε α) (f : α → Traced ε β) :
    (x >>= f).trace = x.trace ++ (f x.value).trace := rfl

end Traced

/-- A computation of the host: what it leaves behind are notes. -/
abbrev Noted := Traced String

end ChatDispatch
