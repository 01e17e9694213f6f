/-!
# Services

A collection of services that a host may hand to its own code: at most one service of each type,
found by the name of the type.
-/

namespace ChatDispatch

/-- Services of a host, by the names of their types. -/
structure Services (σ : Type) where
  entries : List (String × σ)

/-- Why a service cannot be had. -/
inductive ServiceError where
  | notRegistered (typeName : String)

/-- The name by which programs tell errors apart. -/
def ServiceError.name : ServiceError → String
  | .notRegistered _ => "NotRegistered"

/-- The text that explains the error. -/
def ServiceError.message : ServiceError → String
  | .notRegistered typeName => s!"no service registered for {typeName}"

namespace Services

variable {σ : Type}

/-- No services. -/
def empty : Services σ := ⟨[]⟩

/-- Adds a service in place of another of the same type. -/
def insert (services : Services σ) (typeName : String) (service : σ) : Services σ :=
  ⟨services.entries.filter (fun e => !(e.1 == typeName)) ++ [(typeName, service)]⟩

/-- The number of services. -/
def size (services : Services σ) : Nat := services.entries.length

/-- The service of a type. -/
def resolve (services : Services σ) (typeName : String) : Except ServiceError σ :=
  match services.entries.find? (·.1 == typeName) with
  | some (_, service) => .ok service
  | none => .error (.notRegistered typeName)

end Services

end ChatDispatch
