import ChatDispatch.Command.Basic
import ChatDispatch.Dispatch.Inputs

/-!
# Binding arguments

The parameters of a command take their raw values in order: values by position as long as there are
any, then values under the name of the parameter. A variadic parameter takes all that is left. Every
value has to be among the choices of its parameter and within its bounds, and the converter of the
parameter has to accept it.

* `bindArguments` gives one argument for each parameter or the first thing that is wrong.
-/

namespace ChatDispatch

variable {σ : Type}

/-- What is wrong with the inputs of a command. -/
inductive BindError where
  /-- A required parameter gets no value. -/
  | missing (parameter : String)
  | notAChoice (parameter : String) (value : RawValue)
  | outOfRange (parameter : String) (number : Float)
  | declined (parameter : String) (e : ConversionError)

/-- The text that explains the error. -/
def BindError.message : BindError → String
  | .missing parameter => s!"missing required parameter '{parameter}'"
  | .notAChoice parameter value => s!"parameter '{parameter}' does not accept {value.shown}"
  | .outOfRange parameter number =>
    s!"parameter '{parameter}' is out of range: {Decimal.plain number}"
  | .declined parameter e => s!"parameter '{parameter}': {e.message}"

/-- The result of a dispatch whose arguments cannot be bound. -/
def BindError.toResult (e : BindError) : Result := .ofKind .badArgs e.message

/-- The number in a raw value that is one, as a double. -/
def boundedNumber? : RawValue → Option Float
  | .integer n => some (Converter.widen n)
  | .number x => some x
  | _ => none

/-- Requires a value to be one of the choices of the parameter, if it has any. -/
def checkChoices (p : ParameterSpec) (value : RawValue) : Except BindError Unit :=
  if p.choices.isEmpty || p.choices.any (·.matches value) then .ok ()
  else .error (.notAChoice p.name value)

/-- Whether a number is neither below the least nor above the greatest one. -/
def withinBounds (min max : Option Float) (x : Float) : Bool :=
  !(min.any (x < ·)) && !(max.any (x > ·))

/-- Requires a number to be within the bounds of the parameter; other values have no bounds. -/
def checkBounds (p : ParameterSpec) (value : RawValue) : Except BindError Unit :=
  match boundedNumber? value with
  | some x => if withinBounds p.min p.max x then .ok () else .error (.outOfRange p.name x)
  | none => .ok ()

/-- The argument that the parameter makes of a value. -/
def Parameter.convert (p : Parameter σ) (interaction : Interaction) (value : RawValue) :
    Except BindError Argument := do
  checkChoices p.toParameterSpec value
  checkBounds p.toParameterSpec value
  match p.converter.convert interaction value p.type with
  | .ok a => .ok a
  | .error e => .error (.declined p.name e)

/-- Takes the first value whose name is `name` without regard to the case of A to Z, and leaves the
others. -/
def takeNamed? (name : String) : List (String × RawValue) →
    Option (RawValue × List (String × RawValue))
  | [] => none
  | (n, v) :: rest =>
    if Text.sameAscii n name then some (v, rest)
    else (takeNamed? name rest).map fun (found, others) => (found, (n, v) :: others)

/-- Takes the value for a parameter that is not variadic. -/
def Inputs.next? (inputs : Inputs) (name : String) : Option (RawValue × Inputs) :=
  match inputs.positional with
  | v :: rest => some (v, { inputs with positional := rest })
  | [] => (takeNamed? name inputs.named).map fun (v, rest) => (v, { inputs with named := rest })

/-- Takes the values for a variadic parameter: all that are left by position or, if there are none,
all that are left by name. -/
def Inputs.takeAll (inputs : Inputs) : List RawValue × Inputs :=
  if inputs.positional.isEmpty then (inputs.named.map (·.2), { inputs with named := [] })
  else (inputs.positional, { inputs with positional := [] })

/-- Binds one parameter: its argument, and the inputs that are left. -/
def bindParameter (interaction : Interaction) (p : Parameter σ) (inputs : Inputs) :
    Except BindError (Argument × Inputs) :=
  if p.variadic then
    let (values, rest) := inputs.takeAll
    if values.isEmpty && p.required then .error (.missing p.name)
    else do
      let elements ← values.mapM (p.convert interaction)
      return (.variadic elements, rest)
  else
    match inputs.next? p.name with
    | some (value, rest) => (p.convert interaction value).map (·, rest)
    | none =>
      if p.required then .error (.missing p.name)
      else .ok (p.default.getD .missing, inputs)

/-- Binds parameters in order. -/
def bindParameters (interaction : Interaction) :
    List (Parameter σ) → Inputs → Except BindError (List Argument)
  | [], _ => .ok []
  | p :: ps, inputs => do
    let (argument, rest) ← bindParameter interaction p inputs
    let arguments ← bindParameters interaction ps rest
    return argument :: arguments

/-- The arguments that a command gets from inputs: one for each of its parameters. -/
def bindArguments (command : CommandSpec σ) (interaction : Interaction) (inputs : Inputs) :
    Except BindError Arguments :=
  (bindParameters interaction command.parameters inputs).map .mk

end ChatDispatch
