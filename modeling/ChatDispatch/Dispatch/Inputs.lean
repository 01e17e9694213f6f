import ChatDispatch.Interaction.Basic

/-!
# Inputs of a command

The raw values that an interaction supplies for the parameters of a command: some by position, some
by name.
-/

namespace ChatDispatch

/-- Raw values by position and by name, each in order. -/
structure Inputs where
  positional : List RawValue
  named : List (String × RawValue)

/-- The values of options as named inputs. -/
def namedInputs (values : List NamedValue) : List (String × RawValue) :=
  values.map fun v => (v.name, v.value)

/-- The inputs that an interaction supplies. The captures of the identifier come first; after them
the target of a menu command or the values of a component. Options and form fields are named. -/
def Inputs.ofInteraction (interaction : Interaction) (captures : List String) : Inputs :=
  let captured := captures.map RawValue.text
  match interaction.payload with
  | .command data =>
    { positional := captured ++ data.target.toList
      named := namedInputs (optionPath data.name data.options).values }
  | .autocomplete data =>
    { positional := captured
      named := namedInputs (optionPath data.name data.options).values }
  | .component data =>
    { positional := captured ++ data.values.map RawValue.text
      named := [] }
  | .modal data =>
    { positional := captured
      named := data.fields.map fun f => (f.customId, .text f.value) }

end ChatDispatch
