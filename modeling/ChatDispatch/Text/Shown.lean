import ChatDispatch.Text.Quoted

/-!
# How diagnostics show values

A value is shown by the name of its form with its parts: fields in braces, positions in
parentheses, lists in brackets. A form that keeps some of its parts back ends in two dots.
-/

namespace ChatDispatch.Text

/-- Fields in braces after a name. -/
def showRecord (name : String) (fields : List (String × String)) : String :=
  let body := ", ".intercalate (fields.map fun (field, value) => field ++ ": " ++ value)
  name ++ " \x7b " ++ body ++ " \x7d"

/-- Fields in braces after a name, with the note that there are more of them. -/
def showOpenRecord (name : String) (fields : List (String × String)) : String :=
  let body := ", ".intercalate (fields.map (fun (field, value) => field ++ ": " ++ value) ++ [".."])
  name ++ " \x7b " ++ body ++ " \x7d"

/-- One part in parentheses after a name. -/
def showTagged (name part : String) : String := name ++ "(" ++ part ++ ")"

/-- Items in brackets. -/
def showList (items : List String) : String := "[" ++ ", ".intercalate items ++ "]"

/-- A pair in parentheses. -/
def showPair (first second : String) : String := "(" ++ first ++ ", " ++ second ++ ")"

/-- A value that may be absent. -/
def showOption {α : Type} (f : α → String) : Option α → String
  | none => "None"
  | some a => showTagged "Some" (f a)

/-- A truth value. -/
def showBool (b : Bool) : String := if b then "true" else "false"

end ChatDispatch.Text
