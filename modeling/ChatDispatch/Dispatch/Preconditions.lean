import ChatDispatch.Command.Basic

/-!
# Preconditions

Three tiers of checks stand between bound arguments and the work of a command: the checks of its
parameters on their arguments, the checks of the modules around it, and its own. A tier of modules
or of a command is gone through label by label, in the order in which the labels first appear:
checks without a label must all pass, and of the checks with one label one must pass.

* `checkTier` goes through one tier.
* `checkPreconditions` goes through all three.
-/

namespace ChatDispatch

variable {σ : Type}

/-- The result of a dispatch that a check has rejected. -/
def rejected (reason : String) : Result := .ofKind .unmetPrecondition reason

/-- The label of a check; an empty one is none. -/
def Precondition.group (p : Precondition σ) : Option String := p.label.filter (!·.isEmpty)

/-- The checks of a tier by label, in the order in which labels first appear. -/
def byLabel (tier : List (Precondition σ)) : List (Option String × List (Precondition σ)) :=
  (tier.map (·.group)).eraseDups.map fun label => (label, tier.filter (·.group == label))

/-- Makes checks one after the other up to the first that fails. -/
def checkEach : List (Noted (Except String Unit)) → Logged (Except Result Unit)
  | [] => pure (.ok ())
  | check :: checks => do
    match ← runHost check with
    | .ok _ => checkEach checks
    | .error reason => return .error (rejected reason)

/-- The result of a single member of a group. -/
def memberResult : Except String Unit → Result
  | .ok _ => .success
  | .error reason => rejected reason

/-- Makes all checks and gives the result of each. -/
def runMembers : List (Noted (Except String Unit)) → Logged (List Result)
  | [] => pure []
  | check :: checks => do
    let outcome ← runHost check
    let results ← runMembers checks
    return memberResult outcome :: results

/-- Makes the checks of one label. Without a label all must pass, with one it takes one. -/
def checkLabel (label : Option String) (checks : List (Noted (Except String Unit))) :
    Logged (Except Result Unit) :=
  match label with
  | none => checkEach checks
  | some group => do
    let results ← runMembers checks
    return if results.any (·.isSuccess) then .ok ()
      else .error (.ofGroup s!"precondition group '{group}' failed" results)

/-- Makes the checks of all labels up to the first that fails. -/
def checkLabels :
    List (Option String × List (Noted (Except String Unit))) → Logged (Except Result Unit)
  | [] => pure (.ok ())
  | (label, checks) :: labels => do
    match ← checkLabel label checks with
    | .ok _ => checkLabels labels
    | .error r => return .error r

/-- Goes through one tier of checks. -/
def checkTier (tier : List (Precondition σ)) (command : CommandSpec σ) (context : Context)
    (services : σ) : Logged (Except Result Unit) :=
  checkLabels ((byLabel tier).map fun (label, members) =>
    (label, members.map (·.check context command services)))

/-- Goes through the checks of all parameters on their arguments. Missing arguments are not
checked. -/
def checkParameters (parameters : List (Parameter σ)) (arguments : List Argument)
    (context : Context) (services : σ) : Logged (Except Result Unit) :=
  checkEach ((parameters.zip arguments).flatMap fun (p, a) =>
    if a.isMissing then []
    else p.preconditions.map (·.check context p.toParameterSpec a services))

/-- Goes on with the next tier when the one before it has passed. -/
def andThen (first next : Logged (Except Result Unit)) : Logged (Except Result Unit) := do
  match ← first with
  | .ok _ => next
  | .error r => return .error r

/-- Goes through all checks of a command. -/
def checkPreconditions (command : Command σ) (context : Context) (arguments : Arguments)
    (services : σ) : Logged (Except Result Unit) :=
  andThen (checkParameters command.parameters arguments.toList context services)
    (andThen (checkTier command.modulePreconditions command.toCommandSpec context services)
      (checkTier command.preconditions command.toCommandSpec context services))

end ChatDispatch
