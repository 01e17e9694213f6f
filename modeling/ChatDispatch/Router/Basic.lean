import ChatDispatch.Router.Segment

/-!
# Routers

A router is a tree of segments with a command at the end of every accepted route. Looking up a list
of tokens descends the tree, at each node through the exact segments before the wildcards and
through the wildcards in the order in which they came, and goes back when a branch fails.

* `Router.insert` accepts a route unless one takes the same place already.
* `Router.find?` gives the command of the first route that fits, with the captures of its wildcards.
* `Router.tokenize` cuts an identifier at the router's delimiters.
-/

namespace ChatDispatch

namespace Router

/-- A node of the tree. Both lists hold their exact segments in front of their wildcards, so that
the order of a list is the order of preference. -/
structure Node (α : Type) where
  /-- The commands at the end of routes, by the last segment. -/
  commands : List (Segment × α)
  /-- The nodes below, by segment. -/
  children : List (Segment × Node α)

/-- The node with nothing at or below it. -/
def Node.empty {α : Type} : Node α := ⟨[], []⟩

/-- Adds a branch that takes no other's place: in front when it is exact, last otherwise. -/
def place {β : Type} (segment : Segment) (b : β) (branches : List (Segment × β)) :
    List (Segment × β) :=
  if segment.isExact then (segment, b) :: branches else branches ++ [(segment, b)]

/-- Changes the branch that stands where `segment` would, or places a new one made from
`fresh`. The branch keeps the segment that it was made with. -/
def changeBranch {β : Type} (segment : Segment) (fresh : β) (change : β → Option β)
    (branches : List (Segment × β)) : Option (List (Segment × β)) :=
  if branches.any (·.1.samePlace segment) then
    branches.mapM fun (s, b) =>
      if s.samePlace segment then (change b).map (s, ·) else some (s, b)
  else
    (change fresh).map (place segment · branches)

namespace Node

variable {α : Type}

/-- Adds a command at the end of a route; `none` when another is there already. An empty route has
no end. -/
def insert? : (route : List Segment) → (command : α) → Node α → Option (Node α)
  | [], _, _ => none
  | [last], command, node =>
    if node.commands.any (·.1.samePlace last) then none
    else some { node with commands := place last command node.commands }
  | segment :: next :: rest, command, node =>
    (changeBranch segment empty (insert? (next :: rest) command) node.children).map fun children =>
      { node with children := children }

/-- The command of the first route below the node that fits the tokens, and its captures. -/
def find? : (tokens : List String) → Node α → Option (α × List String)
  | [], _ => none
  | [token], node =>
    node.commands.findSome? fun (segment, command) =>
      (segment.captures? token).map (command, ·)
  | token :: next :: rest, node =>
    node.children.findSome? fun (segment, child) => do
      let captured ← segment.captures? token
      let (command, more) ← find? (next :: rest) child
      return (command, captured ++ more)

end Node

/-- Why a route is refused. -/
inductive RouteError where
  /-- The route has no segments. -/
  | emptyPath
  /-- A command is already registered at the same place. -/
  | duplicatePath (path : List String)

/-- The name by which programs tell refusals apart. -/
def RouteError.name : RouteError → String
  | .emptyPath => "EmptyPath"
  | .duplicatePath _ => "DuplicatePath"

/-- The text that explains the refusal. -/
def RouteError.message : RouteError → String
  | .emptyPath => "route path must not be empty"
  | .duplicatePath path => s!"a command is already registered at '{Text.joinSpaces path}'"

end Router

/-- A tree of routes, with the delimiters that cut identifiers into tokens and the marker that
makes a token a wildcard. -/
structure Router (α : Type) where
  delimiters : List Char
  /-- The wildcard marker; a router without one takes every token literally. -/
  marker : Option String
  root : Router.Node α
  /-- The number of accepted routes. -/
  size : Nat

namespace Router

variable {α : Type}

/-- A router without routes. An empty marker is no marker. -/
def empty (delimiters : List Char) (marker : Option String) : Router α where
  delimiters := delimiters
  marker := marker.filter (!·.isEmpty)
  root := .empty
  size := 0

/-- The pieces of `identifier` between delimiters; the whole of it when there are no delimiters. -/
def tokenize (router : Router α) (identifier : String) : List String :=
  if router.delimiters.isEmpty then [identifier]
  else (Text.splitChars (router.delimiters.contains ·) identifier.toList).map String.ofList

/-- Registers a command at the end of a path of tokens. -/
def insert (router : Router α) (path : List String) (command : α) :
    Except RouteError (Router α) :=
  if path.isEmpty then .error .emptyPath
  else
    match router.root.insert? (path.map (Segment.ofToken router.marker)) command with
    | some root => .ok { router with root := root, size := router.size + 1 }
    | none => .error (.duplicatePath path)

/-- The command of the preferred route that fits the tokens, with the text captured by its
wildcards from left to right. -/
def find? (router : Router α) (tokens : List String) : Option (α × List String) :=
  router.root.find? tokens

/-- The look-up of an identifier by its tokens. -/
def findId? (router : Router α) (identifier : String) : Option (α × List String) :=
  router.find? (router.tokenize identifier)

end Router

end ChatDispatch
