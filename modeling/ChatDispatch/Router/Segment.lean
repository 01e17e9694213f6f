import ChatDispatch.Router.Capture
import ChatDispatch.Text.Split

/-!
# Segments of a route

A route is a list of segments, one for each token of an identifier. A segment either names a token
(up to case) or is a wildcard: literal pieces with a marker between neighbours, where every marker
stands for text that is captured.
-/

namespace ChatDispatch.Router

/-- One position of a route. -/
inductive Segment where
  /-- The token whose lower case is `key`. -/
  | exact (key : String)
  /-- A token made of the literal pieces with captured text between neighbours. `source` is the
  lower case of the text that the segment was written as. -/
  | wildcard (source : String) (literals : List (List Char))
deriving DecidableEq

namespace Segment

/-- The segment that `token` is written for: a wildcard when the marker occurs in it. -/
def ofToken (marker : Option String) (token : String) : Segment :=
  match marker with
  | none => .exact (Text.lowercase token)
  | some m =>
    match Text.splitMarker m.toList token.toList with
    | first :: second :: rest => .wildcard (Text.lowercase token) (first :: second :: rest)
    | _ => .exact (Text.lowercase token)

/-- Whether two segments take the same place in a router: both exact or both wildcards, and the
same in lower case. -/
def samePlace : Segment → Segment → Bool
  | .exact k, .exact l => k == l
  | .wildcard s _, .wildcard t _ => s == t
  | _, _ => false

/-- Whether the segment names its token. -/
def isExact : Segment → Bool
  | .exact _ => true
  | .wildcard _ _ => false

/-- The captures with which the segment accepts `token`, if it does. -/
def captures? (segment : Segment) (token : String) : Option (List String) :=
  match segment with
  | .exact key => if Text.lowercase token = key then some [] else none
  | .wildcard _ literals => (matchLiterals literals token.toList).map (·.map String.ofList)

end Segment

end ChatDispatch.Router
