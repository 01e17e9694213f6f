/-!
# Families of argument types

A family is a kind of argument types that one converter can serve: any integer, any entity that can
be mentioned. Every family but a root lies under one other family. Families are known by their
names.
-/

namespace ChatDispatch

/-- A family of argument types. -/
inductive Family where
  | root (name : String)
  | under (name : String) (parent : Family)

namespace Family

/-- The name of the family. -/
def name : Family → String
  | root name => name
  | under name _ => name

/-- The family that this one lies directly under. -/
def parent? : Family → Option Family
  | root _ => none
  | under _ parent => some parent

/-- The family and all above it, from the bottom up. -/
def chain : Family → List Family
  | root name => [root name]
  | under name parent => under name parent :: parent.chain

/-- How many families lie above this one. -/
def depth : Family → Nat
  | root _ => 0
  | under _ parent => parent.depth + 1

/-- Whether two families are the same one. -/
def same (f g : Family) : Bool := f.name == g.name

/-- Whether `g` is the family `f` or lies under it. -/
def covers (f g : Family) : Bool := g.chain.any (·.same f)

/-- Every argument type. -/
def any : Family := root "any"

/-- Plain values. -/
def scalar : Family := under "scalar" any

/-- Whole numbers. -/
def integer : Family := under "integer" scalar

/-- Numbers with a fraction. -/
def float : Family := under "float" scalar

/-- Enumerations, picked by the name of a choice. -/
def choice : Family := under "choice" any

/-- Entities of the platform. -/
def entity : Family := under "entity" any

/-- Entities that can be mentioned: users and roles. -/
def mentionable : Family := under "mentionable" entity

/-- Users. -/
def user : Family := under "user" mentionable

/-- Roles. -/
def role : Family := under "role" mentionable

/-- Channels. -/
def channel : Family := under "channel" entity

/-- Messages. -/
def message : Family := under "message" entity

/-- Attachments. -/
def attachment : Family := under "attachment" entity

/-- The families that the library brings along. -/
def standard : List Family :=
  [any, scalar, integer, float, choice, entity, mentionable, user, role, channel, message,
    attachment]

end Family

end ChatDispatch
