import ChatDispatch.Text.Shown

/-!
# Entities of the platform

Users, roles, channels, messages and attachments as an interaction refers to them: an identifier
and what the platform told about the entity when the interaction happened.
-/

namespace ChatDispatch

/-- The number by which the platform knows a user, role, channel, message, attachment or
interaction. -/
structure EntityId where
  value : UInt64
deriving DecidableEq

/-- A user, under the name shown at the time. -/
structure User where
  id : EntityId
  name : String
deriving DecidableEq

/-- A role. -/
structure Role where
  id : EntityId
  name : String
deriving DecidableEq

/-- What a channel is for. -/
inductive ChannelKind where
  | text
  | voice
  | category
  | thread
deriving DecidableEq

/-- A channel. -/
structure Channel where
  id : EntityId
  name : String
  kind : ChannelKind
deriving DecidableEq

/-- A message that a context-menu command was invoked on. -/
structure Message where
  id : EntityId
  channelId : EntityId
  content : String
deriving DecidableEq

/-- An uploaded file. -/
structure Attachment where
  id : EntityId
  filename : String
  url : String
deriving DecidableEq

/-- A user or a role that was mentioned. -/
inductive Mentionable where
  | user (u : User)
  | role (r : Role)
deriving DecidableEq

/-- The identifier of the mentioned entity. -/
def Mentionable.id : Mentionable → EntityId
  | .user u => u.id
  | .role r => r.id

/-! ## Diagnostics -/

/-- The identifier as diagnostics show it. -/
def EntityId.shown (id : EntityId) : String := Text.showTagged "EntityId" (toString id.value)

/-- The user as diagnostics show it. -/
def User.shown (u : User) : String :=
  Text.showRecord "UserRef" [("id", u.id.shown), ("name", Text.quoted u.name)]

/-- The role as diagnostics show it. -/
def Role.shown (r : Role) : String :=
  Text.showRecord "RoleRef" [("id", r.id.shown), ("name", Text.quoted r.name)]

/-- The kind of channel as diagnostics show it. -/
def ChannelKind.shown : ChannelKind → String
  | .text => "Text"
  | .voice => "Voice"
  | .category => "Category"
  | .thread => "Thread"

/-- The channel as diagnostics show it. -/
def Channel.shown (c : Channel) : String :=
  Text.showRecord "ChannelRef"
    [("id", c.id.shown), ("name", Text.quoted c.name), ("kind", c.kind.shown)]

/-- The message as diagnostics show it. -/
def Message.shown (m : Message) : String :=
  Text.showRecord "MessageRef"
    [("id", m.id.shown), ("channel_id", m.channelId.shown), ("content", Text.quoted m.content)]

/-- The attachment as diagnostics show it. -/
def Attachment.shown (a : Attachment) : String :=
  Text.showRecord "AttachmentRef"
    [("id", a.id.shown), ("filename", Text.quoted a.filename), ("url", Text.quoted a.url)]

/-- The mentioned entity as diagnostics show it. -/
def Mentionable.shown : Mentionable → String
  | .user u => Text.showTagged "User" u.shown
  | .role r => Text.showTagged "Role" r.shown

end ChatDispatch
