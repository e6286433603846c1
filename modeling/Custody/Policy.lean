import Custody.Principal

namespace Custody

inductive Peer where
  | all
  | anyTrusted
  | guildMember (guild : Guid)
  | identity (identity : Guid)
  deriving DecidableEq

structure Rule where
  pattern : String
  deriving DecidableEq

namespace Rule

def everything : Rule := ⟨"*"⟩

def isWildcard (rule : Rule) : Bool := rule.pattern == "*"

def admits (rule : Rule) (resource : String) : Bool :=
  rule.isWildcard || rule.pattern == resource

end Rule

structure Term where
  peers : List Peer
  rules : List Rule
  deriving DecidableEq

structure Policy where
  version : UInt32
  terms : List Term
  deriving DecidableEq

def Policy.forGuilds (guilds : List Guild) : Policy where
  version := 1
  terms := guilds.map fun guild => ⟨[.guildMember guild.guid],[.everything]⟩

end Custody
