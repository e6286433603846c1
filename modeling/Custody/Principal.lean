import Custody.Guid

namespace Custody

structure Identity where
  name : String
  guid : Guid
  deriving DecidableEq

structure Guild where
  name : String
  description : String
  guid : Guid
  deriving DecidableEq

def Guild.reserved : Guild :=
  ⟨"defaultGuild","The default guild of this security manager",Guid.reserved⟩

end Custody
