import Custody.Transport

namespace Custody

-- A transport that has its answers from the beginning: a list that is taken as it stands, with ids
-- in any order and as often as they come, or a refusal; one guild and one identity for whatever is
-- asked for; and a yes to everything else, which changes nothing. How an application is looked up
-- and a key store opened is left as it is for every transport that says nothing of it. With this
-- one, coordinators and commands can be evaluated apart from any fleet.
def Transport.steady {m : Type → Type} [Monad m] {Approver Listener : Type}
    (apps : Except Refusal (List Application)) (guild : Guild) (identity : Identity) :
    Transport m Approver Listener where
  listApplications := pure apps
  claim _ _ := pure (.ok ())
  installMembership _ _ := pure (.ok ())
  installPolicy _ _ := pure (.ok ())
  updateIdentity _ := pure (.ok ())
  getGuild _ := pure (.ok guild)
  createGuild _ := pure (.ok ())
  getIdentity _ := pure (.ok identity)
  createIdentity _ := pure (.ok ())
  setApprover _ := pure ()
  addListener _ := pure ()

end Custody
