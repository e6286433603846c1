import Custody.Failure
import Custody.KeyStore
import Custody.Policy

namespace Custody

structure Transport (m : Type → Type) [Monad m] (Approver Listener : Type) where
  listApplications : m (Except Refusal (List Application))
  getApplication (id : ApplicationId) : m (Except Refusal Application) := do
    match ← listApplications with
    | .error refusal => pure (.error refusal)
    | .ok apps =>
      match apps.find? (fun app => app.id == id) with
      | some app => pure (.ok app)
      | none => pure (.error (.unknownApplication id))
  claim (app : Application) (identity : Identity) : m (Except Refusal Unit)
  installMembership (app : Application) (guild : Guild) : m (Except Refusal Unit)
  installPolicy (app : Application) (policy : Policy) : m (Except Refusal Unit)
  updateIdentity (identity : Identity) : m (Except Refusal Unit)
  getGuild (guid : Guid) : m (Except Refusal Guild)
  createGuild (guild : Guild) : m (Except Refusal Unit)
  getIdentity (guid : Guid) : m (Except Refusal Identity)
  createIdentity (identity : Identity) : m (Except Refusal Unit)
  setApprover (approver : Approver) : m Unit
  addListener (listener : Listener) : m Unit
  openKeyStore (_store : KeyStore) : m (Except Refusal Unit) := pure (.ok ())

end Custody
