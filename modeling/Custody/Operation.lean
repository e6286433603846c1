import Custody.Fleet
import Custody.Registry

-- What can be asked of a site, and what an approver does when it is asked about a manifest. While
-- a claim waits for its answer nothing is locked, so an approver may first ask anything of the
-- same site, claims included. An `Inquiry` is such a conversation: it goes on with the outcome of
-- each operation it asks for, and ends with a decision.

namespace Custody

inductive Listener where
  | registry (name : String)
  | recorder (name : String)
  deriving DecidableEq

structure Sighting where
  event : Event
  seen : Option Record
  deriving DecidableEq

inductive Outcome where
  | done
  | flag (value : Bool)
  | record (value : Option Record)
  | guilds (value : List Guild)
  | identities (value : List Identity)
  | keyStore (value : Option KeyStore)
  | calls (value : List Call)
  | applications (value : List Application)
  | application (value : Application)
  | guild (value : Guild)
  | identity (value : Identity)
  | refused (refusal : Refusal)
  deriving DecidableEq

def Outcome.ofResult {α : Type} (granted : α → Outcome) : Except Refusal α → Outcome
  | .ok value => granted value
  | .error refusal => .refused refusal

structure Consultation where
  app : Application
  manifest : Manifest
  during : List Outcome
  deriving DecidableEq

mutual

inductive Operation where
  | announce (app : Application) (manifest : Manifest)
  | setRunning (id : ApplicationId) (state : RunningState)
  | record (id : ApplicationId)
  | guilds
  | identities
  | keyStore
  | setFault (call : Call) (fault : Refusal)
  | clearFault (call : Call)
  | calls
  | clearCalls
  | listApplications
  | getApplication (id : ApplicationId)
  | claim (app : Application) (identity : Identity)
  | installMembership (app : Application) (guild : Guild)
  | installPolicy (app : Application) (policy : Policy)
  | updateIdentity (identity : Identity)
  | getGuild (guid : Guid)
  | createGuild (guild : Guild)
  | getIdentity (guid : Guid)
  | createIdentity (identity : Identity)
  | openKeyStore (store : KeyStore)
  | setApprover (approver : Application → Manifest → Inquiry)
  | addListener (listener : Listener)

inductive Inquiry where
  | answer (approved : Bool)
  | ask (operation : Operation) (next : Outcome → Inquiry)
  | note (book : String) (entry : Consultation) (next : Inquiry)

end

abbrev Approver := Application → Manifest → Inquiry

namespace Inquiry

def inTurn (next : List Outcome → Inquiry) : List Operation → List Outcome → Inquiry
  | [],outcomes => next outcomes
  | operation :: rest,outcomes =>
    ask operation fun outcome => inTurn next rest (outcomes ++ [outcome])

end Inquiry

namespace Approver

def ofDecision (decision : Application → Manifest → Bool) : Approver :=
  fun app manifest => .answer (decision app manifest)

def ofTrust (trust : TrustList) : Approver := ofDecision fun _ manifest => trust.accepts manifest

def scripted (operations : List Operation) (book : Option String)
    (decision : Application → Manifest → Bool) : Approver :=
  fun app manifest =>
    Inquiry.inTurn (fun outcomes =>
      match book with
      | none => .answer (decision app manifest)
      | some name => .note name ⟨app,manifest,outcomes⟩ (.answer (decision app manifest)))
      operations []

end Approver

end Custody
