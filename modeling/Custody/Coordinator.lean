import Custody.Text.Blank
import Custody.Transport

-- The coordinator: one identity and one guild, under which applications are claimed. Setting it
-- up loads both, or creates what does not exist. A claim runs three steps and ends with the first
-- that fails; what came before it stays done, since the devices cannot be made to forget it.

namespace Custody

structure Coordinator where
  guild : Guild
  identity : Identity
  userName : String
  deriving DecidableEq

structure Setup (Approver Listener : Type) where
  userName : String
  listener : Option Listener
  approver : Option Approver
  keyStore : Option KeyStore := none

namespace Coordinator

variable {m : Type → Type} [Monad m] {Approver Listener : Type}
variable (transport : Transport m Approver Listener)

def resolveGuild : m (Except Failure Guild) := do
  match ← transport.getGuild Guid.reserved with
  | .ok guild => pure (.ok guild)
  | .error refusal =>
    if refusal.isNotFound then
      match ← transport.createGuild Guild.reserved with
      | .ok () => pure (.ok Guild.reserved)
      | .error refusal => pure (.error (.setup .createGuild refusal))
    else pure (.error (.setup .loadGuild refusal))

def resolveIdentity (userName : String) : m (Except Failure Identity) := do
  match ← transport.getIdentity Guid.reserved with
  | .ok identity => pure (.ok identity)
  | .error refusal =>
    if refusal.isNotFound then
      let identity : Identity := ⟨userName,Guid.reserved⟩
      match ← transport.createIdentity identity with
      | .ok () => pure (.ok identity)
      | .error refusal => pure (.error (.setup .createIdentity refusal))
    else pure (.error (.setup .loadIdentity refusal))

def openStore : Option KeyStore → m (Except Failure Unit)
  | none => pure (.ok ())
  | some store => do
    match ← transport.openKeyStore store with
    | .ok () => pure (.ok ())
    | .error refusal => pure (.error (.setup .openKeyStore refusal))

def checked (setup : Setup Approver Listener) : Except Failure (Listener × Approver) :=
  match setup.listener,setup.approver with
  | none,_ => .error (.invalidConfiguration "application event listener is required")
  | _,none => .error (.invalidConfiguration "manifest approver is required")
  | some listener,some approver =>
    if Text.allBlank setup.userName then .error (.invalidConfiguration Failure.blankName)
    else .ok (listener,approver)

-- Sets a coordinator up. Approver and listener are registered once the key store is open; they
-- stay registered if a later stage fails. The name is that of the stored identity.
def create (setup : Setup Approver Listener) : m (Except Failure Coordinator) := do
  match checked setup with
  | .error failure => pure (.error failure)
  | .ok (listener,approver) =>
    match ← openStore transport setup.keyStore with
    | .error failure => pure (.error failure)
    | .ok () =>
      transport.setApprover approver
      transport.addListener listener
      match ← resolveGuild transport with
      | .error failure => pure (.error failure)
      | .ok guild =>
        match ← resolveIdentity transport setup.userName with
        | .error failure => pure (.error failure)
        | .ok identity => pure (.ok ⟨guild,identity,identity.name⟩)

def applications : m (List Application) := do
  match ← transport.listApplications with
  | .ok apps => pure apps
  | .error _ => pure []

def applicationsIn (state : ClaimState) : m (List Application) := do
  let apps ← applications transport
  pure (apps.filter fun app => app.claimState == state)

def application (id : ApplicationId) : m (Except Failure Application) := do
  match ← transport.getApplication id with
  | .ok app => pure (.ok app)
  | .error refusal => pure (.error (.lookup refusal))

def claim (coordinator : Coordinator) (app : Application) : m (Except Failure Unit) := do
  match ← transport.claim app coordinator.identity with
  | .error refusal => pure (.error (.claim app.id .claim refusal))
  | .ok () =>
    match ← transport.installMembership app coordinator.guild with
    | .error refusal => pure (.error (.claim app.id .installMembership refusal))
    | .ok () =>
      match ← transport.installPolicy app (Policy.forGuilds [coordinator.guild]) with
      | .error refusal => pure (.error (.claim app.id .installPolicy refusal))
      | .ok () => pure (.ok ())

-- Renames the identity: in the store first, then here. The name it has already is no change.
def rename (coordinator : Coordinator) (name : String) :
    m (Except Failure Unit × Coordinator) := do
  if Text.allBlank name then
    pure (.error (.invalidArgument Failure.blankName),coordinator)
  else if name = coordinator.identity.name then pure (.ok (),coordinator)
  else
    let renamed := { coordinator.identity with name }
    match ← transport.updateIdentity renamed with
    | .error refusal => pure (.error (.identityUpdate refusal),coordinator)
    | .ok () => pure (.ok (),{ coordinator with identity := renamed, userName := name })

end Coordinator

end Custody
