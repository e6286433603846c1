import Custody.Operation
import Custody.Transport

-- A site: one fleet, the approver and the listeners registered with it, and what those have taken
-- down so far. An event goes to every listener, in the order of their registration and as often
-- as each was registered, after the fleet has changed and before anything else happens.

namespace Custody

structure Site where
  fleet : Fleet := {}
  approver : Option Approver := none
  listeners : List Listener := []
  registries : Keyed String Registry := .empty
  recorders : Keyed String (List Sighting) := .empty
  views : Keyed String (List ViewCall) := .empty
  books : Keyed String (List Consultation) := .empty

namespace Site

instance : Inhabited Site := ⟨{}⟩

def registry (site : Site) (name : String) : Registry := (site.registries.find? name).getD {}

-- The site once a listener has been named: a registry of that name is there from then on.
def naming (site : Site) : Listener → Site
  | .registry name =>
    { site with registries := site.registries.insert name (site.registry name) }
  | .recorder _ => site

def sightings (site : Site) (name : String) : List Sighting :=
  (site.recorders.find? name).getD []

def viewCalls (site : Site) (name : String) : List ViewCall := (site.views.find? name).getD []

def book (site : Site) (name : String) : List Consultation := (site.books.find? name).getD []

def notify (site : Site) (notice : Notice) : Site :=
  { site with
    views := site.views.insert notice.view.name
      (site.viewCalls notice.view.name ++ [notice.call]) }

def onRegistry (site : Site) (name : String) (act : Registry → Registry × List Notice) : Site :=
  let (registry,notices) := act (site.registry name)
  notices.foldl notify { site with registries := site.registries.insert name registry }

def tell (event : Event) (site : Site) : Listener → Site
  | .registry name => site.onRegistry name fun registry =>
      let (registry,notice) := registry.record event.new
      (registry,notice.toList)
  | .recorder name =>
    let sighting : Sighting := ⟨event,site.fleet.records.find? event.new.id⟩
    { site with recorders := site.recorders.insert name (site.sightings name ++ [sighting]) }

def deliver (site : Site) (event : Event) : Site := site.listeners.foldl (tell event) site

def after (site : Site) : Option (Event × Fleet) → Site
  | none => site
  | some (event,fleet) => { site with fleet }.deliver event

def call (site : Site) (act : Fleet → α × Fleet) : α × Site :=
  let (result,fleet) := act site.fleet
  (result,{ site with fleet })

def setApprover (site : Site) (approver : Approver) : Site :=
  { site with approver := some approver }

-- Registers a listener behind those there are. One may be registered more than once.
def addListener (site : Site) (listener : Listener) : Site :=
  { site.naming listener with listeners := site.listeners ++ [listener] }

def announce (site : Site) (app : Application) (manifest : Manifest) : Site :=
  site.after (some (site.fleet.announce app manifest))

def setRunning (site : Site) (id : ApplicationId) (state : RunningState) : Bool × Site :=
  let change := site.fleet.setRunning id state
  (change.isSome,site.after change)

def note (site : Site) (name : String) (entry : Consultation) : Site :=
  { site with books := site.books.insert name (site.book name ++ [entry]) }

-- A claim. The approver is the one that was registered when the claim began.

def beginClaim (site : Site) (id : ApplicationId) (claimant : Guid) :
    Except Refusal (Fleet.PendingClaim Approver) × Site :=
  match site.fleet.beginClaim id claimant site.approver with
  | (.error refusal,fleet) => (.error refusal,{ site with fleet })
  | (.ok (pending,event),fleet) => (.ok pending,{ site with fleet }.deliver event)

def endClaim (site : Site) (id : ApplicationId) (claimant : Guid) (approved : Bool) :
    Except Refusal Unit × Site :=
  let (result,change) := site.fleet.endClaim id claimant approved
  (result,site.after change)

end Site

-- A computation on a site. It may have no result: an approver can claim without end.
abbrev Course (α : Type) := StateT Site Option α

namespace Course

def step {α : Type} (act : Site → α × Site) : Course α := fun site => some (act site)

def call {α : Type} (act : Fleet → α × Fleet) : Course α := step fun site => site.call act

end Course

def Inquiry.follow (perform : Operation → Course Outcome) : Inquiry → Course Bool
  | .answer approved => pure approved
  | .ask operation next => do follow perform (next (← perform operation))
  | .note name entry next => do
    Course.step fun site => ((),site.note name entry)
    follow perform next

def Operation.performWith (claim : Application → Identity → Course (Except Refusal Unit)) :
    Operation → Course Outcome
  | .announce app manifest => Course.step fun site => (.done,site.announce app manifest)
  | .setRunning id state => do
    return .flag (← Course.step fun site => site.setRunning id state)
  | .record id => do return .record ((← get).fleet.records.find? id)
  | .guilds => do return .guilds (← get).fleet.guilds.values
  | .identities => do return .identities (← get).fleet.identities.values
  | .keyStore => do return .keyStore (← get).fleet.keyStore
  | .setFault kind fault => Course.call fun fleet => (.done,fleet.setFault kind fault)
  | .clearFault kind => Course.call fun fleet => (.done,fleet.clearFault kind)
  | .calls => do return .calls (← get).fleet.calls
  | .clearCalls => Course.call fun fleet => (.done,fleet.clearCalls)
  | .listApplications => do
    return .ofResult .applications (← Course.call Fleet.listApplications)
  | .getApplication id => do
    return .ofResult .application (← Course.call fun fleet => fleet.getApplication id)
  | .claim app identity => do return .ofResult (fun () => .done) (← claim app identity)
  | .installMembership app guild => do
    return .ofResult (fun () => .done)
      (← Course.call fun fleet => fleet.installMembership app.id guild.guid)
  | .installPolicy app policy => do
    return .ofResult (fun () => .done)
      (← Course.call fun fleet => fleet.installPolicy app.id policy)
  | .updateIdentity identity => do
    return .ofResult (fun () => .done)
      (← Course.call fun fleet => fleet.updateIdentity identity)
  | .getGuild guid => do
    return .ofResult .guild (← Course.call fun fleet => fleet.getGuild guid)
  | .createGuild guild => do
    return .ofResult (fun () => .done) (← Course.call fun fleet => fleet.createGuild guild)
  | .getIdentity guid => do
    return .ofResult .identity (← Course.call fun fleet => fleet.getIdentity guid)
  | .createIdentity identity => do
    return .ofResult (fun () => .done)
      (← Course.call fun fleet => fleet.createIdentity identity)
  | .openKeyStore store => do
    return .ofResult (fun () => .done)
      (← Course.call fun fleet => fleet.openKeyStore store)
  | .setApprover approver => Course.step fun site => (.done,site.setApprover approver)
  | .addListener listener => Course.step fun site => (.done,site.addListener listener)

namespace Site

-- Claims an application. The number bounds how many approvers may be waiting for claims of their
-- own inside one another; a claim that goes deeper has no result.
def claimWithin (depth : Nat) (app : Application) (identity : Identity) :
    Course (Except Refusal Unit) := fun site =>
  match site.beginClaim app.id identity.guid with
  | (.error refusal,site) => some (.error refusal,site)
  | (.ok pending,marked) =>
    match depth with
    | 0 => none
    | depth+1 => do
      let (approved,site) ← (pending.approver pending.app pending.manifest).follow
        (Operation.performWith (claimWithin depth)) marked
      some (site.endClaim app.id identity.guid approved)

end Site

def Operation.perform (depth : Nat) : Operation → Course Outcome :=
  Operation.performWith (Site.claimWithin depth)

def Site.transport (depth : Nat) : Transport (StateT Site Option) Approver Listener where
  listApplications := Course.call Fleet.listApplications
  getApplication id := Course.call fun fleet => fleet.getApplication id
  claim := Site.claimWithin depth
  installMembership app guild :=
    Course.call fun fleet => fleet.installMembership app.id guild.guid
  installPolicy app policy := Course.call fun fleet => fleet.installPolicy app.id policy
  updateIdentity identity := Course.call fun fleet => fleet.updateIdentity identity
  getGuild guid := Course.call fun fleet => fleet.getGuild guid
  createGuild guild := Course.call fun fleet => fleet.createGuild guild
  getIdentity guid := Course.call fun fleet => fleet.getIdentity guid
  createIdentity identity := Course.call fun fleet => fleet.createIdentity identity
  setApprover approver := Course.step fun site => ((),site.setApprover approver)
  addListener listener := Course.step fun site => ((),site.addListener listener)
  openKeyStore store := Course.call fun fleet => fleet.openKeyStore store

end Custody
