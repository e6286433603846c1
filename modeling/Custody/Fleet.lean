import Custody.Failure
import Custody.Keyed
import Custody.KeyStore
import Custody.Manifest
import Custody.Policy

-- The fleet: a simulated set of applications with the stores of guilds and identities beside it.
-- Every call is written down before anything else happens, and a fault set for its kind answers
-- it. A change of an application is reported as an event that carries the application before and
-- after.

namespace Custody

inductive Call where
  | openKeyStore
  | listApplications
  | getApplication
  | claim
  | installMembership
  | installPolicy
  | updateIdentity
  | getGuild
  | createGuild
  | getIdentity
  | createIdentity
  deriving DecidableEq, Repr

structure Record where
  app : Application
  manifest : Manifest
  owner : Option Guid := none
  memberships : List Guid := []
  policy : Option Policy := none
  deriving DecidableEq

structure Event where
  new : Application
  old : Option Application
  deriving DecidableEq

structure Fleet where
  records : Keyed ApplicationId Record := .empty
  guilds : Keyed Guid Guild := .empty
  identities : Keyed Guid Identity := .empty
  keyStore : Option KeyStore := none
  faults : Call → Option Refusal := fun _ => none
  calls : List Call := []

namespace Fleet

instance : Inhabited Fleet := ⟨{}⟩

def received (fleet : Fleet) (call : Call) : Fleet :=
  { fleet with calls := fleet.calls ++ [call] }

-- Answers a call that has been written down: by its fault, or else as the fleet would.
def answer (fleet : Fleet) (call : Call) (body : Fleet → Except Refusal α × Fleet) :
    Except Refusal α × Fleet :=
  match fleet.faults call with
  | some fault => (.error fault,fleet.received call)
  | none => body (fleet.received call)

def setFault (fleet : Fleet) (call : Call) (fault : Refusal) : Fleet :=
  { fleet with faults := fun c => if c = call then some fault else fleet.faults c }

def clearFault (fleet : Fleet) (call : Call) : Fleet :=
  { fleet with faults := fun c => if c = call then none else fleet.faults c }

def clearCalls (fleet : Fleet) : Fleet := { fleet with calls := [] }

def announce (fleet : Fleet) (app : Application) (manifest : Manifest) : Event × Fleet :=
  (⟨app,(fleet.records.find? app.id).map (·.app)⟩,
   { fleet with records := fleet.records.insert app.id { app, manifest } })

-- Changes the record under an id. The event tells the change; there is none for an unknown id.
def change (fleet : Fleet) (id : ApplicationId) (edit : Record → Record) : Option (Event × Fleet) :=
  (fleet.records.find? id).map fun record =>
    (⟨(edit record).app,some record.app⟩,
     { fleet with records := fleet.records.insert id (edit record) })

def setRunning (fleet : Fleet) (id : ApplicationId) (state : RunningState) :
    Option (Event × Fleet) :=
  fleet.change id fun record => { record with app := { record.app with runningState := state } }

def transition (fleet : Fleet) (id : ApplicationId) (state : ClaimState) (owner : Option Guid) :
    Option (Event × Fleet) :=
  fleet.change id fun record =>
    { record with app := { record.app with claimState := state }, owner }

def listApplications (fleet : Fleet) : Except Refusal (List Application) × Fleet :=
  fleet.answer .listApplications fun fleet => (.ok (fleet.records.values.map (·.app)),fleet)

def getApplication (fleet : Fleet) (id : ApplicationId) : Except Refusal Application × Fleet :=
  fleet.answer .getApplication fun fleet =>
    match fleet.records.find? id with
    | some record => (.ok record.app,fleet)
    | none => (.error (.unknownApplication id),fleet)

def claimedRecord (fleet : Fleet) (id : ApplicationId) : Except Refusal Record :=
  match fleet.records.find? id with
  | none => .error (.unknownApplication id)
  | some record =>
    if record.owner.isNone then .error (.broken s!"application {id.text} is not claimed")
    else .ok record

-- Enrols an application in a guild that is stored. A second enrolment changes nothing.
def installMembership (fleet : Fleet) (id : ApplicationId) (guild : Guid) :
    Except Refusal Unit × Fleet :=
  fleet.answer .installMembership fun fleet =>
    if fleet.guilds.contains guild then
      match fleet.claimedRecord id with
      | .error refusal => (.error refusal,fleet)
      | .ok record =>
        let memberships :=
          if record.memberships.contains guild then record.memberships
          else record.memberships ++ [guild]
        (.ok (),{ fleet with records := fleet.records.insert id { record with memberships } })
    else (.error (.notFound "guild" guild),fleet)

def installPolicy (fleet : Fleet) (id : ApplicationId) (policy : Policy) :
    Except Refusal Unit × Fleet :=
  fleet.answer .installPolicy fun fleet =>
    match fleet.claimedRecord id with
    | .error refusal => (.error refusal,fleet)
    | .ok record =>
      (.ok (),
       { fleet with records := fleet.records.insert id { record with policy := some policy } })

def getGuild (fleet : Fleet) (guid : Guid) : Except Refusal Guild × Fleet :=
  fleet.answer .getGuild fun fleet =>
    match fleet.guilds.find? guid with
    | some guild => (.ok guild,fleet)
    | none => (.error (.notFound "guild" guid),fleet)

def createGuild (fleet : Fleet) (guild : Guild) : Except Refusal Unit × Fleet :=
  fleet.answer .createGuild fun fleet =>
    if fleet.guilds.contains guild.guid then (.error (.alreadyExists "guild" guild.guid),fleet)
    else (.ok (),{ fleet with guilds := fleet.guilds.insert guild.guid guild })

def getIdentity (fleet : Fleet) (guid : Guid) : Except Refusal Identity × Fleet :=
  fleet.answer .getIdentity fun fleet =>
    match fleet.identities.find? guid with
    | some identity => (.ok identity,fleet)
    | none => (.error (.notFound "identity" guid),fleet)

def createIdentity (fleet : Fleet) (identity : Identity) : Except Refusal Unit × Fleet :=
  fleet.answer .createIdentity fun fleet =>
    if fleet.identities.contains identity.guid then
      (.error (.alreadyExists "identity" identity.guid),fleet)
    else (.ok (),{ fleet with identities := fleet.identities.insert identity.guid identity })

def updateIdentity (fleet : Fleet) (identity : Identity) : Except Refusal Unit × Fleet :=
  fleet.answer .updateIdentity fun fleet =>
    if fleet.identities.contains identity.guid then
      (.ok (),{ fleet with identities := fleet.identities.insert identity.guid identity })
    else (.error (.notFound "identity" identity.guid),fleet)

def openKeyStore (fleet : Fleet) (store : KeyStore) : Except Refusal Unit × Fleet :=
  fleet.answer .openKeyStore fun fleet => (.ok (),{ fleet with keyStore := some store })

-- A claim in two halves: what happens before its manifest is decided, and what after.

structure PendingClaim (Approver : Type) where
  app : Application
  manifest : Manifest
  approver : Approver

-- The first half. The checks come in this order: the claimant is stored, the application is
-- known, it is claimable, somebody is there to decide.
def beginClaim {Approver : Type} (fleet : Fleet) (id : ApplicationId) (claimant : Guid)
    (approver : Option Approver) : Except Refusal (PendingClaim Approver × Event) × Fleet :=
  fleet.answer .claim fun fleet =>
    if fleet.identities.contains claimant then
      match fleet.records.find? id with
      | none => (.error (.unknownApplication id),fleet)
      | some record =>
        if record.app.claimState = .claimable then
          match approver with
          | none => (.error .noApprover,fleet)
          | some approver =>
            let app := { record.app with claimState := .claiming }
            (.ok (⟨app,record.manifest,approver⟩,⟨app,some record.app⟩),
             { fleet with records := fleet.records.insert id { record with app } })
        else (.error (.notClaimable id record.app.claimState),fleet)
    else (.error (.notFound "identity" claimant),fleet)

-- The second half, on whatever the record has become: an approved application belongs to the
-- claimant, a rejected one is claimable again.
def endClaim (fleet : Fleet) (id : ApplicationId) (claimant : Guid) (approved : Bool) :
    Except Refusal Unit × Option (Event × Fleet) :=
  if approved then (.ok (),fleet.transition id .claimed (some claimant))
  else (.error (.manifestRejected id),fleet.transition id .claimable none)

end Fleet

end Custody
