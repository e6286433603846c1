import Custody.Application
import Custody.Guid

namespace Custody

inductive Refusal where
  | notFound (what : String) (guid : Guid)
  | alreadyExists (what : String) (guid : Guid)
  | unknownApplication (id : ApplicationId)
  | notClaimable (id : ApplicationId) (state : ClaimState)
  | manifestRejected (id : ApplicationId)
  | noApprover
  | broken (text : String)
  deriving DecidableEq

namespace Refusal

def isNotFound : Refusal → Bool
  | notFound _ _ => true
  | _ => false

def message : Refusal → String
  | notFound what guid => s!"{what} {guid.text} not found"
  | alreadyExists what guid => s!"{what} {guid.text} already exists"
  | unknownApplication id => s!"Unknown application: {id.text}"
  | notClaimable id state => s!"Application {id.text} is not claimable (state: {state.text})"
  | manifestRejected id => s!"Manifest of application {id.text} was rejected"
  | noApprover => "No manifest approver registered"
  | broken text => s!"Transport failure: {text}"

end Refusal

inductive ClaimStep where
  | claim
  | installMembership
  | installPolicy
  deriving DecidableEq, Repr

def ClaimStep.text : ClaimStep → String
  | claim => "claim"
  | installMembership => "membership install"
  | installPolicy => "policy install"

inductive SetupStage where
  | openKeyStore
  | loadGuild
  | createGuild
  | loadIdentity
  | createIdentity
  deriving DecidableEq, Repr

def SetupStage.text : SetupStage → String
  | openKeyStore => "opening key store"
  | loadGuild => "loading guild"
  | createGuild => "creating guild"
  | loadIdentity => "loading identity"
  | createIdentity => "creating identity"

inductive Failure where
  | invalidConfiguration (text : String)
  | invalidArgument (text : String)
  | setup (stage : SetupStage) (cause : Refusal)
  | claim (app : ApplicationId) (step : ClaimStep) (cause : Refusal)
  | identityUpdate (cause : Refusal)
  | lookup (cause : Refusal)
  deriving DecidableEq

namespace Failure

def message : Failure → String
  | invalidConfiguration text => s!"Invalid configuration: {text}"
  | invalidArgument text => s!"Invalid argument: {text}"
  | setup stage cause => s!"Bootstrap failed while {stage.text}: {cause.message}"
  | claim app step cause => s!"Claim of {app.text} failed at {step.text}: {cause.message}"
  | identityUpdate cause => s!"Identity update failed: {cause.message}"
  | lookup cause => s!"Application lookup failed: {cause.message}"

def cause? : Failure → Option Refusal
  | invalidConfiguration _ | invalidArgument _ => none
  | setup _ cause | claim _ _ cause | identityUpdate cause | lookup cause => some cause

def stage? : Failure → Option SetupStage
  | setup stage _ => some stage
  | _ => none

def step? : Failure → Option ClaimStep
  | claim _ step _ => some step
  | _ => none

def blankName : String := "user name must not be empty"

end Failure

end Custody
