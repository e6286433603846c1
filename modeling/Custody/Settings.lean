import Custody.Document.Forms
import Custody.Document.Toml.Reader
import Custody.Operation
import Custody.Site

namespace Custody

structure FleetEntry where
  id : String
  name : String
  device : String
  claimState : ClaimState := .claimable
  runningState : RunningState := .running
  manifest : String := ""
  deriving DecidableEq

namespace FleetEntry

def app (entry : FleetEntry) : Application where
  id := ⟨entry.id⟩
  name := entry.name
  device := entry.device
  claimState := entry.claimState
  runningState := entry.runningState

end FleetEntry

structure IdentitySettings where
  userName : String := "admin"
  deriving DecidableEq

structure ApprovalSettings where
  autoApprove : Bool := false
  trustedDigests : List String := []
  deriving DecidableEq

def ApprovalSettings.trust (approval : ApprovalSettings) : TrustList :=
  ⟨approval.autoApprove,approval.trustedDigests⟩

structure Settings where
  identity : IdentitySettings := {}
  keyStore : Option KeyStore := none
  approval : ApprovalSettings := {}
  fleet : List FleetEntry := []
  deriving DecidableEq

namespace Document.Codec

def identitySettings : Codec IdentitySettings :=
  record "IdentityConfig" [⟨"user_name",_,text,some "admin"⟩] (fun (name,()) => ⟨name⟩)
    (fun identity => (identity.userName,()))

def approvalSettings : Codec ApprovalSettings :=
  record "ApprovalConfig"
    [⟨"auto_approve",_,boolean,some false⟩,⟨"trusted_digests",_,list text,some []⟩]
    (fun (auto,digests,()) => ⟨auto,digests⟩)
    (fun approval => (approval.autoApprove,approval.trustedDigests,()))

def fleetEntry : Codec FleetEntry :=
  record "FleetApplication"
    [⟨"id",_,text,none⟩,⟨"name",_,text,none⟩,⟨"device",_,text,none⟩,
     ⟨"claim_state",_,claimState,some .claimable⟩,⟨"running_state",_,runningState,some .running⟩,
     ⟨"manifest",_,text,some ""⟩]
    (fun (id,name,device,claim,runs,manifest,()) => ⟨id,name,device,claim,runs,manifest⟩)
    (fun entry =>
      (entry.id,entry.name,entry.device,entry.claimState,entry.runningState,entry.manifest,()))

def settings : Codec Settings :=
  record "Config"
    [⟨"identity",_,identitySettings,some {}⟩,⟨"key_store",_,optional keyStore,some none⟩,
     ⟨"approval",_,approvalSettings,some {}⟩,⟨"fleet",_,list fleetEntry,some []⟩]
    (fun (identity,store,approval,fleet,()) => ⟨identity,store,approval,fleet⟩)
    (fun settings =>
      (settings.identity,settings.keyStore,settings.approval,settings.fleet,()))

end Document.Codec

namespace Settings

def ofToml (document : String) : Except Document.Fault Settings :=
  Document.Toml.decode Document.Codec.settings document

inductive Source where
  | nothing
  | file (bytes : ByteArray)
  | unreadable

inductive LoadFault where
  | unreadable
  | invalid (fault : Document.Fault)
  deriving DecidableEq, Repr

def LoadFault.message : LoadFault → String
  | unreadable => "Failed to read config"
  | invalid .malformed => "Failed to parse config: not a settings document"
  | invalid (.mismatch mismatch) =>
    "Failed to parse config: " ++ mismatch.message Document.Toml.format.floatText

def load : Source → Except LoadFault Settings
  | .nothing => .ok {}
  | .unreadable => .error .unreadable
  | .file bytes =>
    match String.fromUTF8? bytes with
    | none => .error .unreadable
    | some document => (ofToml document).mapError .invalid

def site (settings : Settings) : Site :=
  settings.fleet.foldl (fun site entry => site.announce entry.app (.ofText entry.manifest)) {}

end Settings

end Custody
