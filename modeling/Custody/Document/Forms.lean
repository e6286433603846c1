import Custody.Document.Peer
import Custody.KeyStore
import Custody.Manifest

namespace Custody.Document.Codec

def guid : Codec Guid :=
  parsed (fun written => (Guid.parse written).mapError (Guid.Fault.message written)) Guid.text

def applicationId : Codec ApplicationId := text.imap ApplicationId.mk ApplicationId.text

def claimState : Codec ClaimState := oneOf ClaimState.all ClaimState.text

def runningState : Codec RunningState := oneOf RunningState.all RunningState.text

def application : Codec Application :=
  record "ApplicationInfo"
    [⟨"id",_,applicationId,none⟩,⟨"application_name",_,text,none⟩,⟨"device_name",_,text,none⟩,
     ⟨"claim_state",_,claimState,none⟩,⟨"running_state",_,runningState,none⟩]
    (fun (id,name,device,claim,runs,()) => ⟨id,name,device,claim,runs⟩)
    (fun app => (app.id,app.name,app.device,app.claimState,app.runningState,()))

def identity : Codec Identity :=
  record "Identity" [⟨"name",_,text,none⟩,⟨"guid",_,guid,none⟩]
    (fun (name,guid,()) => ⟨name,guid⟩)
    (fun identity => (identity.name,identity.guid,()))

def guild : Codec Guild :=
  record "Guild" [⟨"name",_,text,none⟩,⟨"description",_,text,none⟩,⟨"guid",_,guid,none⟩]
    (fun (name,description,guid,()) => ⟨name,description,guid⟩)
    (fun guild => (guild.name,guild.description,guild.guid,()))

def peerType : Codec Peer := peer guid

def termPeer : Codec Peer :=
  record "Peer" [⟨"peer_type",_,peerType,none⟩] (fun (peer,()) => peer) (fun peer => (peer,()))

def rule : Codec Rule := text.imap Rule.mk Rule.pattern

def term : Codec Term :=
  record "Term" [⟨"peers",_,list termPeer,none⟩,⟨"rules",_,list rule,none⟩]
    (fun (peers,rules,()) => ⟨peers,rules⟩)
    (fun term => (term.peers,term.rules,()))

def policy : Codec Policy :=
  record "Policy" [⟨"version",_,uint32,none⟩,⟨"terms",_,list term,none⟩]
    (fun (version,terms,()) => ⟨version,terms⟩)
    (fun policy => (policy.version,policy.terms,()))

def manifest : Codec Manifest :=
  record "Manifest" [⟨"bytes",_,list uint8,none⟩] (fun (bytes,()) => ⟨bytes⟩)
    (fun manifest => (manifest.bytes,()))

def keyStore : Codec KeyStore :=
  record "KeyStoreLocation"
    [⟨"path",_,textNamed "path string",none⟩,⟨"user",_,text,none⟩,⟨"password",_,text,none⟩]
    (fun (path,user,password,()) => ⟨path,user,password⟩)
    (fun store => (store.path,store.user,store.password,()))

end Custody.Document.Codec
