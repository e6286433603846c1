import Custody.Document.Shape
import Custody.Policy

-- How a peer is written: a table with its kind and, for the kinds that name somebody, an
-- identifier.

namespace Custody.Document

inductive PeerKind where
  | all
  | anyTrusted
  | guildMember
  | identity
  deriving DecidableEq, Repr

namespace PeerKind

def every : List PeerKind := [all,anyTrusted,guildMember,identity]

def name : PeerKind → String
  | all => "all"
  | anyTrusted => "any_trusted"
  | guildMember => "guild_member"
  | identity => "identity"

def decodeContent (guid : Codec Guid) (place : Place) (node : Node) : PeerKind → Except Fault Peer
  | all => nothing .all "unit variant PeerType::All"
  | anyTrusted => nothing .anyTrusted "unit variant PeerType::AnyTrusted"
  | guildMember => (guid.decode place node).map .guildMember
  | identity => (guid.decode place node).map .identity
where
  nothing (peer : Peer) (expected : String) : Except Fault Peer :=
    match node with
    | .null => .ok peer
    | other => .error (other.unlike expected)

def withoutContent : PeerKind → Except Fault Peer
  | all => .ok .all
  | anyTrusted => .ok .anyTrusted
  | guildMember | identity => .error (.mismatch (.missingField "guid"))

end PeerKind

inductive PeerKey where
  | kind
  | content
  deriving DecidableEq, Repr

def PeerKey.name : PeerKey → String
  | kind => "type"
  | content => "guid"

def nextPeerField (closed : Bool) :
    List (Option String × Node) →
      Except Fault (Option (PeerKey × Node × List (Option String × Node)))
  | [] => if closed then .ok none else .error .malformed
  | (none,_) :: _ => .error .malformed
  | (some key,node) :: rest =>
    if key = "type" then .ok (some (.kind,node,rest))
    else if key = "guid" then .ok (some (.content,node,rest))
    else if node.wellFormed then nextPeerField closed rest
    else .error .malformed

namespace Codec

def peerKind : Codec PeerKind := oneOf PeerKind.every PeerKind.name

def peerOfFields (guid : Codec Guid) (place : Place) (fields : List (Option String × Node))
    (closed : Bool) : Except Fault Peer := do
  let duplicate (key : PeerKey) : Fault := .mismatch (.duplicateField key.name)
  match ← nextPeerField closed fields with
  | none => throw (.mismatch (.missingField "type"))
  | some (.kind,node,rest) =>
    let kind ← peerKind.decode place node
    match ← nextPeerField closed rest with
    | none => kind.withoutContent
    | some (.kind,_,_) => throw (duplicate .kind)
    | some (.content,node,rest) =>
      let peer ← kind.decodeContent guid place node
      match ← nextPeerField closed rest with
      | none => pure peer
      | some (key,_,_) => throw (duplicate key)
  | some (.content,content,rest) =>
    if !content.readable (place.format.depthLimit - place.depth) then throw .malformed
    match ← nextPeerField closed rest with
    | none => throw (.mismatch (.missingField "type"))
    | some (.content,_,_) => throw (duplicate .content)
    | some (.kind,node,rest) =>
      let kind ← peerKind.decode place node
      let peer ← kind.decodeContent guid place content
      match ← nextPeerField closed rest with
      | none => pure peer
      | some (key,_,_) => throw (duplicate key)

def peerOfItems (guid : Codec Guid) (place : Place) (expected : String) (closed : Bool) :
    List Node → Except Fault Peer
  | [] => tooShort 0
  | node :: rest => do
    let kind ← match node with
      | .text written => named PeerKind.every PeerKind.name written
      | other => throw (other.unlike "variant identifier")
    match rest with
    | [] => tooShort 1
    | content :: spare =>
      let peer ← kind.decodeContent guid place content
      if place.format.spareItems || (closed && spare.isEmpty) then pure peer
      else throw .malformed
where
  tooShort (length : Nat) : Except Fault Peer :=
    .error (if closed then .mismatch (.wrongLength length expected) else .malformed)

def peer (guid : Codec Guid) : Codec Peer where
  encode
    | .all => .fields [("type",.text PeerKind.all.name)]
    | .anyTrusted => .fields [("type",.text PeerKind.anyTrusted.name)]
    | .guildMember guild =>
      .fields [("type",.text PeerKind.guildMember.name),("guid",guid.encode guild)]
    | .identity identity =>
      .fields [("type",.text PeerKind.identity.name),("guid",guid.encode identity)]
  decode place node :=
    let expected := "adjacently tagged enum PeerType"
    match node with
    | .table fields closed => peerOfFields guid place.inside fields closed
    | .list nodes closed => peerOfItems guid place.inside expected closed nodes
    | other => .error (other.unlike expected)

end Codec

end Custody.Document
