import Custody.Document.Fault

namespace Custody.Document

structure Format where
  spareItems : Bool
  depthLimit : Nat
  countsFirst : Bool
  emptyContent : Node → Except Fault Unit
  floatText : Binary64 → String

structure Place where
  format : Format
  depth : Nat

def Place.inside (place : Place) : Place := { place with depth := place.depth + 1 }

structure Codec (α : Type) where
  encode : α → Node
  decode : Place → Node → Except Fault α

namespace Codec

variable {α β : Type}

def imap (codec : Codec α) (wrap : α → β) (unwrap : β → α) : Codec β where
  encode value := codec.encode (unwrap value)
  decode place node := (codec.decode place node).map wrap

def textNamed (expected : String) : Codec String where
  encode := .text
  decode _ node :=
    match node with
    | .text value => .ok value
    | other => .error (other.unlike expected)

def text : Codec String := textNamed "a string"

def boolean : Codec Bool where
  encode := .boolean
  decode _ node :=
    match node with
    | .boolean value => .ok value
    | other => .error (other.unlike "a boolean")

def natural (largest : Nat) (expected : String) : Codec Nat where
  encode value := .integer value
  decode _ node :=
    match node with
    | .integer value =>
      if 0 ≤ value ∧ value ≤ largest then .ok value.toNat
      else .error (.mismatch (.outOfRange value expected))
    | other => .error (other.unlike expected)

def uint8 : Codec UInt8 := (natural 255 "u8").imap UInt8.ofNat UInt8.toNat

def uint32 : Codec UInt32 := (natural 4294967295 "u32").imap UInt32.ofNat UInt32.toNat

def parsed (parse : String → Except String α) (write : α → String) : Codec α where
  encode value := .text (write value)
  decode place node :=
    match text.decode place node with
    | .error fault => .error fault
    | .ok written => (parse written).mapError fun wording => .mismatch (.refused wording)

def optional (codec : Codec α) : Codec (Option α) where
  encode
    | none => .null
    | some value => codec.encode value
  decode place node :=
    match node with
    | .null => .ok none
    | other => (codec.decode place other).map some

def decodeAll (decode : Node → Except Fault α) : List Node → Except Fault (List α)
  | [] => .ok []
  | node :: rest =>
    match decode node with
    | .error fault => .error fault
    | .ok value => (decodeAll decode rest).map (value :: ·)

def list (codec : Codec α) : Codec (List α) where
  encode values := .items (values.map codec.encode)
  decode place node :=
    match node with
    | .list nodes closed =>
      match decodeAll (codec.decode place.inside) nodes with
      | .error fault => .error fault
      | .ok values => if closed then .ok values else .error .malformed
    | other => .error (other.unlike "a sequence")

def named (all : List α) (name : α → String) (written : String) : Except Fault α :=
  match all.find? (fun value => name value == written) with
  | some value => .ok value
  | none => .error (.mismatch (.unknownVariant written (all.map name)))

def namedByTable (place : Place) (all : List α) (name : α → String) :
    List (Option String × Node) → (closed : Bool) → Except Fault α
  | [],_ | (none,_) :: _,_ => .error .malformed
  | (some key,content) :: rest,closed => do
    if place.format.countsFirst && !rest.isEmpty then throw .malformed
    let value ← named all name key
    place.format.emptyContent content
    if rest.isEmpty && closed then pure value else throw .malformed

-- One of a few names, written as a text. It is also read from a table with the name as its key.
def oneOf (all : List α) (name : α → String) : Codec α where
  encode value := .text (name value)
  decode place node :=
    match node with
    | .text written => named all name written
    | .table fields closed => namedByTable place all name fields closed
    | _ => .error .malformed

end Codec

end Custody.Document
