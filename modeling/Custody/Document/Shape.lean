import Custody.Document.Codec

namespace Custody.Document

-- A field: its name, how its value is read and written, and the value it has when it is left out.
-- A field without such a value must be there.
structure Field where
  name : String
  type : Type
  codec : Codec type
  default? : Option type := none

abbrev Shape := List Field

namespace Shape

def Values : Shape → Type
  | [] => Unit
  | field :: rest => field.type × Values rest

def Slots : Shape → Type
  | [] => Unit
  | field :: rest => Option field.type × Slots rest

def blank : (shape : Shape) → Slots shape
  | [] => ()
  | _ :: rest => (none,blank rest)

def write : (shape : Shape) → Values shape → List (String × Node)
  | [],_ => []
  | field :: rest,(value,values) => (field.name,field.codec.encode value) :: write rest values

-- Reads a field into its slot. None if no field has that name. A second field of a name is a
-- fault before its value is looked at.
def fill (place : Place) (key : String) (node : Node) :
    (shape : Shape) → Slots shape → Option (Except Fault (Slots shape))
  | [],_ => none
  | field :: rest,(slot,slots) =>
    if key = field.name then
      some (match slot with
        | some _ => .error (.mismatch (.duplicateField key))
        | none => (field.codec.decode place node).map fun value => (some value,slots))
    else (fill place key node rest slots).map fun result => result.map fun filled => (slot,filled)

def fillAll (place : Place) (shape : Shape) :
    List (Option String × Node) → Slots shape → Except Fault (Slots shape)
  | [],slots => .ok slots
  | (none,_) :: _,_ => .error .malformed
  | (some key,node) :: rest,slots =>
    match fill place key node shape slots with
    | none => if node.wellFormed then fillAll place shape rest slots else .error .malformed
    | some (.error fault) => .error fault
    | some (.ok slots) => fillAll place shape rest slots

-- The values of what has been read, once all has been. The first field that is left out and must
-- not be is a fault.
def settle : (shape : Shape) → Slots shape → Except Fault (Values shape)
  | [],_ => .ok ()
  | field :: rest,(slot,slots) =>
    match slot.or field.default? with
    | none => .error (.mismatch (.missingField field.name))
    | some value => (settle rest slots).map fun values => (value,values)

def readItems (place : Place) (expected : String) (closed : Bool) :
    (shape : Shape) → (position : Nat) → List Node → Except Fault (Values shape × List Node)
  | [],_,nodes => .ok ((),nodes)
  | field :: rest,position,node :: nodes =>
    match field.codec.decode place node with
    | .error fault => .error fault
    | .ok value =>
      (readItems place expected closed rest (position + 1) nodes).map fun result =>
        ((value,result.1),result.2)
  | field :: rest,position,[] =>
    if closed then
      match field.default? with
      | none => .error (.mismatch (.wrongLength position expected))
      | some value =>
        (readItems place expected closed rest (position + 1) []).map fun result =>
          ((value,result.1),result.2)
    else .error .malformed

def count (shape : Shape) : String :=
  toString shape.length ++ (if shape.length = 1 then " element" else " elements")

end Shape

def Codec.record {α : Type} (name : String) (shape : Shape)
    (make : shape.Values → α) (parts : α → shape.Values) : Codec α where
  encode value := .fields (shape.write (parts value))
  decode place node :=
    let expected := "struct " ++ name
    match node with
    | .table fields closed => do
      let slots ← shape.fillAll place.inside fields shape.blank
      if !closed then throw .malformed
      (shape.settle slots).map make
    | .moment _ => (shape.settle shape.blank).map make
    | .list nodes closed => do
      let (values,spare) ←
        shape.readItems place.inside (expected ++ " with " ++ shape.count) closed 0 nodes
      if place.format.spareItems || (closed && spare.isEmpty) then .ok (make values)
      else throw .malformed
    | other => .error (other.unlike expected)

end Custody.Document
