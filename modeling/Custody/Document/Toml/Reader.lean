import Custody.Document.Codec
import Custody.Document.Toml.Scalar
import Custody.Document.Toml.Table
import Custody.Number.Shortest

namespace Custody.Document.Toml

mutual

def value? : Nat → Nat → List Char → Option (Node × List Char)
  | 0,_,_ => none
  | fuel+1,depth,cs =>
    match cs with
    | [] => none
    | 't' :: 'r' :: 'u' :: 'e' :: rest => some (.boolean true,rest)
    | 'f' :: 'a' :: 'l' :: 's' :: 'e' :: rest => some (.boolean false,rest)
    | '[' :: rest =>
      if nestingLimit ≤ depth + 1 then none
      else do
        let (nodes,rest) ← items? fuel (depth + 1) rest
        some (.list nodes true,rest)
    | c :: rest =>
      if c = Char.ofNat 0x7b then
        if nestingLimit ≤ depth + 1 then none
        else do
          let (fields,rest) ← inlineFields? fuel (depth + 1) [] (skipBlank rest)
          some (.table (fieldNodes fields) true,rest)
      else if c = '"' ∨ c = '\'' then
        (text? (c :: rest)).map fun (written,rest) => (.text written,rest)
      else numberOrMoment? (c :: rest)

def items? : Nat → Nat → List Char → Option (List Node × List Char)
  | 0,_,_ => none
  | fuel+1,depth,cs =>
    match skipLines (cs.length + 1) cs with
    | ']' :: rest => some ([],rest)
    | rest => do
      let (node,rest) ← value? fuel depth rest
      match skipLines (rest.length + 1) rest with
      | ',' :: rest =>
        let (nodes,rest) ← items? fuel depth rest
        some (node :: nodes,rest)
      | ']' :: rest => some ([node],rest)
      | _ => none

def inlineFields? : Nat → Nat → Fields → List Char → Option (Fields × List Char)
  | 0,_,_,_ => none
  | fuel+1,depth,fields,cs =>
    match cs with
    | [] => none
    | c :: rest =>
      if c = Char.ofNat 0x7d then
        if fields.isEmpty then some ([],rest) else none
      else do
        let (fields,rest) ← inlineField? fuel depth fields (c :: rest)
        match rest with
        | [] => none
        | c :: rest =>
          if c = Char.ofNat 0x7d then some (fields,rest)
          else if c = ',' then inlineFields? fuel depth fields (skipBlank rest)
          else none

def inlineField? : Nat → Nat → Fields → List Char → Option (Fields × List Char)
  | 0,_,_,_ => none
  | fuel+1,depth,fields,cs => do
    let (parts,rest) ← key? cs
    let rest ← after? ['='] rest
    let (node,rest) ← value? fuel depth (skipBlank rest)
    let fields ← fields.putParts? parts node
    some (fields,skipBlank rest)

end

structure Draft where
  done : Fields := []
  path : List String := []
  isElement : Bool := false
  current : Fields := []

namespace Draft

def finish (draft : Draft) : Option Fields :=
  match draft.path.getLast? with
  | none => some draft.current
  | some name =>
    draft.done.onPath? (fun fields =>
      if draft.isElement then
        fields.update? name fun
          | some (.tables elements) => some (.tables (elements ++ [draft.current]))
          | _ => none
      else fields.add? name (.table .written draft.current)) draft.path.dropLast

-- Begins the table of a header. One that a header has passed through goes on from what it has,
-- and comes behind the tables that were finished meanwhile.
def header (draft : Draft) (path : List String) : Option Draft := do
  let name ← path.getLast?
  let outer := path.dropLast
  let done ← (← draft.finish).onPath? some outer
  match (← done.atPath? outer).find? name with
  | none => some { done,path }
  | some (.table .implied fields) =>
    let done ← done.onPath? (fun inner => some (inner.remove name)) outer
    some { done,path,current := fields }
  | some _ => none

def elementHeader (draft : Draft) (path : List String) : Option Draft := do
  let name ← path.getLast?
  let done ← (← draft.finish).onPath? (fun fields =>
    fields.update? name fun
      | none => some (.tables [])
      | some (.tables elements) => some (.tables elements)
      | some _ => none) path.dropLast
  some { done,path,isElement := true }

def put (draft : Draft) (parts : List String) (node : Node) : Option Draft :=
  (draft.current.putParts? parts node).map fun current => { draft with current }

end Draft

def statement? (draft : Draft) (cs : List Char) : Option (Draft × List Char) :=
  match cs with
  | '[' :: '[' :: rest => do
    let (path,rest) ← key? rest
    let rest ← (after? [']'] rest).bind (after? [']'])
    some (← draft.elementHeader path,← endOfLine? rest)
  | '[' :: rest => do
    let (path,rest) ← key? rest
    let rest ← after? [']'] rest
    some (← draft.header path,← endOfLine? rest)
  | cs => do
    let (parts,rest) ← key? cs
    let rest ← after? ['='] rest
    let (node,rest) ← value? (3 * rest.length + 3) 0 (skipBlank rest)
    some (← draft.put parts node,← endOfLine? rest)

def statements : Nat → Draft → List Char → Option Draft
  | 0,_,_ => none
  | fuel+1,draft,cs =>
    match skipBlank cs with
    | [] => some draft
    | cs =>
      match endOfLine? cs with
      | some rest => statements fuel draft rest
      | none => do
        let (draft,rest) ← statement? draft cs
        statements fuel draft rest

def format : Format where
  spareItems := true
  depthLimit := nestingLimit
  countsFirst := true
  emptyContent
    | .table [] true | .list [] true => .ok ()
    | _ => .error .malformed
  floatText := Binary64.Style.plain.write

-- The node of a document. A byte order mark may stand in front of it.
def read (s : String) : Option Node := do
  let cs := match s.toList with
    | c :: rest => if c = Char.ofNat 0xfeff then rest else c :: rest
    | [] => []
  let draft ← statements (cs.length + 1) {} cs
  some (.table (fieldNodes (← draft.finish)) true)

def decode {α : Type} (codec : Codec α) (s : String) : Except Fault α :=
  match read s with
  | none => .error .malformed
  | some node => codec.decode ⟨format,0⟩ node

end Custody.Document.Toml
