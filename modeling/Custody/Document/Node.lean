import Custody.Number.Binary64

namespace Custody.Document

inductive Node where
  | null
  | boolean (value : Bool)
  | integer (value : Int)
  | float (value : Binary64)
  | text (value : String)
  | moment (written : String)
  | list (items : List Node) (closed : Bool)
  -- The fields of a table, and whether its end was found. A field without a key has one that
  -- cannot be read.
  | table (fields : List (Option String × Node)) (closed : Bool)
  -- Well formed, but beyond what can be read: half a surrogate pair, or a number too large.
  | unreadable
  | missing
  deriving Repr

namespace Node

def items (nodes : List Node) : Node := list nodes true

def fields (pairs : List (String × Node)) : Node :=
  table (pairs.map fun pair => (some pair.1,pair.2)) true

mutual

def wellFormed : Node → Bool
  | list items closed => closed && allWellFormed items
  | table fields closed => closed && fieldsWellFormed fields
  | missing => false
  | _ => true

def allWellFormed : List Node → Bool
  | [] => true
  | node :: rest => node.wellFormed && allWellFormed rest

def fieldsWellFormed : List (Option String × Node) → Bool
  | [] => true
  | (_,node) :: rest => node.wellFormed && fieldsWellFormed rest

end

mutual

def readable : Nat → Node → Bool
  | depth,list items closed => 0 < depth && closed && allReadable (depth - 1) items
  | depth,table fields closed => 0 < depth && closed && fieldsReadable (depth - 1) fields
  | _,unreadable | _,missing => false
  | _,_ => true

def allReadable : Nat → List Node → Bool
  | _,[] => true
  | depth,node :: rest => readable depth node && allReadable depth rest

def fieldsReadable : Nat → List (Option String × Node) → Bool
  | _,[] => true
  | depth,(key,node) :: rest => key.isSome && readable depth node && fieldsReadable depth rest

end

end Node

end Custody.Document
