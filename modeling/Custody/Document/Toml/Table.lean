import Custody.Document.Node

namespace Custody.Document.Toml

inductive Origin where
  | written
  | implied
  | dotted
  deriving DecidableEq, Repr

inductive Item where
  | value (node : Node)
  | table (origin : Origin) (fields : List (String × Item))
  | tables (elements : List (List (String × Item)))

abbrev Fields := List (String × Item)

mutual

def Item.node : Item → Node
  | .value node => node
  | .table _ fields => .table (fieldNodes fields) true
  | .tables elements => .list (elementNodes elements) true

def fieldNodes : List (String × Item) → List (Option String × Node)
  | [] => []
  | (key,item) :: rest => (some key,item.node) :: fieldNodes rest

def elementNodes : List (List (String × Item)) → List Node
  | [] => []
  | fields :: rest => .table (fieldNodes fields) true :: elementNodes rest

end

namespace Fields

def find? (fields : Fields) (key : String) : Option Item :=
  (List.find? (fun field => field.1 == key) fields).map (·.2)

def remove (fields : Fields) (key : String) : Fields := fields.filter fun field => field.1 != key

def update? (key : String) (change : Option Item → Option Item) : Fields → Option Fields
  | [] => (change none).map fun item => [(key,item)]
  | (other,item) :: rest =>
    if other = key then (change (some item)).map fun item => (other,item) :: rest
    else (update? key change rest).map ((other,item) :: ·)

def add? (fields : Fields) (key : String) (item : Item) : Option Fields :=
  if (fields.find? key).isSome then none else some (fields ++ [(key,item)])

def onLast? (change : Fields → Option Fields) : List Fields → Option (List Fields)
  | [] => none
  | [last] => (change last).map ([·])
  | first :: rest => (onLast? change rest).map (first :: ·)

def onPath? (change : Fields → Option Fields) : List String → Fields → Option Fields
  | [],fields => change fields
  | name :: path,fields =>
    fields.update? name fun
      | none => (onPath? change path []).map (.table .implied)
      | some (.table origin inner) => (onPath? change path inner).map (.table origin)
      | some (.tables elements) => (onLast? (onPath? change path) elements).map .tables
      | some (.value _) => none

def atPath? : List String → Fields → Option Fields
  | [],fields => some fields
  | name :: path,fields =>
    match fields.find? name with
    | some (.table _ inner) => atPath? path inner
    | some (.tables elements) => elements.getLast?.bind (atPath? path)
    | _ => none

-- Puts a value under a key with points. The tables on the way have to be of that origin, or come
-- under a header in double brackets; the last of them has to be of it.
def put? (key : String) (node : Node) : List String → Option Origin → Fields → Option Fields
  | [],none,fields | [],some .dotted,fields => fields.add? key (.value node)
  | [],some _,_ => none
  | name :: path,_,fields =>
    fields.update? name fun
      | none => (put? key node path (some .dotted) []).map (.table .dotted)
      | some (.table .written _) => none
      | some (.table origin inner) =>
        (put? key node path (some origin) inner).map (.table origin)
      | some (.tables elements) =>
        (onLast? (put? key node path (some .written)) elements).map .tables
      | some (.value _) => none

def putParts? (fields : Fields) (parts : List String) (node : Node) : Option Fields :=
  match parts.getLast? with
  | none => none
  | some key => put? key node parts.dropLast none fields

end Fields

end Custody.Document.Toml
