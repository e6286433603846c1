import Custody.Settings

-- Files and folders, and where a path leads among them. A path is walked from its first part to
-- its last, and every part before the end, an empty one behind a slash included, needs a folder
-- to go on from. So a path through a file or through nothing leads nowhere, even if it turns back
-- at once.

namespace Custody

inductive Entry where
  | file (bytes : ByteArray)
  | folder (entries : List (String × Entry))

namespace Entry

def entries : Entry → List (String × Entry)
  | file _ => []
  | folder entries => entries

def isFolder : Entry → Bool
  | file _ => false
  | folder _ => true

def child? (entry : Entry) (name : String) : Option Entry :=
  (entry.entries.find? fun pair => pair.1 == name).map (·.2)

def at? : List String → Entry → Option Entry
  | [],entry => some entry
  | name :: names,entry => (entry.child? name).bind (at? names)

def put (entry : Entry) : List String → Entry → Entry
  | [],new => new
  | name :: names,new =>
    let inner := ((entry.child? name).getD (folder [])).put names new
    folder ((name,inner) :: entry.entries.filter fun pair => pair.1 != name)

end Entry

structure Disk where
  root : Entry
  working : List String

namespace Disk

-- Goes on by one part of a path. Two points lead to the folder around, which for the root is the
-- root itself.
def step (disk : Disk) (names : List String) (part : String) : Option (List String) := do
  if !(← disk.root.at? names).isFolder then none
  else if part = "" ∨ part = "." then some names
  else if part = ".." then some names.dropLast
  else some (names ++ [part])

def pieces : List Char → List (List Char)
  | [] => [[]]
  | c :: rest =>
    if c = '/' then [] :: pieces rest
    else match pieces rest with
      | [] => [[c]]
      | first :: more => (c :: first) :: more

-- The parts of a path. Of two slashes, and of one at an end, there is an empty one.
def parts (path : String) : List String := (pieces path.toList).map String.ofList

def pathLimit : Nat := 4095

def find? (disk : Disk) (path : String) : Option Entry := do
  if path.isEmpty || pathLimit < path.utf8ByteSize then none
  else
    let start := if path.toList.head? = some '/' then [] else disk.working
    let names ← (parts path).foldlM disk.step start
    disk.root.at? names

def source (disk : Disk) (path : String) : Settings.Source :=
  match disk.find? path with
  | none => .nothing
  | some (.file bytes) => .file bytes
  | some (.folder _) => .unreadable

end Disk

end Custody
