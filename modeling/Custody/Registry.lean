import Custody.Application
import Custody.Keyed

-- The registry: the latest word on every application, and at most one view that is told of each
-- change. A view is shown everything when it is attached and each event after that, so it can
-- keep a copy of the registry without ever asking for it.

namespace Custody

inductive ViewCall where
  | setItems (apps : List Application)
  | addItem (app : Application)
  deriving DecidableEq

structure ViewId where
  name : String
  deriving DecidableEq

structure Notice where
  view : ViewId
  call : ViewCall
  deriving DecidableEq

structure Registry where
  entries : Keyed ApplicationId Application := .empty
  view : Option ViewId := none

namespace Registry

instance : Inhabited Registry := ⟨{}⟩

def record (registry : Registry) (app : Application) : Registry × Option Notice :=
  ({ registry with entries := registry.entries.insert app.id app },
   registry.view.map fun view => ⟨view,.addItem app⟩)

def recordAll (registry : Registry) : List Application → Registry × List Notice
  | [] => (registry,[])
  | app :: rest =>
    let (registry,notice) := registry.record app
    let (registry,notices) := registry.recordAll rest
    (registry,notice.toList ++ notices)

def snapshot (registry : Registry) : List Application := registry.entries.values

def attach (registry : Registry) (view : Option ViewId) : Registry × Option Notice :=
  ({ registry with view },view.map fun view => ⟨view,.setItems registry.snapshot⟩)

def find? (registry : Registry) (id : ApplicationId) : Option Application :=
  registry.entries.find? id

def size (registry : Registry) : Nat := registry.entries.size

end Registry

def ViewCall.applyTo (shown : List Application) : ViewCall → List Application
  | setItems apps => apps
  | addItem app => shown.filter (fun other => other.id ≠ app.id) ++ [app]

end Custody
