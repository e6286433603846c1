import Custody.Coordinator
import Custody.Document.Forms
import Custody.Document.Json.Writer
import Custody.Registry
import Custody.Text.Blank

namespace Custody.Report

def padded (width : Nat) (s : String) : String :=
  s ++ String.ofList (List.replicate (width - s.length) ' ')

def row (id name device claim running : String) : String :=
  padded 16 id ++ " " ++ padded 20 name ++ " " ++ padded 16 device ++ " " ++ padded 12 claim
    ++ " " ++ running ++ "\n"

def header : String := row "ID" "NAME" "DEVICE" "CLAIM" "RUNNING"

def appRow (app : Application) : String :=
  row app.id.text app.name app.device app.claimState.text app.runningState.text

def table (apps : List Application) : String :=
  if apps.isEmpty then "No applications"
  else Text.trimEnd (header ++ String.join (apps.map appRow))

def json (apps : List Application) : String :=
  Document.Json.pretty 0 ((Document.Codec.list Document.Codec.application).encode apps)

def claimed (app : Application) : String :=
  s!"Claimed {app.id.text} ({app.label})"

def claimLine (id : ApplicationId) : Except Failure Unit → String
  | .ok () => s!"  claimed  {id.text}"
  | .error failure => s!"  FAILED   {id.text}: {failure.message}"

def claims (results : List (ApplicationId × Except Failure Unit)) : String :=
  let failed := (results.filter fun result => !result.2.isOk).length
  let lines := results.map fun result => claimLine result.1 result.2
  "\n".intercalate (lines ++ [s!"{results.length - failed} claimed, {failed} failed"])

def whoami (coordinator : Coordinator) : String :=
  s!"User:     {coordinator.userName}\nIdentity: {coordinator.identity.guid.text}\n"
    ++ s!"Guild:    {coordinator.guild.name} ({coordinator.guild.guid.text})\n"
    ++ s!"          {coordinator.guild.description}"

def blocks (shown : List Application) : String :=
  if shown.isEmpty then "Registry is empty"
  else
    let sorted := shown.mergeSort fun a b => (compare a.id b.id).isLE
    "\n\n".intercalate (sorted.map fun app => s!"[{app.id.text}]\n{app.describe}")

-- What a view shows that is attached to a registry for this, and detached again. Another view
-- that was attached before is not attached afterwards.
def registry (registry : Registry) : String × Registry :=
  let (attached,notice) := registry.attach (some ⟨"text"⟩)
  let shown := notice.toList.foldl (fun shown notice => notice.call.applyTo shown) []
  (blocks shown,(attached.attach none).1)

end Custody.Report
