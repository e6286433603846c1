import Custody.Command.Execute
import Custody.Site

namespace Custody

structure Session where
  site : Site := {}
  coordinators : Keyed String Coordinator := .empty

namespace Session

instance : Inhabited Session := ⟨{}⟩

inductive Step where
  | operate (operation : Operation)
  | takeSightings (recorder : String)
  | takeBook (book : String)
  | takeViewCalls (view : String)
  | event (registry : String) (event : Event)
  | record (registry : String) (apps : List Application)
  | attach (registry : String) (view : Option ViewId)
  | snapshot (registry : String)
  | entry (registry : String) (id : ApplicationId)
  | size (registry : String)
  | setUp (name : String) (setup : Setup Approver Listener)
  | dismiss (name : String)
  | whoami (name : String)
  | applications (name : String)
  | applicationsIn (name : String) (state : ClaimState)
  | application (name : String) (id : ApplicationId)
  | claim (name : String) (app : Application)
  | rename (name : String) (userName : String)
  | command (name registry : String) (words : List String)

inductive Answer where
  | done
  | flag (value : Bool)
  | outcome (outcome : Outcome)
  | sightings (value : List Sighting)
  | consultations (value : List Consultation)
  | viewCalls (value : List ViewCall)
  | applications (value : List Application)
  | entry (value : Option Application)
  | size (value : Nat)
  | coordinator (value : Coordinator)
  | failed (failure : Failure)
  | renamed (result : Except Failure Unit) (after : Coordinator)
  | printed (text : Except String String)
  | usage (fault : Command.UsageFault)
  | nobody

abbrev Course (α : Type) := StateT Session Option α

def onSite {α : Type} (course : Custody.Course α) : Course α := fun session =>
  (course session.site).map fun (result,site) => (result,{ session with site })

def withCoordinator (name : String) (act : Coordinator → Course Answer) : Course Answer := do
  match (← get).coordinators.find? name with
  | none => pure .nobody
  | some coordinator => act coordinator

def keep (name : String) (coordinator : Coordinator) : Course Unit :=
  modify fun session =>
    { session with coordinators := session.coordinators.insert name coordinator }

def onRegistry {α : Type} (name : String) (answer : Registry → α)
    (act : Registry → Registry × List Notice) : Course α :=
  onSite (Custody.Course.step fun site =>
    let site := site.onRegistry name act
    (answer (site.registry name),site))

def readRegistry {α : Type} (name : String) (answer : Registry → α) : Course α :=
  onRegistry name answer fun registry => (registry,[])

def claimDepth : Nat := 10000

def transport : Transport (StateT Site Option) Approver Listener := Site.transport claimDepth

def runCommand (name registry : String) (coordinator : Coordinator) (command : Command) :
    Course Answer := do
  let (text,coordinator) ← onSite (command.execute transport
    (fun act => Custody.Course.step fun site =>
      let (text,after) := act (site.registry registry)
      (text,{ site with registries := site.registries.insert registry after })) coordinator)
  keep name coordinator
  pure (.printed text)

def perform : Step → Course Answer
  | .operate operation => do return .outcome (← onSite (operation.perform claimDepth))
  | .takeSightings name => onSite (Custody.Course.step fun site =>
      (.sightings (site.sightings name),{ site with recorders := site.recorders.erase name }))
  | .takeBook name => onSite (Custody.Course.step fun site =>
      (.consultations (site.book name),{ site with books := site.books.erase name }))
  | .takeViewCalls name => onSite (Custody.Course.step fun site =>
      (.viewCalls (site.viewCalls name),{ site with views := site.views.erase name }))
  | .event name event => onRegistry name (fun _ => .done) fun registry =>
      let (registry,notice) := registry.record event.new
      (registry,notice.toList)
  | .record name apps => onRegistry name (fun _ => .done) fun registry => registry.recordAll apps
  | .attach name view => onRegistry name (fun _ => .done) fun registry =>
      let (registry,notice) := registry.attach view
      (registry,notice.toList)
  | .snapshot name => readRegistry name fun registry => .applications registry.snapshot
  | .entry name id => readRegistry name fun registry => .entry (registry.find? id)
  | .size name => readRegistry name fun registry => .size registry.size
  | .setUp name setup => do
    if let some listener := setup.listener then
      onSite (Custody.Course.step fun site => ((),site.naming listener))
    match ← onSite (Coordinator.create transport setup) with
    | .error failure => pure (.failed failure)
    | .ok coordinator =>
      keep name coordinator
      pure (.coordinator coordinator)
  | .dismiss name => do
    let session ← get
    set { session with coordinators := session.coordinators.erase name }
    pure (.flag (session.coordinators.contains name))
  | .whoami name => withCoordinator name fun coordinator => pure (.coordinator coordinator)
  | .applications name => withCoordinator name fun _ => do
    return .applications (← onSite (Coordinator.applications transport))
  | .applicationsIn name state => withCoordinator name fun _ => do
    return .applications (← onSite (Coordinator.applicationsIn transport state))
  | .application name id => withCoordinator name fun _ => do
    match ← onSite (Coordinator.application transport id) with
    | .ok app => pure (.outcome (.application app))
    | .error failure => pure (.failed failure)
  | .claim name app => withCoordinator name fun coordinator => do
    match ← onSite (coordinator.claim transport app) with
    | .ok () => pure .done
    | .error failure => pure (.failed failure)
  | .rename name userName => withCoordinator name fun coordinator => do
    let (result,coordinator) ← onSite (coordinator.rename transport userName)
    keep name coordinator
    pure (.renamed result coordinator)
  | .command name registry words => withCoordinator name fun coordinator => do
    readRegistry registry fun _ => ()
    match Command.parse words with
    | .error fault => pure (.usage fault)
    | .ok command => runCommand name registry coordinator command

def performAll : List Step → Course (List Answer)
  | [] => pure []
  | step :: rest => do
    let answer ← perform step
    let answers ← performAll rest
    pure (answer :: answers)

end Session

end Custody
