import Custody.Command.Line
import Custody.Command.Report

namespace Custody.Command

variable {m : Type → Type} [Monad m] {Approver Listener : Type}

def claimEach (transport : Transport m Approver Listener) (coordinator : Coordinator) :
    List Application → m (List (ApplicationId × Except Failure Unit))
  | [] => pure []
  | app :: rest => do
    let result ← coordinator.claim transport app
    let results ← claimEach transport coordinator rest
    pure ((app.id,result) :: results)

def execute (transport : Transport m Approver Listener)
    (onRegistry : (Registry → String × Registry) → m String) (coordinator : Coordinator) :
    Command → m (Except String String × Coordinator)
  | .list state json => do
    let apps ← match state with
      | some state => Coordinator.applicationsIn transport state
      | none => Coordinator.applications transport
    pure (.ok (if json then Report.json apps else Report.table apps),coordinator)
  | .claim id => do
    match ← Coordinator.application transport id with
    | .error failure => pure (.error failure.message,coordinator)
    | .ok app =>
      match ← coordinator.claim transport app with
      | .error failure => pure (.error failure.message,coordinator)
      | .ok () => pure (.ok (Report.claimed app),coordinator)
  | .claimAll => do
    let apps ← Coordinator.applicationsIn transport .claimable
    if apps.isEmpty then pure (.ok "No claimable applications",coordinator)
    else
      let results ← claimEach transport coordinator apps
      pure (.ok (Report.claims results),coordinator)
  | .whoami => pure (.ok (Report.whoami coordinator),coordinator)
  | .rename name => do
    match ← coordinator.rename transport name with
    | (.error failure,coordinator) => pure (.error failure.message,coordinator)
    | (.ok (),coordinator) =>
      pure (.ok ("User name is now " ++ coordinator.userName),coordinator)
  | .registry => do
    let text ← onRegistry Report.registry
    pure (.ok text,coordinator)

end Custody.Command
