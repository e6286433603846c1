import Custody.Command.Execute
import Custody.Settings

namespace Custody.Program

structure Surroundings where
  words : List String
  userName : Option String
  settingsPath : Option String
  source : String → Settings.Source

-- How a run ends, and what it prints. `errors` is the wording of its failure and nothing else. The
-- dated lines of its log, which tell of progress and warn, go to the same place and are left out,
-- and so are the causes that may be listed below the wording.
structure Result where
  code : UInt8
  output : String
  errors : String
  deriving DecidableEq

def defaultPath : String := "trust-steward.toml"

def registryName : String := "main"

def usage : String :=
  "Usage: trust-steward [-c PATH] [--user-name NAME] <COMMAND>\n\n"
    ++ "Commands: list, claim, claim-all, whoami, rename, registry, help\n"

-- Sets up a coordinator, fills the registry with what is there already, and executes a command.
-- Later changes reach the registry as events.
def course (settings : Settings) (command : Command) : Course (Except String String) := do
  let transport := Site.transport 1
  let setup : Setup Approver Listener :=
    { userName := settings.identity.userName, listener := some (.registry registryName),
      approver := some (.ofTrust settings.approval.trust), keyStore := settings.keyStore }
  match ← Coordinator.create transport setup with
  | .error failure => pure (.error failure.message)
  | .ok coordinator =>
    let apps ← Coordinator.applications transport
    modify fun site => site.onRegistry registryName fun registry => registry.recordAll apps
    let (text,_) ← command.execute transport
      (fun act => Course.step fun site =>
        let (text,after) := act (site.registry registryName)
        (text,{ site with registries := site.registries.insert registryName after })) coordinator
    pure text

def failed (wording : String) : Result := ⟨1,"","Error: " ++ wording ++ "\n"⟩

def wrongUsage : Result := ⟨2,"","error: wrong usage\n\n" ++ usage⟩

def runWith (settings : Settings) (command : Command) : Result :=
  match course settings command settings.site with
  | some (.ok text,_) => ⟨0,text ++ "\n",""⟩
  | some (.error wording,_) => failed wording
  | none => failed "a claim does not end"

-- The path of the settings. What stands among the words beats the environment.
def Surroundings.pathFor (surroundings : Surroundings) (invocation : Invocation) : String :=
  (invocation.settingsPath.or surroundings.settingsPath).getD defaultPath

def Surroundings.path? (surroundings : Surroundings) : Option String :=
  match Invocation.parse surroundings.words with
  | .error _ => none
  | .ok invocation => some (surroundings.pathFor invocation)

-- Runs the program. The name among its words beats the environment, and that beats the settings.
def run (surroundings : Surroundings) : Result :=
  match Invocation.parse surroundings.words with
  | .error .helpAsked => ⟨0,usage,""⟩
  | .error _ => wrongUsage
  | .ok invocation =>
    let path := surroundings.pathFor invocation
    if path = "" then wrongUsage
    else match Settings.load (surroundings.source path) with
      | .error fault => failed fault.message
      | .ok settings =>
        match invocation.userName.or surroundings.userName with
        | none => runWith settings invocation.command
        | some userName => runWith { settings with identity := ⟨userName⟩ } invocation.command

end Custody.Program
