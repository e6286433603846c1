import Custody.Application
import Custody.Command.Words

namespace Custody

inductive Command where
  | list (state : Option ClaimState) (json : Bool)
  | claim (id : ApplicationId)
  | claimAll
  | whoami
  | rename (name : String)
  | registry
  deriving DecidableEq

namespace Command

def names : List String := ["help","list","claim","claim-all","whoami","rename","registry"]

def refusesState (value : String) : Option UsageFault :=
  match ClaimState.parse value with
  | .ok _ => none
  | .error _ => some .refusedValue

def listForm : LineForm where
  options :=
    [{ long := "state", short := some 's', takesValue := true, refuses := refusesState },
     { long := "json" }]

def readWords (form : LineForm) (words : List String) : Except UsageFault Reading :=
  (({} : Reading).line form words).bind fun (reading,_) => reading.settle

def oneWord (words : List String) : Except UsageFault String :=
  (readWords { words := 1 } words).bind fun reading =>
    match reading.words with
    | [w] => .ok w
    | _ => .error .missingWord

def ofName (name : String) (words : List String) : Except UsageFault Command :=
  match name with
  | "help" =>
    match words with
    | [] => .error .helpAsked
    | [word] => .error (if names.contains word then .helpAsked else .unknownCommand)
    | _ => .error .unknownCommand
  | "list" =>
    (readWords listForm words).map fun reading =>
      list ((reading.value? "state").bind fun value => (ClaimState.parse value).toOption)
        (reading.has "json")
  | "claim" => (oneWord words).map fun id => claim ⟨id⟩
  | "claim-all" => (readWords {} words).map fun _ => claimAll
  | "whoami" => (readWords {} words).map fun _ => whoami
  | "rename" => (oneWord words).map rename
  | "registry" => (readWords {} words).map fun _ => registry
  | _ => .error .unknownCommand

def parse (words : List String) : Except UsageFault Command :=
  (({} : Reading).line { commands := names } words).bind fun (_,found) =>
    match found with
    | none => .error .nothingGiven
    | some (name,rest) => ofName name rest

end Command

structure Invocation where
  settingsPath : Option String
  userName : Option String
  command : Command
  deriving DecidableEq

namespace Invocation

open Command

def refusesEmptyPath (value : String) : Option UsageFault :=
  if value = "" then some .missingValue else none

def form : LineForm where
  options :=
    [{ long := "config", short := some 'c', takesValue := true, refuses := refusesEmptyPath },
     { long := "user-name", takesValue := true }]
  commands := Command.names

-- Reads the words the program is started with. The options in front of a command are settled
-- after the command has been read.
def parse (words : List String) : Except UsageFault Invocation :=
  (({} : Reading).line form words).bind fun (reading,found) =>
    match found with
    | some (name,rest) =>
      (Command.ofName name rest).bind fun command =>
        reading.settle.map fun reading =>
          ⟨reading.value? "config",reading.value? "user-name",command⟩
    | none =>
      reading.settle.bind fun reading =>
        .error (if reading.options.isEmpty then .nothingGiven else .missingCommand)

end Invocation

end Custody
