-- Applications as the fleet reports them: how far each is from being owned, whether it runs, and
-- the names it goes by.

namespace Custody

structure ApplicationId where
  text : String
  deriving DecidableEq, Inhabited

-- Ids are ordered by their texts, which is the order of their UTF-8 bytes.
instance : Ord ApplicationId := ⟨compareOn ApplicationId.text⟩

instance : Std.TransOrd ApplicationId :=
  inferInstanceAs (Std.TransCmp (compareOn ApplicationId.text))

instance : Std.LawfulEqOrd ApplicationId where
  compare_self {a} := (Std.ReflCmp.compare_self : compare a.text a.text = .eq)
  eq_of_compare {a b} same := by
    have texts : a.text = b.text :=
      Std.LawfulEqCmp.eq_of_compare (show compare a.text b.text = .eq from same)
    cases a; cases b; cases texts; rfl

inductive ClaimState where
  | unclaimable
  | claimable
  | claiming
  | claimed
  | needUpdate
  deriving DecidableEq, Repr

namespace ClaimState

instance : Inhabited ClaimState := ⟨unclaimable⟩

def all : List ClaimState := [unclaimable,claimable,claiming,claimed,needUpdate]

def text : ClaimState → String
  | unclaimable => "unclaimable"
  | claimable => "claimable"
  | claiming => "claiming"
  | claimed => "claimed"
  | needUpdate => "need_update"

-- Reads a state in any ASCII case. `not_claimable` is a second word for the first state. The
-- error is the text as it was compared, in lower case.
def parse (s : String) : Except String ClaimState :=
  let word := s.toLower
  match all.find? (fun state => state.text == word) with
  | some state => .ok state
  | none => if word = "not_claimable" then .ok unclaimable else .error word

def unknownMessage (word : String) : String := s!"unknown claim state: {word}"

end ClaimState

inductive RunningState where
  | running
  | notRunning
  | unknown
  deriving DecidableEq, Repr

namespace RunningState

instance : Inhabited RunningState := ⟨unknown⟩

def all : List RunningState := [running,notRunning,unknown]

def text : RunningState → String
  | running => "running"
  | notRunning => "not_running"
  | unknown => "unknown"

end RunningState

structure Application where
  id : ApplicationId
  name : String
  device : String
  claimState : ClaimState := default
  runningState : RunningState := default
  deriving DecidableEq, Inhabited

namespace Application

def isClaimable (app : Application) : Bool := app.claimState == .claimable

def label (app : Application) : String := s!"{app.name}@{app.device}"

def describe (app : Application) : String :=
  s!"{app.label}\nLast Claim Status : {app.claimState.text}\nLast Status : {app.runningState.text}"

end Application

end Custody
