import Custody.Proofs.Past

-- Which manifest an owned application has, and who approved it. An approver is shown the manifest
-- of the moment at which the claim begins. The claim is completed on whatever the record has
-- become, so the manifest that ends up owned is the one announced last while the approver was
-- deciding.

namespace Custody

variable {id : ApplicationId}

-- What a record tells of its announcement. Nothing but another announcement changes it.
def Record.origin (record : Record) : ApplicationId × String × String × Manifest :=
  (record.app.id,record.app.name,record.app.device,record.manifest)

theorem settled_origin (record : Record) (claimant : Guid) (approved : Bool) :
    (record.settled claimant approved).origin = record.origin := by
  cases approved <;> rfl

theorem Change.origin {before after : Record} (change : Change id (some before) move (some after))
    (other : move.announced id = none) : after.origin = before.origin := by
  cases change with
  | kept => rfl
  | announced new => rw [other] at new; cases new
  | running => rfl
  | enrolled => rfl
  | governed => rfl
  | marked here free app manifest => simp [Record.origin,app]
  | decided here => exact settled_origin _ _ _

-- The claim state in which a move leaves an application that it announces, or whose claim it
-- decides.
def Move.leaves (id : ApplicationId) : Move → Option ClaimState
  | .decided claim approved =>
    if claim.id = id then some (if approved then .claimed else .claimable) else none
  | move => (move.announced id).map (·.app.claimState)

theorem concerns_leaves {move : Move} (other : move.concerns id = false) :
    move.leaves id = none := by
  cases move with
  | performed operation outcome => exact Option.map_eq_none_iff.mpr (concerns_announced other)
  | began claim => rfl
  | noted book entry => rfl
  | decided claim approved => simpa [Move.concerns,Move.leaves] using other

theorem announced_leaves {move : Move} (new : move.announced id = some record) :
    move.leaves id = some record.app.claimState := by
  cases move with
  | performed operation outcome => exact Option.map_eq_some_iff.mpr ⟨record,new,rfl⟩
  | began | noted | decided => cases new

theorem announced_owner {move : Move} (new : move.announced id = some record) :
    record.owner = none := by
  obtain ⟨_,_,_,_,_,rfl⟩ := announced_fresh new
  rfl

-- A record has its owner from before, or from a claim that is decided right now.
theorem Change.owner_source (change : Change id before move (some record))
    (owned : record.owner = some owner) :
    ∃ old, before = some old ∧ record.origin = old.origin ∧
      (old.owner = some owner ∧ move.leaves id = none ∨
        ∃ claim, move = .decided claim true ∧ claim.id = id ∧ claim.claimant = owner) := by
  cases change with
  | kept other => exact ⟨record,rfl,rfl,.inl ⟨owned,concerns_leaves other⟩⟩
  | announced new => rw [announced_owner new] at owned; cases owned
  | running | enrolled | governed => exact ⟨_,rfl,rfl,.inl ⟨owned,rfl⟩⟩
  | marked here free app manifest =>
    exact ⟨_,rfl,by simp [Record.origin,app],.inl ⟨owned,rfl⟩⟩
  | @decided old claim approved here =>
    refine ⟨old,rfl,settled_origin _ _ _,.inr ⟨claim,?_⟩⟩
    cases approved with
    | true => exact ⟨rfl,here,Option.some.inj owned⟩
    | false => cases owned

namespace Moment

-- A record comes from the latest announcement of its application.
theorem found_announced (reached : Reached allowed m)
    (found : m.site.fleet.records.find? id = some record) :
    ∃ fresh, latest (·.announced id) m.past = some fresh ∧ record.origin = fresh.origin := by
  induction reached generalizing record with
  | initial => cases found
  | @step m move next _ step _ ih =>
    rw [step_past step,latest_concat]
    have change := step_change step id
    cases told : move.announced id with
    | some fresh =>
      rw [change.fresh told] at found
      cases found
      exact ⟨record,rfl,rfl⟩
    | none =>
      rw [found] at change
      obtain ⟨old,known⟩ := change.known told
      rw [known] at change
      obtain ⟨fresh,announced,same⟩ := ih known
      exact ⟨fresh,announced,(change.origin told).trans same⟩

-- An approver is shown what the application presented when the claim began.
theorem shown_announced (reached : Reached allowed m) (waits : claim ∈ m.claims) :
    ∃ fresh, latest (·.announced claim.id) (m.past.take claim.since) = some fresh ∧
      claim.shown.manifest = fresh.manifest := by
  refine waiting_induction
    (fun m => ∃ fresh, latest (·.announced claim.id) (m.past.take claim.since) = some fresh ∧
      claim.shown.manifest = fresh.manifest)
    (fun m next before step => ?_) (fun m move next before step waits shown => ?_) reached waits
  · obtain ⟨record,_,found,_,_,manifest,_⟩ := began_found step
    obtain ⟨fresh,announced,same⟩ := found_announced before found
    refine ⟨fresh,?_,manifest.trans (congrArg (·.2.2.2) same)⟩
    rw [step_past step,(step_claims step).1,List.take_left]
    exact announced
  · rw [step_past step,List.take_append_of_le_length (Nat.le_of_lt (waiting_since before waits))]
    exact shown

end Moment

-- The manifest that a record has when a claim of it is decided: the one announced last since the
-- claim began, or else the one that the approver was shown.
def Claim.presented (claim : Claim) (past : List Move) : Manifest :=
  ((latest (·.announced claim.id) (claim.during past)).map (·.manifest)).getD
    claim.shown.manifest

theorem presented_shown (claim : Claim) (past : List Move) :
    claim.presented past = claim.shown.manifest ↔
      ∀ fresh, latest (·.announced claim.id) (claim.during past) = some fresh →
        fresh.manifest = claim.shown.manifest := by
  unfold Claim.presented
  cases latest (·.announced claim.id) (claim.during past) <;> simp

-- The claim that an owner comes from: of all claims of the application the last to be decided, with
-- a yes, and the application was not announced after that. `before` is the past of the decision.
structure Granted (past : List Move) (id : ApplicationId) (owner : Guid) (claim : Claim)
    (before : List Move) : Prop where
  here : claim.id = id
  claimant : claim.claimant = owner
  began : before[claim.since]? = some (.began claim)
  last : ∃ after, past = before ++ .decided claim true :: after ∧
    ∀ move ∈ after, move.leaves id = none

theorem Granted.concat (granted : Granted past id owner claim before)
    (quiet : move.leaves id = none) : Granted (past ++ [move]) id owner claim before := by
  obtain ⟨here,claimant,began,after,split,silent⟩ := granted
  refine ⟨here,claimant,began,after ++ [move],by simp [split],?_⟩
  intro other member
  rcases List.mem_append.mp member with old | new
  · exact silent other old
  · rw [List.mem_singleton.mp new]; exact quiet

namespace Moment

theorem found_presented (reached : Reached allowed m) (waits : claim ∈ m.claims)
    (found : m.site.fleet.records.find? claim.id = some record) :
    record.manifest = claim.presented m.past := by
  obtain ⟨fresh,announced,same⟩ := found_announced reached found
  obtain ⟨first,before,shown⟩ := shown_announced reached waits
  rw [latest_began (waiting_began reached waits) rfl,before] at announced
  have manifest : record.manifest = fresh.manifest := congrArg (·.2.2.2) same
  rw [manifest,Claim.presented]
  cases during : latest (·.announced claim.id) (claim.during m.past) with
  | none => rw [during] at announced; cases announced; exact shown.symm
  | some again => rw [during] at announced; cases announced; rfl

theorem owner_granted (reached : Reached allowed m)
    (found : m.site.fleet.records.find? id = some record) (owned : record.owner = some owner) :
    ∃ claim before, Granted m.past id owner claim before ∧
      record.manifest = claim.presented before := by
  induction reached generalizing record with
  | initial => cases found
  | @step m move next before step _ ih =>
    have change := step_change step id
    rw [found] at change
    obtain ⟨old,known,same,⟨held,quiet⟩ | ⟨claim,rfl,here,claimant⟩⟩ := change.owner_source owned
    · obtain ⟨claim,past,granted,manifest⟩ := ih known held
      refine ⟨claim,past,step_past step ▸ granted.concat quiet,?_⟩
      exact (congrArg (·.2.2.2) same).trans manifest
    · have waits := decided_waits step
      refine ⟨claim,m.past,⟨here,claimant,waiting_began before waits,[],step_past step,nofun⟩,?_⟩
      exact (congrArg (·.2.2.2) same).trans (found_presented before waits (here ▸ known))

-- The manifest of an owned application is the one that its approver said yes to, unless the
-- application was announced again while the approver was deciding, and the last time with another
-- manifest. Then it is that other one.
theorem owned_manifest (reached : Reachable m)
    (found : m.site.fleet.records.find? id = some record) (owned : record.owner = some owner) :
    ∃ claim before, Granted m.past id owner claim before ∧
      record.manifest = claim.presented before ∧
      (record.manifest = claim.shown.manifest ↔
        ∀ fresh, latest (·.announced id) (claim.during before) = some fresh →
          fresh.manifest = claim.shown.manifest) := by
  obtain ⟨claim,before,granted,manifest⟩ := owner_granted reached found owned
  refine ⟨claim,before,granted,manifest,?_⟩
  rw [manifest,presented_shown,granted.here]

end Moment

-- The manifest that a move says yes to.
def Move.approved : Move → Option Manifest
  | .decided claim true => some claim.shown.manifest
  | _ => none

namespace Sample

-- The lamp is announced with another manifest while its approver decides, and then as it was.
def restored : Moment :=
  ending (fun _ _ => true) (asking [.announce lamp ⟨[1]⟩,.announce lamp ⟨[0]⟩] true) 4

theorem restored_manifest :
    ∃ record, restored.site.fleet.records.find? lamp.id = some record ∧
      record.owner = some alice.guid ∧
      ∃ claim before, Granted restored.past lamp.id alice.guid claim before ∧
        record.manifest = claim.presented before ∧
        (record.manifest = claim.shown.manifest ↔
          ∀ fresh, latest (·.announced lamp.id) (claim.during before) = some fresh →
            fresh.manifest = claim.shown.manifest) :=
  ⟨_,rfl,rfl,Moment.owned_manifest (ending_reached _ _ _) rfl rfl⟩

-- The same without the second announcement.
def swapped : Moment :=
  ending (fun _ _ => true) (asking [.announce lamp ⟨[1]⟩] true) 3

-- The lamp is owned with a manifest that no approver has said yes to.
theorem unapproved_manifest_owned :
    Moment.Reachable swapped ∧
    ∃ record, swapped.site.fleet.records.find? lamp.id = some record ∧
      record.owner = some alice.guid ∧
      record.manifest ∉ swapped.past.filterMap Move.approved :=
  ⟨ending_reached _ _ _,
    { app := { lamp with claimState := .claimed }, manifest := ⟨[1]⟩, owner := alice.guid },
    rfl,rfl,by decide⟩

end Sample

end Custody
