import Custody.Proofs.Frames
import Custody.Proofs.Moment

-- What one move can do to the record of an application. Only an announcement replaces it, only a
-- claim of its own touches its claim state and its owner, and only a record with an owner is
-- enrolled or governed. Whatever holds of records in a run is derived from `step_change`.

namespace Custody

variable {id : ApplicationId}

-- The record that a move puts under an id by announcing an application.
def Move.announced (id : ApplicationId) : Move → Option Record
  | .performed (.announce app manifest) _ => if app.id = id then some { app, manifest } else none
  | _ => none

-- Whether a move announces any application.
def Move.announces : Move → Bool
  | .performed (.announce _ _) _ => true
  | _ => false

-- Whether a move announces the application of an id, or begins or decides a claim of it.
def Move.concerns (id : ApplicationId) : Move → Bool
  | .began claim | .decided claim _ => claim.id = id
  | move => (move.announced id).isSome

-- What becomes of the record under an id in one move.
inductive Change (id : ApplicationId) : Option Record → Move → Option Record → Prop where
  | absent (other : move.announced id = none) : Change id none move none
  | kept (other : move.concerns id = false) : Change id (some record) move (some record)
  | announced (new : move.announced id = some record) : Change id before move (some record)
  | running :
      Change id (some record) (.performed (.setRunning id state) outcome)
        (some { record with app := { record.app with runningState := state } })
  | enrolled (here : app.id = id) (owned : record.owner.isSome)
      (joined : memberships = if record.memberships.contains guild.guid then record.memberships
        else record.memberships ++ [guild.guid]) :
      Change id (some record) (.performed (.installMembership app guild) outcome)
        (some { record with memberships })
  | governed (here : app.id = id) (owned : record.owner.isSome) :
      Change id (some record) (.performed (.installPolicy app policy) outcome)
        (some { record with policy := some policy })
  | marked (here : claim.id = id) (free : record.app.claimState = .claimable)
      (app : claim.shown.app = { record.app with claimState := .claiming })
      (manifest : claim.shown.manifest = record.manifest) :
      Change id (some record) (.began claim) (some { record with app := claim.shown.app })
  | decided (here : claim.id = id) :
      Change id (some record) (.decided claim approved)
        (some (record.settled claim.claimant approved))

theorem announced_fresh {move : Move} (new : move.announced id = some record) :
    ∃ app manifest outcome, move = .performed (.announce app manifest) outcome ∧
      app.id = id ∧ record = { app, manifest } := by
  unfold Move.announced at new
  split at new
  · rename_i app manifest outcome
    split at new
    · rename_i same
      cases new
      exact ⟨app,manifest,outcome,rfl,same,rfl⟩
    · cases new
  · cases new

theorem announced_id {move : Move} (new : move.announced id = some record) :
    record.app.id = id := by
  obtain ⟨_,_,_,_,same,rfl⟩ := announced_fresh new
  exact same

theorem announced_announces {move : Move} (new : move.announced id = some record) :
    move.announces = true := by
  obtain ⟨_,_,_,rfl,_,_⟩ := announced_fresh new
  rfl

theorem concerns_announced {move : Move} (other : move.concerns id = false) :
    move.announced id = none := by
  cases move with
  | performed operation outcome => simpa [Move.concerns] using other
  | began claim => rfl
  | noted book entry => rfl
  | decided claim approved => rfl

theorem Change.same (equal : after = before) (other : move.concerns id = false) :
    Change id before move after := by
  subst equal
  cases after with
  | none => exact .absent (concerns_announced other)
  | some record => exact .kept other

theorem Change.fresh (change : Change id before move after)
    (new : move.announced id = some record) : after = some record := by
  cases change with
  | absent other => rw [other] at new; cases new
  | kept other => rw [concerns_announced other] at new; cases new
  | announced same => exact same.symm.trans new
  | running | enrolled | governed | marked | decided => cases new

-- Without an announcement nothing comes to be known.
theorem Change.known (change : Change id before move (some record))
    (other : move.announced id = none) : ∃ old, before = some old := by
  cases change with
  | announced new => rw [other] at new; cases new
  | kept | running | enrolled | governed | marked | decided => exact ⟨_,rfl⟩

theorem Change.insert {fleet after : Fleet} {key : ApplicationId} {record new : Record}
    {move : Move} (found : fleet.records.find? key = some record)
    (inserted : after.records = fleet.records.insert key new)
    (here : key = id → Change id (some record) move (some new))
    (other : key ≠ id → move.concerns id = false) :
    Change id (fleet.records.find? id) move (after.records.find? id) := by
  rw [inserted]
  by_cases same : key = id
  · subst same
    rw [found,Keyed.find?_insert_self]
    exact here rfl
  · exact .same (Keyed.find?_insert_other _ _ _ _ (Ne.symm same)) (other same)

theorem announce_change (site : Site) (app : Application) (manifest : Manifest)
    (outcome : Outcome) :
    Change id (site.fleet.records.find? id) (.performed (.announce app manifest) outcome)
      ((site.announce app manifest).fleet.records.find? id) := by
  have records : (site.announce app manifest).fleet.records =
      site.fleet.records.insert app.id { app, manifest } := by
    unfold Site.announce
    rw [Site.after_fleet]
    rfl
  rw [records]
  by_cases same : app.id = id
  · subst same
    rw [Keyed.find?_insert_self]
    exact .announced (by simp [Move.announced])
  · exact .same (Keyed.find?_insert_other _ _ _ _ (Ne.symm same))
      (by simp [Move.concerns,Move.announced,same])

theorem setRunning_change (site : Site) (key : ApplicationId) (state : RunningState)
    (outcome : Outcome) :
    Change id (site.fleet.records.find? id) (.performed (.setRunning key state) outcome)
      ((site.setRunning key state).2.fleet.records.find? id) := by
  unfold Site.setRunning
  rw [Site.after_fleet]
  cases changed : site.fleet.setRunning key state with
  | none => exact .same rfl rfl
  | some change =>
    obtain ⟨record,found,_,records⟩ := Fleet.find?_change changed
    exact .insert found records (fun here => by subst here; exact .running) (fun _ => rfl)

-- An operation that makes no approver wait changes records in no other way than these.
theorem perform_change {site after : Site} {operation : Operation} {outcome : Outcome}
    (ran : operation.perform 0 site = some (outcome,after)) :
    Change id (site.fleet.records.find? id) (.performed operation outcome)
      (after.fleet.records.find? id) := by
  have unchanged {operation : Operation} {outcome : Outcome} {later : Site}
      (records : later.fleet.records = site.fleet.records)
      (other : (Move.performed operation outcome).concerns id = false) :
      Change id (site.fleet.records.find? id) (.performed operation outcome)
        (later.fleet.records.find? id) := .same (by rw [records]) other
  cases operation with
  | announce app manifest =>
    cases Option.some.inj ran
    exact announce_change _ _ _ _
  | setRunning key state =>
    cases Option.some.inj ran
    exact setRunning_change _ _ _ _
  | installMembership app guild =>
    cases Option.some.inj ran
    rcases Fleet.installMembership_records site.fleet app.id guild.guid with
      same | ⟨record,found,owned,records⟩
    · exact unchanged same rfl
    · exact .insert found records (fun here => .enrolled here owned rfl) (fun _ => rfl)
  | installPolicy app policy =>
    cases Option.some.inj ran
    rcases Fleet.installPolicy_records site.fleet app.id policy with
      same | ⟨record,found,owned,records⟩
    · exact unchanged same rfl
    · exact .insert found records (fun here => .governed here owned) (fun _ => rfl)
  | claim app identity =>
    obtain ⟨_,_,refused⟩ := Moment.perform_claim ran
    obtain ⟨_,same,rfl⟩ := Site.beginClaim_error refused
    exact unchanged same rfl
  | listApplications =>
    cases Option.some.inj ran; exact unchanged (Fleet.listApplications_records _) rfl
  | getApplication id =>
    cases Option.some.inj ran; exact unchanged (Fleet.getApplication_records _ _) rfl
  | getGuild guid => cases Option.some.inj ran; exact unchanged (Fleet.getGuild_records _ _) rfl
  | createGuild guild =>
    cases Option.some.inj ran; exact unchanged (Fleet.createGuild_records _ _) rfl
  | getIdentity guid =>
    cases Option.some.inj ran; exact unchanged (Fleet.getIdentity_records _ _) rfl
  | createIdentity identity =>
    cases Option.some.inj ran; exact unchanged (Fleet.createIdentity_records _ _) rfl
  | updateIdentity identity =>
    cases Option.some.inj ran; exact unchanged (Fleet.updateIdentity_records _ _) rfl
  | openKeyStore store =>
    cases Option.some.inj ran; exact unchanged (Fleet.openKeyStore_records _ _) rfl
  | addListener listener =>
    cases Option.some.inj ran
    exact unchanged (congrArg Fleet.records (Site.naming_fleet site listener)) rfl
  | record | guilds | identities | keyStore | setFault | clearFault | calls | clearCalls
  | setApprover =>
    cases Option.some.inj ran
    exact unchanged rfl rfl

-- A claim that begins finds its application claimable, and its approver is shown the record.
theorem began_found (step : Moment.Step m (.began claim) next) :
    ∃ record fleet, m.site.fleet.records.find? claim.id = some record ∧
      record.app.claimState = .claimable ∧
      claim.shown.app = { record.app with claimState := .claiming } ∧
      claim.shown.manifest = record.manifest ∧ m.site.approver = some claim.shown.approver ∧
      fleet.records =
        m.site.fleet.records.insert claim.id { record with app := claim.shown.app } ∧
      next.site = { m.site with fleet }.deliver ⟨claim.shown.app,some record.app⟩ := by
  cases step with
  | begin asked begun _ same => subst same; exact Site.beginClaim_found begun

-- What one move does to the record under an id.
theorem step_change (step : Moment.Step m move next) (id : ApplicationId) :
    Change id (m.site.fleet.records.find? id) move (next.site.fleet.records.find? id) := by
  cases step with
  | perform asked ran => exact perform_change ran
  | begin asked begun claim same =>
    obtain ⟨record,fleet,found,free,app,manifest,_,records,after⟩ :=
      began_found (.begin asked begun claim same)
    rw [after,Site.deliver_fleet]
    exact .insert found records (fun here => .marked here free app manifest)
      (fun other => by simpa [Move.concerns] using other)
  | note waits => exact .same rfl rfl
  | decide waits ended =>
    rename_i others result after claim approved
    rw [Site.endClaim_after ended,Site.after_fleet]
    cases changed : m.site.fleet.change claim.id (·.settled claim.claimant approved) with
    | none =>
      change Change id (m.site.fleet.records.find? id) _ (m.site.fleet.records.find? id)
      by_cases here : claim.id = id
      · subst here
        rw [Option.map_eq_none_iff.mp changed]
        exact .absent rfl
      · exact .same rfl (by simpa [Move.concerns] using here)
    | some change =>
      obtain ⟨record,found,_,records⟩ := Fleet.find?_change changed
      exact .insert found records .decided (fun other => by simpa [Move.concerns] using other)

end Custody
