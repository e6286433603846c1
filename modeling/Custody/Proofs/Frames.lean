import Custody.Site

-- What each operation on a fleet and on a site does to the records of applications. Most leave
-- them alone.

namespace Custody

variable {id : ApplicationId}

-- What becomes of a record when a claim of its application is decided.
def Record.settled (record : Record) (claimant : Guid) (approved : Bool) : Record :=
  if approved then
    { record with app := { record.app with claimState := .claimed }, owner := some claimant }
  else { record with app := { record.app with claimState := .claimable }, owner := none }

namespace Fleet

-- A call is answered by its fault, or by the fleet.
theorem answer_cases (fleet : Fleet) (call : Call) (body : Fleet → Except Refusal α × Fleet) :
    (∃ fault, fleet.faults call = some fault ∧
      fleet.answer call body = (.error fault,fleet.received call)) ∨
    (fleet.faults call = none ∧ fleet.answer call body = body (fleet.received call)) := by
  unfold answer
  cases faulty : fleet.faults call with
  | some fault => exact .inl ⟨fault,rfl,rfl⟩
  | none => exact .inr ⟨rfl,rfl⟩

theorem answer_records {body : Fleet → Except Refusal α × Fleet}
    (keeps : ∀ fleet, (body fleet).2.records = fleet.records) (fleet : Fleet) (call : Call) :
    (fleet.answer call body).2.records = fleet.records := by
  rcases fleet.answer_cases call body with ⟨_,_,refused⟩ | ⟨_,answered⟩
  · rw [refused]; rfl
  · rw [answered]; exact keeps _

theorem listApplications_records (fleet : Fleet) :
    fleet.listApplications.2.records = fleet.records := answer_records (fun _ => rfl) _ _

theorem getApplication_records (fleet : Fleet) (id : ApplicationId) :
    (fleet.getApplication id).2.records = fleet.records :=
  answer_records (fun _ => by split <;> rfl) _ _

theorem getGuild_records (fleet : Fleet) (guid : Guid) :
    (fleet.getGuild guid).2.records = fleet.records :=
  answer_records (fun _ => by split <;> rfl) _ _

theorem createGuild_records (fleet : Fleet) (guild : Guild) :
    (fleet.createGuild guild).2.records = fleet.records :=
  answer_records (fun _ => by split <;> rfl) _ _

theorem getIdentity_records (fleet : Fleet) (guid : Guid) :
    (fleet.getIdentity guid).2.records = fleet.records :=
  answer_records (fun _ => by split <;> rfl) _ _

theorem createIdentity_records (fleet : Fleet) (identity : Identity) :
    (fleet.createIdentity identity).2.records = fleet.records :=
  answer_records (fun _ => by split <;> rfl) _ _

theorem updateIdentity_records (fleet : Fleet) (identity : Identity) :
    (fleet.updateIdentity identity).2.records = fleet.records :=
  answer_records (fun _ => by split <;> rfl) _ _

theorem openKeyStore_records (fleet : Fleet) (store : KeyStore) :
    (fleet.openKeyStore store).2.records = fleet.records := answer_records (fun _ => rfl) _ _

-- A change of one record, and the event that tells it.
theorem find?_change {fleet after : Fleet} {edit : Record → Record}
    (changed : fleet.change id edit = some (event,after)) :
    ∃ record, fleet.records.find? id = some record ∧
      event = ⟨(edit record).app,some record.app⟩ ∧
      after.records = fleet.records.insert id (edit record) := by
  unfold change at changed
  obtain ⟨record,found,same⟩ := Option.map_eq_some_iff.mp changed
  cases same
  exact ⟨record,found,rfl,rfl⟩

theorem claimedRecord_ok {fleet : Fleet} (claimed : fleet.claimedRecord id = .ok record) :
    fleet.records.find? id = some record ∧ record.owner.isSome := by
  unfold claimedRecord at claimed
  split at claimed
  · cases claimed
  · rename_i found
    split at claimed
    · cases claimed
    · rename_i owned
      cases claimed
      exact ⟨found,by simpa [Option.isSome_iff_ne_none] using owned⟩

theorem installMembership_spec (fleet : Fleet) (id : ApplicationId) (guild : Guid) :
    (∃ record, fleet.records.find? id = some record ∧ record.owner.isSome ∧
      fleet.installMembership id guild =
        (.ok (),{ fleet.received .installMembership with
          records := fleet.records.insert id { record with
            memberships := if record.memberships.contains guild then record.memberships
              else record.memberships ++ [guild] } })) ∨
    ∃ refusal,
      fleet.installMembership id guild = (.error refusal,fleet.received .installMembership) := by
  unfold installMembership
  rcases fleet.answer_cases .installMembership _ with ⟨fault,_,refused⟩ | ⟨_,answered⟩
  · exact .inr ⟨fault,refused⟩
  · rw [answered]
    split
    · split
      · exact .inr ⟨_,rfl⟩
      · rename_i record claimed
        obtain ⟨found,owned⟩ := claimedRecord_ok claimed
        exact .inl ⟨record,found,owned,rfl⟩
    · exact .inr ⟨_,rfl⟩

theorem installPolicy_spec (fleet : Fleet) (id : ApplicationId) (policy : Policy) :
    (∃ record, fleet.records.find? id = some record ∧ record.owner.isSome ∧
      fleet.installPolicy id policy =
        (.ok (),{ fleet.received .installPolicy with
          records := fleet.records.insert id { record with policy := some policy } })) ∨
    ∃ refusal, fleet.installPolicy id policy = (.error refusal,fleet.received .installPolicy) := by
  unfold installPolicy
  rcases fleet.answer_cases .installPolicy _ with ⟨fault,_,refused⟩ | ⟨_,answered⟩
  · exact .inr ⟨fault,refused⟩
  · rw [answered]
    split
    · exact .inr ⟨_,rfl⟩
    · rename_i record claimed
      obtain ⟨found,owned⟩ := claimedRecord_ok claimed
      exact .inl ⟨record,found,owned,rfl⟩

theorem installMembership_records (fleet : Fleet) (id : ApplicationId) (guild : Guid) :
    (fleet.installMembership id guild).2.records = fleet.records ∨
    ∃ record, fleet.records.find? id = some record ∧ record.owner.isSome ∧
      (fleet.installMembership id guild).2.records = fleet.records.insert id
        { record with
          memberships := if record.memberships.contains guild then record.memberships
            else record.memberships ++ [guild] } := by
  rcases fleet.installMembership_spec id guild with
    ⟨record,found,owned,installed⟩ | ⟨refusal,refused⟩
  · exact .inr ⟨record,found,owned,by rw [installed]⟩
  · exact .inl (by rw [refused]; rfl)

theorem installPolicy_records (fleet : Fleet) (id : ApplicationId) (policy : Policy) :
    (fleet.installPolicy id policy).2.records = fleet.records ∨
    ∃ record, fleet.records.find? id = some record ∧ record.owner.isSome ∧
      (fleet.installPolicy id policy).2.records =
        fleet.records.insert id { record with policy := some policy } := by
  rcases fleet.installPolicy_spec id policy with ⟨record,found,owned,installed⟩ | ⟨refusal,refused⟩
  · exact .inr ⟨record,found,owned,by rw [installed]⟩
  · exact .inl (by rw [refused]; rfl)

-- A claim that is refused at once leaves the records alone; one that begins marks its record.
theorem beginClaim_refused {Approver : Type} {fleet after : Fleet} {approver : Option Approver}
    (begun : fleet.beginClaim id claimant approver = (.error refusal,after)) :
    after.records = fleet.records := by
  unfold beginClaim answer at begun
  split at begun
  · cases begun; rfl
  · dsimp only at begun
    split at begun
    · split at begun
      · cases begun; rfl
      · split at begun
        · split at begun
          · cases begun; rfl
          · cases begun
        · cases begun; rfl
    · cases begun; rfl

theorem beginClaim_ok {Approver : Type} {fleet after : Fleet} {approver : Option Approver}
    {shown : PendingClaim Approver}
    (begun : fleet.beginClaim id claimant approver = (.ok (shown,event),after)) :
    ∃ record, fleet.records.find? id = some record ∧ record.app.claimState = .claimable ∧
      shown.app = { record.app with claimState := .claiming } ∧ shown.manifest = record.manifest ∧
      approver = some shown.approver ∧ event = ⟨shown.app,some record.app⟩ ∧
      after.records = fleet.records.insert id { record with app := shown.app } := by
  unfold beginClaim answer at begun
  split at begun
  · cases begun
  · dsimp only at begun
    split at begun
    · split at begun
      · cases begun
      · rename_i record found
        split at begun
        · rename_i free
          split at begun
          · cases begun
          · cases begun
            exact ⟨record,found,free,rfl,rfl,rfl,rfl,rfl⟩
        · cases begun
    · cases begun

end Fleet

namespace Site

-- A registry that is at work writes to itself and to its view.
theorem onRegistry_only (site : Site) (name : String) (act : Registry → Registry × List Notice) :
    ∃ views, site.onRegistry name act = { site with
      registries := site.registries.insert name (act (site.registry name)).1, views } := by
  have notified (notices : List Notice) (start : Site) :
      ∃ views, notices.foldl notify start = { start with views } := by
    induction notices generalizing start with
    | nil => exact ⟨start.views,rfl⟩
    | cons notice rest ih =>
      obtain ⟨views,same⟩ := ih (start.notify notice)
      exact ⟨views,same⟩
  exact notified _ _

theorem onRegistry_keeps (site : Site) (name : String)
    (act : Registry → Registry × List Notice) :
    (site.onRegistry name act).fleet = site.fleet ∧
      (site.onRegistry name act).listeners = site.listeners ∧
      (site.onRegistry name act).recorders = site.recorders := by
  obtain ⟨views,only⟩ := site.onRegistry_only name act
  rw [only]
  exact ⟨rfl,rfl,rfl⟩

theorem onRegistry_approver (site : Site) (name : String)
    (act : Registry → Registry × List Notice) :
    (site.onRegistry name act).approver = site.approver := by
  obtain ⟨views,only⟩ := site.onRegistry_only name act
  rw [only]

theorem tell_only (event : Event) (site : Site) (listener : Listener) :
    ∃ registries recorders views,
      tell event site listener = { site with registries, recorders, views } := by
  cases listener with
  | registry name =>
    obtain ⟨views,only⟩ := site.onRegistry_only name fun registry =>
      ((registry.record event.new).1,(registry.record event.new).2.toList)
    exact ⟨_,site.recorders,views,only⟩
  | recorder name => exact ⟨site.registries,_,site.views,rfl⟩

theorem tell_keeps (event : Event) (site : Site) (listener : Listener) :
    (tell event site listener).fleet = site.fleet ∧
      (tell event site listener).listeners = site.listeners := by
  obtain ⟨registries,recorders,views,only⟩ := tell_only event site listener
  rw [only]
  exact ⟨rfl,rfl⟩

-- Listeners only take down what they are told.
theorem deliver_only (site : Site) (event : Event) :
    ∃ registries recorders views,
      site.deliver event = { site with registries, recorders, views } := by
  have told (listeners : List Listener) (start : Site) :
      ∃ registries recorders views,
        listeners.foldl (tell event) start = { start with registries, recorders, views } := by
    induction listeners generalizing start with
    | nil => exact ⟨_,_,_,rfl⟩
    | cons listener rest ih =>
      obtain ⟨_,_,_,first⟩ := tell_only event start listener
      obtain ⟨registries,recorders,views,last⟩ := ih (tell event start listener)
      refine ⟨registries,recorders,views,last.trans ?_⟩
      rw [first]
  exact told _ _

theorem deliver_keeps (site : Site) (event : Event) :
    (site.deliver event).fleet = site.fleet ∧
      (site.deliver event).listeners = site.listeners := by
  obtain ⟨registries,recorders,views,only⟩ := site.deliver_only event
  rw [only]
  exact ⟨rfl,rfl⟩

theorem deliver_fleet (site : Site) (event : Event) : (site.deliver event).fleet = site.fleet :=
  (deliver_keeps site event).1

theorem deliver_approver (site : Site) (event : Event) :
    (site.deliver event).approver = site.approver := by
  obtain ⟨registries,recorders,views,only⟩ := site.deliver_only event
  rw [only]

theorem after_approver (site : Site) (change : Option (Event × Fleet)) :
    (site.after change).approver = site.approver := by
  cases change with
  | none => rfl
  | some change => exact deliver_approver _ _

theorem after_fleet (site : Site) (change : Option (Event × Fleet)) :
    (site.after change).fleet = (change.map (·.2)).getD site.fleet := by
  cases change with
  | none => rfl
  | some change => exact deliver_fleet _ _

theorem naming_fleet (site : Site) (listener : Listener) :
    (site.naming listener).fleet = site.fleet := by
  cases listener <;> rfl

theorem naming_registry (site : Site) (listener : Listener) (name : String) :
    (site.naming listener).registry name = site.registry name := by
  cases listener with
  | registry other =>
    by_cases same : name = other
    · subst same
      simp [naming,registry]
    · simp [naming,registry,Keyed.find?_insert_other _ _ _ _ same]
  | recorder other => rfl

-- The two halves of a claim.
theorem beginClaim_error {site after : Site} {claimant : Guid} {refusal : Refusal}
    (begun : site.beginClaim id claimant = (.error refusal,after)) :
    ∃ fleet, fleet.records = site.fleet.records ∧ after = { site with fleet } := by
  unfold beginClaim at begun
  split at begun
  · rename_i fleet refused
    cases begun
    exact ⟨fleet,Fleet.beginClaim_refused refused,rfl⟩
  · cases begun

theorem beginClaim_found {site after : Site} {claimant : Guid}
    {shown : Fleet.PendingClaim Approver}
    (begun : site.beginClaim id claimant = (.ok shown,after)) :
    ∃ record fleet, site.fleet.records.find? id = some record ∧
      record.app.claimState = .claimable ∧
      shown.app = { record.app with claimState := .claiming } ∧ shown.manifest = record.manifest ∧
      site.approver = some shown.approver ∧
      fleet.records = site.fleet.records.insert id { record with app := shown.app } ∧
      after = { site with fleet }.deliver ⟨shown.app,some record.app⟩ := by
  unfold beginClaim at begun
  split at begun
  · cases begun
  · rename_i marked
    cases begun
    obtain ⟨record,found,free,app,manifest,approver,rfl,records⟩ := Fleet.beginClaim_ok marked
    exact ⟨record,_,found,free,app,manifest,approver,records,rfl⟩

theorem endClaim_spec (site : Site) (id : ApplicationId) (claimant : Guid) (approved : Bool) :
    site.endClaim id claimant approved =
      (if approved then .ok () else .error (.manifestRejected id),
        site.after (site.fleet.change id (·.settled claimant approved))) := by
  cases approved with
  | true | false => rfl

theorem endClaim_after {site after : Site} {claimant : Guid} {approved : Bool}
    {result : Except Refusal Unit}
    (ended : site.endClaim id claimant approved = (result,after)) :
    after = site.after (site.fleet.change id (·.settled claimant approved)) := by
  rw [endClaim_spec] at ended
  exact (congrArg Prod.snd ended).symm

end Site

-- Courses that came to a result, taken apart.
namespace Course

theorem ran_bind {first : Course α} {rest : α → Course β}
    (ran : (first >>= rest) site = some (result,after)) :
    ∃ value middle, first site = some (value,middle) ∧
      rest value middle = some (result,after) := by
  obtain ⟨⟨value,middle⟩,began,ended⟩ := Option.bind_eq_some_iff.mp ran
  exact ⟨value,middle,began,ended⟩

theorem call_ran {act : Fleet → α × Fleet} (answered : act site.fleet = (result,fleet)) :
    call act site = some (result,{ site with fleet }) := by
  have acted : call act site =
      some ((act site.fleet).1,{ site with fleet := (act site.fleet).2 }) := rfl
  rw [acted,answered]

theorem ran_call {act : Fleet → α × Fleet} (ran : call act site = some (result,after)) :
    ∃ fleet, act site.fleet = (result,fleet) ∧ after = { site with fleet } := by
  cases Option.some.inj ran
  exact ⟨_,rfl,rfl⟩

end Course

end Custody
