import Custody.Proofs.Attempt
import Custody.Proofs.Integrity

-- Claims of several applications in turn, whatever is set to fail. With an approver that only
-- answers, a claim looks at one record and at what no claim ever changes, and it writes to that
-- record alone. So what came before it is nothing to it, and it ends as it would by itself.

namespace Custody

variable {id key : ApplicationId}

namespace Fleet

variable {fleet other : Fleet} {new : Option Record} {made : List Call}

-- A fleet once something, if anything, has been put under an id, and calls have been written down.
def noting (fleet : Fleet) (id : ApplicationId) (new : Option Record) (made : List Call) : Fleet :=
  { fleet with
    records := new.elim fleet.records (fleet.records.insert id)
    calls := fleet.calls ++ made }

-- Fleets that do not differ in what claims of an application look at.
structure Alike (id : ApplicationId) (fleet other : Fleet) : Prop where
  record : other.records.find? id = fleet.records.find? id
  faults : other.faults = fleet.faults
  guilds : other.guilds = fleet.guilds
  identities : other.identities = fleet.identities

-- What is done with one application: what it comes to stands in what is looked at.
def About (id : ApplicationId) (act : Fleet → α × Fleet) : Prop :=
  ∀ fleet : Fleet, ∃ result new made, ∀ other, fleet.Alike id other →
    act other = (result,other.noting id new made)

theorem noting_nothing (fleet : Fleet) (id : ApplicationId) : fleet.noting id none [] = fleet := by
  simp [noting]

theorem noting_noting (fleet : Fleet) (id : ApplicationId) (new later : Option Record)
    (made more : List Call) :
    (fleet.noting id new made).noting id later more =
      fleet.noting id (later.or new) (made ++ more) := by
  cases new with
  | none | some record =>
    cases later with
    | none | some last => simp [noting,Keyed.insert_insert]

theorem noting_record (fleet : Fleet) (id : ApplicationId) (new : Option Record)
    (made : List Call) :
    (fleet.noting id new made).records.find? id = new.or (fleet.records.find? id) := by
  cases new with
  | none => rfl
  | some record => exact Keyed.find?_insert_self _ _ _

theorem noting_apart (apart : key ≠ id) :
    (fleet.noting id new made).records.find? key = fleet.records.find? key := by
  cases new with
  | none => rfl
  | some record => exact Keyed.find?_insert_other _ _ _ _ apart

theorem alike_self (id : ApplicationId) (fleet : Fleet) : fleet.Alike id fleet := ⟨rfl,rfl,rfl,rfl⟩

theorem Alike.noting (alike : fleet.Alike id other) (new : Option Record) (made : List Call) :
    (fleet.noting id new made).Alike id (other.noting id new made) := by
  refine ⟨?_,alike.faults,alike.guilds,alike.identities⟩
  rw [noting_record,noting_record,alike.record]

theorem Alike.apart (alike : fleet.Alike id other) (apart : id ≠ key) :
    fleet.Alike id (other.noting key new made) :=
  ⟨(noting_apart apart).trans alike.record,alike.faults,alike.guilds,alike.identities⟩

theorem Alike.claimedRecord (alike : fleet.Alike id other) :
    other.claimedRecord id = fleet.claimedRecord id := by
  unfold Fleet.claimedRecord
  rw [alike.record]

theorem answer_about {body : Fleet → Except Refusal α × Fleet} (about : About id body)
    (call : Call) : About id fun fleet => fleet.answer call body := by
  intro fleet
  rcases fleet.answer_cases call body with ⟨fault,set,_⟩ | ⟨clear,_⟩
  · refine ⟨.error fault,none,[call],fun other alike => ?_⟩
    dsimp only
    rw [answer,alike.faults,set]
    rfl
  · obtain ⟨result,new,made,does⟩ := about (fleet.received call)
    refine ⟨result,new,call :: made,fun other alike => ?_⟩
    have still : (fleet.received call).Alike id (other.received call) := alike.noting none [call]
    dsimp only
    rw [answer,alike.faults,clear]
    exact (does _ still).trans (by simp [noting,received])

theorem beginClaim_about {Approver : Type} (id : ApplicationId) (claimant : Guid)
    (approver : Option Approver) : About id fun fleet => fleet.beginClaim id claimant approver := by
  refine answer_about (fun fleet => ?_) .claim
  cases stored : fleet.identities.contains claimant with
  | false =>
    refine ⟨.error (.notFound "identity" claimant),none,[],fun other alike => ?_⟩
    simp [alike.identities,stored,noting_nothing]
  | true =>
    cases found : fleet.records.find? id with
    | none =>
      refine ⟨.error (.unknownApplication id),none,[],fun other alike => ?_⟩
      simp [alike.identities,alike.record,stored,found,noting_nothing]
    | some record =>
      by_cases free : record.app.claimState = .claimable
      · cases approver with
        | none =>
          refine ⟨.error .noApprover,none,[],fun other alike => ?_⟩
          simp [alike.identities,alike.record,stored,found,free,noting_nothing]
        | some approver =>
          let shown : PendingClaim Approver := ⟨record.marked.app,record.manifest,approver⟩
          refine ⟨.ok (shown,⟨shown.app,some record.app⟩),some record.marked,[],
            fun other alike => ?_⟩
          simp [alike.identities,alike.record,stored,found,free,noting,shown,Record.marked]
      · refine ⟨.error (.notClaimable id record.app.claimState),none,[],fun other alike => ?_⟩
        simp [alike.identities,alike.record,stored,found,free,noting_nothing]

theorem installMembership_about (id : ApplicationId) (guild : Guid) :
    About id fun fleet => fleet.installMembership id guild := by
  refine answer_about (fun fleet => ?_) .installMembership
  cases stored : fleet.guilds.contains guild with
  | false =>
    refine ⟨.error (.notFound "guild" guild),none,[],fun other alike => ?_⟩
    simp [alike.guilds,stored,noting_nothing]
  | true =>
    cases claimed : fleet.claimedRecord id with
    | error refusal =>
      refine ⟨.error refusal,none,[],fun other alike => ?_⟩
      simp [alike.guilds,alike.claimedRecord,stored,claimed,noting_nothing]
    | ok record =>
      refine ⟨.ok (),some { record with
        memberships := if record.memberships.contains guild then record.memberships
          else record.memberships ++ [guild] },[],fun other alike => ?_⟩
      simp [alike.guilds,alike.claimedRecord,stored,claimed,noting]

theorem installPolicy_about (id : ApplicationId) (policy : Policy) :
    About id fun fleet => fleet.installPolicy id policy := by
  refine answer_about (fun fleet => ?_) .installPolicy
  cases claimed : fleet.claimedRecord id with
  | error refusal =>
    refine ⟨.error refusal,none,[],fun other alike => ?_⟩
    simp [alike.claimedRecord,claimed,noting_nothing]
  | ok record =>
    refine ⟨.ok (),some { record with policy := some policy },[],fun other alike => ?_⟩
    simp [alike.claimedRecord,claimed,noting]

theorem change_noting (fleet : Fleet) (id : ApplicationId) (edit : Record → Record) :
    ((fleet.change id edit).map (·.2)).getD fleet =
      fleet.noting id ((fleet.records.find? id).map edit) [] := by
  unfold change
  cases fleet.records.find? id with
  | none | some record => simp [noting]

end Fleet

namespace Course

-- A course that comes to a result and writes to one record.
def Does (course : Course α) (id : ApplicationId) (site : Site) (result : α)
    (new : Option Record) (made : List Call) : Prop :=
  course.Ends site fun outcome after => outcome = result ∧
    after.fleet = site.fleet.noting id new made ∧ after.approver = site.approver

-- What it comes to and what it writes stands in what is looked at.
def About (id : ApplicationId) (course : Course α) : Prop :=
  ∀ site : Site, site.Quiet → ∃ result new made, ∀ other : Site, site.fleet.Alike id other.fleet →
    other.approver = site.approver → course.Does id other result new made

theorem about_composes (id : ApplicationId) :
    Composes fun ⦃α : Type⦄ (course : Course α) => course.About id := by
  constructor
  · intro α result site _
    refine ⟨result,none,[],fun other _ _ => ends_pure ⟨rfl,?_,rfl⟩⟩
    exact (Fleet.noting_nothing _ _).symm
  · intro α β first rest began onwards site quiet
    obtain ⟨result,new,made,does⟩ := began site quiet
    obtain ⟨_,middle,_,_,wrote,asked⟩ := does site (Fleet.alike_self _ _) rfl
    obtain ⟨last,later,more,ends⟩ := onwards result middle (quiet.congr asked)
    refine ⟨last,later.or new,made ++ more,fun other alike same => ?_⟩
    apply (does other alike same).bind
    intro outcome between came
    obtain ⟨rfl,written,asks⟩ := came
    have still : middle.fleet.Alike id between.fleet := by
      rw [wrote,written]
      exact alike.noting new made
    obtain ⟨outcome,after,ran,equal,further,kept⟩ :=
      ends between still (by rw [asks,same,asked])
    refine ⟨outcome,after,ran,equal,?_,kept.trans asks⟩
    rw [further,written,Fleet.noting_noting]

theorem call_about {act : Fleet → α × Fleet} (about : Fleet.About id act) :
    (call act).About id := by
  intro site _
  obtain ⟨result,new,made,does⟩ := about site.fleet
  exact ⟨result,new,made,fun other alike _ => ends_call (does _ alike) ⟨rfl,rfl,rfl⟩⟩

end Course

namespace Site

theorem endClaim_noting (site : Site) (id : ApplicationId) (claimant : Guid) (approved : Bool) :
    ∃ after, site.endClaim id claimant approved =
        (if approved then .ok () else .error (.manifestRejected id),after) ∧
      after.fleet = site.fleet.noting id
        ((site.fleet.records.find? id).map (·.settled claimant approved)) [] ∧
      after.approver = site.approver := by
  refine ⟨_,endClaim_spec site id claimant approved,?_,after_approver _ _⟩
  rw [after_fleet,Fleet.change_noting]

-- A claim that has begun, with an approver that only answers: what it answers is all that counts.
theorem claimWithin_noting {site marked : Site} {pending : Fleet.PendingClaim Approver}
    {app : Application} {identity : Identity} {event : Event}
    (begun : site.beginClaim app.id identity.guid = (.ok pending,marked.deliver event))
    (calm : (pending.approver pending.app pending.manifest).Quiet)
    (said : (pending.approver pending.app pending.manifest).verdict = approved) (depth : Nat) :
    (claimWithin (depth+1) app identity).Ends site fun outcome after =>
      (outcome = if approved then .ok () else .error (.manifestRejected app.id)) ∧
      after.fleet = marked.fleet.noting app.id ((marked.fleet.records.find? app.id).map
        (·.settled identity.guid approved)) [] ∧
      after.approver = marked.approver := by
  let inquiry := pending.approver pending.app pending.manifest
  let answered := inquiry.noted (marked.deliver event)
  have ran : claimWithin (depth+1) app identity site =
      some (answered.endClaim app.id identity.guid approved) := by
    simp only [claimWithin,begun]
    rw [follow_verdict inquiry calm,show inquiry.verdict = approved from said]
    rfl
  obtain ⟨after,ended,wrote,kept⟩ := answered.endClaim_noting app.id identity.guid approved
  obtain ⟨books,noted⟩ := noted_only inquiry (marked.deliver event)
  have fleet : answered.fleet = marked.fleet := by
    rw [show answered = _ from noted]
    exact deliver_fleet marked event
  have approver : answered.approver = marked.approver := by
    rw [show answered = _ from noted]
    exact deliver_approver marked event
  rw [ended] at ran
  rw [fleet] at wrote
  exact ⟨_,after,ran,rfl,wrote,kept.trans approver⟩

theorem claimWithin_about (depth : Nat) (app : Application) (identity : Identity) :
    (claimWithin (depth+1) app identity).About app.id := by
  intro site quiet
  obtain ⟨result,new,made,begins⟩ :=
    Fleet.beginClaim_about app.id identity.guid site.approver site.fleet
  cases result with
  | error refusal =>
    refine ⟨.error refusal,new,made,fun other alike same => ?_⟩
    have begun : other.beginClaim app.id identity.guid =
        (.error refusal,{ other with fleet := other.fleet.noting app.id new made }) := by
      rw [beginClaim,same,show other.fleet.beginClaim _ _ _ = _ from begins _ alike]
    exact ⟨_,_,Moment.claimWithin_refused begun _,rfl,rfl,rfl⟩
  | ok shown =>
    obtain ⟨pending,event⟩ := shown
    obtain ⟨_,_,_,_,_,asked,_⟩ := Fleet.beginClaim_ok (begins _ (Fleet.alike_self _ _))
    let approved := (pending.approver pending.app pending.manifest).verdict
    let settled := (new.or (site.fleet.records.find? app.id)).map
      (·.settled identity.guid approved)
    refine ⟨if approved then .ok () else .error (.manifestRejected app.id),settled.or new,
      made ++ [],fun other alike same => ?_⟩
    let marked := { other with fleet := other.fleet.noting app.id new made }
    have begun : other.beginClaim app.id identity.guid = (.ok pending,marked.deliver event) := by
      rw [beginClaim,same,show other.fleet.beginClaim _ _ _ = _ from begins _ alike,← same]
    obtain ⟨outcome,after,ran,said,wrote,kept⟩ :=
      claimWithin_noting begun (quiet _ asked _ _) rfl depth
    refine ⟨outcome,after,ran,said,?_,kept⟩
    rw [wrote,Fleet.noting_record,Fleet.noting_noting,alike.record]

-- What is listed: everything, or nothing if the listing is set to fail.
def listed (site : Site) : List Application :=
  if (site.fleet.faults .listApplications).isSome then [] else site.fleet.applications

-- The claimable applications, as they are listed.
def offered (site : Site) : List Application :=
  if (site.fleet.faults .listApplications).isSome then []
  else site.fleet.applications.filter (·.claimState == .claimable)

theorem offered_listed (site : Site) :
    site.offered = site.listed.filter (·.claimState == .claimable) := by
  unfold offered listed
  split <;> rfl

end Site

theorem ascending_once {ids : List ApplicationId}
    (ascending : ids.Pairwise (fun a b => compare a b = .lt)) : ids.Nodup := by
  refine ascending.imp fun below same => ?_
  subst same
  exact Keyed.not_below_self _ below

-- Applications are listed in the order of their ids.
theorem Fleet.Own.ascending {fleet : Fleet} (own : fleet.Own) :
    (fleet.applications.map (·.id)).Pairwise (fun a b => compare a b = .lt) := by
  rw [applications,told_keys Record.app own.found]
  exact List.pairwise_map.mpr fleet.records.ascending

namespace Coordinator

theorem claim_about (coordinator : Coordinator) (depth : Nat) (app : Application) :
    Course.About app.id (coordinator.claim (Site.transport (depth+1)) app) := by
  have composes := Course.about_composes app.id
  refine composes.either (Site.claimWithin_about depth app coordinator.identity) (fun _ => ?_)
    fun _ => composes.pure _
  refine composes.either (Course.call_about (Fleet.installMembership_about _ _)) (fun _ => ?_)
    fun _ => composes.pure _
  exact composes.either (Course.call_about (Fleet.installPolicy_about _ _))
    (fun _ => composes.pure _) fun _ => composes.pure _

theorem applications_listed (depth : Nat) (site : Site) :
    Course.Ends (applications (Site.transport depth)) site fun apps after =>
      apps = site.listed ∧
        after = { site with fleet := site.fleet.received .listApplications } := by
  have listed : (Course.call Fleet.listApplications).Ends site fun result after =>
      result.toOption.getD [] = site.listed ∧
        after = { site with fleet := site.fleet.received .listApplications } := by
    unfold Site.listed
    cases set : site.fleet.faults .listApplications with
    | some fault =>
      have refused : site.fleet.listApplications =
          (.error fault,site.fleet.received .listApplications) := by
        rw [Fleet.listApplications,Fleet.answer,set]
      exact Course.ends_call refused ⟨rfl,rfl⟩
    | none => exact Course.ends_call (Fleet.answer_clear _ _ _ set) ⟨rfl,rfl⟩
  apply listed.bind
  intro result after came
  cases result with
  | ok | error => exact Course.ends_pure came

theorem applicationsIn_offered (depth : Nat) (site : Site) :
    Course.Ends (applicationsIn (Site.transport depth) .claimable) site fun apps after =>
      apps = site.offered ∧
        after = { site with fleet := site.fleet.received .listApplications } := by
  apply (applications_listed depth site).bind
  rintro _ after ⟨rfl,rfl⟩
  exact Course.ends_pure ⟨site.offered_listed.symm,rfl⟩

end Coordinator

namespace Report

-- The last line counts the lines above it.
theorem claims_counted (results : List (ApplicationId × Except Failure Unit)) :
    ∃ claimed failed, claimed = results.countP (·.2.isOk) ∧
      failed = results.countP (!·.2.isOk) ∧ claimed + failed = results.length ∧
      claims results =
        "\n".intercalate (results.map (fun result => claimLine result.1 result.2) ++
          [s!"{claimed} claimed, {failed} failed"]) := by
  have failed : (results.filter (!·.2.isOk)).length = results.countP (!·.2.isOk) :=
    List.countP_eq_length_filter.symm
  have all : results.length = results.countP (·.2.isOk) + results.countP (!·.2.isOk) := by
    simpa using results.length_eq_countP_add_countP (·.2.isOk)
  refine ⟨_,_,rfl,rfl,all.symm,?_⟩
  unfold claims
  rw [failed,all]
  dsimp only
  rw [Nat.add_sub_cancel]

end Report

namespace Command

variable {site current : Site} {result : Application → Except Failure Unit}
  {new : Application → Option Record} {made : Application → List Call}

-- What comes of claims in turn, if each of them writes to a record of its own.
structure Apart (apps : List Application) (new : Application → Option Record)
    (made : Application → List Call) (start after : Site) : Prop where
  own : ∀ app ∈ apps, after.record app.id = (new app).or (start.record app.id)
  others : ∀ id, id ∉ apps.map (·.id) → after.record id = start.record id
  calls : after.fleet.calls = start.fleet.calls ++ apps.flatMap made

theorem claimEach_apart {coordinator : Coordinator} {depth : Nat}
    (does : ∀ app other, site.fleet.Alike app.id other.fleet → other.approver = site.approver →
      Course.Does (coordinator.claim (Site.transport (depth+1)) app) app.id other (result app)
        (new app) (made app))
    {apps : List Application} (once : (apps.map (·.id)).Nodup)
    (alike : ∀ app ∈ apps, site.fleet.Alike app.id current.fleet)
    (same : current.approver = site.approver) :
    Course.Ends (claimEach (Site.transport (depth+1)) coordinator apps) current
      fun results after => results = apps.map (fun app => (app.id,result app)) ∧
        Apart apps new made current after := by
  induction apps generalizing current with
  | nil => exact Course.ends_pure ⟨rfl,nofun,fun _ _ => rfl,(List.append_nil _).symm⟩
  | cons app rest ih =>
    obtain ⟨fresh,once⟩ := List.nodup_cons.mp once
    obtain ⟨here,later⟩ := List.forall_mem_cons.mp alike
    apply (does app current here same).bind
    intro outcome middle came
    obtain ⟨rfl,wrote,asked⟩ := came
    have apart : ∀ other ∈ rest, other.id ≠ app.id := fun other member equal =>
      fresh (List.mem_map.mpr ⟨other,member,equal⟩)
    have still : ∀ other ∈ rest, site.fleet.Alike other.id middle.fleet := by
      intro other member
      rw [wrote]
      exact (later other member).apart (apart other member)
    apply (ih once still (asked.trans same)).bind
    intro results after came
    obtain ⟨rfl,own,others,calls⟩ := came
    have kept (id : ApplicationId) (other : id ≠ app.id) :
        middle.record id = current.record id := by
      unfold Site.record
      rw [wrote]
      exact Fleet.noting_apart other
    refine Course.ends_pure ⟨rfl,?own,?others,?calls⟩
    case own =>
      intro other member
      rcases List.mem_cons.mp member with rfl | later
      · rw [others _ fresh]
        unfold Site.record
        rw [wrote,Fleet.noting_record]
      · rw [own other later,kept _ (apart other later)]
    case others =>
      intro id among
      obtain ⟨first,rest⟩ := List.ne_and_not_mem_of_not_mem_cons among
      rw [others id rest,kept id first]
    case calls =>
      rw [calls,wrote,List.flatMap_cons]
      exact List.append_assoc _ _ _

-- All that is offered is claimed, each application as it would be by itself: the same is reported,
-- the same becomes of its record, and the same calls are made.
structure Severally (coordinator : Coordinator) (depth : Nat) (site : Site)
    (alone : Application → Except Failure Unit × Site) (text : String) (after : Site) : Prop where
  claims : ∀ app ∈ site.offered,
    coordinator.claim (Site.transport depth) app site = some (alone app)
  report : ∃ claimed failed,
    claimed = site.offered.countP (fun app => (alone app).1.isOk) ∧
    failed = site.offered.countP (fun app => !(alone app).1.isOk) ∧
    claimed + failed = site.offered.length ∧
    text = "\n".intercalate
      (site.offered.map (fun app => Report.claimLine app.id (alone app).1) ++
        [s!"{claimed} claimed, {failed} failed"])
  records : ∀ app ∈ site.offered, after.record app.id = (alone app).2.record app.id
  others : ∀ id, id ∉ site.offered.map (·.id) → after.record id = site.record id
  calls : ∃ made : Application → List Call,
    (∀ app ∈ site.offered, (alone app).2.fleet.calls = site.fleet.calls ++ made app) ∧
    after.fleet.calls = site.fleet.calls ++ .listApplications :: site.offered.flatMap made

theorem claimEach_severally (quiet : site.Quiet) (once : (site.offered.map (·.id)).Nodup)
    (coordinator : Coordinator) (depth : Nat) :
    Course.Ends (claimEach (Site.transport (depth+1)) coordinator site.offered)
      { site with fleet := site.fleet.received .listApplications } fun results after =>
        ∃ alone, Severally coordinator (depth+1) site alone (Report.claims results) after := by
  have about (app : Application) := coordinator.claim_about depth app site quiet
  choose result new made does using about
  have each (app : Application) := does app site (Fleet.alike_self _ _) rfl
  choose outcome last ran same wrote _ using each
  let start : Site := { site with fleet := site.fleet.received .listApplications }
  have alike : ∀ app ∈ site.offered, site.fleet.Alike app.id start.fleet :=
    fun _ _ => ⟨rfl,rfl,rfl,rfl⟩
  have claiming : Course.Ends _ start _ := claimEach_apart does once alike rfl
  obtain ⟨results,after,claimed,told,own,others,calls⟩ := claiming
  refine ⟨results,after,claimed,fun app => (result app,last app),
    ?claims,?report,?records,others,?calls⟩
  case claims =>
    intro app _
    rw [ran,same]
  case report =>
    obtain ⟨claimed,failed,granted,refused,all,text⟩ := Report.claims_counted results
    rw [told] at granted refused all text
    rw [List.countP_map] at granted refused
    rw [List.length_map] at all
    rw [List.map_map] at text
    exact ⟨claimed,failed,granted,refused,all,told ▸ text⟩
  case records =>
    intro app member
    rw [own app member]
    unfold Site.record
    rw [wrote,Fleet.noting_record]
    rfl
  case calls =>
    refine ⟨made,fun app _ => congrArg Fleet.calls (wrote app),?_⟩
    rw [calls]
    exact List.append_assoc _ _ _

end Command

theorem Fleet.Own.offered {site : Site} (own : site.fleet.Own) :
    (site.offered.map (·.id)).Pairwise (fun a b => compare a b = .lt) := by
  unfold Site.offered
  split
  · exact List.Pairwise.nil
  · exact own.ascending.sublist (List.filter_sublist.map _)

-- In every run, whatever is set to fail, a coordinator that claims all that is claimable tries each
-- application that is listed so, in the order of their ids, and whether one of them fails is
-- nothing to the others. Where none is listed, or the listing fails, nothing is left of it but the
-- call.
theorem Scene.claimAll_independent (run : Run {} deeds s) (quiet : s.site.Quiet)
    (coordinator : Coordinator) (depth : Nat)
    (onRegistry : (Registry → String × Registry) → Course String) :
    (s.site.offered.map (·.id)).Pairwise (fun a b => compare a b = .lt) ∧
    Course.Ends
      (Command.claimAll.execute (Site.transport (depth+1)) onRegistry coordinator) s.site
      fun outcome after => ∃ text, outcome = (.ok text,coordinator) ∧
        (s.site.offered = [] → text = "No claimable applications" ∧
          after = { s.site with fleet := s.site.fleet.received .listApplications }) ∧
        (s.site.offered ≠ [] →
          ∃ alone, Command.Severally coordinator (depth+1) s.site alone text after) := by
  have ascending := (run_own run).offered
  have once := ascending_once ascending
  refine ⟨ascending,?_⟩
  apply (Coordinator.applicationsIn_offered (depth+1) s.site).bind
  intro apps middle came
  obtain ⟨rfl,rfl⟩ := came
  split
  · rename_i empty
    have nothing := List.isEmpty_iff.mp empty
    exact Course.ends_pure ⟨_,rfl,fun _ => ⟨rfl,rfl⟩,fun other => absurd nothing other⟩
  · rename_i full
    have other : s.site.offered ≠ [] := fun nothing => full (List.isEmpty_iff.mpr nothing)
    apply (Command.claimEach_severally quiet once coordinator depth).bind
    intro results after came
    obtain ⟨alone,severally⟩ := came
    exact Course.ends_pure
      ⟨_,rfl,fun nothing => absurd nothing other,fun _ => ⟨alone,severally⟩⟩

namespace Sample

-- Whoever is asked says no to the fan.
def choosy : List Errand :=
  [.setUp "steward" { answering with
      approver := some (.ofDecision fun app _ => app.id ≠ fan.id) },
    .ask (.announce siren ⟨[0]⟩),.ask (.announce fan ⟨[0]⟩),.ask (.announce lamp ⟨[0]⟩)]

-- The siren is being claimed and stays out of it, and the fan is no obstacle to the lamp.
theorem choosy_independent :
    ∃ deeds s text alone after, Scene.Run {} deeds s ∧ s.site.Quiet ∧
      s.site.offered = [lamp,fan] ∧
      Command.claimAll.execute (Site.transport 1) (fun _ => pure "")
        ⟨Guild.reserved,alice,"alice"⟩ s.site =
          some ((.ok text,⟨Guild.reserved,alice,"alice"⟩),after) ∧
      Command.Severally ⟨Guild.reserved,alice,"alice"⟩ 1 s.site alone text after ∧
      (alone lamp).1 = .ok () ∧
      (alone fan).1 = .error (.claim fan.id .claim (.manifestRejected fan.id)) := by
  obtain ⟨past,run⟩ := staged_run {} choosy []
  let steward : Coordinator := ⟨Guild.reserved,alice,"alice"⟩
  have quiet : ((staged {} choosy).2.scene past).site.Quiet := by
    rintro _ ⟨⟩ app manifest
    trivial
  have offered : ((staged {} choosy).2.scene past).site.offered = [lamp,fan] := by
    rw [Stage.scene_site]
    decide +kernel
  have granted : (steward.claim (Site.transport 1) lamp
      ((staged {} choosy).2.scene past).site).any (·.1 = .ok ()) = true := by
    rw [Stage.scene_site]
    decide +kernel
  have rejected : (steward.claim (Site.transport 1) fan
      ((staged {} choosy).2.scene past).site).any
        (·.1 = .error (.claim fan.id .claim (.manifestRejected fan.id))) = true := by
    rw [Stage.scene_site]
    decide +kernel
  obtain ⟨_,_,after,ran,text,rfl,_,each⟩ :=
    Scene.claimAll_independent run quiet steward 0 fun _ => pure ""
  obtain ⟨alone,severally⟩ := each (by rw [offered]; nofun)
  have first := severally.claims lamp (by rw [offered]; simp)
  have second := severally.claims fan (by rw [offered]; simp)
  rw [first] at granted
  rw [second] at rejected
  exact ⟨_,_,text,alone,after,run,quiet,offered,ran,severally,of_decide_eq_true granted,
    of_decide_eq_true rejected⟩

end Sample

end Custody
