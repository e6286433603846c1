import Custody.Command.Execute
import Custody.Proofs.Callbacks
import Custody.Proofs.Following
import Custody.Proofs.Provision

-- Claims where nothing is set to fail, and commands that make them. A claim comes to a result then,
-- and which one it is depends on the record and on what the approver says to it. A command claims
-- no application twice to another effect, so each one ends as if it had been claimed alone.

namespace Custody

variable {id : ApplicationId} {decision : Application → Manifest → Bool}

-- Whether a claim of a record is granted by an approver that decides on application and manifest.
def Record.grants (record : Record) (decision : Application → Manifest → Bool) : Bool :=
  record.app.claimState = .claimable && decision record.marked.app record.manifest

-- What a claim makes of a record, and what provisioning does.
def Record.tried (record : Record) (claimant : Guid) (decision : Application → Manifest → Bool) :
    Record :=
  if record.app.claimState = .claimable then
    record.marked.settled claimant (decision record.marked.app record.manifest)
  else record

def Record.enrolled (record : Record) (guild : Guid) : Record :=
  { record with
    memberships := if record.memberships.contains guild then record.memberships
      else record.memberships ++ [guild] }

def Record.governed (record : Record) (policy : Policy) : Record :=
  { record with policy := some policy }

-- What a coordinator that claims makes of a record.
def Coordinator.attempt (coordinator : Coordinator) (decision : Application → Manifest → Bool)
    (record : Record) : Record :=
  let tried := record.tried coordinator.identity.guid decision
  if record.grants decision then
    (tried.enrolled coordinator.guild.guid).governed (.forGuilds [coordinator.guild])
  else tried

-- A site where nothing is set to fail, with an approver that decides and both principals of a
-- coordinator in its stores.
structure Site.Ready (site : Site) (coordinator : Coordinator)
    (decision : Application → Manifest → Bool) : Prop where
  clear : ∀ call, site.fleet.faults call = none
  approver : site.approver = some (.ofDecision decision)
  guild : site.fleet.guilds.contains coordinator.guild.guid = true
  identity : site.fleet.identities.contains coordinator.identity.guid = true

namespace Fleet

theorem installMembership_done {fleet : Fleet} {guild : Guid}
    (clear : fleet.faults .installMembership = none) (stored : fleet.guilds.contains guild = true)
    (found : fleet.records.find? id = some record) (owned : record.owner.isSome) :
    fleet.installMembership id guild =
      (.ok (),{ fleet.received .installMembership with
        records := fleet.records.insert id (record.enrolled guild) }) := by
  rw [installMembership,answer_clear _ _ _ clear]
  simp [received,stored,claimedRecord,found,Option.isSome_iff_ne_none.mp owned,Record.enrolled]

theorem installPolicy_done {fleet : Fleet} {policy : Policy}
    (clear : fleet.faults .installPolicy = none) (found : fleet.records.find? id = some record)
    (owned : record.owner.isSome) :
    fleet.installPolicy id policy =
      (.ok (),{ fleet.received .installPolicy with
        records := fleet.records.insert id (record.governed policy) }) := by
  rw [installPolicy,answer_clear _ _ _ clear]
  simp [received,claimedRecord,found,Option.isSome_iff_ne_none.mp owned,Record.governed]

end Fleet

namespace Site

variable {site middle after : Site} {coordinator : Coordinator} {record : Record}

theorem Ready.congr (ready : site.Ready coordinator decision)
    (faults : after.fleet.faults = site.fleet.faults)
    (principals : after.fleet.principals = site.fleet.principals)
    (approver : after.approver = site.approver) : after.Ready coordinator decision := by
  obtain ⟨guilds,identities⟩ := Prod.mk.inj principals
  constructor
  · rw [faults]; exact ready.clear
  · rw [approver]; exact ready.approver
  · rw [guilds]; exact ready.guild
  · rw [identities]; exact ready.identity

-- A site at which the records under some ids have been edited, and no others.
def Edited (site : Site) (reached : ApplicationId → Bool) (edit : Record → Record)
    (after : Site) : Prop :=
  ∀ id, after.record id = (site.record id).map fun record =>
    if reached id then edit record else record

theorem edited_nothing (edit : Record → Record)
    (same : after.fleet.records = site.fleet.records) :
    site.Edited (fun _ => false) edit after := by
  intro id
  unfold Site.record
  rw [same]
  exact Option.map_id'.symm

theorem edited_at {edit : Record → Record} (found : site.record id = some record)
    (stored : ∀ other, after.record other =
      if other = id then some (edit record) else site.record other) :
    site.Edited (· = id) edit after := by
  intro other
  rw [stored]
  by_cases here : other = id
  · subst here
    simp [found]
  · simp [here]

theorem Edited.since {reached : ApplicationId → Bool} {edit : Record → Record}
    (edited : middle.Edited reached edit after)
    (same : middle.fleet.records = site.fleet.records) : site.Edited reached edit after := by
  intro id
  rw [edited]
  unfold Site.record
  rw [same]

theorem Edited.congr {reached others : ApplicationId → Bool} {edit other : Record → Record}
    (edited : site.Edited reached edit after)
    (same : ∀ id record, site.record id = some record →
      (if reached id then edit record else record) = if others id then other record else record) :
    site.Edited others other after := by
  intro id
  rw [edited]
  exact Option.map_congr fun record found => same id record found

theorem Edited.trans {reached : ApplicationId → Bool} {first last : Record → Record}
    (begun : site.Edited reached first middle) (ended : middle.Edited reached last after) :
    site.Edited reached (last ∘ first) after := by
  intro id
  rw [ended,begun,Option.map_map]
  congr 1
  funext record
  cases reached id with
  | true | false => rfl

-- What is edited by two steps, one id by one of them only.
theorem Edited.join {first last : ApplicationId → Bool} {edit : Record → Record}
    (begun : site.Edited first edit middle) (ended : middle.Edited last edit after)
    (apart : ∀ id, first id = true → last id = false) :
    site.Edited (fun id => first id || last id) edit after := by
  intro id
  rw [ended,begun,Option.map_map]
  congr 1
  funext record
  by_cases here : first id = true
  · simp [here,apart id here]
  · simp [here]

-- What a claim comes to by itself: it is granted if the record grants it, and the record becomes
-- what the claim makes of it.
structure Tried (site : Site) (id : ApplicationId) (claimant : Guid)
    (decision : Application → Manifest → Bool) (result : Except Refusal Unit) (after : Site) :
    Prop where
  granted : result.toBool = (site.record id).any (·.grants decision)
  records : site.Edited (· = id) (·.tried claimant decision) after

theorem untried {claimant : Guid} {refusal : Refusal}
    (taken : ∀ record, site.record id = some record → record.app.claimState ≠ .claimable)
    (same : after.fleet.records = site.fleet.records) :
    site.Tried id claimant decision (.error refusal) after := by
  constructor
  · cases found : site.record id with
    | none => rfl
    | some record => simp [Record.grants,taken record found,Except.toBool]
  · refine (edited_nothing (fun record => record) same).congr fun other record found => ?_
    by_cases here : other = id
    · subst here
      simp [Record.tried,taken record found]
    · simp [here]

theorem Ready.quiet (ready : site.Ready coordinator decision) : site.Quiet := by
  intro approver asked app manifest
  cases ready.approver.symm.trans asked
  trivial

-- Nothing but the state of an application stands in the way of its claim.
theorem Ready.taken (ready : site.Ready coordinator decision)
    (refuses : site.fleet.Refuses id coordinator.identity.guid site.approver refusal) :
    ∀ record, site.record id = some record → record.app.claimState ≠ .claimable := by
  intro record known
  cases refuses with
  | fault set => cases (ready.clear _).symm.trans set
  | stranger _ absent =>
    have stored := ready.identity
    rw [Keyed.contains,absent] at stored
    cases stored
  | unknown _ _ absent => cases absent.symm.trans known
  | taken _ _ found taken =>
    cases found.symm.trans known
    exact taken
  | unattended _ _ _ _ nobody => cases nobody.symm.trans ready.approver

theorem claimWithin_tried (ready : site.Ready coordinator decision) (depth : Nat)
    (app : Application) :
    (claimWithin (depth+1) app coordinator.identity).Ends site fun result after =>
      after.Ready coordinator decision ∧
        site.Tried app.id coordinator.identity.guid decision result after := by
  obtain ⟨result,after,ran,judged⟩ :=
    claimWithin_judged ready.quiet depth app coordinator.identity
  have approver := congrArg Prod.fst judged.callbacks
  refine ⟨result,after,ran,?_⟩
  cases judged with
  | refused refuses => exact ⟨ready.congr rfl rfl rfl,untried (ready.taken refuses) rfl⟩
  | @decided record _ approved _ _ found free asked verdict settled =>
    cases ready.approver.symm.trans asked
    have decides : decision record.marked.app record.manifest = approved := verdict
    refine ⟨?_,?_,?_⟩
    · exact ready.congr (by rw [settled]; rfl) (by rw [settled]; rfl) approver
    · rw [found]
      cases approved with
      | true | false => simp [Record.grants,free,decides,Except.toBool]
    · refine edited_at found fun other => ?_
      unfold Site.record
      rw [settled,Record.tried,if_pos free,decides]
      exact Keyed.find?_insert_if _ _ _ _

-- The two steps of provisioning, where the record has an owner.

theorem Ready.enrols (ready : site.Ready coordinator decision)
    (found : site.record id = some record) (owned : record.owner.isSome) :
    (Course.call fun fleet => fleet.installMembership id coordinator.guild.guid).Ends site
      fun result after => result = .ok () ∧ after.Ready coordinator decision ∧
        site.Edited (· = id) (·.enrolled coordinator.guild.guid) after :=
  Course.ends_call (Fleet.installMembership_done (ready.clear _) ready.guild found owned)
    ⟨rfl,ready.congr rfl rfl rfl,edited_at found fun _ => Keyed.find?_insert_if _ _ _ _⟩

theorem Ready.governs (ready : site.Ready coordinator decision)
    (found : site.record id = some record) (owned : record.owner.isSome) (policy : Policy) :
    (Course.call fun fleet => fleet.installPolicy id policy).Ends site
      fun result after => result = .ok () ∧ after.Ready coordinator decision ∧
        site.Edited (· = id) (·.governed policy) after :=
  Course.ends_call (Fleet.installPolicy_done (ready.clear _) found owned)
    ⟨rfl,ready.congr rfl rfl rfl,edited_at found fun _ => Keyed.find?_insert_if _ _ _ _⟩

end Site

-- What is granted has an owner.
theorem Record.tried_owned {record : Record} (granted : record.grants decision = true)
    (claimant : Guid) : (record.tried claimant decision).owner.isSome := by
  obtain ⟨free,approved⟩ := Bool.and_eq_true_iff.mp granted
  rw [Record.tried,if_pos (of_decide_eq_true free),approved]
  rfl

namespace Coordinator

variable {coordinator : Coordinator} {site : Site}

theorem attempt_taken {record : Record} (taken : record.app.claimState ≠ .claimable) :
    coordinator.attempt decision record = record := by
  simp [attempt,Record.grants,Record.tried,taken]

theorem claim_ready (ready : site.Ready coordinator decision) (depth : Nat) (app : Application) :
    Course.Ends (coordinator.claim (Site.transport (depth+1)) app) site fun _ after =>
      after.Ready coordinator decision ∧
        site.Edited (· = app.id) (coordinator.attempt decision) after := by
  apply (Site.claimWithin_tried ready depth app).bind
  rintro claimed owned ⟨still,granted,tried⟩
  cases claimed with
  | error refusal =>
    refine Course.ends_pure ⟨still,tried.congr fun id record found => ?_⟩
    by_cases here : id = app.id
    · subst here
      have rejected : record.grants decision = false := by
        rw [found] at granted
        exact granted.symm
      simp [attempt,rejected]
    · simp [here]
  | ok =>
    cases found : site.record app.id with
    | none => rw [found] at granted; cases granted
    | some record =>
      rw [found] at granted
      have grants : record.grants decision = true := granted.symm
      have owner := Record.tried_owned grants coordinator.identity.guid
      have claimed : owned.record app.id =
          some (record.tried coordinator.identity.guid decision) := by
        rw [tried,found]
        simp
      apply (still.enrols claimed owner).bind
      rintro _ enrolled ⟨rfl,still,joined⟩
      have member : enrolled.record app.id = some ((record.tried coordinator.identity.guid
          decision).enrolled coordinator.guild.guid) := by
        rw [joined,claimed]
        simp
      apply (still.governs member owner (.forGuilds [coordinator.guild])).bind
      rintro _ governed ⟨rfl,still,ruled⟩
      refine Course.ends_pure ⟨still,((tried.trans joined).trans ruled).congr ?_⟩
      intro id old known
      by_cases here : id = app.id
      · subst here
        cases known.symm.trans found
        simp [attempt,grants]
      · simp [here]

theorem applications_ready (ready : site.Ready coordinator decision) (depth : Nat) :
    Course.Ends (applications (Site.transport depth)) site fun apps after =>
      apps = site.fleet.applications ∧ after.Ready coordinator decision ∧
        after.fleet.records = site.fleet.records := by
  have listed : (Course.call Fleet.listApplications).Ends site fun result after =>
      result = .ok site.fleet.applications ∧ after.Ready coordinator decision ∧
        after.fleet.records = site.fleet.records :=
    Course.ends_call (Fleet.answer_clear _ _ _ (ready.clear _)) ⟨rfl,ready.congr rfl rfl rfl,rfl⟩
  apply listed.bind
  rintro _ after ⟨rfl,still,records⟩
  exact Course.ends_pure ⟨rfl,still,records⟩

theorem applicationsIn_ready (ready : site.Ready coordinator decision) (depth : Nat)
    (state : ClaimState) :
    Course.Ends (applicationsIn (Site.transport depth) state) site fun apps after =>
      apps = site.fleet.applications.filter (·.claimState == state) ∧
        after.Ready coordinator decision ∧ after.fleet.records = site.fleet.records := by
  apply (applications_ready ready depth).bind
  rintro _ after ⟨rfl,still,records⟩
  exact Course.ends_pure ⟨rfl,still,records⟩

theorem application_ready (ready : site.Ready coordinator decision) (depth : Nat)
    (id : ApplicationId) :
    Course.Ends (application (Site.transport depth) id) site fun result after =>
      result.toOption = site.fleet.info id ∧ after.Ready coordinator decision ∧
        after.fleet.records = site.fleet.records := by
  have asked : (Course.call fun fleet => fleet.getApplication id).Ends site fun result after =>
      result.toOption = site.fleet.info id ∧ after.Ready coordinator decision ∧
        after.fleet.records = site.fleet.records := by
    have answered : site.fleet.getApplication id = _ := Fleet.answer_clear _ _ _ (ready.clear _)
    cases found : site.fleet.records.find? id with
    | none =>
      rw [show (site.fleet.received .getApplication).records.find? id = none from found]
        at answered
      exact Course.ends_call answered ⟨by rw [Fleet.info,found]; rfl,ready.congr rfl rfl rfl,rfl⟩
    | some record =>
      rw [show (site.fleet.received .getApplication).records.find? id = some record from found]
        at answered
      exact Course.ends_call answered ⟨by rw [Fleet.info,found]; rfl,ready.congr rfl rfl rfl,rfl⟩
  apply asked.bind
  rintro answered after held
  cases answered with
  | ok | error => exact Course.ends_pure held

theorem rename_records (depth : Nat) (coordinator : Coordinator) (name : String) (site : Site) :
    Course.Ends (coordinator.rename (Site.transport depth) name) site fun _ after =>
      after.fleet.records = site.fleet.records := by
  unfold rename
  split
  · exact Course.ends_pure rfl
  · split
    · exact Course.ends_pure rfl
    · have stored : (Course.call fun fleet => fleet.updateIdentity
          { coordinator.identity with name }).Ends site fun _ after =>
          after.fleet.records = site.fleet.records :=
        Course.ends_call rfl (Fleet.updateIdentity_records _ _)
      apply stored.bind
      intro result after same
      cases result with
      | ok | error => exact Course.ends_pure same

end Coordinator

namespace Command

variable {coordinator : Coordinator} {site : Site}

-- The applications that a command claims if they are claimable.
def reaches : Command → ApplicationId → Bool
  | .claim target,id => id = target
  | .claimAll,_ => true
  | _,_ => false

theorem claimEach_ready (ready : site.Ready coordinator decision) (depth : Nat)
    {apps : List Application} (once : (apps.map (·.id)).Nodup) :
    Course.Ends (claimEach (Site.transport (depth+1)) coordinator apps) site fun _ after =>
      site.Edited (fun id => apps.any (id = ·.id)) (coordinator.attempt decision) after := by
  induction apps generalizing site with
  | nil => exact Course.ends_pure (Site.edited_nothing _ rfl)
  | cons app rest ih =>
    obtain ⟨fresh,once⟩ := List.nodup_cons.mp once
    apply (Coordinator.claim_ready ready depth app).bind
    rintro result middle ⟨still,first⟩
    apply (ih still once).bind
    intro results after others
    refine Course.ends_pure (first.join others fun id here => ?_)
    cases of_decide_eq_true here
    refine Bool.eq_false_iff.mpr fun later => fresh ?_
    obtain ⟨other,member,same⟩ := List.any_eq_true.mp later
    exact List.mem_map.mpr ⟨other,member,(of_decide_eq_true same).symm⟩

-- To claim all that is claimable is to try to claim everything.
theorem claimAll_ready (ready : site.Ready coordinator decision) (own : site.fleet.Own)
    (depth : Nat) :
    Course.Ends (claimEach (Site.transport (depth+1)) coordinator
        (site.fleet.applications.filter (·.claimState == .claimable))) site fun _ after =>
      site.Edited (fun _ => true) (coordinator.attempt decision) after := by
  have shows := own.shows
  have once : ((site.fleet.applications.filter (·.claimState == .claimable)).map (·.id)).Nodup :=
    shows.once.sublist (List.filter_sublist.map _)
  obtain ⟨results,after,ran,edited⟩ := claimEach_ready ready depth once
  refine ⟨results,after,ran,edited.congr fun id record found => ?_⟩
  by_cases free : record.app.claimState = .claimable
  · have here : record.app.id = id := own.found id record found
    have listed : record.app ∈ site.fleet.applications :=
      (shows.all _).mpr (by rw [here]; exact congrArg (Option.map Record.app) found)
    rw [if_pos,if_pos rfl]
    exact List.any_eq_true.mpr ⟨record.app,by simp [listed,free],by simp [here]⟩
  · rw [Coordinator.attempt_taken free,ite_self,ite_self]

section

variable (ready : site.Ready coordinator decision) (own : site.fleet.Own) (depth : Nat)
  {onRegistry : (Registry → String × Registry) → Course String}

include ready own

theorem executeClaim_ready (id : ApplicationId) :
    Course.Ends ((claim id).execute (Site.transport (depth+1)) onRegistry coordinator) site
      fun _ after => site.Edited (claim id).reaches (coordinator.attempt decision) after := by
  apply (Coordinator.application_ready ready (depth+1) id).bind
  rintro asked after ⟨known,still,same⟩
  cases asked with
  | error failure =>
    refine Course.ends_pure ((Site.edited_nothing (coordinator.attempt decision) same).congr
      fun other record found => ?_)
    by_cases here : other = id
    · subst here
      have info : site.fleet.info other = some record.app := congrArg (Option.map _) found
      cases info.symm.trans known.symm
    · simp [reaches,here]
  | ok app =>
    have here : app.id = id := own id app known.symm
    apply (Coordinator.claim_ready still depth app).bind
    rintro claimed last ⟨_,edited⟩
    rw [here] at edited
    cases claimed with
    | ok | error => exact Course.ends_pure (edited.since same)

theorem executeClaimAll_ready :
    Course.Ends (claimAll.execute (Site.transport (depth+1)) onRegistry coordinator) site
      fun _ after => site.Edited claimAll.reaches (coordinator.attempt decision) after := by
  apply (Coordinator.applicationsIn_ready ready (depth+1) .claimable).bind
  rintro _ middle ⟨rfl,still,same⟩
  have listed : site.fleet.applications = middle.fleet.applications := by
    unfold Fleet.applications; rw [same]
  have owned : middle.fleet.Own := by unfold Fleet.Own Fleet.info; rw [same]; exact own
  rw [listed]
  have claiming := claimAll_ready still owned depth
  split
  · rename_i empty
    rw [List.isEmpty_iff.mp empty] at claiming
    obtain ⟨results,last,ran,edited⟩ := claiming
    cases Option.some.inj ran
    exact Course.ends_pure (edited.since same)
  · apply claiming.bind
    rintro results after edited
    exact Course.ends_pure (edited.since same)

-- Where nothing is set to fail, a command comes to a result, and the records that it reaches become
-- what a claim by itself would make of them.
theorem execute_ready
    (reads : ∀ act site, (onRegistry act).Ends site fun _ after =>
      after.fleet.records = site.fleet.records) (command : Command) :
    Course.Ends (command.execute (Site.transport (depth+1)) onRegistry coordinator) site
      fun _ after => site.Edited command.reaches (coordinator.attempt decision) after := by
  have nothing {after : Site} (same : after.fleet.records = site.fleet.records) :
      site.Edited (fun _ => false) (coordinator.attempt decision) after :=
    Site.edited_nothing _ same
  cases command with
  | list state json =>
    cases state with
    | none =>
      apply (Coordinator.applications_ready ready (depth+1)).bind
      rintro apps after ⟨_,_,same⟩
      exact Course.ends_pure (nothing same)
    | some state =>
      apply (Coordinator.applicationsIn_ready ready (depth+1) state).bind
      rintro apps after ⟨_,_,same⟩
      exact Course.ends_pure (nothing same)
  | claim id => exact executeClaim_ready ready own depth id
  | claimAll => exact executeClaimAll_ready ready own depth
  | whoami => exact Course.ends_pure (nothing rfl)
  | rename name =>
    apply (coordinator.rename_records (depth+1) name site).bind
    rintro ⟨result,renamed⟩ after same
    cases result with
    | ok | error => exact Course.ends_pure (nothing same)
  | registry =>
    apply (reads _ site).bind
    intro text after same
    exact Course.ends_pure (nothing same)

end

end Command

end Custody
