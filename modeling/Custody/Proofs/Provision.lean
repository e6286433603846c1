import Custody.Proofs.Verdict

-- How far applications get that are claimed through coordinators only, by approvers that do nothing
-- but answer. A record stands on one of three rungs or on the ground, and which one it is was
-- decided by the one claim, since it was announced, that the approver let through.

namespace Custody

variable {id : ApplicationId}

-- How far a claim has got that was let through: to the owner alone, to the guild as well, or to the
-- policy, which is the end.
inductive Rung where
  | owned
  | enrolled
  | governed

namespace Rung

def memberships : Rung → List Guid
  | owned => []
  | enrolled | governed => [Guid.reserved]

-- Members of the guild may do everything.
def policy : Rung → Option Policy
  | owned | enrolled => none
  | governed => some ⟨1,[⟨[.guildMember Guid.reserved],[⟨"*"⟩]⟩]⟩

end Rung

-- A record on a rung, or on the ground.
def Record.Stands (record : Record) : Option Rung → Prop
  | none => record.owner = none ∧ record.memberships = [] ∧ record.policy = none
  | some rung => record.app.claimState = .claimed ∧ record.owner = some Guid.reserved ∧
      record.memberships = rung.memberships ∧ record.policy = rung.policy

-- The rung that the outcome of a claim stands for, if it got past its first step.
def reachedBy : Except Failure Unit → Option Rung
  | .ok () => some .governed
  | .error (.claim _ .installPolicy _) => some .enrolled
  | .error (.claim _ .installMembership _) => some .owned
  | .error _ => none

namespace Deed

-- What may be done: anything, unless it claims or provisions without a coordinator, or registers an
-- approver that does more than answer.
def Orderly : Deed → Prop
  | .moved (.performed (.claim _ _) _) => False
  | .moved (.performed (.installMembership _ _) _) => False
  | .moved (.performed (.installPolicy _ _) _) => False
  | .moved (.performed (.setApprover approver) _) => Approver.Quiet approver
  | .moved (.performed _ _) => True
  | .moved _ => False
  | .setUp _ setup _ => ∀ approver, setup.approver = some approver → Approver.Quiet approver
  | .tended _ _ | .claimed _ _ _ | .renamed _ _ _ => True

def announces (id : ApplicationId) : Deed → Bool
  | .moved move => (move.announced id).isSome
  | _ => false

-- The rung that a claim of an application has got to, if this is one.
def reaches (id : ApplicationId) : Deed → Option Rung
  | .claimed _ app result => if app.id = id then reachedBy result else none
  | _ => none

end Deed

-- What becomes of a record where nothing is announced: it stays where it stands, or it gets from
-- the ground to a rung.
def Climbs (rung : Option Rung) (before after : Option Record) : Prop :=
  ∀ record, after = some record → ∃ old, before = some old ∧ ∀ stand, old.Stands stand →
    rung = none ∧ record.Stands stand ∨ stand = none ∧ rung.isSome ∧ record.Stands rung

theorem climbs_same (same : after = before) : Climbs none before after := by
  rintro record rfl
  exact ⟨record,same.symm,fun stand stands => .inl ⟨rfl,stands⟩⟩

-- What is claimable stands on the ground.
theorem Record.Stands.ground {record : Record} (stands : record.Stands stand)
    (free : record.app.claimState = .claimable) : stand = none := by
  cases stand with
  | none => rfl
  | some rung => exact absurd (free.symm.trans stands.1) nofun

-- What comes of a claim by an approver that only answers. It is refused before anybody is asked, or
-- it is answered, and then the record is what the answer makes of it.
inductive Answered (site : Site) (id : ApplicationId) (claimant : Guid) :
    Except Refusal Unit → Site → Prop where
  | refused (same : after.fleet.records = site.fleet.records) :
      Answered site id claimant (.error refusal) after
  | answered (found : site.record id = some record) (free : record.app.claimState = .claimable)
      (same : result.toBool = approved)
      (settled : ∀ other, after.record other = if other = id then some
          ({ record with app := { record.app with claimState := .claiming } }.settled
            claimant approved)
        else site.record other) :
      Answered site id claimant result after

theorem claimWithin_quiet {depth : Nat} {site after : Site} {app : Application}
    {identity : Identity} (quiet : site.Quiet)
    (ran : Site.claimWithin depth app identity site = some (result,after)) :
    after.approver = site.approver ∧ Answered site app.id identity.guid result after := by
  have judged := Site.judged_within quiet ran
  refine ⟨congrArg Prod.fst judged.callbacks,?_⟩
  cases judged with
  | refused => exact .refused rfl
  | @decided record _ approved _ _ found free _ _ settled =>
    have answer : (if approved then .ok () else .error (.manifestRejected app.id) :
        Except Refusal Unit).toBool = approved := by
      cases approved with
      | true | false => rfl
    refine .answered found free answer fun other => ?_
    unfold Site.record
    rw [settled]
    exact Keyed.find?_insert_if _ _ _ _

-- A site that is the same to all applications but one, which has been let through to a rung.
def Climbed (site : Site) (id : ApplicationId) (rung : Option Rung) (after : Site) : Prop :=
  ∀ other, Climbs (if id = other then rung else none) (site.record other) (after.record other)

theorem Climbed.congr (climbed : Climbed site id rung middle)
    (same : after.fleet.records = middle.fleet.records) : Climbed site id rung after := by
  intro other
  have record : after.record other = middle.record other := by unfold Site.record; rw [same]
  rw [record]
  exact climbed other

theorem climbed_same (same : after.fleet.records = site.fleet.records) :
    Climbed site id none after := by
  intro other
  rw [ite_self]
  apply climbs_same
  unfold Site.record
  rw [same]

-- A claim gets an application from the ground to its owner, or leaves it on the ground.
theorem Answered.climbed (answered : Answered site id Guid.reserved result after) :
    Climbed site id (if result.toBool then some .owned else none) after := by
  cases answered with
  | refused same => exact climbed_same same
  | answered found free decided settled =>
    rename_i old approved
    intro other record held
    rw [settled] at held
    by_cases here : id = other
    · subst here
      rw [if_pos rfl] at held ⊢
      cases held
      refine ⟨old,found,fun stand stands => ?_⟩
      obtain rfl := stands.ground free
      obtain ⟨_,memberships,policy⟩ := stands
      rw [decided]
      cases approved with
      | true => exact .inr ⟨rfl,rfl,rfl,rfl,memberships,policy⟩
      | false => exact .inl ⟨rfl,rfl,memberships,policy⟩
    · rw [if_neg (Ne.symm here)] at held
      rw [if_neg here]
      exact ⟨record,held,fun stand stands => .inl ⟨rfl,stands⟩⟩

-- The step from one rung to a higher one.
theorem Climbed.lift (climbed : Climbed site id (some rung) middle)
    (found : middle.fleet.records.find? id = some record)
    (inserted : after.fleet.records = middle.fleet.records.insert id new)
    (lifts : record.Stands (some rung) → new.Stands (some higher)) :
    Climbed site id (some higher) after := by
  intro other last held
  unfold Site.record at held
  rw [inserted,Keyed.find?_insert_if] at held
  by_cases here : id = other
  · subst here
    rw [if_pos rfl] at held ⊢
    cases held
    obtain ⟨old,known,stood⟩ := climbed id record found
    rw [if_pos rfl] at stood
    refine ⟨old,known,fun stand stands => ?_⟩
    rcases stood stand stands with ⟨none,_⟩ | ⟨ground,_,reached⟩
    · cases none
    · exact .inr ⟨ground,rfl,lifts reached⟩
  · rw [if_neg (Ne.symm here)] at held
    have before := climbed other last held
    rw [if_neg here] at before ⊢
    exact before

theorem Record.Stands.enrol {record : Record} (stands : record.Stands (some .owned)) :
    { record with
      memberships := if record.memberships.contains Guid.reserved then record.memberships
        else record.memberships ++ [Guid.reserved] }.Stands (some .enrolled) := by
  obtain ⟨state,owner,memberships,policy⟩ := stands
  refine ⟨state,owner,?_,policy⟩
  dsimp only
  rw [memberships]
  rfl

theorem Record.Stands.govern {record : Record} {guild : Guild}
    (stands : record.Stands (some .enrolled)) (reserved : guild.guid = Guid.reserved) :
    { record with policy := some (Policy.forGuilds [guild]) }.Stands (some .governed) := by
  obtain ⟨state,owner,memberships,_⟩ := stands
  refine ⟨state,owner,memberships,?_⟩
  show some (Policy.forGuilds [guild]) = _
  rw [Policy.forGuilds,List.map_singleton,reserved]
  rfl

theorem Climbed.enrol (climbed : Climbed site id (some .owned) owned)
    (called : owned.fleet.installMembership id Guid.reserved = (result,fleet)) :
    Climbed site id (some (if result.toBool then .enrolled else .owned))
      { owned with fleet } := by
  rcases owned.fleet.installMembership_spec id Guid.reserved with
    ⟨record,found,_,installed⟩ | ⟨refusal,refused⟩
  · cases called.symm.trans installed
    exact climbed.lift found rfl fun stands => stands.enrol
  · cases called.symm.trans refused
    exact climbed.congr rfl

theorem Climbed.govern {guild : Guild} (climbed : Climbed site id (some .enrolled) enrolled)
    (reserved : guild.guid = Guid.reserved)
    (called : enrolled.fleet.installPolicy id (Policy.forGuilds [guild]) = (result,fleet)) :
    Climbed site id (some (if result.toBool then .governed else .enrolled))
      { enrolled with fleet } := by
  rcases enrolled.fleet.installPolicy_spec id (Policy.forGuilds [guild]) with
    ⟨record,found,_,installed⟩ | ⟨refusal,refused⟩
  · cases called.symm.trans installed
    exact climbed.lift found rfl fun stands => stands.govern reserved
  · cases called.symm.trans refused
    exact climbed.congr rfl

namespace Coordinator

-- A coordinator claims in three steps, and an application stays on the rung at which they end.
theorem claim_climbed {depth : Nat} {coordinator : Coordinator} {app : Application}
    {site after : Site} {result : Except Failure Unit} (quiet : site.Quiet)
    (guild : coordinator.guild.guid = Guid.reserved)
    (identity : coordinator.identity.guid = Guid.reserved)
    (ran : coordinator.claim (Site.transport depth) app site = some (result,after)) :
    after.approver = site.approver ∧ Climbed site app.id (reachedBy result) after := by
  obtain ⟨claimed,owned,claiming,rest⟩ := Course.ran_bind ran
  obtain ⟨approver,answered⟩ := claimWithin_quiet quiet claiming
  rw [identity] at answered
  have climbed := answered.climbed
  cases claimed with
  | error refusal =>
    cases Option.some.inj rest
    exact ⟨approver,climbed⟩
  | ok done =>
    cases done
    obtain ⟨enrolled,joined,enrolling,rest⟩ := Course.ran_bind rest
    obtain ⟨fleet,called,rfl⟩ := Course.ran_call enrolling
    rw [guild] at called
    have joining := climbed.enrol called
    cases enrolled with
    | error refusal =>
      cases Option.some.inj rest
      exact ⟨approver,joining⟩
    | ok done =>
      cases done
      obtain ⟨governed,last,governing,rest⟩ := Course.ran_bind rest
      obtain ⟨after,called,rfl⟩ := Course.ran_call governing
      have ruling := joining.govern guild called
      cases governed with
      | error refusal =>
        cases Option.some.inj rest
        exact ⟨approver,ruling⟩
      | ok done =>
        cases done
        cases Option.some.inj rest
        exact ⟨approver,ruling⟩

theorem rename_keeps {depth : Nat} {coordinator renamed : Coordinator} {userName : String}
    {result : Except Failure Unit} {site after : Site}
    (ran : coordinator.rename (Site.transport depth) userName site =
      some ((result,renamed),after)) :
    after.fleet.records = site.fleet.records ∧ after.approver = site.approver ∧
      renamed.guild.guid = coordinator.guild.guid ∧
      renamed.identity.guid = coordinator.identity.guid := by
  unfold rename at ran
  split at ran
  · cases Option.some.inj ran
    exact ⟨rfl,rfl,rfl,rfl⟩
  · split at ran
    · cases Option.some.inj ran
      exact ⟨rfl,rfl,rfl,rfl⟩
    · obtain ⟨stored,middle,storing,rest⟩ := Course.ran_bind ran
      obtain ⟨fleet,called,rfl⟩ := Course.ran_call storing
      have records : fleet.records = site.fleet.records := by
        have same := site.fleet.updateIdentity_records
          { coordinator.identity with name := userName }
        rw [called] at same
        exact same
      cases stored with
      | error refusal | ok done =>
        cases Option.some.inj rest
        exact ⟨records,rfl,rfl,rfl⟩

end Coordinator

namespace Moment

theorem perform_approver {site after : Site} {operation : Operation} {outcome : Outcome}
    (ran : operation.perform 0 site = some (outcome,after)) :
    after.approver = site.approver ∨
      ∃ approver, operation = .setApprover approver ∧ after.approver = some approver := by
  have same := congrArg Prod.fst (perform_callbacks ran)
  cases operation with
  | setApprover approver => exact .inr ⟨approver,rfl,same⟩
  | _ => exact .inl same

end Moment

-- A move that neither announces nor claims nor provisions leaves an application where it stands.
theorem Change.climbs {operation : Operation}
    (change : Change id before (.performed operation outcome) after)
    (orderly : Deed.Orderly (.moved (.performed operation outcome)))
    (other : Move.announced id (.performed operation outcome) = none) :
    Climbs none before after := by
  cases change with
  | absent => exact nofun
  | kept => exact climbs_same rfl
  | announced new => rw [other] at new; cases new
  | running =>
    rename_i record state
    rintro _ ⟨⟩
    refine ⟨record,rfl,fun stand stands => .inl ⟨rfl,?_⟩⟩
    cases stand with
    | none | some => exact stands
  | enrolled | governed => exact orderly.elim

namespace Scene

-- All coordinators have the reserved identifier, as guild and as identity.
theorem run_reserved (run : Run {} deeds s)
    (known : s.coordinators.find? name = some coordinator) :
    coordinator.guild.guid = Guid.reserved ∧ coordinator.identity.guid = Guid.reserved := by
  induction run generalizing name coordinator with
  | nothing => cases known
  | deed before does ih =>
    obtain ⟨guilds,identities⟩ := run_filed (.deed before does)
    cases does with
    | move | tend => exact ih known
    | claim => exact ih known
    | setUp other runs =>
      rename_i setup result next depth
      cases result with
      | error failure => exact ih known
      | ok new =>
        rw [keeping,Keyed.find?_insert_if] at known
        split at known
        · cases known
          have constructed := (Coordinator.create_ends depth setup _).only runs.ran
          obtain ⟨guild,identity⟩ := constructed.stored _ rfl
          exact ⟨guilds _ _ guild,identities _ _ identity⟩
        · exact ih known
    | rename found runs =>
      rw [Keyed.find?_insert_if] at known
      split at known
      · cases known
        obtain ⟨_,_,guild,identity⟩ := Coordinator.rename_keeps runs.ran
        obtain ⟨guildBefore,identityBefore⟩ := ih found
        exact ⟨guild.trans guildBefore,identity.trans identityBefore⟩
      · exact ih known

-- Between deeds nobody waits, and the approver is one that only answers.
theorem run_quiet (run : Run {} deeds s) (orderly : ∀ deed ∈ deeds, deed.Orderly) :
    s.moment.waiting = [] ∧ s.site.Quiet := by
  induction run with
  | nothing => exact ⟨rfl,nofun⟩
  | @deed deeds s deed next before does ih =>
    have may := orderly deed (by simp)
    obtain ⟨idle,quiet⟩ := ih fun deed member => orderly deed (List.mem_append_left _ member)
    cases does with
    | move step =>
      cases step with
      | perform asked ran =>
        refine ⟨by rw [idle]; rfl,?_⟩
        rcases Moment.perform_approver ran with same | ⟨approver,rfl,registered⟩
        · exact quiet.congr same
        · intro other asked
          cases registered.symm.trans asked
          exact may
      | begin | note | decide => exact may.elim
    | tend registry act => exact ⟨idle,quiet.congr (s.moment.tend_approver registry act)⟩
    | setUp name runs =>
      refine ⟨runs.ended,?_⟩
      rcases ((Coordinator.create_ends _ _ _).only runs.ran).approver with same | same
      · exact quiet.congr same
      · intro approver registered
        exact may approver (same.symm.trans registered)
    | claim found runs =>
      obtain ⟨guild,identity⟩ := run_reserved before found
      obtain ⟨same,_⟩ := Coordinator.claim_climbed quiet guild identity runs.ran
      exact ⟨runs.ended,quiet.congr same⟩
    | rename found runs =>
      obtain ⟨_,same,_⟩ := Coordinator.rename_keeps runs.ran
      exact ⟨runs.ended,quiet.congr same⟩

-- What one deed does to one application.
theorem does_climbs (before : Run {} deeds s) (orderly : ∀ deed ∈ deeds, deed.Orderly)
    (does : Does s deed next) (may : deed.Orderly) (other : deed.announces id = false) :
    Climbs (deed.reaches id) (s.site.record id) (next.site.record id) := by
  obtain ⟨_,quiet⟩ := run_quiet before orderly
  have kept {after : Site} (same : after.fleet.records = s.site.fleet.records) :
      Climbs none (s.site.record id) (after.record id) := by
    apply climbs_same
    unfold Site.record
    rw [same]
  cases does with
  | move step =>
    have silent : _ = none := Option.not_isSome_iff_eq_none.mp (ne_true_of_eq_false other)
    have change := step_change step id
    cases step with
    | perform asked ran => exact change.climbs may silent
    | begin | note | decide => exact may.elim
  | tend registry act =>
    exact kept (congrArg Fleet.records (s.moment.tend_fleet registry act))
  | setUp name runs => exact kept ((Coordinator.create_ends _ _ _).only runs.ran).kept.records
  | claim found runs =>
    obtain ⟨guild,identity⟩ := run_reserved before found
    exact (Coordinator.claim_climbed quiet guild identity runs.ran).2 id
  | rename found runs => exact kept (Coordinator.rename_keeps runs.ran).1

theorem does_announces (does : Does s deed next) (new : deed.announces id = true)
    (found : next.site.record id = some record) : record.Stands none := by
  cases does with
  | move step =>
    obtain ⟨fresh,announced⟩ := Option.isSome_iff_exists.mp new
    obtain ⟨_,_,_,_,_,rfl⟩ := announced_fresh announced
    cases found.symm.trans ((step_change step id).fresh announced)
    exact ⟨rfl,rfl,rfl⟩
  | tend | setUp | claim | rename => cases new

-- Every application that is known has been announced, and of the claims since then at most one got
-- past its first step. Where it stopped is where the application stands; without one it stands on
-- the ground.
theorem provisioning_ladder (run : Run {} deeds s) (orderly : ∀ deed ∈ deeds, deed.Orderly)
    (found : s.site.record id = some record) :
    ∃ before announcement after reached, deeds = before ++ announcement :: after ∧
      announcement.announces id = true ∧ (∀ deed ∈ after, deed.announces id = false) ∧
      after.filterMap (·.reaches id) = reached.toList ∧ record.Stands reached := by
  -- Over the deeds. An announcement begins anew; any other deed goes on from where the record stood
  -- before it, and can let a claim through only if none had been.
  induction run generalizing record with
  | nothing => cases found
  | @deed deeds s deed next run does ih =>
    have earlier : ∀ deed ∈ deeds, deed.Orderly :=
      fun deed member => orderly deed (List.mem_append_left _ member)
    cases new : deed.announces id with
    | true =>
      refine ⟨deeds,deed,[],none,rfl,new,?_,rfl,does_announces does new found⟩
      intro other member
      cases member
    | false =>
      obtain ⟨old,known,stood⟩ :=
        does_climbs run earlier does (orderly deed (by simp)) new record found
      obtain ⟨before,announcement,after,reached,rfl,announces,others,rungs,stands⟩ :=
        ih earlier known
      have quiet : ∀ other ∈ after ++ [deed], other.announces id = false := by
        intro other member
        rcases List.mem_append.mp member with old | last
        · exact others other old
        · rw [List.mem_singleton.mp last]
          exact new
      have split : before ++ announcement :: after ++ [deed] =
          before ++ announcement :: (after ++ [deed]) := by simp
      rcases stood reached stands with ⟨stays,stands⟩ | ⟨rfl,rises,stands⟩
      · refine ⟨before,announcement,after ++ [deed],reached,split,announces,quiet,?_,stands⟩
        simp [rungs,stays]
      · refine ⟨before,announcement,after ++ [deed],deed.reaches id,split,announces,quiet,?_,
          stands⟩
        obtain ⟨rung,risen⟩ := Option.isSome_iff_exists.mp rises
        simp [rungs,risen]

end Scene

-- What may be asked for.
def Errand.Orderly : Errand → Prop
  | .ask operation => Deed.Orderly (.moved (.performed operation .done))
  | .setUp _ setup => ∀ approver, setup.approver = some approver → Approver.Quiet approver
  | .tend _ _ | .claim _ _ | .rename _ _ => True

namespace Stage

theorem attend_orderly {stage : Stage} (attended : stage.attend depth errand = some (deed,next))
    (orderly : errand.Orderly) : deed.Orderly := by
  cases errand with
  | ask operation =>
    obtain ⟨_,_,same⟩ := Option.map_eq_some_iff.mp attended
    cases same
    cases operation with
    | _ => exact orderly
  | tend registry act =>
    cases Option.some.inj attended
    trivial
  | setUp name setup =>
    obtain ⟨_,_,same⟩ := Option.map_eq_some_iff.mp attended
    cases same
    exact orderly
  | claim name app | rename name userName =>
    obtain ⟨_,_,asked⟩ := Option.bind_eq_some_iff.mp attended
    obtain ⟨_,_,same⟩ := Option.map_eq_some_iff.mp asked
    cases same
    trivial

theorem attendAll_orderly {stage : Stage} {errands : List Errand}
    (attended : stage.attendAll depth errands = some (deeds,last))
    (orderly : ∀ errand ∈ errands, errand.Orderly) : ∀ deed ∈ deeds, deed.Orderly := by
  induction errands generalizing stage deeds with
  | nil =>
    cases Option.some.inj attended
    intro deed member
    cases member
  | cons errand rest ih =>
    obtain ⟨⟨first,next⟩,attending,remaining⟩ := Option.bind_eq_some_iff.mp attended
    obtain ⟨⟨more,_⟩,attended,same⟩ := Option.map_eq_some_iff.mp remaining
    cases same
    intro deed member
    rcases List.mem_cons.mp member with rfl | later
    · exact attend_orderly attending (orderly errand List.mem_cons_self)
    · exact ih attended (fun other among => orderly other (List.mem_cons_of_mem _ among)) deed later

end Stage

namespace Sample

theorem staged_orderly (stage : Stage) (errands : List Errand)
    (orderly : ∀ errand ∈ errands, errand.Orderly) :
    ∀ deed ∈ (staged stage errands).1, deed.Orderly := by
  unfold staged
  cases attended : stage.attendAll 2 errands with
  | none => intro deed member; cases member
  | some result => exact Stage.attendAll_orderly attended orderly

def answering : Setup Approver Listener :=
  ⟨"alice",some (.registry "main"),some (asking [] true),none⟩

-- The lamp is claimed as far as its guild; then the policy could be installed, but the lamp is not
-- claimable any more.
def provisioning : List Errand :=
  [.setUp "steward" answering,.ask (.announce lamp ⟨[0]⟩),
    .ask (.setFault .installPolicy .noApprover),.claim "steward" lamp,
    .ask (.clearFault .installPolicy),.claim "steward" lamp]

def half : Record where
  app := { lamp with claimState := .claimed }
  manifest := ⟨[0]⟩
  owner := some Guid.reserved
  memberships := [Guid.reserved]

theorem provisioning_orderly : ∀ errand ∈ provisioning, errand.Orderly := by
  intro errand member
  unfold provisioning at member
  simp only [List.mem_cons,List.not_mem_nil,or_false] at member
  rcases member with rfl | rfl | rfl | rfl | rfl | rfl
  · rintro _ ⟨⟩ app manifest
    trivial
  · trivial
  · trivial
  · trivial
  · trivial
  · trivial

theorem lamp_provisioned :
    ∃ deeds s, Scene.Run {} deeds s ∧ deeds.length = 6 ∧ (∀ deed ∈ deeds, deed.Orderly) ∧
      s.site.record lamp.id = some half ∧
      ∃ before announcement after reached, deeds = before ++ announcement :: after ∧
        announcement.announces lamp.id = true ∧
        (∀ deed ∈ after, deed.announces lamp.id = false) ∧
        after.filterMap (·.reaches lamp.id) = reached.toList ∧ half.Stands reached := by
  obtain ⟨past,run⟩ := staged_run {} provisioning []
  have orderly := staged_orderly {} provisioning provisioning_orderly
  have six : (staged {} provisioning).1.length = 6 := by decide +kernel
  have found : ((staged {} provisioning).2.scene past).site.record lamp.id = some half := by
    rw [Stage.scene_site]
    decide +kernel
  exact ⟨_,_,run,six,orderly,found,Scene.provisioning_ladder run orderly found⟩

end Sample

end Custody
