import Custody.Proofs.ChangeLog
import Custody.Proofs.Founding

-- Who is asked about claims, and who is told of events. Setting a coordinator up registers both
-- before it looks for a guild and an identity, and no registration is ever taken back. So what is
-- left of an attempt that fails depends on the stage at which it does: nothing up to the key store,
-- and after that an approver who is asked from then on and a listener who is told from then on.

namespace Custody

-- The approver that a move registers.
def Move.appoints : Move → Option Approver
  | .performed (.setApprover approver) _ => some approver
  | _ => none

-- Who is asked and who is told.
def Site.callbacks (site : Site) : Option Approver × List Listener := (site.approver,site.listeners)

-- The same after a move.
def Move.rewires (move : Move) (site : Site) : Option Approver × List Listener :=
  (move.appoints.or site.approver,site.listeners ++ move.registered)

theorem rewires_nothing {move : Move} (appoints : move.appoints = none)
    (registers : move.registered = []) (site : Site) : move.rewires site = site.callbacks := by
  rw [Move.rewires,appoints,registers,List.append_nil]
  rfl

namespace Site

theorem deliver_callbacks (site : Site) (event : Event) :
    (site.deliver event).callbacks = site.callbacks := by
  obtain ⟨registries,recorders,views,only⟩ := site.deliver_only event
  rw [only]
  rfl

theorem after_callbacks (site : Site) (change : Option (Event × Fleet)) :
    (site.after change).callbacks = site.callbacks := by
  cases change with
  | none => rfl
  | some change => exact deliver_callbacks _ _

end Site

namespace Moment

theorem perform_callbacks {site after : Site} {operation : Operation} {outcome : Outcome}
    (ran : operation.perform 0 site = some (outcome,after)) :
    after.callbacks = (Move.performed operation outcome).rewires site := by
  cases operation with
  | setApprover approver =>
    cases Option.some.inj ran
    exact Prod.ext rfl (List.append_nil _).symm
  | addListener listener =>
    cases Option.some.inj ran
    cases listener with
    | registry | recorder => rfl
  | claim app identity =>
    obtain ⟨refusal,_,refused⟩ := perform_claim ran
    obtain ⟨fleet,_,rfl⟩ := Site.beginClaim_error refused
    exact (rewires_nothing rfl rfl site).symm
  | announce app manifest =>
    cases Option.some.inj ran
    exact (Site.after_callbacks _ _).trans (rewires_nothing rfl rfl site).symm
  | setRunning id state =>
    cases Option.some.inj ran
    exact (Site.after_callbacks _ _).trans (rewires_nothing rfl rfl site).symm
  | _ =>
    cases Option.some.inj ran
    exact (rewires_nothing rfl rfl site).symm

theorem step_callbacks (step : Step m move next) : next.site.callbacks = move.rewires m.site := by
  cases step with
  | perform asked ran => exact perform_callbacks ran
  | begin asked begun claim same =>
    obtain ⟨record,fleet,_,_,_,_,_,_,after⟩ := began_found (.begin asked begun claim same)
    rw [after]
    exact (Site.deliver_callbacks _ _).trans (rewires_nothing rfl rfl _).symm
  | note waits => exact (rewires_nothing rfl rfl _).symm
  | decide waits ended =>
    rw [Site.endClaim_after ended]
    exact (Site.after_callbacks _ _).trans (rewires_nothing rfl rfl _).symm

-- Whatever moves follow, the approver is the one that was registered last, and no listener has
-- gone.
theorem leads_callbacks (leads : Leads m next) :
    ∃ since, next.past = m.past ++ since ∧
      next.site.approver = (latest Move.appoints since).or m.site.approver ∧
      next.site.listeners = m.site.listeners ++ since.flatMap Move.registered := by
  induction leads with
  | refl => exact ⟨[],(List.append_nil _).symm,rfl,(List.append_nil _).symm⟩
  | tail _ last ih =>
    obtain ⟨move,step⟩ := last
    obtain ⟨since,past,approver,listeners⟩ := ih
    have rewired := step_callbacks step
    refine ⟨since ++ [move],?_,?_,?_⟩
    · rw [step_past step,past,List.append_assoc]
    · rw [latest_concat,Option.or_assoc,← approver]
      exact congrArg Prod.fst rewired
    · rw [List.flatMap_append,List.flatMap_singleton,← List.append_assoc,← listeners]
      exact congrArg Prod.snd rewired

end Moment

-- A site that has an approver and listeners, with what that means for all that happens from there
-- on: claims ask the approver until another one is registered, and events are told to the listeners
-- and to those who are registered later.
structure Site.Heeds (site : Site) (approver : Option Approver) (listeners : List Listener) :
    Prop where
  asked : site.approver = approver
  told : site.listeners = listeners
  later : ∀ {past m}, Moment.Leads ⟨site,[],past⟩ m → ∃ since, m.past = past ++ since ∧
    (∀ {claim after}, m.Step (.began claim) after →
      (latest Move.appoints since).or approver = some claim.shown.approver) ∧
    ∀ fleet event, { m.site with fleet }.deliver event =
      (listeners ++ since.flatMap Move.registered).foldl (Site.tell event) { m.site with fleet }

theorem Site.heeds_self (site : Site) : site.Heeds site.approver site.listeners := by
  refine ⟨rfl,rfl,fun {past m} leads => ?_⟩
  obtain ⟨since,past,approver,listeners⟩ := Moment.leads_callbacks leads
  refine ⟨since,past,fun step => ?_,fun fleet event => ?_⟩
  · obtain ⟨_,_,_,_,_,_,asked,_⟩ := began_found step
    exact approver.symm.trans asked
  · rw [← listeners]
    rfl

-- Whether setting up fails at a stage at which approver and listener have been registered already.
def Failure.late : Failure → Bool
  | .setup .openKeyStore _ => false
  | .setup _ _ => true
  | _ => false

namespace Coordinator

-- A stage that calls nothing but the fleet, and whose failures are all late or all early.
def Stays (start : Site) (late : Bool) (result : Except Failure α) (next : Site) : Prop :=
  next.callbacks = start.callbacks ∧ ∀ failure, result = .error failure → failure.late = late

theorem call_stays (act : Fleet → α × Fleet) (start : Site) :
    (Course.call act).Ends start fun _ next => next.callbacks = start.callbacks :=
  Course.ends_call rfl rfl

theorem openStore_stays (depth : Nat) (store : Option KeyStore) (start : Site) :
    Course.Ends (openStore (Site.transport depth) store) start (Stays start false) := by
  cases store with
  | none => exact Course.ends_pure ⟨rfl,nofun⟩
  | some store =>
    apply (call_stays _ start).bind
    intro opened next same
    cases opened with
    | ok => exact Course.ends_pure ⟨same,nofun⟩
    | error refusal =>
      refine Course.ends_pure ⟨same,fun failure failed => ?_⟩
      cases failed
      rfl

theorem resolve_stays {load : Fleet → Except Refusal ν × Fleet}
    {create : Fleet → Except Refusal Unit × Fleet} {loading creating : SetupStage}
    (loads : ∀ refusal, (Failure.setup loading refusal).late = true)
    (creates : ∀ refusal, (Failure.setup creating refusal).late = true) (value : ν) (start : Site) :
    (resolve (Course.call load) (Course.call create) value loading creating).Ends start
      (Stays start true) := by
  apply (call_stays load start).bind
  intro loaded middle came
  cases loaded with
  | ok found => exact Course.ends_pure ⟨came,nofun⟩
  | error refusal =>
    dsimp only
    split
    · apply (call_stays create middle).bind
      intro created next made
      cases created with
      | ok => exact Course.ends_pure ⟨made.trans came,nofun⟩
      | error refusal =>
        refine Course.ends_pure ⟨made.trans came,fun failure failed => ?_⟩
        cases failed
        exact creates refusal
    · refine Course.ends_pure ⟨came,fun failure failed => ?_⟩
      cases failed
      exact loads refusal

theorem resolveGuild_stays (depth : Nat) (start : Site) :
    Course.Ends (resolveGuild (Site.transport depth)) start (Stays start true) := by
  rw [resolveGuild_resolve]
  exact resolve_stays (fun _ => rfl) (fun _ => rfl) _ start

theorem resolveIdentity_stays (depth : Nat) (userName : String) (start : Site) :
    Course.Ends (resolveIdentity (Site.transport depth) userName) start (Stays start true) := by
  rw [resolveIdentity_resolve]
  exact resolve_stays (fun _ => rfl) (fun _ => rfl) _ start

-- What a failure leaves registered.
inductive Abandoned (setup : Setup Approver Listener) (start : Site) (failure : Failure)
    (next : Site) : Prop where
  | early (early : failure.late = false) (same : next.callbacks = start.callbacks) :
      Abandoned setup start failure next
  | late (late : failure.late = true) (approves : setup.approver = some approver)
      (listens : setup.listener = some listener)
      (joined : next.callbacks = (some approver,start.listeners ++ [listener])) :
      Abandoned setup start failure next

theorem create_abandoned (depth : Nat) (setup : Setup Approver Listener) (start : Site) :
    Course.Ends (create (Site.transport depth) setup) start fun result next =>
      ∀ failure, result = .error failure → Abandoned setup start failure next := by
  unfold create
  rcases checked_cases setup with ⟨text,checked,_⟩ | ⟨listener,approver,checked,listens,approves⟩
  · rw [checked]
    refine Course.ends_pure fun failure failed => ?_
    cases failed
    exact .early rfl rfl
  · rw [checked]
    apply (openStore_stays depth setup.keyStore start).bind
    intro opened site stays
    obtain ⟨opening,early⟩ := stays
    cases opened with
    | error failure =>
      refine Course.ends_pure fun failure failed => ?_
      cases failed
      exact .early (early _ rfl) opening
    | ok opened =>
      cases opened
      -- From here on approver and listener are registered, and every failure is a late one.
      apply Course.ends_after
      apply Course.ends_after
      have registered : ((site.setApprover approver).addListener listener).callbacks =
          (some approver,start.listeners ++ [listener]) := by
        rw [← show site.listeners = start.listeners from congrArg Prod.snd opening]
        cases listener with
        | registry | recorder => rfl
      apply (resolveGuild_stays depth _).bind
      intro loaded middle stays
      obtain ⟨founding,late⟩ := stays
      have founded := founding.trans registered
      cases loaded with
      | error failure =>
        refine Course.ends_pure fun failure failed => ?_
        cases failed
        exact .late (late _ rfl) approves listens founded
      | ok guild =>
        apply (resolveIdentity_stays depth setup.userName middle).bind
        intro known next stays
        obtain ⟨admitting,late⟩ := stays
        cases known with
        | ok identity => exact Course.ends_pure nofun
        | error failure =>
          refine Course.ends_pure fun failure failed => ?_
          cases failed
          exact .late (late _ rfl) approves listens (admitting.trans founded)

-- What a coordinator is that has been set up, and what that leaves registered.
theorem create_made {depth : Nat} {setup : Setup Approver Listener} {start next : Site}
    {coordinator : Coordinator}
    (ran : create (Site.transport depth) setup start = some (.ok coordinator,next)) :
    coordinator.userName = coordinator.identity.name ∧
      ∃ approver listener, setup.approver = some approver ∧ setup.listener = some listener ∧
        next.callbacks = (some approver,start.listeners ++ [listener]) := by
  unfold create at ran
  rcases checked_cases setup with ⟨text,checked,_⟩ | ⟨listener,approver,checked,listens,approves⟩
  · rw [checked] at ran
    cases Option.some.inj ran
  · rw [checked] at ran
    obtain ⟨opened,site,opening,ran⟩ := Course.ran_bind ran
    obtain ⟨kept,_⟩ := (openStore_stays depth setup.keyStore start).only opening
    cases opened with
    | error failure => cases Option.some.inj ran
    | ok =>
      have registered : ((site.setApprover approver).addListener listener).callbacks =
          (some approver,start.listeners ++ [listener]) := by
        rw [← show site.listeners = start.listeners from congrArg Prod.snd kept]
        cases listener with
        | registry | recorder => rfl
      obtain ⟨_,_,appointing,ran⟩ := Course.ran_bind ran
      cases Option.some.inj appointing
      obtain ⟨_,_,listening,ran⟩ := Course.ran_bind ran
      cases Option.some.inj listening
      obtain ⟨guild,_,founding,ran⟩ := Course.ran_bind ran
      obtain ⟨founded,_⟩ := (resolveGuild_stays depth _).only founding
      cases guild with
      | error failure => cases Option.some.inj ran
      | ok guild =>
        obtain ⟨identity,_,admitting,ran⟩ := Course.ran_bind ran
        obtain ⟨admitted,_⟩ := (resolveIdentity_stays depth setup.userName _).only admitting
        cases identity with
        | error failure => cases Option.some.inj ran
        | ok identity =>
          cases Option.some.inj ran
          exact ⟨rfl,approver,listener,approves,listens,
            admitted.trans (founded.trans registered)⟩

-- At every site and with every setup, an attempt to set a coordinator up that fails before anything
-- is registered leaves the callbacks as they were, for all that follows. One that fails after that
-- leaves its approver in the place of the earlier one and its listener behind the earlier ones.
theorem failed_setup_callbacks {depth : Nat} {setup : Setup Approver Listener} {start next : Site}
    {failure : Failure}
    (failed : create (Site.transport depth) setup start = some (.error failure,next)) :
    (failure.late = false → next.Heeds start.approver start.listeners) ∧
    (failure.late = true → ∃ approver listener, setup.approver = some approver ∧
      setup.listener = some listener ∧
      next.Heeds (some approver) (start.listeners ++ [listener])) := by
  have heeds {approver : Option Approver} {listeners : List Listener}
      (same : next.callbacks = (approver,listeners)) : next.Heeds approver listeners := by
    obtain ⟨asked,told⟩ := Prod.mk.inj same
    rw [← asked,← told]
    exact next.heeds_self
  cases (create_abandoned depth setup start).only failed failure rfl with
  | early early same =>
    refine ⟨fun _ => heeds same,fun late => ?_⟩
    rw [early] at late
    cases late
  | late late approves listens joined =>
    refine ⟨fun early => ?_,fun _ => ⟨_,_,approves,listens,heeds joined⟩⟩
    rw [late] at early
    cases early

end Coordinator

namespace Sample

-- A site at which a call is set to fail. Nobody may claim anything there, by the word of an
-- approver who was registered first.
def guarded (call : Call) : Site :=
  (staged {} [.ask (.setApprover (asking [] false)),.ask (.addListener (.recorder "first")),
    .ask (.announce lamp ⟨[0]⟩),.ask (.setFault call (.broken "locked"))]).2.site

def newcomer : Setup Approver Listener :=
  ⟨"bob",some (.recorder "second"),some (asking [] true),some ⟨"/keys","bob","secret"⟩⟩

theorem newcomer_abandoned :
    (∃ next, Coordinator.create (Site.transport 1) newcomer (guarded .openKeyStore) =
        some (.error (.setup .openKeyStore (.broken "locked")),next) ∧
      next.Heeds (some (asking [] false)) [.recorder "first"]) ∧
    ∃ next, Coordinator.create (Site.transport 1) newcomer (guarded .createIdentity) =
        some (.error (.setup .createIdentity (.broken "locked")),next) ∧
      next.Heeds newcomer.approver [.recorder "first",.recorder "second"] := by
  constructor
  · have failed : Coordinator.create (Site.transport 1) newcomer (guarded .openKeyStore) =
        some (.error (.setup .openKeyStore (.broken "locked")),_) := rfl
    exact ⟨_,failed,(Coordinator.failed_setup_callbacks failed).1 rfl⟩
  · have failed : Coordinator.create (Site.transport 1) newcomer (guarded .createIdentity) =
        some (.error (.setup .createIdentity (.broken "locked")),_) := rfl
    obtain ⟨_,_,approves,listens,heeds⟩ := (Coordinator.failed_setup_callbacks failed).2 rfl
    cases Option.some.inj approves
    cases Option.some.inj listens
    exact ⟨_,failed,heeds⟩

-- The guild cannot be loaded, so no coordinator is set up. But then the lamp can be claimed, and of
-- that the newcomer is told.
theorem abandoned_callbacks_replaced :
    ∃ failure next, Coordinator.create (Site.transport 1) newcomer (guarded .getGuild) =
        some (.error failure,next) ∧
      next.approver ≠ (guarded .getGuild).approver ∧
      next.listeners ≠ (guarded .getGuild).listeners := by
  refine ⟨_,_,rfl,fun same => ?_,by decide⟩
  have answers := congrArg (Option.map fun approver : Approver => approver lamp ⟨[0]⟩) same
  cases answers

end Sample

end Custody
