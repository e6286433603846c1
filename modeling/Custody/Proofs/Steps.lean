import Custody.Proofs.Attempt
import Custody.Proofs.Integrity

-- Claims by coordinators, one step after another, whatever is set to fail. With an approver that
-- only answers, what stands at the site when a claim begins decides how far it gets: every step
-- that is set to fail stops it there, and nothing else stops it but an application that cannot be
-- had.

namespace Custody

namespace ClaimStep

-- The steps in their order, and the calls that they are.
def all : List ClaimStep := [.claim,.installMembership,.installPolicy]

def call : ClaimStep → Call
  | .claim => .claim
  | .installMembership => .installMembership
  | .installPolicy => .installPolicy

theorem mem_all (step : ClaimStep) : step ∈ all := by
  cases step with
  | claim | installMembership | installPolicy => simp [all]

end ClaimStep

namespace Coordinator

section

variable {m : Type → Type} [Monad m] {Approver Listener : Type}

def ask (transport : Transport m Approver Listener) (coordinator : Coordinator)
    (app : Application) : ClaimStep → m (Except Refusal Unit)
  | .claim => transport.claim app coordinator.identity
  | .installMembership => transport.installMembership app coordinator.guild
  | .installPolicy => transport.installPolicy app (Policy.forGuilds [coordinator.guild])

-- Steps in turn, up to the first that is refused.
def askAll (transport : Transport m Approver Listener) (coordinator : Coordinator)
    (app : Application) : List ClaimStep → m (Except Failure Unit)
  | [] => pure (.ok ())
  | step :: rest => do
    match ← coordinator.ask transport app step with
    | .error refusal => pure (.error (.claim app.id step refusal))
    | .ok () => askAll transport coordinator app rest

theorem claim_askAll (transport : Transport m Approver Listener) (coordinator : Coordinator)
    (app : Application) :
    coordinator.claim transport app = coordinator.askAll transport app ClaimStep.all := rfl

end

-- Of an application nothing but its id matters.
theorem claim_snapshot (coordinator : Coordinator) (depth : Nat) {app other : Application}
    (same : other.id = app.id) :
    coordinator.claim (Site.transport depth) other =
      coordinator.claim (Site.transport depth) app := by
  have within : Site.claimWithin depth other coordinator.identity =
      Site.claimWithin depth app coordinator.identity := by
    funext site
    unfold Site.claimWithin
    rw [same]
  simp only [claim,Site.transport,within,same]

end Coordinator

-- Whether an application can be had: it is claimable, and the approver says yes to what it is
-- shown.
def Site.Accepts (site : Site) (id : ApplicationId) : Prop :=
  ∃ record approver, site.record id = some record ∧ record.app.claimState = .claimable ∧
    site.approver = some approver ∧ (approver record.marked.app record.manifest).verdict = true

-- Why a step is refused. What a step is set to fail with comes first.
inductive Hindered (site : Site) (id : ApplicationId) : ClaimStep → Refusal → Prop where
  | injected (set : site.fleet.faults step.call = some refusal) : Hindered site id step refusal
  | unknown (clear : site.fleet.faults .claim = none) (absent : site.record id = none) :
      Hindered site id .claim (.unknownApplication id)
  | taken (clear : site.fleet.faults .claim = none) (found : site.record id = some record)
      (taken : record.app.claimState ≠ .claimable) :
      Hindered site id .claim (.notClaimable id record.app.claimState)
  | rejected (clear : site.fleet.faults .claim = none) (found : site.record id = some record)
      (free : record.app.claimState = .claimable) (asked : site.approver = some approver)
      (verdict : (approver record.marked.app record.manifest).verdict = false) :
      Hindered site id .claim (.manifestRejected id)

theorem Hindered.unaccepted {site : Site} {id : ApplicationId}
    (hindered : Hindered site id step refusal) (clear : site.fleet.faults step.call = none) :
    ¬site.Accepts id := by
  rintro ⟨record,approver,found,free,asked,verdict⟩
  cases hindered with
  | injected set => cases clear.symm.trans set
  | unknown _ absent => cases absent.symm.trans found
  | taken _ known taken =>
    cases known.symm.trans found
    exact taken free
  | rejected _ known _ registered rejected =>
    cases known.symm.trans found
    cases registered.symm.trans asked
    cases rejected.symm.trans verdict

-- What only a fault can be to blame for: a step after the first, something that is not found, and
-- nobody to ask.
theorem Hindered.faulty {site : Site} {id : ApplicationId}
    (hindered : Hindered site id step refusal)
    (odd : step ≠ .claim ∨ refusal.isNotFound = true ∨ refusal = .noApprover) :
    site.fleet.faults step.call = some refusal := by
  cases hindered with
  | injected set => exact set
  | unknown | taken | rejected => simp [Refusal.isNotFound] at odd

-- Steps that are granted one after another.
inductive Passes (ask : ClaimStep → Course (Except Refusal Unit)) :
    List ClaimStep → Site → Site → Prop where
  | nothing : Passes ask [] site site
  | step (granted : ask step site = some (.ok (),middle)) (rest : Passes ask steps middle after) :
      Passes ask (step :: steps) site after

-- A step that is refused, and those before it that were granted.
structure Stopped (ask : ClaimStep → Course (Except Refusal Unit)) (id : ApplicationId)
    (steps : List ClaimStep) (site : Site) (done : List ClaimStep) (step : ClaimStep)
    (refusal : Refusal) (after : Site) : Prop where
  order : done ++ [step] <+: steps
  refused : ∃ middle, Passes ask done site middle ∧ ask step middle = some (.error refusal,after)
  logged : after.fleet.calls = site.fleet.calls ++ (done ++ [step]).map ClaimStep.call
  cause : Hindered site id step refusal

-- What comes of steps.
inductive Came (ask : ClaimStep → Course (Except Refusal Unit)) (id : ApplicationId)
    (steps : List ClaimStep) (site : Site) : Except Failure Unit → Site → Prop where
  | passed (passes : Passes ask steps site after)
      (logged : after.fleet.calls = site.fleet.calls ++ steps.map ClaimStep.call)
      (clear : ∀ step ∈ steps, site.fleet.faults step.call = none)
      (accepted : .claim ∈ steps → site.Accepts id) : Came ask id steps site (.ok ()) after
  | stopped (stopped : Stopped ask id steps site done step refusal after) :
      Came ask id steps site (.error (.claim id step refusal)) after

-- What an application needs so that nothing but a fault can stop it from being provisioned.
structure Site.Holds (site : Site) (coordinator : Coordinator) (id : ApplicationId) : Prop where
  guild : site.fleet.guilds.contains coordinator.guild.guid = true
  owned : ∃ record, site.record id = some record ∧ record.owner.isSome

-- What comes of one step.
inductive Taken (ask : ClaimStep → Course (Except Refusal Unit)) (coordinator : Coordinator)
    (id : ApplicationId) (step : ClaimStep) (site : Site) : Prop where
  | granted (asked : ask step site = some (.ok (),middle))
      (logged : middle.fleet.calls = site.fleet.calls ++ [step.call])
      (faults : middle.fleet.faults = site.fleet.faults)
      (clear : site.fleet.faults step.call = none)
      (accepted : step = .claim → site.Accepts id) (holds : middle.Holds coordinator id) :
      Taken ask coordinator id step site
  | refused (asked : ask step site = some (.error refusal,after))
      (logged : after.fleet.calls = site.fleet.calls ++ [step.call])
      (cause : Hindered site id step refusal) : Taken ask coordinator id step site

namespace Coordinator

variable {depth : Nat} {coordinator : Coordinator} {app : Application} {site middle : Site}
  {step : ClaimStep} {steps : List ClaimStep}

-- A step that is granted, and what comes of those after it. Of those nothing but a fault has
-- stopped any, and what is set to fail is the same as before.
theorem came_later {ask : ClaimStep → Course (Except Refusal Unit)} {id : ApplicationId}
    (installs : .claim ∉ steps) (asked : ask step site = some (.ok (),middle))
    (logged : middle.fleet.calls = site.fleet.calls ++ [step.call])
    (faults : middle.fleet.faults = site.fleet.faults)
    (clear : site.fleet.faults step.call = none) (accepted : step = .claim → site.Accepts id)
    (came : Came ask id steps middle result after) :
    Came ask id (step :: steps) site result after := by
  cases came with
  | passed passes calls others _ =>
    refine .passed (.step asked passes) ?_ ?_ ?_
    · rw [calls,logged,List.append_assoc]
      rfl
    · intro other member
      rcases List.mem_cons.mp member with rfl | later
      · exact clear
      · rw [← faults]
        exact others other later
    · intro member
      rcases List.mem_cons.mp member with first | later
      · exact accepted first.symm
      · exact absurd later installs
  | @stopped done halt refusal _ stopped =>
    obtain ⟨order,⟨last,passes,refused⟩,calls,cause⟩ := stopped
    have install : halt ≠ .claim := by
      rintro rfl
      exact installs (order.subset (by simp))
    have set := cause.faulty (.inl install)
    rw [faults] at set
    have further : (step :: done) ++ [halt] <+: step :: steps := (List.prefix_cons_inj _).mpr order
    refine .stopped ⟨further,⟨last,.step asked passes,refused⟩,?_,.injected set⟩
    rw [calls,logged,List.append_assoc]
    rfl

theorem came_steps
    (taken : Taken (coordinator.ask (Site.transport depth) app) coordinator app.id step site)
    (installs : .claim ∉ steps)
    (onwards : ∀ middle : Site, middle.Holds coordinator app.id →
      Course.Ends (coordinator.askAll (Site.transport depth) app steps) middle
        (Came (coordinator.ask (Site.transport depth) app) app.id steps middle)) :
    Course.Ends (coordinator.askAll (Site.transport depth) app (step :: steps)) site
      (Came (coordinator.ask (Site.transport depth) app) app.id (step :: steps) site) := by
  cases taken with
  | @granted middle asked logged faults clear accepted holds =>
    have first : Course.Ends (coordinator.ask (Site.transport depth) app step) site
        fun result after => result = .ok () ∧ after = middle := ⟨_,_,asked,rfl,rfl⟩
    apply first.bind
    rintro _ _ ⟨rfl,rfl⟩
    obtain ⟨result,after,ran,came⟩ := onwards _ holds
    exact ⟨result,after,ran,came_later installs asked logged faults clear accepted came⟩
  | @refused last refusal asked logged cause =>
    have first : Course.Ends (coordinator.ask (Site.transport depth) app step) site
        fun result after => result = .error refusal ∧ after = last := ⟨_,_,asked,rfl,rfl⟩
    apply first.bind
    rintro _ _ ⟨rfl,rfl⟩
    have order : [] ++ [step] <+: step :: steps := ⟨steps,rfl⟩
    exact Course.ends_pure (.stopped ⟨order,⟨site,.nothing,asked⟩,logged,cause⟩)

-- To install something, where there is an owner and the guild is stored, nothing is needed but that
-- it is not set to fail.
theorem install_taken (holds : site.Holds coordinator app.id) (install : step ≠ .claim) :
    Taken (coordinator.ask (Site.transport depth) app) coordinator app.id step site := by
  obtain ⟨guild,record,found,owned⟩ := holds
  cases set : site.fleet.faults step.call with
  | some fault =>
    have refused {body : Fleet → Except Refusal Unit × Fleet} :
        Course.call (fun fleet => fleet.answer step.call body) site =
          some (.error fault,{ site with fleet := site.fleet.received step.call }) := by
      rw [Course.call_ran (by rw [Fleet.answer,set])]
    cases step with
    | claim => exact absurd rfl install
    | installMembership => exact .refused refused rfl (.injected set)
    | installPolicy => exact .refused refused rfl (.injected set)
  | none =>
    cases step with
    | claim => exact absurd rfl install
    | installMembership =>
      exact .granted (Course.call_ran (Fleet.installMembership_done set guild found owned)) rfl rfl
        set (fun same => absurd same install) ⟨guild,_,Keyed.find?_insert_self _ _ _,owned⟩
    | installPolicy =>
      exact .granted (Course.call_ran (Fleet.installPolicy_done set found owned)) rfl rfl
        set (fun same => absurd same install) ⟨guild,_,Keyed.find?_insert_self _ _ _,owned⟩

theorem installs_came (holds : site.Holds coordinator app.id) (installs : .claim ∉ steps) :
    Course.Ends (coordinator.askAll (Site.transport depth) app steps) site
      (Came (coordinator.ask (Site.transport depth) app) app.id steps site) := by
  induction steps generalizing site with
  | nil => exact Course.ends_pure (.passed .nothing (List.append_nil _).symm nofun nofun)
  | cons step rest ih =>
    obtain ⟨install,others⟩ := List.ne_and_not_mem_of_not_mem_cons installs
    exact came_steps (install_taken holds install.symm) others fun middle holds => ih holds others

end Coordinator

-- A site at which a coordinator has been set up: the guild and the identity of the coordinators are
-- stored, and there is somebody to ask.
structure Site.Furnished (site : Site) : Prop where
  guild : site.guild.isSome
  identity : site.identity.isSome
  approver : site.approver.isSome

theorem Moment.step_furnished (step : Step m move next) (furnished : m.site.Furnished) :
    next.site.Furnished := by
  have stores := step_stores step
  refine ⟨stores.guilds.remains _ furnished.guild,
    stores.identities.remains _ furnished.identity,?_⟩
  have asked : next.site.approver = move.appoints.or m.site.approver :=
    congrArg Prod.fst (step_callbacks step)
  rw [asked]
  cases move.appoints with
  | none => exact furnished.approver
  | some approver => rfl

namespace Scene

-- Nothing that a coordinator needs is ever taken away.
theorem run_furnished (run : Run {} deeds s)
    (found : s.coordinators.find? name = some coordinator) : s.site.Furnished := by
  induction run generalizing name coordinator with
  | nothing => cases found
  | @deed deeds s deed next before does ih =>
    have kept (furnished : s.site.Furnished) : next.site.Furnished := by
      refine does_keeps Moment.step_furnished does (fun registry act _ _ => ?_) furnished
      constructor
      · exact (congrArg (·.guilds.find? Guid.reserved |>.isSome)
          (s.moment.tend_fleet registry act)).trans furnished.guild
      · exact (congrArg (·.identities.find? Guid.reserved |>.isSome)
          (s.moment.tend_fleet registry act)).trans furnished.identity
      · rw [Moment.tend_approver]
        exact furnished.approver
    cases does with
    | move | tend | claim => exact kept (ih found)
    | rename known => exact kept (ih known)
    | setUp other runs =>
      rename_i setup result last depth
      cases result with
      | error failure => exact kept (ih found)
      | ok made =>
        obtain ⟨guild,identity⟩ :=
          ((Coordinator.create_ends depth setup _).only runs.ran).stored made rfl
        obtain ⟨_,_,_,_,_,callbacks⟩ := Coordinator.create_made runs.ran
        refine ⟨Option.isSome_of_eq_some guild,Option.isSome_of_eq_some identity,?_⟩
        exact Option.isSome_of_eq_some (congrArg Prod.fst callbacks)

end Scene

namespace Coordinator

variable {coordinator : Coordinator} {site : Site}

theorem claim_taken (furnished : site.Furnished) (quiet : site.Quiet)
    (guild : coordinator.guild.guid = Guid.reserved)
    (identity : coordinator.identity.guid = Guid.reserved) (depth : Nat) (app : Application) :
    Taken (coordinator.ask (Site.transport (depth+1)) app) coordinator app.id .claim site := by
  obtain ⟨result,after,ran,judged⟩ :=
    Site.claimWithin_judged quiet depth app coordinator.identity
  have logged := judged.logged
  have faults := judged.faults
  cases judged with
  | refused refuses =>
    refine .refused ran logged ?_
    cases refuses with
    | fault set => exact .injected set
    | stranger _ absent =>
      have stored := furnished.identity
      rw [Site.identity,← identity,absent] at stored
      cases stored
    | unknown clear _ absent => exact .unknown clear absent
    | taken clear _ found taken => exact .taken clear found taken
    | unattended _ _ _ _ nobody =>
      have attended := furnished.approver
      rw [nobody] at attended
      cases attended
  | @decided record approver approved _ clear found free asked verdict settled =>
    cases approved with
    | false => exact .refused ran logged (.rejected clear found free asked verdict)
    | true =>
      refine .granted ran logged faults clear
        (fun _ => ⟨record,approver,found,free,asked,verdict⟩) ⟨?_,?_⟩
      · rw [settled,guild]
        exact furnished.guild
      · unfold Site.record
        rw [settled]
        exact ⟨_,Keyed.find?_insert_self _ _ _,rfl⟩

end Coordinator

namespace Scene

-- In every run, also while claims wait, a coordinator that claims an application with an approver
-- that only answers comes to a result, whatever is set to fail, and of the application nothing but
-- its id matters. The claim is granted if and only if none of its steps is set to fail, and the
-- application is claimable and accepted. If it is not, it stops at the first step that is refused,
-- for the reason of that refusal; and a fault alone can be to blame for a later step, for something
-- that is not found, and for there being nobody to ask.
theorem claim_outcome (run : Run {} deeds s)
    (found : s.coordinators.find? name = some coordinator) (quiet : s.site.Quiet) (depth : Nat)
    (app : Application) :
    ∃ result after, coordinator.claim (Site.transport (depth+1)) app s.site = some (result,after) ∧
      (∀ other : Application, other.id = app.id →
        coordinator.claim (Site.transport (depth+1)) other s.site = some (result,after)) ∧
      (result = .ok () ↔
        (∀ step : ClaimStep, s.site.fleet.faults step.call = none) ∧ s.site.Accepts app.id) ∧
      (result = .ok () →
        after.fleet.calls = s.site.fleet.calls ++ ClaimStep.all.map ClaimStep.call) ∧
      ∀ failure, result = .error failure → ∃ done step refusal,
        failure = .claim app.id step refusal ∧
        Stopped (coordinator.ask (Site.transport (depth+1)) app) app.id ClaimStep.all s.site
          done step refusal after ∧
        (step ≠ .claim ∨ refusal.isNotFound = true ∨ refusal = .noApprover →
          s.site.fleet.faults step.call = some refusal) := by
  obtain ⟨guild,identity⟩ := run_reserved run found
  have furnished := run_furnished run found
  have taken := Coordinator.claim_taken furnished quiet guild identity depth app
  have installs : .claim ∉ [ClaimStep.installMembership,.installPolicy] := by decide
  obtain ⟨result,after,ran,came⟩ := Coordinator.came_steps taken installs
    fun middle holds => Coordinator.installs_came holds installs
  have claims : coordinator.claim (Site.transport (depth+1)) app s.site = some (result,after) := by
    rw [Coordinator.claim_askAll]
    exact ran
  refine ⟨result,after,claims,fun other same => ?_,?_⟩
  · rw [coordinator.claim_snapshot _ same]
    exact claims
  · cases came with
    | passed passes logged clear accepted =>
      have clears : ∀ step : ClaimStep, s.site.fleet.faults step.call = none :=
        fun step => clear step step.mem_all
      exact ⟨⟨fun _ => ⟨clears,accepted (ClaimStep.mem_all _)⟩,fun _ => rfl⟩,fun _ => logged,nofun⟩
    | stopped stopped =>
      refine ⟨⟨nofun,fun ⟨clear,accepts⟩ => ?_⟩,nofun,fun failure same => ?_⟩
      · exact absurd accepts (stopped.cause.unaccepted (clear _))
      · cases same
        exact ⟨_,_,_,rfl,stopped,stopped.cause.faulty⟩

end Scene

namespace Sample

-- The lamp could be claimed, but no policy can be installed.
def stalling : List Errand :=
  [.setUp "steward" answering,.ask (.announce lamp ⟨[0]⟩),
    .ask (.setFault .installPolicy .noApprover)]

-- The lamp as it is remembered by somebody who looked at it long ago.
def oldLamp : Application := { lamp with name := "Oil lamp", claimState := .unclaimable }

theorem lamp_stalled :
    ∃ deeds s coordinator after, Scene.Run {} deeds s ∧
      s.coordinators.find? "steward" = some coordinator ∧ s.site.Quiet ∧
      coordinator.claim (Site.transport 1) oldLamp s.site =
        some (.error (.claim lamp.id .installPolicy .noApprover),after) ∧
      Stopped (coordinator.ask (Site.transport 1) oldLamp) lamp.id ClaimStep.all s.site
        [.claim,.installMembership] .installPolicy .noApprover after ∧
      s.site.fleet.faults .installPolicy = some .noApprover := by
  obtain ⟨past,run⟩ := staged_run {} stalling []
  let steward : Coordinator := ⟨Guild.reserved,alice,"alice"⟩
  have kept : (staged {} stalling).2.coordinators.find? "steward" = some steward := by
    decide +kernel
  have quiet : ((staged {} stalling).2.scene past).site.Quiet := by
    rintro _ ⟨⟩ app manifest
    trivial
  have stalls : (steward.claim (Site.transport 1) oldLamp (staged {} stalling).2.site).any
      (·.1 = .error (.claim lamp.id .installPolicy .noApprover)) = true := by
    decide +kernel
  obtain ⟨⟨result,after⟩,claims,failed⟩ := (Option.any_eq_true _ _).mp stalls
  cases of_decide_eq_true failed
  obtain ⟨_,_,ran,_,_,_,stops⟩ := Scene.claim_outcome run kept quiet 0 oldLamp
  cases Option.some.inj (ran.symm.trans claims)
  obtain ⟨done,_,_,⟨⟩,stopped,faulty⟩ := stops _ rfl
  have first : done = [.claim,.installMembership] := by
    obtain ⟨rest,order⟩ := stopped.order
    rcases done with _ | ⟨_,_ | ⟨_,_ | ⟨_,_⟩⟩⟩ <;> simp_all [ClaimStep.all]
  subst first
  exact ⟨_,_,steward,after,run,kept,quiet,claims,stopped,faulty (.inr (.inr rfl))⟩

end Sample

end Custody
