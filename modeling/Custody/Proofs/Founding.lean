import Custody.Proofs.Scene
import Custody.Proofs.Stores

-- What setting a coordinator up comes to. Its guild and its identity are loaded if they are stored
-- and created if they are not, so each is created once, whatever order of attempts and faults led
-- there; and where nothing is set to fail, whatever earlier attempts left behind is enough.

namespace Custody

-- A course that comes to a result, with what holds of the result and of the site it leaves behind.
def Course.Ends (course : Course α) (start : Site) (held : α → Site → Prop) : Prop :=
  ∃ result next, course start = some (result,next) ∧ held result next

namespace Course

theorem ends_pure {held : α → Site → Prop} (holds : held result start) :
    Ends (pure result) start held := ⟨result,start,rfl,holds⟩

theorem ends_call {act : Fleet → α × Fleet} {held : α → Site → Prop}
    (answered : act start.fleet = (result,fleet)) (holds : held result { start with fleet }) :
    Ends (call act) start held := ⟨result,{ start with fleet },call_ran answered,holds⟩

theorem Ends.bind {course : Course α} {rest : α → Course β} {middle : α → Site → Prop}
    (first : course.Ends start middle)
    (onwards : ∀ result site, middle result site → (rest result).Ends site held) :
    (course >>= rest).Ends start held := by
  obtain ⟨result,site,ran,holds⟩ := first
  obtain ⟨last,next,ended,final⟩ := onwards result site holds
  exact ⟨last,next,Option.bind_eq_some_iff.mpr ⟨_,ran,ended⟩,final⟩

theorem ends_after {act : Site → α × Site} {rest : α → Course β}
    (onwards : (rest (act start).1).Ends (act start).2 held) :
    (step act >>= rest).Ends start held := onwards

-- There is no other result.
theorem Ends.only {course : Course α} (ends : course.Ends start held)
    (ran : course start = some (result,next)) : held result next := by
  obtain ⟨_,_,same,holds⟩ := ends
  cases Option.some.inj (ran.symm.trans same)
  exact holds

end Course

namespace Site

variable {before middle after : Site}

-- The guild and the identity that coordinators are set up with.
def guild (site : Site) : Option Guild := site.fleet.guilds.find? Guid.reserved

def identity (site : Site) : Option Identity := site.fleet.identities.find? Guid.reserved

-- Some kind of call is set to fail.
def Faulty (site : Site) : Prop := ∃ call, (site.fleet.faults call).isSome

-- What the stages of setting a coordinator up leave as it is.
structure Kept (before after : Site) : Prop where
  records : after.fleet.records = before.fleet.records
  faults : after.fleet.faults = before.fleet.faults
  approver : after.approver = before.approver
  guild : ∀ guild, before.guild = some guild → after.guild = some guild
  identity : ∀ identity, before.identity = some identity → after.identity = some identity

theorem kept_received (site : Site) (call : Call) :
    site.Kept { site with fleet := site.fleet.received call } :=
  ⟨rfl,rfl,rfl,fun _ known => known,fun _ known => known⟩

theorem Kept.trans (first : Kept before middle) (last : Kept middle after) :
    Kept before after := by
  constructor
  · rw [last.records,first.records]
  · rw [last.faults,first.faults]
  · rw [last.approver,first.approver]
  · intro guild known
    exact last.guild guild (first.guild guild known)
  · intro identity known
    exact last.identity identity (first.identity identity known)

theorem kept_self (site : Site) : site.Kept site :=
  ⟨rfl,rfl,rfl,fun _ known => known,fun _ known => known⟩

theorem Kept.registering (kept : Kept before after) (approver : Approver) (listener : Listener) :
    { before with approver := some approver }.Kept
      ((after.setApprover approver).addListener listener) := by
  obtain ⟨records,faults,_,guild,identity⟩ := kept
  cases listener with
  | registry | recorder => exact ⟨records,faults,rfl,guild,identity⟩

theorem Kept.faulty (kept : Kept before after) (faulty : after.Faulty) : before.Faulty := by
  obtain ⟨call,fault⟩ := faulty
  exact ⟨call,kept.faults ▸ fault⟩

end Site

namespace Coordinator

-- What comes of loading something that may be stored, of creating it, and of doing both in turn.
structure Loaded (stored : Site → Option ν) (start : Site) (result : Except Refusal ν)
    (next : Site) : Prop where
  kept : start.Kept next
  same : stored next = stored start
  value : ∀ value, result = .ok value → stored start = some value
  refused : ∀ refusal, result = .error refusal →
    start.Faulty ∨ stored start = none ∧ refusal.isNotFound

structure Created (stored : Site → Option ν) (value : ν) (start : Site)
    (result : Except Refusal Unit) (next : Site) : Prop where
  kept : start.Kept next
  made : result = .ok () → stored next = some value
  refused : ∀ refusal, result = .error refusal → start.Faulty ∨ (stored start).isSome

structure Resolved (stored : Site → Option ν) (start : Site) (result : Except Failure ν)
    (next : Site) : Prop where
  kept : start.Kept next
  value : ∀ value, result = .ok value → stored next = some value
  refused : ∀ failure, result = .error failure → start.Faulty

-- A creation is asked for only if there is nothing to load, so it cannot find anything there. If
-- it does, then a fault has pretended that there was nothing.
theorem resolve_ends {stored : Site → Option ν} {load : Course (Except Refusal ν)}
    {create : Course (Except Refusal Unit)} {value : ν} {start : Site}
    (loads : load.Ends start (Loaded stored start))
    (creates : ∀ start, create.Ends start (Created stored value start))
    (loading creating : SetupStage) :
    (resolve load create value loading creating).Ends start (Resolved stored start) := by
  apply loads.bind
  intro loaded middle came
  cases loaded with
  | ok found =>
    refine Course.ends_pure ⟨came.kept,?_,nofun⟩
    rintro value ⟨⟩
    exact came.same.trans (came.value _ rfl)
  | error refusal =>
    dsimp only
    split
    · apply (creates middle).bind
      intro created next made
      have kept := came.kept.trans made.kept
      cases created with
      | ok =>
        refine Course.ends_pure ⟨kept,?_,nofun⟩
        rintro value ⟨⟩
        exact made.made rfl
      | error second =>
        refine Course.ends_pure ⟨kept,nofun,fun _ _ => ?_⟩
        -- It was there after all, so the refusal to load it was a fault.
        rcases made.refused second rfl with faulty | present
        · exact came.kept.faulty faulty
        · rcases came.refused refusal rfl with faulty | ⟨absent,_⟩
          · exact faulty
          · rw [came.same,absent] at present
            cases present
    · rename_i other
      refine Course.ends_pure ⟨came.kept,nofun,fun _ _ => ?_⟩
      rcases came.refused refusal rfl with faulty | ⟨_,missing⟩
      · exact faulty
      · exact absurd missing other

theorem getGuild_loads (start : Site) :
    (Course.call fun fleet => fleet.getGuild Guid.reserved).Ends start
      (Loaded Site.guild start) := by
  rcases start.fleet.getGuild_spec Guid.reserved with
    ⟨guild,known,loaded⟩ | ⟨refusal,refused,cause⟩
  · refine Course.ends_call loaded ⟨start.kept_received _,rfl,?_,nofun⟩
    rintro guild ⟨⟩
    exact known
  · refine Course.ends_call refused ⟨start.kept_received _,rfl,nofun,?_⟩
    rintro refusal ⟨⟩
    exact cause.imp_left fun fault => ⟨_,fault⟩

theorem getIdentity_loads (start : Site) :
    (Course.call fun fleet => fleet.getIdentity Guid.reserved).Ends start
      (Loaded Site.identity start) := by
  rcases start.fleet.getIdentity_spec Guid.reserved with
    ⟨identity,known,loaded⟩ | ⟨refusal,refused,cause⟩
  · refine Course.ends_call loaded ⟨start.kept_received _,rfl,?_,nofun⟩
    rintro identity ⟨⟩
    exact known
  · refine Course.ends_call refused ⟨start.kept_received _,rfl,nofun,?_⟩
    rintro refusal ⟨⟩
    exact cause.imp_left fun fault => ⟨_,fault⟩

theorem createGuild_creates (start : Site) :
    (Course.call fun fleet => fleet.createGuild Guild.reserved).Ends start
      (Created Site.guild Guild.reserved start) := by
  rcases start.fleet.createGuild_spec Guild.reserved with
    ⟨absent,created⟩ | ⟨refusal,refused,cause⟩
  · refine Course.ends_call created ⟨⟨rfl,rfl,rfl,?_,fun _ known => known⟩,fun _ => ?_,nofun⟩
    · intro guild known
      exact absurd (absent.symm.trans known) nofun
    · exact Keyed.find?_insert_self _ _ _
  · refine Course.ends_call refused ⟨start.kept_received _,nofun,fun _ _ => ?_⟩
    exact cause.imp_left fun fault => ⟨_,fault⟩

theorem createIdentity_creates (userName : String) (start : Site) :
    (Course.call fun fleet => fleet.createIdentity ⟨userName,Guid.reserved⟩).Ends start
      (Created Site.identity ⟨userName,Guid.reserved⟩ start) := by
  rcases start.fleet.createIdentity_spec ⟨userName,Guid.reserved⟩ with
    ⟨absent,created⟩ | ⟨refusal,refused,cause⟩
  · refine Course.ends_call created ⟨⟨rfl,rfl,rfl,fun _ known => known,?_⟩,fun _ => ?_,nofun⟩
    · intro identity known
      exact absurd (absent.symm.trans known) nofun
    · exact Keyed.find?_insert_self _ _ _
  · refine Course.ends_call refused ⟨start.kept_received _,nofun,fun _ _ => ?_⟩
    exact cause.imp_left fun fault => ⟨_,fault⟩

theorem resolveGuild_ends (depth : Nat) (start : Site) :
    Course.Ends (resolveGuild (Site.transport depth)) start (Resolved Site.guild start) := by
  rw [resolveGuild_resolve]
  exact resolve_ends (getGuild_loads start) createGuild_creates _ _

theorem resolveIdentity_ends (depth : Nat) (userName : String) (start : Site) :
    Course.Ends (resolveIdentity (Site.transport depth) userName) start
      (Resolved Site.identity start) := by
  rw [resolveIdentity_resolve]
  exact resolve_ends (getIdentity_loads start) (createIdentity_creates userName) _ _

theorem openStore_ends (depth : Nat) (store : Option KeyStore) (start : Site) :
    Course.Ends (openStore (Site.transport depth) store) start fun result next =>
      start.Kept next ∧ ∀ failure, result = .error failure → start.Faulty := by
  cases store with
  | none => exact Course.ends_pure ⟨start.kept_self,nofun⟩
  | some store =>
    have opens : (Course.call fun fleet => fleet.openKeyStore store).Ends start
        fun result next => start.Kept next ∧ ∀ refusal, result = .error refusal → start.Faulty := by
      rcases start.fleet.openKeyStore_spec store with opened | ⟨refusal,refused,fault⟩
      · refine Course.ends_call opened ⟨⟨rfl,rfl,rfl,?_,?_⟩,nofun⟩
        · exact fun _ known => known
        · exact fun _ known => known
      · exact Course.ends_call refused ⟨start.kept_received _,fun _ _ => ⟨_,fault⟩⟩
    apply opens.bind
    rintro opened site ⟨kept,refused⟩
    cases opened with
    | ok => exact Course.ends_pure ⟨kept,nofun⟩
    | error refusal => exact Course.ends_pure ⟨kept,fun _ _ => refused refusal rfl⟩

end Coordinator

-- A setup with all that a coordinator needs.
structure Setup.Proper (setup : Setup Approver Listener) : Prop where
  listener : setup.listener.isSome
  approver : setup.approver.isSome
  named : Text.allBlank setup.userName = false

namespace Coordinator

theorem checked_cases (setup : Setup Approver Listener) :
    (∃ text, checked setup = .error (.invalidConfiguration text) ∧ ¬setup.Proper) ∨
    ∃ listener approver, checked setup = .ok (listener,approver) ∧
      setup.listener = some listener ∧ setup.approver = some approver := by
  unfold checked
  obtain ⟨userName,listener,approver,keyStore⟩ := setup
  cases listener with
  | none => exact .inl ⟨_,rfl,fun proper => nomatch proper.listener⟩
  | some listener =>
    cases approver with
    | none => exact .inl ⟨_,rfl,fun proper => nomatch proper.approver⟩
    | some approver =>
      dsimp only
      split
      · rename_i blank
        exact .inl ⟨_,rfl,fun proper => nomatch blank.symm.trans proper.named⟩
      · exact .inr ⟨listener,approver,rfl,rfl,rfl⟩

-- What comes of setting a coordinator up.
structure Constructed (setup : Setup Approver Listener) (start : Site)
    (result : Except Failure Coordinator) (next : Site) : Prop where
  approver : next.approver = start.approver ∨ next.approver = setup.approver
  kept : { start with approver := next.approver }.Kept next
  stored : ∀ coordinator, result = .ok coordinator →
    next.guild = some coordinator.guild ∧ next.identity = some coordinator.identity
  refused : ∀ failure, result = .error failure → setup.Proper → start.Faulty

theorem constructed_registered {setup : Setup Approver Listener} {start next : Site}
    {approver : Approver} {result : Except Failure Coordinator}
    (given : setup.approver = some approver)
    (kept : { start with approver := some approver }.Kept next)
    (stored : ∀ coordinator, result = .ok coordinator →
      next.guild = some coordinator.guild ∧ next.identity = some coordinator.identity)
    (refused : ∀ failure, result = .error failure → start.Faulty) :
    Constructed setup start result next := by
  refine ⟨.inr (kept.approver.trans given.symm),?_,stored,fun failure same _ => ?_⟩
  · rw [kept.approver]
    exact kept
  · exact refused failure same

theorem create_ends (depth : Nat) (setup : Setup Approver Listener) (start : Site) :
    Course.Ends (create (Site.transport depth) setup) start (Constructed setup start) := by
  unfold create
  rcases checked_cases setup with ⟨text,checked,improper⟩ | ⟨listener,approver,checked,_,given⟩
  · rw [checked]
    exact Course.ends_pure
      ⟨.inl rfl,start.kept_self,nofun,fun _ _ proper => absurd proper improper⟩
  · rw [checked]
    apply (openStore_ends depth setup.keyStore start).bind
    rintro opened site ⟨opening,refused⟩
    cases opened with
    | error failure =>
      refine Course.ends_pure ⟨.inl opening.approver,?_,nofun,fun _ _ _ => refused failure rfl⟩
      rw [opening.approver]
      exact opening
    | ok opened =>
      cases opened
      -- From here on approver and listener are registered, whatever comes of the rest.
      apply Course.ends_after
      apply Course.ends_after
      have registering := opening.registering approver listener
      apply (resolveGuild_ends depth _).bind
      intro loaded middle founding
      have founded := registering.trans founding.kept
      cases loaded with
      | error failure =>
        refine Course.ends_pure (constructed_registered given founded nofun fun _ _ => ?_)
        exact registering.faulty (founding.refused failure rfl)
      | ok guild =>
        apply (resolveIdentity_ends depth setup.userName middle).bind
        intro known next admitting
        have admitted := founded.trans admitting.kept
        cases known with
        | error failure =>
          refine Course.ends_pure (constructed_registered given admitted nofun fun _ _ => ?_)
          exact founded.faulty (admitting.refused failure rfl)
        | ok identity =>
          refine Course.ends_pure (constructed_registered given admitted ?_ nofun)
          rintro coordinator ⟨⟩
          exact ⟨admitting.kept.guild guild (founding.value guild rfl),
            admitting.value identity rfl⟩

end Coordinator

namespace Moment

-- What is stored under an identifier was created once; what is not was never created.
theorem step_counts {guid : ν → Guid} {before after : Keyed Guid ν} {made : Move → Option ν}
    (step : Step m move next) (stored : Stored guid before (made move) revised after) (key : Guid)
    (counted : m.past.countP (fun move => (made move).any (guid · = key)) =
      (before.find? key).isSome.toNat) :
    next.past.countP (fun move => (made move).any (guid · = key)) =
      (after.find? key).isSome.toNat := by
  rw [step_past step,List.countP_append,counted,stored.counts key,List.countP_singleton]
  cases (made move).any (guid · = key) with
  | true | false => rfl

end Moment

namespace Scene

theorem run_counts (run : Run {} deeds s) (key : Guid) :
    s.moment.past.countP (·.founds.any (·.guid = key)) =
      (s.site.fleet.guilds.find? key).isSome.toNat ∧
    s.moment.past.countP (·.admits.any (·.guid = key)) =
      (s.site.fleet.identities.find? key).isSome.toNat := by
  apply run_keeps (fun m =>
    m.past.countP (·.founds.any (·.guid = key)) =
      (m.site.fleet.guilds.find? key).isSome.toNat ∧
    m.past.countP (·.admits.any (·.guid = key)) =
      (m.site.fleet.identities.find? key).isSome.toNat) _ run
  · intro m registry act _ counted
    rw [Moment.tend_fleet]
    exact counted
  · exact ⟨rfl,rfl⟩
  · rintro m move next step ⟨guilds,identities⟩
    obtain ⟨founding,admitting⟩ := Moment.step_stores step
    exact ⟨Moment.step_counts step founding key guilds,
      Moment.step_counts step admitting key identities⟩

theorem run_filed (run : Run {} deeds s) :
    Filed Guild.guid s.site.fleet.guilds ∧ Filed Identity.guid s.site.fleet.identities := by
  apply run_keeps (fun m =>
    Filed Guild.guid m.site.fleet.guilds ∧ Filed Identity.guid m.site.fleet.identities) _ run
  · intro m registry act _ filed
    rw [Moment.tend_fleet]
    exact filed
  · exact ⟨nofun,nofun⟩
  · rintro m move next step ⟨guilds,identities⟩
    obtain ⟨founding,admitting⟩ := Moment.step_stores step
    exact ⟨founding.filed guilds,admitting.filed identities⟩

-- In every run, the guild and the identity of the coordinators are created at most once. From
-- wherever a run has come to, setting a coordinator up leaves both as they are if they are there,
-- and gives a coordinator that has both as they are stored; and if nothing is set to fail then,
-- every proper setup does give one.
theorem bootstrap_once (run : Run {} deeds s) :
    s.moment.past.countP (·.founds.any (·.guid = Guid.reserved)) ≤ 1 ∧
    s.moment.past.countP (·.admits.any (·.guid = Guid.reserved)) ≤ 1 ∧
    (∀ depth setup result next,
      Coordinator.create (Site.transport depth) setup s.site = some (result,next) →
      (∀ guild, s.site.guild = some guild → next.guild = some guild) ∧
      (∀ identity, s.site.identity = some identity → next.identity = some identity) ∧
      ∀ coordinator, result = .ok coordinator →
        next.guild = some coordinator.guild ∧ next.identity = some coordinator.identity) ∧
    ((∀ call, s.site.fleet.faults call = none) → ∀ depth (setup : Setup Approver Listener),
      setup.Proper → ∃ coordinator next,
        Coordinator.create (Site.transport depth) setup s.site = some (.ok coordinator,next)) := by
  obtain ⟨guilds,identities⟩ := run_counts run Guid.reserved
  refine ⟨?_,?_,?_,?_⟩
  · rw [guilds]
    exact Bool.toNat_le _
  · rw [identities]
    exact Bool.toNat_le _
  · intro depth setup result next ran
    have constructed := (Coordinator.create_ends depth setup s.site).only ran
    exact ⟨constructed.kept.guild,constructed.kept.identity,constructed.stored⟩
  · intro clear depth setup proper
    obtain ⟨result,next,ran,constructed⟩ := Coordinator.create_ends depth setup s.site
    cases result with
    | ok coordinator => exact ⟨coordinator,next,ran⟩
    | error failure =>
      obtain ⟨call,fault⟩ := constructed.refused failure rfl proper
      rw [clear call] at fault
      cases fault

end Scene

namespace Sample

-- The first attempt fails once the guild is created, the second one is told that there is none.
def attempts : List Errand :=
  [.ask (.setFault .createIdentity .noApprover),.setUp "first" steward,
    .ask (.clearFault .createIdentity),
    .ask (.setFault .getGuild (.notFound "guild" Guid.reserved)),.setUp "second" steward,
    .ask (.clearFault .getGuild)]

theorem attempts_converge :
    ∃ deeds s, Scene.Run {} deeds s ∧ deeds.length = 6 ∧ s.site.guild = some Guild.reserved ∧
      s.site.identity = none ∧
      s.moment.past.countP (·.founds.any (·.guid = Guid.reserved)) ≤ 1 ∧
      s.moment.past.countP (·.admits.any (·.guid = Guid.reserved)) ≤ 1 ∧
      ∃ coordinator next,
        Coordinator.create (Site.transport 2) steward s.site = some (.ok coordinator,next) ∧
        next.guild = some Guild.reserved ∧ next.guild = some coordinator.guild ∧
        next.identity = some coordinator.identity := by
  obtain ⟨past,run⟩ := staged_run {} attempts []
  obtain ⟨founded,admitted,leaves,succeeds⟩ := Scene.bootstrap_once run
  have clear : ∀ call, ((staged {} attempts).2.scene past).site.fleet.faults call = none := by
    intro call
    cases call <;> rfl
  obtain ⟨coordinator,next,ran⟩ := succeeds clear 2 steward ⟨rfl,rfl,rfl⟩
  obtain ⟨guild,_,stored⟩ := leaves 2 steward _ next ran
  obtain ⟨founds,admits⟩ := stored coordinator rfl
  exact ⟨_,_,run,rfl,rfl,rfl,founded,admitted,coordinator,next,ran,guild _ rfl,founds,admits⟩

end Sample

end Custody
