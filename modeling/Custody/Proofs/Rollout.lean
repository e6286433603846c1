import Custody.Program
import Custody.Proofs.Attempt
import Custody.Proofs.Hexadecimal

-- What the program makes of the fleet that its settings describe. The last entry with an id is the
-- one that counts, from the state it begins in to the manifest that is approved, and a command
-- provisions what it reaches, if that is claimable and approved, and nothing else.

namespace Custody

variable {id : ApplicationId} {decision : Application → Manifest → Bool}

-- A record as an entry describes it: without an owner, memberships or a policy.
def FleetEntry.record (entry : FleetEntry) : Record where
  app := entry.app
  manifest := .ofText entry.manifest

-- The last entry with an id.
def Settings.entry? (settings : Settings) (id : ApplicationId) : Option FleetEntry :=
  settings.fleet.reverse.find? (·.app.id = id)

-- A manifest is approved if all are, or if its digest is one of those that are trusted. In which
-- case the letters of that one are written does not matter.
def ApprovalSettings.Approves (approval : ApprovalSettings) (manifest : Manifest) : Prop :=
  approval.autoApprove = true ∨
    ∃ trusted ∈ approval.trustedDigests, trusted.toLower = manifest.digest.toLower

-- An application that is claimable by its last entry, with a manifest that is approved.
def Settings.Admits (settings : Settings) (id : ApplicationId) : Prop :=
  ∃ entry, settings.entry? id = some entry ∧ entry.claimState = .claimable ∧
    settings.approval.Approves (.ofText entry.manifest)

theorem Manifest.digest_lower (manifest : Manifest) : manifest.digest.toLower = manifest.digest :=
  Text.hexText_lower _

-- What the approver of the program decides.
def ApprovalSettings.decides (approval : ApprovalSettings) : Application → Manifest → Bool :=
  fun _ manifest => approval.trust.accepts manifest

theorem ApprovalSettings.accepts_iff (approval : ApprovalSettings) (manifest : Manifest) :
    approval.trust.accepts manifest = true ↔ approval.Approves manifest := by
  simp [TrustList.accepts,trust,Approves,manifest.digest_lower]

namespace Coordinator

variable {coordinator : Coordinator} {record : Record}

-- A claim that is rejected leaves what nobody owns as it was.
theorem attempt_rejected (unowned : record.owner = none)
    (rejected : record.grants decision = false) : coordinator.attempt decision record = record := by
  by_cases free : record.app.claimState = .claimable
  · have decided : decision record.marked.app record.manifest = false := by
      simpa [Record.grants,free] using rejected
    simp [attempt,rejected,Record.tried,free,decided,Record.marked_rejected free unowned]
  · exact attempt_taken free

-- One that is granted gets an application from the ground to the last rung.
theorem attempt_granted (guild : coordinator.guild.guid = Guid.reserved)
    (identity : coordinator.identity.guid = Guid.reserved) (ground : record.Stands none)
    (granted : record.grants decision = true) :
    (coordinator.attempt decision record).Stands (some .governed) := by
  obtain ⟨free,approved⟩ := Bool.and_eq_true_iff.mp granted
  obtain ⟨_,memberships,policy⟩ := ground
  have owned : (record.tried coordinator.identity.guid decision).Stands (some .owned) := by
    rw [Record.tried,if_pos (of_decide_eq_true free),approved,identity]
    exact ⟨rfl,rfl,memberships,policy⟩
  have governed := owned.enrol.govern guild
  rw [attempt,if_pos granted,Record.enrolled,guild]
  exact governed

-- Where nothing is set to fail, every proper setup gives a coordinator whose claims come to
-- results.
theorem create_ready (run : Scene.Run {} deeds s) (idle : s.moment.waiting = [])
    (clear : ∀ call, s.site.fleet.faults call = none) (depth : Nat)
    {setup : Setup Approver Listener} (proper : setup.Proper)
    (decides : setup.approver = some (.ofDecision decision)) :
    Course.Ends (create (Site.transport depth) setup) s.site fun result after =>
      ∃ coordinator, result = .ok coordinator ∧ after.Ready coordinator decision ∧
        coordinator.guild.guid = Guid.reserved ∧ coordinator.identity.guid = Guid.reserved ∧
        after.fleet.Own ∧ after.fleet.records = s.site.fleet.records := by
  obtain ⟨result,after,ran,constructed⟩ := create_ends depth setup s.site
  cases result with
  | error failure =>
    obtain ⟨call,fault⟩ := constructed.refused failure rfl proper
    rw [clear call] at fault
    cases fault
  | ok coordinator =>
    obtain ⟨past,runs⟩ := (create_moves depth setup).runs idle ran
    have founded := Scene.Run.deed run (.setUp "steward" runs)
    obtain ⟨guild,identity⟩ := Scene.run_reserved founded (Keyed.find?_insert_self _ _ _)
    obtain ⟨guildStored,identityStored⟩ := constructed.stored coordinator rfl
    obtain ⟨_,approver,listener,approves,_,joined⟩ := create_made ran
    refine ⟨_,after,ran,coordinator,rfl,⟨?_,?_,?_,?_⟩,guild,identity,Scene.run_own founded,
      constructed.kept.records⟩
    · rw [constructed.kept.faults]
      exact clear
    · rw [← decides,approves]
      exact congrArg Prod.fst joined
    · rw [guild]
      exact Option.isSome_of_eq_some guildStored
    · rw [identity]
      exact Option.isSome_of_eq_some identityStored

end Coordinator

namespace Site

theorem announce_record (site : Site) (app : Application) (manifest : Manifest)
    (id : ApplicationId) : (site.announce app manifest).record id =
      if id = app.id then some { app, manifest } else site.record id := by
  unfold record announce
  rw [after_fleet]
  exact Keyed.find?_insert_if _ _ _ _

theorem announce_faults (site : Site) (app : Application) (manifest : Manifest) :
    (site.announce app manifest).fleet.faults = site.fleet.faults := by
  unfold announce
  rw [after_fleet]
  rfl

-- A site at which all entries of a fleet have been announced.
def seeded (site : Site) (entries : List FleetEntry) : Site :=
  entries.foldl (fun site entry => site.announce entry.app (.ofText entry.manifest)) site

theorem seeded_record (site : Site) (entries : List FleetEntry) (id : ApplicationId) :
    (site.seeded entries).record id =
      ((entries.reverse.find? (·.app.id = id)).map FleetEntry.record).or (site.record id) := by
  induction entries generalizing site with
  | nil => rfl
  | cons entry rest ih =>
    refine (ih _).trans ?_
    rw [announce_record,List.reverse_cons,List.find?_append,Option.map_or,Option.or_assoc]
    congr 1
    by_cases here : id = entry.app.id
    · simp [here,FleetEntry.record]
    · simp [here,Ne.symm here]

-- What no announcement changes.
theorem seeded_keeps (part : Site → α)
    (kept : ∀ site app manifest, part (site.announce app manifest) = part site) (site : Site)
    (entries : List FleetEntry) : part (site.seeded entries) = part site := by
  induction entries generalizing site with
  | nil => rfl
  | cons entry rest ih => exact (ih _).trans (kept _ _ _)

theorem seeded_faults (site : Site) (entries : List FleetEntry) :
    (site.seeded entries).fleet.faults = site.fleet.faults :=
  seeded_keeps (·.fleet.faults) announce_faults site entries

theorem seeded_run {site : Site} (run : Scene.Run {} deeds ((⟨site,.empty⟩ : Stage).scene past))
    (entries : List FleetEntry) :
    ∃ deeds past, Scene.Run {} deeds ((⟨site.seeded entries,.empty⟩ : Stage).scene past) := by
  induction entries generalizing site deeds past with
  | nil => exact ⟨deeds,past,run⟩
  | cons entry rest ih =>
    have announced : (⟨site,[],past⟩ : Moment).Step
        (.performed (.announce entry.app (.ofText entry.manifest)) .done) _ :=
      .perform .outside rfl
    exact ih (.deed run (.move announced))

end Site

namespace Settings

theorem site_record (settings : Settings) (id : ApplicationId) :
    settings.site.record id = (settings.entry? id).map FleetEntry.record :=
  (Site.seeded_record {} settings.fleet id).trans Option.or_none

end Settings

theorem FleetEntry.record_grants (entry : FleetEntry) (approval : ApprovalSettings) :
    entry.record.grants approval.decides = true ↔
      entry.claimState = .claimable ∧ approval.Approves (.ofText entry.manifest) := by
  rw [← approval.accepts_iff,Record.grants,Bool.and_eq_true_iff,decide_eq_true_iff]
  rfl

namespace Program

-- The program sets a coordinator up, which edits the records that the command reaches.
theorem course_edits (settings : Settings)
    (named : Text.allBlank settings.identity.userName = false) (command : Command) :
    (course settings command).Ends settings.site fun _ after =>
      ∃ coordinator : Coordinator, coordinator.guild.guid = Guid.reserved ∧
        coordinator.identity.guid = Guid.reserved ∧
        settings.site.Edited command.reaches (coordinator.attempt settings.approval.decides)
          after := by
  have start : Scene.Run {} [] ((⟨{},.empty⟩ : Stage).scene []) := .nothing
  obtain ⟨deeds,past,run⟩ := Site.seeded_run start settings.fleet
  have clear : ∀ call, settings.site.fleet.faults call = none := by
    intro call
    rw [show settings.site.fleet.faults = _ from Site.seeded_faults {} settings.fleet]
  apply (Coordinator.create_ready run rfl clear 1 ⟨rfl,rfl,named⟩ rfl).bind
  rintro _ founded ⟨coordinator,rfl,ready,guild,identity,own,records⟩
  apply (Coordinator.applications_ready ready 1).bind
  rintro apps listed ⟨_,still,same⟩
  have filling : Course.Ends (modify fun site =>
      site.onRegistry registryName fun registry => registry.recordAll apps) listed fun _ after =>
      after.fleet = listed.fleet ∧ after.approver = listed.approver :=
    ⟨(),_,rfl,(listed.onRegistry_keeps _ _).1,listed.onRegistry_approver _ _⟩
  apply filling.bind
  rintro _ filled ⟨fleet,approver⟩
  have held : filled.fleet.records = settings.site.fleet.records := by
    rw [fleet,same]
    exact records
  have owned : filled.fleet.Own := by unfold Fleet.Own Fleet.info; rw [fleet,same]; exact own
  have working : filled.Ready coordinator settings.approval.decides :=
    still.congr (by rw [fleet]) (by rw [fleet]) approver
  refine (Command.execute_ready working owned 0 ?reads command).bind ?rest
  case reads => exact fun _ _ => ⟨_,_,rfl,rfl⟩
  case rest =>
    rintro ⟨text,renamed⟩ after edited
    exact Course.ends_pure ⟨coordinator,guild,identity,edited.since held⟩

-- For all settings with a name that is not blank, every command comes to a result. Afterwards an
-- application is claimed, owned, enrolled and governed by the default policy if and only if the
-- command reaches it and the last entry with its id is claimable and approved; and all others are
-- as their last entries describe them.
theorem course_provisions (settings : Settings)
    (named : Text.allBlank settings.identity.userName = false) (command : Command) :
    ∃ text after, course settings command settings.site = some (text,after) ∧ ∀ id,
      ((∃ record, after.record id = some record ∧ record.Stands (some .governed)) ↔
        command.reaches id = true ∧ settings.Admits id) ∧
      (¬(command.reaches id = true ∧ settings.Admits id) →
        after.record id = (settings.entry? id).map FleetEntry.record) := by
  obtain ⟨text,after,ran,coordinator,guild,identity,edited⟩ := course_edits settings named command
  refine ⟨text,after,ran,fun id => ?_⟩
  rw [edited,settings.site_record]
  cases last : settings.entry? id with
  | none => simp [Settings.Admits,last]
  | some entry =>
    have admits : settings.Admits id ↔ entry.record.grants settings.approval.decides = true := by
      simp [Settings.Admits,last,entry.record_grants]
    rw [admits,← Bool.and_eq_true_iff]
    have fresh : entry.record.Stands none := ⟨rfl,rfl,rfl⟩
    cases reached : command.reaches id && entry.record.grants settings.approval.decides with
    | true =>
      obtain ⟨reaches,grants⟩ := Bool.and_eq_true_iff.mp reached
      have governed := Coordinator.attempt_granted guild identity fresh grants
      simp [reaches,governed]
    | false =>
      have same : (if command.reaches id = true then
          coordinator.attempt settings.approval.decides entry.record else entry.record) =
          entry.record := by
        split
        · rename_i reaches
          rw [reaches,Bool.true_and] at reached
          exact Coordinator.attempt_rejected rfl reached
        · rfl
      simp only [Option.map_some,same]
      refine ⟨⟨?_,nofun⟩,fun _ => trivial⟩
      rintro ⟨_,⟨⟩,_,owner,_⟩
      cases owner

end Program

namespace Sample

def stoveEntry : FleetEntry :=
  { id := "B2", name := "Stove", device := "kitchen", manifest := "lamp:on" }

def lampEntry : FleetEntry :=
  { id := "A1", name := "Lamp", device := "hallway", manifest := "lamp:off" }

def kettleEntry : FleetEntry :=
  { id := "C3", name := "Kettle", device := "kitchen", claimState := .needUpdate,
    manifest := "lamp:on" }

-- One manifest is trusted. The lamp has it until it is described again, the stove has it then, and
-- the kettle has it but is not claimable.
def household : Settings where
  identity := ⟨"ops"⟩
  keyStore := some ⟨"/keys","ops","secret"⟩
  approval := ⟨false,
    ["34FB2ABEBF66C1784E816FBCB7A7143FAFDC158B44CCF3932A28DB1D47A154AB"]⟩
  fleet := [
    { id := "A1", name := "Lamp", device := "hallway", manifest := "lamp:on" },
    { id := "B2", name := "Stove", device := "kitchen", claimState := .unclaimable },
    kettleEntry,stoveEntry,lampEntry]

theorem trusted_digest : (Manifest.ofText "lamp:on").digest =
    "34fb2abebf66c1784e816fbcb7a7143fafdc158b44ccf3932a28db1d47a154ab" := by
  decide +kernel

theorem untrusted_digest : (Manifest.ofText "lamp:off").digest =
    "dd638e09f6ad57edbabd2ae6eb0f7f7abb7e65c2f71ed74025756ad3bacb50d1" := by
  decide +kernel

theorem household_provisioned :
    Text.allBlank household.identity.userName = false ∧
      ∃ text after, Program.course household .claimAll household.site = some (text,after) ∧
        (∃ record, after.record ⟨"B2"⟩ = some record ∧ record.Stands (some .governed)) ∧
        after.record ⟨"A1"⟩ = some lampEntry.record ∧
        after.record ⟨"C3"⟩ = some kettleEntry.record := by
  have named : Text.allBlank household.identity.userName = false := by decide +kernel
  have stove : household.entry? ⟨"B2"⟩ = some stoveEntry := by decide +kernel
  have lamp : household.entry? ⟨"A1"⟩ = some lampEntry := by decide +kernel
  have kettle : household.entry? ⟨"C3"⟩ = some kettleEntry := by decide +kernel
  have trusted : household.Admits ⟨"B2"⟩ := by
    refine ⟨stoveEntry,stove,rfl,.inr ⟨_,.head _,?_⟩⟩
    rw [Manifest.digest_lower,show Manifest.ofText stoveEntry.manifest = .ofText "lamp:on" from rfl,
      trusted_digest]
    decide +kernel
  have untrusted : ¬household.Admits ⟨"A1"⟩ := by
    rintro ⟨entry,last,_,approves⟩
    cases lamp.symm.trans last
    rcases approves with all | ⟨trusted,member,same⟩
    · cases all
    cases List.mem_singleton.mp member
    rw [Manifest.digest_lower,show Manifest.ofText lampEntry.manifest = .ofText "lamp:off" from rfl,
      untrusted_digest] at same
    revert same
    decide +kernel
  have unclaimable : ¬household.Admits ⟨"C3"⟩ := by
    rintro ⟨entry,last,free,_⟩
    cases kettle.symm.trans last
    cases free
  obtain ⟨text,after,ran,ends⟩ := Program.course_provisions household named .claimAll
  refine ⟨named,text,after,ran,(ends _).1.mpr ⟨rfl,trusted⟩,?_,?_⟩
  · rw [(ends _).2 fun both => untrusted both.2,lamp,Option.map_some]
  · rw [(ends _).2 fun both => unclaimable both.2,kettle,Option.map_some]

end Sample

end Custody
