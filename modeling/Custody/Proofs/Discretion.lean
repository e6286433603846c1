import Custody.Proofs.Rollout

-- What a key store is good for, as far as anybody else can tell: nothing. A site is compared with
-- what is left of it when its key store is forgotten, and every word of having opened one. Whatever
-- the program does with the one it does with the other, so it prints the same, leaves the same
-- behind, and tells the same to everybody who listens.

namespace Custody

namespace Fleet

def outward (fleet : Fleet) : Fleet :=
  { fleet with keyStore := none, calls := fleet.calls.filter (· ≠ .openKeyStore) }

-- What does not look at the key store and does not open it.
def Blind (act : Fleet → α × Fleet) : Prop :=
  ∀ fleet, act fleet.outward = ((act fleet).1,(act fleet).2.outward)

theorem received_outward (fleet : Fleet) {call : Call} (other : call ≠ .openKeyStore) :
    (fleet.received call).outward = fleet.outward.received call := by
  simp [outward,received,other]

theorem opened_outward (fleet : Fleet) (store : KeyStore) :
    { fleet.received .openKeyStore with keyStore := some store }.outward = fleet.outward := by
  simp [outward,received]

theorem answer_blind {body : Fleet → Except Refusal α × Fleet} {call : Call} (blind : Blind body)
    (other : call ≠ .openKeyStore) : Blind fun fleet => fleet.answer call body := by
  intro fleet
  have faults : fleet.outward.faults = fleet.faults := rfl
  simp only [answer,faults,← received_outward fleet other]
  split
  · rfl
  · exact blind _

theorem listApplications_blind : Blind listApplications := answer_blind (fun _ => rfl) nofun

theorem getApplication_blind (id : ApplicationId) : Blind fun fleet => fleet.getApplication id := by
  refine answer_blind (fun fleet => ?_) nofun
  simp only [outward]
  split <;> rfl

theorem getGuild_blind (guid : Guid) : Blind fun fleet => fleet.getGuild guid := by
  refine answer_blind (fun fleet => ?_) nofun
  simp only [outward]
  split <;> rfl

theorem createGuild_blind (guild : Guild) : Blind fun fleet => fleet.createGuild guild := by
  refine answer_blind (fun fleet => ?_) nofun
  cases stored : fleet.guilds.contains guild.guid with
  | true | false => simp [outward,stored]

theorem getIdentity_blind (guid : Guid) : Blind fun fleet => fleet.getIdentity guid := by
  refine answer_blind (fun fleet => ?_) nofun
  simp only [outward]
  split <;> rfl

theorem createIdentity_blind (identity : Identity) :
    Blind fun fleet => fleet.createIdentity identity := by
  refine answer_blind (fun fleet => ?_) nofun
  cases stored : fleet.identities.contains identity.guid with
  | true | false => simp [outward,stored]

theorem updateIdentity_blind (identity : Identity) :
    Blind fun fleet => fleet.updateIdentity identity := by
  refine answer_blind (fun fleet => ?_) nofun
  cases stored : fleet.identities.contains identity.guid with
  | true | false => simp [outward,stored]

theorem claimedRecord_outward (fleet : Fleet) (id : ApplicationId) :
    fleet.outward.claimedRecord id = fleet.claimedRecord id := rfl

theorem installMembership_blind (id : ApplicationId) (guild : Guid) :
    Blind fun fleet => fleet.installMembership id guild := by
  refine answer_blind (fun fleet => ?_) nofun
  rw [claimedRecord_outward]
  cases stored : fleet.guilds.contains guild with
  | false => simp [outward,stored]
  | true =>
    cases claimed : fleet.claimedRecord id with
    | ok | error => simp [outward,stored]

theorem installPolicy_blind (id : ApplicationId) (policy : Policy) :
    Blind fun fleet => fleet.installPolicy id policy := by
  refine answer_blind (fun fleet => ?_) nofun
  rw [claimedRecord_outward]
  cases fleet.claimedRecord id with
  | ok | error => rfl

theorem beginClaim_blind {Approver : Type} (id : ApplicationId) (claimant : Guid)
    (approver : Option Approver) : Blind fun fleet => fleet.beginClaim id claimant approver := by
  refine answer_blind (fun fleet => ?_) nofun
  cases stored : fleet.identities.contains claimant with
  | false => simp [outward,stored]
  | true =>
    cases found : fleet.records.find? id with
    | none => simp [outward,stored,found]
    | some record =>
      by_cases free : record.app.claimState = .claimable
      · cases approver with
        | none | some => simp [outward,stored,found,free]
      · simp [outward,stored,found,free]

theorem change_outward (fleet : Fleet) (id : ApplicationId) (edit : Record → Record) :
    fleet.outward.change id edit =
      (fleet.change id edit).map fun (event,fleet) => (event,fleet.outward) := by
  simp only [change,outward,Option.map_map]
  rfl

end Fleet

namespace Site

def outward (site : Site) : Site := { site with fleet := site.fleet.outward }

theorem onRegistry_outward (site : Site) (name : String)
    (act : Registry → Registry × List Notice) :
    site.outward.onRegistry name act = (site.onRegistry name act).outward := by
  have notified (site : Site) (notice : Notice) :
      site.outward.notify notice = (site.notify notice).outward := rfl
  have told (start : Site) (notices : List Notice) :
      notices.foldl notify start.outward = (notices.foldl notify start).outward :=
    List.foldl_hom outward notified
  exact told { site with registries := site.registries.insert name (act (site.registry name)).1 }
    (act (site.registry name)).2

theorem tell_outward (event : Event) (site : Site) (listener : Listener) :
    tell event site.outward listener = (tell event site listener).outward := by
  cases listener with
  | registry name =>
    exact onRegistry_outward site name fun registry =>
      ((registry.record event.new).1,(registry.record event.new).2.toList)
  | recorder name => rfl

theorem deliver_outward (site : Site) (event : Event) :
    site.outward.deliver event = (site.deliver event).outward := by
  have told (start : Site) (listeners : List Listener) :
      listeners.foldl (tell event) start.outward = (listeners.foldl (tell event) start).outward :=
    List.foldl_hom outward (tell_outward event)
  exact told site site.listeners

theorem after_outward (site : Site) (change : Option (Event × Fleet)) :
    site.outward.after (change.map fun (event,fleet) => (event,fleet.outward)) =
      (site.after change).outward := by
  cases change with
  | none => rfl
  | some change => exact deliver_outward { site with fleet := change.2 } change.1

theorem addListener_outward (site : Site) (listener : Listener) :
    site.outward.addListener listener = (site.addListener listener).outward := by
  cases listener with
  | registry | recorder => rfl

-- Both halves of a claim, and what is noted between them.
theorem beginClaim_outward (site : Site) (id : ApplicationId) (claimant : Guid) :
    site.outward.beginClaim id claimant =
      ((site.beginClaim id claimant).1,(site.beginClaim id claimant).2.outward) := by
  have blind := Fleet.beginClaim_blind id claimant site.approver site.fleet
  dsimp only at blind
  unfold beginClaim
  rw [show site.outward.fleet.beginClaim id claimant site.outward.approver = _ from blind]
  cases site.fleet.beginClaim id claimant site.approver with
  | mk begins fleet =>
    cases begins with
    | error refusal => rfl
    | ok shown => exact congrArg _ (deliver_outward { site with fleet } shown.2)

theorem noted_outward (inquiry : Inquiry) (site : Site) :
    inquiry.noted site.outward = (inquiry.noted site).outward := by
  match inquiry with
  | .answer _ | .ask _ _ => rfl
  | .note book entry next => exact noted_outward next (site.note book entry)

theorem endClaim_outward (site : Site) (id : ApplicationId) (claimant : Guid) (approved : Bool) :
    site.outward.endClaim id claimant approved =
      ((site.endClaim id claimant approved).1,(site.endClaim id claimant approved).2.outward) := by
  rw [endClaim_spec,endClaim_spec,← after_outward,← Fleet.change_outward]
  rfl

end Site

namespace Course

-- A course does at a site what another one does at what is left of the site.
def Matches (course other : Course α) (site : Site) : Prop :=
  course.Ends site fun result after =>
    after.Quiet ∧ other site.outward = some (result,after.outward)

-- A course that does the same at both, as long as there is an approver that only answers, or none.
def Discreet ⦃α : Type⦄ (course : Course α) : Prop :=
  ∀ site, site.Quiet → course.Matches course site

variable {site : Site}

theorem Matches.bind {course other : Course α} {rest : α → Course β}
    (first : course.Matches other site) (onwards : ∀ result, (rest result).Discreet) :
    (course >>= rest).Matches (other >>= rest) site := by
  obtain ⟨result,middle,began,quiet,begun⟩ := first
  obtain ⟨last,after,ended,still,finished⟩ := onwards result middle quiet
  exact ⟨last,after,Option.bind_eq_some_iff.mpr ⟨_,began,ended⟩,still,
    Option.bind_eq_some_iff.mpr ⟨_,begun,finished⟩⟩

-- Two courses that match the same one come to the same result, and to sites of which the same is
-- left.
theorem Matches.agree {first last other : Course α} (one : first.Matches other site)
    (two : last.Matches other site) :
    ∃ result after apart, first site = some (result,after) ∧ last site = some (result,apart) ∧
      after.outward = apart.outward := by
  obtain ⟨result,after,ran,_,matched⟩ := one
  obtain ⟨_,apart,ended,_,same⟩ := two
  obtain ⟨rfl,left⟩ := Prod.mk.inj (Option.some.inj (matched.symm.trans same))
  exact ⟨result,after,apart,ran,ended,left⟩

theorem discreet_composes : Composes Discreet where
  pure _ := fun _ quiet => ends_pure ⟨quiet,rfl⟩
  bind began onwards := fun site quiet => (began site quiet).bind onwards

theorem call_discreet {act : Fleet → α × Fleet} (blind : Fleet.Blind act) :
    (call act).Discreet := by
  intro site quiet
  refine ⟨_,_,rfl,quiet,?_⟩
  exact call_ran (blind site.fleet)

theorem step_discreet {act : Site → α × Site}
    (blind : ∀ site, act site.outward = ((act site).1,(act site).2.outward))
    (keeps : ∀ site, site.Quiet → (act site).2.Quiet) : (step act).Discreet := by
  intro site quiet
  exact ⟨_,_,rfl,keeps site quiet,congrArg some (blind site)⟩

end Course

namespace Site

variable {site : Site}

theorem claimWithin_outward (quiet : site.Quiet) (depth : Nat) (app : Application)
    (identity : Identity) :
    claimWithin (depth+1) app identity site.outward =
      (claimWithin (depth+1) app identity site).map
        fun (result,after) => (result,after.outward) := by
  simp only [claimWithin,beginClaim_outward]
  cases begun : site.beginClaim app.id identity.guid with
  | mk begins marked =>
    cases begins with
    | error refusal => rfl
    | ok shown =>
      obtain ⟨_,_,_,_,_,_,asked,_⟩ := beginClaim_found begun
      have answers := quiet _ asked shown.app shown.manifest
      dsimp only
      rw [follow_verdict _ answers,follow_verdict _ answers,noted_outward]
      exact congrArg some (endClaim_outward _ _ _ _)

theorem claimWithin_discreet (depth : Nat) (app : Application) (identity : Identity) :
    (claimWithin (depth+1) app identity).Discreet := by
  intro site quiet
  obtain ⟨result,after,ran,judged⟩ := claimWithin_judged quiet depth app identity
  refine ⟨result,after,ran,quiet.congr (congrArg Prod.fst judged.callbacks),?_⟩
  rw [claimWithin_outward quiet,ran]
  rfl

theorem transport_discreet (depth : Nat) :
    (Site.transport (depth+1)).Each Course.Discreet where
  listApplications := Course.call_discreet Fleet.listApplications_blind
  getApplication id := Course.call_discreet (Fleet.getApplication_blind id)
  claim := claimWithin_discreet depth
  installMembership app guild :=
    Course.call_discreet (Fleet.installMembership_blind app.id guild.guid)
  installPolicy app policy := Course.call_discreet (Fleet.installPolicy_blind app.id policy)
  updateIdentity identity := Course.call_discreet (Fleet.updateIdentity_blind identity)
  getGuild guid := Course.call_discreet (Fleet.getGuild_blind guid)
  createGuild guild := Course.call_discreet (Fleet.createGuild_blind guild)
  getIdentity guid := Course.call_discreet (Fleet.getIdentity_blind guid)
  createIdentity identity := Course.call_discreet (Fleet.createIdentity_blind identity)

end Site

namespace Coordinator

theorem openStore_matches {site : Site} (quiet : site.Quiet)
    (clear : site.fleet.faults .openKeyStore = none) (depth : Nat) (store : Option KeyStore) :
    Course.Matches (openStore (Site.transport depth) store) (pure (.ok ())) site := by
  cases store with
  | none => exact Course.ends_pure ⟨quiet,rfl⟩
  | some store =>
    let after : Site := { site with
      fleet := { site.fleet.received .openKeyStore with keyStore := some store } }
    have left : after.outward = site.outward :=
      congrArg (fun fleet => { site with fleet }) (Fleet.opened_outward site.fleet store)
    have opens : (Course.call fun fleet => fleet.openKeyStore store).Ends site
        fun result last => result = .ok () ∧ last = after :=
      Course.ends_call (Fleet.answer_clear _ _ _ clear) ⟨rfl,rfl⟩
    apply opens.bind
    rintro _ _ ⟨rfl,rfl⟩
    refine Course.ends_pure ⟨quiet,?_⟩
    rw [left]
    rfl

-- Setting a coordinator up with a key store is setting it up without one.
theorem create_matches {site : Site} (quiet : site.Quiet)
    (clear : site.fleet.faults .openKeyStore = none) (depth : Nat)
    {setup : Setup Approver Listener}
    (answers : ∀ approver, setup.approver = some approver → Approver.Quiet approver) :
    Course.Matches (create (Site.transport (depth+1)) setup)
      (create (Site.transport (depth+1)) { setup with keyStore := none }) site := by
  have same : checked { setup with keyStore := none } = checked setup := rfl
  rw [create_establish,create_establish,same]
  rcases checked_cases setup with ⟨text,checked,_⟩ | ⟨listener,approver,checked,_,given⟩
  · rw [checked]
    exact Course.ends_pure ⟨quiet,rfl⟩
  · rw [checked]
    refine (openStore_matches quiet clear _ setup.keyStore).bind fun opened => ?_
    cases opened with
    | error failure => exact Course.discreet_composes.pure _
    | ok =>
      apply establish_composes Course.discreet_composes (Site.transport_discreet depth)
      · exact Course.step_discreet (fun _ => rfl) fun site _ other registered => by
          cases registered
          exact answers approver given
      · exact Course.step_discreet
          (fun site => congrArg ((),·) (site.addListener_outward listener))
          fun site quiet => quiet.congr (by cases listener <;> rfl)

end Coordinator

namespace Site

-- A site at which others have begun to listen.
def observed (site : Site) (observers : List Listener) : Site := observers.foldl addListener site

theorem observed_keeps (site : Site) (observers : List Listener) :
    (site.observed observers).fleet = site.fleet ∧
      (site.observed observers).approver = site.approver := by
  induction observers generalizing site with
  | nil => exact ⟨rfl,rfl⟩
  | cons listener rest ih =>
    obtain ⟨fleet,approver⟩ := ih (site.addListener listener)
    refine ⟨fleet.trans (site.naming_fleet listener),approver.trans ?_⟩
    cases listener with
    | registry | recorder => rfl

end Site

namespace Settings

-- Settings without their key store.
def outward (settings : Settings) : Settings := { settings with keyStore := none }

-- The site of settings, where others have been listening from the beginning.
def watched (settings : Settings) (observers : List Listener) : Site :=
  (({} : Site).observed observers).seeded settings.fleet

-- Where nobody else listens, this is the site that the program begins with.
theorem watched_alone (settings : Settings) (store : Option KeyStore) :
    Settings.site { settings with keyStore := store } = settings.watched [] := rfl

theorem watched_quiet (settings : Settings) (observers : List Listener) :
    (settings.watched observers).Quiet := by
  have seeded : (settings.watched observers).approver = _ :=
    Site.seeded_keeps Site.approver (fun _ _ _ => Site.after_approver _ _) _ _
  have nobody := seeded.trans (({} : Site).observed_keeps observers).2
  intro approver asked
  cases nobody.symm.trans asked

theorem watched_clear (settings : Settings) (observers : List Listener) (call : Call) :
    (settings.watched observers).fleet.faults call = none := by
  unfold watched
  rw [Site.seeded_faults,(({} : Site).observed_keeps observers).1]

end Settings

namespace Program

theorem course_matches (settings : Settings) (command : Command) {site : Site}
    (quiet : site.Quiet) (clear : site.fleet.faults .openKeyStore = none) :
    Course.Matches (course settings command) (course settings.outward command) site := by
  have answers : ∀ approver, some (Approver.ofTrust settings.approval.trust) = some approver →
      Approver.Quiet approver := by
    rintro _ ⟨⟩ app manifest
    trivial
  refine (Coordinator.create_matches quiet clear 0 answers).bind fun created => ?_
  have composes := Course.discreet_composes
  have each := Site.transport_discreet 0
  cases created with
  | error failure => exact composes.pure _
  | ok coordinator =>
    refine composes.bind (Coordinator.applications_composes composes each) fun apps => ?_
    refine composes.bind ?filling fun _ => ?_
    case filling =>
      intro site quiet
      refine ⟨(),_,rfl,quiet.congr (site.onRegistry_approver _ _),?_⟩
      exact congrArg (fun after => some ((),after)) (site.onRegistry_outward _ _)
    refine composes.bind (Command.execute_composes composes each command (fun _ act => ?_) _)
      fun executed => composes.pure _
    exact Course.step_discreet (fun _ => rfl) fun _ quiet => quiet.congr rfl

-- Two runs from one site, with whatever key stores.
theorem courses_agree (settings : Settings) (here there : Option KeyStore) (command : Command)
    (observers : List Listener) :
    ∃ result after other,
      course { settings with keyStore := here } command (settings.watched observers) =
        some (result,after) ∧
      course { settings with keyStore := there } command (settings.watched observers) =
        some (result,other) ∧
      after.outward = other.outward := by
  have quiet := settings.watched_quiet observers
  have clear := settings.watched_clear observers .openKeyStore
  have first := course_matches { settings with keyStore := here } command quiet clear
  have last := course_matches { settings with keyStore := there } command quiet clear
  exact first.agree last

theorem runs_agree (settings : Settings) (here there : Option KeyStore) (command : Command) :
    runWith { settings with keyStore := here } command =
      runWith { settings with keyStore := there } command := by
  obtain ⟨result,after,other,ran,ended,_⟩ := courses_agree settings here there command []
  unfold runWith
  rw [settings.watched_alone,settings.watched_alone,ran,ended]
  cases result with
  | ok | error => rfl

-- For all settings, with any two key stores in them or with none, and for every command, the
-- program ends with the same code and prints the same, whatever surrounds it, as long as it is
-- these settings that it finds. It leaves the same behind, but for the key store itself and for its
-- having been opened, and tells the same to all who listen. And passwords are not shown. The log
-- that a run keeps on its way is no part of what it prints (`Result`); a line of it may tell that a
-- key store is opened, and where.
theorem key_store_silent (settings : Settings) (here there : Option KeyStore) (command : Command) :
    runWith { settings with keyStore := here } command =
      runWith { settings with keyStore := there } command ∧
    (∀ observers, ∃ result after other,
      course { settings with keyStore := here } command (settings.watched observers) =
        some (result,after) ∧
      course { settings with keyStore := there } command (settings.watched observers) =
        some (result,other) ∧
      after.outward = other.outward) ∧
    (∀ (surroundings : Surroundings) (source : String → Settings.Source),
      (∀ path, surroundings.path? = some path →
        Settings.load (surroundings.source path) = .ok { settings with keyStore := here } ∧
        Settings.load (source path) = .ok { settings with keyStore := there }) →
      run surroundings = run { surroundings with source }) ∧
    ∀ path user password other,
      KeyStore.redacted ⟨path,user,password⟩ = KeyStore.redacted ⟨path,user,other⟩ ∧
        KeyStore.redactedLines ⟨path,user,password⟩ = KeyStore.redactedLines ⟨path,user,other⟩ := by
  refine ⟨runs_agree settings here there command,courses_agree settings here there command,
    fun surroundings source loads => ?_,fun _ _ _ _ => ⟨rfl,rfl⟩⟩
  unfold run
  unfold Surroundings.path? at loads
  dsimp only
  cases parsed : Invocation.parse surroundings.words with
  | error wrong => cases wrong <;> rfl
  | ok invocation =>
    rw [parsed] at loads
    obtain ⟨loaded,other⟩ := loads _ rfl
    have path : Surroundings.pathFor { surroundings with source } invocation =
        surroundings.pathFor invocation := rfl
    dsimp only
    rw [path,loaded,other]
    split
    · rfl
    · cases invocation.userName.or surroundings.userName with
      | none => exact runs_agree settings here there invocation.command
      | some name => exact runs_agree { settings with identity := ⟨name⟩ } here there _

end Program

-- A file with text in it is read as that text.
theorem Settings.load_text {settings : Settings} {text : String}
    (read : (ofToml text).toOption = some settings) :
    load (.file text.toUTF8) = .ok settings := by
  have decoded : String.fromUTF8? text.toUTF8 = some text := by
    unfold String.fromUTF8?
    exact dif_pos text.isValidUTF8
  have decodes : load (.file text.toUTF8) = (ofToml text).mapError .invalid := by
    rw [load,decoded]
  cases told : ofToml text with
  | error fault =>
    rw [told] at read
    cases read
  | ok others =>
    rw [told] at read decodes
    cases Option.some.inj read
    exact decodes

namespace Sample

def cabin : Settings where
  identity := ⟨"ops"⟩
  approval := ⟨true,[]⟩
  fleet := [lampEntry]

def cabinText : String :=
  "[identity]\nuser_name = \"ops\"\n[approval]\nauto_approve = true\n[[fleet]]\nid = \"A1\"\n"
    ++ "name = \"Lamp\"\ndevice = \"hallway\"\nmanifest = \"lamp:off\"\n"

def safe : KeyStore := ⟨"/keys","ops","secret"⟩

def safeText : String := "[key_store]\npath = \"/keys\"\nuser = \"ops\"\npassword = \"secret\"\n"

def summoning (text : String) : Program.Surroundings :=
  ⟨["claim-all"],none,none,fun _ => .file text.toUTF8⟩

-- With the safe and without it, the lamp is claimed, and whoever takes down what goes on takes down
-- the same. Only the site knows of the safe.
theorem safe_silent :
    Settings.load (.file cabinText.toUTF8) = .ok cabin ∧
    Settings.load (.file (cabinText ++ safeText).toUTF8) =
      .ok { cabin with keyStore := some safe } ∧
    Program.run (summoning cabinText) = Program.run (summoning (cabinText ++ safeText)) ∧
    ∃ result after other,
      Program.course cabin .claimAll (cabin.watched [.recorder "log"]) = some (result,after) ∧
      Program.course { cabin with keyStore := some safe } .claimAll
        (cabin.watched [.recorder "log"]) = some (result,other) ∧
      after.fleet.keyStore = none ∧ other.fleet.keyStore = some safe ∧
      after.outward = other.outward ∧ (other.sightings "log").length = 3 := by
  have bare : Settings.load (.file cabinText.toUTF8) = .ok cabin :=
    Settings.load_text (by decide +kernel)
  have kept : Settings.load (.file (cabinText ++ safeText).toUTF8) =
      .ok { cabin with keyStore := some safe } := Settings.load_text (by decide +kernel)
  obtain ⟨_,courses,runs,_⟩ := Program.key_store_silent cabin none (some safe) .claimAll
  obtain ⟨result,after,other,ran,ended,left⟩ := courses [.recorder "log"]
  have never : (Program.course cabin .claimAll (cabin.watched [.recorder "log"])).all
      (·.2.fleet.keyStore = none) = true := by
    decide +kernel
  have opened : (Program.course { cabin with keyStore := some safe } .claimAll
      (cabin.watched [.recorder "log"])).all (fun ended =>
        ended.2.fleet.keyStore = some safe ∧ (ended.2.sightings "log").length = 3) = true := by
    decide +kernel
  rw [show Program.course cabin .claimAll _ = _ from ran] at never
  rw [ended] at opened
  obtain ⟨stored,told⟩ := of_decide_eq_true opened
  have same := runs (summoning cabinText) _ fun _ _ => ⟨bare,kept⟩
  exact ⟨bare,kept,same,result,after,other,ran,ended,of_decide_eq_true never,stored,left,told⟩

end Sample

end Custody
