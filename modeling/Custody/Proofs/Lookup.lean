import Custody.Proofs.Verdict
import Custody.Proofs.Following

-- Two ways to look an application up: by its id, and by going through the listing until it turns
-- up. They come to the same at every moment, also inside claims, since what is listed stands under
-- its own id and no id is listed twice.

namespace Custody

variable {id : ApplicationId}

namespace Transport

variable {m : Type → Type} [Monad m] {Approver Listener : Type}

-- The same calls, except that whoever looks an application up goes through the listing.
def scanning (transport : Transport m Approver Listener) : Transport m Approver Listener where
  listApplications := transport.listApplications
  claim := transport.claim
  installMembership := transport.installMembership
  installPolicy := transport.installPolicy
  updateIdentity := transport.updateIdentity
  getGuild := transport.getGuild
  createGuild := transport.createGuild
  getIdentity := transport.getIdentity
  createIdentity := transport.createIdentity
  setApprover := transport.setApprover
  addListener := transport.addListener
  openKeyStore := transport.openKeyStore

theorem scanning_getApplication (transport : Transport m Approver Listener) (id : ApplicationId) :
    transport.scanning.getApplication id = (do
      match ← transport.listApplications with
      | .error refusal => pure (.error refusal)
      | .ok apps =>
        match apps.find? (fun app => app.id == id) with
        | some app => pure (.ok app)
        | none => pure (.error (.unknownApplication id))) := rfl

end Transport

-- What is known of an application, or that nothing is.
def Fleet.known (fleet : Fleet) (id : ApplicationId) : Except Refusal Application :=
  match fleet.info id with
  | some app => .ok app
  | none => .error (.unknownApplication id)

-- A site at which a call has been written down, and nothing else is different.
def Site.logged (site : Site) (call : Call) : Site :=
  { site with fleet := { site.fleet with calls := site.fleet.calls ++ [call] } }

-- In a list that shows everything, the first application with an id is what can be looked up.
theorem Shows.first (shows : Shows apps lookup)
    (own : ∀ id app, lookup id = some app → app.id = id) (id : ApplicationId) :
    apps.find? (fun app => app.id == id) = lookup id := by
  cases first : apps.find? (fun app => app.id == id) with
  | some app =>
    have here : app.id = id := by simpa using List.find?_some first
    rw [← here]
    exact ((shows.all app).mp (List.mem_of_find?_eq_some first)).symm
  | none =>
    cases known : lookup id with
    | none => rfl
    | some app =>
      obtain rfl := own id app known
      have absent := List.find?_eq_none.mp first app ((shows.all app).mpr known)
      simp at absent

namespace Site

variable {site : Site}

theorem getApplication_known (clear : site.fleet.faults .getApplication = none) (depth : Nat)
    (id : ApplicationId) :
    Course.Ends ((Site.transport depth).getApplication id) site fun result after =>
      result = site.fleet.known id ∧ after = site.logged .getApplication := by
  have answered : site.fleet.getApplication id =
      (site.fleet.known id,site.fleet.received .getApplication) := by
    rw [Fleet.getApplication,Fleet.answer_clear _ _ _ clear]
    cases found : site.fleet.records.find? id with
    | none | some => simp [Fleet.received,Fleet.known,Fleet.info,found]
  exact Course.ends_call answered ⟨rfl,rfl⟩

theorem listApplications_all (clear : site.fleet.faults .listApplications = none) (depth : Nat) :
    Course.Ends (Site.transport depth).listApplications site fun result after =>
      result = .ok site.fleet.applications ∧ after = site.logged .listApplications :=
  Course.ends_call (Fleet.answer_clear _ _ _ clear) ⟨rfl,rfl⟩

theorem scanning_known (own : site.fleet.Own)
    (clear : site.fleet.faults .listApplications = none) (depth : Nat) (id : ApplicationId) :
    Course.Ends ((Site.transport depth).scanning.getApplication id) site fun result after =>
      result = site.fleet.known id ∧ after = site.logged .listApplications := by
  have first : site.fleet.applications.find? (fun app => app.id == id) = site.fleet.info id :=
    own.shows.first own id
  rw [Transport.scanning_getApplication]
  apply (listApplications_all clear depth).bind
  rintro _ after ⟨rfl,same⟩
  dsimp only
  rw [first,Fleet.known]
  cases site.fleet.info id with
  | none | some => exact Course.ends_pure ⟨rfl,same⟩

end Site

namespace Moment

theorem leads_own (leads : Leads m next) (own : m.site.fleet.Own) : next.site.fleet.Own :=
  leads_keeps (fun step own => (step_tells own step).own own) leads own

theorem reached_leads (reached : Reached allowed m) : Leads {} m := by
  induction reached with
  | initial => exact .refl
  | step _ step _ ih => exact ih.tail ⟨_,step⟩

-- Whatever has been done with a site, and in the midst of whatever claims: where neither way is set
-- to fail, both answer with what is known of the application, and leave nothing but their call.
theorem lookups_agree (run : Scene.Run {} deeds s) (leads : s.moment.Leads m)
    (lookup : m.site.fleet.faults .getApplication = none)
    (listing : m.site.fleet.faults .listApplications = none) (depth : Nat) (id : ApplicationId) :
    Course.Ends ((Site.transport depth).getApplication id) m.site (fun result after =>
      result = m.site.fleet.known id ∧ after = m.site.logged .getApplication) ∧
    Course.Ends ((Site.transport depth).scanning.getApplication id) m.site (fun result after =>
      result = m.site.fleet.known id ∧ after = m.site.logged .listApplications) :=
  ⟨Site.getApplication_known lookup depth id,
    Site.scanning_known (leads_own leads (Scene.run_own run)) listing depth id⟩

end Moment

namespace Sample

-- The approver of the lamp announces it once more, under another name, and is about to answer.
def amid : Moment :=
  ending (fun _ _ => true) (asking [.announce { lamp with name := "Beacon" } ⟨[1]⟩] true) 2

theorem amid_lookups :
    Moment.Leads {} amid ∧ amid.waiting.length = 1 ∧ amid.site.fleet.faults .getApplication = none ∧
      amid.site.fleet.faults .listApplications = none ∧
      amid.site.fleet.known lamp.id = .ok { lamp with name := "Beacon" } ∧
      amid.site.fleet.known ⟨"Z9"⟩ = .error (.unknownApplication ⟨"Z9"⟩) ∧
      ∀ id, Course.Ends ((Site.transport 0).getApplication id) amid.site (fun result after =>
          result = amid.site.fleet.known id ∧ after = amid.site.logged .getApplication) ∧
        Course.Ends ((Site.transport 0).scanning.getApplication id) amid.site
          (fun result after =>
            result = amid.site.fleet.known id ∧ after = amid.site.logged .listApplications) :=
  ⟨Moment.reached_leads (ending_reached _ _ _),rfl,rfl,rfl,rfl,rfl,
    Moment.lookups_agree .nothing (Moment.reached_leads (ending_reached _ _ _)) rfl rfl 0⟩

end Sample

end Custody
