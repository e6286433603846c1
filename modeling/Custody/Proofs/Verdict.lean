import Custody.Proofs.Callbacks

-- Claims by approvers that only answer, at sites where anything may be set to fail. Such a claim
-- always comes to a result, and what it comes to stands at the site when it begins: it is refused
-- before anybody is asked, or its record is settled as the approver decides.

namespace Custody

variable {id : ApplicationId} {claimant : Guid}

-- An approver that does nothing but answer. It may write down what it was asked.
def Inquiry.Quiet : Inquiry → Prop
  | .answer _ => True
  | .ask _ _ => False
  | .note _ _ next => next.Quiet

def Approver.Quiet (approver : Approver) : Prop := ∀ app manifest, (approver app manifest).Quiet

-- What such an inquiry decides, and the site once it has written everything down.
def Inquiry.verdict : Inquiry → Bool
  | .answer approved => approved
  | .ask _ _ => false
  | .note _ _ next => next.verdict

def Inquiry.noted : Inquiry → Site → Site
  | .answer _,site | .ask _ _,site => site
  | .note book entry next,site => next.noted (site.note book entry)

theorem follow_verdict {perform : Operation → Course Outcome} (inquiry : Inquiry)
    (quiet : inquiry.Quiet) (site : Site) :
    inquiry.follow perform site = some (inquiry.verdict,inquiry.noted site) := by
  match inquiry with
  | .answer decision => rfl
  | .note book entry next => exact follow_verdict next quiet (site.note book entry)

theorem noted_only (inquiry : Inquiry) (site : Site) :
    ∃ books, inquiry.noted site = { site with books } := by
  match inquiry with
  | .answer _ | .ask _ _ => exact ⟨site.books,rfl⟩
  | .note book entry next => exact noted_only next (site.note book entry)

-- The record of an application.
def Site.record (site : Site) (id : ApplicationId) : Option Record := site.fleet.records.find? id

def Site.Quiet (site : Site) : Prop :=
  ∀ approver, site.approver = some approver → Approver.Quiet approver

theorem Site.Quiet.congr {site after : Site} (quiet : site.Quiet)
    (same : after.approver = site.approver) : after.Quiet := by
  intro approver registered
  exact quiet approver (same.symm.trans registered)

-- A record as an approver is shown it.
def Record.marked (record : Record) : Record :=
  { record with app := { record.app with claimState := .claiming } }

-- A claim that is rejected leaves what is claimable and nobody's as it was.
theorem Record.marked_rejected {record : Record} (free : record.app.claimState = .claimable)
    (unowned : record.owner = none) (claimant : Guid) :
    record.marked.settled claimant false = record := by
  obtain ⟨⟨id,name,device,state,runs⟩,manifest,owner,memberships,policy⟩ := record
  cases free
  cases unowned
  rfl

namespace Fleet

-- The fleet once a claim has gone to an approver.
def marking (fleet : Fleet) (id : ApplicationId) (record : Record) : Fleet :=
  { fleet.received .claim with records := fleet.records.insert id record.marked }

theorem answer_clear (fleet : Fleet) (call : Call) (body : Fleet → Except Refusal α × Fleet)
    (clear : fleet.faults call = none) : fleet.answer call body = body (fleet.received call) := by
  rw [answer,clear]

theorem beginClaim_free {Approver : Type} {fleet : Fleet} {claimant : Guid} {approver : Approver}
    (clear : fleet.faults .claim = none) (stored : fleet.identities.contains claimant = true)
    (found : fleet.records.find? id = some record) (free : record.app.claimState = .claimable) :
    fleet.beginClaim id claimant (some approver) =
      (.ok (⟨record.marked.app,record.manifest,approver⟩,⟨record.marked.app,some record.app⟩),
        fleet.marking id record) := by
  rw [beginClaim,answer_clear _ _ _ clear]
  simp [received,stored,found,free,marking,Record.marked]

variable {Approver : Type}

-- Why a claim is refused before anybody is asked. Where there are several causes, the first of them
-- counts.
inductive Refuses (fleet : Fleet) (id : ApplicationId) (claimant : Guid)
    (approver : Option Approver) : Refusal → Prop where
  | fault (set : fleet.faults .claim = some fault) : Refuses fleet id claimant approver fault
  | stranger (clear : fleet.faults .claim = none)
      (absent : fleet.identities.find? claimant = none) :
      Refuses fleet id claimant approver (.notFound "identity" claimant)
  | unknown (clear : fleet.faults .claim = none)
      (stored : (fleet.identities.find? claimant).isSome) (absent : fleet.records.find? id = none) :
      Refuses fleet id claimant approver (.unknownApplication id)
  | taken (clear : fleet.faults .claim = none)
      (stored : (fleet.identities.find? claimant).isSome)
      (found : fleet.records.find? id = some record) (taken : record.app.claimState ≠ .claimable) :
      Refuses fleet id claimant approver (.notClaimable id record.app.claimState)
  | unattended (clear : fleet.faults .claim = none)
      (stored : (fleet.identities.find? claimant).isSome)
      (found : fleet.records.find? id = some record) (free : record.app.claimState = .claimable)
      (nobody : approver = none) : Refuses fleet id claimant approver .noApprover

theorem Refuses.injected {fleet : Fleet} {approver : Option Approver} {refusal fault : Refusal}
    (refuses : fleet.Refuses id claimant approver refusal)
    (set : fleet.faults .claim = some fault) : refusal = fault := by
  cases refuses with
  | fault same => exact Option.some.inj (same.symm.trans set)
  | stranger clear | unknown clear | taken clear | unattended clear => cases clear.symm.trans set

theorem beginClaim_spec (fleet : Fleet) (id : ApplicationId) (claimant : Guid)
    (approver : Option Approver) :
    (∃ refusal, fleet.Refuses id claimant approver refusal ∧
      fleet.beginClaim id claimant approver = (.error refusal,fleet.received .claim)) ∨
    ∃ record decider, fleet.faults .claim = none ∧ fleet.records.find? id = some record ∧
      record.app.claimState = .claimable ∧ approver = some decider ∧
      fleet.beginClaim id claimant approver =
        (.ok (⟨record.marked.app,record.manifest,decider⟩,⟨record.marked.app,some record.app⟩),
          fleet.marking id record) := by
  cases faulty : fleet.faults .claim with
  | some fault => exact .inl ⟨fault,.fault faulty,by rw [beginClaim,answer,faulty]⟩
  | none =>
    cases known : fleet.identities.find? claimant with
    | none =>
      refine .inl ⟨_,.stranger faulty known,?_⟩
      simp [beginClaim,answer,faulty,received,Keyed.contains,known]
    | some identity =>
      have stored : (fleet.identities.find? claimant).isSome := Option.isSome_of_eq_some known
      cases found : fleet.records.find? id with
      | none =>
        refine .inl ⟨_,.unknown faulty stored found,?_⟩
        simp [beginClaim,answer,faulty,received,Keyed.contains,stored,found]
      | some record =>
        by_cases free : record.app.claimState = .claimable
        · cases approver with
          | none =>
            refine .inl ⟨_,.unattended faulty stored found free rfl,?_⟩
            simp [beginClaim,answer,faulty,received,Keyed.contains,stored,found,free]
          | some decider =>
            exact .inr ⟨record,decider,rfl,rfl,free,rfl,beginClaim_free faulty stored found free⟩
        · refine .inl ⟨_,.taken faulty stored found free,?_⟩
          simp [beginClaim,answer,faulty,received,Keyed.contains,stored,found,free]

end Fleet

-- What comes of a claim by an approver that only answers.
inductive Judged (site : Site) (id : ApplicationId) (claimant : Guid) :
    Except Refusal Unit → Site → Prop where
  | refused (refuses : site.fleet.Refuses id claimant site.approver refusal) :
      Judged site id claimant (.error refusal) { site with fleet := site.fleet.received .claim }
  | decided (clear : site.fleet.faults .claim = none) (found : site.record id = some record)
      (free : record.app.claimState = .claimable) (asked : site.approver = some approver)
      (verdict : (approver record.marked.app record.manifest).verdict = approved)
      (settled : after.fleet = { site.fleet.received .claim with
        records := site.fleet.records.insert id (record.marked.settled claimant approved) })
      (callbacks : after.callbacks = site.callbacks) :
      Judged site id claimant (if approved then .ok () else .error (.manifestRejected id)) after

theorem Judged.logged {site after : Site} (judged : Judged site id claimant result after) :
    after.fleet.calls = site.fleet.calls ++ [.claim] := by
  cases judged with
  | refused => rfl
  | decided _ _ _ _ _ settled => rw [settled]; rfl

theorem Judged.faults {site after : Site} (judged : Judged site id claimant result after) :
    after.fleet.faults = site.fleet.faults := by
  cases judged with
  | refused => rfl
  | decided _ _ _ _ _ settled => rw [settled]; rfl

theorem Judged.callbacks {site after : Site} (judged : Judged site id claimant result after) :
    after.callbacks = site.callbacks := by
  cases judged with
  | refused => rfl
  | decided _ _ _ _ _ _ callbacks => exact callbacks

namespace Site

variable {site told : Site} {record : Record}

-- The second half of a claim, on a record that has been marked and is marked still.
theorem settled_fleet (marked : told.fleet = site.fleet.marking id record) (claimant : Guid)
    (approved : Bool) :
    (told.after (told.fleet.change id (·.settled claimant approved))).fleet =
      { site.fleet.received .claim with
        records := site.fleet.records.insert id (record.marked.settled claimant approved) } := by
  rw [after_fleet,marked]
  simp [Fleet.change,Fleet.marking,Keyed.insert_insert]

theorem claimWithin_judged (quiet : site.Quiet) (depth : Nat) (app : Application)
    (identity : Identity) :
    (claimWithin (depth+1) app identity).Ends site (Judged site app.id identity.guid) := by
  rcases site.fleet.beginClaim_spec app.id identity.guid site.approver with
    ⟨refusal,refuses,refused⟩ | ⟨record,approver,clear,found,free,asked,marked⟩
  · have begun : site.beginClaim app.id identity.guid =
        (.error refusal,{ site with fleet := site.fleet.received .claim }) := by
      rw [beginClaim,refused]
    exact ⟨_,_,Moment.claimWithin_refused begun _,.refused refuses⟩
  · let marking := { site with fleet := site.fleet.marking app.id record }
    let told := marking.deliver ⟨record.marked.app,some record.app⟩
    let inquiry := approver record.marked.app record.manifest
    have begun : site.beginClaim app.id identity.guid =
        (.ok ⟨record.marked.app,record.manifest,approver⟩,told) := by
      rw [beginClaim,marked]
    have ran : claimWithin (depth+1) app identity site =
        some ((inquiry.noted told).endClaim app.id identity.guid inquiry.verdict) := by
      simp only [claimWithin,begun]
      rw [follow_verdict inquiry (quiet approver asked _ _)]
      rfl
    rw [endClaim_spec] at ran
    obtain ⟨books,noted⟩ := noted_only inquiry told
    refine ⟨_,_,ran,.decided clear found free asked rfl ?settled ?callbacks⟩
    case settled =>
      apply settled_fleet
      rw [noted]
      exact deliver_fleet marking _
    case callbacks =>
      rw [after_callbacks,noted]
      exact deliver_callbacks marking _

-- The same of every claim that comes to a result, however few approvers may wait.
theorem judged_within {after : Site} {depth : Nat} {app : Application} {identity : Identity}
    (quiet : site.Quiet)
    (ran : claimWithin depth app identity site = some (result,after)) :
    Judged site app.id identity.guid result after := by
  cases depth with
  | succ depth => exact (claimWithin_judged quiet depth app identity).only ran
  | zero =>
    have deeper : claimWithin 1 app identity site = some (result,after) := by
      unfold claimWithin at ran ⊢
      split at ran
      · exact ran
      · cases ran
    exact (claimWithin_judged quiet 0 app identity).only deeper

end Site

end Custody
