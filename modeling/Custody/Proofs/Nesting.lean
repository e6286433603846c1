import Custody.Proofs.Integrity
import Custody.Proofs.Verdict

-- Claims inside claims. Approvers may claim whatever they like before they answer, the application
-- that they are asked about included, and a claim that they reject makes its application claimable
-- once more. But a claim that waits holds an application that was claimable, so no more of them can
-- wait inside one another than there were such applications, as long as nobody announces any.

namespace Custody

variable {id : ApplicationId}

namespace Keyed

variable {κ ν : Type} [Ord κ] [Std.TransOrd κ] [Std.LawfulEqOrd κ] {k : κ} {old : ν}

-- To replace a value is to count the new one for the old one.
theorem place_countP (p : ν → Bool) (new : ν) (pairs : List (κ × ν))
    (ascending : pairs.Pairwise (fun a b => compare a.1 b.1 = .lt))
    (found : lookup k pairs = some old) :
    ((place k new pairs).map (·.2)).countP p + (p old).toNat =
      (pairs.map (·.2)).countP p + (p new).toNat := by
  induction pairs with
  | nil => cases found
  | cons first rest ih =>
    obtain ⟨above,later⟩ := List.pairwise_cons.mp ascending
    unfold lookup at found
    unfold place
    split
    · rename_i before
      -- What is found stands further on, where all keys are greater still.
      rw [before] at found
      have member := (mem_pairs_iff ⟨rest,later⟩ k old).mpr found
      exact absurd (Std.TransCmp.lt_trans before (above _ member)) (not_below_self k)
    · rename_i same
      rw [if_pos same] at found
      cases found
      simp only [List.map_cons,List.countP_cons]
      cases p first.2 <;> cases p new <;> simp
    · rename_i after
      rw [after] at found
      have rest := ih later found
      simp only [List.map_cons,List.countP_cons]
      omega

theorem countP_insert (m : Keyed κ ν) (p : ν → Bool) (found : m.find? k = some old) (new : ν) :
    (m.insert k new).values.countP p + (p old).toNat = m.values.countP p + (p new).toNat :=
  place_countP p new m.pairs m.ascending found

-- The values of two maps that agree on some feature of them, key by key.
theorem values_congr {β : Type} {m n : Keyed κ ν} (feature : ν → β)
    (same : ∀ k, (n.find? k).map feature = (m.find? k).map feature) :
    n.values.map feature = m.values.map feature := by
  let seen (m : Keyed κ ν) : Keyed κ β :=
    ⟨m.pairs.map fun pair => (pair.1,feature pair.2),List.pairwise_map.mpr m.ascending⟩
  have found (m : Keyed κ ν) (k : κ) : (seen m).find? k = (m.find? k).map feature := by
    refine Option.ext fun value => ?_
    rw [← mem_pairs_iff,Option.map_eq_some_iff]
    simp [seen,← mem_pairs_iff]
  have equal : seen n = seen m := ext_find? _ _ fun k => by rw [found,found,same]
  have pairs := congrArg (fun m => m.pairs.map (·.2)) equal
  simpa [seen,values,Function.comp_def] using pairs

end Keyed

-- How many applications can be claimed.
def Fleet.claimable (fleet : Fleet) : Nat := fleet.records.values.countP (·.app.isClaimable)

-- An approver that announces nothing before it answers, nor registers one that would.
mutual

def Operation.Mute : Operation → Prop
  | .announce _ _ => False
  | .setApprover approver => ∀ app manifest, (approver app manifest).Mute
  | _ => True

def Inquiry.Mute : Inquiry → Prop
  | .answer _ => True
  | .ask operation next => operation.Mute ∧ ∀ outcome, (next outcome).Mute
  | .note _ _ next => next.Mute

end

-- One that goes through a list of operations is mute if none of them announces anything.
theorem inTurn_mute (next : List Outcome → Inquiry) (answers : ∀ outcomes, (next outcomes).Mute)
    {operations : List Operation} (mute : ∀ operation ∈ operations, operation.Mute)
    (outcomes : List Outcome) : (Inquiry.inTurn next operations outcomes).Mute := by
  induction operations generalizing outcomes with
  | nil => exact answers outcomes
  | cons operation rest ih =>
    obtain ⟨here,later⟩ := List.forall_mem_cons.mp mute
    exact ⟨here,fun outcome => ih later _⟩

theorem scripted_mute {operations : List Operation}
    (mute : ∀ operation ∈ operations, operation.Mute) (book : Option String)
    (decision : Application → Manifest → Bool) (app : Application) (manifest : Manifest) :
    (Approver.scripted operations book decision app manifest).Mute := by
  refine inTurn_mute _ (fun outcomes => ?_) mute []
  cases book with
  | none | some => exact trivial

def Site.Mute (site : Site) : Prop :=
  ∀ approver, site.approver = some approver → ∀ app manifest, (approver app manifest).Mute

theorem Site.Mute.congr {site after : Site} (mute : site.Mute)
    (same : after.approver = site.approver) : after.Mute := by
  intro approver registered
  exact mute approver (same.symm.trans registered)

namespace Fleet

variable {fleet after : Fleet} {record : Record}

theorem claimable_insert (found : fleet.records.find? id = some record)
    (inserted : after.records = fleet.records.insert id new) :
    after.claimable + record.app.isClaimable.toNat =
      fleet.claimable + new.app.isClaimable.toNat := by
  unfold claimable
  rw [inserted]
  exact fleet.records.countP_insert (·.app.isClaimable) found new

-- A claim that begins takes one application out of those that can be claimed.
theorem claimable_marked (found : fleet.records.find? id = some record)
    (free : record.app.claimState = .claimable) (app : new.app.claimState = .claiming)
    (inserted : after.records = fleet.records.insert id new) :
    after.claimable + 1 = fleet.claimable := by
  have counted := claimable_insert found inserted
  have freed : record.app.isClaimable = true := by rw [Application.isClaimable,free]; rfl
  have taken : new.app.isClaimable = false := by rw [Application.isClaimable,app]; rfl
  rw [freed,taken] at counted
  exact counted

-- A claim that is decided gives back no more than one.
theorem claimable_changed {edit : Record → Record}
    (changed : fleet.change id edit = some (event,after)) :
    after.claimable ≤ fleet.claimable + 1 := by
  obtain ⟨record,found,_,inserted⟩ := find?_change changed
  have counted := claimable_insert found inserted
  have one : (edit record).app.isClaimable.toNat ≤ 1 := Bool.toNat_le _
  omega

end Fleet

-- What an operation that announces nothing does to claim states if it makes nobody wait: nothing.
theorem Change.state_kept {operation : Operation} {outcome : Outcome}
    (change : Change id before (.performed operation outcome) after) (mute : operation.Mute) :
    after.map (·.app.isClaimable) = before.map (·.app.isClaimable) := by
  cases change with
  | absent | kept | running | enrolled | governed => rfl
  | announced new =>
    obtain ⟨_,_,_,same,_⟩ := announced_fresh new
    cases same
    exact mute.elim

theorem perform_claimable {site after : Site} {operation : Operation} {outcome : Outcome}
    (ran : operation.perform 0 site = some (outcome,after)) (mute : operation.Mute) :
    after.fleet.claimable = site.fleet.claimable := by
  have same := Keyed.values_congr (m := site.fleet.records) (n := after.fleet.records)
    (·.app.isClaimable) fun _ => (perform_change ran).state_kept mute
  have counted := congrArg (List.countP fun free => free) same
  rw [List.countP_map,List.countP_map] at counted
  exact counted

theorem perform_mute {site after : Site} {operation : Operation} {outcome : Outcome}
    (ran : operation.perform 0 site = some (outcome,after)) (mute : operation.Mute)
    (quiet : site.Mute) : after.Mute := by
  have asked : after.approver = (Move.performed operation outcome).appoints.or site.approver :=
    congrArg Prod.fst (Moment.perform_callbacks ran)
  intro approver registered
  rw [asked] at registered
  cases operation with
  | setApprover new =>
    cases registered
    exact mute
  | _ => exact quiet approver registered

theorem settled_claimable {site after : Site}
    (ended : site.endClaim id claimant approved = (result,after)) :
    after.fleet.claimable ≤ site.fleet.claimable + 1 := by
  rw [Site.endClaim_after ended,Site.after_fleet]
  cases changed : site.fleet.change id (·.settled claimant approved) with
  | none => exact Nat.le_succ _
  | some change => exact Fleet.claimable_changed changed

theorem settled_mute {site after : Site} (quiet : site.Mute)
    (ended : site.endClaim id claimant approved = (result,after)) : after.Mute := by
  rw [Site.endClaim_after ended]
  exact quiet.congr (Site.after_approver _ _)

-- What a mute approver asks for leaves a site at which approvers are mute, and at which no more
-- applications can be claimed than before.
structure Site.Calmed (site after : Site) : Prop where
  mute : after.Mute
  fewer : after.fleet.claimable ≤ site.fleet.claimable

theorem Site.Calmed.trans {site middle after : Site} (first : site.Calmed middle)
    (last : middle.Calmed after) : site.Calmed after :=
  ⟨last.mute,Nat.le_trans last.fewer first.fewer⟩

-- Every operation but a claim comes to a result, and whatever may wait has nothing to do with it.
theorem plain_ends {operation : Operation} (plain : ∀ app identity, operation ≠ .claim app identity)
    (mute : operation.Mute) (depth : Nat) {site : Site} (quiet : site.Mute) :
    (operation.perform depth).Ends site fun _ after => site.Calmed after := by
  have ran : ∃ outcome after, operation.perform depth site = some (outcome,after) ∧
      operation.perform 0 site = some (outcome,after) := by
    cases operation with
    | claim app identity => exact absurd rfl (plain app identity)
    | _ => exact ⟨_,_,rfl,rfl⟩
  obtain ⟨outcome,after,deep,shallow⟩ := ran
  exact ⟨outcome,after,deep,perform_mute shallow mute quiet,
    Nat.le_of_eq (perform_claimable shallow mute)⟩

-- If all claims come to a result from sites with no more than a number of claimable applications,
-- so does every inquiry of a mute approver.
theorem follow_ends {depth : Nat}
    (claims : ∀ {site : Site}, site.Mute → site.fleet.claimable ≤ depth → ∀ app identity,
      (Site.claimWithin depth app identity).Ends site fun _ after => site.Calmed after)
    (inquiry : Inquiry) (mute : inquiry.Mute) {site : Site} (quiet : site.Mute)
    (few : site.fleet.claimable ≤ depth) :
    (inquiry.follow (Operation.perform depth)).Ends site fun _ after => site.Calmed after := by
  match inquiry with
  | .answer approved => exact Course.ends_pure ⟨quiet,Nat.le_refl _⟩
  | .ask operation next =>
    obtain ⟨calm,later⟩ := mute
    have asked : (operation.perform depth).Ends site fun _ after => site.Calmed after := by
      cases operation with
      | claim app identity =>
        apply (claims quiet few app identity).bind
        intro result after calmed
        exact Course.ends_pure calmed
      | _ => exact plain_ends (fun _ _ same => by cases same) calm depth quiet
    apply asked.bind
    intro outcome middle calmed
    obtain ⟨approved,after,ran,further⟩ := follow_ends claims (next outcome) (later outcome)
      calmed.mute (Nat.le_trans calmed.fewer few)
    exact ⟨approved,after,ran,calmed.trans further⟩
  | .note book entry next =>
    obtain ⟨approved,after,ran,calmed⟩ :=
      follow_ends claims next mute (show (site.note book entry).Mute from quiet) few
    exact ⟨approved,after,ran,calmed.mute,calmed.fewer⟩

-- A claim that is refused at once.
theorem refused_ends {site marked : Site} {refusal : Refusal} {app : Application}
    {identity : Identity}
    (begun : site.beginClaim app.id identity.guid = (.error refusal,marked)) (depth : Nat)
    (quiet : site.Mute) :
    (Site.claimWithin depth app identity).Ends site fun _ after => site.Calmed after := by
  obtain ⟨fleet,records,rfl⟩ := Site.beginClaim_error begun
  have same : fleet.claimable = site.fleet.claimable := by
    unfold Fleet.claimable
    rw [records]
  exact ⟨_,_,Moment.claimWithin_refused begun depth,quiet,Nat.le_of_eq same⟩

-- A claim that is granted its mark asks a mute approver, at a site with one fewer to claim.
theorem begun_calm {site told : Site} {shown : Fleet.PendingClaim Approver}
    (begun : site.beginClaim id claimant = (.ok shown,told)) (quiet : site.Mute) :
    (shown.approver shown.app shown.manifest).Mute ∧ told.Mute ∧
      told.fleet.claimable + 1 = site.fleet.claimable := by
  obtain ⟨record,fleet,found,free,app,_,asked,inserted,rfl⟩ := Site.beginClaim_found begun
  refine ⟨quiet _ asked _ _,quiet.congr (Site.deliver_approver _ _),?_⟩
  rw [Site.deliver_fleet]
  exact Fleet.claimable_marked found free (congrArg (·.claimState) app) inserted

-- A claim comes to a result where no more approvers have to wait than applications can be claimed.
-- The induction is on their number: a claim that begins leaves one fewer to those inside it, and
-- gives it back no earlier than they have all been decided.
theorem claimWithin_ends (depth : Nat) {site : Site} (quiet : site.Mute)
    (few : site.fleet.claimable ≤ depth) (app : Application) (identity : Identity) :
    (Site.claimWithin depth app identity).Ends site fun _ after => site.Calmed after := by
  cases begun : site.beginClaim app.id identity.guid with
  | mk begins marked =>
    cases begins with
    | error refusal => exact refused_ends begun depth quiet
    | ok shown =>
      obtain ⟨mute,still,fewer⟩ := begun_calm begun quiet
      cases depth with
      | zero => omega
      | succ depth =>
        have within : marked.fleet.claimable ≤ depth := by omega
        obtain ⟨approved,answered,followed,calmed⟩ :=
          follow_ends (claimWithin_ends depth) _ mute still within
        cases ended : answered.endClaim app.id identity.guid approved with
        | mk result after =>
          have ran : Site.claimWithin (depth+1) app identity site = some (result,after) := by
            simp only [Site.claimWithin,begun]
            exact Option.bind_eq_some_iff.mpr ⟨_,followed,congrArg some ended⟩
          refine ⟨result,after,ran,settled_mute calmed.mute ended,?_⟩
          have given := settled_claimable ended
          have kept := calmed.fewer
          omega

-- What comes to a result goes on to do so where more approvers may wait.

theorem performWith_deeper {claim deeper : Application → Identity → Course (Except Refusal Unit)}
    (deep : ∀ {app identity site result after}, claim app identity site = some (result,after) →
      deeper app identity site = some (result,after))
    {operation : Operation} {site after : Site}
    (ran : operation.performWith claim site = some (outcome,after)) :
    operation.performWith deeper site = some (outcome,after) := by
  cases operation with
  | claim app identity =>
    obtain ⟨⟨result,last⟩,claimed,returned⟩ := Option.bind_eq_some_iff.mp ran
    exact Option.bind_eq_some_iff.mpr ⟨_,deep claimed,returned⟩
  | _ => exact ran

theorem follow_deeper {perform deeper : Operation → Course Outcome}
    (deep : ∀ {operation site outcome after}, perform operation site = some (outcome,after) →
      deeper operation site = some (outcome,after))
    (inquiry : Inquiry) {site after : Site}
    (followed : inquiry.follow perform site = some (approved,after)) :
    inquiry.follow deeper site = some (approved,after) := by
  match inquiry with
  | .answer decision => exact followed
  | .ask operation next =>
    obtain ⟨⟨outcome,middle⟩,asked,rest⟩ := Option.bind_eq_some_iff.mp followed
    exact Option.bind_eq_some_iff.mpr ⟨_,deep asked,follow_deeper deep (next outcome) rest⟩
  | .note book entry next => exact follow_deeper deep next followed

theorem claimWithin_deeper {depth : Nat} {app : Application} {identity : Identity}
    {site after : Site} (ran : Site.claimWithin depth app identity site = some (result,after)) :
    Site.claimWithin (depth+1) app identity site = some (result,after) := by
  induction depth generalizing app identity site result after with
  | zero =>
    unfold Site.claimWithin at ran ⊢
    split at ran
    · exact ran
    · cases ran
  | succ depth ih =>
    unfold Site.claimWithin at ran ⊢
    split at ran
    · exact ran
    · obtain ⟨⟨approved,last⟩,followed,ended⟩ := Option.bind_eq_some_iff.mp ran
      exact Option.bind_eq_some_iff.mpr
        ⟨_,follow_deeper (performWith_deeper ih) _ followed,ended⟩

theorem claimWithin_le {depth deeper : Nat} (within : depth ≤ deeper) {app : Application}
    {identity : Identity} {site after : Site}
    (ran : Site.claimWithin depth app identity site = some (result,after)) :
    Site.claimWithin deeper app identity site = some (result,after) := by
  induction within with
  | refl => exact ran
  | step _ ih => exact claimWithin_deeper ih

namespace Moment

-- All that wait above some number of claims are mute, and so is who is asked next.
structure Hushed (base : Nat) (m : Moment) : Prop where
  site : m.site.Mute
  above : ∃ newer below, m.waiting = newer ++ below ∧ below.length = base ∧
    ∀ waiting ∈ newer, waiting.rest.Mute

-- The claims that wait and the applications that can be claimed, taken together.
def load (m : Moment) : Nat := m.waiting.length + m.site.fleet.claimable

theorem told_mute {waiting : Waiting} (mute : waiting.rest.Mute) (outcome : Outcome) :
    (waiting.told outcome).rest.Mute := by
  obtain ⟨claim,inquiry⟩ := waiting
  cases inquiry with
  | ask operation next => exact mute.2 outcome
  | answer | note => exact mute

theorem told_above {frames newer below : List Waiting} (outcome : Outcome)
    (stack : frames = newer ++ below) (mute : ∀ waiting ∈ newer, waiting.rest.Mute) :
    ∃ later under, frames.modifyHead (·.told outcome) = later ++ under ∧
      under.length = below.length ∧ ∀ waiting ∈ later, waiting.rest.Mute := by
  subst stack
  cases newer with
  | nil => exact ⟨[],below.modifyHead (·.told outcome),rfl,List.length_modifyHead,nofun⟩
  | cons first rest =>
    refine ⟨first.told outcome :: rest,below,rfl,rfl,fun waiting member => ?_⟩
    rcases List.mem_cons.mp member with rfl | later
    · exact told_mute (mute first List.mem_cons_self) outcome
    · exact mute waiting (List.mem_cons_of_mem _ later)

-- No move of a mute approver adds to them: where a claim begins, one more waits and one fewer can
-- be claimed, and a claim that is decided no longer waits.
theorem step_hushed (hushed : Hushed base m) (enough : base+1 ≤ m.waiting.length)
    (step : Step m move next) : Hushed base next ∧ next.load ≤ m.load := by
  obtain ⟨quiet,newer,below,stack,count,mute⟩ := hushed
  obtain ⟨first,rest,rfl⟩ : ∃ first rest, newer = first :: rest := by
    cases newer with
    | nil => rw [stack,List.nil_append,count] at enough; omega
    | cons first rest => exact ⟨first,rest,rfl⟩
  have here : first.rest.Mute := mute first List.mem_cons_self
  have others : ∀ waiting ∈ rest, waiting.rest.Mute :=
    fun waiting member => mute waiting (List.mem_cons_of_mem _ member)
  cases step with
  | perform asked ran =>
    rw [stack] at asked
    cases asked with
    | inside =>
      obtain ⟨later,under,told,same,calm⟩ := told_above _ stack mute
      refine ⟨⟨perform_mute ran here.1 quiet,later,under,told,same.trans count,calm⟩,?_⟩
      simp only [load,perform_claimable ran here.1,List.length_modifyHead]
      exact Nat.le_refl _
  | begin asked begun claim same =>
    obtain ⟨calm,still,fewer⟩ := begun_calm begun quiet
    refine ⟨⟨still,_ :: first :: rest,below,by rw [stack]; rfl,count,?_⟩,?_⟩
    · intro waiting member
      rcases List.mem_cons.mp member with rfl | earlier
      · exact calm
      · exact mute waiting earlier
    · simp only [load,List.length_cons]
      omega
  | note waits =>
    obtain ⟨rfl,rfl⟩ := List.cons.inj (stack.symm.trans waits)
    refine ⟨⟨quiet,⟨_,_⟩ :: rest,below,rfl,count,?_⟩,?_⟩
    · intro waiting member
      rcases List.mem_cons.mp member with rfl | earlier
      · exact here
      · exact others waiting earlier
    · rw [load,load,waits]
      exact Nat.le_refl _
  | decide waits ended =>
    obtain ⟨rfl,rfl⟩ := List.cons.inj (stack.symm.trans waits)
    obtain ⟨later,under,told,same,calm⟩ := told_above _ rfl others
    refine ⟨⟨settled_mute quiet ended,later,under,told,same.trans count,calm⟩,?_⟩
    have given := settled_claimable ended
    simp only [load,waits,List.length_modifyHead,List.length_cons]
    omega

theorem above_hushed (hushed : Hushed base m) (leads : LeadsAbove (base+1) m next) :
    Hushed base next ∧ next.load ≤ m.load := by
  induction leads with
  | refl => exact ⟨hushed,Nat.le_refl _⟩
  | tail _ last ih =>
    obtain ⟨enough,_,step⟩ := last
    obtain ⟨further,fewer⟩ := step_hushed ih.1 enough step
    exact ⟨further,Nat.le_trans fewer ih.2⟩

theorem began_hushed (mute : m.site.Mute) (step : Step m (.began claim) begun) :
    Hushed m.waiting.length begun ∧ begun.load = m.load := by
  cases step with
  | begin asked marked claim same =>
    obtain ⟨calm,still,fewer⟩ := begun_calm marked mute
    refine ⟨⟨still,[_],m.waiting,rfl,rfl,fun waiting member => ?_⟩,?_⟩
    · rw [List.mem_singleton.mp member]
      exact calm
    · simp only [load,List.length_cons]
      omega

-- Moves that are computed, all of them above some number of claims.
theorem run_above {outside : List Operation}
    (ran : m.run (fun m _ => decide (fewest ≤ m.waiting.length)) outside = some next) :
    LeadsAbove fewest m next := by
  induction outside generalizing m with
  | nil => cases ran; exact .refl
  | cons operation rest ih =>
    unfold run at ran
    split at ran
    · rename_i advanced
      split at ran
      · rename_i enough
        exact (ih ran).head ⟨of_decide_eq_true enough,_,advance_sound advanced⟩
      · cases ran
    · cases ran

-- Where approvers are mute every claim comes to a result, and it needs no more of them to wait than
-- applications can be claimed. At every moment until then, the claims that wait since it began, and
-- itself, are no more than that, even with those that could still begin. What is refused at once
-- waits for nobody, and nothing can be claimed inside it.
theorem claims_nest {m : Moment} (mute : m.site.Mute) :
    (∀ app identity, ∃ result after, ∀ depth, m.site.fleet.claimable ≤ depth →
      Site.claimWithin depth app identity m.site = some (result,after)) ∧
    ∀ claim begun n, m.Step (.began claim) begun → LeadsAbove (m.waiting.length+1) begun n →
      n.waiting.length + n.site.fleet.claimable ≤ m.waiting.length + m.site.fleet.claimable := by
  constructor
  · intro app identity
    obtain ⟨result,after,ran,_⟩ := claimWithin_ends _ mute (Nat.le_refl _) app identity
    exact ⟨result,after,fun depth few => claimWithin_le few ran⟩
  · intro claim begun n step leads
    obtain ⟨hushed,same⟩ := began_hushed mute step
    obtain ⟨_,fewer⟩ := above_hushed hushed leads
    rw [same] at fewer
    exact fewer

end Moment

namespace Sample

-- Whoever is asked claims the lamp and the fan, and then says no.
def eager : Moment :=
  following (fun _ _ => true)
    [.createIdentity alice,.setApprover (asking [.claim lamp alice,.claim fan alice] false),
      .announce lamp ⟨[0]⟩,.announce fan ⟨[0]⟩]

-- The lamp is claimed, then the fan inside it, and there is nothing to be claimed inside that.
theorem eager_nest :
    eager.site.Mute ∧ eager.site.fleet.claimable = 2 ∧
      (∃ result after, ∀ depth, 2 ≤ depth →
        Site.claimWithin depth lamp alice eager.site = some (result,after)) ∧
      ∃ claim begun n, eager.Step (.began claim) begun ∧ Moment.LeadsAbove 1 begun n ∧
        n.waiting.length = 2 ∧ n.waiting.length + n.site.fleet.claimable ≤ 2 := by
  have mute : eager.site.Mute := by
    intro approver registered
    cases registered
    refine scripted_mute ?_ none _
    simp [Operation.Mute]
  obtain ⟨claim,begun,n,began,ran,two⟩ : ∃ claim begun n,
      eager.advance (.claim lamp alice) = some (.began claim,begun) ∧
      begun.run (fun m _ => decide (1 ≤ m.waiting.length))
        (List.replicate 2 (.claim lamp alice)) = some n ∧ n.waiting.length = 2 :=
    ⟨_,_,_,rfl,rfl,rfl⟩
  obtain ⟨returns,bound⟩ := Moment.claims_nest mute
  have step := Moment.advance_sound began
  have leads := Moment.run_above ran
  have few := bound claim begun n step leads
  exact ⟨mute,by decide,returns lamp alice,claim,begun,n,step,leads,two,few⟩

end Sample

end Custody
