import Custody.Proofs.Attachment
import Custody.Proofs.Integrity
import Custody.Proofs.Verdict

-- One call of a claim, whatever is done while it lasts. It is refused at once, or it tells all
-- listeners that the application is being claimed, asks one approver, and tells all listeners what
-- came of it. Approvers may claim too before they answer, so what a claim does itself is told from
-- what is done inside it by the claims that wait: while it waits, every move is somebody else's.

namespace Custody

variable {id : ApplicationId}

-- Moves that follow on one another, made while no fewer claims wait than some number.
inductive Moment.Trail (fewest : Nat) (start : Moment) : List Move → Moment → Prop where
  | nothing : Trail fewest start [] start
  | move (before : Trail fewest start moves m) (enough : fewest ≤ m.waiting.length)
      (step : Step m move next) : Trail fewest start (moves ++ [move]) next

-- The moves that a claim makes itself: to ask its approver, and to do what that one says.
inductive Claim.Makes (claim : Claim) : Move → Prop where
  | began : claim.Makes (.began claim)
  | decided : claim.Makes (.decided claim approved)

-- A claim that passes all checks: what it finds, what is told to everybody who listens, and who is
-- asked about what.
structure Moment.Consults (m : Moment) (app : Application) (identity : Identity) (record : Record)
    (claim : Claim) (begun : Moment) : Prop where
  found : m.site.record app.id = some record
  free : record.app.claimState = .claimable
  approver : m.site.approver = some claim.shown.approver
  made : claim = ⟨app.id,identity.guid,
    ⟨{ record.app with claimState := .claiming },record.manifest,claim.shown.approver⟩,
    m.past.length⟩
  step : m.Step (.began claim) begun
  told : begun.site = m.site.listeners.foldl (Site.tell ⟨claim.shown.app,some record.app⟩)
    { m.site with fleet := m.site.fleet.marking app.id record }
  asked : begun.waiting =
    ⟨claim,claim.shown.approver claim.shown.app claim.shown.manifest⟩ :: m.waiting

-- The rest of it, once the approver has come to its answer: the claim itself has made no move
-- meanwhile, and it makes one more.
structure Moment.Concludes (begun : Moment) (claim : Claim) (others : List Waiting) (depth : Nat)
    (approved : Bool) (decided : Moment) (last : Record) (after : Site) : Prop where
  answered : (claim.shown.approver claim.shown.app claim.shown.manifest).follow
    (Operation.perform depth) begun.site = some (approved,decided.site)
  meanwhile : ∃ moves, begun.Trail (others.length+1) moves decided ∧
    ∀ move ∈ moves, ¬claim.Makes move
  waits : decided.waiting = ⟨claim,.answer approved⟩ :: others
  found : decided.site.record claim.id = some last
  own : last.app.id = claim.id
  told : after = decided.site.listeners.foldl
    (Site.tell ⟨{ last.app with claimState := if approved then .claimed else .claimable },
      some last.app⟩)
    { decided.site with fleet := { decided.site.fleet with
        records := decided.site.fleet.records.insert claim.id
          (last.settled claim.claimant approved) } }

namespace Moment

theorem trail_leads (trail : Trail fewest m moves next) : Leads m next := by
  induction trail with
  | nothing => exact .refl
  | move _ _ step ih => exact ih.tail ⟨_,step⟩

theorem above_trail (leads : LeadsAbove fewest m next) : ∃ moves, Trail fewest m moves next := by
  induction leads with
  | refl => exact ⟨[],.nothing⟩
  | tail _ last ih =>
    obtain ⟨moves,before⟩ := ih
    obtain ⟨enough,move,step⟩ := last
    exact ⟨moves ++ [move],.move before enough step⟩

-- No application is ever forgotten.
theorem step_known (step : Step m move next) (known : (m.site.record id).isSome) :
    (next.site.record id).isSome := by
  obtain ⟨record,found⟩ := Option.isSome_iff_exists.mp known
  have change := step_change step id
  rw [show m.site.fleet.records.find? id = some record from found] at change
  unfold Site.record
  generalize next.site.fleet.records.find? id = after at change
  cases change with
  | kept | announced | running | enrolled | governed | marked | decided => rfl

-- The claims that wait on top of one that began at a certain place are those that began after it.
structure Covers (claim : Claim) (others : List Claim) (m : Moment) : Prop where
  known : claim.since < m.past.length
  stack : ∃ newer, m.claims = newer ++ claim :: others ∧
    ∀ other ∈ newer, claim.since < other.since

theorem began_covers (step : Step m (.began claim) next) : Covers claim m.claims next := by
  obtain ⟨since,claims⟩ := step_claims step
  refine ⟨?_,[],claims,nofun⟩
  rw [step_past step,since]
  simp

-- As long as it waits itself, claims that began later may begin and be decided, and it makes no
-- move.
theorem covers_step (covers : Covers claim others m) (step : Step m move next)
    (enough : others.length+1 ≤ next.waiting.length) :
    Covers claim others next ∧ ¬claim.Makes move := by
  obtain ⟨known,newer,stack,later⟩ := covers
  have claims := step_claims step
  have longer : claim.since < next.past.length := by
    rw [step_past step,List.length_append]
    exact Nat.lt_add_right _ known
  cases move with
  | performed operation outcome =>
    exact ⟨⟨longer,newer,claims.trans stack,later⟩,nofun⟩
  | noted book entry => exact ⟨⟨longer,newer,claims.trans stack,later⟩,nofun⟩
  | began new =>
    obtain ⟨since,claims⟩ := claims
    refine ⟨⟨longer,new :: newer,by rw [claims,stack]; rfl,?_⟩,fun makes => ?_⟩
    · intro other member
      rcases List.mem_cons.mp member with rfl | old
      · rw [since]
        exact known
      · exact later other old
    · cases makes
      exact absurd known (by rw [since]; exact Nat.lt_irrefl _)
  | decided ended approved =>
    have front : newer ++ claim :: others = ended :: next.claims := stack.symm.trans claims
    cases newer with
    | nil =>
      -- It would be the claim itself that is decided, and then one fewer would wait.
      obtain ⟨_,rest⟩ := List.cons.inj front
      have short : next.waiting.length = others.length := by
        rw [rest]
        exact (List.length_map _).symm
      omega
    | cons first rest =>
      obtain ⟨same,under⟩ := List.cons.inj front
      subst same
      have after : claim.since < first.since := later first List.mem_cons_self
      refine ⟨⟨longer,rest,under.symm,fun other member => ?_⟩,fun makes => ?_⟩
      · exact later other (List.mem_cons_of_mem _ member)
      · cases makes
        exact Nat.lt_irrefl _ after

theorem trail_covers (covers : Covers claim others m)
    (trail : Trail (others.length+1) m moves next)
    (enough : others.length+1 ≤ next.waiting.length) :
    Covers claim others next ∧ ∀ move ∈ moves, ¬claim.Makes move := by
  induction trail with
  | nothing => exact ⟨covers,nofun⟩
  | move _ before step ih =>
    obtain ⟨still,silent⟩ := ih before
    obtain ⟨further,idle⟩ := covers_step still step enough
    refine ⟨further,fun move member => ?_⟩
    rcases List.mem_append.mp member with old | new
    · exact silent move old
    · rw [List.mem_singleton.mp new]
      exact idle

end Moment

namespace Site

-- The second half of a claim, told to everybody who listens.
theorem endClaim_told {site : Site} (found : site.record id = some last) (claimant : Guid)
    (approved : Bool) :
    site.endClaim id claimant approved =
      (if approved then .ok () else .error (.manifestRejected id),
        site.listeners.foldl
          (tell ⟨{ last.app with claimState := if approved then .claimed else .claimable },
            some last.app⟩)
          { site with fleet := { site.fleet with
              records := site.fleet.records.insert id (last.settled claimant approved) } }) := by
  have changed : site.fleet.change id (·.settled claimant approved) =
      some (⟨(last.settled claimant approved).app,some last.app⟩,{ site.fleet with
        records := site.fleet.records.insert id (last.settled claimant approved) }) := by
    rw [Fleet.change,show site.fleet.records.find? id = some last from found]
    rfl
  rw [endClaim_spec,changed]
  cases approved with
  | true | false => rfl

end Site

namespace Moment

variable {m begun : Moment} {app : Application} {identity : Identity} {record : Record}
  {claim : Claim} {site : Site} {depth : Nat}

-- The first half of a claim.
theorem consults_begun {approver : Approver} (asked : Asked m.waiting (.claim app identity))
    (found : m.site.record app.id = some record) (free : record.app.claimState = .claimable)
    (registered : m.site.approver = some approver)
    (marked : m.site.fleet.beginClaim app.id identity.guid m.site.approver =
      (.ok (⟨record.marked.app,record.manifest,approver⟩,⟨record.marked.app,some record.app⟩),
        m.site.fleet.marking app.id record)) :
    ∃ claim begun, m.Consults app identity record claim begun ∧
      m.site.beginClaim app.id identity.guid = (.ok claim.shown,begun.site) := by
  have begins : m.site.beginClaim app.id identity.guid =
      (.ok ⟨record.marked.app,record.manifest,approver⟩,
        { m.site with fleet := m.site.fleet.marking app.id record }.deliver
          ⟨record.marked.app,some record.app⟩) := by
    rw [Site.beginClaim,marked]
  exact ⟨_,_,⟨found,free,registered,rfl,.begin asked begins _ rfl,rfl,rfl⟩,begins⟩

-- What an approver is asked to do before it answers is done by moves that are made while its claim
-- waits.
theorem follow_trail {others : List Waiting} {inquiry : Inquiry}
    (asked : begun.waiting = ⟨claim,inquiry⟩ :: others)
    (followed : inquiry.follow (Operation.perform depth) begun.site = some (approved,site)) :
    ∃ moves decided, begun.Trail (others.length+1) moves decided ∧ decided.site = site ∧
      decided.waiting = ⟨claim,.answer approved⟩ :: others := by
  obtain ⟨start,waiting,past⟩ := begun
  subst asked
  obtain ⟨later,leads⟩ := follow_above (fun asked enough performed =>
    perform_above asked enough performed) (Nat.le_refl _) inquiry past followed
  obtain ⟨moves,trail⟩ := above_trail leads
  exact ⟨moves,_,trail,rfl,rfl⟩

theorem consults_concludes (reached : Reachable m)
    (consults : m.Consults app identity record claim begun)
    (answered : (claim.shown.approver claim.shown.app claim.shown.manifest).follow
      (Operation.perform depth) begun.site = some (approved,site)) :
    ∃ decided last after, begun.Concludes claim m.waiting depth approved decided last after ∧
      decided.site = site ∧ site.endClaim claim.id claim.claimant approved =
        (if approved then .ok () else .error (.manifestRejected claim.id),after) := by
  obtain ⟨moves,decided,trail,same,waits⟩ := follow_trail consults.asked answered
  subst same
  have covers : Covers claim m.claims begun := began_covers consults.step
  have count : m.claims.length = m.waiting.length := List.length_map _
  rw [← count] at trail
  have enough : m.claims.length+1 ≤ decided.waiting.length := by
    rw [waits,count]
    exact Nat.le_refl _
  obtain ⟨_,silent⟩ := trail_covers covers trail enough
  have here : claim.id = app.id := congrArg Claim.id consults.made
  have before : (m.site.record claim.id).isSome := by
    rw [here,consults.found]
    rfl
  have known := leads_keeps step_known (trail_leads trail) (step_known consults.step before)
  obtain ⟨last,found⟩ := Option.isSome_iff_exists.mp known
  have own : last.app.id = claim.id :=
    found_id (leads_reached (trail_leads trail) (.step reached consults.step rfl)) found
  rw [count] at trail
  exact ⟨decided,last,_,⟨answered,⟨moves,trail,silent⟩,waits,found,own,rfl⟩,rfl,
    Site.endClaim_told found _ _⟩

-- In every run, also inside other claims: a claim is refused at once, which is written down and
-- nothing else, or it consults one approver. That is the one registered when it begins, and it is
-- asked once all listeners have been told of the mark, in the order of their registration. The
-- claim comes to a result exactly if the approver comes to an answer; and what it does itself after
-- asking is to settle its application, to tell that to all who listen by then, and to return as the
-- approver said.
theorem one_decision (reached : Reachable m) (asked : Asked m.waiting (.claim app identity)) :
    (∃ refusal, m.site.fleet.Refuses app.id identity.guid m.site.approver refusal ∧
      ∀ depth, Site.claimWithin depth app identity m.site =
        some (.error refusal,{ m.site with fleet := m.site.fleet.received .claim })) ∨
    ∃ record claim begun, m.Consults app identity record claim begun ∧
      ∀ depth result after,
        Site.claimWithin (depth+1) app identity m.site = some (result,after) ↔
          ∃ approved decided last,
            begun.Concludes claim m.waiting depth approved decided last after ∧
            result = if approved then .ok () else .error (.manifestRejected app.id) := by
  rcases m.site.fleet.beginClaim_spec app.id identity.guid m.site.approver with
    ⟨refusal,refuses,refused⟩ | ⟨record,approver,_,found,free,registered,marked⟩
  · have begun : m.site.beginClaim app.id identity.guid =
        (.error refusal,{ m.site with fleet := m.site.fleet.received .claim }) := by
      rw [Site.beginClaim,refused]
    exact .inl ⟨refusal,refuses,claimWithin_refused begun⟩
  · obtain ⟨claim,begun,consults,begins⟩ := consults_begun asked found free registered marked
    refine .inr ⟨record,claim,begun,consults,fun depth result after => ?_⟩
    have here : claim.id = app.id := congrArg Claim.id consults.made
    have claimant : claim.claimant = identity.guid := congrArg Claim.claimant consults.made
    simp only [Site.claimWithin,begins]
    constructor
    · intro ran
      obtain ⟨⟨approved,site⟩,answered,ended⟩ := Option.bind_eq_some_iff.mp ran
      obtain ⟨decided,last,_,concludes,_,ends⟩ := consults_concludes reached consults answered
      rw [here,claimant] at ends
      cases ends.symm.trans (Option.some.inj ended)
      exact ⟨approved,decided,last,concludes,rfl⟩
    · intro decides
      obtain ⟨approved,decided,last,concludes,same⟩ := decides
      refine Option.bind_eq_some_iff.mpr ⟨_,concludes.answered,?_⟩
      have ends := Site.endClaim_told concludes.found claim.claimant approved
      rw [here,claimant] at ends
      have told := concludes.told
      rw [here,claimant] at told
      rw [same,told,ends]

end Moment

namespace Sample

-- The approver of the lamp gives its place to one that says no, lets somebody else listen, and
-- claims the fan before it says yes. A recorder listens twice from the start.
def handover : Moment :=
  following (fun _ _ => true)
    [.createIdentity alice,
      .setApprover (asking [.setApprover (asking [] false),.addListener (.recorder "late"),
        .claim fan alice] true),
      .addListener (.recorder "log"),.addListener (.recorder "log"),
      .announce lamp ⟨[0]⟩,.announce fan ⟨[0]⟩]

-- Of the lamp the first recorder is told twice that it is being claimed and twice that it is
-- claimed; the other one listens by the time of the latter.
theorem handover_decided :
    Moment.Reachable handover ∧ Moment.Asked handover.waiting (.claim lamp alice) ∧
      ∃ record claim begun decided last after,
        handover.Consults lamp alice record claim begun ∧
        begun.Concludes claim [] 1 true decided last after ∧
        Site.claimWithin 2 lamp alice handover.site = some (.ok (),after) ∧
        (after.history "log" lamp.id).length = 6 ∧ (after.history "late" lamp.id).length = 1 := by
  have reached : Moment.Reachable handover := following_reached _ _
  have asked : Moment.Asked handover.waiting (.claim lamp alice) := .outside
  have granted : (Site.claimWithin 2 lamp alice handover.site).any (fun ended =>
      ended.1 = .ok () ∧ (ended.2.history "log" lamp.id).length = 6 ∧
        (ended.2.history "late" lamp.id).length = 1) = true := by
    decide +kernel
  obtain ⟨⟨result,after⟩,ran,facts⟩ := (Option.any_eq_true _ _).mp granted
  obtain ⟨same,told,late⟩ := of_decide_eq_true facts
  cases same
  rcases Moment.one_decision reached asked with
    ⟨refusal,_,refused⟩ | ⟨record,claim,begun,consults,ends⟩
  · cases ran.symm.trans (refused 2)
  · obtain ⟨approved,decided,last,concludes,said⟩ := (ends 1 _ _).mp ran
    cases approved with
    | false => cases said
    | true =>
      exact ⟨reached,asked,record,claim,begun,decided,last,after,consults,concludes,ran,told,late⟩

end Sample

end Custody
