import Custody.Proofs.Standing

-- Ownership, when approvers announce nothing. They may do everything else, claims of the same
-- application included. Then the mark of a claim keeps every other claim of its application out
-- until the claim is decided, so an application has one owner from one announcement to the next.

namespace Custody

variable {id : ApplicationId}

-- Nothing is announced while a claim waits.
def calm (m : Moment) (move : Move) : Bool := m.waiting.isEmpty || !move.announces

-- Whether a claim of an application is decided with a yes.
def Move.grants (id : ApplicationId) : Move → Bool
  | .decided claim true => claim.id = id
  | _ => false

theorem Site.endClaim_ok (site : Site) (id : ApplicationId) (claimant : Guid) (approved : Bool) :
    (site.endClaim id claimant approved).1 = .ok () ↔ approved = true := by
  cases approved with
  | true => exact ⟨fun _ => rfl,fun _ => rfl⟩
  | false => exact ⟨nofun,nofun⟩

theorem grants_decided {move : Move} (grants : move.grants id = true) :
    ∃ claim, move = .decided claim true ∧ claim.id = id := by
  unfold Move.grants at grants
  split at grants
  · exact ⟨_,rfl,by simpa using grants⟩
  · cases grants

theorem announced_bare {move : Move} (new : move.announced id = some record) :
    record.memberships = [] ∧ record.policy = none := by
  obtain ⟨_,_,_,_,_,rfl⟩ := announced_fresh new
  exact ⟨rfl,rfl⟩

namespace Moment

-- A claim that returns with a move, and what it returns. One that makes no approver wait returns
-- with the move that asked for it, and one that went to an approver with the decision.
inductive Returns (m : Moment) (id : ApplicationId) : Move → Except Refusal Unit → Prop where
  | atOnce (here : app.id = id) :
      Returns m id (.performed (.claim app identity) (.ofResult (fun () => .done) result)) result
  | decided (here : claim.id = id) :
      Returns m id (.decided claim approved) (m.site.endClaim claim.id claim.claimant approved).1

-- A claim that returns without a refusal is one that is decided with a yes.
theorem returns_grants (step : Step m move next) :
    m.Returns id move (.ok ()) ↔ move.grants id = true := by
  constructor
  · intro returned
    generalize granted : Except.ok () = result at returned
    cases returned with
    | atOnce here =>
      subst granted
      cases step with
      | perform asked ran =>
        -- A claim that waits for nobody was refused.
        obtain ⟨_,refused,_⟩ := perform_claim ran
        cases refused
    | decided here =>
      obtain rfl := (Site.endClaim_ok _ _ _ _).mp granted.symm
      exact decide_eq_true here
  · intro grants
    obtain ⟨claim,rfl,here⟩ := grants_decided grants
    exact (Site.endClaim_ok m.site claim.id claim.claimant true).mpr rfl ▸ .decided here

theorem calm_announced (may : calm m move) (waits : claim ∈ m.claims) :
    move.announced id = none := by
  cases told : move.announced id with
  | none => rfl
  | some record =>
    rw [calm,announced_announces told] at may
    have idle : m.waiting = [] := by simpa using may
    rw [claims,idle] at waits
    cases waits

-- A mark stays until its claim is decided.
theorem marked_kept (may : calm m move) (step : Step m move next) (waits : claim ∈ m.claims)
    (marked : m.standing claim.id = some (.claiming,none))
    (other : ∀ decided approved, move = .decided decided approved → decided.id ≠ claim.id) :
    next.standing claim.id = some (.claiming,none) := by
  have shift := step_shift step claim.id
  rw [marked] at shift
  generalize next.standing claim.id = after at shift
  cases shift with
  | kept => rfl
  | announced new => rw [calm_announced may waits] at new; cases new
  | granted here | rejected here => exact absurd here (other _ _ rfl)

-- Every claim that waits has marked its application, and no two have marked the same one.
theorem calm_waiting (reached : Reached calm m) :
    (∀ claim ∈ m.claims, m.standing claim.id = some (.claiming,none)) ∧
      m.claims.Pairwise (fun newer older => newer.id ≠ older.id) := by
  induction reached with
  | initial => exact ⟨nofun,List.Pairwise.nil⟩
  | @step m move next reached step may ih =>
    obtain ⟨marked,distinct⟩ := ih
    have claims := step_claims step
    cases move with
    | performed operation outcome | noted book entry =>
      rw [claims]
      exact ⟨fun claim waits => marked_kept may step waits (marked claim waits) nofun,distinct⟩
    | decided decided approved =>
      have front : m.claims = decided :: next.claims := claims
      rw [front] at distinct
      obtain ⟨apart,distinct⟩ := List.pairwise_cons.mp distinct
      refine ⟨fun claim waits => ?_,distinct⟩
      have old : claim ∈ m.claims := front ▸ List.mem_cons_of_mem _ waits
      refine marked_kept may step old (marked claim old) fun other _ same => ?_
      cases same
      exact apart claim waits
    | began new =>
      obtain ⟨free,mark⟩ := began_standing reached step
      have apart (claim : Claim) (waits : claim ∈ m.claims) : new.id ≠ claim.id := by
        intro same
        rw [same,marked claim waits] at free
        cases free
      rw [claims.2]
      refine ⟨fun claim waits => ?_,List.pairwise_cons.mpr ⟨apart,distinct⟩⟩
      rcases List.mem_cons.mp waits with rfl | old
      · exact mark
      · exact marked_kept may step old (marked claim old) nofun

-- From a claim that is granted until the next announcement the owner and the state stay.
theorem owner_kept (reached : Reached calm m) (step : Step m move next)
    (held : m.standing id = some (.claimed,owner)) (unannounced : move.announced id = none) :
    next.standing id = some (.claimed,owner) := by
  have shift := step_shift step id
  have undecided (claim : Claim) (approved : Bool) (same : move = .decided claim approved) :
      claim.id ≠ id := by
    rintro rfl
    subst same
    have waits := decided_waits step
    rw [(calm_waiting reached).1 claim waits] at held
    cases held
  rw [held] at shift
  generalize next.standing id = after at shift
  cases shift with
  | kept => rfl
  | announced new => rw [unannounced] at new; cases new
  | granted here | rejected here => exact absurd here (undecided _ _ rfl)

theorem claimed_since (reached : Reached calm m)
    (split : m.past = before ++ .decided claim true :: after)
    (quiet : ∀ move ∈ after, move.announced claim.id = none) :
    m.standing claim.id = some (.claimed,some claim.claimant) := by
  induction reached generalizing after with
  | initial => simp at split
  | @step m move next reached step _ ih =>
    rw [step_past step] at split
    rcases concat_split split with ⟨rfl,_,rfl⟩ | ⟨rest,rfl,earlier⟩
    · have waits := decided_waits step
      have shift := step_shift step claim.id
      rw [(calm_waiting reached).1 claim waits] at shift
      generalize next.standing claim.id = standing at shift
      cases shift with
      | kept other => simp [Move.concerns] at other
      | announced new => cases new
      | granted => rfl
    · have held := ih earlier fun move member => quiet move (List.mem_append_left _ member)
      exact owner_kept reached step held (quiet move (by simp))

-- While a claim waits, no other one has been granted since the latest announcement.
theorem ungranted (reached : Reached calm m) (waits : claim ∈ m.claims)
    (split : m.past = before ++ stretch)
    (quiet : ∀ move ∈ stretch, move.announced claim.id = none) :
    stretch.countP (·.grants claim.id) = 0 := by
  rw [List.countP_eq_zero]
  intro move member grants
  obtain ⟨earlier,rfl,same⟩ := grants_decided grants
  obtain ⟨first,rest,rfl⟩ := List.append_of_mem member
  have held := claimed_since reached (split.trans (List.append_assoc before first _).symm)
    fun other later => same ▸ quiet other (by simp [later])
  rw [same,(calm_waiting reached).1 claim waits] at held
  cases held

theorem granted_once (reached : Reached calm m) (split : m.past = before ++ stretch)
    (quiet : ∀ move ∈ stretch, move.announced id = none) :
    stretch.countP (·.grants id) ≤ 1 := by
  induction reached generalizing stretch with
  | initial =>
    rw [(List.append_eq_nil_iff.mp split.symm).2]
    exact Nat.zero_le _
  | @step m move next reached step _ ih =>
    rw [step_past step] at split
    rcases List.eq_nil_or_concat stretch with rfl | ⟨rest,last,rfl⟩
    · exact Nat.zero_le _
    · rw [List.concat_eq_append] at split quiet ⊢
      obtain ⟨earlier,same⟩ := List.append_inj' (split.trans (List.append_assoc _ _ _).symm) rfl
      obtain rfl := List.singleton_inj.mp same
      have quietRest : ∀ other ∈ rest, other.announced id = none :=
        fun other member => quiet other (List.mem_append_left _ member)
      rw [List.countP_append,List.countP_singleton]
      cases grants : move.grants id with
      | false => simpa using ih earlier quietRest
      | true =>
        obtain ⟨claim,rfl,rfl⟩ := grants_decided grants
        have waits := decided_waits step
        rw [ungranted reached waits earlier quietRest]
        simp

theorem unowned_bare (reached : Reached calm m)
    (found : m.site.fleet.records.find? id = some record) (unowned : record.owner = none) :
    record.memberships = [] ∧ record.policy = none := by
  induction reached generalizing record with
  | initial => cases found
  | @step m move next reached step _ ih =>
    have change := step_change step id
    rw [found] at change
    generalize known : m.site.fleet.records.find? id = before at change
    cases change with
    | kept => exact ih known unowned
    | announced new => exact announced_bare new
    | running | marked =>
      have bare := ih known unowned
      exact bare
    | enrolled _ owned | governed _ owned =>
      have free : _ = none := unowned
      rw [free] at owned
      cases owned
    | @decided old claim approved here =>
      have waits := decided_waits step
      have marked := (calm_waiting reached).1 claim waits
      rw [here,standing,known,Option.map_some] at marked
      cases approved with
      | true => cases unowned
      | false =>
        have bare := ih known (congrArg Prod.snd (Option.some.inj marked))
        exact bare

-- In a run whose approvers announce nothing: between two announcements of an application at most
-- one claim of it is granted, which is to say that it returns without a refusal; from then on its
-- owner and its state stay; and what has no owner has no memberships and no policy.
theorem exclusive_ownership (reached : Reached calm m) (id : ApplicationId) :
    (∀ now move next, Step now move next →
      (now.Returns id move (.ok ()) ↔ move.grants id = true)) ∧
    (∀ before stretch, m.past = before ++ stretch →
      (∀ move ∈ stretch, move.announced id = none) → stretch.countP (·.grants id) ≤ 1) ∧
    (∀ before claim after, m.past = before ++ .decided claim true :: after → claim.id = id →
      (∀ move ∈ after, move.announced id = none) →
        m.standing id = some (.claimed,some claim.claimant)) ∧
    (∀ record, m.site.fleet.records.find? id = some record → record.owner = none →
      record.memberships = [] ∧ record.policy = none) := by
  refine ⟨fun _ _ _ => returns_grants,fun before stretch => granted_once reached,?_,
    fun record => unowned_bare reached⟩
  rintro before claim after split rfl quiet
  exact claimed_since reached split quiet

end Moment

namespace Sample

-- The approver tries to claim the lamp itself and to govern it, and after its yes the lamp is
-- claimed once more.
def contested : Moment :=
  ending calm (asking [.claim lamp alice,.installPolicy lamp (Policy.forGuilds [])] true) 5

theorem contested_ownership :
    Moment.Reached calm contested ∧
      contested.standing lamp.id = some (.claimed,some alice.guid) ∧
      (∀ now move next, Moment.Step now move next →
        (now.Returns lamp.id move (.ok ()) ↔ move.grants lamp.id = true)) ∧
      (∀ before stretch, contested.past = before ++ stretch →
        (∀ move ∈ stretch, move.announced lamp.id = none) →
          stretch.countP (·.grants lamp.id) ≤ 1) ∧
      (∀ before claim after, contested.past = before ++ .decided claim true :: after →
        claim.id = lamp.id → (∀ move ∈ after, move.announced lamp.id = none) →
          contested.standing lamp.id = some (.claimed,some claim.claimant)) ∧
      (∀ record, contested.site.fleet.records.find? lamp.id = some record →
        record.owner = none → record.memberships = [] ∧ record.policy = none) :=
  ⟨ending_reached _ _ _,rfl,Moment.exclusive_ownership (ending_reached _ _ _) lamp.id⟩

end Sample

end Custody
