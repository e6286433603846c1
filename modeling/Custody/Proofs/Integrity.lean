import Mathlib.Data.List.Induction
import Custody.Proofs.Scene
import Custody.Proofs.Standing
import Custody.Proofs.Stores

-- What holds of the records and the stores at every moment, also while claims wait and approvers do
-- whatever they like. Everything stands under its own name; an owner and a guild that a record
-- names are stored; what is owned is claimed. And the mark of a claim goes with the claim, so no
-- application is left with one.

namespace Custody

variable {id : ApplicationId} {ν : Type} {guid : ν → Guid}

-- A record that stands under an id and names nothing that is not stored.
structure Record.Sound (record : Record) (id : ApplicationId) (fleet : Fleet) : Prop where
  own : record.app.id = id
  owned : ∀ owner, record.owner = some owner →
    record.app.claimState = .claimed ∧ (fleet.identities.find? owner).isSome
  once : record.memberships.Nodup
  enrolled : ∀ guild ∈ record.memberships, (fleet.guilds.find? guild).isSome

structure Fleet.Sound (fleet : Fleet) : Prop where
  guilds : Filed Guild.guid fleet.guilds
  identities : Filed Identity.guid fleet.identities
  records : ∀ id record, fleet.records.find? id = some record → record.Sound id fleet

-- Nothing that is stored is taken away.
theorem Stored.remains (stored : Stored guid before made revised after) (key : Guid)
    (present : (before.find? key).isSome) : (after.find? key).isSome := by
  cases stored with
  | kept same => rw [same]; exact present
  | created _ put | replaced _ put =>
    rw [put,Keyed.find?_insert_if]
    split
    · rfl
    · exact present

theorem Record.Sound.grow {record : Record} {before after : Fleet}
    (stores : Moment.Stores before move after) (sound : record.Sound id before) :
    record.Sound id after := by
  refine ⟨sound.own,fun owner held => ?_,sound.once,fun guild member => ?_⟩
  · obtain ⟨claimed,stored⟩ := sound.owned owner held
    exact ⟨claimed,stores.identities.remains owner stored⟩
  · exact stores.guilds.remains guild (sound.enrolled guild member)

-- What is claimable has no owner.
theorem Record.Sound.unowned {record : Record} {fleet : Fleet} (sound : record.Sound id fleet)
    (free : record.app.claimState = .claimable) : record.owner = none := by
  cases owner : record.owner with
  | none => rfl
  | some held => cases free.symm.trans (sound.owned held owner).1

-- An application goes on to have every membership once when it is enrolled once more.
theorem Record.Sound.enrol {record : Record} {fleet : Fleet} {guild : Guid}
    {memberships : List Guid} (sound : record.Sound id fleet)
    (stored : (fleet.guilds.find? guild).isSome)
    (joined : memberships = if record.memberships.contains guild then record.memberships
      else record.memberships ++ [guild]) :
    ({ record with memberships } : Record).Sound id fleet := by
  obtain ⟨own,owned,once,enrolled⟩ := sound
  rw [joined]
  split
  · exact ⟨own,owned,once,enrolled⟩
  · rename_i other
    have new : guild ∉ record.memberships := by simpa using other
    refine ⟨own,owned,List.nodup_append.mpr ⟨once,by simp,?_⟩,?_⟩
    · intro old among last member same
      exact new (List.mem_singleton.mp member ▸ same ▸ among)
    · intro member among
      rcases List.mem_append.mp among with old | last
      · exact enrolled member old
      · rw [List.mem_singleton.mp last]
        exact stored

theorem announced_sound {move : Move} (new : move.announced id = some record) (fleet : Fleet) :
    record.Sound id fleet := by
  obtain ⟨app,manifest,_,_,own,rfl⟩ := announced_fresh new
  exact ⟨own,nofun,List.nodup_nil,nofun⟩

-- A claim that begins is made for an identity that is stored.
theorem Fleet.beginClaim_claimant {Approver : Type} {fleet after : Fleet}
    {approver : Option Approver} {shown : PendingClaim Approver × Event}
    (begun : fleet.beginClaim id claimant approver = (.ok shown,after)) :
    (fleet.identities.find? claimant).isSome := by
  unfold beginClaim answer at begun
  split at begun
  · cases begun
  · dsimp only at begun
    split at begun
    · rename_i known
      exact known
    · cases begun

theorem Site.beginClaim_claimant {site after : Site} {claimant : Guid}
    {shown : Fleet.PendingClaim Approver}
    (begun : site.beginClaim id claimant = (.ok shown,after)) :
    (site.fleet.identities.find? claimant).isSome := by
  unfold beginClaim at begun
  split at begun
  · cases begun
  · rename_i marked
    exact Fleet.beginClaim_claimant marked

-- Nothing is enrolled in a guild that is not stored.
theorem Fleet.installMembership_unknown (fleet : Fleet) (id : ApplicationId) {guild : Guid}
    (unknown : fleet.guilds.find? guild = none) :
    (fleet.installMembership id guild).2.records = fleet.records := by
  unfold installMembership
  rcases fleet.answer_cases .installMembership _ with ⟨fault,_,refused⟩ | ⟨_,answered⟩
  · rw [refused]; rfl
  · rw [answered]
    split
    · rename_i known
      simp [Keyed.contains,received,unknown] at known
    · rfl

namespace Moment

theorem enrolled_stored
    (step : Step m (.performed (.installMembership app guild) outcome) next) :
    (m.site.fleet.guilds.find? guild.guid).isSome ∨
      next.site.fleet.records = m.site.fleet.records := by
  cases step with
  | perform asked ran =>
    obtain ⟨_,fleet⟩ := called ran
    cases known : m.site.fleet.guilds.find? guild.guid with
    | some stored => exact .inl rfl
    | none =>
      rw [fleet]
      exact .inr (m.site.fleet.installMembership_unknown app.id known)

-- A sound fleet, and every claim that waits is made for an identity that is stored.
structure Firm (m : Moment) : Prop where
  sound : m.site.fleet.Sound
  claimants : ∀ claim ∈ m.claims, (m.site.fleet.identities.find? claim.claimant).isSome

theorem initial_firm : Firm {} := ⟨⟨nofun,nofun,nofun⟩,nofun⟩

-- What one move makes of a sound record, by the stores that the move finds.
theorem step_sound (firm : Firm m) (step : Step m move next)
    (found : next.site.fleet.records.find? id = some record) :
    record.Sound id m.site.fleet := by
  obtain ⟨sound,claimants⟩ := firm
  have change := step_change step id
  rw [found] at change
  generalize known : m.site.fleet.records.find? id = before at change
  cases change with
  | kept => exact sound.records id record known
  | announced new => exact announced_sound new _
  | running =>
    obtain ⟨own,owned,once,enrolled⟩ := sound.records id _ known
    exact ⟨own,owned,once,enrolled⟩
  | governed =>
    obtain ⟨own,owned,once,enrolled⟩ := sound.records id _ known
    exact ⟨own,owned,once,enrolled⟩
  | enrolled _ _ joined =>
    rcases enrolled_stored step with stored | same
    · exact (sound.records id _ known).enrol stored joined
    · rw [same] at found
      exact sound.records id _ found
  | @marked old claim here free app manifest =>
    have unowned := (sound.records id _ known).unowned free
    obtain ⟨own,_,once,enrolled⟩ := sound.records id _ known
    refine ⟨by rw [app]; exact own,fun owner held => ?_,once,enrolled⟩
    cases unowned.symm.trans held
  | @decided old claim approved here =>
    obtain ⟨own,_,once,enrolled⟩ := sound.records id _ known
    cases approved with
    | false => exact ⟨own,nofun,once,enrolled⟩
    | true =>
      refine ⟨own,fun owner held => ⟨rfl,?_⟩,once,enrolled⟩
      cases held
      exact claimants _ (decided_waits step)

theorem step_claimants (firm : Firm m) (step : Step m move next) (waits : claim ∈ next.claims) :
    (next.site.fleet.identities.find? claim.claimant).isSome := by
  refine (step_stores step).identities.remains _ ?_
  have moved := step_claims step
  cases step with
  | begin asked begun _ same =>
    rw [moved.2] at waits
    rcases List.mem_cons.mp waits with rfl | earlier
    · rw [same]
      exact Site.beginClaim_claimant begun
    · exact firm.claimants claim earlier
  | decide =>
    refine firm.claimants claim ?_
    rw [show m.claims = _ from moved]
    exact List.mem_cons_of_mem _ waits
  | perform | note => exact firm.claimants claim (moved ▸ waits)

theorem step_firm (step : Step m move next) (firm : Firm m) : Firm next := by
  have stores := step_stores step
  refine ⟨⟨stores.guilds.filed firm.sound.guilds,stores.identities.filed firm.sound.identities,?_⟩,
    fun claim waits => step_claimants firm step waits⟩
  intro id record found
  exact (step_sound firm step found).grow stores

theorem reached_sound (reached : Reached allowed m) : m.site.fleet.Sound := by
  have firm : Firm m := by
    induction reached with
    | initial => exact initial_firm
    | step _ step _ firm => exact step_firm step firm
  exact firm.sound

end Moment

-- The same, where coordinators are set up and registries are worked at.
theorem Scene.run_sound (run : Run {} deeds s) : s.site.fleet.Sound := by
  refine (run_keeps Moment.Firm Moment.step_firm run ?tended Moment.initial_firm).sound
  case tended =>
    rintro m registry act _ ⟨sound,claimants⟩
    constructor
    · rw [Moment.tend_fleet]
      exact sound
    · rw [Moment.tend_fleet]
      exact claimants

-- What is done by moves leaves a sound fleet sound.
theorem Course.Moves.sound {course : Course α} (moves : course.Moves) {site : Site}
    (sound : site.fleet.Sound) (ran : course site = some (result,after)) : after.fleet.Sound := by
  obtain ⟨_,leads⟩ := moves.leads ran []
  exact (Moment.leads_keeps Moment.step_firm leads ⟨sound,nofun⟩).sound

-- Only an announcement leaves an application as being claimed.
theorem leaves_claiming {move : Move} (left : move.leaves id = some .claiming) :
    ∃ fresh, move.announced id = some fresh ∧ fresh.app.claimState = .claiming := by
  cases move with
  | performed operation outcome => exact Option.map_eq_some_iff.mp left
  | began claim => cases left
  | noted book entry => cases left
  | decided claim approved => cases approved <;> simp [Move.leaves] at left

theorem last_claiming {past : List Move} (left : latest (·.leaves id) past = some .claiming) :
    ∃ fresh, latest (·.announced id) past = some fresh ∧ fresh.app.claimState = .claiming := by
  induction past using List.reverseRec with
  | nil => cases left
  | append_singleton before move ih =>
    rw [latest_concat] at left ⊢
    rcases Option.or_eq_some_iff.mp left with now | ⟨silent,earlier⟩
    · obtain ⟨fresh,new,claiming⟩ := leaves_claiming now
      exact ⟨fresh,by rw [new,Option.some_or],claiming⟩
    · cases new : move.announced id with
      | some fresh => rw [announced_leaves new] at silent; cases silent
      | none => rw [Option.none_or]; exact ih earlier

namespace Moment

-- An application that is being claimed while none of its own claims waits was announced so.
theorem unclaimed_claiming (reached : Reached allowed m)
    (found : m.site.fleet.records.find? id = some record)
    (claiming : record.app.claimState = .claiming) (idle : ∀ claim ∈ m.claims, claim.id ≠ id) :
    ∃ fresh, latest (·.announced id) m.past = some fresh ∧ fresh.app.claimState = .claiming := by
  have standing : m.standing id = some (.claiming,record.owner) := by
    rw [Moment.standing,found,← claiming]
    rfl
  rcases standing_cases reached standing with ⟨claim,waits,here,_⟩ | ⟨left,_⟩
  · exact absurd here (idle claim waits)
  · exact last_claiming left

theorem record_invariants (reached : Reachable m) :
    m.site.fleet.Sound ∧
    ∀ id record, m.site.fleet.records.find? id = some record →
      record.app.claimState = .claiming → (∀ claim ∈ m.claims, claim.id ≠ id) →
      ∃ fresh, latest (·.announced id) m.past = some fresh ∧
        fresh.app.claimState = .claiming :=
  ⟨reached_sound reached,fun _ _ => unclaimed_claiming reached⟩

end Moment

namespace Sample

def fan : Application := ⟨⟨"A2"⟩,"Fan","attic",.claimable,.running⟩

def siren : Application := ⟨⟨"A3"⟩,"Siren","roof",.claiming,.running⟩

-- The approver of the lamp claims the fan before it answers. The siren is announced as being
-- claimed, and nobody claims it. In the end the lamp is enrolled twice.
def enrolledTwice : Moment :=
  following (fun _ _ => true)
    ([.createIdentity alice,.createGuild Guild.reserved,
      .setApprover (asking [.claim fan alice] true),
      .announce lamp ⟨[0]⟩,.announce fan ⟨[0]⟩,.announce siren ⟨[0]⟩]
      ++ List.replicate 5 (.claim lamp alice)
      ++ List.replicate 2 (.installMembership lamp Guild.reserved))

theorem enrolledTwice_invariants :
    Moment.Reachable enrolledTwice ∧ enrolledTwice.claims = [] ∧
      enrolledTwice.standing lamp.id = some (.claimed,some alice.guid) ∧
      enrolledTwice.standing fan.id = some (.claimed,some alice.guid) ∧
      enrolledTwice.standing siren.id = some (.claiming,none) ∧
      enrolledTwice.site.fleet.Sound ∧
      ∀ id record, enrolledTwice.site.fleet.records.find? id = some record →
        record.app.claimState = .claiming → (∀ claim ∈ enrolledTwice.claims, claim.id ≠ id) →
        ∃ fresh, latest (·.announced id) enrolledTwice.past = some fresh ∧
          fresh.app.claimState = .claiming :=
  ⟨following_reached _ _,rfl,rfl,rfl,rfl,Moment.record_invariants (following_reached _ _)⟩

end Sample

end Custody
