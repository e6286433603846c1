import Custody.Proofs.Approval

-- How the claim state and the owner of an application change when it is not announced. A claim
-- marks it and its decision takes the mark away, which makes three lawful moves. They are all
-- there is, except that a decision does not look at what it finds: if the application was
-- announced or decided otherwise in the meantime, the decision is written over that.

namespace Custody

variable {id : ApplicationId}

abbrev Standing := ClaimState × Option Guid

def Record.standing (record : Record) : Standing := (record.app.claimState,record.owner)

def Moment.standing (m : Moment) (id : ApplicationId) : Option Standing :=
  (m.site.fleet.records.find? id).map (·.standing)

-- What a move does to the standing under an id.
inductive Shift (id : ApplicationId) : Option Standing → Move → Option Standing → Prop where
  | absent (other : move.announced id = none) : Shift id none move none
  | kept (other : move.concerns id = false) : Shift id (some standing) move (some standing)
  | announced (new : move.announced id = some record) :
      Shift id before move (some (record.app.claimState,none))
  | marked (here : claim.id = id) :
      Shift id (some (.claimable,owner)) (.began claim) (some (.claiming,owner))
  | granted (here : claim.id = id) :
      Shift id (some standing) (.decided claim true) (some (.claimed,some claim.claimant))
  | rejected (here : claim.id = id) :
      Shift id (some standing) (.decided claim false) (some (.claimable,none))

theorem Change.shift (change : Change id before move after) :
    Shift id (before.map (·.standing)) move (after.map (·.standing)) := by
  cases change with
  | absent other => exact .absent other
  | kept other => exact .kept other
  | @announced record _ _ new =>
    have fresh : record.standing = (record.app.claimState,none) := by
      rw [Record.standing,announced_owner new]
    simp only [Option.map_some,fresh]
    exact .announced new
  | running | enrolled | governed => exact .kept rfl
  | @marked record claim here free app manifest =>
    have before : record.standing = (.claimable,record.owner) := by rw [Record.standing,free]
    have after : ({ record with app := claim.shown.app } : Record).standing =
        (.claiming,record.owner) := by rw [Record.standing,app]
    simp only [Option.map_some,before,after]
    exact .marked here
  | @decided _ claim approved here =>
    cases approved with
    | true => exact .granted here
    | false => exact .rejected here

namespace Moment

theorem step_shift (step : Step m move next) (id : ApplicationId) :
    Shift id (m.standing id) move (next.standing id) := (step_change step id).shift

-- Whatever happens while claims wait, an application with an owner is claimed.
theorem owner_claimed (reached : Reached allowed m)
    (found : m.standing id = some (state,some owner)) : state = .claimed := by
  induction reached generalizing state owner with
  | initial => cases found
  | @step m move next _ step _ ih =>
    have shift := step_shift step id
    rw [found] at shift
    generalize known : m.standing id = before at shift
    cases shift with
    | kept other => exact ih known
    | marked here => cases ih known
    | granted here => rfl

theorem unclaimed_unowned (reached : Reached allowed m)
    (found : m.standing id = some (state,owner)) (other : state ≠ .claimed) : owner = none := by
  cases owner with
  | none => rfl
  | some owner => exact absurd (owner_claimed reached found) other

theorem began_standing (reached : Reached allowed m) (step : Step m (.began claim) next) :
    m.standing claim.id = some (.claimable,none) ∧
      next.standing claim.id = some (.claiming,none) := by
  obtain ⟨record,_,found,free,_⟩ := began_found step
  have known : m.standing claim.id = some (.claimable,record.owner) := by
    rw [standing,found,Option.map_some,Record.standing,free]
  rw [unclaimed_unowned reached known (by decide)] at known
  have shift := step_shift step claim.id
  rw [known] at shift
  refine ⟨known,?_⟩
  generalize next.standing claim.id = after at shift
  cases shift with
  | kept other => simp [Move.concerns] at other
  | announced new => cases new
  | marked => rfl

-- What a move leaves is what the past tells last, and every claim that waits has seen it.
theorem leaves_seen (reached : Reached allowed m) (step : Step m move next)
    (leaves : move.leaves id = some state) :
    latest (·.leaves id) next.past = some state ∧
      ∀ claim ∈ next.claims, latest (·.leaves id) (claim.during next.past) ≠ none := by
  refine ⟨by rw [step_past step,latest_concat,leaves,Option.some_or],?_⟩
  intro claim waits
  rcases waited step waits with old | rfl
  · rw [during_step reached step old,latest_concat,leaves,Option.some_or]
    exact Option.some_ne_none _
  · cases leaves

-- A standing is either the mark of a claim that waits, and then nothing else has happened to the
-- application since that claim began, or it is what the latest announcement or decision left.
theorem standing_cases (reached : Reached allowed m) (found : m.standing id = some (state,owner)) :
    (∃ claim ∈ m.claims, claim.id = id ∧ latest (·.leaves id) (claim.during m.past) = none ∧
      state = .claiming ∧ owner = none) ∨
    (latest (·.leaves id) m.past = some state ∧
      ∀ claim ∈ m.claims, claim.id = id →
        latest (·.leaves id) (claim.during m.past) ≠ none) := by
  induction reached generalizing state owner with
  | initial => cases found
  | @step m move next reached step _ ih =>
    have left (leaves : move.leaves id = some state) :
        latest (·.leaves id) next.past = some state ∧
          ∀ claim ∈ next.claims, claim.id = id →
            latest (·.leaves id) (claim.during next.past) ≠ none :=
      ⟨(leaves_seen reached step leaves).1,
        fun claim waits _ => (leaves_seen reached step leaves).2 claim waits⟩
    have shift := step_shift step id
    rw [found] at shift
    generalize known : m.standing id = before at shift
    cases shift with
    | kept other =>
      have silent := concerns_leaves other
      rcases ih known with ⟨claim,waits,here,quiet,marked⟩ | ⟨last,seen⟩
      · refine .inl ⟨claim,waits_on step waits (here ▸ other),here,?_,marked⟩
        rw [during_step reached step waits,latest_concat,silent,Option.none_or]
        exact quiet
      · refine .inr ⟨by rw [step_past step,latest_concat,silent,Option.none_or]; exact last,?_⟩
        intro claim waits here
        rcases waited step waits with old | rfl
        · rw [during_step reached step old,latest_concat,silent,Option.none_or]
          exact seen claim old here
        · simp [Move.concerns,here] at other
    | announced new => exact .inr (left (announced_leaves new))
    | @marked _ claim here =>
      rcases ih known with ⟨_,_,_,_,marked,_⟩ | _
      · cases marked
      · obtain ⟨since,claims⟩ := step_claims step
        refine .inl ⟨claim,claims ▸ List.mem_cons_self,here,?_,rfl,
          unclaimed_unowned reached known (by decide)⟩
        rw [step_past step,during_begun since]
        rfl
    | granted here | rejected here => exact .inr (left (by simp [Move.leaves,here]))

end Moment

-- The moves that a claim makes with an application, in the order in which it makes them.
inductive ClaimMove (id : ApplicationId) : Move → Standing → Standing → Prop where
  | marked (here : claim.id = id) :
      ClaimMove id (.began claim) (.claimable,none) (.claiming,none)
  | granted (here : claim.id = id) :
      ClaimMove id (.decided claim true) (.claiming,none) (.claimed,some claim.claimant)
  | rejected (here : claim.id = id) :
      ClaimMove id (.decided claim false) (.claiming,none) (.claimable,none)

-- A decision that comes too late: since its claim began the application was announced, or another
-- claim of it decided, and the last of these left it in another state than the mark.
inductive Late (id : ApplicationId) (past : List Move) : Move → Prop where
  | decided (here : claim.id = id) (left : latest (·.leaves id) (claim.during past) = some state)
      (other : state ≠ .claiming) : Late id past (.decided claim approved)

namespace Moment

-- A decision finds the mark of its claim exactly if it does not come too late.
theorem marked_unless_late (reached : Reached allowed m)
    (step : Step m (.decided claim approved) next) (here : claim.id = id)
    (found : m.standing id = some (state,owner)) :
    state = .claiming ∧ owner = none ↔ ¬ Late id m.past (.decided claim approved) := by
  have front : m.claims = claim :: next.claims := step_claims step
  have waits : claim ∈ m.claims := front ▸ List.mem_cons_self
  rcases standing_cases reached found with ⟨older,known,_,quiet,marked⟩ | ⟨last,seen⟩
  · refine ⟨fun _ late => ?_,fun _ => marked⟩
    cases late with
    | decided _ left _ =>
      rw [latest_suffix (during_innermost reached front known) quiet] at left
      cases left
  · have left : latest (·.leaves id) (claim.during m.past) = some state := by
      rw [latest_began (waiting_began reached waits) rfl] at last
      rcases Option.or_eq_some_iff.mp last with left | ⟨none,_⟩
      · exact left
      · exact absurd none (seen claim waits here)
    constructor
    · rintro ⟨rfl,_⟩ late
      cases late with
      | decided _ again other => exact other (Option.some.inj (again.symm.trans left))
    · intro timely
      have marked : state = .claiming :=
        Decidable.byContradiction fun other => timely (.decided here left other)
      rw [marked] at found
      exact ⟨marked,unclaimed_unowned reached found (by decide)⟩

-- The three moves are all that happens to a standing between announcements, late decisions apart.
-- A late decision does to the standing that it finds what it would do to the mark.
theorem standing_moves (reached : Reachable m) (step : Step m move next)
    (changed : m.standing id ≠ next.standing id) (unannounced : move.announced id = none) :
    ∃ old new, m.standing id = some old ∧ next.standing id = some new ∧
      (ClaimMove id move old new ↔ ¬ Late id m.past move) ∧
      (Late id m.past move → ClaimMove id move (.claiming,none) new) := by
  have shift := step_shift step id
  generalize known : m.standing id = before at shift changed
  generalize found : next.standing id = after at shift changed
  cases shift with
  | absent => exact absurd rfl changed
  | kept => exact absurd rfl changed
  | announced new => rw [unannounced] at new; cases new
  | @marked owner claim here =>
    obtain rfl := unclaimed_unowned reached known (by decide)
    exact ⟨_,_,rfl,rfl,⟨fun _ => nofun,fun _ => .marked here⟩,nofun⟩
  | @granted old claim here =>
    obtain ⟨state,owner⟩ := old
    refine ⟨_,_,rfl,rfl,?_,fun _ => .granted here⟩
    rw [← marked_unless_late reached step here known]
    constructor
    · intro lawful; cases lawful; exact ⟨rfl,rfl⟩
    · rintro ⟨rfl,rfl⟩; exact .granted here
  | @rejected old claim here =>
    obtain ⟨state,owner⟩ := old
    refine ⟨_,_,rfl,rfl,?_,fun _ => .rejected here⟩
    rw [← marked_unless_late reached step here known]
    constructor
    · intro lawful; cases lawful; exact ⟨rfl,rfl⟩
    · rintro ⟨rfl,rfl⟩; exact .rejected here

end Moment

namespace Sample

-- The lamp is announced as being claimed while its approver decides, so the decision is in time.
def remarked : Moment :=
  ending (fun _ _ => true) (asking [.announce { lamp with claimState := .claiming } ⟨[1]⟩] false) 2

theorem remarked_moves :
    Moment.Reachable remarked ∧ ∃ move next, remarked.Step move next ∧
      remarked.standing lamp.id ≠ next.standing lamp.id ∧ move.announced lamp.id = none ∧
      ∃ old new, remarked.standing lamp.id = some old ∧ next.standing lamp.id = some new ∧
        (ClaimMove lamp.id move old new ↔ ¬ Late lamp.id remarked.past move) ∧
        (Late lamp.id remarked.past move → ClaimMove lamp.id move (.claiming,none) new) := by
  have step := Moment.advance_sound (show remarked.advance .guilds = some (_,_) from rfl)
  have changed : remarked.standing lamp.id ≠ some (.claimable,none) := by decide
  exact ⟨ending_reached _ _ _,_,_,step,changed,rfl,
    Moment.standing_moves (ending_reached _ _ _) step changed rfl⟩

-- The lamp is announced as one that cannot be claimed while its approver decides.
def withdrawn : Moment :=
  ending (fun _ _ => true)
    (asking [.announce { lamp with claimState := .unclaimable } ⟨[0]⟩] true) 2

-- The decision hands it over all the same.
theorem withdrawn_claimed :
    Moment.Reachable withdrawn ∧ ∃ move next, withdrawn.Step move next ∧
      move.announced lamp.id = none ∧
      withdrawn.standing lamp.id = some (.unclaimable,none) ∧
      next.standing lamp.id = some (.claimed,some alice.guid) ∧
      ¬ ClaimMove lamp.id move (.unclaimable,none) (.claimed,some alice.guid) :=
  ⟨ending_reached _ _ _,_,_,
    Moment.advance_sound (show withdrawn.advance .guilds = some (_,_) from rfl),
    rfl,rfl,rfl,nofun⟩

end Sample

end Custody
