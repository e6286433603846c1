import Mathlib.Logic.Relation
import Custody.Site

-- A site while operations are performed on it, one move at a time. Claims that wait for their
-- approvers lie on a stack, so every moment inside a claim is a value of its own, and a run need
-- not end to be spoken about. What `Operation.perform` computes is reached by such moves
-- (`perform_reached`).

namespace Custody

-- A claim that has gone to an approver: what was claimed, for whom, what the approver was shown.
-- `since` is the number of moves before the one that began it, so no two claims of a run are equal.
structure Claim where
  id : ApplicationId
  claimant : Guid
  shown : Fleet.PendingClaim Approver
  since : Nat

-- A claim that is being decided. While an approver waits for a claim of its own, it stands at the
-- question that asked for it.
structure Waiting where
  claim : Claim
  rest : Inquiry

inductive Move where
  -- An operation that consults nobody, a refused claim among them.
  | performed (operation : Operation) (outcome : Outcome)
  | began (claim : Claim)
  | noted (book : String) (entry : Consultation)
  | decided (claim : Claim) (approved : Bool)

structure Moment where
  site : Site := {}
  -- The innermost claim comes first.
  waiting : List Waiting := []
  past : List Move := []

-- What is left of an inquiry once its question has an outcome.
def Inquiry.told (outcome : Outcome) : Inquiry → Inquiry
  | .ask _ next => next outcome
  | inquiry => inquiry

def Waiting.told (outcome : Outcome) (waiting : Waiting) : Waiting :=
  { waiting with rest := waiting.rest.told outcome }

namespace Moment

def claims (m : Moment) : List Claim := m.waiting.map (·.claim)

-- Only the approver of the innermost claim can ask for anything. If nobody waits, anything may be
-- asked for from outside.
inductive Asked : List Waiting → Operation → Prop where
  | outside : Asked [] operation
  | inside : Asked (⟨claim,.ask operation answered⟩ :: others) operation

-- No limit on the depth of claims stands here: `perform 0` is every operation that makes no
-- approver wait.
inductive Step : Moment → Move → Moment → Prop where
  | perform (asked : Asked m.waiting operation)
      (ran : operation.perform 0 m.site = some (outcome,after)) :
      Step m (.performed operation outcome)
        ⟨after,m.waiting.modifyHead (·.told outcome),m.past ++ [.performed operation outcome]⟩
  | begin (asked : Asked m.waiting (.claim app identity))
      (begun : m.site.beginClaim app.id identity.guid = (.ok shown,after))
      (claim : Claim) (same : claim = ⟨app.id,identity.guid,shown,m.past.length⟩) :
      Step m (.began claim)
        ⟨after,⟨claim,shown.approver shown.app shown.manifest⟩ :: m.waiting,
          m.past ++ [.began claim]⟩
  | note (waits : m.waiting = ⟨claim,.note book entry noted⟩ :: others) :
      Step m (.noted book entry)
        ⟨m.site.note book entry,⟨claim,noted⟩ :: others,m.past ++ [.noted book entry]⟩
  | decide (waits : m.waiting = ⟨claim,.answer approved⟩ :: others)
      (ended : m.site.endClaim claim.id claim.claimant approved = (result,after)) :
      Step m (.decided claim approved)
        ⟨after,others.modifyHead (·.told (.ofResult (fun () => .done) result)),
          m.past ++ [.decided claim approved]⟩

-- The moments of all runs from an empty site that make only allowed moves.
inductive Reached (allowed : Moment → Move → Bool) : Moment → Prop where
  | initial : Reached allowed {}
  | step (before : Reached allowed m) (step : Step m move next) (may : allowed m move) :
      Reached allowed next

-- The moments of all runs.
abbrev Reachable : Moment → Prop := Reached fun _ _ => true

def take (m : Moment) (operation : Operation) : Option (Move × Moment) :=
  match operation.perform 0 m.site with
  | some (outcome,after) =>
    some (.performed operation outcome,
      ⟨after,m.waiting.modifyHead (·.told outcome),m.past ++ [.performed operation outcome]⟩)
  | none =>
    match operation with
    | .claim app identity =>
      match m.site.beginClaim app.id identity.guid with
      | (.ok shown,after) =>
        let claim : Claim := ⟨app.id,identity.guid,shown,m.past.length⟩
        some (.began claim,
          ⟨after,⟨claim,shown.approver shown.app shown.manifest⟩ :: m.waiting,
            m.past ++ [.began claim]⟩)
      | (.error _,_) => none
    | _ => none

-- The next move, computed. The operation from outside is taken if nobody waits; an approver that
-- is at work goes on by itself.
def advance (m : Moment) (outside : Operation) : Option (Move × Moment) :=
  match m.waiting with
  | [] => m.take outside
  | ⟨_,.ask operation _⟩ :: _ => m.take operation
  | ⟨claim,.note book entry noted⟩ :: others =>
    some (.noted book entry,
      ⟨m.site.note book entry,⟨claim,noted⟩ :: others,m.past ++ [.noted book entry]⟩)
  | ⟨claim,.answer approved⟩ :: others =>
    let (result,after) := m.site.endClaim claim.id claim.claimant approved
    some (.decided claim approved,
      ⟨after,others.modifyHead (·.told (.ofResult (fun () => .done) result)),
        m.past ++ [.decided claim approved]⟩)

-- One move for each operation, as long as the moves are allowed.
def run (allowed : Moment → Move → Bool) (m : Moment) : List Operation → Option Moment
  | [] => some m
  | outside :: rest =>
    match m.advance outside with
    | some (move,next) => if allowed m move then next.run allowed rest else none
    | none => none

theorem step_past (step : Step m move next) : next.past = m.past ++ [move] := by
  cases step <;> rfl

theorem told_claims (outcome : Outcome) (frames : List Waiting) :
    (frames.modifyHead (·.told outcome)).map (·.claim) = frames.map (·.claim) := by
  cases frames <;> rfl

-- A claim comes onto the stack when it begins and leaves it when it is decided.
theorem step_claims (step : Step m move next) :
    match move with
    | .began claim => claim.since = m.past.length ∧ next.claims = claim :: m.claims
    | .decided claim _ => m.claims = claim :: next.claims
    | _ => next.claims = m.claims := by
  cases step with
  | perform asked ran => exact told_claims _ _
  | begin asked begun claim same => exact ⟨by rw [same],rfl⟩
  | note waits => simp [claims,waits]
  | decide waits ended => simp [claims,waits,told_claims]

theorem take_sound (asked : Asked m.waiting operation)
    (taken : m.take operation = some (move,next)) : Step m move next := by
  unfold take at taken
  split at taken
  · rename_i outcome after ran
    cases Option.some.inj taken
    exact .perform asked ran
  · split at taken
    · split at taken
      · rename_i shown after begun
        cases Option.some.inj taken
        exact .begin asked begun _ rfl
      · cases taken
    · cases taken

theorem advance_sound (advanced : m.advance operation = some (move,next)) : Step m move next := by
  unfold advance at advanced
  split at advanced
  · rename_i idle
    exact take_sound (idle ▸ .outside) advanced
  · rename_i waits
    exact take_sound (waits ▸ .inside) advanced
  · rename_i waits
    cases Option.some.inj advanced
    exact .note waits
  · rename_i waits
    cases Option.some.inj advanced
    exact .decide waits rfl

theorem run_reached {outside : List Operation} (reached : Reached allowed m)
    (ran : m.run allowed outside = some next) : Reached allowed next := by
  induction outside generalizing m with
  | nil => cases ran; exact reached
  | cons operation rest ih =>
    unfold run at ran
    split at ran
    · rename_i advanced
      split at ran
      · rename_i may
        exact ih (.step reached (advance_sound advanced) may) ran
      · cases ran
    · cases ran

-- Moves that follow on one another, from any moment to another.
abbrev Leads : Moment → Moment → Prop :=
  Relation.ReflTransGen fun m next => ∃ move, Step m move next

theorem leads_reached (leads : Leads m next) (reached : Reachable m) : Reachable next := by
  induction leads with
  | refl => exact reached
  | tail _ last ih =>
    obtain ⟨_,step⟩ := last
    exact .step ih step rfl

-- What every move keeps is kept by moves that follow on one another.
theorem leads_keeps {holds : Moment → Prop}
    (kept : ∀ {m move next}, Step m move next → holds m → holds next)
    (leads : Leads m next) (before : holds m) : holds next := by
  induction leads with
  | refl => exact before
  | tail _ last ih =>
    obtain ⟨_,step⟩ := last
    exact kept step ih

-- The same, made while no fewer claims wait than some number: whatever an approver asks for, its
-- own claim and those that wait for it go on waiting.
abbrev LeadsAbove (fewest : Nat) : Moment → Moment → Prop :=
  Relation.ReflTransGen fun m next => fewest ≤ m.waiting.length ∧ ∃ move, Step m move next

theorem above_leads (leads : LeadsAbove fewest m next) : Leads m next :=
  Relation.ReflTransGen.mono (fun _ _ step => step.2) _ _ leads

-- With a way to perform operations that goes by moves, an inquiry goes by moves to its decision.
theorem follow_above {perform : Operation → Course Outcome}
    (performs : ∀ {m operation outcome after}, Asked m.waiting operation →
      fewest ≤ m.waiting.length → perform operation m.site = some (outcome,after) →
      ∃ past, LeadsAbove fewest m ⟨after,m.waiting.modifyHead (·.told outcome),past⟩)
    (enough : fewest ≤ others.length + 1) (inquiry : Inquiry) {site after : Site}
    (past : List Move) (followed : inquiry.follow perform site = some (approved,after)) :
    ∃ later, LeadsAbove fewest ⟨site,⟨claim,inquiry⟩ :: others,past⟩
      ⟨after,⟨claim,.answer approved⟩ :: others,later⟩ := by
  match inquiry with
  | .answer decision =>
    cases Option.some.inj followed
    exact ⟨past,.refl⟩
  | .ask operation next =>
    obtain ⟨⟨outcome,middle⟩,asked,rest⟩ := Option.bind_eq_some_iff.mp followed
    obtain ⟨between,first⟩ :=
      performs (m := ⟨site,⟨claim,.ask operation next⟩ :: others,past⟩) .inside enough asked
    obtain ⟨later,last⟩ := follow_above performs enough (next outcome) between rest
    exact ⟨later,first.trans last⟩
  | .note book entry next =>
    have noted : Step ⟨site,⟨claim,.note book entry next⟩ :: others,past⟩ (.noted book entry)
        ⟨site.note book entry,⟨claim,next⟩ :: others,past ++ [.noted book entry]⟩ := .note rfl
    obtain ⟨later,last⟩ := follow_above performs enough next _ followed
    exact ⟨later,last.head ⟨enough,_,noted⟩⟩

theorem claimWithin_refused {site after : Site} {refusal : Refusal} {app : Application}
    {identity : Identity}
    (begun : site.beginClaim app.id identity.guid = (.error refusal,after)) (depth : Nat) :
    Site.claimWithin depth app identity site = some (.error refusal,after) := by
  unfold Site.claimWithin
  rw [begun]

-- A claim that makes no approver wait is one that is refused at once.
theorem perform_claim {site after : Site} {app : Application} {identity : Identity}
    {outcome : Outcome}
    (ran : (Operation.claim app identity).perform 0 site = some (outcome,after)) :
    ∃ refusal, outcome = .refused refusal ∧
      site.beginClaim app.id identity.guid = (.error refusal,after) := by
  obtain ⟨⟨result,last⟩,claimed,returned⟩ := Option.bind_eq_some_iff.mp ran
  cases Option.some.inj returned
  unfold Site.claimWithin at claimed
  split at claimed
  · rename_i refusal refused begun
    cases Option.some.inj claimed
    exact ⟨refusal,rfl,begun⟩
  · cases claimed

-- What an operation comes to within any depth of claims, its moves come to.
theorem perform_above {depth : Nat} (asked : Asked m.waiting operation)
    (enough : fewest ≤ m.waiting.length)
    (performed : operation.perform depth m.site = some (outcome,after)) :
    ∃ past, LeadsAbove fewest m ⟨after,m.waiting.modifyHead (·.told outcome),past⟩ := by
  induction depth generalizing m operation outcome after with
  | zero => exact ⟨_,.single ⟨enough,_,.perform asked performed⟩⟩
  | succ depth ih =>
    cases operation with
    | claim app identity =>
      obtain ⟨⟨result,last⟩,claimed,returned⟩ := Option.bind_eq_some_iff.mp performed
      cases Option.some.inj returned
      cases begun : m.site.beginClaim app.id identity.guid with
      | mk begins marked =>
        cases begins with
        | error refusal =>
          rw [claimWithin_refused begun] at claimed
          cases Option.some.inj claimed
          have refused : (Operation.claim app identity).perform 0 m.site =
              some (.refused refusal,_) :=
            Option.bind_eq_some_iff.mpr ⟨_,claimWithin_refused begun 0,rfl⟩
          exact ⟨_,.single ⟨enough,_,.perform asked refused⟩⟩
        | ok shown =>
          simp only [Site.claimWithin,begun] at claimed
          obtain ⟨⟨approved,decided⟩,followed,ended⟩ := Option.bind_eq_some_iff.mp claimed
          have more : fewest ≤ m.waiting.length + 1 := Nat.le_succ_of_le enough
          obtain ⟨_,answered⟩ := follow_above ih more _ _ followed
          have first := answered.head ⟨enough,_,.begin asked begun _ rfl⟩
          exact ⟨_,first.tail ⟨more,_,.decide rfl (Option.some.inj ended)⟩⟩
    | _ => exact ⟨_,.single ⟨enough,_,.perform asked performed⟩⟩

theorem perform_leads {depth : Nat} (asked : Asked m.waiting operation)
    (performed : operation.perform depth m.site = some (outcome,after)) :
    ∃ past, Leads m ⟨after,m.waiting.modifyHead (·.told outcome),past⟩ := by
  obtain ⟨past,leads⟩ := perform_above asked (Nat.zero_le _) performed
  exact ⟨past,above_leads leads⟩

theorem perform_reached {depth : Nat} (reached : Reachable m) (asked : Asked m.waiting operation)
    (performed : operation.perform depth m.site = some (outcome,after)) :
    ∃ past, Reachable ⟨after,m.waiting.modifyHead (·.told outcome),past⟩ := by
  obtain ⟨past,leads⟩ := perform_leads asked performed
  exact ⟨past,leads_reached leads reached⟩

end Moment

-- Small runs to evaluate: one identity, one application, and an approver that asks for something
-- before it answers. Every move after the first three is a claim of the application, or one of
-- the approver's own.
namespace Sample

def lamp : Application := ⟨⟨"A1"⟩,"Lamp","hallway",.claimable,.running⟩

def alice : Identity := ⟨"alice",Guid.reserved⟩

def asking (operations : List Operation) (approved : Bool) : Approver :=
  Approver.scripted operations none fun _ _ => approved

def following (allowed : Moment → Move → Bool) (outside : List Operation) : Moment :=
  (Moment.run allowed {} outside).getD {}

def ending (allowed : Moment → Move → Bool) (approver : Approver) (moves : Nat) : Moment :=
  following allowed ([.createIdentity alice,.setApprover approver,.announce lamp ⟨[0]⟩]
    ++ List.replicate moves (.claim lamp alice))

theorem following_reached (allowed : Moment → Move → Bool) (outside : List Operation) :
    Moment.Reached allowed (following allowed outside) := by
  unfold following
  cases ran : Moment.run allowed {} outside with
  | none => exact .initial
  | some m => exact Moment.run_reached .initial ran

theorem ending_reached (allowed : Moment → Move → Bool) (approver : Approver) (moves : Nat) :
    Moment.Reached allowed (ending allowed approver moves) := following_reached _ _

end Sample

end Custody
