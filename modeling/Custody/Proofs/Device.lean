import Custody.Proofs.Approval

-- What a device says of itself is never lost. The name, the device and the manifest of an
-- application are those of its latest announcement, and it runs as was said last, by an
-- announcement or by a change of its running state. A claim is shown a copy of the application and
-- ends long after that, but what it writes is only the claim state and the owner.

namespace Custody

variable {id : ApplicationId}

-- The running state that a move gives to an application.
def Move.runs (id : ApplicationId) : Move → Option RunningState
  | .performed (.setRunning key state) _ => if key = id then some state else none
  | move => (move.announced id).map (·.app.runningState)

theorem announced_runs {move : Move} (new : move.announced id = some record) :
    move.runs id = some record.app.runningState := by
  obtain ⟨app,manifest,outcome,rfl,_⟩ := announced_fresh new
  exact Option.map_eq_some_iff.mpr ⟨record,new,rfl⟩

theorem runs_cases {move : Move} (runs : move.runs id = some state) :
    (∃ outcome, move = .performed (.setRunning id state) outcome) ∨
      ∃ fresh, move.announced id = some fresh ∧ fresh.app.runningState = state := by
  unfold Move.runs at runs
  split at runs
  · rename_i key told outcome
    split at runs
    · rename_i same
      cases runs
      exact .inl ⟨outcome,by rw [same]⟩
    · cases runs
  · exact .inr (Option.map_eq_some_iff.mp runs)

theorem settled_running (record : Record) (claimant : Guid) (approved : Bool) :
    (record.settled claimant approved).app.runningState = record.app.runningState := by
  cases approved <;> rfl

-- A record that is changed by a move which says nothing of it runs as before.
theorem Change.running_kept {before after : Record}
    (change : Change id (some before) move (some after)) (silent : move.runs id = none) :
    after.app.runningState = before.app.runningState := by
  cases change with
  | kept => rfl
  | announced new => rw [announced_runs new] at silent; cases silent
  | running => simp [Move.runs] at silent
  | enrolled => rfl
  | governed => rfl
  | marked here free app manifest => simp [app]
  | decided here => exact settled_running _ _ _

namespace Moment

theorem setRunning_running
    (step : Step m (.performed (.setRunning id state) outcome) next)
    (found : next.site.fleet.records.find? id = some record) :
    record.app.runningState = state := by
  cases step with
  | perform asked ran =>
    cases Option.some.inj ran
    change (m.site.after (m.site.fleet.setRunning id state)).fleet.records.find? id = _ at found
    rw [Site.after_fleet] at found
    cases changed : m.site.fleet.setRunning id state with
    | none =>
      -- Nothing is known under the id, then or before.
      have unknown := Option.map_eq_none_iff.mp changed
      rw [changed,Option.map_none,Option.getD_none,unknown] at found
      cases found
    | some change =>
      obtain ⟨_,_,_,records⟩ := Fleet.find?_change changed
      rw [changed,Option.map_some,Option.getD_some,records,Keyed.find?_insert_self] at found
      cases found
      rfl

-- An application that is known after a move runs as the move says, or else as before.
theorem step_running (step : Step m move next)
    (found : next.site.fleet.records.find? id = some record) :
    move.runs id = some record.app.runningState ∨
      move.runs id = none ∧ ∃ old, m.site.fleet.records.find? id = some old ∧
        record.app.runningState = old.app.runningState := by
  have change := step_change step id
  cases runs : move.runs id with
  | some state =>
    rcases runs_cases runs with ⟨outcome,rfl⟩ | ⟨fresh,new,same⟩
    · exact .inl (by rw [setRunning_running step found])
    · rw [change.fresh new] at found
      cases found
      exact .inl (by rw [same])
  | none =>
    have unannounced : move.announced id = none := by
      cases new : move.announced id with
      | none => rfl
      | some fresh => rw [announced_runs new] at runs; cases runs
    rw [found] at change
    obtain ⟨old,known⟩ := change.known unannounced
    rw [known] at change
    exact .inr ⟨rfl,old,known,change.running_kept runs⟩

theorem found_running (reached : Reached allowed m)
    (found : m.site.fleet.records.find? id = some record) :
    latest (·.runs id) m.past = some record.app.runningState := by
  induction reached generalizing record with
  | initial => cases found
  | step _ step _ ih =>
    rw [step_past step,latest_concat]
    rcases step_running step found with told | ⟨silent,old,known,same⟩
    · rw [told,Option.some_or]
    · rw [silent,Option.none_or,ih known,same]

-- What a decision makes of any record that it finds, whatever it decides.
theorem decided_found (step : Step m (.decided claim approved) next)
    (found : m.site.fleet.records.find? id = some record) :
    ∃ settled, next.site.fleet.records.find? id = some settled ∧
      settled.origin = record.origin ∧
      settled.app.runningState = record.app.runningState := by
  have change := step_change step id
  rw [found] at change
  generalize next.site.fleet.records.find? id = after at change
  cases change with
  | kept => exact ⟨record,rfl,rfl,rfl⟩
  | announced new => cases new
  | decided => exact ⟨_,rfl,settled_origin _ _ _,settled_running _ _ _⟩

-- What was said last while a claim was waiting is what holds when it is decided.
theorem during_running (reached : Reached allowed m) (waits : claim ∈ m.claims)
    (found : m.site.fleet.records.find? id = some record)
    (told : latest (·.runs id) (claim.during m.past) = some state) :
    record.app.runningState = state := by
  have last := found_running reached found
  rw [latest_began (waiting_began reached waits) rfl,told,Option.some_or] at last
  exact (Option.some.inj last).symm

theorem no_lost_update (reached : Reachable m)
    (found : m.site.fleet.records.find? id = some record) :
    (∃ fresh, latest (·.announced id) m.past = some fresh ∧ record.origin = fresh.origin) ∧
    latest (·.runs id) m.past = some record.app.runningState ∧
    ∀ claim approved next, Step m (.decided claim approved) next →
      ∃ settled, next.site.fleet.records.find? id = some settled ∧
        settled.origin = record.origin ∧
        settled.app.runningState = record.app.runningState ∧
        ∀ state, latest (·.runs id) (claim.during m.past) = some state →
          settled.app.runningState = state := by
  refine ⟨found_announced reached found,found_running reached found,?_⟩
  intro claim approved next step
  obtain ⟨settled,known,origin,running⟩ := decided_found step found
  refine ⟨settled,known,origin,running,fun state told => ?_⟩
  exact running.trans (during_running reached (decided_waits step) found told)

end Moment

namespace Sample

-- The lamp stops running while its approver decides, which has been shown a lamp that runs.
def stopped : Moment :=
  ending (fun _ _ => true) (asking [.setRunning lamp.id .notRunning] false) 2

theorem stopped_kept :
    Moment.Reachable stopped ∧
    ∃ record, stopped.site.fleet.records.find? lamp.id = some record ∧
      record.app.runningState = .notRunning ∧
      (∀ claim ∈ stopped.claims, claim.shown.app.runningState = .running) ∧
      (∃ move next, stopped.Step move next ∧ next.claims = []) ∧
      (∃ fresh, latest (·.announced lamp.id) stopped.past = some fresh ∧
        record.origin = fresh.origin) ∧
      latest (·.runs lamp.id) stopped.past = some record.app.runningState ∧
      ∀ claim approved next, stopped.Step (.decided claim approved) next →
        ∃ settled, next.site.fleet.records.find? lamp.id = some settled ∧
          settled.origin = record.origin ∧
          settled.app.runningState = record.app.runningState ∧
          ∀ state, latest (·.runs lamp.id) (claim.during stopped.past) = some state →
            settled.app.runningState = state :=
  ⟨ending_reached _ _ _,_,rfl,rfl,by decide,
    ⟨_,_,Moment.advance_sound (show stopped.advance .guilds = some (_,_) from rfl),rfl⟩,
    Moment.no_lost_update (ending_reached _ _ _) rfl⟩

end Sample

end Custody
