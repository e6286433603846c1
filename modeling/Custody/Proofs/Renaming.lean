import Custody.Proofs.Founding
import Custody.Proofs.Past

-- What the identity store holds when a coordinator has been renamed. A rename to another name is
-- written to the store before it counts. A rename to the name that the coordinator has already is
-- no change, and nothing is written: if the store has come to hold another name since the
-- coordinator got its own, it goes on holding that one.

namespace Custody

variable {ν : Type} {guid : ν → Guid} {key : Guid}

-- The identity that a move writes to the store under an identifier.
def Move.writes (key : Guid) (move : Move) : Option Identity :=
  (move.admits.or move.revises).filter (·.guid = key)

def Site.stored (site : Site) (key : Guid) : Option Identity := site.fleet.identities.find? key

-- Under an identifier stands what a move writes there, or what stood there before.
theorem Stored.written (stored : Stored guid before made revised after) (key : Guid) :
    after.find? key = ((made.or revised).filter (guid · = key)).or (before.find? key) := by
  have inserted (value : ν) : (before.insert (guid value) value).find? key =
      ((some value).filter (guid · = key)).or (before.find? key) := by
    rw [Keyed.find?_insert_if]
    by_cases same : key = guid value
    · subst same
      simp [Option.filter]
    · simp [Option.filter,same,Ne.symm same]
  cases stored with
  | kept same => rw [same]; rfl
  | created absent put => rw [put]; exact inserted _
  | replaced present put => rw [put]; exact inserted _

theorem Moment.step_stored (step : Step m move next) (key : Guid) :
    next.site.stored key = (move.writes key).or (m.site.stored key) :=
  (step_stores step).identities.written key

namespace Scene

-- What is stored was written last, or has been there from the start.
theorem run_stored (run : Run start deeds s) (key : Guid) :
    ∃ since, s.moment.past = start.moment.past ++ since ∧
      s.site.stored key = (latest (·.writes key) since).or (start.site.stored key) := by
  apply run_keeps (fun m => ∃ since, m.past = start.moment.past ++ since ∧
    m.site.stored key = (latest (·.writes key) since).or (start.site.stored key)) _ run
  · intro m registry act _ before
    unfold Site.stored
    rw [Moment.tend_fleet]
    exact before
  · exact ⟨[],(List.append_nil _).symm,rfl⟩
  · intro m move next step before
    obtain ⟨since,past,held⟩ := before
    refine ⟨since ++ [move],?_,?_⟩
    · rw [Moment.step_past step,past,List.append_assoc]
    · rw [Moment.step_stored step,held,latest_concat,Option.or_assoc]

end Scene

namespace Coordinator

-- What comes of a rename.
inductive Renamed (coordinator : Coordinator) (userName : String) (site : Site) :
    Except Failure Unit → Coordinator → Site → Prop where
  | refused {failure : Failure} (kept : after.fleet.principals = site.fleet.principals) :
      Renamed coordinator userName site (.error failure) coordinator after
  | same (same : userName = coordinator.identity.name) (kept : after = site) :
      Renamed coordinator userName site (.ok ()) coordinator after
  | written (other : userName ≠ coordinator.identity.name)
      (held : after.stored coordinator.identity.guid =
        some { coordinator.identity with name := userName }) :
      Renamed coordinator userName site (.ok ())
        { coordinator with identity := { coordinator.identity with name := userName }, userName }
        after

theorem rename_cases {depth : Nat} {coordinator renamed : Coordinator} {userName : String}
    {result : Except Failure Unit} {site after : Site}
    (ran : coordinator.rename (Site.transport depth) userName site =
      some ((result,renamed),after)) :
    Renamed coordinator userName site result renamed after := by
  unfold rename at ran
  split at ran
  · cases Option.some.inj ran
    exact .refused rfl
  · split at ran
    · rename_i same
      cases Option.some.inj ran
      exact .same same rfl
    · rename_i other
      obtain ⟨stored,middle,storing,rest⟩ := Course.ran_bind ran
      obtain ⟨fleet,called,rfl⟩ := Course.ran_call storing
      rcases site.fleet.updateIdentity_spec { coordinator.identity with name := userName } with
        ⟨_,updated⟩ | ⟨refusal,refused⟩
      · cases called.symm.trans updated
        cases Option.some.inj rest
        exact .written other (Keyed.find?_insert_self _ _ _)
      · cases called.symm.trans refused
        cases Option.some.inj rest
        exact .refused rfl

theorem Renamed.granted {coordinator renamed : Coordinator} {userName : String}
    {site after : Site} (renames : Renamed coordinator userName site (.ok ()) renamed after) :
    (userName = coordinator.identity.name → after = site) ∧
    (userName ≠ coordinator.identity.name →
      (after.stored coordinator.identity.guid).map (·.name) = some userName) := by
  cases renames with
  | same same kept => exact ⟨fun _ => kept,fun other => absurd same other⟩
  | written other held => exact ⟨fun same => absurd same other,fun _ => by rw [held]; rfl⟩

end Coordinator

-- Whether a deed gives a coordinator the identity that it has: it is set up, or it is renamed.
def Deed.gives (name : String) (coordinator : Coordinator) : Deed → Prop
  | .setUp other _ (.ok made) => other = name ∧ made = coordinator
  | .renamed other userName (.ok ()) => other = name ∧ userName = coordinator.identity.name
  | _ => False

namespace Scene

-- What has been done since a deed gave a coordinator its identity, at a scene whose store then held
-- the same one.
inductive Since (name : String) (coordinator : Coordinator) :
    List Deed → Scene → List Move → Prop where
  | given (before : Run {} earlier scene) (does : Does scene deed origin)
      (gives : deed.gives name coordinator)
      (held : origin.site.stored coordinator.identity.guid = some coordinator.identity)
      (onwards : Run origin later s) (past : s.moment.past = origin.moment.past ++ since) :
      Since name coordinator (earlier ++ [deed] ++ later) s since

theorem Since.further (known : Since name coordinator deeds s since) (does : Does s deed next) :
    ∃ since, Since name coordinator (deeds ++ [deed]) next since := by
  cases known with
  | given before own gives held onwards past =>
    have further := Run.deed onwards does
    obtain ⟨since,later,_⟩ := run_stored further coordinator.identity.guid
    rw [List.append_assoc]
    exact ⟨since,.given before own gives held further later⟩

theorem since_given (before : Run {} deeds s) (does : Does s deed next)
    (gives : deed.gives name coordinator)
    (held : next.site.stored coordinator.identity.guid = some coordinator.identity) :
    ∃ since, Since name coordinator (deeds ++ [deed]) next since := by
  have now := Since.given before does gives held .nothing (List.append_nil _).symm
  rw [List.append_nil] at now
  exact ⟨[],now⟩

-- So the store holds what was written there since then, if anything was.
theorem Since.held (known : Since name coordinator deeds s since) :
    s.site.stored coordinator.identity.guid =
      (latest (·.writes coordinator.identity.guid) since).or (some coordinator.identity) := by
  cases known with
  | given before own gives held onwards past =>
    obtain ⟨later,same,stored⟩ := run_stored onwards coordinator.identity.guid
    rw [past] at same
    cases List.append_cancel_left same
    rw [stored,held]

-- Every coordinator got its identity from a deed of its own, when the store held the same.
theorem run_since (run : Run {} deeds s) (found : s.coordinators.find? name = some coordinator) :
    ∃ since, Since name coordinator deeds s since := by
  induction run generalizing name coordinator with
  | nothing => cases found
  | @deed deeds s deed next before does ih =>
    have stays (known : s.coordinators.find? name = some coordinator) :
        ∃ since, Since name coordinator (deeds ++ [deed]) next since := by
      obtain ⟨since,known⟩ := ih known
      exact known.further does
    cases does with
    | move step => exact stays found
    | tend registry act => exact stays found
    | claim known runs => exact stays found
    | setUp other runs =>
      rename_i setup result next depth
      cases result with
      | error failure => exact stays found
      | ok new =>
        rw [keeping,Keyed.find?_insert_if] at found
        split at found
        · rename_i same
          cases found
          have constructed := (Coordinator.create_ends depth setup _).only runs.ran
          obtain ⟨_,identity⟩ := constructed.stored _ rfl
          have own := (run_filed (.deed before (.setUp other runs))).2 _ _ identity
          refine since_given before (.setUp other runs) ⟨same.symm,rfl⟩ ?_
          rw [own]
          exact identity
        · exact stays found
    | rename known runs =>
      rw [Keyed.find?_insert_if] at found
      split at found
      · rename_i same
        cases found
        cases same
        have renames := Coordinator.rename_cases runs.ran
        cases renames with
        | refused | same => exact stays known
        | written other held =>
          exact since_given before (.rename known runs) ⟨rfl,rfl⟩ held
      · exact stays found

theorem does_renamed (does : Does s (.renamed name userName result) next) :
    ∃ coordinator renamed, s.coordinators.find? name = some coordinator ∧
      coordinator.Renamed userName s.site result renamed next.site := by
  cases does with
  | rename found runs => exact ⟨_,_,found,Coordinator.rename_cases runs.ran⟩

-- A rename that succeeds has written the name to the store, unless it is the name that the
-- coordinator has already. Then nothing is done, and the store holds that name unless another one
-- has been written since the coordinator got its own.
theorem rename_persisted (run : Run {} deeds s)
    (does : Does s (.renamed name userName (.ok ())) next) :
    ∃ coordinator since, s.coordinators.find? name = some coordinator ∧
      Since name coordinator deeds s since ∧
      (userName = coordinator.identity.name → next.site = s.site) ∧
      ((next.site.stored coordinator.identity.guid).map (·.name) = some userName ↔
        (userName = coordinator.identity.name →
          ∀ other, latest (·.writes coordinator.identity.guid) since = some other →
            other.name = userName)) := by
  obtain ⟨coordinator,renamed,found,renames⟩ := does_renamed does
  obtain ⟨since,known⟩ := run_since run found
  obtain ⟨idle,written⟩ := renames.granted
  refine ⟨coordinator,since,found,known,idle,?_⟩
  by_cases same : userName = coordinator.identity.name
  · rw [idle same,known.held,same]
    cases latest (·.writes coordinator.identity.guid) since with
    | none => simp
    | some other => simp
  · exact ⟨fun _ own => absurd own same,fun _ => written same⟩

end Scene

namespace Sample

-- Two coordinators have loaded one identity, and the second one renames it.
def twins : List Errand :=
  [.setUp "first" steward,.setUp "second" steward,.rename "second" "bob"]

-- The first coordinator has its name still, so to be given it is no change.
theorem twin_not_persisted :
    ∃ deeds s next coordinator, Scene.Run {} deeds s ∧
      Scene.Does s (.renamed "first" "alice" (.ok ())) next ∧
      s.coordinators.find? "first" = some coordinator ∧
      (next.site.stored coordinator.identity.guid).map (·.name) = some "bob" := by
  obtain ⟨past,run⟩ := staged_run {} twins []
  have attended : (staged {} twins).2.attend 2 (.rename "first" "alice") =
      some (.renamed "first" "alice" (.ok ()),_) := rfl
  obtain ⟨later,does⟩ := Stage.attend_does attended past
  exact ⟨_,_,_,_,run,does,rfl,rfl⟩

-- The second one takes its name back.
theorem twin_restored :
    ∃ deeds s next, Scene.Run {} deeds s ∧ deeds.length = 4 ∧
      Scene.Does s (.renamed "first" "alice" (.ok ())) next ∧ next.site.identity = some alice ∧
      ∃ coordinator since, s.coordinators.find? "first" = some coordinator ∧
        Scene.Since "first" coordinator deeds s since ∧
        ("alice" = coordinator.identity.name → next.site = s.site) ∧
        ((next.site.stored coordinator.identity.guid).map (·.name) = some "alice" ↔
          ("alice" = coordinator.identity.name →
            ∀ other, latest (·.writes coordinator.identity.guid) since = some other →
              other.name = "alice")) := by
  obtain ⟨past,run⟩ := staged_run {} (twins ++ [.rename "second" "alice"]) []
  have attended : (staged {} (twins ++ [.rename "second" "alice"])).2.attend 2
      (.rename "first" "alice") = some (.renamed "first" "alice" (.ok ()),_) := rfl
  obtain ⟨later,does⟩ := Stage.attend_does attended past
  exact ⟨_,_,_,run,rfl,does,rfl,Scene.rename_persisted run does⟩

end Sample

end Custody
