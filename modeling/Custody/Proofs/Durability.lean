import Custody.Proofs.Provision
import Custody.Proofs.Renaming

-- A coordinator that nobody else interferes with: what it takes its identity to be is what the
-- store holds, at every point of a run in which no other one writes anything new to the store under
-- the identifier of the coordinators. What is done is its own renames, and anything else by anyone.

namespace Custody

-- As long as anybody waits, what is written under the identifier of the coordinators is what stands
-- there. So no approver that is asked on the way changes it.
def Moment.Spares (m : Moment) : Prop :=
  ∀ middle move next, LeadsAbove 1 m middle → middle.waiting ≠ [] → Step middle move next →
    ∀ identity, move.writes Guid.reserved = some identity → middle.site.identity = some identity

namespace Scene

-- What is done does not change the stored identity, unless it is done by one coordinator itself.
-- Of a claim only its approver can be to blame; setting up and the work at registries write nothing
-- there, which is for `does_upheld` to show.
def Spares (name : String) (s : Scene) (next : Scene) : Deed → Prop
  | .moved move =>
    ∀ identity, move.writes Guid.reserved = some identity → s.site.identity = some identity
  | .claimed _ app _ => ∀ {claim marked}, s.moment.Step (.began claim) marked →
    claim.id = app.id → claim.claimant = Guid.reserved → marked.Spares
  | .renamed other _ _ => other ≠ name → next.site.identity = s.site.identity
  | .tended _ _ | .setUp _ _ _ => True

-- Runs in which one coordinator is the only one to change the stored identity.
inductive Alone (name : String) (start : Scene) : List Deed → Scene → Prop where
  | nothing : Alone name start [] start
  | deed (before : Alone name start deeds s) (does : Does s deed next)
      (spares : s.Spares name next deed) : Alone name start (deeds ++ [deed]) next

theorem Alone.run (alone : Alone name start deeds s) : Run start deeds s := by
  induction alone with
  | nothing => exact .nothing
  | deed _ does _ ih => exact .deed ih does

end Scene

-- A coordinator, as it was set up and as it is now, at a site that holds its identity and its
-- guild.
structure Coordinator.Upheld (first coordinator : Coordinator) (site : Site) : Prop where
  named : coordinator.userName = coordinator.identity.name
  identity : site.identity = some coordinator.identity
  guid : coordinator.identity.guid = first.identity.guid
  guild : coordinator.guild = first.guild
  founded : site.guild = some first.guild
  visible : Text.allBlank first.userName = false → Text.allBlank coordinator.userName = false

namespace Moment

theorem written_kept {move : Move}
    (spares : ∀ identity, move.writes Guid.reserved = some identity →
      m.site.identity = some identity)
    (step : Step m move next) : next.site.identity = m.site.identity := by
  refine (step_stored step Guid.reserved).trans ?_
  cases wrote : move.writes Guid.reserved with
  | none => rfl
  | some identity => exact (spares identity wrote).symm

theorem Spares.kept (spares : m.Spares) (leads : LeadsAbove 1 m next) :
    next.site.identity = m.site.identity := by
  induction leads with
  | refl => rfl
  | tail leads last ih =>
    obtain ⟨waits,move,step⟩ := last
    have busy := List.ne_nil_of_length_pos waits
    exact (written_kept (spares _ _ _ leads busy step) step).trans ih

-- A guild that is stored stays.
theorem step_founded (step : Step m move next) (founded : m.site.guild = some guild) :
    next.site.guild = some guild := (step_stores step).guilds.stays founded

end Moment

theorem identity_same {site after : Site} (same : after.fleet.principals = site.fleet.principals) :
    after.identity = site.identity :=
  congrArg (fun stores : Keyed Guid Guild × Keyed Guid Identity =>
    stores.2.find? Guid.reserved) same

theorem claimWithin_identity {depth : Nat} {m : Moment} {after : Site} {app : Application}
    {identity : Identity} (idle : m.waiting = [])
    (spares : ∀ {claim marked}, m.Step (.began claim) marked → claim.id = app.id →
      claim.claimant = identity.guid → marked.Spares)
    (ran : Site.claimWithin depth app identity m.site = some (result,after)) :
    after.identity = m.site.identity := by
  have same := m.site.beginClaim_principals app.id identity.guid
  cases begun : m.site.beginClaim app.id identity.guid with
  | mk begins marked =>
    rw [begun] at same
    have began := identity_same same
    cases begins with
    | error refusal =>
      rw [Moment.claimWithin_refused begun] at ran
      cases Option.some.inj ran
      exact began
    | ok shown =>
      cases depth with
      | zero => simp only [Site.claimWithin,begun] at ran; cases ran
      | succ depth =>
        simp only [Site.claimWithin,begun] at ran
        obtain ⟨⟨approved,decided⟩,followed,ended⟩ := Option.bind_eq_some_iff.mp ran
        -- While the approver is at work its claim waits, so whatever is done then spares the store.
        have step : m.Step (.began _) _ := .begin (idle ▸ .outside) begun _ rfl
        obtain ⟨later,meanwhile⟩ := Moment.follow_above Moment.perform_above
          (Nat.le_add_left 1 m.waiting.length) _ _ followed
        have during := (spares step rfl rfl).kept meanwhile
        rw [Site.endClaim_after (Option.some.inj ended)]
        exact (identity_same (decided.after_principals _ _)).trans (during.trans began)

namespace Coordinator

-- A blank name and the name that it has already are no names to be given, so nothing is called.
theorem rename_idle {m : Type → Type} [Monad m] (transport : Transport m Approver Listener)
    (coordinator : Coordinator) (userName : String)
    (idle : Text.allBlank userName = true ∨ userName = coordinator.identity.name) :
    ∃ result, coordinator.rename transport userName = pure (result,coordinator) ∧
      (Text.allBlank userName = true → ∃ failure, result = .error failure) := by
  unfold rename
  by_cases blank : Text.allBlank userName = true
  · rw [if_pos blank]
    exact ⟨_,rfl,fun _ => ⟨_,rfl⟩⟩
  · rw [if_neg blank,if_pos (idle.resolve_left blank)]
    exact ⟨_,rfl,fun same => absurd same blank⟩

theorem claim_identity {depth : Nat} {coordinator : Coordinator} {app : Application} {m : Moment}
    {after : Site} {result : Except Failure Unit} (idle : m.waiting = [])
    (spares : ∀ {claim marked}, m.Step (.began claim) marked → claim.id = app.id →
      claim.claimant = coordinator.identity.guid → marked.Spares)
    (ran : coordinator.claim (Site.transport depth) app m.site = some (result,after)) :
    after.identity = m.site.identity := by
  obtain ⟨claimed,owned,claiming,rest⟩ := Course.ran_bind ran
  have claims := claimWithin_identity idle spares claiming
  cases claimed with
  | error refusal =>
    cases Option.some.inj rest
    exact claims
  | ok done =>
    cases done
    obtain ⟨enrolled,joined,enrolling,rest⟩ := Course.ran_bind rest
    obtain ⟨fleet,called,rfl⟩ := Course.ran_call enrolling
    have joins := owned.fleet.installMembership_principals app.id coordinator.guild.guid
    rw [called] at joins
    have joined : ({ owned with fleet } : Site).identity = m.site.identity :=
      (identity_same joins).trans claims
    cases enrolled with
    | error refusal =>
      cases Option.some.inj rest
      exact joined
    | ok done =>
      cases done
      obtain ⟨governed,last,governing,rest⟩ := Course.ran_bind rest
      obtain ⟨after,called,rfl⟩ := Course.ran_call governing
      have rules := fleet.installPolicy_principals app.id (Policy.forGuilds [coordinator.guild])
      rw [called] at rules
      have ruled : ({ owned with fleet := after } : Site).identity =
          ({ owned with fleet } : Site).identity := identity_same rules
      rw [joined] at ruled
      cases governed with
      | error refusal | ok done =>
        cases Option.some.inj rest
        exact ruled

end Coordinator

theorem Coordinator.Upheld.congr {first coordinator : Coordinator} {site after : Site}
    (upheld : first.Upheld coordinator site) (same : after.identity = site.identity)
    (founded : after.guild = some first.guild) : first.Upheld coordinator after :=
  { upheld with identity := same.trans upheld.identity, founded }

-- What is set up while a coordinator is upheld has the same identity and the same guild.
theorem Coordinator.Upheld.setUp {first coordinator new : Coordinator} {site after : Site}
    {depth : Nat} {setup : Setup Approver Listener} (upheld : first.Upheld coordinator site)
    (ran : create (Site.transport depth) setup site = some (.ok new,after)) :
    new.identity = coordinator.identity ∧ first.Upheld new after := by
  have constructed := (create_ends depth setup site).only ran
  obtain ⟨guild,identity⟩ := constructed.stored new rfl
  have founded := constructed.kept.guild _ upheld.founded
  have same := Option.some.inj
    (identity.symm.trans (constructed.kept.identity _ upheld.identity))
  obtain ⟨named,_⟩ := create_made ran
  refine ⟨same,named,identity,?_,?_,founded,fun visible => ?_⟩
  · rw [same]; exact upheld.guid
  · exact Option.some.inj (guild.symm.trans founded)
  · rw [named,same,← upheld.named]
    exact upheld.visible visible

-- What comes of a rename of a coordinator that is upheld.
theorem Coordinator.Upheld.renamed {first coordinator renamed : Coordinator} {site after : Site}
    {depth : Nat} {userName : String} {result : Except Failure Unit}
    (upheld : first.Upheld coordinator site) (founded : after.guild = some first.guild)
    (reserved : coordinator.identity.guid = Guid.reserved)
    (ran : coordinator.rename (Site.transport depth) userName site =
      some ((result,renamed),after)) : first.Upheld renamed after := by
  cases rename_cases ran with
  | refused kept => exact upheld.congr (identity_same kept) founded
  | same _ kept => exact upheld.congr (congrArg Site.identity kept) founded
  | written other held =>
    rw [reserved] at held
    refine ⟨rfl,held,upheld.guid,upheld.guild,founded,fun _ => ?_⟩
    refine Bool.eq_false_iff.mpr fun blank => ?_
    obtain ⟨result,idle,refused⟩ :=
      rename_idle (Site.transport depth) coordinator userName (.inl blank)
    obtain ⟨failure,failed⟩ := refused blank
    rw [idle,failed] at ran
    cases Option.some.inj ran

namespace Scene

-- What is stored of the guild is kept by everything that is done.
theorem does_founded (does : Does s deed next) (founded : s.site.guild = some guild) :
    next.site.guild = some guild := by
  show (fun m : Moment => m.site.guild = some guild) next.moment
  refine does_keeps Moment.step_founded does (fun registry act _ before => ?_) founded
  unfold Site.guild
  rw [Moment.tend_fleet]
  exact before

theorem does_upheld {first coordinator : Coordinator} (run : Run {} deeds s)
    (does : Does s deed next) (spares : s.Spares name next deed)
    (found : s.coordinators.find? name = some coordinator)
    (upheld : first.Upheld coordinator s.site) :
    ∃ later, next.coordinators.find? name = some later ∧ first.Upheld later next.site := by
  have founded := does_founded does upheld.founded
  cases does with
  | move step => exact ⟨coordinator,found,upheld.congr (Moment.written_kept spares step) founded⟩
  | tend registry act =>
    refine ⟨coordinator,found,upheld.congr (identity_same ?_) founded⟩
    exact congrArg Fleet.principals (Moment.tend_fleet _ _ _)
  | setUp other runs =>
    rename_i setup result next depth
    have constructed := (Coordinator.create_ends depth setup _).only runs.ran
    have kept := constructed.kept.identity _ upheld.identity
    have still := upheld.congr (kept.trans upheld.identity.symm) founded
    cases result with
    | error failure => exact ⟨coordinator,found,still⟩
    | ok new =>
      rw [keeping,Keyed.find?_insert_if]
      split
      · exact ⟨new,rfl,(upheld.setUp runs.ran).2⟩
      · exact ⟨coordinator,found,still⟩
  | claim known runs =>
    obtain ⟨_,reserved⟩ := run_reserved run known
    have kept := Coordinator.claim_identity runs.idle
      (fun step own claimant => spares step own (claimant.trans reserved)) runs.ran
    exact ⟨coordinator,found,upheld.congr kept founded⟩
  | rename known runs =>
    rename_i caller userName result next renamed depth
    rw [Keyed.find?_insert_if]
    split
    · rename_i same
      subst same
      cases Option.some.inj (known.symm.trans found)
      obtain ⟨_,reserved⟩ := run_reserved run found
      exact ⟨renamed,rfl,upheld.renamed founded reserved runs.ran⟩
    · rename_i apart
      exact ⟨coordinator,found,upheld.congr (spares (Ne.symm apart)) founded⟩

-- A coordinator is upheld from its setting up, as long as it is alone.
theorem setUp_upheld (does : Does s (.setUp name setup (.ok first)) next) :
    next.coordinators.find? name = some first ∧ first.Upheld first next.site := by
  cases does with
  | setUp _ runs =>
    rename_i next depth
    obtain ⟨guild,identity⟩ :=
      ((Coordinator.create_ends depth setup _).only runs.ran).stored first rfl
    obtain ⟨named,_⟩ := Coordinator.create_made runs.ran
    exact ⟨Keyed.find?_insert_self _ _ _,named,identity,rfl,rfl,guild,id⟩

theorem alone_upheld {first : Coordinator} (run : Run {} earlier start)
    (found : start.coordinators.find? name = some first) (upheld : first.Upheld first start.site)
    (alone : Alone name start deeds s) :
    ∃ coordinator, s.coordinators.find? name = some coordinator ∧
      first.Upheld coordinator s.site := by
  induction alone with
  | nothing => exact ⟨first,found,upheld⟩
  | deed before does spares ih =>
    obtain ⟨coordinator,known,upheld⟩ := ih
    exact does_upheld (run.append before.run) does spares known upheld

theorem failed_rename {failure : Failure}
    (does : Does s (.renamed name userName (.error failure)) next) :
    next.coordinators = s.coordinators ∧
      next.site.fleet.principals = s.site.fleet.principals := by
  cases does with
  | rename known runs =>
    cases Coordinator.rename_cases runs.ran with
    | refused kept => exact ⟨Keyed.insert_found _ known,kept⟩

theorem idle_rename (does : Does s (.renamed name userName result) next)
    (found : s.coordinators.find? name = some coordinator)
    (idle : Text.allBlank userName = true ∨ userName = coordinator.identity.name) :
    next.coordinators = s.coordinators ∧ next.site = s.site := by
  cases does with
  | rename known runs =>
    rename_i next renamed depth
    cases Option.some.inj (known.symm.trans found)
    have ran := runs.ran
    obtain ⟨_,nothing,_⟩ := Coordinator.rename_idle (Site.transport depth) coordinator userName idle
    rw [nothing] at ran
    obtain ⟨same,still⟩ := Prod.mk.inj (Option.some.inj ran)
    rw [← (Prod.mk.inj same).2]
    exact ⟨Keyed.insert_found _ found,still.symm⟩

-- From the moment it was set up, a coordinator that is alone has the name and the identity that are
-- stored, whatever is done; it keeps its identifier, its guild and a name that can be read. A
-- rename that fails changes nothing here or in the stores, and one to a blank name or to the name
-- that it has calls nobody. Whoever is set up later, under whatever name, gets this one.
theorem identity_durable (run : Run {} earlier origin)
    (begun : Does origin (.setUp name setup (.ok first)) start)
    (alone : Alone name start deeds s) :
    ∃ coordinator, s.coordinators.find? name = some coordinator ∧
      first.Upheld coordinator s.site ∧
      (∀ userName result next, Does s (.renamed name userName result) next →
        (∀ failure, result = .error failure →
          next.coordinators = s.coordinators ∧
          next.site.fleet.principals = s.site.fleet.principals) ∧
        (Text.allBlank userName = true ∨ userName = coordinator.userName →
          next.coordinators = s.coordinators ∧ next.site = s.site)) ∧
      ∀ other setup made next, Does s (.setUp other setup (.ok made)) next →
        made.userName = coordinator.userName ∧ made.identity = coordinator.identity := by
  obtain ⟨present,fresh⟩ := setUp_upheld begun
  obtain ⟨coordinator,found,upheld⟩ := alone_upheld (.deed run begun) present fresh alone
  refine ⟨coordinator,found,upheld,fun userName result next does => ⟨?_,fun idle => ?_⟩,?_⟩
  · rintro failure rfl
    exact failed_rename does
  · rw [upheld.named] at idle
    exact idle_rename does found idle
  · intro other setup made next does
    cases does with
    | setUp _ runs =>
      obtain ⟨same,made⟩ := upheld.setUp runs.ran
      exact ⟨made.named.trans (same ▸ upheld.named.symm),same⟩

end Scene

namespace Moment

-- An approver that only answers goes on answering until its claim is decided, and writes nothing to
-- the stores on the way.
theorem step_quiet (waits : m.waiting = [⟨claim,inquiry⟩]) (quiet : inquiry.Quiet)
    (step : Step m move next) : move.writes Guid.reserved = none ∧
      (next.waiting = [] ∨ ∃ rest, next.waiting = [⟨claim,rest⟩] ∧ Inquiry.Quiet rest) := by
  cases step with
  | perform asked ran | begin asked begun =>
    rw [waits] at asked
    cases asked
    exact quiet.elim
  | note at_work =>
    obtain ⟨same,rfl⟩ := List.cons.inj (waits.symm.trans at_work)
    cases same
    exact ⟨rfl,.inr ⟨_,rfl,quiet⟩⟩
  | decide at_end ended =>
    obtain ⟨same,rfl⟩ := List.cons.inj (waits.symm.trans at_end)
    cases same
    exact ⟨rfl,.inl rfl⟩

theorem quiet_spares {m : Moment} {inquiry : Inquiry} (waits : m.waiting = [⟨claim,inquiry⟩])
    (quiet : inquiry.Quiet) : m.Spares := by
  intro middle move next leads busy step identity wrote
  have waiting : middle.waiting = [] ∨
      ∃ rest, middle.waiting = [⟨claim,rest⟩] ∧ Inquiry.Quiet rest := by
    clear busy step wrote
    induction leads with
    | refl => exact .inr ⟨inquiry,waits,quiet⟩
    | tail _ last ih =>
      obtain ⟨some,_,step⟩ := last
      rcases ih with none | ⟨rest,waits,quiet⟩
      · rw [none] at some; cases some
      · exact (step_quiet waits quiet step).2
  rcases waiting with none | ⟨rest,waits,quiet⟩
  · exact absurd none busy
  · rw [(step_quiet waits quiet step).1] at wrote
    cases wrote

end Moment

-- Whether what is done is a rename of one coordinator, or no rename and no change of a stored
-- identity from outside.
def Deed.spares (name : String) : Deed → Bool
  | .moved move => (move.writes Guid.reserved).isNone
  | .renamed other _ _ => other = name
  | .tended _ _ | .setUp _ _ _ | .claimed _ _ _ => true

namespace Scene

-- So in runs in which approvers only answer, a coordinator is alone if nobody else renames.
theorem run_alone (earlier : Run {} before start) (run : Run start deeds s)
    (orderly : ∀ deed ∈ before ++ deeds, deed.Orderly)
    (sparing : ∀ deed ∈ deeds, deed.spares name = true) : Alone name start deeds s := by
  induction run with
  | nothing => exact .nothing
  | @deed deeds s deed next run does ih =>
    have member {other : Deed} (old : other ∈ deeds) : other ∈ deeds ++ [deed] :=
      List.mem_append_left _ old
    have first : ∀ other ∈ before ++ deeds, other.Orderly := by
      intro other old
      rcases List.mem_append.mp old with old | old
      · exact orderly other (List.mem_append_left _ old)
      · exact orderly other (List.mem_append_right _ (member old))
    refine .deed (ih first fun other old => sparing other (member old)) does ?_
    have own := sparing deed (by simp)
    cases does with
    | move step =>
      intro identity wrote
      rw [Option.isNone_iff_eq_none.mp own] at wrote
      cases wrote
    | tend | setUp => trivial
    | rename => exact fun other => absurd (of_decide_eq_true own) other
    | claim found runs =>
      intro claim marked step _ _
      obtain ⟨idle,quiet⟩ := run_quiet (earlier.append run) first
      obtain ⟨_,_,_,_,_,_,asked,_⟩ := began_found step
      cases step with
      | begin _ _ _ same =>
        subst same
        refine Moment.quiet_spares (by rw [idle]) ?_
        exact quiet _ asked _ _

end Scene

namespace Sample

def coordinating : Stage := (staged {} [.setUp "steward" answering]).2

-- The steward renames itself, in vain while the store is set to fail, and claims the lamp; the lamp
-- is announced again, and everything is listed.
def stewardship : List Errand :=
  [.rename "steward" "bob",.ask (.setFault .updateIdentity .noApprover),
    .rename "steward" "carol",.ask (.announce lamp ⟨[0]⟩),.claim "steward" lamp,
    .ask (.clearFault .updateIdentity),.rename "steward" " ",.rename "steward" "dora",
    .ask (.announce lamp ⟨[1]⟩),.ask .listApplications]

theorem stewardship_orderly : ∀ errand ∈ stewardship, errand.Orderly := by
  intro errand member
  unfold stewardship at member
  simp only [List.mem_cons,List.not_mem_nil,or_false] at member
  rcases member with rfl | rfl | rfl | rfl | rfl | rfl | rfl | rfl | rfl | rfl
  all_goals trivial

theorem dora_durable :
    ∃ first start deeds s, Scene.Does {} (.setUp "steward" answering (.ok first)) start ∧
      Scene.Alone "steward" start deeds s ∧ deeds.length = 10 ∧
      ∃ coordinator, s.coordinators.find? "steward" = some coordinator ∧
        coordinator.userName = "dora" ∧ first.Upheld coordinator s.site ∧
        (∀ userName result next, Scene.Does s (.renamed "steward" userName result) next →
          (∀ failure, result = .error failure →
            next.coordinators = s.coordinators ∧
            next.site.fleet.principals = s.site.fleet.principals) ∧
          (Text.allBlank userName = true ∨ userName = coordinator.userName →
            next.coordinators = s.coordinators ∧ next.site = s.site)) ∧
        ∀ other setup made next, Scene.Does s (.setUp other setup (.ok made)) next →
          made.userName = coordinator.userName ∧ made.identity = coordinator.identity := by
  have attended : ({} : Stage).attend 2 (.setUp "steward" answering) =
      some (.setUp "steward" answering (.ok _),coordinating) := rfl
  obtain ⟨past,begun⟩ := Stage.attend_does attended []
  obtain ⟨later,run⟩ := staged_run coordinating stewardship past
  have orderly := staged_orderly coordinating stewardship stewardship_orderly
  have earlier : Scene.Run {} [_] (coordinating.scene past) := .deed .nothing begun
  have alone : Scene.Alone "steward" (coordinating.scene past)
      (staged coordinating stewardship).1 ((staged coordinating stewardship).2.scene later) := by
    refine Scene.run_alone earlier run (fun deed member => ?_) (by decide +kernel)
    rcases List.mem_append.mp member with here | there
    · rw [List.mem_singleton.mp here]
      rintro _ ⟨⟩ app manifest
      trivial
    · exact orderly deed there
  obtain ⟨coordinator,found,upheld,renames,others⟩ :=
    Scene.identity_durable .nothing begun alone
  have name : coordinator.userName = "dora" := by
    have known : ((staged coordinating stewardship).2.coordinators.find? "steward").map
        (·.userName) = some "dora" := by decide +kernel
    rw [show (staged coordinating stewardship).2.coordinators.find? "steward" = _ from found]
      at known
    exact Option.some.inj known
  exact ⟨_,_,_,_,begun,alone,by decide +kernel,coordinator,found,name,upheld,renames,others⟩

end Sample

end Custody
