import Custody.Coordinator
import Custody.Proofs.Composition
import Custody.Proofs.Frames
import Custody.Proofs.Moment
import Custody.Proofs.Viewing

-- A site with the coordinators that have been set up on it, and everything that is done with it
-- from outside: operations, one move at a time; work at its registries; and calls of coordinators.
-- A call comes to its result before anything else is asked for from outside, but its approver may
-- ask for whatever it likes. What a call does to the site it does by moves (`Moves.runs`).

namespace Custody

-- A course that changes a site by nothing but moves.
structure Course.Moves (course : Course α) : Prop where
  leads : ∀ {site result after}, course site = some (result,after) →
    ∀ past, ∃ later, Moment.Leads ⟨site,[],past⟩ ⟨after,[],later⟩

namespace Course

theorem moves_pure (result : α) : Moves (pure result) where
  leads ran past := by
    cases Option.some.inj ran
    exact ⟨past,.refl⟩

theorem Moves.bind {course : Course α} {rest : α → Course β} (first : course.Moves)
    (next : ∀ result, (rest result).Moves) : (course >>= rest).Moves where
  leads ran past := by
    obtain ⟨result,middle,began,ended⟩ := ran_bind ran
    obtain ⟨between,there⟩ := first.leads began past
    obtain ⟨later,onwards⟩ := (next result).leads ended between
    exact ⟨later,there.trans onwards⟩

-- What an operation does, without the form in which it reports it.
theorem moves_operation {course : Course α} (depth : Nat) (operation : Operation)
    (report : α → Outcome)
    (same : operation.perform depth = course >>= fun result => pure (report result)) :
    course.Moves where
  leads {site result after} ran past := by
    have performed : operation.perform depth site = some (report result,after) := by
      rw [same]
      exact Option.bind_eq_some_iff.mpr ⟨_,ran,rfl⟩
    exact Moment.perform_leads (m := ⟨site,[],past⟩) .outside performed

theorem moves_composes : Composes @Moves := ⟨moves_pure,Moves.bind⟩

end Course

-- Every call at a site is an operation.
theorem Site.transport_moves (depth : Nat) : (Site.transport depth).Each @Course.Moves where
  listApplications := Course.moves_operation depth .listApplications (.ofResult .applications) rfl
  getApplication id :=
    Course.moves_operation depth (.getApplication id) (.ofResult .application) rfl
  claim app identity :=
    Course.moves_operation depth (.claim app identity) (.ofResult fun _ => .done) rfl
  installMembership app guild :=
    Course.moves_operation depth (.installMembership app guild) (.ofResult fun _ => .done) rfl
  installPolicy app policy :=
    Course.moves_operation depth (.installPolicy app policy) (.ofResult fun _ => .done) rfl
  updateIdentity identity :=
    Course.moves_operation depth (.updateIdentity identity) (.ofResult fun _ => .done) rfl
  getGuild guid := Course.moves_operation depth (.getGuild guid) (.ofResult .guild) rfl
  createGuild guild :=
    Course.moves_operation depth (.createGuild guild) (.ofResult fun _ => .done) rfl
  getIdentity guid := Course.moves_operation depth (.getIdentity guid) (.ofResult .identity) rfl
  createIdentity identity :=
    Course.moves_operation depth (.createIdentity identity) (.ofResult fun _ => .done) rfl

namespace Coordinator

variable (depth : Nat)

-- To load something, or create it if it does not exist.
def resolve {ν : Type} (load : Course (Except Refusal ν)) (create : Course (Except Refusal Unit))
    (value : ν) (loading creating : SetupStage) : Course (Except Failure ν) := do
  match ← load with
  | .ok found => pure (.ok found)
  | .error refusal =>
    if refusal.isNotFound then
      match ← create with
      | .ok () => pure (.ok value)
      | .error refusal => pure (.error (.setup creating refusal))
    else pure (.error (.setup loading refusal))

theorem resolveGuild_resolve :
    resolveGuild (Site.transport depth) =
      resolve (Course.call fun fleet => fleet.getGuild Guid.reserved)
        (Course.call fun fleet => fleet.createGuild Guild.reserved)
        Guild.reserved .loadGuild .createGuild := by
  apply bind_congr
  intro loaded
  cases loaded with
  | ok | error => rfl

theorem resolveIdentity_resolve (userName : String) :
    resolveIdentity (Site.transport depth) userName =
      resolve (Course.call fun fleet => fleet.getIdentity Guid.reserved)
        (Course.call fun fleet => fleet.createIdentity ⟨userName,Guid.reserved⟩)
        ⟨userName,Guid.reserved⟩ .loadIdentity .createIdentity := by
  apply bind_congr
  intro loaded
  cases loaded with
  | ok | error => rfl

theorem create_moves (setup : Setup Approver Listener) :
    Course.Moves (create (Site.transport depth) setup) := by
  refine create_composes Course.moves_composes (Site.transport_moves depth) (fun store => ?_)
    (fun approver => ?_) (fun listener => ?_) setup
  · exact Course.moves_operation depth (.openKeyStore store) (.ofResult fun _ => .done) rfl
  · exact Course.moves_operation depth (.setApprover approver) (fun _ => .done) rfl
  · exact Course.moves_operation depth (.addListener listener) (fun _ => .done) rfl

theorem claim_moves (coordinator : Coordinator) (app : Application) :
    Course.Moves (coordinator.claim (Site.transport depth) app) :=
  coordinator.claim_composes Course.moves_composes (Site.transport_moves depth) app

theorem rename_moves (coordinator : Coordinator) (name : String) :
    Course.Moves (coordinator.rename (Site.transport depth) name) :=
  coordinator.rename_composes Course.moves_composes (Site.transport_moves depth) name

end Coordinator

-- A course that is asked for while nobody waits comes to a result, and its moves lead there.
structure Moment.Runs (m : Moment) (course : Course α) (result : α) (next : Moment) : Prop where
  idle : m.waiting = []
  ended : next.waiting = []
  ran : course m.site = some (result,next.site)
  leads : Leads m next

theorem Course.Moves.runs {course : Course α} (moves : course.Moves) {m : Moment}
    (idle : m.waiting = []) (ran : course m.site = some (result,after)) :
    ∃ past, m.Runs course result ⟨after,[],past⟩ := by
  obtain ⟨site,waiting,past⟩ := m
  subst idle
  obtain ⟨later,leads⟩ := moves.leads ran past
  exact ⟨later,rfl,rfl,ran,leads⟩

structure Scene where
  moment : Moment := {}
  coordinators : Keyed String Coordinator := .empty

-- What is done with a site from outside, and what comes of it. Coordinators go by names.
inductive Deed where
  | moved (move : Move)
  | tended (registry : String) (act : Registry.Act)
  | setUp (name : String) (setup : Setup Approver Listener) (result : Except Failure Coordinator)
  | claimed (name : String) (app : Application) (result : Except Failure Unit)
  | renamed (name : String) (userName : String) (result : Except Failure Unit)

-- A moment at which a registry is worked at.
def Moment.tend (m : Moment) (registry : String) (act : Registry.Act) : Moment :=
  { m with site := m.site.onRegistry registry fun registry => registry.act act }

namespace Moment

theorem tend_fleet (m : Moment) (registry : String) (act : Registry.Act) :
    (m.tend registry act).site.fleet = m.site.fleet := (Site.onRegistry_keeps _ _ _).1

theorem tend_listeners (m : Moment) (registry : String) (act : Registry.Act) :
    (m.tend registry act).site.listeners = m.site.listeners := (Site.onRegistry_keeps _ _ _).2.1

theorem tend_approver (m : Moment) (registry : String) (act : Registry.Act) :
    (m.tend registry act).site.approver = m.site.approver := Site.onRegistry_approver _ _ _

end Moment

namespace Scene

def site (s : Scene) : Site := s.moment.site

-- Coordinators, with the one that has been set up if one has.
def keeping (coordinators : Keyed String Coordinator) (name : String) :
    Except Failure Coordinator → Keyed String Coordinator
  | .ok coordinator => coordinators.insert name coordinator
  | .error _ => coordinators

-- A call has a depth of its own, so no limit on the depth of claims stands here either.
inductive Does : Scene → Deed → Scene → Prop where
  | move (step : s.moment.Step move next) : Does s (.moved move) { s with moment := next }
  | tend (registry : String) (act : Registry.Act) :
      Does s (.tended registry act) { s with moment := s.moment.tend registry act }
  | setUp (name : String)
      (runs : s.moment.Runs (Coordinator.create (Site.transport depth) setup) result next) :
      Does s (.setUp name setup result) ⟨next,keeping s.coordinators name result⟩
  | claim (found : s.coordinators.find? name = some coordinator)
      (runs : s.moment.Runs (coordinator.claim (Site.transport depth) app) result next) :
      Does s (.claimed name app result) { s with moment := next }
  | rename (found : s.coordinators.find? name = some coordinator)
      (runs : s.moment.Runs (coordinator.rename (Site.transport depth) userName)
        (result,after) next) :
      Does s (.renamed name userName result) ⟨next,s.coordinators.insert name after⟩

inductive Run (start : Scene) : List Deed → Scene → Prop where
  | nothing : Run start [] start
  | deed (before : Run start deeds s) (does : Does s deed next) : Run start (deeds ++ [deed]) next

theorem Run.append (first : Run start earlier middle) (last : Run middle later s) :
    Run start (earlier ++ later) s := by
  induction last with
  | nothing => rwa [List.append_nil]
  | deed _ does ih => rw [← List.append_assoc]; exact .deed ih does

-- What moves and the work at registries keep is kept by everything that is done.
theorem does_keeps {holds : Moment → Prop}
    (moved : ∀ {m move next}, m.Step move next → holds m → holds next)
    (does : Does s deed next)
    (tended : ∀ registry act, deed = .tended registry act → holds s.moment →
      holds (s.moment.tend registry act))
    (before : holds s.moment) : holds next.moment := by
  cases does with
  | move step => exact moved step before
  | tend registry act => exact tended registry act rfl before
  | setUp name runs => exact Moment.leads_keeps moved runs.leads before
  | claim found runs | rename found runs => exact Moment.leads_keeps moved runs.leads before

theorem run_keeps (holds : Moment → Prop)
    (moved : ∀ {m move next}, m.Step move next → holds m → holds next)
    (run : Run start deeds s)
    (tended : ∀ m registry act, .tended registry act ∈ deeds → holds m →
      holds (m.tend registry act))
    (before : holds start.moment) : holds s.moment := by
  induction run with
  | nothing => exact before
  | deed _ does ih =>
    refine does_keeps moved does (fun registry act same => ?_) (ih fun m registry act done => ?_)
    · exact tended _ registry act (by simp [same])
    · exact tended m registry act (List.mem_append_left _ done)

end Scene

-- Something to be done at a site where nobody waits. Operations are those that make no approver
-- wait.
inductive Errand where
  | ask (operation : Operation)
  | tend (registry : String) (act : Registry.Act)
  | setUp (name : String) (setup : Setup Approver Listener)
  | claim (name : String) (app : Application)
  | rename (name : String) (userName : String)

-- A scene at which nobody waits, whatever its past.
structure Stage where
  site : Site := {}
  coordinators : Keyed String Coordinator := .empty

namespace Stage

def scene (stage : Stage) (past : List Move) : Scene := ⟨⟨stage.site,[],past⟩,stage.coordinators⟩

theorem scene_site (stage : Stage) (past : List Move) : (stage.scene past).site = stage.site := rfl

-- What comes of an errand, computed.
def attend (depth : Nat) (stage : Stage) : Errand → Option (Deed × Stage)
  | .ask operation =>
    (operation.perform 0 stage.site).map fun (outcome,site) =>
      (.moved (.performed operation outcome),{ stage with site })
  | .tend registry act =>
    some (.tended registry act,
      { stage with site := stage.site.onRegistry registry fun registry => registry.act act })
  | .setUp name setup =>
    (Coordinator.create (Site.transport depth) setup stage.site).map fun (result,site) =>
      (.setUp name setup result,⟨site,Scene.keeping stage.coordinators name result⟩)
  | .claim name app =>
    (stage.coordinators.find? name).bind fun coordinator =>
      (coordinator.claim (Site.transport depth) app stage.site).map fun (result,site) =>
        (.claimed name app result,{ stage with site })
  | .rename name userName =>
    (stage.coordinators.find? name).bind fun coordinator =>
      (coordinator.rename (Site.transport depth) userName stage.site).map
        fun ((result,after),site) =>
          (.renamed name userName result,⟨site,stage.coordinators.insert name after⟩)

def attendAll (depth : Nat) (stage : Stage) : List Errand → Option (List Deed × Stage)
  | [] => some ([],stage)
  | errand :: rest =>
    (stage.attend depth errand).bind fun (deed,next) =>
      (next.attendAll depth rest).map fun (deeds,last) => (deed :: deeds,last)

theorem attend_does {stage : Stage} (attended : stage.attend depth errand = some (deed,next))
    (past : List Move) : ∃ later, Scene.Does (stage.scene past) deed (next.scene later) := by
  cases errand with
  | ask operation =>
    obtain ⟨⟨outcome,site⟩,ran,same⟩ := Option.map_eq_some_iff.mp attended
    cases same
    exact ⟨_,.move (.perform .outside ran)⟩
  | tend registry act =>
    cases Option.some.inj attended
    exact ⟨past,.tend registry act⟩
  | setUp name setup =>
    obtain ⟨⟨result,site⟩,ran,same⟩ := Option.map_eq_some_iff.mp attended
    cases same
    obtain ⟨later,runs⟩ := (Coordinator.create_moves depth setup).runs
      (m := (stage.scene past).moment) rfl ran
    exact ⟨later,.setUp name runs⟩
  | claim name app =>
    obtain ⟨coordinator,found,asked⟩ := Option.bind_eq_some_iff.mp attended
    obtain ⟨⟨result,site⟩,ran,same⟩ := Option.map_eq_some_iff.mp asked
    cases same
    obtain ⟨later,runs⟩ := (coordinator.claim_moves depth app).runs
      (m := (stage.scene past).moment) rfl ran
    exact ⟨later,.claim found runs⟩
  | rename name userName =>
    obtain ⟨coordinator,found,asked⟩ := Option.bind_eq_some_iff.mp attended
    obtain ⟨⟨⟨result,after⟩,site⟩,ran,same⟩ := Option.map_eq_some_iff.mp asked
    cases same
    obtain ⟨later,runs⟩ := (coordinator.rename_moves depth userName).runs
      (m := (stage.scene past).moment) rfl ran
    exact ⟨later,.rename found runs⟩

theorem attendAll_run {stage : Stage} {errands : List Errand}
    (attended : stage.attendAll depth errands = some (deeds,last)) (past : List Move) :
    ∃ later, Scene.Run (stage.scene past) deeds (last.scene later) := by
  induction errands generalizing stage deeds past with
  | nil =>
    cases Option.some.inj attended
    exact ⟨past,.nothing⟩
  | cons errand rest ih =>
    obtain ⟨⟨deed,next⟩,first,remaining⟩ := Option.bind_eq_some_iff.mp attended
    obtain ⟨⟨more,_⟩,attended,same⟩ := Option.map_eq_some_iff.mp remaining
    cases same
    obtain ⟨between,does⟩ := attend_does first past
    obtain ⟨later,onwards⟩ := ih attended between
    exact ⟨later,(Scene.Run.deed .nothing does).append onwards⟩

end Stage

namespace Sample

-- A setup whose approver makes the lamp stop before it answers.
def steward : Setup Approver Listener :=
  ⟨"alice",some (.registry "main"),some (asking [.setRunning lamp.id .notRunning] true),none⟩

-- The site and the coordinators after some errands, and the deeds that those came to.
def staged (stage : Stage) (errands : List Errand) : List Deed × Stage :=
  (stage.attendAll 2 errands).getD ([],stage)

theorem staged_run (stage : Stage) (errands : List Errand) (past : List Move) :
    ∃ later, Scene.Run (stage.scene past) (staged stage errands).1
      ((staged stage errands).2.scene later) := by
  unfold staged
  cases attended : stage.attendAll 2 errands with
  | none => exact ⟨past,.nothing⟩
  | some result => exact Stage.attendAll_run attended past

end Sample

end Custody
