import Custody.Command.Execute
import Custody.Proofs.Following

-- A view that is attached to a registry while commands are executed that use the registry. All
-- commands but one leave it attached, told of each event that the registry receives. The command
-- that shows the registry attaches a view of its own, and there is room for one: from then on the
-- earlier view is told nothing.

namespace Custody

variable {id : ApplicationId} {name : String}

-- The event that a fleet reports for a move.
def Site.event (site : Site) : Move → Option Event
  | .performed (.announce app manifest) _ => some (site.fleet.announce app manifest).1
  | .performed (.setRunning id state) _ => (site.fleet.setRunning id state).map (·.1)
  | .began claim =>
    (site.fleet.beginClaim claim.id claim.claimant site.approver).1.toOption.map (·.2)
  | .decided claim approved => (site.fleet.endClaim claim.id claim.claimant approved).2.map (·.1)
  | _ => none

-- What a registry receives with a move: the event, as often as the registry is registered.
def Site.received (site : Site) (name : String) (move : Move) : List Event :=
  (site.event move).toList.flatMap fun event =>
    List.replicate (site.listeners.count (.registry name)) event

-- Moves that follow on one another, with all that a registry receives meanwhile.
inductive Moment.Receives (name : String) (start : Moment) : List Event → Moment → Prop where
  | nothing : Receives name start [] start
  | move (before : Receives name start events m) (step : Step m move next) :
      Receives name start (events ++ m.site.received name move) next

-- What a move is to registries and views: an event that is delivered, or nothing.
inductive Delivers : Site → Option Event → Site → Prop where
  | silent (registries : ∀ name, after.registry name = site.registry name)
      (views : after.views = site.views) : Delivers site none after
  | told (site : Site) (event : Event) (fleet : Fleet) :
      Delivers site (some event) ({ site with fleet }.deliver event)

-- Whether a listener is a registry to which a view is attached.
def Site.shows (site : Site) (view : ViewId) : Listener → Bool
  | .registry name => (site.registry name).view = some view
  | .recorder _ => false

-- A view that is attached to one registry and to no other.
def Site.Attached (site : Site) (view : ViewId) (name : String) : Prop :=
  ∀ other, (site.registry other).view = some view ↔ other = name

namespace Site

variable {site after : Site} {view : ViewId}

theorem after_delivers (site : Site) (change : Option (Event × Fleet)) :
    Delivers site (change.map (·.1)) (site.after change) := by
  cases change with
  | none => exact .silent (fun _ => rfl) rfl
  | some change => exact .told site change.1 change.2

theorem beginClaim_delivers {claimant : Guid} {shown : Fleet.PendingClaim Approver}
    (begun : site.beginClaim id claimant = (.ok shown,after)) :
    Delivers site ((site.fleet.beginClaim id claimant site.approver).1.toOption.map (·.2))
      after := by
  unfold beginClaim at begun
  split at begun
  · cases begun
  · rename_i pending event fleet asked
    cases begun
    rw [asked]
    exact .told site event fleet

theorem tell_calls (event : Event) (site : Site) (listener : Listener) (view : ViewId) :
    (tell event site listener).viewCalls view.name = site.viewCalls view.name ++
      List.replicate ([listener].countP (site.shows view)) (.addItem event.new) := by
  cases listener with
  | recorder other => exact (List.append_nil _).symm
  | registry other =>
    refine (onRegistry_calls site other (·.act (.event event)) view).trans ?_
    rw [Registry.act_event,Registry.recordAll_heard]
    by_cases attached : (site.registry other).view = some view
    · simp [attached,shows]
    · simp [attached,shows]

-- A view is told of an event as often as registries are registered to which it is attached.
theorem deliver_calls (site : Site) (event : Event) (view : ViewId) :
    (site.deliver event).viewCalls view.name = site.viewCalls view.name ++
      List.replicate (site.listeners.countP (site.shows view)) (.addItem event.new) := by
  have told (listeners : List Listener) (start : Site) :
      (listeners.foldl (tell event) start).viewCalls view.name = start.viewCalls view.name ++
        List.replicate (listeners.countP (start.shows view)) (.addItem event.new) := by
    induction listeners generalizing start with
    | nil => simp
    | cons listener rest ih =>
      have same : (tell event start listener).shows view = start.shows view := by
        funext other
        cases other with
        | registry other => simp [shows,tell_view]
        | recorder other => rfl
      rw [List.foldl_cons,ih,tell_calls,same,List.append_assoc,List.replicate_append_replicate,
        ← List.countP_append]
      rfl
  exact told _ _

-- Of the registries that listen, a view is attached to those of one name, or to none.
theorem Attached.count (attached : site.Attached view name) :
    site.listeners.countP (site.shows view) = site.listeners.count (.registry name) := by
  refine List.countP_congr fun listener _ => ?_
  cases listener with
  | registry other => simpa [shows] using attached other
  | recorder other => simp [shows]

theorem unattached_count (nowhere : ∀ other, (site.registry other).view ≠ some view) :
    site.listeners.countP (site.shows view) = 0 := by
  refine List.countP_eq_zero.mpr fun listener _ => ?_
  cases listener with
  | registry other => simpa [shows] using nowhere other
  | recorder other => exact Bool.false_ne_true

end Site

section

variable {site after : Site} {event : Option Event}

theorem Delivers.views (delivers : Delivers site event after) (other : String) :
    (after.registry other).view = (site.registry other).view := by
  cases delivers with
  | silent registries => rw [registries]
  | told event fleet => exact Site.deliver_view { site with fleet } event other

theorem Delivers.calls (delivers : Delivers site event after) (view : ViewId) :
    after.viewCalls view.name = site.viewCalls view.name ++ event.toList.flatMap fun told =>
      List.replicate (site.listeners.countP (site.shows view)) (.addItem told.new) := by
  cases delivers with
  | silent _ views => unfold Site.viewCalls; rw [views]; exact (List.append_nil _).symm
  | told event fleet =>
    refine (Site.deliver_calls { site with fleet } event view).trans ?_
    exact congrArg _ (List.append_nil _).symm

end

namespace Moment

theorem step_delivers (step : Step m move next) :
    Delivers m.site (m.site.event move) next.site := by
  cases step with
  | perform asked ran =>
    rename_i operation outcome after
    cases operation with
    | announce app manifest =>
      cases Option.some.inj ran
      exact m.site.after_delivers (some (m.site.fleet.announce app manifest))
    | setRunning id state =>
      cases Option.some.inj ran
      exact m.site.after_delivers _
    | addListener listener =>
      cases Option.some.inj ran
      exact .silent (m.site.naming_registry listener) (by cases listener <;> rfl)
    | claim app identity =>
      obtain ⟨_,_,refused⟩ := perform_claim ran
      obtain ⟨_,_,rfl⟩ := Site.beginClaim_error refused
      exact .silent (fun _ => rfl) rfl
    | _ =>
      cases Option.some.inj ran
      exact .silent (fun _ => rfl) rfl
  | begin asked begun claim same =>
    subst same
    exact Site.beginClaim_delivers begun
  | note waits => exact .silent (fun _ => rfl) rfl
  | decide waits ended =>
    cases ended
    exact m.site.after_delivers _

theorem leads_receives (name : String) (leads : Leads start m) :
    ∃ events, Receives name start events m := by
  induction leads with
  | refl => exact ⟨[],.nothing⟩
  | tail _ last ih =>
    obtain ⟨events,before⟩ := ih
    obtain ⟨move,step⟩ := last
    exact ⟨_,.move before step⟩

-- A view that is attached is told of what the registry receives, and of nothing else.
theorem receives_calls {view : ViewId} (attached : start.site.Attached view name)
    (receives : Receives name start events m) :
    m.site.Attached view name ∧ m.site.viewCalls view.name =
      start.site.viewCalls view.name ++ events.map fun event => .addItem event.new := by
  induction receives with
  | nothing => exact ⟨attached,(List.append_nil _).symm⟩
  | @move events m move next before step ih =>
    obtain ⟨still,calls⟩ := ih
    have delivers := step_delivers step
    refine ⟨fun other => by rw [delivers.views]; exact still other,?_⟩
    rw [delivers.calls,calls,still.count,List.append_assoc,List.map_append,Site.received]
    cases m.site.event move with
    | none => rfl
    | some event => simp

-- One that is attached nowhere is told of nothing.
theorem step_unattached {view : ViewId} (step : Step m move next)
    (nowhere : ∀ other, (m.site.registry other).view ≠ some view) :
    (∀ other, (next.site.registry other).view ≠ some view) ∧
      next.site.viewCalls view.name = m.site.viewCalls view.name := by
  have delivers := step_delivers step
  refine ⟨fun other => by rw [delivers.views]; exact nowhere other,?_⟩
  rw [delivers.calls,Site.unattached_count nowhere]
  cases m.site.event move with
  | none => exact List.append_nil _
  | some event => exact List.append_nil _

end Moment

-- A registry that is given up to be read and changed.
def Course.reading (name : String) (act : Registry → String × Registry) : Course String :=
  Course.step fun site =>
    let (text,registry) := act (site.registry name)
    (text,{ site with registries := site.registries.insert name registry })

namespace Command

-- Commands that are executed one after another, with what each of them prints.
def executeAll (depth : Nat) (name : String) (coordinator : Coordinator) :
    List Command → Course (List (Except String String) × Coordinator)
  | [] => pure ([],coordinator)
  | command :: rest => do
    let (text,coordinator) ←
      command.execute (Site.transport depth) (Course.reading name) coordinator
    let (texts,coordinator) ← executeAll depth name coordinator rest
    pure (text :: texts,coordinator)

variable {depth : Nat} {coordinator renamed : Coordinator} {site after : Site} {view : ViewId}

-- All commands but one work by nothing but moves.
theorem execute_moves {command : Command} (other : command ≠ .registry) (depth : Nat)
    (onRegistry : (Registry → String × Registry) → Course String) (coordinator : Coordinator) :
    Course.Moves (command.execute (Site.transport depth) onRegistry coordinator) :=
  execute_composes Course.moves_composes (Site.transport_moves depth) command
    (fun same => absurd same other) coordinator

theorem executeAll_moves {commands : List Command} (others : .registry ∉ commands) (depth : Nat)
    (name : String) (coordinator : Coordinator) :
    (executeAll depth name coordinator commands).Moves := by
  induction commands generalizing coordinator with
  | nil => exact Course.moves_pure _
  | cons command rest ih =>
    have first : command ≠ .registry := fun same => others (same ▸ .head _)
    refine .bind (execute_moves first depth _ coordinator) fun executed => ?_
    exact .bind (ih (fun later => others (.tail _ later)) executed.2) fun _ => Course.moves_pure _

theorem executeAll_append {before rest : List Command}
    (ran : executeAll depth name coordinator (before ++ rest) site = some (result,after)) :
    ∃ texts between middle others,
      executeAll depth name coordinator before site = some ((texts,between),middle) ∧
        executeAll depth name between rest middle = some (others,after) := by
  induction before generalizing coordinator site result with
  | nil => exact ⟨[],coordinator,site,result,rfl,ran⟩
  | cons command before ih =>
    obtain ⟨⟨text,executed⟩,next,first,ran⟩ := Course.ran_bind ran
    obtain ⟨⟨texts,last⟩,_,later,ran⟩ := Course.ran_bind ran
    cases Option.some.inj ran
    obtain ⟨earlier,between,middle,others,began,ended⟩ := ih later
    refine ⟨text :: earlier,between,middle,others,?_,ended⟩
    exact Option.bind_eq_some_iff.mpr ⟨_,first,Option.bind_eq_some_iff.mpr ⟨_,began,rfl⟩⟩

end Command

-- Whether what is done attaches something to a registry, or a view to any registry.
def Deed.attaches (name : String) (view : ViewId) : Deed → Bool
  | .tended registry (.attach attached) => registry = name ∨ attached = some view
  | _ => false

-- A registry without a view, and a view that is attached nowhere and has been told this much.
structure Site.Parted (site : Site) (name : String) (view : ViewId) (calls : List ViewCall) :
    Prop where
  empty : (site.registry name).view = none
  nowhere : ∀ other, (site.registry other).view ≠ some view
  calls : site.viewCalls view.name = calls

namespace Moment

variable {m next : Moment} {view : ViewId} {registry : String} {act : Registry.Act}

theorem step_parted (step : Step m move next) (parted : m.site.Parted name view calls) :
    next.site.Parted name view calls := by
  obtain ⟨empty,nowhere,told⟩ := parted
  obtain ⟨still,same⟩ := step_unattached step nowhere
  exact ⟨((step_delivers step).views name).trans empty,still,same.trans told⟩

theorem leads_parted (leads : Leads m next) (parted : m.site.Parted name view calls) :
    next.site.Parted name view calls :=
  leads_keeps (fun step parted => step_parted step parted) leads parted

theorem tend_parted (parted : m.site.Parted name view calls)
    (other : (Deed.tended registry act).attaches name view = false) :
    (m.tend registry act).site.Parted name view calls := by
  obtain ⟨empty,nowhere,told⟩ := parted
  refine ⟨?_,fun key => ?_,?_⟩
  · rcases m.tend_view registry act name with same | ⟨attached,rfl,rfl,_⟩
    · exact same.trans empty
    · simp [Deed.attaches] at other
  · rcases m.tend_view registry act key with same | ⟨attached,rfl,rfl,shown⟩
    · rw [same]
      exact nowhere key
    · rw [shown]
      rintro rfl
      simp [Deed.attaches] at other
  · refine (Site.onRegistry_calls m.site registry (·.act act) view).trans ?_
    rw [Registry.act_silent (nowhere registry) act,List.append_nil,told]
    rintro rfl
    simp [Deed.attaches] at other

theorem leads_watched (leads : Leads m next) (own : m.site.fleet.Own)
    (watched : m.site.Watched name view shown) :
    next.site.fleet.Own ∧ next.site.Watched name view shown :=
  leads_keeps (step_holds (Site.Watched · name view shown) Told.watched) leads ⟨own,watched⟩

end Moment

section

variable {site after : Site} {view : ViewId} {coordinator : Coordinator}

-- The command that shows a registry leaves it without a view, whatever view it had.
theorem registry_parted (view : ViewId)
    (alone : ∀ other, other ≠ name → (site.registry other).view ≠ some view)
    (ran : Command.registry.execute (Site.transport depth) (Course.reading name) coordinator site =
      some (result,after)) : after.Parted name view (site.viewCalls view.name) := by
  have views (other : String) : (after.registry other).view =
      if other = name then none else (site.registry other).view := by
    cases Option.some.inj ran
    unfold Site.registry
    rw [Keyed.find?_insert_if]
    split
    · rfl
    · rfl
  have calls : after.viewCalls view.name = site.viewCalls view.name := by
    cases Option.some.inj ran
    rfl
  refine ⟨by rw [views,if_pos rfl],fun other => ?_,calls⟩
  rw [views]
  split
  · exact nofun
  · rename_i apart
    exact alone other apart

-- What stays a registry without a view through one command does so through all.
theorem executeAll_parted {commands : List Command} (parted : site.Parted name view calls)
    (ran : Command.executeAll depth name coordinator commands site = some (result,after)) :
    after.Parted name view calls := by
  induction commands generalizing coordinator site result with
  | nil => cases Option.some.inj ran; exact parted
  | cons command rest ih =>
    obtain ⟨⟨text,executed⟩,next,first,ran⟩ := Course.ran_bind ran
    obtain ⟨_,_,later,ran⟩ := Course.ran_bind ran
    cases Option.some.inj ran
    refine ih ?_ later
    by_cases shows : command = .registry
    · subst shows
      have again := registry_parted view (fun other _ => parted.nowhere other) first
      rw [parted.calls] at again
      exact again
    · obtain ⟨past,leads⟩ := (Command.execute_moves shows depth _ coordinator).leads first []
      exact Moment.leads_parted leads parted

end

-- A view that some commands have left attached to a registry. It has been told of what the registry
-- received, whatever the moves were that led there, and it shows what the registry holds, also
-- after all that happens later.
structure Scene.Serves (s : Scene) (name : String) (view : ViewId) (after : Site) : Prop where
  attached : after.Attached view name
  received : ∃ events past, s.moment.Receives name events ⟨after,[],past⟩
  told : ∀ {events past}, s.moment.Receives name events ⟨after,[],past⟩ →
    after.viewCalls view.name =
      s.site.viewCalls view.name ++ events.map fun event => .addItem event.new
  later : ∀ {past coordinators deeds next}, Run ⟨⟨after,[],past⟩,coordinators⟩ deeds next →
    (∀ deed ∈ deeds, deed.attaches name view = false) →
    (next.site.registry name).view = some view ∧ ∀ shown,
      Shows (ViewCall.applyAll shown (next.site.viewCalls view.name))
        (next.site.registry name).find?

-- A view that has lost its place at a registry, which has no other one since then. It is told
-- nothing more, also of all that happens later.
structure Site.Drops (site : Site) (name : String) (view : ViewId) (after : Site) : Prop where
  detached : (after.registry name).view = none
  told : after.viewCalls view.name = site.viewCalls view.name
  later : ∀ {past coordinators deeds next}, Scene.Run ⟨⟨after,[],past⟩,coordinators⟩ deeds next →
    (∀ deed ∈ deeds, deed.attaches name view = false) →
    (next.site.registry name).view = none ∧
      next.site.viewCalls view.name = site.viewCalls view.name

theorem Site.Parted.drops {site after : Site} {view : ViewId}
    (parted : after.Parted name view (site.viewCalls view.name)) : site.Drops name view after := by
  refine ⟨parted.empty,parted.calls,fun {past coordinators deeds next} run others => ?_⟩
  have still := Scene.run_keeps (fun m => m.site.Parted name view (site.viewCalls view.name))
    Moment.step_parted run (fun m registry act done parted =>
      Moment.tend_parted parted (others _ done)) parted
  exact ⟨still.empty,still.calls⟩

namespace Scene

variable {view : ViewId} {s : Scene}

theorem Watches.attached (watches : Watches name view s) : s.site.Attached view name := by
  intro other
  by_cases here : other = name
  · subst here
    exact ⟨fun _ => rfl,fun _ => watches.attachment⟩
  · exact ⟨fun there => absurd there ((watches.watched []).alone other here),
      fun same => absurd same here⟩

-- What view a registry has changes by attachment alone.
theorem run_view (run : Run start deeds s)
    (quiet : ∀ deed ∈ deeds, deed.attaches name view = false) :
    (s.site.registry name).view = (start.site.registry name).view := by
  apply run_keeps (fun m => (m.site.registry name).view = (start.site.registry name).view) _ run
  · intro m registry act done same
    rcases m.tend_view registry act name with still | ⟨attached,rfl,rfl,_⟩
    · exact still.trans same
    · have other := quiet _ done
      simp [Deed.attaches] at other
  · rfl
  · intro m move next step same
    exact ((Moment.step_delivers step).views name).trans same

theorem attaches_lends {deed : Deed} (quiet : deed.attaches name view = false) :
    deed.lends name view = false := by
  cases deed with
  | tended registry act =>
    cases act with
    | attach attached =>
      simp only [Deed.attaches,decide_eq_false_iff_not,not_or] at quiet
      simp [Deed.lends,quiet.2]
    | event | record => rfl
  | _ => rfl

theorem serves (watches : Watches name view s) (idle : s.moment.waiting = [])
    {commands : List Command} (others : .registry ∉ commands)
    (ran : Command.executeAll depth name coordinator commands s.site = some (result,after)) :
    s.Serves name view after := by
  obtain ⟨past,runs⟩ := (Command.executeAll_moves others depth name coordinator).runs idle ran
  obtain ⟨events,received⟩ := Moment.leads_receives name runs.leads
  obtain ⟨still,_⟩ := Moment.receives_calls watches.attached received
  refine ⟨still,⟨events,past,received⟩,fun received => ?_,fun onwards quiet => ?_⟩
  · exact (Moment.receives_calls watches.attached received).2
  · have stays := (run_view onwards quiet).trans ((still name).mpr rfl)
    refine ⟨stays,fun shown => ?_⟩
    obtain ⟨own,watched⟩ := Moment.leads_watched runs.leads watches.own (watches.watched shown)
    have last := run_told (Site.Watched · name view shown) Told.watched onwards own watched
      fun m registry act done watched =>
        Moment.tend_watched watched (attaches_lends (quiet _ done))
    exact last.shows stays

-- Commands that are executed with a registry to which a view is attached. Without the one that
-- shows the registry, the view stays attached, is told of exactly what the registry receives, and
-- shows what it holds from then on. With it, this is so up to the first such command, and there the
-- view is dropped.
theorem commands_view (watches : Watches name view s) (idle : s.moment.waiting = [])
    (ran : Command.executeAll depth name coordinator commands s.site = some (result,after)) :
    (.registry ∉ commands → s.Serves name view after) ∧
    (∀ before rest, commands = before ++ .registry :: rest → .registry ∉ before →
      ∃ texts middle, Command.executeAll depth name coordinator before s.site =
          some (texts,middle) ∧ s.Serves name view middle ∧ middle.Drops name view after) := by
  refine ⟨fun others => serves watches idle others ran,?_⟩
  rintro before rest rfl others
  obtain ⟨texts,between,middle,_,began,ended⟩ := Command.executeAll_append ran
  have served := serves watches idle others began
  obtain ⟨_,_,shown,ended⟩ := Course.ran_bind ended
  obtain ⟨_,_,later,ended⟩ := Course.ran_bind ended
  cases Option.some.inj ended
  have parted := registry_parted view (fun other apart there =>
    apart ((served.attached other).mp there)) shown
  exact ⟨_,middle,began,served,(executeAll_parted parted later).drops⟩

end Scene

namespace Sample

-- A panel is attached to a registry, and a coordinator is set up with that registry. Claims are
-- approved by somebody who first makes the lamp stop.
def panelStage : Stage :=
  { site := ({} : Site).onRegistry "main" (·.act (.attach (some panel))) }

def watching : List Errand := [.setUp "steward" steward,.ask (.announce lamp ⟨[0]⟩)]

def watchedSite : Site := (staged panelStage watching).2.site

theorem panel_watches :
    ∃ past, ((staged panelStage watching).2.scene past).Watches "main" panel := by
  obtain ⟨past,run⟩ := staged_run panelStage watching []
  have kept : ∀ deed ∈ (staged panelStage watching).1, deed.lends "main" panel = false := by decide
  have attached : (watchedSite.registry "main").view = some panel := by decide +kernel
  have attaching : Scene.Does {} (.tended "main" (.attach (some panel))) (panelStage.scene []) :=
    .tend _ _
  exact ⟨past,.since .nothing (fun _ _ => nofun) attaching run kept attached⟩

def chief : Coordinator := ⟨Guild.reserved,alice,"alice"⟩

theorem chief_executes (commands : List Command)
    (ends : (Command.executeAll 2 "main" chief commands watchedSite).isSome = true) :
    ∃ result after,
      Command.executeAll 2 "main" chief commands watchedSite = some (result,after) := by
  obtain ⟨⟨result,after⟩,ran⟩ := Option.isSome_iff_exists.mp ends
  exact ⟨result,after,ran⟩

theorem panel_served :
    ∃ s : Scene, s.Watches "main" panel ∧ s.moment.waiting = [] ∧
      (∃ result after, Command.executeAll 2 "main" chief [.claimAll,.rename "bob"] s.site =
          some (result,after) ∧ s.Serves "main" panel after) ∧
      ∃ result after texts middle,
        Command.executeAll 2 "main" chief [.claimAll,.registry,.claim lamp.id] s.site =
          some (result,after) ∧
        Command.executeAll 2 "main" chief [.claimAll] s.site = some (texts,middle) ∧
        s.Serves "main" panel middle ∧ middle.Drops "main" panel after := by
  obtain ⟨past,watches⟩ := panel_watches
  obtain ⟨result,after,plain⟩ := chief_executes [.claimAll,.rename "bob"] (by decide +kernel)
  obtain ⟨others,last,shown⟩ :=
    chief_executes [.claimAll,.registry,.claim lamp.id] (by decide +kernel)
  obtain ⟨serves,_⟩ := Scene.commands_view watches rfl plain
  obtain ⟨_,drops⟩ := Scene.commands_view watches rfl shown
  obtain ⟨texts,middle,began,serving,dropping⟩ :=
    drops [.claimAll] [.claim lamp.id] rfl (by decide)
  exact ⟨_,watches,rfl,⟨_,_,plain,serves (by decide)⟩,
    _,_,texts,middle,shown,began,serving,dropping⟩

-- The registry is shown once, and then the stove is announced. The registry takes it down, but the
-- panel is not told.
theorem panel_disconnected :
    ∃ (s : Scene) (result : List (Except String String) × Coordinator) (after : Site),
      s.Watches "main" panel ∧ s.moment.waiting = [] ∧
      Command.executeAll 2 "main" chief [.registry] s.site = some (result,after) ∧
      (after.registry "main").view ≠ some panel ∧
      ((after.announce stove ⟨[1]⟩).registry "main").find? stove.id = some stove ∧
      stove ∉ ViewCall.applyAll [] ((after.announce stove ⟨[1]⟩).viewCalls "panel") := by
  obtain ⟨past,watches⟩ := panel_watches
  have ends : (Command.executeAll 2 "main" chief [.registry] watchedSite).any (fun ended =>
      (ended.2.registry "main").view ≠ some panel ∧
      ((ended.2.announce stove ⟨[1]⟩).registry "main").find? stove.id = some stove ∧
      stove ∉ ViewCall.applyAll [] ((ended.2.announce stove ⟨[1]⟩).viewCalls "panel")) = true := by
    decide +kernel
  obtain ⟨⟨result,after⟩,ran,facts⟩ := (Option.any_eq_true _ _).mp ends
  exact ⟨_,result,after,watches,rfl,ran,of_decide_eq_true facts⟩

end Sample

end Custody
