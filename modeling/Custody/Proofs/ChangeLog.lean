import Custody.Proofs.Approval

-- What a recorder has taken down. One that was registered once, before anything was announced,
-- holds the whole history of every application: each event goes on from the one before, and the
-- last one tells what the fleet holds now. This is so at every moment, also inside claims.

namespace Custody

variable {id : ApplicationId}

-- The listeners that a move registers.
def Move.registered : Move → List Listener
  | .performed (.addListener listener) _ => [listener]
  | _ => []

-- Whether a move can change what is told of applications.
def Move.tells : Move → Bool
  | .performed (.announce _ _) _ | .performed (.setRunning _ _) _ => true
  | .began _ | .decided _ _ => true
  | _ => false

-- The application of an id as the fleet holds it.
def Fleet.info (fleet : Fleet) (id : ApplicationId) : Option Application :=
  (fleet.records.find? id).map (·.app)

-- The sightings of one application that a recorder holds.
def Site.history (site : Site) (name : String) (id : ApplicationId) : List Sighting :=
  (site.sightings name).filter (·.event.new.id = id)

-- Each event says that its application was what the event before it says that it is. The first one
-- says that it was not known.
def Chained (events : List Event) : Prop :=
  ∀ before event after, events = before ++ event :: after →
    event.old = before.getLast?.map (·.new)

-- A recorder has missed no change of an application, and has taken none down that was out of date.
structure Complete (site : Site) (name : String) (id : ApplicationId) : Prop where
  chained : Chained ((site.history name id).map (·.event))
  fresh : ∀ sighting ∈ site.history name id,
    sighting.seen.map (·.app) = some sighting.event.new
  current : (site.history name id).getLast?.map (·.event.new) = site.fleet.info id

theorem Change.silent (change : Change id before move after) (silent : move.tells = false) :
    after.map (·.app) = before.map (·.app) := by
  cases change with
  | absent | kept | enrolled | governed => rfl
  | announced new =>
    obtain ⟨_,_,_,rfl,_,_⟩ := announced_fresh new
    cases silent
  | running | marked | decided => cases silent

theorem chained_concat (chained : Chained events)
    (goes : event.old = events.getLast?.map (·.new)) : Chained (events ++ [event]) := by
  intro before other after split
  rcases concat_split split with ⟨rfl,rfl,rfl⟩ | ⟨rest,rfl,earlier⟩
  · exact goes
  · exact chained before other rest earlier

-- What an event says of a fleet that becomes another one.
structure Describes (event : Event) (before after : Fleet) : Prop where
  old : event.old = before.info event.new.id
  new : after.info event.new.id = some event.new
  others : ∀ id, id ≠ event.new.id → after.info id = before.info id

theorem insert_describes {before after : Fleet} {event : Event}
    (inserted : after.records = before.records.insert id record) (own : record.app.id = id)
    (new : event.new = record.app) (old : event.old = before.info id) :
    Describes event before after := by
  subst own
  constructor
  · rw [new]; exact old
  · rw [new,Fleet.info,inserted,Keyed.find?_insert_self]; rfl
  · intro other apart
    rw [new] at apart
    rw [Fleet.info,inserted,Keyed.find?_insert_other _ _ _ _ apart]
    rfl

theorem change_describes {before after : Fleet} {edit : Record → Record}
    (own : ∀ record, before.records.find? id = some record → record.app.id = id)
    (keeps : ∀ record, (edit record).app.id = record.app.id)
    (changed : before.change id edit = some (event,after)) : Describes event before after := by
  obtain ⟨record,found,rfl,inserted⟩ := Fleet.find?_change changed
  exact insert_describes inserted ((keeps record).trans (own record found)) rfl
    (by simp [Fleet.info,found])

namespace Site

theorem tell_sightings (event : Event) (site : Site) (listener : Listener) (name : String) :
    (tell event site listener).sightings name = site.sightings name ++
      List.replicate ([listener].count (.recorder name))
        ⟨event,site.fleet.records.find? event.new.id⟩ := by
  cases listener with
  | registry other =>
    have same := (onRegistry_keeps site other
      fun registry => ((registry.record event.new).1,(registry.record event.new).2.toList)).2.2
    simpa [sightings,tell] using congrArg (fun book => (book.find? name).getD []) same
  | recorder other =>
    by_cases same : other = name
    · subst same
      simp [sightings,tell]
    · simp [sightings,tell,same,Keyed.find?_insert_other _ _ _ _ (Ne.symm same)]

-- A recorder takes an event down as often as it was registered, with the fleet as the event left
-- it.
theorem deliver_sightings (site : Site) (event : Event) (name : String) :
    (site.deliver event).sightings name = site.sightings name ++
      List.replicate (site.listeners.count (.recorder name))
        ⟨event,site.fleet.records.find? event.new.id⟩ := by
  have told (listeners : List Listener) (start : Site) :
      (listeners.foldl (tell event) start).sightings name = start.sightings name ++
        List.replicate (listeners.count (.recorder name))
          ⟨event,start.fleet.records.find? event.new.id⟩ := by
    induction listeners generalizing start with
    | nil => simp
    | cons listener rest ih =>
      rw [List.foldl_cons,ih,tell_sightings,(tell_keeps event start listener).1,List.append_assoc,
        List.replicate_append_replicate,← List.count_append]
      rfl
  exact told _ _

end Site

-- What a move is to listeners: it is told to all of them, or it changes nothing that could be told
-- and nothing that has been told.
inductive Told : Site → Move → Site → Prop where
  | kept (infos : ∀ id, after.fleet.info id = site.fleet.info id)
      (listeners : after.listeners = site.listeners ++ move.registered)
      (recorders : after.recorders = site.recorders)
      (registries : ∀ name, after.registry name = site.registry name)
      (views : after.views = site.views) : Told site move after
  | told (describes : Describes event site.fleet fleet) (nobody : move.registered = []) :
      Told site move ({ site with fleet }.deliver event)

theorem after_told {site : Site} {edit : Record → Record} {move : Move}
    (own : ∀ record, site.fleet.records.find? id = some record → record.app.id = id)
    (keeps : ∀ record, (edit record).app.id = record.app.id) (nobody : move.registered = []) :
    Told site move (site.after (site.fleet.change id edit)) := by
  cases changed : site.fleet.change id edit with
  | none => exact .kept (fun _ => rfl) (by rw [nobody,List.append_nil]; rfl) rfl (fun _ => rfl) rfl
  | some change => exact .told (change_describes own keeps changed) nobody

theorem perform_told {site after : Site} {operation : Operation} {outcome : Outcome}
    (own : ∀ id record, site.fleet.records.find? id = some record → record.app.id = id)
    (ran : operation.perform 0 site = some (outcome,after)) :
    Told site (.performed operation outcome) after := by
  have infos (silent : (Move.performed operation outcome).tells = false) (id : ApplicationId) :
      after.fleet.info id = site.fleet.info id := (perform_change ran).silent silent
  cases operation with
  | announce app manifest =>
    cases Option.some.inj ran
    exact .told (insert_describes rfl rfl rfl rfl) rfl
  | setRunning key state =>
    cases Option.some.inj ran
    exact after_told (own key) (fun _ => rfl) rfl
  | addListener listener =>
    cases Option.some.inj ran
    exact .kept (infos rfl) rfl (by cases listener <;> rfl) (Site.naming_registry site listener)
      (by cases listener <;> rfl)
  | claim app identity =>
    obtain ⟨_,_,refused⟩ := Moment.perform_claim ran
    obtain ⟨_,_,rfl⟩ := Site.beginClaim_error refused
    exact .kept (infos rfl) (List.append_nil _).symm rfl (fun _ => rfl) rfl
  | _ =>
    cases Option.some.inj ran
    exact .kept (infos rfl) (List.append_nil _).symm rfl (fun _ => rfl) rfl

theorem Complete.congr (complete : Complete site name id)
    (history : after.history name id = site.history name id)
    (info : after.fleet.info id = site.fleet.info id) : Complete after name id := by
  obtain ⟨chained,fresh,current⟩ := complete
  constructor
  · rw [history]; exact chained
  · rw [history]; exact fresh
  · rw [history,info]; exact current

-- The step that carries the history on.
theorem Told.complete (told : Told site move after)
    (once : site.listeners.count (.recorder name) = 1) (complete : Complete site name id) :
    Complete after name id := by
  cases told with
  | kept infos _ recorders =>
    refine complete.congr ?_ (infos id)
    unfold Site.history Site.sightings
    rw [recorders]
  | told describes nobody =>
    rename_i event fleet
    have heard : ({ site with fleet }.deliver event).sightings name =
        site.sightings name ++ [⟨event,fleet.records.find? event.new.id⟩] :=
      (Site.deliver_sightings { site with fleet } event name).trans (by rw [once]; rfl)
    by_cases here : event.new.id = id
    · subst here
      have history : ({ site with fleet }.deliver event).history name event.new.id =
          site.history name event.new.id ++ [⟨event,fleet.records.find? event.new.id⟩] := by
        simp [Site.history,heard]
      obtain ⟨chained,fresh,current⟩ := complete
      constructor
      · rw [history,List.map_append]
        refine chained_concat chained (describes.old.trans ?_)
        rw [← current,List.getLast?_map,Option.map_map]
        rfl
      · intro sighting member
        rw [history] at member
        rcases List.mem_append.mp member with old | new
        · exact fresh sighting old
        · rw [List.mem_singleton.mp new]
          exact describes.new
      · rw [history,List.getLast?_concat,Site.deliver_fleet]
        exact describes.new.symm
    · refine complete.congr (by simp [Site.history,heard,here]) ?_
      rw [Site.deliver_fleet]
      exact describes.others id (Ne.symm here)

namespace Moment

-- A record stands under the id of its own application.
theorem found_id (reached : Reached allowed m)
    (found : m.site.fleet.records.find? id = some record) : record.app.id = id := by
  obtain ⟨fresh,announced,same⟩ := found_announced reached found
  obtain ⟨move,_,new⟩ := List.exists_of_findSome?_eq_some announced
  exact (congrArg Prod.fst same).trans (announced_id new)

theorem move_told (own : ∀ id record, m.site.fleet.records.find? id = some record →
    record.app.id = id) (step : Step m move next) : Told m.site move next.site := by
  cases step with
  | perform asked ran => exact perform_told own ran
  | begin asked begun claim same =>
    obtain ⟨record,fleet,found,_,app,_,_,inserted,after⟩ :=
      began_found (.begin asked begun claim same)
    rw [after]
    have shown : claim.shown.app.id = claim.id := by rw [app]; exact own _ _ found
    exact .told (insert_describes inserted shown rfl (by simp [Fleet.info,found])) rfl
  | note waits => exact .kept (fun _ => rfl) (List.append_nil _).symm rfl (fun _ => rfl) rfl
  | decide waits ended =>
    rename_i others result after claim approved
    rw [Site.endClaim_after ended]
    refine after_told (own _) (fun record => ?_) rfl
    exact congrArg Prod.fst (settled_origin record claim.claimant approved)

theorem step_told (reached : Reached allowed m) (step : Step m move next) :
    Told m.site move next.site := move_told (fun _ _ => found_id reached) step

theorem registered_listeners (reached : Reached allowed m) :
    m.site.listeners = m.past.flatMap Move.registered := by
  induction reached with
  | initial => rfl
  | @step m move next reached step _ ih =>
    rw [step_past step,List.flatMap_append,List.flatMap_singleton,← ih]
    have told := step_told reached step
    generalize next.site = after at told
    cases told with
    | kept _ listeners => exact listeners
    | told _ nobody => rw [(Site.deliver_keeps _ _).2,nobody,List.append_nil]

-- A recorder that is not registered takes nothing down.
theorem unregistered_sightings (reached : Reached allowed m)
    (unregistered : .recorder name ∉ m.site.listeners) : m.site.sightings name = [] := by
  induction reached with
  | initial => rfl
  | @step m move next reached step _ ih =>
    have told := step_told reached step
    generalize next.site = after at told unregistered
    cases told with
    | kept _ listeners recorders =>
      rw [listeners] at unregistered
      unfold Site.sightings
      rw [recorders]
      exact ih fun registered => unregistered (List.mem_append_left _ registered)
    | told _ _ =>
      rw [(Site.deliver_keeps _ _).2] at unregistered
      rw [Site.deliver_sightings,List.count_eq_zero.mpr unregistered]
      exact (List.append_nil _).trans (ih unregistered)

theorem unannounced_unknown (reached : Reached allowed m)
    (unannounced : ∀ move ∈ m.past, move.announces = false) (id : ApplicationId) :
    m.site.fleet.records.find? id = none := by
  cases found : m.site.fleet.records.find? id with
  | none => rfl
  | some record =>
    obtain ⟨fresh,announced,_⟩ := found_announced reached found
    obtain ⟨move,member,new⟩ := List.exists_of_findSome?_eq_some announced
    have quiet := unannounced move (List.mem_reverse.mp member)
    rw [announced_announces new] at quiet
    cases quiet

theorem listening_once (reached : Reached allowed m)
    (split : m.past = before ++ .performed (.addListener (.recorder name)) outcome :: after)
    (once : ∀ move ∈ before ++ after, .recorder name ∉ move.registered) :
    m.site.listeners.count (.recorder name) = 1 := by
  have nowhere (moves : List Move) (among : ∀ move ∈ moves, move ∈ before ++ after) :
      (moves.flatMap Move.registered).count (.recorder name) = 0 := by
    rw [List.count_eq_zero,List.mem_flatMap]
    rintro ⟨move,member,registered⟩
    exact once move (among move member) registered
  rw [registered_listeners reached,split,List.flatMap_append,List.flatMap_cons,
    List.count_append,List.count_append,nowhere before fun _ => List.mem_append_left _,
    nowhere after fun _ => List.mem_append_right _]
  simp [Move.registered]

-- Where nothing has been announced and nothing taken down, nothing has been missed.
theorem registering_complete (reached : Reached allowed m) (step : Step m move next)
    (unannounced : ∀ move ∈ m.past, move.announces = false)
    (unregistered : .recorder name ∉ m.site.listeners)
    (registers : move.registered ≠ []) (id : ApplicationId) :
    Complete next.site name id := by
  have heard := unregistered_sightings reached unregistered
  have unknown := unannounced_unknown reached unannounced id
  have told := step_told reached step
  generalize next.site = after at told
  cases told with
  | told _ nobody => exact absurd nobody registers
  | kept infos _ recorders =>
    have empty : after.history name id = [] := by
      unfold Site.sightings at heard
      rw [Site.history,Site.sightings,recorders,heard]
      rfl
    constructor
    · rw [empty]
      intro before event after split
      simp at split
    · rw [empty]; intro sighting member; cases member
    · rw [empty,infos,Fleet.info,unknown]; rfl

-- The history of every application is complete at every moment. What has none is unknown.
theorem complete_log (reached : Reachable m)
    (split : m.past = before ++ .performed (.addListener (.recorder name)) outcome :: after)
    (unannounced : ∀ move ∈ before, move.announces = false)
    (once : ∀ move ∈ before ++ after, .recorder name ∉ move.registered) (id : ApplicationId) :
    Complete m.site name id ∧
      (m.site.history name id = [] ↔ m.site.fleet.records.find? id = none) := by
  have complete : Complete m.site name id := by
    induction reached generalizing after with
    | initial => simp at split
    | @step m move next reached step _ ih =>
      rw [step_past step] at split
      rcases concat_split split with ⟨rfl,rfl,rfl⟩ | ⟨rest,rfl,earlier⟩
      · refine registering_complete reached step unannounced ?_ nofun id
        rw [registered_listeners reached,List.mem_flatMap]
        rintro ⟨other,member,registered⟩
        exact once other (List.mem_append_left _ member) registered
      · have others : ∀ other ∈ before ++ rest, .recorder name ∉ other.registered := by
          intro other member
          rcases List.mem_append.mp member with old | new
          · exact once other (List.mem_append_left _ old)
          · exact once other (List.mem_append_right _ (List.mem_append_left _ new))
        exact (step_told reached step).complete (listening_once reached earlier others)
          (ih earlier others)
  refine ⟨complete,?_⟩
  have current := complete.current
  unfold Fleet.info at current
  rw [← Option.map_eq_none_iff,← current,Option.map_eq_none_iff,List.getLast?_eq_none_iff]

end Moment

namespace Sample

-- A recorder is there from the start. The lamp is announced once more while its approver decides,
-- stops running, and is handed over in the end.
def recorded : Moment :=
  following (fun _ _ => true)
    ([.addListener (.recorder "log"),.createIdentity alice,
      .setApprover (asking [.announce lamp ⟨[1]⟩,.setRunning lamp.id .notRunning] true),
      .announce lamp ⟨[0]⟩] ++ List.replicate 4 (.claim lamp alice))

theorem recorded_log :
    Moment.Reachable recorded ∧ (recorded.site.history "log" lamp.id).length = 5 ∧
      Complete recorded.site "log" lamp.id ∧
      (recorded.site.history "log" lamp.id = [] ↔
        recorded.site.fleet.records.find? lamp.id = none) := by
  have split : recorded.past =
      [] ++ .performed (.addListener (.recorder "log")) .done :: recorded.past.tail := rfl
  have once : ∀ move ∈ [] ++ recorded.past.tail, .recorder "log" ∉ move.registered := by decide
  exact ⟨following_reached _ _,rfl,
    Moment.complete_log (following_reached _ _) split nofun once lamp.id⟩

end Sample

end Custody
