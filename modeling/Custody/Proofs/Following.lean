import Custody.Proofs.ChangeLog
import Custody.Proofs.Scene

-- A registry that listens to a site and has once been given all that the fleet lists. From then on
-- it holds what the fleet holds, at every moment, however often it is registered and whatever it is
-- told twice, and so does a view that applies what it is told.

namespace Custody

variable {id : ApplicationId} {view : ViewId} {site after : Site}

-- All applications as the fleet holds them.
def Fleet.applications (fleet : Fleet) : List Application := fleet.records.values.map (·.app)

-- Applications stand under their own ids.
def Fleet.Own (fleet : Fleet) : Prop := ∀ id app, fleet.info id = some app → app.id = id

-- A registry holds nothing that is out of date, and something only if it listens.
def Site.Fresh (site : Site) (name : String) : Prop :=
  ∀ id app, (site.registry name).find? id = some app →
    .registry name ∈ site.listeners ∧ site.fleet.info id = some app

-- A registry that listens holds exactly what the fleet holds.
structure Site.Mirrors (site : Site) (name : String) : Prop where
  registered : .registry name ∈ site.listeners
  current : ∀ id, (site.registry name).find? id = site.fleet.info id

-- A view that is attached to one registry and to no other shows what that one holds.
structure Site.Watched (site : Site) (name : String) (view : ViewId) (shown : List Application) :
    Prop where
  alone : ∀ other, other ≠ name → (site.registry other).view ≠ some view
  own : ∀ id app, (site.registry name).find? id = some app → app.id = id
  shows : (site.registry name).view = some view →
    Shows (ViewCall.applyAll shown (site.viewCalls view.name)) (site.registry name).find?

theorem Shows.nodup (shows : Shows apps lookup) : apps.Nodup :=
  (List.pairwise_map.mp shows.once).imp fun apart same => apart (congrArg Application.id same)

theorem Shows.perm (left : Shows apps lookup) (right : Shows others lookup) :
    apps.Perm others := by
  refine (List.perm_ext_iff_of_nodup left.nodup right.nodup).mpr fun app => ?_
  rw [left.all,right.all]

-- In a list that shows everything, the last word on an application is what can be looked up.
theorem Shows.lastWord (shows : Shows apps lookup)
    (own : ∀ id app, lookup id = some app → app.id = id) (id : ApplicationId) :
    lastWord apps id = lookup id := by
  cases last : Custody.lastWord apps id with
  | some app =>
    have member : app ∈ apps := List.mem_reverse.mp (List.mem_of_find?_eq_some last)
    rw [← lastWord_id last]
    exact ((shows.all app).mp member).symm
  | none =>
    cases known : lookup id with
    | none => rfl
    | some app =>
      obtain rfl := own id app known
      have absent := List.find?_eq_none.mp last app
        (List.mem_reverse.mpr ((shows.all app).mpr known))
      simp at absent

theorem Fleet.Own.shows {fleet : Fleet} (own : fleet.Own) :
    Shows fleet.applications fleet.info := by
  refine shows_map Record.app fun id record found => own id record.app ?_
  rw [Fleet.info,found,Option.map_some]

theorem Fleet.Own.found {fleet : Fleet} (own : fleet.Own) (id : ApplicationId) (record : Record)
    (found : fleet.records.find? id = some record) : record.app.id = id :=
  own id record.app (by rw [Fleet.info,found,Option.map_some])

namespace Registry

variable {registry : Registry}

theorem act_view (registry : Registry) (act : Act) :
    (registry.act act).1.view = registry.view ∨
      ∃ view, act = .attach view ∧ (registry.act act).1.view = view := by
  cases act with
  | event event => exact .inl rfl
  | record apps => exact .inl (recordAll_view registry apps)
  | attach view => exact .inr ⟨view,rfl,rfl⟩

theorem act_own (own : ∀ id app, registry.find? id = some app → app.id = id) (act : Act)
    (id : ApplicationId) (app : Application) (found : (registry.act act).1.find? id = some app) :
    app.id = id := by
  have arriving (more : List Application)
      (found : (registry.recordAll more).1.find? id = some app) : app.id = id := by
    rw [recordAll_find?] at found
    rcases Option.or_eq_some_iff.mp found with last | ⟨_,before⟩
    · exact lastWord_id last
    · exact own id app before
  cases act with
  | event event => rw [act_event] at found; exact arriving _ found
  | record more => exact arriving more found
  | attach view => exact own id app found

-- A view that is not attached is not told of anything.
theorem act_silent (apart : registry.view ≠ some view) (act : Act)
    (other : act ≠ .attach (some view)) : heard view (registry.act act).2 = [] := by
  cases act with
  | event event => rw [act_event,recordAll_heard,if_neg apart]
  | record more => exact (recordAll_heard registry more view).trans (if_neg apart)
  | attach next =>
    rw [attach_heard,if_neg]
    rintro rfl
    exact other rfl

end Registry

namespace Site

theorem onRegistry_registry (site : Site) (name : String) (act : Registry → Registry × List Notice)
    (other : String) :
    (site.onRegistry name act).registry other =
      if other = name then (act (site.registry name)).1 else site.registry other := by
  obtain ⟨views,only⟩ := site.onRegistry_only name act
  rw [only]
  by_cases same : other = name
  · subst same
    simp [registry]
  · simp [registry,same,Keyed.find?_insert_other _ _ _ _ same]

theorem onRegistry_calls (site : Site) (name : String) (act : Registry → Registry × List Notice)
    (view : ViewId) :
    (site.onRegistry name act).viewCalls view.name =
      site.viewCalls view.name ++ heard view (act (site.registry name)).2 := by
  have notified (notices : List Notice) (start : Site) :
      (notices.foldl notify start).viewCalls view.name =
        start.viewCalls view.name ++ heard view notices := by
    induction notices generalizing start with
    | nil => exact (List.append_nil _).symm
    | cons notice rest ih =>
      rw [List.foldl_cons,ih]
      by_cases own : notice.view = view
      · subst own
        simp [notify,viewCalls,heard]
      · have apart : view.name ≠ notice.view.name := by
          intro same
          cases view; cases notice with | mk shown call => cases shown; cases same; exact own rfl
        simp [notify,viewCalls,heard,own,Keyed.find?_insert_other _ _ _ _ apart]
  exact notified _ _

theorem tell_registry (event : Event) (site : Site) (listener : Listener) (name : String) :
    (tell event site listener).registry name =
      if listener = .registry name then ((site.registry name).act (.event event)).1
      else site.registry name := by
  cases listener with
  | registry other =>
    refine (onRegistry_registry site other (·.act (.event event)) name).trans ?_
    by_cases same : name = other
    · subst same; simp
    · simp [same,Ne.symm same]
  | recorder other => rfl

-- Every registry that listens takes the event down, and no other one does.
theorem deliver_entry (site : Site) (event : Event) (name : String) (id : ApplicationId) :
    ((site.deliver event).registry name).find? id =
      if .registry name ∈ site.listeners ∧ id = event.new.id then some event.new
      else (site.registry name).find? id := by
  have told (listeners : List Listener) (start : Site) :
      ((listeners.foldl (tell event) start).registry name).find? id =
        if .registry name ∈ listeners ∧ id = event.new.id then some event.new
        else (start.registry name).find? id := by
    induction listeners generalizing start with
    | nil => simp
    | cons listener rest ih =>
      rw [List.foldl_cons,ih,tell_registry]
      -- One that is registered again takes the same event down again, to the same effect.
      have recorded := congrFun (Registry.find?_record (start.registry name) event.new) id
      by_cases here : listener = .registry name
      · by_cases same : id = event.new.id
        · subst same
          simp [here,Registry.act,recorded]
        · simp [here,same,Registry.act,recorded]
      · simp [here,Ne.symm here]
  exact told _ _

theorem tell_view (event : Event) (site : Site) (listener : Listener) (other : String) :
    ((tell event site listener).registry other).view = (site.registry other).view := by
  rw [tell_registry]
  split
  · rfl
  · rfl

theorem deliver_view (site : Site) (event : Event) (other : String) :
    ((site.deliver event).registry other).view = (site.registry other).view := by
  have told (listeners : List Listener) (start : Site) :
      ((listeners.foldl (tell event) start).registry other).view =
        (start.registry other).view := by
    induction listeners generalizing start with
    | nil => rfl
    | cons listener rest ih => rw [List.foldl_cons,ih,tell_view]
  exact told _ _

-- Whatever a registry is made to do, a view of another one is told nothing of it.
theorem Watched.act (watched : site.Watched name view shown) (registry : String)
    (act : Registry.Act) (apart : registry ≠ name → act ≠ .attach (some view)) :
    (site.onRegistry registry fun registry => registry.act act).Watched name view shown := by
  obtain ⟨alone,own,shows⟩ := watched
  by_cases here : registry = name
  · subst here
    refine ⟨fun other elsewhere => ?_,?_,?_⟩
    · rw [onRegistry_registry,if_neg elsewhere]
      exact alone other elsewhere
    · rw [onRegistry_registry,if_pos rfl]
      exact Registry.act_own own act
    · rw [onRegistry_registry,if_pos rfl,onRegistry_calls,ViewCall.applyAll_append]
      exact Registry.act_shows own shows act
  · have unattached := alone registry here
    refine ⟨fun other elsewhere => ?_,?_,?_⟩
    · rw [onRegistry_registry]
      by_cases same : other = registry
      · subst same
        rw [if_pos rfl]
        rcases Registry.act_view (site.registry other) act with kept | ⟨next,rfl,attached⟩
        · rw [kept]; exact unattached
        · rw [attached]
          rintro rfl
          exact apart here rfl
      · rw [if_neg same]
        exact alone other elsewhere
    · rw [onRegistry_registry,if_neg (Ne.symm here)]
      exact own
    · rw [onRegistry_registry,if_neg (Ne.symm here),onRegistry_calls,
        Registry.act_silent unattached act (apart here),List.append_nil]
      exact shows

theorem Watched.congr (watched : site.Watched name view shown)
    (registries : ∀ name, after.registry name = site.registry name)
    (views : after.views = site.views) : after.Watched name view shown := by
  obtain ⟨alone,own,shows⟩ := watched
  constructor
  · intro other elsewhere
    rw [registries]
    exact alone other elsewhere
  · rw [registries]; exact own
  · unfold viewCalls
    rw [registries,views]
    exact shows

theorem Watched.deliver (watched : site.Watched name view shown) (event : Event) :
    (site.deliver event).Watched name view shown := by
  have told (listeners : List Listener) (start : Site) (before : start.Watched name view shown) :
      (listeners.foldl (tell event) start).Watched name view shown := by
    induction listeners generalizing start with
    | nil => exact before
    | cons listener rest ih =>
      refine ih _ ?_
      cases listener with
      | registry other => exact before.act other (.event event) (fun _ => nofun)
      | recorder other => exact before.congr (fun _ => rfl) rfl
  exact told _ _ watched

-- A view that is attached is given all that the registry holds.
theorem attach_watched
    (alone : ∀ other, other ≠ name → (site.registry other).view ≠ some view)
    (own : ∀ id app, (site.registry name).find? id = some app → app.id = id)
    (shown : List Application) :
    (site.onRegistry name (·.act (.attach (some view)))).Watched name view shown := by
  refine ⟨fun other apart => ?_,?_,fun _ => ?_⟩
  · rw [onRegistry_registry,if_neg apart]
    exact alone other apart
  · rw [onRegistry_registry,if_pos rfl]
    exact own
  · rw [onRegistry_registry,if_pos rfl,onRegistry_calls,Registry.attach_heard,if_pos rfl,
      ViewCall.applyAll_append]
    exact shows_values own

end Site

-- What one move does, as listeners are told of it.

theorem Told.own (told : Told site move after) (own : site.fleet.Own) : after.fleet.Own := by
  cases told with
  | kept infos =>
    intro id app known
    exact own id app ((infos id).symm.trans known)
  | told describes nobody =>
    rename_i event fleet
    intro id app known
    rw [Site.deliver_fleet] at known
    by_cases here : id = event.new.id
    · subst here
      rw [describes.new] at known
      cases known
      rfl
    · rw [describes.others id here] at known
      exact own id app known

theorem Told.watched (told : Told site move after) (watched : site.Watched name view shown) :
    after.Watched name view shown := by
  cases told with
  | kept _ _ _ registries views => exact watched.congr registries views
  | told describes nobody =>
    rename_i event fleet
    have marked : { site with fleet }.Watched name view shown := watched.congr (fun _ => rfl) rfl
    exact marked.deliver event

theorem Told.listeners (told : Told site move after) :
    ∃ more, after.listeners = site.listeners ++ more := by
  cases told with
  | kept _ listeners => exact ⟨_,listeners⟩
  | told describes => exact ⟨[],by rw [(Site.deliver_keeps _ _).2,List.append_nil]⟩

theorem Told.views (told : Told site move after) (name : String) :
    (after.registry name).view = (site.registry name).view := by
  cases told with
  | kept _ _ _ registries => rw [registries]
  | told describes nobody =>
    rename_i event fleet
    exact Site.deliver_view _ event name

-- What is told of an application is its entry in every registry that listens. Otherwise nothing
-- about it changes.
theorem Told.entry (told : Told site move after) (name : String) (id : ApplicationId) :
    (after.registry name).find? id = (site.registry name).find? id ∧
        after.fleet.info id = site.fleet.info id ∨
      (after.registry name).find? id =
        if .registry name ∈ site.listeners then after.fleet.info id
        else (site.registry name).find? id := by
  cases told with
  | kept infos _ _ registries => exact .inl ⟨by rw [registries],infos id⟩
  | told describes nobody =>
    rename_i event fleet
    have entry : (({ site with fleet }.deliver event).registry name).find? id =
        if .registry name ∈ site.listeners ∧ id = event.new.id then some event.new
        else (site.registry name).find? id := Site.deliver_entry _ event name id
    rw [Site.deliver_fleet]
    by_cases here : id = event.new.id
    · subst here
      rw [describes.new,entry]
      exact .inr (by simp)
    · rw [if_neg fun both => here both.2] at entry
      exact .inl ⟨entry,describes.others id here⟩

theorem Told.fresh (told : Told site move after) (fresh : site.Fresh name) : after.Fresh name := by
  intro id app found
  obtain ⟨more,listeners⟩ := told.listeners
  rw [listeners]
  rcases told.entry name id with ⟨kept,info⟩ | entry
  · rw [kept] at found
    obtain ⟨registered,known⟩ := fresh id app found
    exact ⟨List.mem_append_left _ registered,info.trans known⟩
  · rw [entry] at found
    split at found
    · rename_i registered
      exact ⟨List.mem_append_left _ registered,found⟩
    · rename_i absent
      exact absurd (fresh id app found).1 absent

theorem Told.mirrors (told : Told site move after) (mirrors : site.Mirrors name) :
    after.Mirrors name := by
  obtain ⟨more,listeners⟩ := told.listeners
  refine ⟨listeners ▸ List.mem_append_left _ mirrors.registered,fun id => ?_⟩
  rcases told.entry name id with ⟨kept,info⟩ | entry
  · rw [kept,info]
    exact mirrors.current id
  · rw [entry,if_pos mirrors.registered]

-- Whether what is done gives something to a registry that does not come from the site.
def Deed.feeds (name : String) : Deed → Bool
  | .tended registry (.event _) | .tended registry (.record _) => registry = name
  | _ => false

-- Whether what is done attaches a view to another registry.
def Deed.lends (name : String) (view : ViewId) : Deed → Bool
  | .tended registry (.attach attached) => registry ≠ name ∧ attached = some view
  | _ => false

namespace Moment

variable {m next : Moment} {name registry : String} {act : Registry.Act}

theorem tend_registry (m : Moment) (registry : String) (act : Registry.Act) (name : String) :
    (m.tend registry act).site.registry name =
      if name = registry then ((m.site.registry registry).act act).1 else m.site.registry name :=
  Site.onRegistry_registry _ _ _ _

theorem tend_view (m : Moment) (registry : String) (act : Registry.Act) (other : String) :
    ((m.tend registry act).site.registry other).view = (m.site.registry other).view ∨
      ∃ attached, act = .attach attached ∧ other = registry ∧
        ((m.tend registry act).site.registry other).view = attached := by
  rw [tend_registry]
  split
  · rename_i here
    subst here
    rcases (m.site.registry other).act_view act with same | ⟨attached,taken,shown⟩
    · exact .inl same
    · exact .inr ⟨attached,taken,rfl,shown⟩
  · exact .inl rfl

theorem tend_entries (m : Moment) (unfed : (Deed.tended registry act).feeds name = false) :
    ((m.tend registry act).site.registry name).find? = (m.site.registry name).find? := by
  rw [tend_registry]
  split
  · rename_i same
    subst same
    cases act with
    | event | record => simp [Deed.feeds] at unfed
    | attach view => rfl
  · rfl

theorem tend_own (own : m.site.fleet.Own) (registry : String) (act : Registry.Act) :
    (m.tend registry act).site.fleet.Own := tend_fleet m registry act ▸ own

theorem tend_fresh (fresh : m.site.Fresh name)
    (unfed : (Deed.tended registry act).feeds name = false) :
    (m.tend registry act).site.Fresh name := by
  intro id app found
  rw [tend_entries m unfed] at found
  rw [tend_listeners,tend_fleet]
  exact fresh id app found

theorem tend_mirrors (mirrors : m.site.Mirrors name)
    (unfed : (Deed.tended registry act).feeds name = false) :
    (m.tend registry act).site.Mirrors name := by
  obtain ⟨registered,current⟩ := mirrors
  constructor
  · rw [tend_listeners]; exact registered
  · rw [tend_entries m unfed,tend_fleet]; exact current

-- A registry that knows nothing out of date is up to date once it has been given everything.
theorem tend_seeds (fresh : m.site.Fresh name) (registered : .registry name ∈ m.site.listeners)
    (all : ∀ id, lastWord apps id = m.site.fleet.info id) :
    (m.tend name (.record apps)).site.Mirrors name := by
  refine ⟨tend_listeners m name _ ▸ registered,fun id => ?_⟩
  have entries : ((m.tend name (.record apps)).site.registry name).find? id =
      (lastWord apps id).or ((m.site.registry name).find? id) := by
    rw [tend_registry,if_pos rfl]
    exact Registry.recordAll_find? _ apps id
  rw [entries,tend_fleet,all]
  cases known : m.site.fleet.info id with
  | some app => rfl
  | none =>
    cases held : (m.site.registry name).find? id with
    | none => rfl
    | some app => exact absurd ((fresh id app held).2.symm.trans known) nofun

theorem tend_watched (watched : m.site.Watched name view shown)
    (kept : (Deed.tended registry act).lends name view = false) :
    (m.tend registry act).site.Watched name view shown := by
  refine watched.act registry act fun apart attached => ?_
  subst attached
  simp [Deed.lends,apart] at kept

theorem step_tells (own : m.site.fleet.Own) (step : Step m move next) :
    Told m.site move next.site := move_told own.found step

-- What holds on whatever listeners are told holds on every move.
theorem step_holds (holds : Site → Prop)
    (told : ∀ {site move after}, Told site move after → holds site → holds after)
    (step : Step m move next) (before : m.site.fleet.Own ∧ holds m.site) :
    next.site.fleet.Own ∧ holds next.site := by
  obtain ⟨own,before⟩ := before
  have tells := step_tells own step
  exact ⟨tells.own own,told tells before⟩

-- What the fleet lists is what it holds.
theorem listed_all (step : Step m (.performed .listApplications (.applications apps)) next) :
    apps = next.site.fleet.applications := by
  cases step with
  | perform asked ran =>
    have answered := Option.some.inj ran
    split at answered
    · cases answered
    · cases answered
      rfl

end Moment

namespace Scene

-- A registry that has been given what the fleet lists: past deeds, and the scene they lead to. It
-- was registered before that, nothing about the applications is different from when they were
-- listed, and whatever else it holds it was told as a listener.
inductive Seeded (name : String) : List Deed → Scene → Prop where
  | seed (start : Run {} earlier listed)
      (listing : Does listed (.moved (.performed .listApplications (.applications apps))) answered)
      (meanwhile : Run answered between ready)
      (unchanged : ∀ id, ready.site.fleet.info id = answered.site.fleet.info id)
      (registered : .registry name ∈ ready.site.listeners)
      (unfed : ∀ deed ∈ earlier ++ between, deed.feeds name = false)
      (seeding : Does ready (.tended name (.record apps)) seeded) :
      Seeded name
        (earlier ++ [.moved (.performed .listApplications (.applications apps))] ++ between ++
          [.tended name (.record apps)]) seeded

theorem run_own (run : Run {} deeds s) : s.site.fleet.Own := by
  apply run_keeps (fun m => m.site.fleet.Own) _ run
  · intro m registry act _ own
    exact Moment.tend_own own registry act
  · exact nofun
  · intro m move next step own
    exact (Moment.step_tells own step).own own

-- What holds on whatever listeners are told, and on work at registries, holds on all that is done.
theorem run_told (holds : Site → Prop)
    (told : ∀ {site move after}, Told site move after → holds site → holds after)
    (run : Run start deeds s) (own : start.site.fleet.Own) (before : holds start.site)
    (tended : ∀ (m : Moment) registry act, .tended registry act ∈ deeds → holds m.site →
      holds (m.tend registry act).site) : holds s.site := by
  suffices both : s.site.fleet.Own ∧ holds s.site from both.2
  apply run_keeps (fun m => m.site.fleet.Own ∧ holds m.site) (Moment.step_holds holds told) run
  · rintro m registry act done ⟨own,before⟩
    exact ⟨Moment.tend_own own registry act,tended m registry act done before⟩
  · exact ⟨own,before⟩

theorem run_fresh (run : Run {} deeds s) (unfed : ∀ deed ∈ deeds, deed.feeds name = false) :
    s.site.Fresh name := by
  apply run_told (Site.Fresh · name) Told.fresh run nofun nofun
  intro m registry act done fresh
  exact Moment.tend_fresh fresh (unfed _ done)

theorem run_mirrors (onwards : Run start deeds s) (own : start.site.fleet.Own)
    (mirrors : start.site.Mirrors name) (unfed : ∀ deed ∈ deeds, deed.feeds name = false) :
    s.site.Mirrors name := by
  apply run_told (Site.Mirrors · name) Told.mirrors onwards own mirrors
  intro m registry act done mirrors
  exact Moment.tend_mirrors mirrors (unfed _ done)

theorem run_watched (run : Run {} deeds s) (kept : ∀ deed ∈ deeds, deed.lends name view = false)
    (shown : List Application) : s.site.Watched name view shown := by
  apply run_told (Site.Watched · name view shown) Told.watched run nofun ⟨nofun,nofun,nofun⟩
  intro m registry act done watched
  exact Moment.tend_watched watched (kept _ done)

theorem Seeded.run (seeded : Seeded name past s) : Run {} past s := by
  cases seeded with
  | seed start listing meanwhile _ _ _ seeding =>
    exact .deed ((Run.deed start listing).append meanwhile) seeding

theorem Seeded.mirrors (seeded : Seeded name past s) : s.site.Mirrors name := by
  cases seeded with
  | @seed earlier listed apps answered between ready _ start listing meanwhile unchanged registered
      unfed seeding =>
    have reading := Run.deed start listing
    have own := run_own reading
    have quiet : ∀ deed ∈ earlier ++
        [.moved (.performed .listApplications (.applications apps))] ++ between,
        deed.feeds name = false := by
      simp only [List.mem_append,List.mem_singleton] at unfed ⊢
      rintro deed ((old | rfl) | new)
      · exact unfed deed (.inl old)
      · rfl
      · exact unfed deed (.inr new)
    have fresh := run_fresh (reading.append meanwhile) quiet
    have all : apps = answered.site.fleet.applications := by
      cases listing with
      | move step => exact Moment.listed_all step
    have words (id : ApplicationId) : lastWord apps id = ready.site.fleet.info id := by
      rw [unchanged,all]
      exact own.shows.lastWord own id
    cases seeding with
    | tend => exact Moment.tend_seeds fresh registered words

-- A registry holds each application under its own id.
theorem run_entries (run : Run {} deeds s) (name : String) (id : ApplicationId)
    (app : Application) (found : (s.site.registry name).find? id = some app) : app.id = id := by
  have both : s.site.fleet.Own ∧ ∀ id app, (s.site.registry name).find? id = some app →
      app.id = id := by
    apply run_told (fun site => site.fleet.Own ∧
      ∀ id app, (site.registry name).find? id = some app → app.id = id) _ run nofun ⟨nofun,nofun⟩
    · rintro m registry act _ ⟨own,entries⟩
      refine ⟨Moment.tend_own own registry act,?_⟩
      rw [Moment.tend_registry]
      split
      · rename_i here
        exact Registry.act_own (here ▸ entries) act
      · exact entries
    · rintro site move after told ⟨own,entries⟩
      refine ⟨told.own own,fun id app found => ?_⟩
      rcases told.entry name id with ⟨kept,_⟩ | entry
      · exact entries id app (kept ▸ found)
      · rw [entry] at found
        split at found
        · exact told.own own id app found
        · exact entries id app found
  exact both.2 id app found

-- A view that is attached to a registry. When it was attached there it was attached to no other
-- one, and it has not been since; what it was used for before that does not matter.
inductive Watches (name : String) (view : ViewId) : Scene → Prop where
  | since (earlier : Run {} before past)
      (alone : ∀ other, other ≠ name → (past.site.registry other).view ≠ some view)
      (attaching : Does past (.tended name (.attach (some view))) start)
      (run : Run start deeds s) (kept : ∀ deed ∈ deeds, deed.lends name view = false)
      (attached : (s.site.registry name).view = some view) : Watches name view s

theorem Watches.attachment (watches : Watches name view s) :
    (s.site.registry name).view = some view := by
  cases watches with
  | since _ _ _ _ _ attached => exact attached

theorem Watches.own (watches : Watches name view s) : s.site.fleet.Own := by
  cases watches with
  | since earlier _ attaching run => exact run_own ((Run.deed earlier attaching).append run)

theorem Watches.watched (watches : Watches name view s) (shown : List Application) :
    s.site.Watched name view shown := by
  cases watches with
  | @since before past start deeds _ earlier alone attaching run kept =>
    have began := Run.deed earlier attaching
    refine run_told (Site.Watched · name view shown) Told.watched run (run_own began) ?_
      fun m registry act done watched => Moment.tend_watched watched (kept _ done)
    cases attaching with
    | tend => exact Site.attach_watched alone (run_entries earlier name) shown

-- A registry gets a view by attachment alone.
theorem does_unattached (own : s.site.fleet.Own) (does : Does s deed next)
    (apart : (s.site.registry name).view ≠ some view)
    (other : deed ≠ .tended name (.attach (some view))) :
    (next.site.registry name).view ≠ some view := by
  have told {site move after} (told : Told site move after)
      (apart : (site.registry name).view ≠ some view) :
      (after.registry name).view ≠ some view := told.views name ▸ apart
  refine (does_keeps (Moment.step_holds _ told) does (fun registry act same before => ?_)
    ⟨own,apart⟩).2
  refine ⟨Moment.tend_own before.1 registry act,?_⟩
  rcases s.moment.tend_view registry act name with kept | ⟨given,rfl,rfl,shown⟩
  · rw [kept]
    exact before.2
  · rw [shown]
    rintro rfl
    exact other same

-- A view that is attached to a registry and was never attached to another one.
theorem unlent_watches (run : Run {} deeds s)
    (kept : ∀ deed ∈ deeds, deed.lends name view = false)
    (attached : (s.site.registry name).view = some view) : s.Watches name view := by
  induction run with
  | nothing => exact absurd attached nofun
  | @deed deeds s deed next before does ih =>
    have unlent : ∀ other ∈ deeds, other.lends name view = false :=
      fun other member => kept other (List.mem_append_left _ member)
    by_cases here : deed = .tended name (.attach (some view))
    · subst here
      have alone := (run_watched before unlent []).alone
      exact .since before alone does .nothing (List.forall_mem_nil _) attached
    by_cases still : (s.site.registry name).view = some view
    · cases ih unlent still with
      | since first alone attaching run since _ =>
        refine .since first alone attaching (.deed run does) (fun other member => ?_) attached
        rcases List.mem_append.mp member with old | last
        · exact since other old
        · exact kept other (List.mem_append_right _ last)
    · exact absurd attached (does_unattached (run_own before) does still here)

-- From the moment it was seeded, a registry that is fed by nothing but events holds what the fleet
-- holds, whatever is done. A view that is attached to it has the same, if it was attached to no
-- other registry at the time and has not been since: of that one it would be told as well.
theorem registry_follows (seeded : Seeded name past start) (onwards : Run start deeds s)
    (unfed : ∀ deed ∈ deeds, deed.feeds name = false) :
    (∀ id, (s.site.registry name).find? id = s.site.fleet.info id) ∧
    Shows (s.site.registry name).snapshot s.site.fleet.info ∧
    ∀ view, s.Watches name view → ∀ shown,
      (ViewCall.applyAll shown (s.site.viewCalls view.name)).Perm
        (s.site.registry name).snapshot := by
  have whole := seeded.run.append onwards
  obtain ⟨_,current⟩ := run_mirrors onwards (run_own seeded.run) seeded.mirrors unfed
  have snapshot : Shows (s.site.registry name).snapshot (s.site.registry name).find? :=
    shows_values (run_entries whole name)
  refine ⟨current,funext current ▸ snapshot,fun view watches shown => ?_⟩
  exact ((watches.watched shown).shows watches.attachment).perm snapshot

end Scene

namespace Sample

-- The registry is registered twice, since two coordinators are set up with it.
def arriving : List Errand :=
  [.ask (.announce lamp ⟨[0]⟩),.setUp "first" steward,.setUp "second" steward]

def listening : Stage := (staged {} arriving).2

def seededStage : Stage :=
  (staged listening [.ask .listApplications,.tend "main" (.record [lamp])]).2

-- A view is attached, and the lamp is claimed by an approver who first makes it stop. The claim
-- fails at its last step.
def proceeding : List Errand :=
  [.tend "main" (.attach (some panel)),.ask (.setFault .installPolicy .noApprover),
    .claim "first" lamp,.rename "second" "bob",.ask (.announce stove ⟨[1]⟩)]

theorem steward_followed :
    ∃ past start deeds s, Scene.Seeded "main" past start ∧ Scene.Run start deeds s ∧
      (∀ deed ∈ deeds, deed.feeds "main" = false) ∧ (s.site.registry "main").snapshot =
        [{ lamp with claimState := .claimed, runningState := .notRunning },stove] ∧
      (∀ id, (s.site.registry "main").find? id = s.site.fleet.info id) ∧
      Shows (s.site.registry "main").snapshot s.site.fleet.info ∧
      ∀ shown, (ViewCall.applyAll shown (s.site.viewCalls "panel")).Perm
        (s.site.registry "main").snapshot := by
  obtain ⟨before,start⟩ := staged_run {} arriving []
  have listing : Scene.Does (listening.scene before)
      (.moved (.performed .listApplications (.applications [lamp]))) _ :=
    .move (.perform .outside rfl)
  have seeded : Scene.Seeded "main" _ _ :=
    .seed start listing .nothing (fun _ => rfl) (.head _) (by decide) (.tend _ _)
  obtain ⟨later,onwards⟩ := staged_run seededStage proceeding _
  have unfed : ∀ deed ∈ (staged seededStage proceeding).1, deed.feeds "main" = false := by decide
  obtain ⟨current,all,viewed⟩ := Scene.registry_follows seeded onwards unfed
  have watches : Scene.Watches "main" panel _ :=
    Scene.unlent_watches (seeded.run.append onwards) (by decide) rfl
  exact ⟨_,_,_,_,seeded,onwards,unfed,rfl,current,all,viewed panel watches⟩

end Sample

end Custody
