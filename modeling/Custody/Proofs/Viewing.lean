import Custody.Fleet
import Custody.Registry

-- What a registry holds and what it tells its views, whatever it is made to do in whatever order.
-- It holds the last word on each application. A view is told everything once when it is attached,
-- then each event until something else is attached, and nothing otherwise, so by applying what it
-- is told it has what the registry has.

namespace Custody

variable {id : ApplicationId}

-- The last of some applications that has an id.
def lastWord (arrived : List Application) (id : ApplicationId) : Option Application :=
  arrived.reverse.find? (·.id = id)

-- A list that has every application that can be looked up, and each one once.
structure Shows (apps : List Application) (lookup : ApplicationId → Option Application) :
    Prop where
  once : (apps.map (·.id)).Nodup
  all : ∀ app, app ∈ apps ↔ lookup app.id = some app

-- What one view is told among all that is told.
def heard (view : ViewId) (notices : List Notice) : List ViewCall :=
  (notices.filter (·.view = view)).map (·.call)

-- What a view shows that showed some applications before, once it has applied what it is told.
def ViewCall.applyAll (shown : List Application) (calls : List ViewCall) : List Application :=
  calls.foldl applyTo shown

namespace Registry

-- All that a registry can be made to do.
inductive Act where
  | event (event : Event)
  | record (apps : List Application)
  | attach (view : Option ViewId)

def act (registry : Registry) : Act → Registry × List Notice
  | .event event =>
    let (registry,notice) := registry.record event.new
    (registry,notice.toList)
  | .record apps => registry.recordAll apps
  | .attach view =>
    let (registry,notice) := registry.attach view
    (registry,notice.toList)

def actAll (registry : Registry) : List Act → Registry × List Notice
  | [] => (registry,[])
  | act :: rest =>
    let (registry,notices) := registry.act act
    let (registry,later) := registry.actAll rest
    (registry,notices ++ later)

-- What arrives with an act.
def Act.arrivals : Act → List Application
  | .event told => [told.new]
  | .record apps => apps
  | .attach _ => []

-- A time during which nothing is attached or taken away: what had arrived before it, and what
-- arrives in it.
structure Period where
  view : Option ViewId := none
  before : List Application := []
  during : List Application := []

-- The calls that a period makes to a view, if at its beginning there were these applications.
def Period.calls (period : Period) (view : ViewId) (apps : List Application) : List ViewCall :=
  if period.view = some view then .setItems apps :: period.during.map .addItem else []

-- A period and those that come after it. Each attachment begins one, also that of a view that is
-- attached already.
def periodsFrom (now : Period) : List Act → List Period
  | [] => [now]
  | .attach view :: rest => now :: periodsFrom ⟨view,now.before ++ now.during,[]⟩ rest
  | act :: rest => periodsFrom { now with during := now.during ++ act.arrivals } rest

def periods (acts : List Act) : List Period := periodsFrom {} acts

-- What a view is told in some periods.
inductive Hears (view : ViewId) : List Period → List ViewCall → Prop where
  | nothing : Hears view [] []
  | period (all : Shows apps (lastWord period.before)) (later : Hears view rest calls) :
      Hears view (period :: rest) (period.calls view apps ++ calls)

end Registry

theorem lastWord_id (known : lastWord arrived id = some app) : app.id = id := by
  simpa using List.find?_some known

theorem lastWord_append (before after : List Application) (id : ApplicationId) :
    lastWord (before ++ after) id = (lastWord after id).or (lastWord before id) := by
  simp [lastWord,List.find?_append]

theorem lastWord_cons (app : Application) (rest : List Application) (id : ApplicationId) :
    lastWord (app :: rest) id = (lastWord rest id).or (if id = app.id then some app else none) := by
  refine (lastWord_append [app] rest id).trans ?_
  by_cases same : id = app.id
  · simp [lastWord,same]
  · simp [lastWord,same,Ne.symm same]

theorem heard_append (view : ViewId) (before after : List Notice) :
    heard view (before ++ after) = heard view before ++ heard view after := by
  simp [heard]

theorem ViewCall.applyAll_append (shown : List Application) (before after : List ViewCall) :
    applyAll shown (before ++ after) = applyAll (applyAll shown before) after :=
  List.foldl_append

theorem told_keys {entries : Keyed ApplicationId ν} (tell : ν → Application)
    (own : ∀ id value, entries.find? id = some value → (tell value).id = id) :
    (entries.values.map tell).map (·.id) = entries.keys := by
  unfold Keyed.values Keyed.keys
  rw [List.map_map,List.map_map]
  exact List.map_congr_left fun pair member =>
    own pair.1 pair.2 ((entries.mem_pairs_iff pair.1 pair.2).mp member)

theorem shows_map {entries : Keyed ApplicationId ν} (tell : ν → Application)
    (own : ∀ id value, entries.find? id = some value → (tell value).id = id) :
    Shows (entries.values.map tell) (fun id => (entries.find? id).map tell) := by
  refine ⟨told_keys tell own ▸ entries.keys_nodup,fun app => ?_⟩
  rw [List.mem_map,Option.map_eq_some_iff]
  constructor
  · rintro ⟨value,member,rfl⟩
    obtain ⟨id,found⟩ := (entries.mem_values_iff value).mp member
    exact ⟨value,own id value found ▸ found,rfl⟩
  · rintro ⟨value,found,rfl⟩
    exact ⟨value,(entries.mem_values_iff value).mpr ⟨_,found⟩,rfl⟩

theorem shows_values {entries : Keyed ApplicationId Application}
    (own : ∀ id app, entries.find? id = some app → app.id = id) :
    Shows entries.values entries.find? := by
  simpa using shows_map (fun app => app) own

-- A view that is told of an application puts it in the place of what has the same id.
theorem shows_add (shows : Shows apps lookup) (app : Application) :
    Shows ((ViewCall.addItem app).applyTo apps)
      (fun id => if id = app.id then some app else lookup id) := by
  obtain ⟨once,all⟩ := shows
  constructor
  · rw [ViewCall.applyTo,List.map_append,List.nodup_append]
    refine ⟨once.sublist (List.filter_sublist.map _),by simp,?_⟩
    intro id among other last
    obtain ⟨old,member,rfl⟩ := List.mem_map.mp among
    have apart : old.id ≠ app.id := by simpa using (List.mem_filter.mp member).2
    simpa [List.mem_singleton.mp last] using apart
  · intro other
    by_cases same : other.id = app.id
    · simp [ViewCall.applyTo,same,eq_comm]
    · have apart : other ≠ app := fun equal => same (congrArg Application.id equal)
      simp [ViewCall.applyTo,same,apart,all]

namespace Registry

variable {registry : Registry} {view : ViewId}

theorem find?_record (registry : Registry) (app : Application) :
    (registry.record app).1.find? =
      fun id => if id = app.id then some app else registry.find? id :=
  funext fun _ => Keyed.find?_insert_if _ _ _ _

theorem actAll_cons (registry : Registry) (first : Act) (rest : List Act) :
    registry.actAll (first :: rest) =
      (((registry.act first).1.actAll rest).1,
        (registry.act first).2 ++ ((registry.act first).1.actAll rest).2) := rfl

-- An event is an application that is recorded alone.
theorem act_event (registry : Registry) (event : Event) :
    registry.act (.event event) = registry.recordAll [event.new] := by
  simp [act,recordAll]

theorem recordAll_view (registry : Registry) (apps : List Application) :
    (registry.recordAll apps).1.view = registry.view := by
  induction apps generalizing registry with
  | nil => rfl
  | cons app rest ih => exact ih (registry.record app).1

theorem recordAll_find? (registry : Registry) (apps : List Application) (id : ApplicationId) :
    (registry.recordAll apps).1.find? id = (lastWord apps id).or (registry.find? id) := by
  induction apps generalizing registry with
  | nil => rfl
  | cons app rest ih =>
    have first := congrFun (find?_record registry app) id
    refine (ih (registry.record app).1).trans ?_
    rw [first,lastWord_cons,Option.or_assoc]
    by_cases same : id = app.id <;> simp [same]

theorem recordAll_knows (knows : ∀ id, registry.find? id = lastWord arrived id)
    (apps : List Application) (id : ApplicationId) :
    (registry.recordAll apps).1.find? id = lastWord (arrived ++ apps) id := by
  rw [recordAll_find?,knows,lastWord_append]

theorem recordAll_heard (registry : Registry) (apps : List Application) (view : ViewId) :
    heard view (registry.recordAll apps).2 =
      if registry.view = some view then apps.map .addItem else [] := by
  induction apps generalizing registry with
  | nil => split <;> rfl
  | cons app rest ih =>
    have split : (registry.recordAll (app :: rest)).2 =
        (registry.record app).2.toList ++ ((registry.record app).1.recordAll rest).2 := rfl
    rw [split,heard_append,ih]
    cases attached : registry.view with
    | none => simp [record,attached,heard]
    | some other => by_cases same : other = view <;> simp [record,attached,heard,same]

theorem attach_heard (registry : Registry) (attached : Option ViewId) (view : ViewId) :
    heard view (registry.act (.attach attached)).2 =
      if attached = some view then [.setItems registry.snapshot] else [] := by
  cases attached with
  | none => rfl
  | some other => by_cases same : other = view <;> simp [act,attach,heard,same]

theorem shows_snapshot (knows : ∀ id, registry.find? id = lastWord arrived id) :
    Shows registry.snapshot (lastWord arrived) := by
  have same : registry.entries.find? = lastWord arrived := funext knows
  rw [← same]
  exact shows_values fun id app found => lastWord_id ((knows id).symm.trans found)

theorem calls_during (now : Period) (more : List Application) (view : ViewId)
    (apps : List Application) :
    { now with during := now.during ++ more }.calls view apps =
      now.calls view apps ++ if now.view = some view then more.map .addItem else [] := by
  by_cases own : now.view = some view <;> simp [Period.calls,own]

-- A registry that is in the middle of a period goes on as the period does.
theorem hears_from {now : Period} (attached : registry.view = now.view)
    (knows : ∀ id, registry.find? id = lastWord (now.before ++ now.during) id)
    (all : Shows apps (lastWord now.before)) (view : ViewId) (acts : List Act) :
    Hears view (periodsFrom now acts)
      (now.calls view apps ++ heard view (registry.actAll acts).2) := by
  induction acts generalizing registry now apps with
  | nil => exact .period all .nothing
  | cons first rest ih =>
    rw [actAll_cons,heard_append]
    have arriving (more : List Application) :
        Hears view (periodsFrom { now with during := now.during ++ more } rest)
          (now.calls view apps ++ (heard view (registry.recordAll more).2 ++
            heard view ((registry.recordAll more).1.actAll rest).2)) := by
      rw [recordAll_heard,attached,← List.append_assoc,← calls_during]
      refine ih ((recordAll_view _ _).trans attached) (fun id => ?_) all
      rw [← List.append_assoc]
      exact recordAll_knows knows more id
    cases first with
    | event event => rw [act_event]; exact arriving [event.new]
    | record more => exact arriving more
    | attach next =>
      refine .period all ?_
      have opening : heard view (registry.act (.attach next)).2 =
          Period.calls ⟨next,now.before ++ now.during,[]⟩ view registry.snapshot :=
        attach_heard registry next view
      rw [opening]
      refine ih rfl (fun id => ?_) (shows_snapshot knows)
      rw [List.append_nil]
      exact knows id

theorem actAll_find? (knows : ∀ id, registry.find? id = lastWord arrived id) (acts : List Act)
    (id : ApplicationId) :
    (registry.actAll acts).1.find? id = lastWord (arrived ++ acts.flatMap Act.arrivals) id := by
  induction acts generalizing registry arrived with
  | nil => simpa [actAll] using knows id
  | cons first rest ih =>
    rw [actAll_cons,List.flatMap_cons,← List.append_assoc]
    refine ih fun other => ?_
    cases first with
    | event event => rw [act_event]; exact recordAll_knows knows _ other
    | record more => exact recordAll_knows knows more other
    | attach next => rw [Act.arrivals,List.append_nil]; exact knows other

theorem periodsFrom_ne_nil (now : Period) (acts : List Act) : periodsFrom now acts ≠ [] := by
  induction acts generalizing now with
  | nil => exact List.cons_ne_nil _ _
  | cons first rest ih =>
    cases first with
    | attach next => exact List.cons_ne_nil _ _
    | event | record => exact ih _

-- The view of the last period is the one that is attached.
theorem last_period {now : Period} (attached : registry.view = now.view) (acts : List Act) :
    (periodsFrom now acts).getLast?.bind (·.view) = (registry.actAll acts).1.view := by
  induction acts generalizing registry now with
  | nil => exact attached.symm
  | cons first rest ih =>
    rw [actAll_cons]
    cases first with
    | event event => exact ih attached
    | record more => exact ih ((recordAll_view _ _).trans attached)
    | attach next =>
      obtain ⟨begun,later,more⟩ := List.exists_cons_of_ne_nil
        (periodsFrom_ne_nil ⟨next,now.before ++ now.during,[]⟩ rest)
      rw [periodsFrom,more,List.getLast?_cons_cons,← more]
      exact ih rfl

theorem recordAll_shows (attached : registry.view = some view)
    (shows : Shows shown registry.find?) (apps : List Application) :
    Shows (ViewCall.applyAll shown (heard view (registry.recordAll apps).2))
      (registry.recordAll apps).1.find? := by
  rw [recordAll_heard,if_pos attached]
  induction apps generalizing registry shown with
  | nil => exact shows
  | cons app rest ih =>
    have added := shows_add shows app
    rw [← find?_record registry app] at added
    have still : (registry.record app).1.view = some view := attached
    exact ih still added

-- One act, seen by a view that has what the registry has.
theorem act_shows (own : ∀ id app, registry.find? id = some app → app.id = id)
    (shows : registry.view = some view → Shows shown registry.find?) (act : Act)
    (attached : (registry.act act).1.view = some view) :
    Shows (ViewCall.applyAll shown (heard view (registry.act act).2))
      (registry.act act).1.find? := by
  cases act with
  | event event =>
    rw [act_event] at attached ⊢
    have before := (recordAll_view registry [event.new]).symm.trans attached
    exact recordAll_shows before (shows before) _
  | record more =>
    have before := (recordAll_view registry more).symm.trans attached
    exact recordAll_shows before (shows before) more
  | attach next =>
    have opened : next = some view := attached
    rw [attach_heard,if_pos opened]
    exact shows_values own

theorem actAll_shows (knows : ∀ id, registry.find? id = lastWord arrived id)
    (shows : registry.view = some view → Shows shown registry.find?) (acts : List Act)
    (attached : (registry.actAll acts).1.view = some view) :
    Shows (ViewCall.applyAll shown (heard view (registry.actAll acts).2))
      (registry.actAll acts).1.find? := by
  induction acts generalizing registry arrived shown with
  | nil => exact shows attached
  | cons first rest ih =>
    rw [actAll_cons,heard_append,ViewCall.applyAll_append]
    refine ih (actAll_find? knows [first]) (fun attached => ?_) attached
    exact act_shows (fun id app found => lastWord_id ((knows id).symm.trans found)) shows first
      attached

-- Whatever a registry is made to do, from the start: each view is told what its periods call for;
-- the entries are the last words on all applications; and a view that is attached shows them.
theorem views_hear (acts : List Act) (view : ViewId) :
    Hears view (periods acts) (heard view (actAll {} acts).2) ∧
    (∀ id, (actAll {} acts).1.find? id = lastWord (acts.flatMap Act.arrivals) id) ∧
    ((periods acts).getLast?.bind (·.view) = some view → ∀ shown,
      Shows (ViewCall.applyAll shown (heard view (actAll {} acts).2))
        (actAll {} acts).1.find?) := by
  have empty (id : ApplicationId) : ({} : Registry).find? id = lastWord [] id := rfl
  refine ⟨?_,actAll_find? empty acts,fun attached shown => ?_⟩
  · have none : Shows [] (lastWord []) := ⟨List.nodup_nil,fun _ => by simp [lastWord]⟩
    have told : Hears view (periodsFrom {} acts)
        (Period.calls {} view [] ++ heard view (actAll {} acts).2) :=
      hears_from rfl empty none view acts
    exact told
  · have last : (periodsFrom {} acts).getLast?.bind (·.view) = (actAll {} acts).1.view :=
      last_period rfl acts
    rw [periods,last] at attached
    exact actAll_shows empty nofun acts attached

end Registry

namespace Sample

def bulb : Application := ⟨⟨"A1"⟩,"Lamp","hallway",.claimable,.running⟩

def stove : Application := ⟨⟨"B2"⟩,"Stove","kitchen",.unclaimable,.unknown⟩

def panel : ViewId := ⟨"panel"⟩

-- The panel is attached, attached again, put away for another view, and comes back.
def viewing : List Registry.Act :=
  [.record [bulb],.attach (some panel),.event ⟨stove,none⟩,.attach (some panel),
    .attach (some ⟨"other"⟩),.event ⟨{ bulb with claimState := .claimed },none⟩,
    .attach (some panel),.record [{ stove with runningState := .running },bulb]]

theorem panel_hears :
    (Registry.periods viewing).getLast?.bind (·.view) = some panel ∧
      (heard panel (Registry.actAll {} viewing).2).length = 6 ∧
      Registry.Hears panel (Registry.periods viewing)
        (heard panel (Registry.actAll {} viewing).2) ∧
      (∀ id, (Registry.actAll {} viewing).1.find? id =
        lastWord (viewing.flatMap Registry.Act.arrivals) id) ∧
      ∀ shown, Shows (ViewCall.applyAll shown (heard panel (Registry.actAll {} viewing).2))
        (Registry.actAll {} viewing).1.find? := by
  obtain ⟨hears,entries,shows⟩ := Registry.views_hear viewing panel
  exact ⟨rfl,rfl,hears,entries,shows rfl⟩

end Sample

end Custody
