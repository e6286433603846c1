import Mathlib.Data.List.Nodup
import Custody.Proofs.Attachment
import Custody.Proofs.Bytes
import Custody.Proofs.Independence
import Custody.Proofs.Lookup
import Custody.Proofs.Tabulation

-- What is printed of the applications that a fleet has and of those that a registry holds. A map
-- hands over what it holds in no particular order. But what is printed has been put in the order of
-- ids, and there is one application of an id, so neither the order of a map nor the order in which
-- it all came about is to be seen.

namespace Custody

variable {site : Site} {fleet : Fleet} {registry : Registry}

-- A way to go through all that a map holds.
structure Traversal where
  visit : {α : Type} → List α → List α
  all : ∀ {α : Type} (held : List α), (visit held).Perm held

def sortedById (apps : List Application) : List Application :=
  apps.mergeSort fun a b => (compare a.id b.id).isLE

-- The calls that go through a map, with the way that they take.

def Fleet.listApplicationsBy (traversal : Traversal) (fleet : Fleet) :
    Except Refusal (List Application) × Fleet :=
  fleet.answer .listApplications fun fleet =>
    (.ok (sortedById ((traversal.visit fleet.records.values).map (·.app))),fleet)

def Site.transportBy (traversal : Traversal) (depth : Nat) :
    Transport Course Approver Listener :=
  { Site.transport depth with
    listApplications := Course.call (Fleet.listApplicationsBy traversal) }

def Registry.attachBy (traversal : Traversal) (registry : Registry) (view : Option ViewId) :
    Registry × Option Notice :=
  ({ registry with view },
   view.map fun view => ⟨view,.setItems (traversal.visit registry.snapshot)⟩)

def Report.registryBy (traversal : Traversal) (registry : Registry) : String × Registry :=
  let (attached,notice) := registry.attachBy traversal (some ⟨"text"⟩)
  let shown := notice.toList.foldl (fun shown notice => notice.call.applyTo shown) []
  (blocks shown,(attached.attachBy traversal none).1)

def Command.executeBy (traversal : Traversal) (depth : Nat) (name : String)
    (coordinator : Coordinator) (command : Command) :
    Course (Except String String × Coordinator) :=
  command.execute (Site.transportBy traversal depth)
    (fun _ => Course.reading name (Report.registryBy traversal)) coordinator

-- What a command prints at a site, in whatever way the maps there are gone through.
structure Command.Prints (command : Command) (name : String) (site : Site) (text : String) :
    Prop where
  ascending : ∀ depth coordinator, Course.Ends
    (command.execute (Site.transport depth) (Course.reading name) coordinator) site
    fun outcome _ => outcome.1 = .ok text
  anyhow : ∀ traversal depth coordinator, Course.Ends
    (command.executeBy traversal depth name coordinator) site
    fun outcome _ => outcome.1 = .ok text

-- What is printed of some applications, or of those among them that are in one state.
def Report.list (state : Option ClaimState) (json : Bool) (apps : List Application) : String :=
  let shown := match state with
    | some state => apps.filter (·.claimState == state)
    | none => apps
  if json then Report.json shown else Report.table shown

-- There is one way to put applications in the order of their ids, if no two have one id.
theorem sortedById_once {apps visited : List Application}
    (ascending : (apps.map (·.id)).Pairwise (fun a b => compare a b = .lt))
    (all : visited.Perm apps) : sortedById visited = apps := by
  have total (a b : Application) :
      ((compare a.id b.id).isLE || (compare b.id a.id).isLE) = true := by
    have swapped : compare b.id a.id = (compare a.id b.id).swap := Std.OrientedCmp.eq_swap
    rw [swapped]
    cases compare a.id b.id <;> rfl
  have trans (a b c : Application) (below : (compare a.id b.id).isLE = true) :
      (compare b.id c.id).isLE = true → (compare a.id c.id).isLE = true :=
    Std.TransCmp.isLE_trans below
  have sorted : (sortedById visited).Pairwise fun a b => (compare a.id b.id).isLE = true :=
    List.pairwise_mergeSort trans total _
  have order : apps.Pairwise fun a b => (compare a.id b.id).isLE = true :=
    (List.pairwise_map.mp ascending).imp fun below => by rw [below]; rfl
  have same : (sortedById visited).Perm apps := (List.mergeSort_perm _ _).trans all
  refine List.Perm.eq_of_pairwise (fun a b here there below above => ?_) sorted order same
  exact List.inj_on_of_nodup_map (ascending_once ascending) (same.subset here) there
    (Std.LawfulEqCmp.eq_of_compare (Std.OrientedCmp.isLE_antisymm below above))

namespace Fleet

theorem Own.listApplicationsBy (own : fleet.Own) (traversal : Traversal) :
    fleet.listApplicationsBy traversal = fleet.listApplications := by
  have sorted : sortedById ((traversal.visit fleet.records.values).map (·.app)) =
      fleet.applications := sortedById_once own.ascending ((traversal.all _).map _)
  unfold Fleet.listApplicationsBy listApplications answer
  cases fleet.faults .listApplications with
  | some fault => rfl
  | none => exact congrArg (fun apps => (Except.ok apps,fleet.received .listApplications)) sorted

-- Fleets list the same if the same is known of each application.
theorem Own.applications_same {other : Fleet} (own : fleet.Own) (kept : other.Own) :
    other.applications = fleet.applications ↔ ∀ id, other.info id = fleet.info id := by
  constructor
  · intro same id
    rw [← own.shows.first own id,← kept.shows.first kept id,same]
  · intro same
    have all : other.applications.Perm fleet.applications := by
      refine (List.perm_ext_iff_of_nodup (.of_map _ kept.shows.once)
        (.of_map _ own.shows.once)).mpr fun app => ?_
      rw [kept.shows.all,own.shows.all,same]
    rw [← sortedById_once kept.ascending (.refl _),sortedById_once own.ascending all]

theorem Own.bytes_ascending (own : fleet.Own) :
    fleet.applications.Pairwise fun a b => Text.bytes a.id.text < Text.bytes b.id.text :=
  (List.pairwise_map.mp own.ascending).imp (ApplicationId.compare_bytes _ _).mp

end Fleet

namespace Report

-- A registry that holds each application under its own id shows them in one way, whatever way it
-- hands them over.
theorem registryBy_same (own : ∀ id app, registry.find? id = some app → app.id = id)
    (traversal : Traversal) : registryBy traversal registry = Report.registry registry := by
  have ascending : (registry.snapshot.map (·.id)).Pairwise (fun a b => compare a b = .lt) := by
    have keys : (registry.entries.values.map fun app => app).map (·.id) = registry.entries.keys :=
      told_keys (fun app => app) own
    rw [List.map_id'] at keys
    rw [Registry.snapshot,keys]
    exact List.pairwise_map.mpr registry.entries.ascending
  have all := traversal.all registry.snapshot
  have same : blocks (traversal.visit registry.snapshot) = blocks registry.snapshot := by
    have sorted := (sortedById_once ascending all).trans (sortedById_once ascending (.refl _)).symm
    have empty : (traversal.visit registry.snapshot).isEmpty = registry.snapshot.isEmpty :=
      all.isEmpty_eq
    unfold sortedById at sorted
    unfold blocks
    rw [empty,sorted]
  exact congrArg (fun text => (text,({ registry with view := none } : Registry))) same

end Report

-- What is begun at a site as something else would begin there goes on as that does.
theorem Course.bind_same {first other : Course α} (same : first site = other site)
    (rest : α → Course β) : (first >>= rest) site = (other >>= rest) site := by
  change Option.bind (first site) _ = Option.bind (other site) _
  rw [same]

namespace Command

variable {name : String}

theorem list_executeBy (own : site.fleet.Own) (traversal : Traversal) (depth : Nat) (name : String)
    (coordinator : Coordinator) (state : Option ClaimState) (json : Bool) :
    (Command.list state json).executeBy traversal depth name coordinator site =
      (Command.list state json).execute (Site.transport depth) (Course.reading name) coordinator
        site := by
  have listing : (Site.transportBy traversal depth).listApplications site =
      (Site.transport depth).listApplications site := by
    change some (site.call _) = some (site.call _)
    unfold Site.call
    rw [own.listApplicationsBy]
  have asked : Coordinator.applications (Site.transportBy traversal depth) site =
      Coordinator.applications (Site.transport depth) site :=
    Course.bind_same listing _
  cases state with
  | none => exact Course.bind_same asked _
  | some state => exact Course.bind_same (Course.bind_same asked _) _

theorem list_prints (own : site.fleet.Own) (name : String) (state : Option ClaimState)
    (json : Bool) :
    (Command.list state json).Prints name site (Report.list state json site.listed) := by
  have listed (depth : Nat) (coordinator : Coordinator) : Course.Ends
      ((Command.list state json).execute (Site.transport depth) (Course.reading name) coordinator)
      site fun outcome _ => outcome.1 = .ok (Report.list state json site.listed) := by
    have asked := Coordinator.applications_listed depth site
    cases state with
    | none =>
      apply asked.bind
      rintro _ after ⟨rfl,-⟩
      exact Course.ends_pure rfl
    | some state =>
      have filtered : Course.Ends (Coordinator.applicationsIn (Site.transport depth) state) site
          fun apps _ => apps = site.listed.filter (·.claimState == state) := by
        apply asked.bind
        rintro _ after ⟨rfl,-⟩
        exact Course.ends_pure rfl
      apply filtered.bind
      rintro _ after rfl
      exact Course.ends_pure rfl
  refine ⟨listed,fun traversal depth coordinator => ?_⟩
  obtain ⟨outcome,after,ran,text⟩ := listed depth coordinator
  exact ⟨outcome,after,(list_executeBy own traversal depth name coordinator state json).trans ran,
    text⟩

theorem registry_prints
    (own : ∀ id app, (site.registry name).find? id = some app → app.id = id) :
    Command.registry.Prints name site (Report.blocks (site.registry name).snapshot) := by
  refine ⟨fun depth coordinator => ⟨_,_,rfl,rfl⟩,fun traversal depth coordinator => ?_⟩
  refine ⟨_,_,rfl,?_⟩
  exact congrArg (fun shown => Except.ok shown.1) (Report.registryBy_same own traversal)

end Command

-- Two runs, whatever was done in them and in whatever order, after which the same is known of each
-- application at the fleet and at a registry. The registries print alike, and so do the listings,
-- unless one of them is set to fail: it prints as if there were no applications, and everything
-- that is known is printed otherwise.
theorem Scene.outputs_agree (run : Run {} deeds s) (other : Run {} others t) (here there : String)
    (infos : ∀ id, t.site.fleet.info id = s.site.fleet.info id)
    (entries : ∀ id, (t.site.registry there).find? id = (s.site.registry here).find? id) :
    Shows s.site.fleet.applications s.site.fleet.info ∧
    (s.site.fleet.applications.Pairwise fun a b =>
      Text.bytes a.id.text < Text.bytes b.id.text) ∧
    (∀ state json,
      (Command.list state json).Prints here s.site (Report.list state json
        (if (s.site.fleet.faults .listApplications).isSome then []
          else s.site.fleet.applications)) ∧
      (Command.list state json).Prints there t.site (Report.list state json
        (if (t.site.fleet.faults .listApplications).isSome then []
          else s.site.fleet.applications))) ∧
    ((t.site.fleet.faults .listApplications).isSome =
        (s.site.fleet.faults .listApplications).isSome → ∀ state json, ∃ text,
      (Command.list state json).Prints here s.site text ∧
        (Command.list state json).Prints there t.site text) ∧
    ∃ text, Command.registry.Prints here s.site text ∧
      Command.registry.Prints there t.site text := by
  have own := run_own run
  have kept := run_own other
  have same := (own.applications_same kept).mpr infos
  have left := Command.list_prints own here
  have right := Command.list_prints kept there
  unfold Site.listed at left right
  rw [same] at right
  refine ⟨own.shows,own.bytes_ascending,fun state json => ⟨left state json,right state json⟩,
    fun both state json => ⟨_,left state json,both ▸ right state json⟩,_,
    Command.registry_prints (run_entries run here),?_⟩
  have equal : (t.site.registry there).entries = (s.site.registry here).entries :=
    Keyed.ext_find? _ _ entries
  have shown := Command.registry_prints (run_entries other there)
  rwa [Registry.snapshot,equal] at shown

namespace Sample

-- The lamp is claimed in one run, and announced as claimed in the other, which has the stove last.
def lampClaimed : List Errand :=
  [.setUp "steward" answering,.ask (.announce stove ⟨[0]⟩),.ask (.announce lamp ⟨[0]⟩),
    .claim "steward" lamp]

def lampTold : List Errand :=
  [.setUp "steward" answering,.ask (.announce { lamp with claimState := .claimed } ⟨[1]⟩),
    .ask (.announce stove ⟨[0]⟩)]

def lampShown : Application := { lamp with claimState := .claimed }

theorem staged_site (errands : List Errand) :
    ∃ deeds s, Scene.Run {} deeds s ∧ s.site = (staged {} errands).2.site := by
  obtain ⟨past,run⟩ := staged_run {} errands []
  exact ⟨_,_,run,rfl⟩

theorem entries_same {site other : Site} (same : (other.registry name).entries.pairs =
    (site.registry name).entries.pairs) (id : ApplicationId) :
    (other.registry name).find? id = (site.registry name).find? id := by
  rw [Registry.find?,Registry.find?,Keyed.find?,Keyed.find?,same]

theorem lamp_printed :
    ∃ deeds others s t, Scene.Run {} deeds s ∧ Scene.Run {} others t ∧
      (∀ id, t.site.fleet.info id = s.site.fleet.info id) ∧
      (∀ id, (t.site.registry "main").find? id = (s.site.registry "main").find? id) ∧
      t.site.record lamp.id ≠ s.site.record lamp.id ∧
      (∀ state json, ∃ text, (Command.list state json).Prints "main" s.site text ∧
        (Command.list state json).Prints "main" t.site text) ∧
      (Command.list (some .claimed) false).Prints "main" t.site (Report.table [lampShown]) ∧
      ∃ text, Command.registry.Prints "main" s.site text ∧
        Command.registry.Prints "main" t.site text := by
  obtain ⟨deeds,s,run,here⟩ := staged_site lampClaimed
  obtain ⟨others,t,other,there⟩ := staged_site lampTold
  have same : t.site.fleet.applications = s.site.fleet.applications := by
    rw [here,there]; decide +kernel
  have infos := ((Scene.run_own run).applications_same (Scene.run_own other)).mp same
  have entries : ∀ id, (t.site.registry "main").find? id = (s.site.registry "main").find? id :=
    entries_same (by rw [here,there]; decide +kernel)
  have apart : t.site.record lamp.id ≠ s.site.record lamp.id := by
    rw [here,there]; decide +kernel
  have clear : (t.site.fleet.faults .listApplications).isSome = false ∧
      (s.site.fleet.faults .listApplications).isSome = false := by
    rw [here,there]; decide +kernel
  have listed : s.site.fleet.applications = [lampShown,stove] := by rw [here]; decide +kernel
  obtain ⟨_,_,each,alike,registries⟩ :=
    Scene.outputs_agree run other "main" "main" infos entries
  have told := (each (some .claimed) false).2
  rw [clear.1,listed] at told
  exact ⟨deeds,others,s,t,run,other,infos,entries,apart,alike (clear.1.trans clear.2.symm),told,
    registries⟩

-- After the same run, but for the listing that is then set to fail.
theorem lamp_unlisted :
    ∃ deeds others s t, Scene.Run {} deeds s ∧ Scene.Run {} others t ∧
      (∀ id, t.site.fleet.info id = s.site.fleet.info id) ∧
      (∀ id, (t.site.registry "main").find? id = (s.site.registry "main").find? id) ∧
      (Command.list none false).Prints "main" s.site (Report.table [lampShown,stove]) ∧
      (Command.list none false).Prints "main" t.site "No applications" ∧
      Report.table [lampShown,stove] ≠ "No applications" := by
  obtain ⟨deeds,s,run,here⟩ := staged_site lampClaimed
  obtain ⟨others,t,other,there⟩ :=
    staged_site (lampClaimed ++ [.ask (.setFault .listApplications (.broken "down"))])
  have same : t.site.fleet.applications = s.site.fleet.applications := by
    rw [here,there]; decide +kernel
  have entries : ∀ id, (t.site.registry "main").find? id = (s.site.registry "main").find? id :=
    entries_same (by rw [here,there]; decide +kernel)
  have listed : s.site.listed = [lampShown,stove] ∧ t.site.listed = [] := by
    rw [here,there]; decide +kernel
  have left := Command.list_prints (Scene.run_own run) "main" none false
  have right := Command.list_prints (Scene.run_own other) "main" none false
  rw [listed.1] at left
  rw [listed.2] at right
  refine ⟨deeds,others,s,t,run,other,
    ((Scene.run_own run).applications_same (Scene.run_own other)).mp same,entries,
    left,right,fun equal => ?_⟩
  have text := Report.table_text (List.cons_ne_nil lampShown [stove])
  rw [equal] at text
  exact absurd text (by decide +kernel)

end Sample

end Custody
