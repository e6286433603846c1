import Custody.Proofs.Founding

-- The stages of setting a coordinator up: which of them are gone through, in what order, and what
-- stops it. All of that stands at the site when it begins. A fault that says that something is not
-- there is taken for the truth where that is loaded, and for a failure anywhere else.

namespace Custody

def error? : Except ε α → Option ε
  | .ok _ => none
  | .error cause => some cause

-- What is known of a course in two ways.
theorem Course.Ends.both {course : Course α} {held further : α → Site → Prop}
    (ends : course.Ends start held) (also : course.Ends start further) :
    course.Ends start fun result next => held result next ∧ further result next := by
  obtain ⟨result,next,ran,holds⟩ := ends
  exact ⟨result,next,ran,holds,also.only ran⟩

namespace SetupStage

-- The call that a stage makes.
def call : SetupStage → Call
  | openKeyStore => .openKeyStore
  | loadGuild => .getGuild
  | createGuild => .createGuild
  | loadIdentity => .getIdentity
  | createIdentity => .createIdentity

-- Whether a stage asks for what need not be there yet.
def loads : SetupStage → Bool
  | loadGuild | loadIdentity => true
  | openKeyStore | createGuild | createIdentity => false

end SetupStage

namespace Site

-- What a stage is refused with. A fault comes before what is stored.
def refuses (site : Site) (stage : SetupStage) : Option Refusal :=
  (site.fleet.faults stage.call).or <| match stage with
    | .openKeyStore => none
    | .loadGuild => if site.guild.isSome then none else some (.notFound "guild" Guid.reserved)
    | .createGuild =>
      if site.guild.isSome then some (.alreadyExists "guild" Guid.reserved) else none
    | .loadIdentity =>
      if site.identity.isSome then none else some (.notFound "identity" Guid.reserved)
    | .createIdentity =>
      if site.identity.isSome then some (.alreadyExists "identity" Guid.reserved) else none

-- Whether a stage is told that something is not there.
def lacks (site : Site) (stage : SetupStage) : Bool := (site.refuses stage).any (·.isNotFound)

-- What makes a stage the last one: any refusal, unless that is what a stage that loads is told.
def stops (site : Site) (stage : SetupStage) : Option Refusal :=
  if stage.loads && site.lacks stage then none else site.refuses stage

-- To load something, and to create it if it is not there.
def fetching (site : Site) (loading creating : SetupStage) : List SetupStage :=
  loading :: if site.lacks loading then [creating] else []

-- All stages of setting up, if none of them stops it.
def stages (site : Site) (store : Option KeyStore) : List SetupStage :=
  (if store.isSome then [.openKeyStore] else []) ++
    (site.fetching .loadGuild .createGuild ++ site.fetching .loadIdentity .createIdentity)

-- How stages are gone through: to their end, or up to the first one that stops.
inductive Went (site : Site) (stages : List SetupStage) :
    List SetupStage → Option Failure → Prop where
  | through (clear : ∀ stage ∈ stages, site.stops stage = none) : Went site stages stages none
  | stopped (cut : stages = done ++ stage :: rest)
      (clear : ∀ earlier ∈ done, site.stops earlier = none)
      (stop : site.stops stage = some refusal) :
      Went site stages (done ++ [stage]) (some (.setup stage refusal))

variable {site other : Site} {first last reached more : List SetupStage} {failure : Failure}
  {stage loading creating : SetupStage}

theorem Went.further {outcome : Option Failure} (went : site.Went first reached none)
    (next : site.Went last more outcome) :
    site.Went (first ++ last) (reached ++ more) outcome := by
  cases went with
  | through before =>
    cases next with
    | through clear =>
      refine .through fun stage member => ?_
      exact (List.mem_append.mp member).elim (before stage) (clear stage)
    | stopped cut clear stop =>
      rw [← List.append_assoc]
      refine .stopped (by rw [cut,List.append_assoc]) (fun stage member => ?_) stop
      exact (List.mem_append.mp member).elim (before stage) (clear stage)

theorem Went.short (went : site.Went first reached (some failure)) (last : List SetupStage) :
    site.Went (first ++ last) reached (some failure) := by
  cases went with
  | stopped cut clear stop => exact .stopped (by rw [cut,List.append_assoc]; rfl) clear stop

theorem went_one (site : Site) (stage : SetupStage) :
    site.Went [stage] [stage] ((site.stops stage).map (.setup stage)) := by
  cases stop : site.stops stage with
  | none => exact .through fun only member => by rw [List.mem_singleton.mp member,stop]
  | some refusal =>
    have cut : [stage] = [] ++ stage :: [] := rfl
    exact .stopped cut (fun _ member => nomatch member) stop

theorem stops_granted (granted : site.refuses stage = none) : site.stops stage = none := by
  unfold stops
  rw [granted,ite_self]

theorem stops_missing (reads : stage.loads = true) (missing : site.lacks stage = true) :
    site.stops stage = none := by
  unfold stops
  rw [reads,missing]
  rfl

theorem stops_refused (other : (stage.loads && site.lacks stage) = false) :
    site.stops stage = site.refuses stage := by
  unfold stops
  rw [other]
  rfl

theorem fetching_there (there : site.lacks loading = false) :
    site.fetching loading creating = [loading] := by
  unfold fetching
  rw [there]
  rfl

theorem fetching_missing (missing : site.lacks loading = true) :
    site.fetching loading creating = [loading] ++ [creating] := by
  unfold fetching
  rw [missing]
  rfl

theorem refuses_same (faults : other.fleet.faults = site.fleet.faults)
    (guild : other.guild = site.guild) (identity : other.identity = site.identity)
    (stage : SetupStage) : other.refuses stage = site.refuses stage := by
  unfold refuses
  rw [faults,guild,identity]

theorem refuses_identity (faults : other.fleet.faults = site.fleet.faults)
    (identity : other.identity = site.identity) (stage : SetupStage)
    (about : stage = .loadIdentity ∨ stage = .createIdentity) :
    other.refuses stage = site.refuses stage := by
  unfold refuses
  rw [faults]
  rcases about with rfl | rfl
  · simp only [identity]
  · simp only [identity]

theorem fetching_about (member : stage ∈ site.fetching loading creating) :
    stage = loading ∨ stage = creating := by
  unfold fetching at member
  split at member
  · simpa using member
  · exact .inl (by simpa using member)

theorem fetching_congr (same : other.refuses loading = site.refuses loading) :
    other.fetching loading creating = site.fetching loading creating := by
  unfold fetching lacks
  rw [same]

theorem stops_congr (same : other.refuses stage = site.refuses stage) :
    other.stops stage = site.stops stage := by
  rw [stops,stops,lacks,lacks,same]

theorem Went.congr {outcome : Option Failure} (went : site.Went first reached outcome)
    (same : ∀ stage ∈ first, other.refuses stage = site.refuses stage) :
    other.Went first reached outcome := by
  cases went with
  | through clear =>
    refine .through fun stage member => ?_
    exact (stops_congr (same stage member)).trans (clear stage member)
  | stopped cut clear stop =>
    subst cut
    refine .stopped rfl (fun stage member => ?_) ?_
    · exact (stops_congr (same stage (List.mem_append_left _ member))).trans (clear stage member)
    · exact (stops_congr (same _ (by simp))).trans stop

end Site

namespace Coordinator

variable {start middle next : Site} {stage loading creating : SetupStage}

-- One stage: its call is written down and answered as it stands at the site, and nothing is stored
-- unless it creates that.
structure Answered (stage : SetupStage) (start : Site) (result : Except Refusal α)
    (next : Site) : Prop where
  calls : next.fleet.calls = start.fleet.calls ++ [stage.call]
  faults : next.fleet.faults = start.fleet.faults
  guild : stage ≠ .createGuild → next.guild = start.guild
  identity : stage ≠ .createIdentity → next.identity = start.identity
  refusal : error? result = start.refuses stage

theorem answer_answered (stage : SetupStage) {body : Fleet → Except Refusal α × Fleet}
    (own : start.fleet.faults stage.call = none →
      Answered stage start (body (start.fleet.received stage.call)).1
        { start with fleet := (body (start.fleet.received stage.call)).2 }) :
    (Course.call fun fleet => fleet.answer stage.call body).Ends start (Answered stage start) := by
  rcases start.fleet.answer_cases stage.call body with ⟨fault,faulty,refused⟩ | ⟨clear,answered⟩
  · refine Course.ends_call refused ⟨rfl,rfl,fun _ => rfl,fun _ => rfl,?_⟩
    unfold Site.refuses
    rw [faulty]
    rfl
  · exact Course.ends_call answered (own clear)

theorem openKeyStore_answered (store : KeyStore) (start : Site) :
    (Course.call fun fleet => fleet.openKeyStore store).Ends start
      (Answered .openKeyStore start) := by
  refine answer_answered .openKeyStore fun clear => ?_
  refine ⟨rfl,rfl,fun _ => rfl,fun _ => rfl,?_⟩
  unfold Site.refuses
  rw [clear]
  rfl

theorem getGuild_answered (start : Site) :
    (Course.call fun fleet => fleet.getGuild Guid.reserved).Ends start
      (Answered .loadGuild start) := by
  refine answer_answered .loadGuild fun clear => ?_
  have same : (start.fleet.received .getGuild).guilds.find? Guid.reserved = start.guild := rfl
  cases known : start.guild with
  | some guild | none =>
    rw [known] at same
    simp only [SetupStage.call,same]
    refine ⟨rfl,rfl,fun _ => rfl,fun _ => rfl,?_⟩
    unfold Site.refuses
    rw [clear,known]
    rfl

theorem getIdentity_answered (start : Site) :
    (Course.call fun fleet => fleet.getIdentity Guid.reserved).Ends start
      (Answered .loadIdentity start) := by
  refine answer_answered .loadIdentity fun clear => ?_
  have same : (start.fleet.received .getIdentity).identities.find? Guid.reserved =
      start.identity := rfl
  cases known : start.identity with
  | some identity | none =>
    rw [known] at same
    simp only [SetupStage.call,same]
    refine ⟨rfl,rfl,fun _ => rfl,fun _ => rfl,?_⟩
    unfold Site.refuses
    rw [clear,known]
    rfl

theorem createGuild_answered (start : Site) :
    (Course.call fun fleet => fleet.createGuild Guild.reserved).Ends start
      (Answered .createGuild start) := by
  refine answer_answered .createGuild fun clear => ?_
  have same : (start.fleet.received .createGuild).guilds.contains Guild.reserved.guid =
      start.guild.isSome := rfl
  cases known : start.guild with
  | some guild | none =>
    rw [known] at same
    simp only [SetupStage.call,same]
    refine ⟨rfl,rfl,fun other => absurd rfl other,fun _ => rfl,?_⟩
    unfold Site.refuses
    rw [clear,known]
    rfl

theorem createIdentity_answered (userName : String) (start : Site) :
    (Course.call fun fleet => fleet.createIdentity ⟨userName,Guid.reserved⟩).Ends start
      (Answered .createIdentity start) := by
  refine answer_answered .createIdentity fun clear => ?_
  have same : (start.fleet.received .createIdentity).identities.contains Guid.reserved =
      start.identity.isSome := rfl
  cases known : start.identity with
  | some identity | none =>
    rw [known] at same
    simp only [SetupStage.call,same]
    refine ⟨rfl,rfl,fun _ => rfl,fun other => absurd rfl other,?_⟩
    unfold Site.refuses
    rw [clear,known]
    rfl

-- A stage that loads something leaves everything as it is.
theorem Answered.refuses {result : Except Refusal α} (answered : Answered stage start result next)
    (reads : stage.loads = true) (other : SetupStage) :
    next.refuses other = start.refuses other := by
  have guild : next.guild = start.guild :=
    answered.guild fun same => by rw [same] at reads; cases reads
  have identity : next.identity = start.identity :=
    answered.identity fun same => by rw [same] at reads; cases reads
  exact Site.refuses_same answered.faults guild identity other

-- Several stages in turn.
structure Passed (stages : List SetupStage) (start : Site) (result : Except Failure α)
    (next : Site) : Prop where
  went : ∃ reached, start.Went stages reached (error? result) ∧
    next.fleet.calls = start.fleet.calls ++ reached.map (·.call)
  faults : next.fleet.faults = start.fleet.faults
  guild : .createGuild ∉ stages → next.guild = start.guild
  identity : .createIdentity ∉ stages → next.identity = start.identity

variable {first last : List SetupStage}

theorem Answered.passed {result : Except Refusal α} {outcome : Except Failure β}
    (answered : Answered stage start result next)
    (failed : error? outcome = (start.stops stage).map (.setup stage)) :
    Passed [stage] start outcome next := by
  refine ⟨⟨[stage],?_,answered.calls⟩,answered.faults,fun other => ?_,fun other => ?_⟩
  · rw [failed]
    exact start.went_one stage
  · exact answered.guild fun same => other (by simp [same])
  · exact answered.identity fun same => other (by simp [same])

theorem Passed.further {value : α} {result : Except Failure β}
    (passed : Passed first start (.ok value : Except Failure α) middle)
    (onwards : Passed last middle result next)
    (same : ∀ stage ∈ last, middle.refuses stage = start.refuses stage) :
    Passed (first ++ last) start result next := by
  obtain ⟨reached,went,calls⟩ := passed.went
  obtain ⟨more,going,called⟩ := onwards.went
  refine ⟨⟨reached ++ more,went.further (going.congr fun stage member => ?_),?_⟩,
    onwards.faults.trans passed.faults,fun other => ?_,fun other => ?_⟩
  · exact (same stage member).symm
  · rw [called,calls,List.map_append,List.append_assoc]
  · rw [onwards.guild fun member => other (List.mem_append_right _ member)]
    exact passed.guild fun member => other (List.mem_append_left _ member)
  · rw [onwards.identity fun member => other (List.mem_append_right _ member)]
    exact passed.identity fun member => other (List.mem_append_left _ member)

theorem Passed.short {failure : Failure}
    (passed : Passed first start (.error failure : Except Failure α) next)
    (last : List SetupStage) :
    Passed (first ++ last) start (.error failure : Except Failure β) next := by
  obtain ⟨reached,went,calls⟩ := passed.went
  refine ⟨⟨reached,went.short last,calls⟩,passed.faults,fun other => ?_,fun other => ?_⟩
  · exact passed.guild fun member => other (List.mem_append_left _ member)
  · exact passed.identity fun member => other (List.mem_append_left _ member)

theorem Passed.to_result {result : Except Failure α} {other : Except Failure β}
    (passed : Passed first start result next) (same : error? other = error? result) :
    Passed first start other next := by
  obtain ⟨went,faults,guild,identity⟩ := passed
  rw [← same] at went
  exact ⟨went,faults,guild,identity⟩

theorem Passed.to_fleet {result : Except Failure α} {other : Site}
    (passed : Passed first start result next) (same : other.fleet = next.fleet) :
    Passed first start result other := by
  obtain ⟨went,faults,guild,identity⟩ := passed
  unfold Site.guild at guild
  unfold Site.identity at identity
  rw [← same] at went faults guild identity
  exact ⟨went,faults,guild,identity⟩

-- What comes of loading something, or of creating it if it is not there.
structure Fetched (loading creating : SetupStage) (stored : Site → Option ν) (value : ν)
    (start : Site) (result : Except Failure ν) (next : Site) : Prop where
  passed : Passed (start.fetching loading creating) start result next
  value : ∀ found, result = .ok found →
    if start.lacks loading then found = value else stored start = some found

-- The same, told of an earlier site that is not different in what is asked for.
theorem Fetched.since {stored : Site → Option ν} {result : Except Failure ν} {value found : ν}
    (fetched : Fetched loading creating stored value middle result next)
    (same : middle.refuses loading = start.refuses loading) (kept : stored middle = stored start)
    (granted : result = .ok found) :
    if start.lacks loading then found = value else stored start = some found := by
  have lacks : middle.lacks loading = start.lacks loading :=
    congrArg (·.any (·.isNotFound)) same
  rw [← lacks,← kept]
  exact fetched.value found granted

theorem resolve_fetched {stored : Site → Option ν} {load : Fleet → Except Refusal ν × Fleet}
    {create : Fleet → Except Refusal Unit × Fleet} {value : ν}
    (reads : loading.loads = true) (writes : creating.loads = false)
    (loads : (Course.call load).Ends start (Answered loading start))
    (known : (Course.call load).Ends start (Loaded stored start))
    (creates : ∀ start, (Course.call create).Ends start (Answered creating start)) :
    (resolve (Course.call load) (Course.call create) value loading creating).Ends start
      (Fetched loading creating stored value start) := by
  apply (loads.both known).bind
  intro loaded middle came
  obtain ⟨answered,came⟩ := came
  have refusal := answered.refusal
  cases loaded with
  | ok found =>
    have there : start.lacks loading = false := by rw [Site.lacks,← refusal]; rfl
    refine Course.ends_pure ⟨?_,fun value same => ?_⟩
    · rw [Site.fetching_there there]
      exact answered.passed (by rw [Site.stops_granted refusal.symm]; rfl)
    · cases same
      rw [if_neg (by rw [there]; nofun)]
      exact came.value _ rfl
  | error cause =>
    dsimp only
    split
    · rename_i absent
      have missing : start.lacks loading = true := by rw [Site.lacks,← refusal]; exact absent
      have before : Passed [loading] start (.ok () : Except Failure Unit) middle :=
        answered.passed (by rw [Site.stops_missing reads missing]; rfl)
      apply (creates middle).bind
      intro created next made
      have stops : middle.stops creating = error? created :=
        (Site.stops_refused (by rw [writes]; rfl)).trans made.refusal.symm
      have after {result : Except Failure ν} (failed : error? result =
          (error? created).map (.setup creating)) :
          Passed (start.fetching loading creating) start result next := by
        rw [Site.fetching_missing missing]
        exact before.further (made.passed (by rw [stops]; exact failed))
          fun stage _ => answered.refuses reads stage
      cases created with
      | ok =>
        refine Course.ends_pure ⟨after rfl,fun found same => ?_⟩
        cases same
        rw [if_pos missing]
      | error late => exact Course.ends_pure ⟨after rfl,nofun⟩
    · rename_i present
      have there : start.lacks loading = false := by
        rw [Site.lacks,← refusal]
        exact Bool.eq_false_iff.mpr present
      have stops : start.stops loading = some cause := by
        rw [Site.stops_refused (by rw [there,Bool.and_false]),← refusal]
        rfl
      refine Course.ends_pure ⟨?_,nofun⟩
      rw [Site.fetching_there there]
      exact answered.passed (by rw [stops]; rfl)

theorem openStore_passed (depth : Nat) (store : Option KeyStore) (start : Site) :
    Course.Ends (openStore (Site.transport depth) store) start
      (Passed (if store.isSome then [.openKeyStore] else []) start) := by
  cases store with
  | none =>
    have nothing : start.Went [] [] none := .through nofun
    exact Course.ends_pure ⟨⟨[],nothing,(List.append_nil _).symm⟩,rfl,fun _ => rfl,fun _ => rfl⟩
  | some store =>
    apply (openKeyStore_answered store start).bind
    intro opened next answered
    have stops : start.stops .openKeyStore = error? opened :=
      (Site.stops_refused rfl).trans answered.refusal.symm
    cases opened with
    | ok | error => exact Course.ends_pure (answered.passed (by rw [stops]; rfl))

theorem resolveGuild_fetched (depth : Nat) (start : Site) :
    Course.Ends (resolveGuild (Site.transport depth)) start
      (Fetched .loadGuild .createGuild Site.guild Guild.reserved start) := by
  rw [resolveGuild_resolve]
  exact resolve_fetched rfl rfl (getGuild_answered start) (getGuild_loads start)
    createGuild_answered

theorem resolveIdentity_fetched (depth : Nat) (userName : String) (start : Site) :
    Course.Ends (resolveIdentity (Site.transport depth) userName) start
      (Fetched .loadIdentity .createIdentity Site.identity ⟨userName,Guid.reserved⟩ start) := by
  rw [resolveIdentity_resolve]
  exact resolve_fetched rfl rfl (getIdentity_answered start) (getIdentity_loads start)
    (createIdentity_answered userName)

theorem checked_proper {setup : Setup Approver Listener} {listener : Listener}
    {approver : Approver} (granted : checked setup = .ok (listener,approver)) : setup.Proper := by
  obtain ⟨userName,listens,approves,keyStore⟩ := setup
  cases listens with
  | none => cases granted
  | some listener =>
    cases approves with
    | none => cases granted
    | some approver =>
      unfold checked at granted
      dsimp only at granted
      split at granted
      · cases granted
      · rename_i named
        exact ⟨rfl,rfl,Bool.eq_false_iff.mpr named⟩

-- What comes of all stages.
structure Staged (setup : Setup Approver Listener) (start : Site)
    (result : Except Failure Coordinator) (next : Site) : Prop where
  passed : Passed (start.stages setup.keyStore) start result next
  named : ∀ coordinator, result = .ok coordinator → coordinator.userName = coordinator.identity.name
  identity : ∀ coordinator, result = .ok coordinator →
    if start.lacks .loadIdentity then coordinator.identity = ⟨setup.userName,Guid.reserved⟩
    else start.identity = some coordinator.identity
  guild : ∀ coordinator, result = .ok coordinator →
    if start.lacks .loadGuild then coordinator.guild = Guild.reserved
    else start.guild = some coordinator.guild

theorem create_staged (depth : Nat) {setup : Setup Approver Listener}
    {listener : Listener} {approver : Approver}
    (granted : checked setup = .ok (listener,approver)) (start : Site) :
    Course.Ends (create (Site.transport depth) setup) start (Staged setup start) := by
  unfold create
  rw [granted]
  apply (openStore_passed depth setup.keyStore start).bind
  intro opened site opening
  cases opened with
  | error failure => exact Course.ends_pure ⟨opening.short _,nofun,nofun,nofun⟩
  | ok opened =>
    cases opened
    apply Course.ends_after
    apply Course.ends_after
    change Course.Ends _ ((site.setApprover approver).addListener listener) _
    have registering : Passed _ start (.ok () : Except Failure Unit)
        ((site.setApprover approver).addListener listener) :=
      opening.to_fleet (Site.naming_fleet _ _)
    generalize (site.setApprover approver).addListener listener = registered at registering ⊢
    -- What later stages ask for is as it was before the key store was opened.
    have guild := registering.guild (by split <;> simp)
    have identity := registering.identity (by split <;> simp)
    have same (stage : SetupStage) := Site.refuses_same registering.faults guild identity stage
    apply (resolveGuild_fetched depth registered).bind
    intro loaded middle founding
    have founded := founding.passed
    rw [Site.fetching_congr (same .loadGuild)] at founded
    cases loaded with
    | error failure =>
      refine Course.ends_pure ⟨?_,nofun,nofun,nofun⟩
      exact registering.further (founded.short _) fun stage _ => same stage
    | ok loadedGuild =>
      -- A guild that has been created is nothing to the stages about the identity.
      have apart : SetupStage.createIdentity ∉ start.fetching .loadGuild .createGuild :=
        fun member => (Site.fetching_about member).elim nofun nofun
      have kept := (founded.identity apart).trans identity
      have still := Site.refuses_identity (founded.faults.trans registering.faults) kept
      apply (resolveIdentity_fetched depth setup.userName middle).bind
      intro known next admitting
      have admitted := admitting.passed
      rw [Site.fetching_congr (still .loadIdentity (.inl rfl))] at admitted
      have passed : Passed (start.stages setup.keyStore) start known next := by
        refine registering.further (founded.further admitted fun stage member => ?_)
          fun stage _ => same stage
        exact (still stage (Site.fetching_about member)).trans (same stage).symm
      cases known with
      | error failure => exact Course.ends_pure ⟨passed.to_result rfl,nofun,nofun,nofun⟩
      | ok loadedIdentity =>
        refine Course.ends_pure ⟨passed.to_result rfl,?named,?identity,?guild⟩
        case named =>
          intro coordinator made
          cases made
          rfl
        case identity =>
          intro coordinator made
          cases made
          exact admitting.since (still .loadIdentity (.inl rfl)) kept rfl
        case guild =>
          intro coordinator made
          cases made
          exact founding.since (same .loadGuild) guild rfl

theorem mem_stages (site : Site) (store : Option KeyStore) :
    (.createGuild ∈ site.stages store ↔ site.lacks .loadGuild = true) ∧
    (.createIdentity ∈ site.stages store ↔ site.lacks .loadIdentity = true) := by
  unfold Site.stages Site.fetching
  cases store with
  | none | some => simp

-- Wherever a coordinator is set up: it is refused for its configuration, which changes nothing and
-- calls nobody, exactly if a listener, an approver or a name is missing. Otherwise the calls that
-- it makes are those of the stages up to the first one that stops, and it fails with what that one
-- was refused with; if none stops, then it has the name of the identity, and that is the identity
-- that was stored unless it has been created now.
theorem setup_stages (depth : Nat) (setup : Setup Approver Listener) (site : Site) :
    ∃ result next, create (Site.transport depth) setup site = some (result,next) ∧
      ((∃ text, result = .error (.invalidConfiguration text)) ↔ ¬setup.Proper) ∧
      (¬setup.Proper → next = site) ∧
      (setup.Proper → ∃ reached,
        site.Went (site.stages setup.keyStore) reached (error? result) ∧
        next.fleet.calls = site.fleet.calls ++ reached.map (·.call) ∧
        ∀ coordinator, result = .ok coordinator →
          coordinator.userName = coordinator.identity.name ∧
          (if .createIdentity ∈ reached then
            coordinator.identity = ⟨setup.userName,Guid.reserved⟩
          else site.identity = some coordinator.identity) ∧
          if .createGuild ∈ reached then coordinator.guild = Guild.reserved
          else site.guild = some coordinator.guild) := by
  rcases checked_cases setup with ⟨text,refused,improper⟩ | ⟨listener,approver,granted,_⟩
  · have ran : create (Site.transport depth) setup site =
        some (.error (.invalidConfiguration text),site) := by
      unfold create
      rw [refused]
      rfl
    exact ⟨_,_,ran,⟨fun _ => improper,fun _ => ⟨text,rfl⟩⟩,fun _ => rfl,
      fun proper => absurd proper improper⟩
  · have proper := checked_proper granted
    obtain ⟨result,next,ran,staged⟩ := create_staged depth granted site
    obtain ⟨reached,went,calls⟩ := staged.passed.went
    refine ⟨result,next,ran,⟨?_,fun improper => absurd proper improper⟩,
      fun improper => absurd proper improper,fun _ => ⟨reached,went,calls,?_⟩⟩
    · intro invalid
      obtain ⟨text,rfl⟩ := invalid
      cases went
    · intro coordinator made
      subst made
      cases went with
      | through clear =>
        obtain ⟨founds,admits⟩ := mem_stages site setup.keyStore
        refine ⟨staged.named _ rfl,?_,?_⟩
        · simp only [admits]
          exact staged.identity _ rfl
        · simp only [founds]
          exact staged.guild _ rfl

end Coordinator

namespace Sample

-- A site at which the guild is stored and said not to be there.
def mislaid : Site :=
  (staged {} [.ask (.createGuild Guild.reserved),
    .ask (.setFault .getGuild (.notFound "guild" Guid.reserved))]).2.site

-- The guild cannot be loaded, so it is created, and that cannot be done.
theorem mislaid_stages :
    steward.Proper ∧ ∃ result next reached,
      Coordinator.create (Site.transport 1) steward mislaid = some (result,next) ∧
      mislaid.Went (mislaid.stages none) reached (error? result) ∧
      next.fleet.calls = mislaid.fleet.calls ++ reached.map (·.call) ∧
      result = .error (.setup .createGuild (.alreadyExists "guild" Guid.reserved)) ∧
      next.fleet.calls = [.createGuild,.getGuild,.createGuild] := by
  have proper : steward.Proper := ⟨rfl,rfl,rfl⟩
  have failed : Coordinator.create (Site.transport 1) steward mislaid =
      some (.error (.setup .createGuild (.alreadyExists "guild" Guid.reserved)),_) := rfl
  obtain ⟨result,next,ran,_,_,stages⟩ := Coordinator.setup_stages 1 steward mislaid
  obtain ⟨reached,went,calls,_⟩ := stages proper
  refine ⟨proper,result,next,reached,ran,went,calls,?_⟩
  cases ran.symm.trans failed
  exact ⟨rfl,rfl⟩

end Sample

end Custody
