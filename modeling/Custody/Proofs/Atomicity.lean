import Custody.Proofs.Integrity
import Custody.Proofs.Verdict

-- What is left of an operation that fails. The fleet writes down every call, whether it grants it
-- or not; and of one that it does not grant, nothing else is left. This is so even of a claim that
-- is rejected, though its record has been marked by then and all listeners have been told so.

namespace Custody

-- The call of the fleet that an operation is. The others look at a site or prepare it.
def Operation.call? : Operation → Option Call
  | .listApplications => some .listApplications
  | .getApplication _ => some .getApplication
  | .claim _ _ => some .claim
  | .installMembership _ _ => some .installMembership
  | .installPolicy _ _ => some .installPolicy
  | .updateIdentity _ => some .updateIdentity
  | .getGuild _ => some .getGuild
  | .createGuild _ => some .createGuild
  | .getIdentity _ => some .getIdentity
  | .createIdentity _ => some .createIdentity
  | .openKeyStore _ => some .openKeyStore
  | _ => none

-- What comes of an operation that is a call. One that is set to fail tells nobody of anything.
structure Site.Atomic (site : Site) (call : Call) (outcome : Outcome) (after : Site) : Prop where
  logged : after.fleet.calls = site.fleet.calls ++ [call]
  refused : ∀ refusal, outcome = .refused refusal →
    after.fleet = site.fleet.received call ∧ after.callbacks = site.callbacks
  faulty : ∀ fault, site.fleet.faults call = some fault →
    outcome = .refused fault ∧ after = { site with fleet := site.fleet.received call }

-- What the fleet does with a call that is not set to fail: it does not write it down once more, and
-- it does nothing else either, unless it grants it.
structure Fleet.Careful (body : Fleet → Except Refusal α × Fleet) : Prop where
  calls : ∀ fleet, (body fleet).2.calls = fleet.calls
  granted : ∀ fleet, (body fleet).2 = fleet ∨ ∃ value, (body fleet).1 = .ok value

namespace Site

variable {site : Site} {call : Call}

theorem call_atomic {body : Fleet → Except Refusal α × Fleet} {granted : α → Outcome}
    (careful : Fleet.Careful body) (grants : ∀ value refusal, granted value ≠ .refused refusal) :
    Course.Ends (do return .ofResult granted (← Course.call fun fleet => fleet.answer call body))
      site (site.Atomic call) := by
  refine ⟨_,_,rfl,?_⟩
  change site.Atomic call (.ofResult granted (site.fleet.answer call body).1)
    { site with fleet := (site.fleet.answer call body).2 }
  rcases site.fleet.answer_cases call body with ⟨fault,set,refused⟩ | ⟨clear,answered⟩
  · rw [refused]
    refine ⟨rfl,fun _ _ => ⟨rfl,rfl⟩,fun other same => ?_⟩
    cases set.symm.trans same
    exact ⟨rfl,rfl⟩
  · rw [answered]
    refine ⟨careful.calls _,fun refusal failed => ⟨?_,rfl⟩,fun fault set => ?_⟩
    · rcases careful.granted (site.fleet.received call) with same | ⟨value,granting⟩
      · exact same
      · rw [granting] at failed
        exact absurd failed (grants value refusal)
    · cases clear.symm.trans set

-- Nobody owns what is claimable, so a claim that is rejected gives back the record that it took.
theorem claim_atomic (quiet : site.Quiet) (sound : site.fleet.Sound) (depth : Nat)
    (app : Application) (identity : Identity) :
    ((Operation.claim app identity).perform (depth+1)).Ends site (site.Atomic .claim) := by
  apply (claimWithin_judged quiet depth app identity).bind
  intro result after judged
  have logged := judged.logged
  have callbacks := judged.callbacks
  refine Course.ends_pure ⟨logged,fun refusal failed => ⟨?_,callbacks⟩,fun fault set => ?_⟩
  · cases judged with
    | refused => rfl
    | @decided record _ approved _ _ found free _ _ settled =>
      cases approved with
      | true => cases failed
      | false =>
        have unowned := (sound.records _ _ found).unowned free
        rw [settled,Record.marked_rejected free unowned,Keyed.insert_found _ found]
        rfl
  · cases judged with
    | refused refuses =>
      cases refuses.injected set
      exact ⟨rfl,rfl⟩
    | decided clear => cases clear.symm.trans set

theorem perform_atomic {operation : Operation} (quiet : site.Quiet) (sound : site.fleet.Sound)
    (made : operation.call? = some call) (depth : Nat) :
    (operation.perform (depth+1)).Ends site (site.Atomic call) := by
  cases operation with
  | claim app identity =>
    cases Option.some.inj made
    exact claim_atomic quiet sound depth app identity
  | listApplications =>
    cases Option.some.inj made
    exact call_atomic ⟨fun _ => rfl,fun _ => .inl rfl⟩ nofun
  | getApplication | getGuild | getIdentity =>
    cases Option.some.inj made
    exact call_atomic ⟨fun _ => by split <;> rfl,fun _ => .inl (by split <;> rfl)⟩ nofun
  | createGuild | createIdentity =>
    cases Option.some.inj made
    refine call_atomic ⟨fun _ => by split <;> rfl,fun _ => ?_⟩ nofun
    split
    · exact .inl rfl
    · exact .inr ⟨_,rfl⟩
  | updateIdentity identity =>
    cases Option.some.inj made
    refine call_atomic ⟨fun _ => by split <;> rfl,fun _ => ?_⟩ nofun
    split
    · exact .inr ⟨_,rfl⟩
    · exact .inl rfl
  | openKeyStore store =>
    cases Option.some.inj made
    exact call_atomic ⟨fun _ => rfl,fun _ => .inr ⟨_,rfl⟩⟩ nofun
  | installPolicy app policy =>
    cases Option.some.inj made
    refine call_atomic ⟨fun _ => by split <;> rfl,fun _ => ?_⟩ nofun
    split
    · exact .inl rfl
    · exact .inr ⟨_,rfl⟩
  | installMembership app guild =>
    cases Option.some.inj made
    refine call_atomic ⟨fun _ => ?_,fun _ => ?_⟩ nofun
    · split
      · split <;> rfl
      · rfl
    · split
      · split
        · exact .inl rfl
        · exact .inr ⟨_,rfl⟩
      · exact .inl rfl
  | _ => cases made

end Site

-- In every run, also while claims wait: an operation that is a call comes to a result, and if it
-- fails, the fleet is as it was, but for the one call that it has written down.
theorem Scene.failure_atomic (run : Run {} deeds s) (quiet : s.site.Quiet) {operation : Operation}
    (made : operation.call? = some call) (depth : Nat) :
    (operation.perform (depth+1)).Ends s.site (s.site.Atomic call) :=
  Site.perform_atomic quiet (run_sound run) made depth

namespace Sample

-- The lamp is announced, and nobody may claim it. What goes on is taken down.
def withheld : List Errand :=
  [.ask (.createIdentity alice),.ask (.setApprover (asking [] false)),
    .ask (.addListener (.recorder "log")),.ask (.announce lamp ⟨[0]⟩)]

-- Listeners are told that the lamp is being claimed and that it is claimable again, and the fleet
-- is as if nothing had been done.
theorem rejection_atomic :
    ∃ deeds s after, Scene.Run {} deeds s ∧ s.site.Quiet ∧ (s.site.sightings "log").length = 1 ∧
      (Operation.claim lamp alice).perform 1 s.site =
        some (.refused (.manifestRejected lamp.id),after) ∧
      (after.sightings "log").length = 3 ∧ after.fleet = s.site.fleet.received .claim := by
  obtain ⟨past,run⟩ := staged_run {} withheld []
  have quiet : ((staged {} withheld).2.scene past).site.Quiet := by
    rintro _ ⟨⟩ app manifest
    trivial
  have rejected : ((Operation.claim lamp alice).perform 1 (staged {} withheld).2.site).any
      (fun ended => ended.1 = .refused (.manifestRejected lamp.id) ∧
        (ended.2.sightings "log").length = 3) = true := by
    decide +kernel
  have made : (Operation.claim lamp alice).call? = some .claim := rfl
  obtain ⟨⟨outcome,after⟩,ran,facts⟩ := (Option.any_eq_true _ _).mp rejected
  obtain ⟨same,told⟩ := of_decide_eq_true facts
  cases same
  have atomic := (Scene.failure_atomic run quiet made 0).only ran
  exact ⟨_,_,after,run,quiet,rfl,ran,told,(atomic.refused _ rfl).1⟩

end Sample

end Custody
