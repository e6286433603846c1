import Mathlib.Data.List.Nodup
import Custody.Proofs.Integrity

-- Claims by coordinators that come to a good end. Their approvers may have done anything before
-- they answered, and may have announced the application anew: what counts is that each of the three
-- steps finds the record as the one before it has left it, and that nothing is enrolled twice.

namespace Custody

-- A record with which a coordinator has gone all the way.
structure Record.Completed (record : Record) (coordinator : Coordinator) : Prop where
  claimed : record.app.claimState = .claimed
  owner : record.owner = some coordinator.identity.guid
  member : record.memberships.count coordinator.guild.guid = 1
  policy : record.policy = some (.forGuilds [coordinator.guild])

-- The last thing that a claim does is to settle what the record has become meanwhile.
theorem claimWithin_granted {depth : Nat} {app : Application} {identity : Identity}
    {site after : Site} (ran : Site.claimWithin depth app identity site = some (.ok (),after))
    (found : after.fleet.records.find? app.id = some record) :
    record.app.claimState = .claimed ∧ record.owner = some identity.guid := by
  unfold Site.claimWithin at ran
  split at ran
  · cases ran
  · cases depth with
    | zero => cases ran
    | succ depth =>
      obtain ⟨⟨approved,decided⟩,_,ended⟩ := Option.bind_eq_some_iff.mp ran
      have settled := (Site.endClaim_spec _ _ _ _).symm.trans (Option.some.inj ended)
      cases approved with
      | false => cases settled
      | true =>
        cases settled
        rw [Site.after_fleet] at found
        cases changed : decided.fleet.change app.id (·.settled identity.guid true) with
        | none =>
          rw [changed] at found
          cases found.symm.trans (Option.map_eq_none_iff.mp changed)
        | some change =>
          obtain ⟨old,_,_,records⟩ := Fleet.find?_change changed
          rw [changed,Option.map_some,Option.getD_some,records,Keyed.find?_insert_self] at found
          cases found
          exact ⟨rfl,rfl⟩

theorem mem_joined (guild : Guid) (memberships : List Guid) :
    guild ∈ if memberships.contains guild then memberships else memberships ++ [guild] := by
  split
  · rename_i member
    exact List.contains_iff_mem.mp member
  · simp

namespace Scene

-- In every run, of every coordinator and with every approver: if a claim comes to a good end, the
-- application belongs to the coordinator, is a member of its guild just once, and is governed by
-- the policy for that guild.
theorem claim_completes {coordinator : Coordinator} {app : Application} {depth : Nat} {after : Site}
    (run : Run {} deeds s)
    (ran : coordinator.claim (Site.transport depth) app s.site = some (.ok (),after)) :
    ∃ record, after.fleet.records.find? app.id = some record ∧ record.Completed coordinator := by
  have sound := (coordinator.claim_moves depth app).sound (run_sound run) ran
  obtain ⟨claimed,owned,claiming,rest⟩ := Course.ran_bind ran
  cases claimed with
  | error refusal => cases Option.some.inj rest
  | ok =>
    obtain ⟨enrolled,_,enrolling,rest⟩ := Course.ran_bind rest
    obtain ⟨fleet,called,rfl⟩ := Course.ran_call enrolling
    rcases owned.fleet.installMembership_spec app.id coordinator.guild.guid with
      ⟨record,found,_,installed⟩ | ⟨refusal,refused⟩
    · cases called.symm.trans installed
      obtain ⟨state,owner⟩ := claimWithin_granted claiming found
      obtain ⟨governed,_,governing,rest⟩ := Course.ran_bind rest
      obtain ⟨fleet,called,rfl⟩ := Course.ran_call governing
      rcases Fleet.installPolicy_spec _ app.id (.forGuilds [coordinator.guild]) with
        ⟨joined,known,_,installed⟩ | ⟨refusal,refused⟩
      · cases called.symm.trans installed
        cases Option.some.inj rest
        -- What the policy is installed in is what the guild has just been put into.
        cases known.symm.trans (Keyed.find?_insert_self _ _ _)
        refine ⟨_,Keyed.find?_insert_self _ _ _,state,owner,?_,rfl⟩
        have once := (sound.records _ _ (Keyed.find?_insert_self _ _ _)).once
        exact List.count_eq_one_of_mem once (mem_joined _ _)
      · cases called.symm.trans refused
        cases Option.some.inj rest
    · cases called.symm.trans refused
      cases Option.some.inj rest

end Scene

namespace Sample

-- Asked about a claim, this approver sees to it that another one is asked from then on, claims the
-- fan and enrols it, breaks the installing of policies and repairs it, and announces the lamp anew.
def restless : Setup Approver Listener :=
  ⟨"alice",some (.registry "main"),
    some (asking [.setApprover (asking [] true),.claim fan alice,
      .installMembership fan Guild.reserved,.setFault .installPolicy .noApprover,
      .clearFault .installPolicy,.announce lamp ⟨[1]⟩] true),none⟩

def unrest : List Errand :=
  [.setUp "steward" restless,.ask (.announce lamp ⟨[0]⟩),.ask (.announce fan ⟨[0]⟩)]

theorem lamp_completed :
    ∃ deeds s coordinator after record, Scene.Run {} deeds s ∧
      s.coordinators.find? "steward" = some coordinator ∧
      coordinator.claim (Site.transport 2) lamp s.site = some (.ok (),after) ∧
      (after.fleet.records.find? fan.id).any (·.owner = some alice.guid) ∧
      after.fleet.records.find? lamp.id = some record ∧ record.manifest = ⟨[1]⟩ ∧
      record.Completed coordinator := by
  obtain ⟨past,run⟩ := staged_run {} unrest []
  let steward : Coordinator := ⟨Guild.reserved,alice,"alice"⟩
  have kept : (staged {} unrest).2.coordinators.find? "steward" = some steward := by
    decide +kernel
  have claims : (steward.claim (Site.transport 2) lamp (staged {} unrest).2.site).any (fun ended =>
      ended.1 = .ok () ∧
      (ended.2.fleet.records.find? fan.id).any (·.owner = some alice.guid) ∧
      (ended.2.fleet.records.find? lamp.id).map (·.manifest) = some ⟨[1]⟩) = true := by
    decide +kernel
  obtain ⟨⟨result,after⟩,ran,facts⟩ := (Option.any_eq_true _ _).mp claims
  obtain ⟨granted,owned,shown⟩ := of_decide_eq_true facts
  cases granted
  obtain ⟨record,found,completed⟩ := Scene.claim_completes run ran
  rw [found] at shown
  exact ⟨_,_,steward,after,record,run,kept,ran,owned,found,Option.some.inj shown,completed⟩

end Sample

end Custody
