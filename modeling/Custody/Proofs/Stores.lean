import Custody.Proofs.Frames
import Custody.Proofs.Moment

-- What moves do to the guilds and the identities that a site stores. Something is stored by being
-- created, which happens once to an identifier; after that only an identity can be replaced, by one
-- that has the same identifier; and nothing is ever taken away.

namespace Custody

variable {ν : Type} {guid : ν → Guid} {key : Guid} {id : ApplicationId}

-- The guild that a move creates, the identity that it creates, and the one that it replaces.
def Move.founds : Move → Option Guild
  | .performed (.createGuild guild) .done => some guild
  | _ => none

def Move.admits : Move → Option Identity
  | .performed (.createIdentity identity) .done => some identity
  | _ => none

def Move.revises : Move → Option Identity
  | .performed (.updateIdentity identity) .done => some identity
  | _ => none

-- What becomes of a store in one move that may create something there, or replace something.
inductive Stored (guid : ν → Guid) (before : Keyed Guid ν) :
    Option ν → Option ν → Keyed Guid ν → Prop where
  | kept (same : after = before) : Stored guid before none none after
  | created (absent : before.find? (guid value) = none)
      (put : after = before.insert (guid value) value) :
      Stored guid before (some value) none after
  | replaced (present : (before.find? (guid value)).isSome)
      (put : after = before.insert (guid value) value) :
      Stored guid before none (some value) after

-- Everything that is stored stands under its own identifier.
def Filed (guid : ν → Guid) (store : Keyed Guid ν) : Prop :=
  ∀ key value, store.find? key = some value → guid value = key

theorem Stored.filed (stored : Stored guid before made revised after)
    (filed : Filed guid before) : Filed guid after := by
  have inserted (value : ν) : Filed guid (before.insert (guid value) value) := by
    intro key other found
    rw [Keyed.find?_insert_if] at found
    split at found
    · rename_i same
      cases found
      exact same.symm
    · exact filed key other found
  cases stored with
  | kept same => rw [same]; exact filed
  | created _ put | replaced _ put => rw [put]; exact inserted _

-- What is not replaced stays.
theorem Stored.stays (stored : Stored guid before made none after)
    (found : before.find? key = some value) : after.find? key = some value := by
  cases stored with
  | kept same => rw [same]; exact found
  | created absent put =>
    rename_i new
    have apart : key ≠ guid new := by
      rintro rfl
      rw [absent] at found
      cases found
    rw [put,Keyed.find?_insert_other _ _ _ _ apart]
    exact found

-- An identifier is stored if and only if it was, or this move creates it; never both.
theorem Stored.counts (stored : Stored guid before made revised after) (key : Guid) :
    (after.find? key).isSome.toNat =
      (before.find? key).isSome.toNat + (made.any (guid · = key)).toNat := by
  cases stored with
  | kept same => simp [same]
  | created absent put =>
    rename_i value
    rw [put,Keyed.find?_insert_if]
    by_cases same : key = guid value
    · subst same
      simp [absent]
    · simp [same,Ne.symm same]
  | replaced present put =>
    rename_i value
    rw [put,Keyed.find?_insert_if]
    by_cases same : key = guid value
    · subst same
      simp [present]
    · simp [same]

namespace Fleet

-- Both stores.
def principals (fleet : Fleet) : Keyed Guid Guild × Keyed Guid Identity :=
  (fleet.guilds,fleet.identities)

theorem answer_principals {body : Fleet → Except Refusal α × Fleet}
    (keeps : ∀ fleet, (body fleet).2.principals = fleet.principals) (fleet : Fleet) (call : Call) :
    (fleet.answer call body).2.principals = fleet.principals := by
  rcases fleet.answer_cases call body with ⟨_,_,refused⟩ | ⟨_,answered⟩
  · rw [refused]; rfl
  · rw [answered]; exact keeps _

theorem getGuild_spec (fleet : Fleet) (guid : Guid) :
    (∃ guild, fleet.guilds.find? guid = some guild ∧
      fleet.getGuild guid = (.ok guild,fleet.received .getGuild)) ∨
    ∃ refusal, fleet.getGuild guid = (.error refusal,fleet.received .getGuild) ∧
      ((fleet.faults .getGuild).isSome ∨
        fleet.guilds.find? guid = none ∧ refusal.isNotFound) := by
  unfold getGuild
  rcases fleet.answer_cases .getGuild _ with ⟨fault,faulty,refused⟩ | ⟨_,answered⟩
  · exact .inr ⟨fault,refused,.inl (by rw [faulty]; rfl)⟩
  · rw [answered]
    cases known : fleet.guilds.find? guid with
    | some guild => exact .inl ⟨guild,rfl,by simp [received,known]⟩
    | none => exact .inr ⟨.notFound "guild" guid,by simp [received,known],.inr ⟨rfl,rfl⟩⟩

theorem getIdentity_spec (fleet : Fleet) (guid : Guid) :
    (∃ identity, fleet.identities.find? guid = some identity ∧
      fleet.getIdentity guid = (.ok identity,fleet.received .getIdentity)) ∨
    ∃ refusal, fleet.getIdentity guid = (.error refusal,fleet.received .getIdentity) ∧
      ((fleet.faults .getIdentity).isSome ∨
        fleet.identities.find? guid = none ∧ refusal.isNotFound) := by
  unfold getIdentity
  rcases fleet.answer_cases .getIdentity _ with ⟨fault,faulty,refused⟩ | ⟨_,answered⟩
  · exact .inr ⟨fault,refused,.inl (by rw [faulty]; rfl)⟩
  · rw [answered]
    cases known : fleet.identities.find? guid with
    | some identity => exact .inl ⟨identity,rfl,by simp [received,known]⟩
    | none => exact .inr ⟨.notFound "identity" guid,by simp [received,known],.inr ⟨rfl,rfl⟩⟩

theorem createGuild_spec (fleet : Fleet) (guild : Guild) :
    (fleet.guilds.find? guild.guid = none ∧ fleet.createGuild guild =
      (.ok (),{ fleet.received .createGuild with
        guilds := fleet.guilds.insert guild.guid guild })) ∨
    ∃ refusal, fleet.createGuild guild = (.error refusal,fleet.received .createGuild) ∧
      ((fleet.faults .createGuild).isSome ∨ (fleet.guilds.find? guild.guid).isSome) := by
  unfold createGuild
  rcases fleet.answer_cases .createGuild _ with ⟨fault,faulty,refused⟩ | ⟨_,answered⟩
  · exact .inr ⟨fault,refused,.inl (by rw [faulty]; rfl)⟩
  · rw [answered]
    cases known : fleet.guilds.find? guild.guid with
    | none => exact .inl ⟨rfl,by simp [received,Keyed.contains,known]⟩
    | some old =>
      exact .inr ⟨.alreadyExists "guild" guild.guid,
        by simp [received,Keyed.contains,known],.inr rfl⟩

theorem createIdentity_spec (fleet : Fleet) (identity : Identity) :
    (fleet.identities.find? identity.guid = none ∧ fleet.createIdentity identity =
      (.ok (),{ fleet.received .createIdentity with
        identities := fleet.identities.insert identity.guid identity })) ∨
    ∃ refusal,
      fleet.createIdentity identity = (.error refusal,fleet.received .createIdentity) ∧
      ((fleet.faults .createIdentity).isSome ∨
        (fleet.identities.find? identity.guid).isSome) := by
  unfold createIdentity
  rcases fleet.answer_cases .createIdentity _ with ⟨fault,faulty,refused⟩ | ⟨_,answered⟩
  · exact .inr ⟨fault,refused,.inl (by rw [faulty]; rfl)⟩
  · rw [answered]
    cases known : fleet.identities.find? identity.guid with
    | none => exact .inl ⟨rfl,by simp [received,Keyed.contains,known]⟩
    | some old =>
      exact .inr ⟨.alreadyExists "identity" identity.guid,
        by simp [received,Keyed.contains,known],.inr rfl⟩

theorem updateIdentity_spec (fleet : Fleet) (identity : Identity) :
    ((fleet.identities.find? identity.guid).isSome ∧ fleet.updateIdentity identity =
      (.ok (),{ fleet.received .updateIdentity with
        identities := fleet.identities.insert identity.guid identity })) ∨
    ∃ refusal,
      fleet.updateIdentity identity = (.error refusal,fleet.received .updateIdentity) := by
  unfold updateIdentity
  rcases fleet.answer_cases .updateIdentity _ with ⟨fault,_,refused⟩ | ⟨_,answered⟩
  · exact .inr ⟨fault,refused⟩
  · rw [answered]
    cases known : fleet.identities.find? identity.guid with
    | some old => exact .inl ⟨rfl,by simp [received,Keyed.contains,known]⟩
    | none =>
      exact .inr ⟨.notFound "identity" identity.guid,by simp [received,Keyed.contains,known]⟩

theorem openKeyStore_spec (fleet : Fleet) (store : KeyStore) :
    fleet.openKeyStore store =
      (.ok (),{ fleet.received .openKeyStore with keyStore := some store }) ∨
    ∃ refusal, fleet.openKeyStore store = (.error refusal,fleet.received .openKeyStore) ∧
      (fleet.faults .openKeyStore).isSome := by
  unfold openKeyStore
  rcases fleet.answer_cases .openKeyStore _ with ⟨fault,faulty,refused⟩ | ⟨_,answered⟩
  · exact .inr ⟨fault,refused,by rw [faulty]; rfl⟩
  · exact .inl answered

theorem installMembership_principals (fleet : Fleet) (id : ApplicationId) (guild : Guid) :
    (fleet.installMembership id guild).2.principals = fleet.principals := by
  rcases fleet.installMembership_spec id guild with ⟨_,_,_,installed⟩ | ⟨_,refused⟩
  · rw [installed]; rfl
  · rw [refused]; rfl

theorem installPolicy_principals (fleet : Fleet) (id : ApplicationId) (policy : Policy) :
    (fleet.installPolicy id policy).2.principals = fleet.principals := by
  rcases fleet.installPolicy_spec id policy with ⟨_,_,_,installed⟩ | ⟨_,refused⟩
  · rw [installed]; rfl
  · rw [refused]; rfl

theorem change_principals {fleet after : Fleet} {edit : Record → Record}
    (changed : fleet.change id edit = some (event,after)) :
    after.principals = fleet.principals := by
  obtain ⟨record,_,same⟩ := Option.map_eq_some_iff.mp changed
  cases same
  rfl

theorem beginClaim_principals {Approver : Type} (fleet : Fleet) (id : ApplicationId)
    (claimant : Guid) (approver : Option Approver) :
    (fleet.beginClaim id claimant approver).2.principals = fleet.principals := by
  apply answer_principals
  intro fleet
  split
  · split
    · rfl
    · split
      · split <;> rfl
      · rfl
  · rfl

end Fleet

namespace Site

theorem after_principals (site : Site) (id : ApplicationId) (edit : Record → Record) :
    (site.after (site.fleet.change id edit)).fleet.principals = site.fleet.principals := by
  rw [after_fleet]
  cases changed : site.fleet.change id edit with
  | none => rfl
  | some change => exact Fleet.change_principals changed

theorem beginClaim_principals (site : Site) (id : ApplicationId) (claimant : Guid) :
    (site.beginClaim id claimant).2.fleet.principals = site.fleet.principals := by
  have marked := site.fleet.beginClaim_principals id claimant site.approver
  unfold beginClaim
  split
  · rename_i refused
    rw [refused] at marked
    exact marked
  · rename_i begun
    rw [begun] at marked
    rw [deliver_fleet]
    exact marked

end Site

namespace Moment

-- What one move does to both stores.
structure Stores (before : Fleet) (move : Move) (after : Fleet) : Prop where
  guilds : Stored Guild.guid before.guilds move.founds none after.guilds
  identities : Stored Identity.guid before.identities move.admits move.revises after.identities

theorem stores_kept {before after : Fleet} {move : Move}
    (same : after.principals = before.principals) (founds : move.founds = none)
    (admits : move.admits = none) (revises : move.revises = none) : Stores before move after := by
  constructor
  · rw [founds]
    exact .kept (congrArg Prod.fst same)
  · rw [admits,revises]
    exact .kept (congrArg Prod.snd same)

-- What an operation comes to that is one call of the fleet.
theorem called {site after : Site} {act : Fleet → Except Refusal α × Fleet}
    {granted : α → Outcome} {outcome : Outcome}
    (ran : (do return .ofResult granted (← Course.call act) : Course Outcome) site =
      some (outcome,after)) :
    outcome = .ofResult granted (act site.fleet).1 ∧ after.fleet = (act site.fleet).2 := by
  obtain ⟨result,middle,began,returned⟩ := Course.ran_bind ran
  obtain ⟨fleet,answered,rfl⟩ := Course.ran_call began
  cases Option.some.inj returned
  rw [answered]
  exact ⟨rfl,rfl⟩

theorem perform_stores {site after : Site} {operation : Operation} {outcome : Outcome}
    (ran : operation.perform 0 site = some (outcome,after)) :
    Stores site.fleet (.performed operation outcome) after.fleet := by
  cases operation with
  | createGuild guild =>
    obtain ⟨rfl,fleet⟩ := called ran
    rw [fleet]
    rcases site.fleet.createGuild_spec guild with ⟨absent,created⟩ | ⟨refusal,refused,_⟩
    · rw [created]
      exact ⟨.created absent rfl,.kept rfl⟩
    · rw [refused]
      exact stores_kept rfl rfl rfl rfl
  | createIdentity identity =>
    obtain ⟨rfl,fleet⟩ := called ran
    rw [fleet]
    rcases site.fleet.createIdentity_spec identity with ⟨absent,created⟩ | ⟨refusal,refused,_⟩
    · rw [created]
      exact ⟨.kept rfl,.created absent rfl⟩
    · rw [refused]
      exact stores_kept rfl rfl rfl rfl
  | updateIdentity identity =>
    obtain ⟨rfl,fleet⟩ := called ran
    rw [fleet]
    rcases site.fleet.updateIdentity_spec identity with ⟨present,updated⟩ | ⟨refusal,refused⟩
    · rw [updated]
      exact ⟨.kept rfl,.replaced present rfl⟩
    · rw [refused]
      exact stores_kept rfl rfl rfl rfl
  | claim app identity =>
    obtain ⟨refusal,rfl,refused⟩ := perform_claim ran
    have same := site.beginClaim_principals app.id identity.guid
    rw [refused] at same
    exact stores_kept same rfl rfl rfl
  | announce app manifest =>
    cases Option.some.inj ran
    have told := congrArg Fleet.principals
      (site.after_fleet (some (site.fleet.announce app manifest)))
    exact stores_kept told rfl rfl rfl
  | setRunning id state =>
    cases Option.some.inj ran
    exact stores_kept (site.after_principals id _) rfl rfl rfl
  | addListener listener =>
    cases Option.some.inj ran
    exact stores_kept (congrArg Fleet.principals (site.naming_fleet listener)) rfl rfl rfl
  | installMembership app guild =>
    obtain ⟨rfl,fleet⟩ := called ran
    exact stores_kept (fleet ▸ site.fleet.installMembership_principals _ _) rfl rfl rfl
  | installPolicy app policy =>
    obtain ⟨rfl,fleet⟩ := called ran
    exact stores_kept (fleet ▸ site.fleet.installPolicy_principals _ _) rfl rfl rfl
  | listApplications | getApplication | getGuild | getIdentity | openKeyStore =>
    obtain ⟨rfl,fleet⟩ := called ran
    refine stores_kept ?_ rfl rfl rfl
    rw [fleet]
    exact Fleet.answer_principals (fun _ => by first | rfl | (split <;> rfl)) _ _
  | record | guilds | identities | keyStore | setFault | clearFault | calls | clearCalls
  | setApprover =>
    cases Option.some.inj ran
    exact stores_kept rfl rfl rfl rfl

theorem step_stores (step : Step m move next) : Stores m.site.fleet move next.site.fleet := by
  cases step with
  | perform asked ran => exact perform_stores ran
  | begin asked begun claim same =>
    rename_i app identity shown after
    have same := m.site.beginClaim_principals app.id identity.guid
    rw [begun] at same
    exact stores_kept same rfl rfl rfl
  | note waits => exact stores_kept rfl rfl rfl rfl
  | decide waits ended =>
    refine stores_kept ?_ rfl rfl rfl
    rw [Site.endClaim_after ended]
    exact m.site.after_principals _ _

end Moment

end Custody
