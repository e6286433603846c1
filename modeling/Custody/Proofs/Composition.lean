import Custody.Command.Execute

-- Coordinators and commands are written for any transport. A property of computations that is kept
-- when they are put together holds of all that they do, as soon as it holds of the calls that they
-- make.

namespace Custody

variable {m : Type → Type} [Monad m] {Approver Listener : Type}

structure Composes (holds : ∀ ⦃α : Type⦄, m α → Prop) : Prop where
  pure {α : Type} (result : α) : holds (pure result)
  bind {α β : Type} {first : m α} {rest : α → m β} (began : holds first)
    (onwards : ∀ result, holds (rest result)) : holds (first >>= rest)

-- What goes on one way if it was granted, and another way if it was refused.
theorem Composes.either {holds : ∀ ⦃α : Type⦄, m α → Prop} (composes : Composes holds)
    {first : m (Except ε α)} {rest : Except ε α → m β} (began : holds first)
    (granted : ∀ value, holds (rest (.ok value)))
    (refused : ∀ cause, holds (rest (.error cause))) : holds (first >>= rest) := by
  refine composes.bind began fun result => ?_
  cases result with
  | ok value => exact granted value
  | error cause => exact refused cause

-- What holds of every call that is given neither an approver nor a listener nor a key store.
structure Transport.Each (transport : Transport m Approver Listener)
    (holds : ∀ ⦃α : Type⦄, m α → Prop) : Prop where
  listApplications : holds transport.listApplications
  getApplication (id : ApplicationId) : holds (transport.getApplication id)
  claim (app : Application) (identity : Identity) : holds (transport.claim app identity)
  installMembership (app : Application) (guild : Guild) :
    holds (transport.installMembership app guild)
  installPolicy (app : Application) (policy : Policy) : holds (transport.installPolicy app policy)
  updateIdentity (identity : Identity) : holds (transport.updateIdentity identity)
  getGuild (guid : Guid) : holds (transport.getGuild guid)
  createGuild (guild : Guild) : holds (transport.createGuild guild)
  getIdentity (guid : Guid) : holds (transport.getIdentity guid)
  createIdentity (identity : Identity) : holds (transport.createIdentity identity)

namespace Coordinator

-- What setting a coordinator up goes on to once the key store is open.
def establish (transport : Transport m Approver Listener) (listener : Listener)
    (approver : Approver) (userName : String) : m (Except Failure Coordinator) := do
  transport.setApprover approver
  transport.addListener listener
  match ← resolveGuild transport with
  | .error failure => pure (.error failure)
  | .ok guild =>
    match ← resolveIdentity transport userName with
    | .error failure => pure (.error failure)
    | .ok identity => pure (.ok ⟨guild,identity,identity.name⟩)

theorem create_establish (transport : Transport m Approver Listener)
    (setup : Setup Approver Listener) :
    create transport setup = (match checked setup with
      | .error failure => pure (.error failure)
      | .ok (listener,approver) => do
        match ← openStore transport setup.keyStore with
        | .error failure => pure (.error failure)
        | .ok () => establish transport listener approver setup.userName) := rfl

section

variable {transport : Transport m Approver Listener} {holds : ∀ ⦃α : Type⦄, m α → Prop}
  (composes : Composes holds) (each : transport.Each holds)

include composes

theorem openStore_composes (opens : ∀ store, holds (transport.openKeyStore store))
    (store : Option KeyStore) : holds (openStore transport store) := by
  cases store with
  | none => exact composes.pure _
  | some store =>
    exact composes.either (opens store) (fun _ => composes.pure _) fun _ => composes.pure _

include each

theorem resolveGuild_composes : holds (resolveGuild transport) := by
  refine composes.either (each.getGuild _) (fun _ => composes.pure _) fun refusal => ?_
  dsimp only
  split
  · exact composes.either (each.createGuild _) (fun _ => composes.pure _) fun _ =>
      composes.pure _
  · exact composes.pure _

theorem resolveIdentity_composes (userName : String) :
    holds (resolveIdentity transport userName) := by
  refine composes.either (each.getIdentity _) (fun _ => composes.pure _) fun refusal => ?_
  dsimp only
  split
  · exact composes.either (each.createIdentity _) (fun _ => composes.pure _) fun _ =>
      composes.pure _
  · exact composes.pure _

theorem establish_composes {approver : Approver} {listener : Listener}
    (appoints : holds (transport.setApprover approver))
    (listens : holds (transport.addListener listener)) (userName : String) :
    holds (establish transport listener approver userName) := by
  refine composes.bind appoints fun _ => composes.bind listens fun _ => ?_
  refine composes.either (resolveGuild_composes composes each) (fun guild => ?_) fun _ =>
    composes.pure _
  exact composes.either (resolveIdentity_composes composes each userName)
    (fun _ => composes.pure _) fun _ => composes.pure _

theorem create_composes (opens : ∀ store, holds (transport.openKeyStore store))
    (appoints : ∀ approver, holds (transport.setApprover approver))
    (listens : ∀ listener, holds (transport.addListener listener))
    (setup : Setup Approver Listener) : holds (create transport setup) := by
  rw [create_establish]
  split
  · exact composes.pure _
  · exact composes.either (openStore_composes composes opens _)
      (fun _ => establish_composes composes each (appoints _) (listens _) _) fun _ =>
      composes.pure _

theorem applications_composes : holds (applications transport) :=
  composes.either each.listApplications (fun _ => composes.pure _) fun _ => composes.pure _

theorem applicationsIn_composes (state : ClaimState) : holds (applicationsIn transport state) :=
  composes.bind (applications_composes composes each) fun _ => composes.pure _

theorem application_composes (id : ApplicationId) : holds (application transport id) :=
  composes.either (each.getApplication id) (fun _ => composes.pure _) fun _ => composes.pure _

theorem claim_composes (coordinator : Coordinator) (app : Application) :
    holds (coordinator.claim transport app) := by
  refine composes.either (each.claim app coordinator.identity) (fun _ => ?_) fun _ =>
    composes.pure _
  refine composes.either (each.installMembership app coordinator.guild) (fun _ => ?_) fun _ =>
    composes.pure _
  exact composes.either (each.installPolicy app _) (fun _ => composes.pure _) fun _ =>
    composes.pure _

theorem rename_composes (coordinator : Coordinator) (name : String) :
    holds (coordinator.rename transport name) := by
  unfold rename
  split
  · exact composes.pure _
  · split
    · exact composes.pure _
    · exact composes.either (each.updateIdentity _) (fun _ => composes.pure _) fun _ =>
        composes.pure _

end

end Coordinator

namespace Command

variable {transport : Transport m Approver Listener} {holds : ∀ ⦃α : Type⦄, m α → Prop}
  (composes : Composes holds) (each : transport.Each holds)

include composes each

theorem claimEach_composes (coordinator : Coordinator) (apps : List Application) :
    holds (claimEach transport coordinator apps) := by
  induction apps with
  | nil => exact composes.pure _
  | cons app rest ih =>
    refine composes.bind (coordinator.claim_composes composes each app) fun _ => ?_
    exact composes.bind ih fun _ => composes.pure _

-- One command looks at a registry, which is no call.
theorem execute_composes {onRegistry : (Registry → String × Registry) → m String}
    (command : Command) (reads : command = .registry → ∀ act, holds (onRegistry act))
    (coordinator : Coordinator) : holds (command.execute transport onRegistry coordinator) := by
  cases command with
  | list state json =>
    cases state with
    | none =>
      exact composes.bind (Coordinator.applications_composes composes each) fun _ =>
        composes.pure _
    | some state =>
      exact composes.bind (Coordinator.applicationsIn_composes composes each state) fun _ =>
        composes.pure _
  | claim target =>
    refine composes.either (Coordinator.application_composes composes each target) (fun app => ?_)
      fun _ => composes.pure _
    exact composes.either (coordinator.claim_composes composes each app) (fun _ => composes.pure _)
      fun _ => composes.pure _
  | claimAll =>
    refine composes.bind (Coordinator.applicationsIn_composes composes each .claimable)
      fun apps => ?_
    split
    · exact composes.pure _
    · exact composes.bind (claimEach_composes composes each coordinator apps) fun _ =>
        composes.pure _
  | whoami => exact composes.pure _
  | rename name =>
    refine composes.bind (coordinator.rename_composes composes each name) fun renamed => ?_
    obtain ⟨result,renamed⟩ := renamed
    cases result with
    | ok | error => exact composes.pure _
  | registry => exact composes.bind (reads rfl _) fun _ => composes.pure _

end Command

end Custody
