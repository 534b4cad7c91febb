import Startrail.Platform.Issuance

/-!
A run of the system is a run of each contract. Wherever the forwarder, the manager,
the registry or the bulk contract stands in the system, it stands in a run of its
own, in which unknown code answers its calls and comes back to it: what is proved
of all those runs holds in the system. Nothing is assumed of how the contracts know
each other; the registry alone calls in its own name.
-/

namespace Startrail.Platform

def managerPart : Component State LicensedUserManager.State :=
  ⟨State.manager, fun whole manager => { whole with manager }, fun _ _ => rfl⟩

section Parts

variable (deployment : Deployment) (origin : State)

abbrev ForwarderTracks : State → Prop :=
  InStep forwarderPart (MetaTxForwarder.entry (forwarderDeployment deployment)) (fun _ _ => True)
    origin.forwarder

abbrev ManagerTracks : State → Prop :=
  InStep managerPart (LicensedUserManager.entry (managerDeployment deployment)) (fun _ _ => True)
    origin.manager

abbrev RegistryTracks : State → Prop :=
  InStep registryPart (Registry.entry (registryDeployment deployment))
    (Registry.Legal (registryDeployment deployment)) origin.registry

abbrev BulkTracks : State → Prop :=
  InStep bulkPart (Bulk.entry deployment.evm) (fun _ _ => True) origin.bulk

abbrev ForwarderContinues : State → State → Prop :=
  Continues forwarderPart (MetaTxForwarder.entry (forwarderDeployment deployment))
    (fun _ _ => True) origin.forwarder

abbrev ManagerContinues : State → State → Prop :=
  Continues managerPart (LicensedUserManager.entry (managerDeployment deployment))
    (fun _ _ => True) origin.manager

abbrev RegistryContinues : State → State → Prop :=
  Continues registryPart (Registry.entry (registryDeployment deployment))
    (Registry.Legal (registryDeployment deployment)) origin.registry

abbrev BulkContinues : State → State → Prop :=
  Continues bulkPart (Bulk.entry deployment.evm) (fun _ _ => True) origin.bulk

/-- Each contract is where a run of its own leads. -/
structure InRuns (whole : State) : Prop where
  forwarder : ForwarderTracks deployment origin whole
  manager : ManagerTracks deployment origin whole
  registry : RegistryTracks deployment origin whole
  bulk : BulkTracks deployment origin whole

/-- Each contract got from one to the other in a run of its own. -/
structure RunOn (before after : State) : Prop where
  forwarder : ForwarderContinues deployment origin before after
  manager : ManagerContinues deployment origin before after
  registry : RegistryContinues deployment origin before after
  bulk : BulkContinues deployment origin before after

end Parts

section Projections

variable {deployment : Deployment} {origin whole : State}

theorem RunOn.refl (whole : State) : RunOn deployment origin whole whole :=
  ⟨.refl whole, .refl whole, .refl whole, .refl whole⟩

theorem RunOn.trans {first middle last : State} (before : RunOn deployment origin first middle)
    (after : RunOn deployment origin middle last) : RunOn deployment origin first last where
  forwarder := before.forwarder.trans after.forwarder
  manager := before.manager.trans after.manager
  registry := before.registry.trans after.registry
  bulk := before.bulk.trans after.bulk

theorem InRuns.on (inRuns : InRuns deployment origin whole) {later : State}
    (runOn : RunOn deployment origin whole later) : InRuns deployment origin later where
  forwarder := inRuns.forwarder.continues runOn.forwarder
  manager := inRuns.manager.continues runOn.manager
  registry := inRuns.registry.continues runOn.registry
  bulk := inRuns.bulk.continues runOn.bulk

abbrev Projects (deployment : Deployment) (origin : State) {A : Type} (code : Execution A)
    (Post : A → Prop) : Prop :=
  code.Obeys (InRuns deployment origin) (RunOn deployment origin) Post

theorem serveRegistry_projects (inRuns : InRuns deployment origin whole)
    (query : Registry.Query) :
    Projects deployment origin (serveRegistry deployment query whole) fun value =>
      InRuns deployment origin value.1 ∧ RunOn deployment origin whole value.1 := by
  unfold serveRegistry
  split
  · exact ⟨inRuns, .refl whole⟩
  · exact Outcome.Obeys.external inRuns

abbrev BesideRegistry (deployment : Deployment) (origin whole : State) : Prop :=
  ForwarderTracks deployment origin whole ∧ ManagerTracks deployment origin whole ∧
    BulkTracks deployment origin whole

abbrev OnBesideRegistry (deployment : Deployment) (origin before after : State) : Prop :=
  ForwarderContinues deployment origin before after ∧
    ManagerContinues deployment origin before after ∧ BulkContinues deployment origin before after

theorem inRuns_registry (whole : State) :
    BesideRegistry deployment origin whole ∧ RegistryTracks deployment origin whole ↔
      InRuns deployment origin whole :=
  ⟨fun inStep => ⟨inStep.1.1, inStep.1.2.1, inStep.2, inStep.1.2.2⟩,
    fun inRuns => ⟨⟨inRuns.forwarder, inRuns.manager, inRuns.bulk⟩, inRuns.registry⟩⟩

theorem runOn_registry (before after : State) :
    OnBesideRegistry deployment origin before after ∧
        RegistryContinues deployment origin before after ↔
      RunOn deployment origin before after :=
  ⟨fun continues => ⟨continues.1.1, continues.1.2.1, continues.2, continues.1.2.2⟩,
    fun runOn => ⟨⟨runOn.forwarder, runOn.manager, runOn.bulk⟩, runOn.registry⟩⟩

theorem registry_projects (inRuns : InRuns deployment origin whole)
    {transaction : Registry.Transaction} (legal : transaction.msg.sender ≠ deployment.registry) :
    Projects deployment origin ((Registry.entry (registryDeployment deployment) transaction
      whole.registry).plug registryPart (serveRegistry deployment) whole) fun value =>
        RunOn deployment origin whole { value.1 with registry := value.2 } := by
  obtain ⟨base, inStep⟩ := (inRuns_registry whole).mpr inRuns
  refine Outcome.Obeys.congr (Outcome.Obeys.enter_inStep ?_ ?_ ?_ ?_ base inStep legal)
    inRuns_registry (runOn_registry) fun value kept => (runOn_registry _ _).mp kept.2
  · exact fun whole => ⟨.refl whole, .refl whole, .refl whole⟩
  · rintro first middle last ⟨a, b, c⟩ ⟨a', b', c'⟩
    exact ⟨a.trans a', b.trans b', c.trans c'⟩
  · exact fun state base => ⟨base, .of_same rfl, .of_same rfl, .of_same rfl⟩
  · intro query whole base inStep
    have served := serveRegistry_projects ((inRuns_registry whole).mp ⟨base, inStep⟩) query
    exact served.congr (fun whole => (inRuns_registry whole).symm)
      (fun before after => (runOn_registry before after).symm) fun value kept =>
        ⟨(inRuns_registry _).mpr kept.1, (runOn_registry _ _).mpr kept.2⟩

theorem registry_ends (inRuns : InRuns deployment origin whole) {state : Registry.State}
    {transaction : Registry.Transaction} (legal : transaction.msg.sender ≠ deployment.registry)
    (done : Registry.entry (registryDeployment deployment) transaction whole.registry =
      .done state) :
    InRuns deployment origin { whole with registry := state } ∧
      RunOn deployment origin whole { whole with registry := state } := by
  have runOn : RunOn deployment origin whole { whole with registry := state } :=
    ⟨.of_same rfl, .of_same rfl, Continues.of_done legal done, .of_same rfl⟩
  exact ⟨inRuns.on runOn, runOn⟩

theorem registryFromBulk_projects (apart : deployment.bulk ≠ deployment.registry)
    (inRuns : InRuns deployment origin whole) (query : Bulk.Query) :
    Projects deployment origin (registryFromBulk deployment query whole) fun value =>
      InRuns deployment origin value.1 ∧ RunOn deployment origin whole value.1 := by
  cases query with
  | createSRRFromBulk target isPrimaryIssuer artistAddress metadataCID issuerAddress
      lockExternalTransfer to_ royaltyReceiver royaltyBasisPoints =>
      apply Outcome.Obeys.lift_bind
      rintro ⟨state, tokenId⟩ created
      refine @registry_ends _ _ _ inRuns _ ⟨worldOf deployment whole, 0,
        bulkMsg deployment (.createSRRFromBulk target isPrimaryIssuer artistAddress metadataCID
          issuerAddress lockExternalTransfer to_ royaltyReceiver royaltyBasisPoints),
        .createSRRFromBulk isPrimaryIssuer artistAddress metadataCID issuerAddress
          lockExternalTransfer to_ royaltyReceiver royaltyBasisPoints⟩ apart ?_
      simp only [Registry.entry, Registry.perform, Registry.execute, created]
      rfl
  | approveSRRByCommitmentFromBulk target signer tokenId commitment historyMetadataHash
      customHistoryId =>
      apply Outcome.Obeys.lift_bind
      intro state approved
      refine @registry_ends _ _ _ inRuns _ ⟨worldOf deployment whole, 0,
        bulkMsg deployment (.approveSRRByCommitmentFromBulk target signer tokenId commitment
          historyMetadataHash customHistoryId),
        .approveSRRByCommitmentFromBulk signer tokenId commitment historyMetadataHash
          customHistoryId⟩ apart ?_
      simp only [Registry.entry, Registry.perform, Registry.execute, approved]
      rfl
  | transferFromWithProvenanceFromBulk target signer to_ tokenId historyMetadataHash
      customHistoryId isIntermediary =>
      have projects := @registry_projects deployment origin whole inRuns
        ⟨worldOf deployment whole, 0, bulkMsg deployment (.transferFromWithProvenanceFromBulk target
          signer to_ tokenId historyMetadataHash customHistoryId isIntermediary),
          .transferFromWithProvenanceFromBulk signer to_ tokenId historyMetadataHash customHistoryId
            isIntermediary⟩ apart
      apply Outcome.Obeys.bind projects
      exact fun value runOn => ⟨inRuns.on runOn, runOn⟩

theorem serveBulk_projects (apart : deployment.bulk ≠ deployment.registry)
    (inRuns : InRuns deployment origin whole) (query : Bulk.Query) :
    Projects deployment origin (serveBulk deployment query whole) fun value =>
      InRuns deployment origin value.1 ∧ RunOn deployment origin whole value.1 := by
  have answered : Projects deployment origin (replyToBulk deployment query whole) fun value =>
      InRuns deployment origin value.1 ∧ RunOn deployment origin whole value.1 := by
    unfold replyToBulk
    split
    · exact (registryFromBulk_projects apart inRuns query).attempt fun _ => ⟨inRuns, .refl whole⟩
    · split
      · exact ⟨inRuns, .refl whole⟩
      · exact Outcome.Obeys.external inRuns
  exact Outcome.Obeys.bind answered fun value kept => kept

abbrev BesideBulk (deployment : Deployment) (origin whole : State) : Prop :=
  ForwarderTracks deployment origin whole ∧ ManagerTracks deployment origin whole ∧
    RegistryTracks deployment origin whole

abbrev OnBesideBulk (deployment : Deployment) (origin before after : State) : Prop :=
  ForwarderContinues deployment origin before after ∧
    ManagerContinues deployment origin before after ∧
    RegistryContinues deployment origin before after

theorem inRuns_bulk (whole : State) :
    BesideBulk deployment origin whole ∧ BulkTracks deployment origin whole ↔
      InRuns deployment origin whole :=
  ⟨fun inStep => ⟨inStep.1.1, inStep.1.2.1, inStep.1.2.2, inStep.2⟩,
    fun inRuns => ⟨⟨inRuns.forwarder, inRuns.manager, inRuns.registry⟩, inRuns.bulk⟩⟩

theorem runOn_bulk (before after : State) :
    OnBesideBulk deployment origin before after ∧ BulkContinues deployment origin before after ↔
      RunOn deployment origin before after :=
  ⟨fun continues => ⟨continues.1.1, continues.1.2.1, continues.1.2.2, continues.2⟩,
    fun runOn => ⟨⟨runOn.forwarder, runOn.manager, runOn.registry⟩, runOn.bulk⟩⟩

theorem bulk_projects (apart : deployment.bulk ≠ deployment.registry)
    (inRuns : InRuns deployment origin whole) (transaction : Bulk.Transaction) :
    Projects deployment origin ((Bulk.entry deployment.evm transaction whole.bulk).plug bulkPart
      (serveBulk deployment) whole) fun value =>
        RunOn deployment origin whole { value.1 with bulk := value.2 } := by
  obtain ⟨base, inStep⟩ := (inRuns_bulk whole).mpr inRuns
  refine Outcome.Obeys.congr (Outcome.Obeys.enter_inStep ?_ ?_ ?_ ?_ base inStep trivial)
    inRuns_bulk runOn_bulk fun value kept => (runOn_bulk _ _).mp kept.2
  · exact fun whole => ⟨.refl whole, .refl whole, .refl whole⟩
  · rintro first middle last ⟨a, b, c⟩ ⟨a', b', c'⟩
    exact ⟨a.trans a', b.trans b', c.trans c'⟩
  · exact fun state base => ⟨base, .of_same rfl, .of_same rfl, .of_same rfl⟩
  · intro query whole base inStep
    have served := serveBulk_projects apart ((inRuns_bulk whole).mp ⟨base, inStep⟩) query
    exact served.congr (fun whole => (inRuns_bulk whole).symm)
      (fun before after => (runOn_bulk before after).symm) fun value kept =>
        ⟨(inRuns_bulk _).mpr kept.1, (runOn_bulk _ _).mpr kept.2⟩

/-- Calls that are delivered by the forwarder or come from outside. -/
def DeliversParts (deployment : Deployment) (origin : State)
    (deliver : Msg → Call → State → Execution State) : Prop :=
  ∀ ⦃msg call whole⦄, InRuns deployment origin whole → msg.sender ≠ deployment.registry →
    Projects deployment origin (deliver msg call whole) fun later =>
      RunOn deployment origin whole later

section Deliveries

variable {behind : Nat → UInt8} {depth : Nat} {deliver : Msg → Call → State → Execution State}

theorem delivered_projects (apart : deployment.forwarder ≠ deployment.registry)
    (delivers : DeliversParts deployment origin deliver) (inRuns : InRuns deployment origin whole)
    (_to : Address) (_data : Bytes) :
    Projects deployment origin (delivered deployment deliver _to _data whole) fun value =>
      InRuns deployment origin value.1 ∧ RunOn deployment origin whole value.1 := by
  have same : InRuns deployment origin whole ∧ RunOn deployment origin whole whole :=
    ⟨inRuns, .refl whole⟩
  unfold delivered
  split
  · split
    · exact same
    · refine Outcome.Obeys.attempt (Outcome.Obeys.bind (delivers inRuns apart) ?_) ?_
      · exact fun later runOn => ⟨inRuns.on runOn, runOn⟩
      · exact fun _ => same
  · exact Outcome.Obeys.external inRuns

theorem serveForwarder_projects (apart : deployment.forwarder ≠ deployment.registry)
    (delivers : DeliversParts deployment origin deliver) (inRuns : InRuns deployment origin whole)
    (query : MetaTxForwarder.Query) :
    Projects deployment origin (serveForwarder deployment behind deliver query whole) fun value =>
      InRuns deployment origin value.1 ∧ RunOn deployment origin whole value.1 := by
  have same : InRuns deployment origin whole ∧ RunOn deployment origin whole whole :=
    ⟨inRuns, .refl whole⟩
  have answered : Projects deployment origin
      (replyToForwarder deployment behind deliver query whole) fun value =>
        InRuns deployment origin value.1 ∧ RunOn deployment origin whole value.1 := by
    cases query with
    | isValidSignatureSet manager _walletAddress _hash _signatures =>
        unfold replyToForwarder
        dsimp only
        split
        · exact same
        · split
          · exact same
          · exact Outcome.Obeys.external inRuns
    | call _to _data => exact delivered_projects apart delivers inRuns _to _data
  exact Outcome.Obeys.bind answered fun value kept => kept

abbrev BesideForwarder (deployment : Deployment) (origin whole : State) : Prop :=
  ManagerTracks deployment origin whole ∧ RegistryTracks deployment origin whole ∧
    BulkTracks deployment origin whole

abbrev OnBesideForwarder (deployment : Deployment) (origin before after : State) : Prop :=
  ManagerContinues deployment origin before after ∧
    RegistryContinues deployment origin before after ∧
    BulkContinues deployment origin before after

theorem inRuns_forwarder (whole : State) :
    BesideForwarder deployment origin whole ∧ ForwarderTracks deployment origin whole ↔
      InRuns deployment origin whole :=
  ⟨fun inStep => ⟨inStep.2, inStep.1.1, inStep.1.2.1, inStep.1.2.2⟩,
    fun inRuns => ⟨⟨inRuns.manager, inRuns.registry, inRuns.bulk⟩, inRuns.forwarder⟩⟩

theorem runOn_forwarder (before after : State) :
    OnBesideForwarder deployment origin before after ∧
        ForwarderContinues deployment origin before after ↔
      RunOn deployment origin before after :=
  ⟨fun continues => ⟨continues.2, continues.1.1, continues.1.2.1, continues.1.2.2⟩,
    fun runOn => ⟨⟨runOn.manager, runOn.registry, runOn.bulk⟩, runOn.forwarder⟩⟩

theorem forwarder_projects (apart : deployment.forwarder ≠ deployment.registry)
    (delivers : DeliversParts deployment origin deliver) (inRuns : InRuns deployment origin whole)
    (transaction : MetaTxForwarder.Transaction) :
    Projects deployment origin ((MetaTxForwarder.entry (forwarderDeployment deployment) transaction
      whole.forwarder).plug forwarderPart (serveForwarder deployment behind deliver) whole)
      fun value => RunOn deployment origin whole { value.1 with forwarder := value.2 } := by
  obtain ⟨base, inStep⟩ := (inRuns_forwarder whole).mpr inRuns
  refine Outcome.Obeys.congr (Outcome.Obeys.enter_inStep ?_ ?_ ?_ ?_ base inStep trivial)
    inRuns_forwarder runOn_forwarder fun value kept => (runOn_forwarder _ _).mp kept.2
  · exact fun whole => ⟨.refl whole, .refl whole, .refl whole⟩
  · rintro first middle last ⟨a, b, c⟩ ⟨a', b', c'⟩
    exact ⟨a.trans a', b.trans b', c.trans c'⟩
  · exact fun state base => ⟨base, .of_same rfl, .of_same rfl, .of_same rfl⟩
  · intro query whole base inStep
    have inRuns' := (inRuns_forwarder whole).mp ⟨base, inStep⟩
    have served := @serveForwarder_projects _ _ _ behind _ apart delivers inRuns' query
    exact served.congr (fun whole => (inRuns_forwarder whole).symm)
      (fun before after => (runOn_forwarder before after).symm) fun value kept =>
        ⟨(inRuns_forwarder _).mpr kept.1, (runOn_forwarder _ _).mpr kept.2⟩

/-- The registry calls in its own name only what is part of its other calls. -/
structure Apart (deployment : Deployment) : Prop where
  forwarder : deployment.forwarder ≠ deployment.registry
  bulk : deployment.bulk ≠ deployment.registry

theorem run_projects (apart : Apart deployment)
    (delivers : DeliversParts deployment origin deliver) :
    DeliversParts deployment origin (run deployment behind depth deliver) := by
  intro msg call whole inRuns outside
  cases call with
  | names call =>
      apply Outcome.Obeys.lift_bind
      exact fun names _ => ⟨.of_same rfl, .of_same rfl, .of_same rfl, .of_same rfl⟩
  | forwarder call =>
      apply Outcome.Obeys.bind (forwarder_projects apart.forwarder delivers inRuns _)
      exact fun value runOn => runOn
  | manager call =>
      apply Outcome.Obeys.lift_bind
      intro manager executed
      have done : LicensedUserManager.entry (managerDeployment deployment)
          ⟨worldOf deployment whole, msg, call⟩ whole.manager = .done manager := by
        rw [LicensedUserManager.entry, executed]
        rfl
      exact ⟨.of_same rfl, Continues.of_done trivial done, .of_same rfl, .of_same rfl⟩
  | registry call =>
      have projects := @registry_projects deployment origin whole inRuns
        ⟨worldOf deployment whole, depth, msg, call⟩ outside
      apply Outcome.Obeys.bind projects
      exact fun value runOn => runOn
  | bulk call =>
      apply Outcome.Obeys.bind (bulk_projects apart.bulk inRuns _)
      exact fun value runOn => runOn
  | elsewhere world => exact ⟨.of_same rfl, .of_same rfl, .of_same rfl, .of_same rfl⟩

theorem perform_projects (apart : Apart deployment) {memory : Nat → Nat → UInt8} :
    DeliversParts deployment origin (perform deployment memory depth) := by
  induction depth with
  | zero =>
      have reverts : DeliversParts deployment origin fun _ _ _ => .revert .empty :=
        fun _ _ _ _ _ => trivial
      exact run_projects apart reverts
  | succ depth ih => exact run_projects apart ih

end Deliveries

/-- What holds in all runs of a contract holds of it in the system. -/
theorem parts_run (deployment : Deployment) (apart : Apart deployment) (origin : State)
    (config : Config Revert State Query Reply Transaction)
    (reach : Reach (entry deployment) (fun transaction _ =>
      transaction.msg.sender ≠ deployment.registry) origin config) :
    (∃ part, Reach (MetaTxForwarder.entry (forwarderDeployment deployment)) (fun _ _ => True)
        origin.forwarder part ∧ part.now.state = config.now.state.forwarder) ∧
      (∃ part, Reach (LicensedUserManager.entry (managerDeployment deployment)) (fun _ _ => True)
        origin.manager part ∧ part.now.state = config.now.state.manager) ∧
      (∃ part, Reach (Registry.entry (registryDeployment deployment))
        (Registry.Legal (registryDeployment deployment)) origin.registry part ∧
          part.now.state = config.now.state.registry) ∧
      ∃ part, Reach (Bulk.entry deployment.evm) (fun _ _ => True) origin.bulk part ∧
        part.now.state = config.now.state.bulk := by
  have initial : InRuns deployment origin origin :=
    ⟨⟨_, .start, rfl⟩, ⟨_, .start, rfl⟩, ⟨_, .start, rfl⟩, ⟨_, .start, rfl⟩⟩
  have step : ∀ transaction whole, transaction.msg.sender ≠ deployment.registry →
      InRuns deployment origin whole →
      Projects deployment origin (entry deployment transaction whole) fun later =>
        InRuns deployment origin later ∧ RunOn deployment origin whole later := by
    intro transaction whole outside inRuns
    exact (perform_projects apart inRuns outside).mono fun later runOn => ⟨inRuns.on runOn, runOn⟩
  have inRuns := Reach.obeys RunOn.refl RunOn.trans step initial reach
  exact ⟨inRuns.forwarder, inRuns.manager, inRuns.registry, inRuns.bulk⟩

end Projections

section Samples

theorem batchDeployment_apart : Apart batchDeployment :=
  ⟨by decide +kernel, by decide +kernel⟩

/-- The batch of the run is prepared and used in a run of the bulk contract alone. -/
theorem issuedRun_parts : ∃ part, Reach (Bulk.entry batchEvm) (fun _ _ => True) systemOrigin.bulk
    part ∧ part.now.state = issuedRun.now.state.bulk ∧
      createdRecords part.now.state ≠ [] := by
  have outside : ∀ transaction whole, Legal batchDeployment transaction whole →
      transaction.msg.sender ≠ batchDeployment.registry := by
    rintro transaction whole ⟨outside, _⟩ same
    exact outside (by simp [Deployment.contracts, same])
  obtain ⟨_, _, _, part, reach, same⟩ := parts_run batchDeployment batchDeployment_apart
    systemOrigin issuedRun (issuedRun_reach.mono outside)
  refine ⟨part, reach, same, ?_⟩
  rw [same]
  exact List.ne_nil_of_mem issuedRun_created

end Samples

end Startrail.Platform
