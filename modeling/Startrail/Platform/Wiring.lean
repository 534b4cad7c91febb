import Startrail.Bulk.Batches
import Startrail.Platform.Core
import Startrail.Registry.Records

/-!
How the contracts know each other. The administrator is relied on to leave it as it
is; no call of anybody else changes it. Beside it stands what the code of each
contract keeps of its own state between the calls it makes: the bulk contract the
signers of its batches, the registry its records and their issuers.
-/

namespace Startrail.Platform

/-- A contract whose initializers have run. -/
def Ready (storage : Initializable) : Prop := 1 ≤ storage._initialized

def ForwarderWired (deployment : Deployment) (state : MetaTxForwarder.State) : Prop :=
  Ready state.initializable ∧ state.nameRegistryAddress = deployment.nameRegistry

def ManagerWired (deployment : Deployment) (state : LicensedUserManager.State) : Prop :=
  Ready state.initializable ∧ state.nameRegistryAddress = deployment.nameRegistry ∧
    state.trustedForwarder = deployment.forwarder

def BulkWired (deployment : Deployment) (state : Bulk.State) : Prop :=
  Ready state.initializable ∧ state.nameRegistryAddress = deployment.nameRegistry ∧
    state.trustedForwarder = deployment.forwarder

structure NamesWired (deployment : Deployment) (state : Names.State) : Prop where
  ready : Ready state.initializable
  administrator : state.registry.administrator ∉ deployment.contracts
  manager : state.registry.get LICENSED_USER_MANAGER = deployment.manager
  registry : state.registry.get STARTRAIL_REGISTRY = deployment.registry

structure Wired (deployment : Deployment) (whole : State) : Prop where
  names : NamesWired deployment whole.names
  forwarder : ForwarderWired deployment whole.forwarder
  manager : ManagerWired deployment whole.manager
  bulk : BulkWired deployment whole.bulk

section Wiring

variable {deployment : Deployment} {whole : State} {msg : Msg}

theorem initializer_unready {storage storage' : Initializable}
    (passed : storage.initializer true = .ok storage') : ¬Ready storage := by
  simp only [Initializable.initializer, bind_eq_ok, require_eq_ok] at passed
  obtain ⟨_, allowed, _⟩ := passed
  intro ready
  rcases allowed with ⟨_, below⟩ | ⟨impossible, _⟩
  · exact absurd below (BitVec.not_lt.mpr ready)
  · cases impossible

theorem forwarder_mem : deployment.forwarder ∈ deployment.contracts := by
  simp [Deployment.contracts]

theorem worldOf_nameRegistry :
    (worldOf deployment whole).nameRegistry deployment.nameRegistry = whole.names.registry :=
  if_pos rfl

theorem NamesWired.called {names : Names.State} {call : Names.Call}
    (wired : NamesWired deployment whole.names)
    (accepted : Names.execute msg call whole.names = .ok names) :
    whole.names.registry.administrator = msg.sender := by
  cases call with
  | initializeV1 _administrator =>
      simp only [Names.execute, Names.initializeV1, bind_eq_ok] at accepted
      obtain ⟨_, passed, _⟩ := accepted
      exact absurd wired.ready (initializer_unready passed)
  | set key value =>
      simp only [Names.execute, Names.set, Names.onlyAdministrator, bind_eq_ok, require_eq_ok,
        pure_eq_ok] at accepted
      obtain ⟨_, administrator, _⟩ := accepted
      exact administrator

theorem NamesWired.execute {names : Names.State} {call : Names.Call}
    (wired : NamesWired deployment whole.names)
    (keeps : KeepsWiring deployment (.names call))
    (accepted : Names.execute msg call whole.names = .ok names) :
    NamesWired deployment names := by
  cases call with
  | initializeV1 _administrator =>
      simp only [Names.execute, Names.initializeV1, bind_eq_ok] at accepted
      obtain ⟨_, passed, _⟩ := accepted
      exact absurd wired.ready (initializer_unready passed)
  | set key value =>
      simp only [Names.execute, Names.set, Names.onlyAdministrator, bind_eq_ok, require_eq_ok,
        pure_eq_ok] at accepted
      obtain ⟨_, _, rfl⟩ := accepted
      obtain ⟨outside, manager, registry⟩ := keeps
      refine ⟨wired.ready, ?_, ?_, ?_⟩
      · by_cases own : key = ADMINISTRATOR
        · simpa [Names.State.store, NameRegistry.administrator, NameRegistry.get, own] using
            outside own
        · simpa [Names.State.store, NameRegistry.administrator, NameRegistry.get,
            Ne.symm own] using wired.administrator
      · by_cases own : key = LICENSED_USER_MANAGER
        · simpa [Names.State.store, NameRegistry.get, own] using manager own
        · simpa [Names.State.store, NameRegistry.get, Ne.symm own] using wired.manager
      · by_cases own : key = STARTRAIL_REGISTRY
        · simpa [Names.State.store, NameRegistry.get, own] using registry own
        · simpa [Names.State.store, NameRegistry.get, Ne.symm own] using wired.registry

end Wiring

section Manager

open LicensedUserManager

variable {deployment : Deployment} {world : World} {msg : Msg}
  {state state' : LicensedUserManager.State} {_wallet : Address}

def settings (state : LicensedUserManager.State) : Initializable × Address × Address :=
  (state.initializable, state.nameRegistryAddress, state.trustedForwarder)

theorem changeThreshold_settings {_threshold : Uint8}
    (accepted : changeThreshold world msg state _wallet _threshold = .ok state') :
    settings state' = settings state := by
  simp only [changeThreshold, bind_eq_ok, pure_eq_ok] at accepted
  obtain ⟨_, _, _, _, _, _, rfl⟩ := accepted
  rfl

theorem setupOwners_settings {_owners : List Address} {_threshold : Uint8}
    (accepted : setupOwners state _wallet _owners _threshold = .ok state') :
    settings state' = settings state := by
  simp only [setupOwners, bind_eq_ok, pure_eq_ok] at accepted
  obtain ⟨_, _, _, _, _, _, _, _, rfl⟩ := accepted
  rfl

theorem conclude_settings {changed : LicensedUserManager.State} {_threshold threshold : Uint8}
    (accepted : (if threshold ≠ _threshold then
      changeThreshold world msg changed _wallet _threshold else pure changed) = .ok state')
    (same : settings changed = settings state) : settings state' = settings state := by
  split at accepted
  · exact (changeThreshold_settings accepted).trans same
  · cases accepted
    exact same

theorem createWalletInternal_settings {_details : LicensedUserDto} {_salt : Bytes32}
    (accepted : createWalletInternal state _details _wallet _salt = .ok state') :
    settings state' = settings state := by
  simp only [createWalletInternal, emitCreateLicensedUserWallet, bind_eq_ok, pure_eq_ok] at accepted
  obtain ⟨_, _, made, setup, _, _, rfl⟩ := accepted
  change settings made = settings state
  split at setup
  · exact (setupOwners_settings setup).trans rfl
  · cases setup
    rfl

theorem addOwner_settings {_owner : Address} {_threshold : Uint8}
    (accepted : addOwner world msg state _wallet _owner _threshold = .ok state') :
    settings state' = settings state := by
  simp only [addOwner, bind_eq_ok] at accepted
  obtain ⟨_, _, _, _, accepted⟩ := accepted
  split at accepted
  · simp only [singleToMulti, bind_eq_ok, pure_eq_ok] at accepted
    obtain ⟨upgraded, setup, rfl⟩ := accepted
    change settings upgraded = settings state
    exact (setupOwners_settings setup).trans rfl
  · simp only [OwnerManager.addOwner, bind_eq_ok] at accepted
    obtain ⟨_, _, _, _, _, _, _, _, accepted⟩ := accepted
    exact conclude_settings accepted rfl

theorem ManagerWired.execute {call : LicensedUserManager.Call}
    (wired : ManagerWired deployment state)
    (accepted : LicensedUserManager.execute (managerDeployment deployment) ⟨world, msg, call⟩
      state = .ok state') : ManagerWired deployment state' := by
  have kept : settings state' = settings state → ManagerWired deployment state' := by
    intro same
    simp only [settings, Prod.mk.injEq] at same
    unfold ManagerWired
    rwa [same.1, same.2.1, same.2.2]
  cases call with
  | initializeV1 _nameRegistryAddress _trustedForwarder =>
      simp only [LicensedUserManager.execute, initializeV1, bind_eq_ok] at accepted
      obtain ⟨_, passed, _⟩ := accepted
      exact absurd wired.1 (initializer_unready passed)
  | initializeV2 _upgradeableBeacon =>
      simp only [LicensedUserManager.execute, initializeV2, Initializable.reinitializer, bind_eq_ok,
        pure_eq_ok] at accepted
      obtain ⟨_, ⟨_, _, rfl⟩, rfl⟩ := accepted
      exact ⟨(by decide : (1 : Uint8) ≤ 2), wired.2⟩
  | createWallet _details _salt =>
      simp only [LicensedUserManager.execute, createWallet, bind_eq_ok] at accepted
      obtain ⟨_, _, accepted⟩ := accepted
      split at accepted
      · cases accepted
      · exact kept (createWalletInternal_settings accepted)
  | createWalletFromMigration _details _walletAddress _originChain _originTimestamp =>
      simp only [LicensedUserManager.execute, createWalletFromMigration, bind_eq_ok,
        pure_eq_ok] at accepted
      obtain ⟨_, _, made, created, rfl⟩ := accepted
      exact kept ((createWalletInternal_settings created).trans rfl)
  | addOwner _walletAddress _owner _threshold => exact kept (addOwner_settings accepted)
  | removeOwner _wallet _prevOwner _owner _threshold =>
      simp only [LicensedUserManager.execute, removeOwner, bind_eq_ok] at accepted
      obtain ⟨_, _, _, _, _, _, _, _, _, _, accepted⟩ := accepted
      exact kept (conclude_settings accepted rfl)
  | swapOwner _wallet _prevOwner _oldOwner _newOwner =>
      simp only [LicensedUserManager.execute, swapOwner, bind_eq_ok, pure_eq_ok] at accepted
      obtain ⟨_, _, _, _, _, _, _, _, _, _, rfl⟩ := accepted
      exact kept rfl
  | changeThreshold _wallet _threshold => exact kept (changeThreshold_settings accepted)
  | setOriginalName _walletAddress _name =>
      simp only [LicensedUserManager.execute, setOriginalName, bind_eq_ok, pure_eq_ok] at accepted
      obtain ⟨_, _, _, _, _, _, rfl⟩ := accepted
      exact kept rfl
  | setEnglishName _walletAddress _name =>
      simp only [LicensedUserManager.execute, setEnglishName, bind_eq_ok, pure_eq_ok] at accepted
      obtain ⟨_, _, _, _, _, _, rfl⟩ := accepted
      exact kept rfl

end Manager

section Bulk

open Startrail.Bulk

variable {deployment : Deployment} {evm : Evm} {world : World} {before state state' : Bulk.State}
  {merkleRoot leafHash : Bytes32} {query : Bulk.Query} {Step : Bulk.State → Bulk.State → Prop}
  {Quiet : Bulk.Event → Prop}

/-- What the contract does besides waiting for others, as long as it logs nothing else. -/
structure Closed (Quiet : Bulk.Event → Prop) (Step : Bulk.State → Bulk.State → Prop) : Prop where
  refl : ∀ state, Step state state
  trans : ∀ {first middle last}, Step first middle → Step middle last → Step first last
  mark : ∀ {state state' merkleRoot leafHash},
    markProcessed state merkleRoot leafHash = .ok state' → Step state state'
  emit : ∀ state event, Quiet event → Step state (state.emit event)

theorem externalCall_segments (since : Step before state) :
    (externalCall state query).Segments Step (fun resumed value => value.2.1 = resumed) before := by
  apply Outcome.Segments.bind (Outcome.Segments.external since)
  rintro resumed ⟨later, answer⟩ rfl
  dsimp only
  split
  · rfl
  · trivial

theorem Closed.createLoop (closed : Closed Quiet Step) {merkleProofs : List (List Bytes32)}
    {arrays : CreateSRRArrays} {leafHashes : List Bytes32} {i : Nat}
    (quiet : ∀ contractAddress tokenId leafHash,
      Quiet (.CreateSRRWithProof merkleRoot contractAddress tokenId leafHash))
    (since : Step before state) :
    (createLoop evm merkleProofs merkleRoot arrays leafHashes i world state).Segments Step
      (fun before value => Step before value.1) before := by
  induction leafHashes generalizing i world state before with
  | nil => exact since
  | cons leaf leafHashes ih =>
      apply Outcome.Segments.lift_bind
      intro _ _
      apply Outcome.Segments.lift_bind
      intro inputs _
      apply Outcome.Segments.lift_bind
      intro _ _
      apply Outcome.Segments.lift_bind
      intro merkleProof _
      unfold _createSRRWithProof
      rw [bind_assoc]
      apply Outcome.Segments.lift_bind
      intro _ _
      rw [bind_assoc]
      apply Outcome.Segments.lift_bind
      intro marked made
      rw [bind_assoc]
      apply Outcome.Segments.bind (externalCall_segments (closed.trans since (closed.mark made)))
      rintro resumed ⟨world', later, returndata⟩ rfl
      dsimp only
      split
      · trivial
      · rw [pure_bind]
        apply Outcome.Segments.bind (ih (closed.emit later _ (quiet _ _ _)))
        rintro resumed ⟨last, tokenIds⟩ since'
        exact since'

theorem Closed.creates (closed : Closed Quiet Step) {merkleProofs : List (List Bytes32)}
    {leafHashes : List Bytes32} {arrays : CreateSRRArrays} {msg : Msg}
    (quiet : ∀ contractAddress tokenId leafHash,
      Quiet (.CreateSRRWithProof merkleRoot contractAddress tokenId leafHash)) :
    (Bulk.entry evm ⟨world, msg, .createSRRWithProofMulti merkleProofs merkleRoot leafHashes arrays⟩
      state).Segments Step Step state := by
  have loop : (createSRRWithProofMulti evm world state merkleProofs merkleRoot leafHashes
      arrays).Segments Step (fun before value => Step before value.1) state := by
    apply Outcome.Segments.lift_bind
    intro _ _
    exact closed.createLoop quiet (closed.refl state)
  apply Outcome.Segments.bind loop
  rintro before ⟨later, tokenIds⟩ since
  exact since

theorem Closed.approves (closed : Closed Quiet Step) {merkleProof : List Bytes32}
    {tokenId customHistoryId : Uint256} {commitment : Bytes32} {historyMetadataHash : Bytes}
    {contractAddress : Address} {msg : Msg}
    (quiet : Quiet (.ApproveSRRByCommitmentWithProof merkleRoot contractAddress tokenId leafHash)) :
    (Bulk.entry evm ⟨world, msg, .approveSRRByCommitmentWithProof merkleProof merkleRoot leafHash
      tokenId commitment historyMetadataHash customHistoryId contractAddress⟩ state).Segments Step
      Step state := by
  apply Outcome.Segments.lift_bind
  intro _ _
  apply Outcome.Segments.lift_bind
  intro _ _
  apply Outcome.Segments.lift_bind
  intro _ _
  apply Outcome.Segments.lift_bind
  intro _ _
  apply Outcome.Segments.lift_bind
  intro marked made
  apply Outcome.Segments.bind (externalCall_segments (closed.mark made))
  rintro resumed ⟨_, later, _⟩ rfl
  exact closed.emit later _ quiet

theorem Closed.transfers (closed : Closed Quiet Step) {merkleProof : List Bytes32}
    {to_ contractAddress : Address} {tokenId customHistoryId : Uint256}
    {historyMetadataHash : Bytes} {isIntermediary : Bool} {msg : Msg}
    (quiet : Quiet (.TransferFromWithProvenanceWithProof merkleRoot contractAddress tokenId
      leafHash)) :
    (Bulk.entry evm ⟨world, msg, .transferFromWithProvenanceWithProof merkleProof merkleRoot
      leafHash to_ tokenId historyMetadataHash customHistoryId isIntermediary contractAddress⟩
      state).Segments Step Step state := by
  apply Outcome.Segments.lift_bind
  intro _ _
  apply Outcome.Segments.lift_bind
  intro _ _
  apply Outcome.Segments.lift_bind
  intro _ _
  apply Outcome.Segments.lift_bind
  intro _ _
  apply Outcome.Segments.lift_bind
  intro marked made
  apply Outcome.Segments.bind (externalCall_segments (closed.mark made))
  rintro resumed ⟨_, later, _⟩ rfl
  exact closed.emit later _ quiet

/-- No batch is prepared, and none gets another signer. -/
def SameSigners (before after : Bulk.State) : Prop :=
  ∀ merkleRoot, (after.batches merkleRoot).prepared = (before.batches merkleRoot).prepared ∧
    (after.batches merkleRoot).signer = (before.batches merkleRoot).signer

def BulkStep (deployment : Deployment) (before after : Bulk.State) : Prop :=
  (BulkWired deployment before → BulkWired deployment after) ∧ SameSigners before after

theorem bulkStep_closed : Closed (fun _ => True) (BulkStep deployment) where
  refl _ := ⟨id, fun _ => ⟨rfl, rfl⟩⟩
  trans first second := ⟨second.1 ∘ first.1, fun merkleRoot =>
    ⟨(second.2 merkleRoot).1.trans (first.2 merkleRoot).1,
      (second.2 merkleRoot).2.trans (first.2 merkleRoot).2⟩⟩
  mark := by
    intro state state' merkleRoot leafHash marked
    refine ⟨?_, markProcessed_batch marked⟩
    obtain ⟨_, rfl⟩ := markProcessed_effect marked
    exact id
  emit _ _ _ := ⟨id, fun _ => ⟨rfl, rfl⟩⟩

/-- All calls but those that prepare a batch. -/
theorem bulk_wiring {msg : Msg} {call : Bulk.Call} (wired : BulkWired deployment state)
    (keeps : (world.nameRegistry deployment.nameRegistry).administrator = msg.sender →
      KeepsWiring deployment (.bulk call))
    (other : ∀ merkleRoot, call ≠ .prepareBatchFromLicensedUser merkleRoot) :
    (Bulk.entry evm ⟨world, msg, call⟩ state).Segments (BulkStep deployment) (BulkStep deployment)
      state := by
  cases call with
  | initializeV1 _nameRegistry _trustedForwarder =>
      apply Outcome.Segments.lift
      intro state' accepted
      simp only [initializeV1, bind_eq_ok] at accepted
      obtain ⟨_, passed, _⟩ := accepted
      exact absurd wired.1 (initializer_unready passed)
  | setTrustedForwarder forwarder =>
      apply Outcome.Segments.lift
      intro state' accepted
      simp only [setTrustedForwarder, _setTrustedForwarder, onlyAdministrator, bind_eq_ok,
        require_eq_ok, wired.2.1] at accepted
      obtain ⟨_, administrator, accepted⟩ := accepted
      split at accepted
      · cases accepted
      · cases accepted
        exact ⟨fun _ => ⟨wired.1, rfl, keeps administrator⟩, fun _ => ⟨rfl, rfl⟩⟩
  | prepareBatchFromLicensedUser merkleRoot => exact absurd rfl (other merkleRoot)
  | createSRRWithProofMulti => exact bulkStep_closed.creates fun _ _ _ => trivial
  | approveSRRByCommitmentWithProof => exact bulkStep_closed.approves trivial
  | transferFromWithProvenanceWithProof => exact bulkStep_closed.transfers trivial

theorem prepareBatch_effect {msg : Msg} (wired : BulkWired deployment state)
    (prepared : prepareBatchFromLicensedUser msg state merkleRoot = .ok state') :
    BulkWired deployment state' ∧ msg.sender = deployment.forwarder ∧
      (state.batches merkleRoot).prepared = false ∧
      state' = _prepareBatch msg state merkleRoot := by
  simp only [prepareBatchFromLicensedUser, isNewBatch, trustedForwarderOnly, bind_eq_ok,
    require_eq_ok, pure_eq_ok] at prepared
  obtain ⟨_, fresh, _, forwarder, rfl⟩ := prepared
  exact ⟨wired, forwarder.trans wired.2.2, fresh, rfl⟩

end Bulk

section Registry

open Startrail.Registry

variable {deployment : Registry.Deployment} {world : World} {msg : Msg}
  {state state' : Registry.State} {call : Registry.Call} {tokenId : Uint256}

/-- Records stay, with their issuers. -/
def KeepsRecords (before after : Registry.State) : Prop :=
  ∀ tokenId, before._tokenOwner tokenId ≠ 0 → after._tokenOwner tokenId ≠ 0 ∧
    (details after tokenId).srr.issuer = (details before tokenId).srr.issuer

theorem KeepsRecords.refl (state : Registry.State) : KeepsRecords state state :=
  fun _ owned => ⟨owned, rfl⟩

theorem KeepsRecords.trans {first middle last : Registry.State}
    (before : KeepsRecords first middle) (after : KeepsRecords middle last) :
    KeepsRecords first last := by
  intro tokenId owned
  obtain ⟨owned', issuer⟩ := before tokenId owned
  obtain ⟨owned'', issuer'⟩ := after tokenId owned'
  exact ⟨owned'', issuer'.trans issuer⟩

theorem posting_owned {entered : Ledger Uint256 Address ℤ}
    (posting : Posting deployment msg state call entered) (owned : state._tokenOwner tokenId ≠ 0) :
    entered.owner tokenId ≠ 0 := by
  have passed : ∀ token to_, to_ ≠ 0 →
      ((ledger state).pass 0 (state._tokenOwner token) to_ token).owner tokenId ≠ 0 := by
    intro token to_ recipient
    by_cases same : tokenId = token
    · subst same
      simpa [Ledger.pass] using recipient
    · simpa [Ledger.pass, same, ledger] using owned
  cases posting with
  | quiet _ => exact owned
  | @create _ birth _ absent issuer =>
      obtain ⟨owner, someone, owners⟩ := birth.entered_owner (ledger state) issuer
      rw [owners]
      by_cases same : tokenId = birth.tokenId
      · rwa [same, Function.update_self]
      · rwa [Function.update_of_ne same]
  | hand _ _ recipient => exact passed _ _ recipient
  | reveal _ recipient => exact passed _ _ recipient
  | approve _ => exact owned
  | setLock _ => exact owned

theorem edits_issuer {after : Details} (edits : Edits deployment world msg state tokenId call after)
    (owned : state._tokenOwner tokenId ≠ 0) :
    after.srr.issuer = (details state tokenId).srr.issuer := by
  cases edits with
  | created _ _ absent => exact absurd absent owned
  | _ => rfl

theorem perform_keepsRecords {depth : Nat}
    (ran : (Registry.perform deployment world depth msg call state).front = some state') :
    KeepsRecords state state' := by
  intro tokenId owned
  obtain ⟨middle, msg', call', runs, posting⟩ := perform_posting ran
  have same : middle._tokenOwner = state._tokenOwner := congrArg Ledger.owner runs.ledger
  rw [← same] at owned
  refine ⟨posting_owned posting owned, ?_⟩
  obtain ⟨middle', msg'', call'', runs', _, edits⟩ := perform_edits ran
  have same' : middle'._tokenOwner = state._tokenOwner := congrArg Ledger.owner runs'.ledger
  obtain ⟨_, nonces, logs, rfl⟩ := runs'.context
  exact edits_issuer (edits tokenId) (by rwa [same', ← same])

theorem registry_keepsRecords (depth : Nat) (call : Registry.Call) :
    (Registry.perform deployment world depth msg call state).Segments KeepsRecords KeepsRecords
      state :=
  .of_trailing KeepsRecords.refl (perform_trailing depth msg call state)
    fun _ ran => perform_keepsRecords ran

theorem createSRRFromBulk_keepsRecords {isPrimaryIssuer lockExternalTransfer : Bool}
    {artistAddress issuerAddress to_ royaltyReceiver : Address} {metadataCID : Bytes}
    {royaltyBasisPoints : Uint16}
    (created : createSRRFromBulk deployment world msg state isPrimaryIssuer artistAddress
      metadataCID issuerAddress lockExternalTransfer to_ royaltyReceiver royaltyBasisPoints =
        .ok (state', tokenId)) : KeepsRecords state state' := by
  have ran : (Registry.perform deployment world 0 msg (.createSRRFromBulk isPrimaryIssuer
      artistAddress metadataCID issuerAddress lockExternalTransfer to_ royaltyReceiver
      royaltyBasisPoints) state).front = some state' := by
    simp only [Registry.perform, execute, created]
    rfl
  exact perform_keepsRecords ran

theorem approveFromBulk_keepsRecords (deployment : Registry.Deployment) {signer : Address}
    {commitment : Bytes32} {historyMetadataHash : Bytes} {customHistoryId : Uint256}
    (approved : approveSRRByCommitmentFromBulk world msg state signer tokenId commitment
      historyMetadataHash customHistoryId = .ok state') : KeepsRecords state state' := by
  have ran : (Registry.perform deployment world 0 msg (.approveSRRByCommitmentFromBulk signer
      tokenId commitment historyMetadataHash customHistoryId) state).front = some state' := by
    simp only [Registry.perform, execute, approved]
    rfl
  exact perform_keepsRecords ran

end Registry

end Startrail.Platform
