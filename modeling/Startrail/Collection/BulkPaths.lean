import Startrail.Collection.Accounting

/-!
The two ways to the record functions of a collection: `BulkFeatureV04`, which trusts the signer
that the Bulk contract names, and the features that read the sender themselves. They check the
token and the sender with different helpers and meet again in the shared libraries.
-/

namespace Startrail.Collection

section Overloads

variable (world : World) (msg : Msg) (state : State) (tokenId : Uint256) (commitment : Bytes32)
  (historyMetadataHash : Bytes)

/-- `approveSRRByCommitment(tokenId, commitment, historyMetadataHash, customHistoryId)` -/
def SRRApproveTransferFeatureV04.approveSRRByCommitmentWithHistory (customHistoryId : Uint256) :
    Result State := do
  let sender := sender world msg state
  onlyCollectionOwnerOrSRROwner state sender tokenId
  approveByCommitment world state tokenId commitment historyMetadataHash customHistoryId sender

/-- `approveSRRByCommitment(tokenId, commitment, historyMetadataHash)` -/
def SRRApproveTransferFeatureV04.approveSRRByCommitment : Result State := do
  let sender := sender world msg state
  onlyCollectionOwnerOrSRROwner state sender tokenId
  approveByCommitment world state tokenId commitment historyMetadataHash NO_CUSTOM_HISTORY sender

-- The overload that a sender uses for a custom history, or without one.
def directApproval (customHistoryId : Uint256) : Result State :=
  if customHistoryId = NO_CUSTOM_HISTORY then
    SRRApproveTransferFeatureV04.approveSRRByCommitment world msg state tokenId commitment
      historyMetadataHash
  else
    SRRApproveTransferFeatureV04.approveSRRByCommitmentWithHistory world msg state tokenId
      commitment historyMetadataHash customHistoryId

theorem directApproval_eq (customHistoryId : Uint256) :
    directApproval world msg state tokenId commitment historyMetadataHash customHistoryId =
      approveSRRByCommitment world msg state tokenId commitment historyMetadataHash
        customHistoryId := by
  unfold directApproval
  split
  · rename_i noHistory
    rw [noHistory]
    rfl
  · rfl

end Overloads

section Outcomes

/-- The receiver of a token answers, and acts, whatever operator it is told. -/
def IgnoresOperator (environment : State → Query → State × Reply) : Prop :=
  ∀ state query operator,
    environment state { query with operator := operator } = environment state query

/-- Two calls both succeed and leave the same storage and events, or both fail. -/
def SameOutcome (first second : Execution State) : Prop :=
  ∀ environment, IgnoresOperator environment → ∀ after,
    first.against environment = .ok after ↔ second.against environment = .ok after

theorem SameOutcome.of_lift {first second : Result State}
    (same : ∀ after, first = .ok after ↔ second = .ok after) :
    SameOutcome (liftM first) (liftM second) := by
  intro environment _ after
  rw [Outcome.against_lift, Outcome.against_lift]
  exact same after

theorem SameOutcome.of_received (world : World) (state : State)
    (operator operator' from_ to_ : Address) (id : Uint256) (data : Bytes) :
    SameOutcome (safeTransferFromReceivedCheck world state operator from_ to_ id data)
      (safeTransferFromReceivedCheck world state operator' from_ to_ id data) := by
  intro environment ignores after
  unfold safeTransferFromReceivedCheck
  split
  · rfl
  · have answers : environment state ⟨to_, operator, from_, id, data⟩ =
        environment state ⟨to_, operator', from_, id, data⟩ :=
      ignores state ⟨to_, operator', from_, id, data⟩ operator
    rw [Outcome.external, Outcome.external, Outcome.call_bind, Outcome.call_bind, Outcome.against,
      Outcome.against, answers]

end Outcomes

section Checks

variable {evm : Evm} {world : World} {bulk msg : Msg} {state after : State}
  {signer to_ : Address} {tokenId customHistoryId : Uint256} {commitment : Bytes32}
  {historyMetadataHash : Bytes} {isIntermediary : Bool}
  {environment : State → Query → State × Reply}

/-- The rights that both paths ask of a signer for a token. -/
def MaySign (state : State) (signer : Address) (tokenId : Uint256) : Prop :=
  state.erc721.ownerOf tokenId ≠ 0 ∧
    (state.owner = signer ∨ state.erc721.ownerOf tokenId = signer)

theorem approveSRRByCommitment_eq_ok :
    approveSRRByCommitment world msg state tokenId commitment historyMetadataHash
        customHistoryId = .ok after ↔
      MaySign state (sender world msg state) tokenId ∧
        approveByCommitment world state tokenId commitment historyMetadataHash customHistoryId
          (sender world msg state) = .ok after := by
  simp only [approveSRRByCommitment, bind_eq_ok, onlyCollectionOwnerOrSRROwner_eq_ok, MaySign,
    exists_const]

theorem approveSRRByCommitmentFromBulk_eq_ok :
    approveSRRByCommitmentFromBulk world bulk state signer tokenId commitment historyMetadataHash
        customHistoryId = .ok after ↔
      FromBulk world bulk state ∧ MaySign state signer tokenId ∧
        approveByCommitment world state tokenId commitment historyMetadataHash customHistoryId
          signer = .ok after := by
  simp only [approveSRRByCommitmentFromBulk, bind_eq_ok, onlyBulk_eq_ok,
    onlyCollectionOwnerOrSRROwner_eq_ok, MaySign, exists_const]

theorem transferFromWithProvenance_against :
    (transferFromWithProvenance world msg state to_ tokenId historyMetadataHash customHistoryId
        isIntermediary).against environment = .ok after ↔
      MaySign state (sender world msg state) tokenId ∧
        (transferWithProvenance world msg state to_ tokenId historyMetadataHash customHistoryId
          isIntermediary (sender world msg state)).against environment = .ok after := by
  unfold transferFromWithProvenance ownerOf MaySign getCollectionOwner
  simp only [Outcome.against_lift_bind, bind_eq_ok, require_eq_ok, pure_eq_ok]
  constructor
  · rintro ⟨_, ⟨_, minted, rfl⟩, _, allowed, ran⟩
    exact ⟨⟨minted, allowed.imp Eq.symm Eq.symm⟩, ran⟩
  · rintro ⟨⟨minted, allowed⟩, ran⟩
    exact ⟨_, ⟨(), minted, rfl⟩, (), allowed.imp Eq.symm Eq.symm, ran⟩

theorem transferFromWithProvenanceFromBulk_against :
    (transferFromWithProvenanceFromBulk world bulk state signer to_ tokenId historyMetadataHash
        customHistoryId isIntermediary).against environment = .ok after ↔
      FromBulk world bulk state ∧ MaySign state signer tokenId ∧
        (transferWithProvenance world bulk state to_ tokenId historyMetadataHash customHistoryId
          isIntermediary signer).against environment = .ok after := by
  unfold transferFromWithProvenanceFromBulk MaySign
  simp only [Outcome.against_lift_bind, onlyBulk_eq_ok, onlyCollectionOwnerOrSRROwner_eq_ok,
    exists_const]

end Checks

section Creation

variable (evm : Evm) (world : World) (bulk msg : Msg) (state : State) (isPrimaryIssuer : Bool)
  (artistAddress : Address) (metadataCID : Bytes) (issuerAddress : Address)
  (lockExternalTransfer : Bool) (to_ royaltyReceiver : Address) (royaltyBasisPoints : Uint16)

theorem createRecord_checked :
    createRecord evm world msg state isPrimaryIssuer artistAddress metadataCID issuerAddress
        lockExternalTransfer royaltyReceiver royaltyBasisPoints false = (do
      onlyTrustedForwarder world msg state
      onlyCollectionOwner state (sender world msg state)
      createRecord evm world bulk state isPrimaryIssuer artistAddress metadataCID issuerAddress
        lockExternalTransfer royaltyReceiver royaltyBasisPoints true) := by
  unfold createRecord
  cases onlyTrustedForwarder world msg state with
  | error reason => rfl
  | ok forwarded =>
      cases onlyCollectionOwner state (sender world msg state) with
      | error reason => rfl
      | ok owned => rfl

variable {evm world bulk msg state isPrimaryIssuer artistAddress metadataCID issuerAddress
  lockExternalTransfer to_ royaltyReceiver royaltyBasisPoints} {after : State}

theorem createSRR_eq_ok :
    createSRR evm world msg state isPrimaryIssuer artistAddress metadataCID lockExternalTransfer to_
        royaltyReceiver royaltyBasisPoints = .ok after ↔
      msg.sender = trustedForwarder world state ∧ sender world msg state = state.owner ∧
        ∃ created, createRecord evm world bulk state isPrimaryIssuer artistAddress metadataCID
            (sender world msg state) lockExternalTransfer royaltyReceiver royaltyBasisPoints true =
              .ok created ∧
          after = passOn created.1 (sender world msg state) to_ created.2 := by
  unfold createSRR
  simp only [createRecord_checked evm world bulk, onlyTrustedForwarder, onlyCollectionOwner,
    bind_eq_ok, requireCustom_eq_ok, pure_eq_ok]
  constructor
  · rintro ⟨created, ⟨_, forwarded, _, owned, creates⟩, rfl⟩
    exact ⟨forwarded, owned, created, creates, rfl⟩
  · rintro ⟨forwarded, owned, created, creates, rfl⟩
    exact ⟨created, ⟨(), forwarded, (), owned, creates⟩, rfl⟩

theorem createSRRFromBulk_eq_ok {minted : State × Uint256} :
    createSRRFromBulk evm world bulk state isPrimaryIssuer artistAddress metadataCID issuerAddress
        lockExternalTransfer to_ royaltyReceiver royaltyBasisPoints = .ok minted ↔
      FromBulk world bulk state ∧ issuerAddress = state.owner ∧
        ∃ created, createRecord evm world bulk state isPrimaryIssuer artistAddress metadataCID
            issuerAddress lockExternalTransfer royaltyReceiver royaltyBasisPoints true =
              .ok created ∧
          (passOn created.1 issuerAddress to_ created.2, created.2) = minted := by
  unfold createSRRFromBulk
  simp only [onlyBulk_eq_ok, onlyCollectionOwner, bind_eq_ok, requireCustom_eq_ok, pure_eq_ok,
    exists_const]

theorem createSRRFromBulk_against {environment : State → Query → State × Reply} :
    (entry evm ⟨world, bulk, .createSRRFromBulk isPrimaryIssuer artistAddress metadataCID
        issuerAddress lockExternalTransfer to_ royaltyReceiver royaltyBasisPoints⟩ state).against
          environment = .ok after ↔
      FromBulk world bulk state ∧ issuerAddress = state.owner ∧
        ∃ created, createRecord evm world bulk state isPrimaryIssuer artistAddress metadataCID
            issuerAddress lockExternalTransfer royaltyReceiver royaltyBasisPoints true =
              .ok created ∧
          after = passOn created.1 issuerAddress to_ created.2 := by
  unfold entry
  simp only [Outcome.against_lift_bind, createSRRFromBulk_eq_ok]
  constructor
  · rintro ⟨_, ⟨fromBulk, owned, created, creates, rfl⟩, same⟩
    exact ⟨fromBulk, owned, created, creates, (Except.ok.inj same).symm⟩
  · rintro ⟨fromBulk, owned, created, creates, rfl⟩
    exact ⟨_, ⟨fromBulk, owned, created, creates, rfl⟩, rfl⟩

end Creation

section Paths

variable (evm : Evm) {world : World} {state : State} {bulk msg : Msg} {signer : Address}

theorem create_agrees (fromBulk : FromBulk world bulk state)
    (sent : sender world msg state = signer) (forwarded : msg.sender = trustedForwarder world state)
    (isPrimaryIssuer : Bool) (artistAddress : Address) (metadataCID : Bytes)
    (lockExternalTransfer : Bool) (to_ royaltyReceiver : Address) (royaltyBasisPoints : Uint16) :
    SameOutcome
      (entry evm ⟨world, bulk, .createSRRFromBulk isPrimaryIssuer artistAddress metadataCID signer
        lockExternalTransfer to_ royaltyReceiver royaltyBasisPoints⟩ state)
      (entry evm ⟨world, msg, .createSRR isPrimaryIssuer artistAddress metadataCID
        lockExternalTransfer to_ royaltyReceiver royaltyBasisPoints⟩ state) := by
  subst sent
  intro environment _ after
  rw [createSRRFromBulk_against]
  unfold entry
  rw [Outcome.against_lift, @createSRR_eq_ok _ _ bulk]
  simp only [fromBulk, forwarded, true_and]

theorem approve_agrees (fromBulk : FromBulk world bulk state)
    (sent : sender world msg state = signer) (tokenId : Uint256) (commitment : Bytes32)
    (historyMetadataHash : Bytes) (customHistoryId : Uint256) :
    SameOutcome
      (entry evm ⟨world, bulk, .approveSRRByCommitmentFromBulk signer tokenId commitment
        historyMetadataHash customHistoryId⟩ state)
      (liftM (directApproval world msg state tokenId commitment historyMetadataHash
        customHistoryId)) := by
  subst sent
  refine SameOutcome.of_lift fun after => ?_
  rw [directApproval_eq, approveSRRByCommitment_eq_ok, approveSRRByCommitmentFromBulk_eq_ok]
  simp only [fromBulk, true_and]

theorem transferWithProvenance_same (to_ : Address) (tokenId : Uint256)
    (historyMetadataHash : Bytes) (customHistoryId : Uint256) (isIntermediary : Bool) :
    SameOutcome
      (transferWithProvenance world bulk state to_ tokenId historyMetadataHash customHistoryId
        isIntermediary signer)
      (transferWithProvenance world msg state to_ tokenId historyMetadataHash customHistoryId
        isIntermediary signer) :=
  .of_received world _ _ _ _ to_ tokenId []

theorem transfer_agrees (fromBulk : FromBulk world bulk state)
    (sent : sender world msg state = signer) (to_ : Address) (tokenId : Uint256)
    (historyMetadataHash : Bytes) (customHistoryId : Uint256) (isIntermediary : Bool) :
    SameOutcome
      (entry evm ⟨world, bulk, .transferFromWithProvenanceFromBulk signer to_ tokenId
        historyMetadataHash customHistoryId isIntermediary⟩ state)
      (entry evm ⟨world, msg, .transferFromWithProvenance to_ tokenId historyMetadataHash
        customHistoryId isIntermediary⟩ state) := by
  subst sent
  intro environment ignores after
  have moves := @transferWithProvenance_same world state bulk msg (sender world msg state) to_
    tokenId historyMetadataHash customHistoryId isIntermediary environment ignores after
  unfold entry
  rw [transferFromWithProvenance_against, transferFromWithProvenanceFromBulk_against]
  simp only [fromBulk, true_and]
  rw [moves]

end Paths

/-- What Bulk does for a signer is what the signer could have done. -/
theorem bulk_path_agrees (evm : Evm) (world : World) (state : State) (bulk msg : Msg)
    (signer : Address) (fromBulk : FromBulk world bulk state)
    (sent : sender world msg state = signer) :
    (msg.sender = trustedForwarder world state →
      ∀ isPrimaryIssuer artistAddress metadataCID lockExternalTransfer to_ royaltyReceiver
          royaltyBasisPoints,
        SameOutcome
          (entry evm ⟨world, bulk, .createSRRFromBulk isPrimaryIssuer artistAddress metadataCID
            signer lockExternalTransfer to_ royaltyReceiver royaltyBasisPoints⟩ state)
          (entry evm ⟨world, msg, .createSRR isPrimaryIssuer artistAddress metadataCID
            lockExternalTransfer to_ royaltyReceiver royaltyBasisPoints⟩ state)) ∧
      (∀ tokenId commitment historyMetadataHash customHistoryId,
        SameOutcome
          (entry evm ⟨world, bulk, .approveSRRByCommitmentFromBulk signer tokenId commitment
            historyMetadataHash customHistoryId⟩ state)
          (liftM (directApproval world msg state tokenId commitment historyMetadataHash
            customHistoryId))) ∧
      ∀ to_ tokenId historyMetadataHash customHistoryId isIntermediary,
        SameOutcome
          (entry evm ⟨world, bulk, .transferFromWithProvenanceFromBulk signer to_ tokenId
            historyMetadataHash customHistoryId isIntermediary⟩ state)
          (entry evm ⟨world, msg, .transferFromWithProvenance to_ tokenId historyMetadataHash
            customHistoryId isIntermediary⟩ state) :=
  ⟨create_agrees evm fromBulk sent, approve_agrees evm fromBulk sent,
    transfer_agrees evm fromBulk sent⟩

section Samples

def forwarderWorld : World :=
  { World.named [(BULK, 0xb17c), (ADMINISTRATOR, 0xad317)] with
    featureRegistry := fun _ => ⟨0x4a3e, 0xf0a4de4⟩ }

-- The forwarder sends a call for 0xa11ce, who owns the collection and the record.
def forwardedMsg : Msg := ⟨0xf0a4de4, [0, 0, 0, 0] ++ packWord (0xa11ce : Address)⟩

set_option maxRecDepth 8000 in
theorem bulk_path_agrees_sample :
    ∃ after, (entry sampleEvm ⟨forwarderWorld, ⟨0xb17c, []⟩,
        .transferFromWithProvenanceFromBulk 0xa11ce 0xb0b recordId [] 0 false⟩
          createdRun.now.state).against (fun state _ => (state, ⟨false, []⟩)) = .ok after ∧
      (entry sampleEvm ⟨forwarderWorld, forwardedMsg,
        .transferFromWithProvenance 0xb0b recordId [] 0 false⟩
          createdRun.now.state).against (fun state _ => (state, ⟨false, []⟩)) = .ok after := by
  have sent : sender forwarderWorld forwardedMsg createdRun.now.state = 0xa11ce :=
    msgSender_forwarded 0xa11ce (by decide)
  obtain ⟨_, _, transfers⟩ := bulk_path_agrees sampleEvm forwarderWorld createdRun.now.state
    ⟨0xb17c, []⟩ _ 0xa11ce rfl sent
  refine ⟨_, by rfl, ?_⟩
  exact (transfers 0xb0b recordId [] 0 false _ (fun _ _ _ => rfl) _).mp (by rfl)

end Samples

end Startrail.Collection
