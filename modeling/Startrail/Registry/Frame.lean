import Startrail.Registry.Core

/-!
What the calls leave alone that administrate the registry or edit the description of
a record: the owners, the counts, the approvals, the locks, the commitments, the
histories and the nonces. The views that other modules take of a state are made of
these, so such a call changes none of them. What the other calls do when they are
accepted is in `Accepted`, and what the functions do that these end in is stated once
for each, so that no other module has to take them apart.
-/

namespace Startrail.Registry

/-- The events of these calls. -/
def Event.aside : Event → Bool
  | .ApprovalForAll .. | .UpdateSRR .. | .UpdateSRRMetadataCID .. | .CreateCustomHistoryType ..
  | .OwnershipTransferred .. | .RoyaltiesSet .. => true
  | _ => false

def Call.aside : Call → Bool
  | .setTrustedForwarder .. | .setMaxCombinedHistoryRecords .. | .updateSRR ..
  | .updateSRRMetadata .. | .updateSRRRoyalty .. | .updateSRRRoyaltyReceiverMulti ..
  | .setNameRegistryAddress .. | .setTokenURIParts .. | .addCustomHistoryType ..
  | .setApprovalForAll .. | .setContractURI .. | .transferOwnership ..
  | .setOpenSeaApproveAllKillSwitch .. | .setOpenSeaMetaTxIntegration .. | .view .. => true
  | _ => false

structure Aside (before after : State) : Prop where
  owners : after._tokenOwner = before._tokenOwner
  counts : after._ownedTokensCount = before._ownedTokensCount
  approvals : after._tokenApprovals = before._tokenApprovals
  uints : after._uintStorage = before._uintStorage
  words : after._bytes32Storage = before._bytes32Storage
  strings : ∀ id group key, group ≠ ._SRR →
    after._stringStorage id group key = before._stringStorage id group key
  locks : ∀ tokenId, after._boolStorage tokenId ._SRR ._LOCK_EXTERNAL_TRANSFER =
    before._boolStorage tokenId ._SRR ._LOCK_EXTERNAL_TRANSFER
  customHistoryCount : after.customHistoryCount = before.customHistoryCount
  nonces : after.openSeaMetaTx.nonces = before.openSeaMetaTx.nonces
  logs : ∃ fresh, after.logs = fresh ++ before.logs ∧ ∀ event ∈ fresh, event.aside = true

/-- What such a call logs. Only an update of the metadata tells of a CID, of the one it is given. -/
def Reports (call : Call) (before after : State) : Prop :=
  ∃ fresh, after.logs = fresh ++ before.logs ∧ ∀ event ∈ fresh, event.aside = true ∧
    ∀ tokenId metadataCID, event = .UpdateSRRMetadataCID tokenId metadataCID →
      call = .updateSRRMetadata tokenId metadataCID

section Acceptance

variable (deployment : Deployment) (world : World) (msg : Msg) (before : State)

/-- What a call, other than a meta transaction, has passed and done when it comes to a state: the
guards in their order and the state, or the function that the call ends in. -/
inductive Accepted : Call → State → Prop
  | aside {call after} (aside : call.aside = true) (same : Aside before after)
      (reports : Reports call before after) : Accepted call after
  | createSRRFromLicensedUser {isPrimaryIssuer artistAddress metadataCID lockExternalTransfer to_
      royaltyReceiver royaltyBasisPoints after tokenId}
      (forwarded : trustedForwarderOnly msg before = .ok ())
      (creates : createSRRFor deployment before isPrimaryIssuer artistAddress metadataCID
        (sender msg before) lockExternalTransfer to_ royaltyReceiver royaltyBasisPoints =
          .ok (after, tokenId)) :
      Accepted (.createSRRFromLicensedUser isPrimaryIssuer artistAddress metadataCID
        lockExternalTransfer to_ royaltyReceiver royaltyBasisPoints) after
  | createSRRFromBulk {isPrimaryIssuer artistAddress metadataCID issuerAddress
      lockExternalTransfer to_ royaltyReceiver royaltyBasisPoints after tokenId}
      (bulk : onlyBulk world msg before = .ok ())
      (creates : createSRRFor deployment before isPrimaryIssuer artistAddress metadataCID
        issuerAddress lockExternalTransfer to_ royaltyReceiver royaltyBasisPoints =
          .ok (after, tokenId)) :
      Accepted (.createSRRFromBulk isPrimaryIssuer artistAddress metadataCID issuerAddress
        lockExternalTransfer to_ royaltyReceiver royaltyBasisPoints) after
  | approveSRRByCommitmentFromBulk {signer tokenId commitment historyMetadataHash
      customHistoryId after}
      (bulk : onlyBulk world msg before = .ok ())
      (owner : onlySRROwner before signer tokenId = .ok ())
      (approved : _approveSRRByCommitment before tokenId commitment historyMetadataHash
        customHistoryId = .ok after) :
      Accepted (.approveSRRByCommitmentFromBulk signer tokenId commitment historyMetadataHash
        customHistoryId) after
  | approveSRRByCommitment {tokenId commitment historyMetadataHash after}
      (allowed : onlySRROwnerOrAdministrator world msg before tokenId = .ok ())
      (approved : _approveSRRByCommitment before tokenId commitment historyMetadataHash
        _NO_CUSTOM_HISTORY = .ok after) :
      Accepted (.approveSRRByCommitment tokenId commitment historyMetadataHash) after
  | approveSRRByCommitmentWithHistory {tokenId commitment historyMetadataHash customHistoryId after}
      (allowed : onlySRROwnerOrAdministrator world msg before tokenId = .ok ())
      (known : customHistoryIdExists before customHistoryId = .ok ())
      (approved : _approveSRRByCommitment before tokenId commitment historyMetadataHash
        customHistoryId = .ok after) :
      Accepted (.approveSRRByCommitmentWithHistory tokenId commitment historyMetadataHash
        customHistoryId) after
  | cancelSRRCommitment {tokenId}
      (allowed : onlySRROwnerOrAdministrator world msg before tokenId = .ok ()) :
      Accepted (.cancelSRRCommitment tokenId)
        ((_clearSRRCommitment before tokenId).emit (.SRRCommitmentCancelled tokenId))
  | transferSRRByReveal {to_ reveal tokenId isIntermediary after}
      (revealed : transferSRRByReveal deployment before to_ reveal tokenId isIntermediary =
        .ok after) :
      Accepted (.transferSRRByReveal to_ reveal tokenId isIntermediary) after
  | addHistory {tokenIds customHistoryIds}
      (allowed : onlyLicensedUserOrAdministrator world msg before = .ok ())
      (bounded : tokenIds.length * customHistoryIds.length ≤
        before.maxCombinedHistoryRecords.toNat)
      (tokens : forEach (fun tokenId => do
        require (_exists before tokenId = true) "one of the tokenIds does not exist"
        onlyIssuerOrArtistOrAdministrator world msg before tokenId) tokenIds 0 = .ok ())
      (known : forEach (customHistoryIdExists before) customHistoryIds 0 = .ok ()) :
      Accepted (.addHistory tokenIds customHistoryIds)
        (before.emit (.History tokenIds customHistoryIds))
  | writeCustomHistory {name customHistoryTypeId metadata}
      (allowed : onlyAdministrator world msg before = .ok ())
      (typed : (before.customHistoryTypeNameById customHistoryTypeId).length ≠ 0)
      (room : before.customHistoryCount.toNat + 1 < 2 ^ 256) :
      Accepted (.writeCustomHistory name customHistoryTypeId metadata)
        ({ before with
          customHistoryCount := before.customHistoryCount + 1
          _stringStorage := before._stringStorage.set (before.customHistoryCount + 1)
            ._CUSTOM_HISTORY ._CUSTOM_HISTORY_NAME name }.emit
              (.CreateCustomHistory (before.customHistoryCount + 1) name customHistoryTypeId
                metadata))
  | updateCustomHistory {customHistoryId name metadata}
      (allowed : onlyAdministrator world msg before = .ok ())
      (known : customHistoryIdExists before customHistoryId = .ok ())
      (required : name.length ≠ 0) :
      Accepted (.updateCustomHistory customHistoryId name metadata)
        ((if deployment.evm.keccak256 (getCustomHistoryNameById before customHistoryId) ≠
            deployment.evm.keccak256 name then
          { before with
            _stringStorage := before._stringStorage.set customHistoryId ._CUSTOM_HISTORY
              ._CUSTOM_HISTORY_NAME name }
        else before).emit (.UpdateCustomHistory customHistoryId name metadata))
  | transferFrom {from_ to_ tokenId after}
      (unlocked : externalTransferNotLocked before tokenId = .ok ())
      (spends : _isApprovedOrOwner before (_msgSender deployment msg) tokenId = .ok true)
      (moved : _transfer before from_ to_ tokenId = .ok after) :
      Accepted (.transferFrom from_ to_ tokenId) after
  | safeTransferFrom {from_ to_ tokenId _data after}
      (unlocked : externalTransferNotLocked before tokenId = .ok ())
      (spends : _isApprovedOrOwner before (_msgSender deployment msg) tokenId = .ok true)
      (moved : _transfer before from_ to_ tokenId = .ok after) :
      Accepted (.safeTransferFrom from_ to_ tokenId _data) after
  | transferFromWithProvenance {to_ tokenId historyMetadataHash customHistoryId isIntermediary
      from_ after}
      (allowed : onlySRROwnerOrAdministrator world msg before tokenId = .ok ())
      (owned : ownerOf before tokenId = .ok from_)
      (moved : _transfer (_historyProvenance before tokenId from_ to_ historyMetadataHash
        customHistoryId isIntermediary) from_ to_ tokenId = .ok after) :
      Accepted (.transferFromWithProvenance to_ tokenId historyMetadataHash customHistoryId
        isIntermediary) after
  | transferFromWithProvenanceFromBulk {signer to_ tokenId historyMetadataHash customHistoryId
      isIntermediary from_ after}
      (bulk : onlyBulk world msg before = .ok ())
      (owner : onlySRROwner before signer tokenId = .ok ())
      (owned : ownerOf before tokenId = .ok from_)
      (moved : _transfer (_historyProvenance before tokenId from_ to_ historyMetadataHash
        customHistoryId isIntermediary) from_ to_ tokenId = .ok after) :
      Accepted (.transferFromWithProvenanceFromBulk signer to_ tokenId historyMetadataHash
        customHistoryId isIntermediary) after
  | approve {to_ tokenId tokenOwner}
      (unlocked : externalTransferNotLocked before tokenId = .ok ())
      (owned : ownerOf before tokenId = .ok tokenOwner) (other : to_ ≠ tokenOwner)
      (allowed : _msgSender deployment msg = tokenOwner ∨
        isApprovedForAll before tokenOwner (_msgSender deployment msg) = true ∨
        isAdministrator world msg before = true) :
      Accepted (.approve to_ tokenId) ({ before with
        _tokenApprovals := Function.update before._tokenApprovals tokenId to_ }.emit
          (.Approval tokenOwner to_ tokenId))
  | setLockExternalTransfer {tokenId flag}
      (allowed : onlyIssuerOrAdministrator world msg before tokenId = .ok ())
      (owned : _exists before tokenId = true) :
      Accepted (.setLockExternalTransfer tokenId flag) ({ before with
        _boolStorage := before._boolStorage.set tokenId ._SRR ._LOCK_EXTERNAL_TRANSFER flag }.emit
          (.LockExternalTransfer tokenId flag))

/-- What a call that is aside has passed and done, likewise. -/
inductive Administered : Call → State → Prop
  | setTrustedForwarder {forwarder} (allowed : onlyAdministrator world msg before = .ok ())
      (given : forwarder ≠ 0) :
      Administered (.setTrustedForwarder forwarder) { before with trustedForwarder := forwarder }
  | setMaxCombinedHistoryRecords {maxRecords}
      (allowed : onlyAdministrator world msg before = .ok ()) :
      Administered (.setMaxCombinedHistoryRecords maxRecords)
        { before with maxCombinedHistoryRecords := maxRecords }
  | updateSRR {tokenId isPrimaryIssuer artistAddress} (owned : _exists before tokenId = true)
      (allowed : onlyIssuerOrArtistOrAdministrator world msg before tokenId = .ok ()) :
      Administered (.updateSRR tokenId isPrimaryIssuer artistAddress)
        ((_saveSRR before tokenId isPrimaryIssuer artistAddress).emit
          (.UpdateSRR tokenId isPrimaryIssuer artistAddress (sender msg before)))
  | updateSRRMetadata {tokenId metadataCID} (owned : _exists before tokenId = true)
      (allowed : onlyIssuerOrArtistOrAdministrator world msg before tokenId = .ok ()) :
      Administered (.updateSRRMetadata tokenId metadataCID) ({ before with
        _stringStorage := before._stringStorage.set tokenId ._SRR ._METADATA_HASH
          metadataCID }.emit (.UpdateSRRMetadataCID tokenId metadataCID))
  | updateSRRRoyalty {tokenId royaltyReceiver royaltyBasisPoints after}
      (owned : _exists before tokenId = true)
      (allowed : onlyIssuerOrArtistOrAdministrator world msg before tokenId = .ok ())
      (replaced : replaceRoyalty before tokenId royaltyBasisPoints royaltyReceiver = .ok after) :
      Administered (.updateSRRRoyalty tokenId royaltyReceiver royaltyBasisPoints) after
  | updateSRRRoyaltyReceiverMulti {tokenIds royaltyReceiver after}
      (allowed : onlyAdministrator world msg before = .ok ())
      (updated : updateRoyaltyReceivers royaltyReceiver tokenIds before = .ok after) :
      Administered (.updateSRRRoyaltyReceiverMulti tokenIds royaltyReceiver) after
  | setNameRegistryAddress {nameRegistry} (given : nameRegistry ≠ 0)
      (allowed : onlyAdministrator world msg before = .ok ()) :
      Administered (.setNameRegistryAddress nameRegistry)
        { before with nameRegistryAddress := nameRegistry }
  | setTokenURIParts {URIPrefix URIPostfix}
      (allowed : onlyAdministrator world msg before = .ok ()) :
      Administered (.setTokenURIParts URIPrefix URIPostfix) { before with
        _stringStorage := (before._stringStorage.set SRR_GLOBAL_SLOT ._SRR ._URI_PREFIX
          URIPrefix).set SRR_GLOBAL_SLOT ._SRR ._URI_POSTFIX URIPostfix }
  | addCustomHistoryType {historyTypeName}
      (allowed : onlyAdministrator world msg before = .ok ())
      (unknown : before.customHistoryTypeIdByName historyTypeName = 0)
      (room : before.customHistoryTypeCount.toNat + 1 < 2 ^ 256) :
      Administered (.addCustomHistoryType historyTypeName) ({ before with
        customHistoryTypeCount := before.customHistoryTypeCount + 1
        customHistoryTypeNameById := Function.update before.customHistoryTypeNameById
          (before.customHistoryTypeCount + 1) historyTypeName
        customHistoryTypeIdByName := Function.update before.customHistoryTypeIdByName
          historyTypeName (before.customHistoryTypeCount + 1) }.emit
            (.CreateCustomHistoryType (before.customHistoryTypeCount + 1) historyTypeName))
  | setApprovalForAll {operator approved} (other : operator ≠ _msgSender deployment msg) :
      Administered (.setApprovalForAll operator approved) ({ before with
        _operatorApprovals :=
          update₂ before._operatorApprovals (_msgSender deployment msg) operator approved }.emit
            (.ApprovalForAll (_msgSender deployment msg) operator approved))
  | setContractURI {_contractURI} (allowed : onlyAdministrator world msg before = .ok ()) :
      Administered (.setContractURI _contractURI) { before with
        _stringStorage := before._stringStorage.set SRR_GLOBAL_SLOT ._SRR ._CONTRACT_URI
          _contractURI }
  | transferOwnership {newOwner} (allowed : onlyAdministrator world msg before = .ok ())
      (given : newOwner ≠ 0) :
      Administered (.transferOwnership newOwner)
        { before.emit (.OwnershipTransferred before.owner newOwner) with owner := newOwner }
  | setOpenSeaApproveAllKillSwitch {on}
      (allowed : onlyAdministrator world msg before = .ok ()) :
      Administered (.setOpenSeaApproveAllKillSwitch on) { before with
        _boolStorage := before._boolStorage.set SRR_GLOBAL_SLOT ._SRR
          ._OPENSEA_APPROVE_ALL_KILL_SWITCH on }
  | setOpenSeaMetaTxIntegration {proxyRegistryAddress name}
      (allowed : onlyAdministrator world msg before = .ok ()) :
      Administered (.setOpenSeaMetaTxIntegration proxyRegistryAddress name)
        { before with
          _addressStorage := before._addressStorage.set SRR_GLOBAL_SLOT ._SRR
            ._OPENSEA_PROXY_ADDRESS proxyRegistryAddress
          openSeaMetaTx := setDomainSeparator deployment { before with
            _addressStorage := before._addressStorage.set SRR_GLOBAL_SLOT ._SRR
              ._OPENSEA_PROXY_ADDRESS proxyRegistryAddress } name }
  | view {calldata} : Administered (.view calldata) before

end Acceptance

variable {deployment : Deployment} {world : World} {msg : Msg} {call : Call}
  {state state' before middle after : State}

theorem Aside.refl (state : State) : Aside state state :=
  ⟨rfl, rfl, rfl, rfl, rfl, fun _ _ _ _ => rfl, fun _ => rfl, rfl, rfl, [], rfl, by simp⟩

theorem Aside.trans (early : Aside before middle) (late : Aside middle after) :
    Aside before after := by
  obtain ⟨first, grown, quiet⟩ := early.logs
  obtain ⟨second, grown', quiet'⟩ := late.logs
  refine ⟨late.owners.trans early.owners, late.counts.trans early.counts,
    late.approvals.trans early.approvals, late.uints.trans early.uints,
    late.words.trans early.words, ?_, fun _ => (late.locks _).trans (early.locks _),
    late.customHistoryCount.trans early.customHistoryCount, late.nonces.trans early.nonces,
    second ++ first, ?_, ?_⟩
  · exact fun id group key other => (late.strings id group key other).trans
      (early.strings id group key other)
  · rw [grown', grown, List.append_assoc]
  · intro event belongs
    exact (List.mem_append.mp belongs).elim (quiet' event) (quiet event)

theorem Aside.emit {event : Event} (aside : event.aside = true) :
    Aside state (state.emit event) :=
  ⟨rfl, rfl, rfl, rfl, rfl, fun _ _ _ _ => rfl, fun _ => rfl, rfl, rfl, [event], rfl,
    by simpa using aside⟩

theorem Aside.filterMap {B : Type} {read : Event → Option B} (aside : Aside before after)
    (unread : ∀ event, event.aside = true → read event = none) :
    after.logs.filterMap read = before.logs.filterMap read := by
  obtain ⟨fresh, grown, quiet⟩ := aside.logs
  have nothing : fresh.filterMap read = [] :=
    List.filterMap_eq_nil_iff.mpr fun event belongs => unread event (quiet event belongs)
  rw [grown, List.filterMap_append, nothing, List.nil_append]

section Effects

variable {tokenId : Uint256}

theorem saveRoyalties_accepted {basisPoints : Uint16} {receiver : Address}
    (saved : _saveRoyalties state tokenId basisPoints receiver = .ok state') :
    receiver ≠ 0 ∧ basisPoints ≤ 10000 ∧ _exists state tokenId = true ∧
      state' = { state with
        royalties := Function.update state.royalties tokenId ⟨receiver, basisPoints⟩ } := by
  simp only [_saveRoyalties, tokenExists, bind_eq_ok, require_eq_ok, pure_eq_ok] at saved
  obtain ⟨_, received, _, bounded, _, owned, rfl⟩ := saved
  exact ⟨received, bounded, owned, rfl⟩

theorem replaceRoyalty_accepted {basisPoints : Uint16} {receiver : Address}
    (replaced : replaceRoyalty state tokenId basisPoints receiver = .ok state') :
    (state.royalties tokenId).receiver ≠ 0 ∧ (∃ saved,
        _saveRoyalties state tokenId basisPoints receiver = .ok saved ∧
        state' = saved.emit (.RoyaltiesSet tokenId ⟨receiver, basisPoints⟩)) ∨
      (state.royalties tokenId).receiver = 0 ∧ state' = state := by
  unfold replaceRoyalty at replaced
  split at replaced
  · rename_i had
    simp only [bind_eq_ok, pure_eq_ok] at replaced
    obtain ⟨saved, royalties, rfl⟩ := replaced
    exact Or.inl ⟨had, saved, royalties, rfl⟩
  · rename_i unset
    cases replaced
    exact Or.inr ⟨not_not.mp unset, rfl⟩

theorem saveRoyalties_aside {basisPoints : Uint16} {receiver : Address}
    (saved : _saveRoyalties state tokenId basisPoints receiver = .ok state') :
    Aside state state' := by
  obtain ⟨_, _, _, rfl⟩ := saveRoyalties_accepted saved
  exact ⟨rfl, rfl, rfl, rfl, rfl, fun _ _ _ _ => rfl, fun _ => rfl, rfl, rfl, [], rfl, by simp⟩

theorem replaceRoyalty_aside {basisPoints : Uint16} {receiver : Address}
    (replaced : replaceRoyalty state tokenId basisPoints receiver = .ok state') :
    Aside state state' := by
  rcases replaceRoyalty_accepted replaced with ⟨_, saved, royalties, rfl⟩ | ⟨_, rfl⟩
  · exact (saveRoyalties_aside royalties).trans (.emit rfl)
  · exact .refl _

theorem updateRoyaltyReceivers_aside {royaltyReceiver : Address} {tokenIds : List Uint256}
    (updated : updateRoyaltyReceivers royaltyReceiver tokenIds state = .ok state') :
    Aside state state' := by
  induction tokenIds generalizing state with
  | nil =>
      cases updated
      exact .refl _
  | cons tokenId tokenIds ih =>
      simp only [updateRoyaltyReceivers, bind_eq_ok] at updated
      obtain ⟨_, _, replaced, first, rest⟩ := updated
      exact (replaceRoyalty_aside first).trans (ih rest)

-- An update of royalties tells of nothing else.
def LogsRoyalties (before after : State) : Prop :=
  ∃ fresh, after.logs = fresh ++ before.logs ∧
    ∀ event ∈ fresh, ∃ tokenId royalty, event = .RoyaltiesSet tokenId royalty

theorem replaceRoyalty_logs {basisPoints : Uint16} {receiver : Address}
    (replaced : replaceRoyalty state tokenId basisPoints receiver = .ok state') :
    LogsRoyalties state state' := by
  rcases replaceRoyalty_accepted replaced with ⟨_, saved, royalties, rfl⟩ | ⟨_, rfl⟩
  · obtain ⟨_, _, _, rfl⟩ := saveRoyalties_accepted royalties
    exact ⟨[_], rfl, List.forall_mem_singleton.mpr ⟨_, _, rfl⟩⟩
  · exact ⟨[], rfl, List.forall_mem_nil _⟩

theorem updateRoyaltyReceivers_logs {royaltyReceiver : Address} {tokenIds : List Uint256}
    (updated : updateRoyaltyReceivers royaltyReceiver tokenIds state = .ok state') :
    LogsRoyalties state state' := by
  induction tokenIds generalizing state with
  | nil =>
      cases updated
      exact ⟨[], rfl, List.forall_mem_nil _⟩
  | cons tokenId tokenIds ih =>
      simp only [updateRoyaltyReceivers, bind_eq_ok] at updated
      obtain ⟨_, _, replaced, first, rest⟩ := updated
      obtain ⟨early, grown, royalties⟩ := replaceRoyalty_logs first
      obtain ⟨late, grown', royalties'⟩ := ih rest
      refine ⟨late ++ early, ?_, List.forall_mem_append.mpr ⟨royalties', royalties⟩⟩
      rw [grown', grown, List.append_assoc]

theorem LogsRoyalties.reports (logs : LogsRoyalties state state') : Reports call state state' := by
  obtain ⟨fresh, grown, royalties⟩ := logs
  refine ⟨fresh, grown, ?_⟩
  intro event belongs
  obtain ⟨tokenId, royalty, rfl⟩ := royalties event belongs
  exact ⟨rfl, nofun⟩

theorem reports_none (same : state'.logs = state.logs) : Reports call state state' :=
  ⟨[], same, List.forall_mem_nil _⟩

theorem reports_one {event : Event} (grown : state'.logs = event :: state.logs)
    (aside : event.aside = true)
    (told : ∀ tokenId metadataCID, event = .UpdateSRRMetadataCID tokenId metadataCID →
      call = .updateSRRMetadata tokenId metadataCID) : Reports call state state' :=
  ⟨[event], grown, List.forall_mem_singleton.mpr ⟨aside, told⟩⟩

theorem saveSRR_aside (tokenId : Uint256) (isPrimaryIssuer : Bool) (artistAddress : Address) :
    Aside state (_saveSRR state tokenId isPrimaryIssuer artistAddress) :=
  ⟨rfl, rfl, rfl, rfl, rfl, fun _ _ _ _ => rfl, by simp [_saveSRR, Storage.set_apply], rfl, rfl,
    [], rfl, by simp⟩

theorem srrString_aside (id : Uint256) (key : StorageKey) (value : Bytes) :
    Aside state { state with
      _stringStorage := state._stringStorage.set id ._SRR key value } := by
  refine ⟨rfl, rfl, rfl, rfl, rfl, ?_, fun _ => rfl, rfl, rfl, [], rfl, by simp⟩
  intro other group key' apart
  simp [Storage.set_apply, apart]

theorem execute_administered {selfCall : Msg → Call → State → Execution State}
    (ran : (execute deployment world selfCall msg call state).front = some state')
    (aside : call.aside = true) : Administered deployment world msg state call state' := by
  cases call with
  | setTrustedForwarder forwarder =>
      have accepted := Outcome.front_lift ran
      simp only [setTrustedForwarder, _setTrustedForwarder, bind_eq_ok] at accepted
      obtain ⟨_, allowed, accepted⟩ := accepted
      split at accepted
      · cases accepted
      · rename_i given
        cases accepted
        exact .setTrustedForwarder allowed given
  | setMaxCombinedHistoryRecords maxRecords =>
      have accepted := Outcome.front_lift ran
      simp only [setMaxCombinedHistoryRecords, bind_eq_ok, pure_eq_ok] at accepted
      obtain ⟨_, allowed, rfl⟩ := accepted
      exact .setMaxCombinedHistoryRecords allowed
  | updateSRR tokenId isPrimaryIssuer artistAddress =>
      have accepted := Outcome.front_lift ran
      simp only [updateSRR, tokenExists, bind_eq_ok, require_eq_ok, pure_eq_ok] at accepted
      obtain ⟨_, owned, _, allowed, rfl⟩ := accepted
      exact .updateSRR owned allowed
  | updateSRRMetadata tokenId metadataCID =>
      have accepted := Outcome.front_lift ran
      simp only [updateSRRMetadata, tokenExists, bind_eq_ok, require_eq_ok, pure_eq_ok] at accepted
      obtain ⟨_, owned, _, allowed, rfl⟩ := accepted
      exact .updateSRRMetadata owned allowed
  | updateSRRRoyalty tokenId royaltyReceiver royaltyBasisPoints =>
      have accepted := Outcome.front_lift ran
      simp only [updateSRRRoyalty, tokenExists, bind_eq_ok, require_eq_ok] at accepted
      obtain ⟨_, owned, _, allowed, replaced⟩ := accepted
      exact .updateSRRRoyalty owned allowed replaced
  | updateSRRRoyaltyReceiverMulti tokenIds royaltyReceiver =>
      have accepted := Outcome.front_lift ran
      simp only [updateSRRRoyaltyReceiverMulti, bind_eq_ok] at accepted
      obtain ⟨_, allowed, updated⟩ := accepted
      exact .updateSRRRoyaltyReceiverMulti allowed updated
  | setNameRegistryAddress nameRegistry =>
      have accepted := Outcome.front_lift ran
      simp only [setNameRegistryAddress, bind_eq_ok, require_eq_ok, pure_eq_ok] at accepted
      obtain ⟨_, given, _, allowed, rfl⟩ := accepted
      exact .setNameRegistryAddress given allowed
  | setTokenURIParts URIPrefix URIPostfix =>
      have accepted := Outcome.front_lift ran
      simp only [setTokenURIParts, bind_eq_ok, pure_eq_ok] at accepted
      obtain ⟨_, allowed, rfl⟩ := accepted
      exact .setTokenURIParts allowed
  | addCustomHistoryType historyTypeName =>
      have accepted := Outcome.front_lift ran
      simp only [addCustomHistoryType, bind_eq_ok, require_eq_ok, requirePanic_eq_ok, pure_eq_ok]
        at accepted
      obtain ⟨_, allowed, _, unknown, _, room, rfl⟩ := accepted
      exact .addCustomHistoryType allowed unknown room
  | setApprovalForAll operator approved =>
      have accepted := Outcome.front_lift ran
      simp only [setApprovalForAll, bind_eq_ok, require_eq_ok, pure_eq_ok] at accepted
      obtain ⟨_, other, rfl⟩ := accepted
      exact .setApprovalForAll other
  | setContractURI _contractURI =>
      have accepted := Outcome.front_lift ran
      simp only [setContractURI, bind_eq_ok, pure_eq_ok] at accepted
      obtain ⟨_, allowed, rfl⟩ := accepted
      exact .setContractURI allowed
  | transferOwnership newOwner =>
      have accepted := Outcome.front_lift ran
      simp only [transferOwnership, bind_eq_ok, require_eq_ok, pure_eq_ok] at accepted
      obtain ⟨_, allowed, _, given, rfl⟩ := accepted
      exact .transferOwnership allowed given
  | setOpenSeaApproveAllKillSwitch on =>
      have accepted := Outcome.front_lift ran
      simp only [setOpenSeaApproveAllKillSwitch, bind_eq_ok, pure_eq_ok] at accepted
      obtain ⟨_, allowed, rfl⟩ := accepted
      exact .setOpenSeaApproveAllKillSwitch allowed
  | setOpenSeaMetaTxIntegration proxyRegistryAddress name =>
      have accepted := Outcome.front_lift ran
      simp only [setOpenSeaMetaTxIntegration, bind_eq_ok, pure_eq_ok] at accepted
      obtain ⟨_, allowed, rfl⟩ := accepted
      exact .setOpenSeaMetaTxIntegration allowed
  | view calldata =>
      cases ran
      exact .view
  | _ => cases aside

theorem Administered.aside (administered : Administered deployment world msg state call state') :
    Aside state state' := by
  cases administered with
  | setTrustedForwarder _ _ => exact { Aside.refl state with }
  | setMaxCombinedHistoryRecords _ => exact { Aside.refl state with }
  | updateSRR _ _ => exact (saveSRR_aside _ _ _).trans (.emit rfl)
  | updateSRRMetadata _ _ => exact (srrString_aside _ _ _).trans (.emit rfl)
  | updateSRRRoyalty _ _ replaced => exact replaceRoyalty_aside replaced
  | updateSRRRoyaltyReceiverMulti _ updated => exact updateRoyaltyReceivers_aside updated
  | setNameRegistryAddress _ _ => exact { Aside.refl state with }
  | setTokenURIParts _ =>
      exact (srrString_aside SRR_GLOBAL_SLOT _ _).trans (srrString_aside SRR_GLOBAL_SLOT _ _)
  | addCustomHistoryType _ _ _ => exact { @Aside.emit state _ rfl with }
  | setApprovalForAll _ =>
      exact ⟨rfl, rfl, rfl, rfl, rfl, fun _ _ _ _ => rfl, fun _ => rfl, rfl, rfl, [_], rfl,
        by simp [Event.aside]⟩
  | setContractURI _ => exact srrString_aside SRR_GLOBAL_SLOT _ _
  | transferOwnership _ _ =>
      exact ⟨rfl, rfl, rfl, rfl, rfl, fun _ _ _ _ => rfl, fun _ => rfl, rfl, rfl, [_], rfl,
        by simp [Event.aside]⟩
  | setOpenSeaApproveAllKillSwitch _ =>
      exact { Aside.refl state with locks := by simp [Storage.set_apply] }
  | setOpenSeaMetaTxIntegration _ => exact { Aside.refl state with }
  | view => exact .refl state

theorem Administered.reports (administered : Administered deployment world msg state call state') :
    Reports call state state' := by
  cases administered with
  | updateSRR _ _ => exact reports_one rfl rfl nofun
  | updateSRRMetadata _ _ =>
      refine reports_one rfl rfl ?_
      rintro _ _ ⟨⟩
      rfl
  | updateSRRRoyalty _ _ replaced => exact (replaceRoyalty_logs replaced).reports
  | updateSRRRoyaltyReceiverMulti _ updated =>
      exact (updateRoyaltyReceivers_logs updated).reports
  | addCustomHistoryType _ _ _ => exact reports_one rfl rfl nofun
  | setApprovalForAll _ => exact reports_one rfl rfl nofun
  | transferOwnership _ _ => exact reports_one rfl rfl nofun
  | _ => exact reports_none rfl

theorem execute_aside {selfCall : Msg → Call → State → Execution State}
    (ran : (execute deployment world selfCall msg call state).front = some state')
    (aside : call.aside = true) : Aside state state' :=
  (execute_administered ran aside).aside

end Effects

section Inversions

variable {tokenId : Uint256} {from_ to_ : Address}

theorem ownerOf_accepted {owner : Address} (answered : ownerOf state tokenId = .ok owner) :
    state._tokenOwner tokenId ≠ 0 ∧ state._tokenOwner tokenId = owner := by
  simp only [ownerOf, bind_eq_ok, require_eq_ok, pure_eq_ok] at answered
  obtain ⟨_, owned, same⟩ := answered
  exact ⟨bne_iff_ne.mp owned, same⟩

theorem mint_accepted (minted : _mint state to_ tokenId = .ok state') :
    state._tokenOwner tokenId = 0 ∧ to_ ≠ 0 ∧ (state._ownedTokensCount to_).toNat + 1 < 2 ^ 256 ∧
      state' = { state with
        _ownedTokensCount :=
          Function.update state._ownedTokensCount to_ (state._ownedTokensCount to_ + 1)
        _tokenOwner := Function.update state._tokenOwner tokenId to_ }.emit
          (.Transfer 0 to_ tokenId) := by
  simp only [_mint, bind_eq_ok, require_eq_ok, requirePanic_eq_ok, pure_eq_ok] at minted
  obtain ⟨_, recipient, _, absent, _, fits, rfl⟩ := minted
  exact ⟨bne_eq_false_iff_eq.mp absent, recipient, fits, rfl⟩

/-- The counts of the owners after a transfer, one down and one up. -/
def passedCounts (counts : Address → Uint256) (from_ to_ : Address) : Address → Uint256 :=
  let debited := Function.update counts from_ (counts from_ - 1)
  Function.update debited to_ (debited to_ + 1)

theorem transfer_accepted (moved : _transfer state from_ to_ tokenId = .ok state') :
    state._tokenOwner tokenId ≠ 0 ∧ state._tokenOwner tokenId = from_ ∧ to_ ≠ 0 ∧
      0 < (state._ownedTokensCount from_).toNat ∧
      (Function.update state._ownedTokensCount from_ (state._ownedTokensCount from_ - 1)
        to_).toNat + 1 < 2 ^ 256 ∧
      state' = ({ state with
        _tokenApprovals := Function.update state._tokenApprovals tokenId 0
        _ownedTokensCount := passedCounts state._ownedTokensCount from_ to_
        _tokenOwner := Function.update state._tokenOwner tokenId to_ }.emit
          (.Approval from_ 0 tokenId)).emit (.Transfer from_ to_ tokenId) := by
  simp only [_transfer, _approve, bind_eq_ok, require_eq_ok, requirePanic_eq_ok, pure_eq_ok]
    at moved
  obtain ⟨owner, found, _, rfl, _, recipient, _, ⟨_, again, rfl⟩, _, positive, _, fits, rfl⟩ :=
    moved
  obtain ⟨owned, rfl⟩ := ownerOf_accepted found
  obtain ⟨_, rfl⟩ := ownerOf_accepted again
  exact ⟨owned, rfl, recipient, positive, fits, rfl⟩

/-- What `_createSRR` makes of the state of the mint, except for the royalty. -/
def State.recorded (minted : State) (tokenId : Uint256) (isPrimaryIssuer : Bool)
    (artistAddress sender : Address) (metadataCID : Bytes) (lockExternalTransfer_ : Bool) : State :=
  (_saveSRR { minted with
      _addressStorage := minted._addressStorage.set tokenId ._SRR ._ISSUER sender
      _stringStorage := minted._stringStorage.set tokenId ._SRR ._METADATA_HASH metadataCID
      _boolStorage :=
        minted._boolStorage.set tokenId ._SRR ._LOCK_EXTERNAL_TRANSFER lockExternalTransfer_ }
    tokenId isPrimaryIssuer artistAddress).emit
      (.CreateSRR tokenId isPrimaryIssuer artistAddress sender metadataCID lockExternalTransfer_)

variable {isPrimaryIssuer lockExternalTransfer_ : Bool}
  {artistAddress sender royaltyReceiver : Address} {metadataCID : Bytes}
  {royaltyBasisPoints : Uint16}

theorem createSRR_accepted
    (created : _createSRR deployment state isPrimaryIssuer artistAddress metadataCID sender
      lockExternalTransfer_ royaltyReceiver royaltyBasisPoints = .ok (state', tokenId)) :
    metadataCID ≠ [] ∧ generate deployment.evm metadataCID artistAddress = tokenId ∧
      ∃ minted recorded, _mint state sender tokenId = .ok minted ∧
        recorded = minted.recorded tokenId isPrimaryIssuer artistAddress sender metadataCID
          lockExternalTransfer_ ∧
        (royaltyReceiver ≠ 0 ∧ (∃ saved,
          _saveRoyalties recorded tokenId royaltyBasisPoints royaltyReceiver = .ok saved ∧
          state' = saved.emit (.RoyaltiesSet tokenId ⟨royaltyReceiver, royaltyBasisPoints⟩)) ∨
        royaltyReceiver = 0 ∧ state' = recorded) := by
  simp only [_createSRR, bind_eq_ok, require_eq_ok] at created
  obtain ⟨_, given, _, _, _, _, minted, mint, created⟩ := created
  have required : metadataCID ≠ [] := List.ne_nil_of_length_pos given
  split at created
  · rename_i received
    simp only [bind_eq_ok, pure_eq_ok, Prod.mk.injEq] at created
    obtain ⟨saved, royalties, rfl, rfl⟩ := created
    exact ⟨required, rfl, minted, _, mint, rfl, Or.inl ⟨received, saved, royalties, rfl⟩⟩
  · rename_i unreceived
    simp only [pure_eq_ok, Prod.mk.injEq] at created
    obtain ⟨rfl, rfl⟩ := created
    exact ⟨required, rfl, minted, _, mint, rfl, Or.inr ⟨not_not.mp unreceived, rfl⟩⟩

theorem createSRR_aside
    (created : _createSRR deployment state isPrimaryIssuer artistAddress metadataCID sender
      lockExternalTransfer_ royaltyReceiver royaltyBasisPoints = .ok (state', tokenId)) :
    generate deployment.evm metadataCID artistAddress = tokenId ∧
      ∃ minted, _mint state sender tokenId = .ok minted ∧
        Aside (minted.recorded tokenId isPrimaryIssuer artistAddress sender metadataCID
          lockExternalTransfer_) state' := by
  obtain ⟨_, generated, minted, recorded, mint, rfl, royalty⟩ := createSRR_accepted created
  refine ⟨generated, minted, mint, ?_⟩
  rcases royalty with ⟨_, saved, royalties, rfl⟩ | ⟨_, rfl⟩
  · exact (saveRoyalties_aside royalties).trans (.emit rfl)
  · exact .refl _

theorem createSRRFor_accepted
    (created : createSRRFor deployment state isPrimaryIssuer artistAddress metadataCID sender
      lockExternalTransfer_ to_ royaltyReceiver royaltyBasisPoints = .ok (state', tokenId)) :
    ∃ middle, _createSRR deployment state isPrimaryIssuer artistAddress metadataCID sender
        lockExternalTransfer_ royaltyReceiver royaltyBasisPoints = .ok (middle, tokenId) ∧
      (to_ ≠ 0 ∧ _transfer middle sender to_ tokenId = .ok state' ∨
        to_ = 0 ∧ state' = middle) := by
  simp only [createSRRFor, bind_eq_ok] at created
  obtain ⟨⟨middle, token⟩, first, created⟩ := created
  simp only at created
  split at created
  · rename_i passed
    simp only [bind_eq_ok, pure_eq_ok, Prod.mk.injEq] at created
    obtain ⟨last, moved, rfl, rfl⟩ := created
    exact ⟨middle, first, Or.inl ⟨passed, moved⟩⟩
  · rename_i kept
    simp only [pure_eq_ok, Prod.mk.injEq] at created
    obtain ⟨rfl, rfl⟩ := created
    exact ⟨middle, first, Or.inr ⟨not_not.mp kept, rfl⟩⟩

theorem transferSRRByReveal_accepted {reveal : Bytes32} {isIntermediary : Bool}
    (revealed : transferSRRByReveal deployment state to_ reveal tokenId isIntermediary =
      .ok state') :
    state._tokenOwner tokenId ≠ 0 ∧
      deployment.evm.keccak256 (packWord reveal) = (commitmentOf state tokenId).commitment ∧
      _transfer (_clearSRRCommitment (_historyProvenance state tokenId (state._tokenOwner tokenId)
        to_ (commitmentOf state tokenId).historyMetadataHash
        (commitmentOf state tokenId).customHistoryId isIntermediary) tokenId)
          (state._tokenOwner tokenId) to_ tokenId = .ok state' := by
  simp only [transferSRRByReveal, getSRRCommitment, bind_eq_ok, require_eq_ok, pure_eq_ok]
    at revealed
  obtain ⟨_, _, _, ⟨_, _, rfl⟩, _, opened, from_, found, moved⟩ := revealed
  obtain ⟨owned, rfl⟩ := ownerOf_accepted found
  exact ⟨owned, opened, moved⟩

theorem cancelPriorApproval_owners :
    (cancelPriorApproval state tokenId)._tokenOwner = state._tokenOwner := by
  unfold cancelPriorApproval
  split
  · rfl
  · rfl

theorem approveSRRByCommitment_accepted {customHistoryId : Uint256} {commitment : Bytes32}
    {historyMetadataHash : Bytes}
    (approved : _approveSRRByCommitment state tokenId commitment historyMetadataHash
      customHistoryId = .ok state') :
    state._tokenOwner tokenId ≠ 0 ∧ ∃ prior,
      prior = storeCommitment (cancelPriorApproval state tokenId) tokenId commitment
        historyMetadataHash ∧
      (customHistoryId = _NO_CUSTOM_HISTORY ∧ state' = prior.emit
        (.SRRCommitment tokenId (state._tokenOwner tokenId) commitment none) ∨
      customHistoryId ≠ _NO_CUSTOM_HISTORY ∧
        state' = (storeCustomHistory prior tokenId customHistoryId).emit
          (.SRRCommitment tokenId (state._tokenOwner tokenId) commitment
            (some customHistoryId))) := by
  simp only [_approveSRRByCommitment, bind_eq_ok] at approved
  obtain ⟨owner, found, approved⟩ := approved
  obtain ⟨owned, rfl⟩ := ownerOf_accepted found
  simp only [storeCommitment, cancelPriorApproval_owners] at owned
  refine ⟨owned, _, rfl, ?_⟩
  split at approved
  · rename_i absent
    cases approved
    exact Or.inl ⟨absent, by simp only [storeCommitment, cancelPriorApproval_owners]⟩
  · rename_i given
    cases approved
    exact Or.inr ⟨given, by simp only [storeCommitment, cancelPriorApproval_owners]⟩

/-- The view shows nothing of tokens, royalties, commitments and what a creation records. -/
structure Overlooks {A : Type} (view : State → A) : Prop where
  transfer : ∀ {state state' from_ to_ tokenId}, _transfer state from_ to_ tokenId = .ok state' →
    view state' = view state
  mint : ∀ {state state' to_ tokenId}, _mint state to_ tokenId = .ok state' →
    view state' = view state
  saveRoyalties : ∀ {state state' tokenId basisPoints receiver},
    _saveRoyalties state tokenId basisPoints receiver = .ok state' → view state' = view state
  royaltiesSet : ∀ state tokenId royalty,
    view (state.emit (.RoyaltiesSet tokenId royalty)) = view state
  recorded : ∀ state tokenId isPrimaryIssuer artistAddress sender metadataCID
    lockExternalTransfer_, view (state.recorded tokenId isPrimaryIssuer artistAddress sender
      metadataCID lockExternalTransfer_) = view state
  cancelled : ∀ state tokenId, view (cancelPriorApproval state tokenId) = view state
  stored : ∀ state tokenId commitment historyMetadataHash,
    view (storeCommitment state tokenId commitment historyMetadataHash) = view state
  storedHistory : ∀ state tokenId customHistoryId,
    view (storeCustomHistory state tokenId customHistoryId) = view state
  committed : ∀ state tokenId owner commitment customHistoryId,
    view (state.emit (.SRRCommitment tokenId owner commitment customHistoryId)) = view state

namespace Overlooks

variable {A : Type} {view : State → A} (overlooks : Overlooks view)

include overlooks

theorem replaceRoyalty {basisPoints : Uint16} {receiver : Address}
    (replaced : replaceRoyalty state tokenId basisPoints receiver = .ok state') :
    view state' = view state := by
  rcases replaceRoyalty_accepted replaced with ⟨_, saved, royalties, rfl⟩ | ⟨_, rfl⟩
  · exact (overlooks.royaltiesSet _ _ _).trans (overlooks.saveRoyalties royalties)
  · rfl

theorem updateRoyaltyReceivers {royaltyReceiver : Address} {tokenIds : List Uint256}
    (updated : updateRoyaltyReceivers royaltyReceiver tokenIds state = .ok state') :
    view state' = view state := by
  induction tokenIds generalizing state with
  | nil =>
      cases updated
      rfl
  | cons tokenId tokenIds ih =>
      simp only [Registry.updateRoyaltyReceivers, bind_eq_ok] at updated
      obtain ⟨_, _, replaced, replaces, rest⟩ := updated
      exact (ih rest).trans (overlooks.replaceRoyalty replaces)

theorem createSRR
    (created : _createSRR deployment state isPrimaryIssuer artistAddress metadataCID sender
      lockExternalTransfer_ royaltyReceiver royaltyBasisPoints = .ok (state', tokenId)) :
    view state' = view state := by
  obtain ⟨_, _, minted, _, mint, rfl, royalty⟩ := createSRR_accepted created
  have recorded := (overlooks.recorded minted tokenId isPrimaryIssuer artistAddress sender
    metadataCID lockExternalTransfer_).trans (overlooks.mint mint)
  rcases royalty with ⟨_, saved, royalties, rfl⟩ | ⟨_, rfl⟩
  · exact (overlooks.royaltiesSet _ _ _).trans ((overlooks.saveRoyalties royalties).trans recorded)
  · exact recorded

theorem createSRRFor
    (created : createSRRFor deployment state isPrimaryIssuer artistAddress metadataCID sender
      lockExternalTransfer_ to_ royaltyReceiver royaltyBasisPoints = .ok (state', tokenId)) :
    view state' = view state := by
  obtain ⟨middle, first, ⟨_, passed⟩ | ⟨_, rfl⟩⟩ := createSRRFor_accepted created
  · exact (overlooks.transfer passed).trans (overlooks.createSRR first)
  · exact overlooks.createSRR first

theorem approveSRRByCommitment {customHistoryId : Uint256} {commitment : Bytes32}
    {historyMetadataHash : Bytes}
    (approved : _approveSRRByCommitment state tokenId commitment historyMetadataHash
      customHistoryId = .ok state') : view state' = view state := by
  obtain ⟨_, _, rfl, stores⟩ := approveSRRByCommitment_accepted approved
  have stored := (overlooks.stored (cancelPriorApproval state tokenId) tokenId commitment
    historyMetadataHash).trans (overlooks.cancelled state tokenId)
  rcases stores with ⟨_, rfl⟩ | ⟨_, rfl⟩
  · exact (overlooks.committed _ _ _ _ _).trans stored
  · exact (overlooks.committed _ _ _ _ _).trans ((overlooks.storedHistory _ _ _).trans stored)

end Overlooks

end Inversions

theorem forEach_all {check : Uint256 → Result Unit} {values : List Uint256} {i : Nat}
    (checked : forEach check values i = .ok ()) : ∀ value ∈ values, check value = .ok () := by
  induction values generalizing i with
  | nil => simp
  | cons value values ih =>
      simp only [forEach, bind_eq_ok] at checked
      obtain ⟨_, first, _, _, rest⟩ := checked
      rintro other (_ | ⟨_, member⟩)
      · exact first
      · exact ih rest other member

theorem safeTransfer_front {from_ to_ : Address} {tokenId : Uint256} {_data : Bytes}
    (ran : (_safeTransfer deployment world msg state from_ to_ tokenId _data).front = some state') :
    _transfer state from_ to_ tokenId = .ok state' := by
  obtain ⟨middle, moved, ran⟩ := Outcome.front_lift_bind ran
  rw [moved]
  unfold _checkOnERC721Received at ran
  split at ran
  · exact congrArg Except.ok (Option.some.inj ran)
  · exact congrArg Except.ok (Option.some.inj ran)

theorem transferFromWithProvenance_front {to_ : Address} {tokenId customHistoryId : Uint256}
    {historyMetadataHash : Bytes} {isIntermediary : Bool}
    (ran : (_transferFromWithProvenance deployment world msg state to_ tokenId historyMetadataHash
      customHistoryId isIntermediary).front = some state') :
    ∃ from_, ownerOf state tokenId = .ok from_ ∧
      _transfer (_historyProvenance state tokenId from_ to_ historyMetadataHash customHistoryId
        isIntermediary) from_ to_ tokenId = .ok state' := by
  obtain ⟨from_, owned, ran⟩ := Outcome.front_lift_bind ran
  exact ⟨from_, owned, safeTransfer_front ran⟩

theorem Accepted.revealed {to_ : Address} {reveal : Bytes32} {tokenId : Uint256}
    {isIntermediary : Bool} (accepted : Accepted deployment world msg state
      (.transferSRRByReveal to_ reveal tokenId isIntermediary) state') :
    Registry.transferSRRByReveal deployment state to_ reveal tokenId isIntermediary =
      .ok state' := by
  cases accepted with
  | transferSRRByReveal revealed => exact revealed
  | aside aside _ _ => cases aside

theorem execute_accepted {selfCall : Msg → Call → State → Execution State}
    (ran : (execute deployment world selfCall msg call state).front = some state')
    (direct : ∀ userAddress callData sigR sigS sigV,
      call ≠ .executeMetaTransaction userAddress callData sigR sigS sigV) :
    Accepted deployment world msg state call state' := by
  cases call with
  | createSRRFromLicensedUser isPrimaryIssuer artistAddress metadataCID lockExternalTransfer to_
      royaltyReceiver royaltyBasisPoints =>
      have accepted := Outcome.front_lift ran
      simp only [createSRRFromLicensedUser, bind_eq_ok, pure_eq_ok] at accepted
      obtain ⟨_, forwarded, ⟨created, tokenId⟩, creates, rfl⟩ := accepted
      exact .createSRRFromLicensedUser forwarded creates
  | createSRRFromBulk isPrimaryIssuer artistAddress metadataCID issuerAddress lockExternalTransfer
      to_ royaltyReceiver royaltyBasisPoints =>
      obtain ⟨⟨created, tokenId⟩, accepted, ran⟩ := Outcome.front_lift_bind ran
      cases ran
      simp only [createSRRFromBulk, bind_eq_ok] at accepted
      obtain ⟨_, bulk, creates⟩ := accepted
      exact .createSRRFromBulk bulk creates
  | approveSRRByCommitmentFromBulk signer tokenId commitment historyMetadataHash customHistoryId =>
      have accepted := Outcome.front_lift ran
      simp only [approveSRRByCommitmentFromBulk, bind_eq_ok] at accepted
      obtain ⟨_, bulk, _, owner, approved⟩ := accepted
      exact .approveSRRByCommitmentFromBulk bulk owner approved
  | transferFromWithProvenanceFromBulk signer to_ tokenId historyMetadataHash customHistoryId
      isIntermediary =>
      obtain ⟨_, bulk, ran⟩ := Outcome.front_lift_bind ran
      obtain ⟨_, owner, ran⟩ := Outcome.front_lift_bind ran
      obtain ⟨from_, owned, moved⟩ := transferFromWithProvenance_front ran
      exact .transferFromWithProvenanceFromBulk bulk owner owned moved
  | approveSRRByCommitment tokenId commitment historyMetadataHash =>
      have accepted := Outcome.front_lift ran
      simp only [approveSRRByCommitment, bind_eq_ok] at accepted
      obtain ⟨_, allowed, approved⟩ := accepted
      exact .approveSRRByCommitment allowed approved
  | approveSRRByCommitmentWithHistory tokenId commitment historyMetadataHash customHistoryId =>
      have accepted := Outcome.front_lift ran
      simp only [approveSRRByCommitmentWithHistory, bind_eq_ok] at accepted
      obtain ⟨_, allowed, _, known, approved⟩ := accepted
      exact .approveSRRByCommitmentWithHistory allowed known approved
  | cancelSRRCommitment tokenId =>
      have accepted := Outcome.front_lift ran
      simp only [cancelSRRCommitment, bind_eq_ok, pure_eq_ok] at accepted
      obtain ⟨_, allowed, rfl⟩ := accepted
      exact .cancelSRRCommitment allowed
  | transferSRRByReveal to_ reveal tokenId isIntermediary =>
      exact .transferSRRByReveal (Outcome.front_lift ran)
  | addHistory tokenIds customHistoryIds =>
      have accepted := Outcome.front_lift ran
      simp only [addHistory, bind_eq_ok, require_eq_ok, pure_eq_ok] at accepted
      obtain ⟨_, allowed, _, _, _, bounded, _, tokens, _, known, rfl⟩ := accepted
      exact .addHistory allowed bounded tokens known
  | writeCustomHistory name customHistoryTypeId metadata =>
      have accepted := Outcome.front_lift ran
      simp only [writeCustomHistory, bind_eq_ok, require_eq_ok, requirePanic_eq_ok, pure_eq_ok]
        at accepted
      obtain ⟨_, allowed, _, typed, _, room, rfl⟩ := accepted
      exact .writeCustomHistory allowed typed room
  | updateCustomHistory customHistoryId name metadata =>
      have accepted := Outcome.front_lift ran
      simp only [updateCustomHistory, requireCustomHistoryName, bind_eq_ok, require_eq_ok,
        pure_eq_ok] at accepted
      obtain ⟨_, allowed, _, known, _, required, rfl⟩ := accepted
      exact .updateCustomHistory allowed known required
  | transferFrom from_ to_ tokenId =>
      have accepted := Outcome.front_lift ran
      simp only [transferFrom, bind_eq_ok, require_eq_ok] at accepted
      obtain ⟨_, unlocked, _, spends, _, rfl, moved⟩ := accepted
      exact .transferFrom unlocked spends moved
  | safeTransferFrom from_ to_ tokenId _data =>
      obtain ⟨_, unlocked, ran⟩ := Outcome.front_lift_bind ran
      obtain ⟨_, spends, ran⟩ := Outcome.front_lift_bind ran
      obtain ⟨_, approved, ran⟩ := Outcome.front_lift_bind ran
      rw [require_eq_ok.mp approved] at spends
      exact .safeTransferFrom unlocked spends (safeTransfer_front ran)
  | transferFromWithProvenance to_ tokenId historyMetadataHash customHistoryId isIntermediary =>
      obtain ⟨_, allowed, ran⟩ := Outcome.front_lift_bind ran
      obtain ⟨from_, owned, moved⟩ := transferFromWithProvenance_front ran
      exact .transferFromWithProvenance allowed owned moved
  | approve to_ tokenId =>
      have accepted := Outcome.front_lift ran
      simp only [approve, _approve, bind_eq_ok, require_eq_ok, pure_eq_ok] at accepted
      obtain ⟨_, unlocked, tokenOwner, owned, _, other, _, allowed, _, same, rfl⟩ := accepted
      cases Except.ok.inj (owned.symm.trans same)
      exact .approve unlocked owned other allowed
  | setLockExternalTransfer tokenId flag =>
      have accepted := Outcome.front_lift ran
      simp only [setLockExternalTransfer, tokenExists, bind_eq_ok, require_eq_ok, pure_eq_ok]
        at accepted
      obtain ⟨_, allowed, _, owned, rfl⟩ := accepted
      exact .setLockExternalTransfer allowed owned
  | executeMetaTransaction userAddress callData sigR sigS sigV =>
      exact absurd rfl (direct userAddress callData sigR sigS sigV)
  | _ => exact .aside rfl (execute_aside ran rfl) (execute_administered ran rfl).reports

end Startrail.Registry
