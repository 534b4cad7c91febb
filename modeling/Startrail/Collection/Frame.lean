import Startrail.Collection.Core

/-!
What the calls leave alone that set a collection up or edit the description of a
record: the ERC721 storage, the approvals, the locks and the histories. What the other
calls do when they are accepted is in `Accepted`, and what the functions do that these
end in is stated once for each.
-/

namespace Startrail.Collection

/-- The events of these calls. None of them gives a record an empty CID. -/
def Event.aside : Event → Bool
  | .UpdateSRR .. | .OwnershipTransferred .. | .RoyaltiesSet .. => true
  | .UpdateSRRMetadataDigest _ metadataCID => metadataCID != []
  | _ => false

def Call.aside : Call → Bool
  | .initializeCollectionProxy .. | .initializeOwnableFeature .. | .initializeERC721Feature ..
  | .transferOwnership .. | .updateSRR .. | .updateSRRMetadata .. | .updateSRRRoyalty ..
  | .updateSRRRoyaltyReceiverMulti .. | .view .. => true
  | _ => false

structure Aside (before after : State) : Prop where
  owners : after.erc721.ownerOf = before.erc721.ownerOf
  balances : after.erc721.balanceOf = before.erc721.balanceOf
  approved : after.erc721.getApproved = before.erc721.getApproved
  operators : after.erc721.isApprovedForAll = before.erc721.isApprovedForAll
  approvals : after.approvals = before.approvals
  locks : after.tokenIdToLockFlag = before.tokenIdToLockFlag
  logs : ∃ fresh, after.logs = fresh ++ before.logs ∧ ∀ event ∈ fresh, event.aside = true

section Acceptance

variable (evm : Evm) (world : World) (msg : Msg) (before : State)

/-- What a call has passed and done when it comes to a state: the guards in their order and the
state, or the function that the call ends in. -/
inductive Accepted : Call → State → Prop
  | aside {call after} (aside : call.aside = true) (same : Aside before after) :
      Accepted call after
  | createSRR {isPrimaryIssuer artistAddress metadataCID lockExternalTransfer to_ royaltyReceiver
      royaltyBasisPoints middle tokenId}
      (creates : createRecord evm world msg before isPrimaryIssuer artistAddress metadataCID
        (sender world msg before) lockExternalTransfer royaltyReceiver royaltyBasisPoints false =
          .ok (middle, tokenId)) :
      Accepted (.createSRR isPrimaryIssuer artistAddress metadataCID lockExternalTransfer to_
        royaltyReceiver royaltyBasisPoints) (passOn middle (sender world msg before) to_ tokenId)
  | createSRRFromBulk {isPrimaryIssuer artistAddress metadataCID issuerAddress
      lockExternalTransfer to_ royaltyReceiver royaltyBasisPoints middle tokenId}
      (bulk : onlyBulk world msg before = .ok ())
      (owner : onlyCollectionOwner before issuerAddress = .ok ())
      (creates : createRecord evm world msg before isPrimaryIssuer artistAddress metadataCID
        issuerAddress lockExternalTransfer royaltyReceiver royaltyBasisPoints true =
          .ok (middle, tokenId)) :
      Accepted (.createSRRFromBulk isPrimaryIssuer artistAddress metadataCID issuerAddress
        lockExternalTransfer to_ royaltyReceiver royaltyBasisPoints)
        (passOn middle issuerAddress to_ tokenId)
  | addHistory {tokenIds customHistoryIds}
      (bounded : tokenIds.length * customHistoryIds.length ≤
        (getStartrailRegistry world before).maxCombinedHistoryRecords.toNat)
      (tokens : forEach (fun tokenId => do
        onlyExistingToken before tokenId
        requireCustom (sender world msg before = getCollectionOwner before ∨
            sender world msg before = (before.srrs tokenId).issuer ∨
            sender world msg before = (before.srrs tokenId).artist ∨
            sender world msg before = before.erc721.ownerOf tokenId)
          "AddHistoryNotPermitted") tokenIds 0 = .ok ())
      (known : forEach (fun customHistoryId =>
        requireCustom (((getStartrailRegistry world before).getCustomHistoryNameById
          customHistoryId).length ≠ 0) "CustomHistoryDoesNotExist") customHistoryIds 0 = .ok ()) :
      Accepted (.addHistory tokenIds customHistoryIds)
        (before.emit (.History tokenIds customHistoryIds))
  | setLockExternalTransfer {tokenId flag}
      (forwarded : onlyTrustedForwarder world msg before = .ok ())
      (owned : onlyExistingToken before tokenId = .ok ())
      (allowed : sender world msg before = (before.srrs tokenId).issuer ∨
        sender world msg before = getCollectionOwner before) :
      Accepted (.setLockExternalTransfer tokenId flag) ({ before with
        tokenIdToLockFlag := Function.update before.tokenIdToLockFlag tokenId flag }.emit
          (.LockExternalTransferSetLock tokenId flag))
  | transferFrom {from_ to_ id after}
      (moved : transferFrom msg before from_ to_ id = .ok after) :
      Accepted (.transferFrom from_ to_ id) after
  | safeTransferFrom {from_ to_ id data after}
      (moved : transferFrom msg before from_ to_ id = .ok after) :
      Accepted (.safeTransferFrom from_ to_ id data) after
  | approve {spender id}
      (unlocked : onlyExternalTransferUnlocked before id = .ok ())
      (allowed : msg.sender = before.erc721.ownerOf id ∨
        before.erc721.isApprovedForAll (before.erc721.ownerOf id) msg.sender = true) :
      Accepted (.approve spender id) ({ before with
        erc721 := { before.erc721 with
          getApproved := Function.update before.erc721.getApproved id spender } }.emit
            (.Approval (before.erc721.ownerOf id) spender id))
  | setApprovalForAll {operator approved} :
      Accepted (.setApprovalForAll operator approved)
        (setApprovalForAll msg before operator approved)
  | transferFromWithProvenance {to_ tokenId historyMetadataHash customHistoryId isIntermediary}
      (owned : before.erc721.ownerOf tokenId ≠ 0)
      (allowed : sender world msg before = getCollectionOwner before ∨
        sender world msg before = before.erc721.ownerOf tokenId) :
      Accepted (.transferFromWithProvenance to_ tokenId historyMetadataHash customHistoryId
        isIntermediary)
        (_transferFrom (logProvenance before tokenId (before.erc721.ownerOf tokenId) to_
          historyMetadataHash customHistoryId isIntermediary (some (sender world msg before)))
          (before.erc721.ownerOf tokenId) to_ tokenId)
  | approveSRRByCommitment {tokenId commitment historyMetadataHash customHistoryId after}
      (signed : onlyCollectionOwnerOrSRROwner before (sender world msg before) tokenId = .ok ())
      (approved : approveByCommitment world before tokenId commitment historyMetadataHash
        customHistoryId (sender world msg before) = .ok after) :
      Accepted (.approveSRRByCommitment tokenId commitment historyMetadataHash customHistoryId)
        after
  | cancelSRRCommitment {tokenId}
      (signed : onlyCollectionOwnerOrSRROwner before (sender world msg before) tokenId = .ok ()) :
      Accepted (.cancelSRRCommitment tokenId) ((_clearSRRCommitment before tokenId).emit
        (.SRRCommitmentCancelled tokenId (sender world msg before)))
  | transferSRRByReveal {to_ reveal tokenId isIntermediary after}
      (revealed : transferSRRByReveal evm before to_ reveal tokenId isIntermediary = .ok after) :
      Accepted (.transferSRRByReveal to_ reveal tokenId isIntermediary) after
  | approveSRRByCommitmentFromBulk {signer tokenId commitment historyMetadataHash
      customHistoryId after}
      (bulk : onlyBulk world msg before = .ok ())
      (signed : onlyCollectionOwnerOrSRROwner before signer tokenId = .ok ())
      (approved : approveByCommitment world before tokenId commitment historyMetadataHash
        customHistoryId signer = .ok after) :
      Accepted (.approveSRRByCommitmentFromBulk signer tokenId commitment historyMetadataHash
        customHistoryId) after
  | transferFromWithProvenanceFromBulk {signer to_ tokenId historyMetadataHash customHistoryId
      isIntermediary}
      (bulk : onlyBulk world msg before = .ok ())
      (signed : onlyCollectionOwnerOrSRROwner before signer tokenId = .ok ()) :
      Accepted (.transferFromWithProvenanceFromBulk signer to_ tokenId historyMetadataHash
        customHistoryId isIntermediary)
        (_transferFrom (logProvenance before tokenId (before.erc721.ownerOf tokenId) to_
          historyMetadataHash customHistoryId isIntermediary (some signer))
          (before.erc721.ownerOf tokenId) to_ tokenId)

end Acceptance

variable {evm : Evm} {world : World} {msg : Msg} {call : Call}
  {state state' before middle after : State}

theorem Aside.refl (state : State) : Aside state state :=
  ⟨rfl, rfl, rfl, rfl, rfl, rfl, [], rfl, by simp⟩

theorem Aside.trans (early : Aside before middle) (late : Aside middle after) :
    Aside before after := by
  obtain ⟨first, grown, quiet⟩ := early.logs
  obtain ⟨second, grown', quiet'⟩ := late.logs
  refine ⟨late.owners.trans early.owners, late.balances.trans early.balances,
    late.approved.trans early.approved, late.operators.trans early.operators,
    late.approvals.trans early.approvals, late.locks.trans early.locks, second ++ first, ?_, ?_⟩
  · rw [grown', grown, List.append_assoc]
  · intro event belongs
    exact (List.mem_append.mp belongs).elim (quiet' event) (quiet event)

theorem Aside.emit {event : Event} (aside : event.aside = true) :
    Aside state (state.emit event) :=
  ⟨rfl, rfl, rfl, rfl, rfl, rfl, [event], rfl, by simpa using aside⟩

theorem Aside.filterMap {B : Type} {read : Event → Option B} (aside : Aside before after)
    (unread : ∀ event, event.aside = true → read event = none) :
    after.logs.filterMap read = before.logs.filterMap read := by
  obtain ⟨fresh, grown, quiet⟩ := aside.logs
  have nothing : fresh.filterMap read = [] :=
    List.filterMap_eq_nil_iff.mpr fun event belongs => unread event (quiet event belongs)
  rw [grown, List.filterMap_append, nothing, List.nil_append]

theorem Aside.countP {counts : Event → Bool} (aside : Aside before after)
    (uncounted : ∀ event, event.aside = true → counts event = false) :
    after.logs.countP counts = before.logs.countP counts := by
  obtain ⟨fresh, grown, quiet⟩ := aside.logs
  have nothing : fresh.countP counts = 0 := by
    apply List.countP_eq_zero.mpr
    intro event belongs counted
    rw [uncounted event (quiet event belongs)] at counted
    cases counted
  rw [grown, List.countP_append, nothing, Nat.zero_add]

theorem upsertRoyalty_aside (state : State) (tokenId : Uint256) (royaltyReceiver : Address)
    (royaltyBasisPoints : Uint16) :
    Aside state (upsertRoyalty state tokenId royaltyReceiver royaltyBasisPoints) := by
  unfold upsertRoyalty
  split
  · have logged : Aside state
        (state.emit (.RoyaltiesSet tokenId ⟨royaltyReceiver, royaltyBasisPoints⟩)) := .emit rfl
    exact { logged with }
  · exact .refl state

theorem upsertReceivers_aside (state : State) (royaltyReceiver : Address)
    (tokenIds : List Uint256) : Aside state (upsertReceivers royaltyReceiver tokenIds state) := by
  induction tokenIds generalizing state with
  | nil => exact .refl state
  | cons tokenId tokenIds ih => exact (upsertRoyalty_aside state tokenId _ _).trans (ih _)

theorem entry_aside {transaction : Transaction}
    (ran : (entry evm transaction state).front = some state')
    (aside : transaction.call.aside = true) : Aside state state' := by
  obtain ⟨world, msg, call⟩ := transaction
  cases call with
  | initializeCollectionProxy _featureRegistry =>
      have accepted := Outcome.front_lift ran
      simp only [initializeCollectionProxy, bind_eq_ok, pure_eq_ok] at accepted
      obtain ⟨_, _, rfl⟩ := accepted
      exact { Aside.refl state with }
  | initializeOwnableFeature initialOwner =>
      have accepted := Outcome.front_lift ran
      simp only [initializeOwnableFeature, bind_eq_ok, pure_eq_ok] at accepted
      obtain ⟨_, _, rfl⟩ := accepted
      exact { Aside.refl state with }
  | initializeERC721Feature name_ symbol_ =>
      have accepted := Outcome.front_lift ran
      simp only [initializeERC721Feature, bind_eq_ok, pure_eq_ok] at accepted
      obtain ⟨_, _, rfl⟩ := accepted
      exact { Aside.refl state with }
  | transferOwnership newOwner =>
      have accepted := Outcome.front_lift ran
      simp only [transferOwnership, bind_eq_ok, pure_eq_ok] at accepted
      obtain ⟨_, _, _, _, _, _, rfl⟩ := accepted
      exact { @Aside.emit state (.OwnershipTransferred state.owner newOwner) rfl with }
  | updateSRR tokenId isPrimaryIssuer artistAddress =>
      have accepted := Outcome.front_lift ran
      simp only [updateSRR, bind_eq_ok, pure_eq_ok] at accepted
      obtain ⟨_, _, _, _, _, _, _, _, rfl⟩ := accepted
      exact ⟨rfl, rfl, rfl, rfl, rfl, rfl, [_], rfl, by simp [Event.aside]⟩
  | updateSRRMetadata tokenId metadataCID =>
      have accepted := Outcome.front_lift ran
      simp only [updateSRRMetadata, bind_eq_ok, pure_eq_ok] at accepted
      obtain ⟨_, _, _, given, _, _, rfl⟩ := accepted
      have described : metadataCID ≠ [] := by
        rintro rfl
        simp [requireCustom] at given
      exact ⟨rfl, rfl, rfl, rfl, rfl, rfl, [_], rfl, by simp [Event.aside, described]⟩
  | updateSRRRoyalty tokenId royaltyReceiver royaltyBasisPoints =>
      have accepted := Outcome.front_lift ran
      simp only [updateSRRRoyalty, bind_eq_ok, pure_eq_ok] at accepted
      obtain ⟨_, _, _, _, _, _, _, _, _, _, rfl⟩ := accepted
      exact upsertRoyalty_aside state tokenId royaltyReceiver royaltyBasisPoints
  | updateSRRRoyaltyReceiverMulti tokenIds royaltyReceiver =>
      have accepted := Outcome.front_lift ran
      simp only [updateSRRRoyaltyReceiverMulti, bind_eq_ok, pure_eq_ok] at accepted
      obtain ⟨_, _, _, _, _, _, rfl⟩ := accepted
      exact upsertReceivers_aside state royaltyReceiver tokenIds
  | view calldata =>
      cases ran
      exact .refl state
  | _ => cases aside

section Inversions

variable {tokenId : Uint256} {from_ to_ : Address}

theorem mint_accepted (minted : _mint state to_ tokenId = .ok state') :
    state.erc721.ownerOf tokenId = 0 ∧ to_ ≠ 0 ∧
      state' = { state with
        erc721 := { state.erc721 with
          balanceOf :=
            Function.update state.erc721.balanceOf to_ (state.erc721.balanceOf to_ + 1)
          ownerOf := Function.update state.erc721.ownerOf tokenId to_ } }.emit
            (.Transfer 0 to_ tokenId) := by
  simp only [_mint, bind_eq_ok, require_eq_ok, pure_eq_ok] at minted
  obtain ⟨_, recipient, _, unowned, rfl⟩ := minted
  exact ⟨unowned, recipient, rfl⟩

def MayTransfer (msg : Msg) (state : State) (tokenId : Uint256) : Prop :=
  let owner := state.erc721.ownerOf tokenId
  msg.sender = owner ∨ state.erc721.isApprovedForAll owner msg.sender = true ∨
    msg.sender = state.erc721.getApproved tokenId

/-- What is checked before a token is moved by ERC721 means. -/
structure MayMove (msg : Msg) (state : State) (from_ to_ : Address) (tokenId : Uint256) :
    Prop where
  unlocked : state.tokenIdToLockFlag tokenId = false
  owner : from_ = state.erc721.ownerOf tokenId
  recipient : to_ ≠ 0
  spender : MayTransfer msg state tokenId

theorem transferFrom_eq_ok : transferFrom msg state from_ to_ tokenId = .ok state' ↔
    MayMove msg state from_ to_ tokenId ∧ state' = _transferFrom state from_ to_ tokenId := by
  simp only [transferFrom, onlyExternalTransferUnlocked, bind_eq_ok, require_eq_ok,
    requireCustom_eq_ok, pure_eq_ok]
  constructor
  · rintro ⟨_, unlocked, _, rfl, _, recipient, _, spender, rfl⟩
    exact ⟨⟨unlocked, rfl, recipient, spender⟩, rfl⟩
  · rintro ⟨⟨unlocked, rfl, recipient, spender⟩, rfl⟩
    exact ⟨(), unlocked, (), rfl, (), recipient, (), spender, rfl⟩

theorem transferFrom_accepted (moved : transferFrom msg state from_ to_ tokenId = .ok state') :
    state.tokenIdToLockFlag tokenId = false ∧ MayTransfer msg state tokenId ∧
      to_ ≠ 0 ∧ from_ = state.erc721.ownerOf tokenId ∧
      state' = _transferFrom state from_ to_ tokenId := by
  obtain ⟨may, moved⟩ := transferFrom_eq_ok.mp moved
  exact ⟨may.unlocked, may.spender, may.recipient, may.owner, moved⟩

theorem transferSRRByReveal_accepted {reveal : Bytes32} {isIntermediary : Bool}
    (revealed : transferSRRByReveal evm state to_ reveal tokenId isIntermediary = .ok state') :
    state.erc721.ownerOf tokenId ≠ 0 ∧
      evm.keccak256 (packWord reveal) = (state.approvals tokenId).commitment ∧
      state' = _transferFrom (_clearSRRCommitment (logProvenance state tokenId
        (state.erc721.ownerOf tokenId) to_ (state.approvals tokenId).historyMetadataHash
        (state.approvals tokenId).customHistoryId isIntermediary none) tokenId)
          (state.erc721.ownerOf tokenId) to_ tokenId := by
  simp only [transferSRRByReveal, onlyExistingToken, bind_eq_ok, requireCustom_eq_ok, pure_eq_ok]
    at revealed
  obtain ⟨_, owned, _, opened, rfl⟩ := revealed
  exact ⟨bne_iff_ne.mp owned, opened, rfl⟩

theorem approveByCommitment_accepted {customHistoryId : Uint256} {commitment : Bytes32}
    {historyMetadataHash : Bytes} {signer : Address}
    (approved : approveByCommitment world state tokenId commitment historyMetadataHash
      customHistoryId signer = .ok state') :
    ¬(0 < customHistoryId.toNat ∧
      ((getStartrailRegistry world state).getCustomHistoryNameById customHistoryId).length = 0) ∧
    ∃ prior, prior = cancelPriorApproval state tokenId signer ∧
      (customHistoryId = NO_CUSTOM_HISTORY ∧
        state' = (setApproval prior tokenId ⟨commitment, historyMetadataHash,
          (prior.approvals tokenId).customHistoryId⟩).emit
            (.SRRCommitment tokenId commitment none signer) ∨
      customHistoryId ≠ NO_CUSTOM_HISTORY ∧
        state' = (setApproval prior tokenId ⟨commitment, historyMetadataHash,
          customHistoryId⟩).emit
            (.SRRCommitment tokenId commitment (some customHistoryId) signer)) := by
  simp only [approveByCommitment, bind_eq_ok, requireCustom_eq_ok] at approved
  obtain ⟨_, known, approved⟩ := approved
  refine ⟨known, _, rfl, ?_⟩
  split at approved
  · rename_i absent
    cases approved
    exact Or.inl ⟨absent, rfl⟩
  · rename_i given
    cases approved
    exact Or.inr ⟨given, rfl⟩

/-- What `createRecord` makes of the state of the mint, except for the royalty. -/
def State.recorded (minted : State) (tokenId : Uint256) (srr : SRR) (metadataCID : Bytes)
    (lockExternalTransfer : Bool) : State :=
  (lockIf minted tokenId lockExternalTransfer).emit
    (.CreateSRR tokenId srr metadataCID lockExternalTransfer)

theorem createRecord_described {isPrimaryIssuer lockExternalTransfer fromBulk : Bool}
    {artistAddress issuerAddress royaltyReceiver : Address} {metadataCID : Bytes}
    {royaltyBasisPoints : Uint16}
    (creates : createRecord evm world msg state isPrimaryIssuer artistAddress metadataCID
      issuerAddress lockExternalTransfer royaltyReceiver royaltyBasisPoints fromBulk =
        .ok (state', tokenId)) : metadataCID ≠ [] := by
  rintro rfl
  simp [createRecord, requireCustom, bind_eq_ok] at creates

theorem createRecord_accepted {isPrimaryIssuer lockExternalTransfer fromBulk : Bool}
    {artistAddress issuerAddress royaltyReceiver : Address} {metadataCID : Bytes}
    {royaltyBasisPoints : Uint16}
    (creates : createRecord evm world msg state isPrimaryIssuer artistAddress metadataCID
      issuerAddress lockExternalTransfer royaltyReceiver royaltyBasisPoints fromBulk =
        .ok (state', tokenId)) :
    tokenId = generate evm metadataCID artistAddress ∧
      (fromBulk = false → msg.sender = trustedForwarder world state ∧
        sender world msg state = state.owner) ∧
      (royaltyReceiver ≠ 0 → royaltyBasisPoints ≤ 10000) ∧
      ∃ minted, _mint (saveSRR state tokenId ⟨isPrimaryIssuer, artistAddress, issuerAddress⟩
          metadataCID) issuerAddress tokenId = .ok minted ∧
        state' = upsertRoyalty (minted.recorded tokenId
          ⟨isPrimaryIssuer, artistAddress, issuerAddress⟩ metadataCID lockExternalTransfer)
            tokenId royaltyReceiver royaltyBasisPoints := by
  simp only [createRecord, bind_eq_ok, pure_eq_ok, Prod.mk.injEq] at creates
  obtain ⟨_, admitted, _, _, _, _, _, bounded, _, _, minted, mints, rfl, rfl⟩ := creates
  refine ⟨rfl, ?_, ?_, minted, mints, rfl⟩
  · intro direct
    rw [if_pos direct] at admitted
    simpa only [onlyTrustedForwarder, onlyCollectionOwner, bind_eq_ok, requireCustom_eq_ok,
      exists_prop, exists_const] using admitted
  · intro received
    rw [if_pos received] at bounded
    exact requireCustom_eq_ok.mp bounded

end Inversions

theorem forEach_all {check : Uint256 → Result Unit} {values : List Uint256} {i : Nat}
    (checked : forEach check values i = .ok ()) : ∀ value ∈ values, check value = .ok () := by
  induction values generalizing i with
  | nil => simp
  | cons value values ih =>
      simp only [forEach, bind_eq_ok] at checked
      obtain ⟨_, first, _, _, rest⟩ := checked
      rintro other (_ | ⟨_, member⟩)
      · exact first
      · exact ih rest other member

theorem safeTransferFromReceivedCheck_front {sender from_ to_ : Address} {id : Uint256}
    {data : Bytes}
    (ran : (safeTransferFromReceivedCheck world state sender from_ to_ id data).front =
      some state') : state' = state := by
  unfold safeTransferFromReceivedCheck at ran
  split at ran
  · exact (Option.some.inj ran).symm
  · exact (Option.some.inj ran).symm

theorem Accepted.revealed {to_ : Address} {reveal : Bytes32} {tokenId : Uint256}
    {isIntermediary : Bool} (accepted : Accepted evm world msg state
      (.transferSRRByReveal to_ reveal tokenId isIntermediary) state') :
    Collection.transferSRRByReveal evm state to_ reveal tokenId isIntermediary = .ok state' := by
  cases accepted with
  | transferSRRByReveal revealed => exact revealed
  | aside aside _ => cases aside

theorem entry_accepted {transaction : Transaction}
    (ran : (entry evm transaction state).front = some state') :
    Accepted evm transaction.world transaction.msg state transaction.call state' := by
  obtain ⟨world, msg, call⟩ := transaction
  cases call with
  | createSRR isPrimaryIssuer artistAddress metadataCID lockExternalTransfer to_ royaltyReceiver
      royaltyBasisPoints =>
      have accepted := Outcome.front_lift ran
      simp only [createSRR, bind_eq_ok, pure_eq_ok] at accepted
      obtain ⟨⟨middle, tokenId⟩, creates, rfl⟩ := accepted
      exact .createSRR creates
  | createSRRFromBulk isPrimaryIssuer artistAddress metadataCID issuerAddress lockExternalTransfer
      to_ royaltyReceiver royaltyBasisPoints =>
      obtain ⟨⟨last, token⟩, accepted, ran⟩ := Outcome.front_lift_bind ran
      cases ran
      simp only [createSRRFromBulk, bind_eq_ok, pure_eq_ok, Prod.mk.injEq] at accepted
      obtain ⟨_, bulk, _, owner, ⟨middle, tokenId⟩, creates, rfl, _⟩ := accepted
      exact .createSRRFromBulk bulk owner creates
  | addHistory tokenIds customHistoryIds =>
      have accepted := Outcome.front_lift ran
      simp only [addHistory, bind_eq_ok, pure_eq_ok] at accepted
      obtain ⟨_, _, _, bounded, _, tokens, _, known, rfl⟩ := accepted
      exact .addHistory (requireCustom_eq_ok.mp bounded) tokens known
  | setLockExternalTransfer tokenId flag =>
      have accepted := Outcome.front_lift ran
      simp only [setLockExternalTransfer, bind_eq_ok, pure_eq_ok] at accepted
      obtain ⟨_, forwarded, _, owned, _, allowed, rfl⟩ := accepted
      exact .setLockExternalTransfer forwarded owned (requireCustom_eq_ok.mp allowed)
  | transferFrom from_ to_ id => exact .transferFrom (Outcome.front_lift ran)
  | safeTransferFrom from_ to_ id data =>
      obtain ⟨middle, moved, ran⟩ := Outcome.front_lift_bind ran
      have same := safeTransferFromReceivedCheck_front ran
      subst same
      exact .safeTransferFrom moved
  | approve spender id =>
      have accepted := Outcome.front_lift ran
      simp only [approve, bind_eq_ok, require_eq_ok, pure_eq_ok] at accepted
      obtain ⟨_, unlocked, _, allowed, rfl⟩ := accepted
      exact .approve unlocked allowed
  | setApprovalForAll operator approved =>
      cases ran
      exact .setApprovalForAll
  | transferFromWithProvenance to_ tokenId historyMetadataHash customHistoryId isIntermediary =>
      obtain ⟨tokenOwner, owned, ran⟩ := Outcome.front_lift_bind ran
      simp only [ownerOf, bind_eq_ok, require_eq_ok, pure_eq_ok] at owned
      obtain ⟨_, owned, rfl⟩ := owned
      obtain ⟨_, allowed, ran⟩ := Outcome.front_lift_bind ran
      have same := safeTransferFromReceivedCheck_front ran
      subst same
      exact .transferFromWithProvenance owned (require_eq_ok.mp allowed)
  | approveSRRByCommitment tokenId commitment historyMetadataHash customHistoryId =>
      have accepted := Outcome.front_lift ran
      simp only [approveSRRByCommitment, bind_eq_ok] at accepted
      obtain ⟨_, signed, approved⟩ := accepted
      exact .approveSRRByCommitment signed approved
  | cancelSRRCommitment tokenId =>
      have accepted := Outcome.front_lift ran
      simp only [cancelSRRCommitment, bind_eq_ok, pure_eq_ok] at accepted
      obtain ⟨_, signed, rfl⟩ := accepted
      exact .cancelSRRCommitment signed
  | transferSRRByReveal to_ reveal tokenId isIntermediary =>
      exact .transferSRRByReveal (Outcome.front_lift ran)
  | approveSRRByCommitmentFromBulk signer tokenId commitment historyMetadataHash
      customHistoryId =>
      have accepted := Outcome.front_lift ran
      simp only [approveSRRByCommitmentFromBulk, bind_eq_ok] at accepted
      obtain ⟨_, bulk, _, signed, approved⟩ := accepted
      exact .approveSRRByCommitmentFromBulk bulk signed approved
  | transferFromWithProvenanceFromBulk signer to_ tokenId historyMetadataHash customHistoryId
      isIntermediary =>
      obtain ⟨_, bulk, ran⟩ := Outcome.front_lift_bind ran
      obtain ⟨_, signed, ran⟩ := Outcome.front_lift_bind ran
      have same := safeTransferFromReceivedCheck_front ran
      subst same
      exact .transferFromWithProvenanceFromBulk bulk signed
  | _ => exact .aside rfl (entry_aside ran rfl)

end Startrail.Collection
