import Startrail.Commitments
import Startrail.Registry.Accounting

/-!
Who may rewrite the record of a token of the registry. `details` is all that is stored
under a token's id besides its owner and its approved address, and `Edits` is what a
call has checked and what it makes of the details of one token.
-/

namespace Startrail.Registry

structure SRR where
  isPrimaryIssuer : Bool
  artistAddress : Address
  issuer : Address
deriving DecidableEq

def getSRR (state : State) (tokenId : Uint256) : Result (SRR × Bytes32 × Bytes) := do
  tokenExists state tokenId
  pure (⟨state._boolStorage tokenId ._SRR ._IS_PRIMARY_ISSUER,
      state._addressStorage tokenId ._SRR ._ARTIST_ADDRESS,
      state._addressStorage tokenId ._SRR ._ISSUER⟩,
    state._bytes32Storage tokenId ._SRR ._METADATA_HASH,
    state._stringStorage tokenId ._SRR ._METADATA_HASH)

def lockExternalTransfer (state : State) (tokenId : Uint256) : Bool :=
  state._boolStorage tokenId ._SRR ._LOCK_EXTERNAL_TRANSFER

structure Details where
  srr : SRR
  metadataDigest : Bytes32
  metadataCID : Bytes
  lockExternalTransfer : Bool
  royalty : RoyaltyInfo
  commitment : Approval
deriving DecidableEq

def Details.blank : Details := ⟨⟨false, 0, 0⟩, 0, [], false, ⟨0, 0⟩, Approval.none⟩

def details (state : State) (tokenId : Uint256) : Details where
  srr := ⟨state._boolStorage tokenId ._SRR ._IS_PRIMARY_ISSUER,
    state._addressStorage tokenId ._SRR ._ARTIST_ADDRESS,
    state._addressStorage tokenId ._SRR ._ISSUER⟩
  metadataDigest := state._bytes32Storage tokenId ._SRR ._METADATA_HASH
  metadataCID := state._stringStorage tokenId ._SRR ._METADATA_HASH
  lockExternalTransfer := lockExternalTransfer state tokenId
  royalty := state.royalties tokenId
  commitment := commitmentOf state tokenId

/-- The arguments of the calls that create a record. -/
structure Creation where
  isPrimaryIssuer : Bool
  artistAddress : Address
  metadataCID : Bytes
  issuerAddress : Address
  lockExternalTransfer : Bool
  to_ : Address
  royaltyReceiver : Address
  royaltyBasisPoints : Uint16

def Call.creation (msg : Msg) (state : State) : Call → Option Creation
  | .createSRRFromLicensedUser isPrimaryIssuer artistAddress metadataCID lockExternalTransfer to_
      royaltyReceiver royaltyBasisPoints =>
      some ⟨isPrimaryIssuer, artistAddress, metadataCID, sender msg state, lockExternalTransfer,
        to_, royaltyReceiver, royaltyBasisPoints⟩
  | .createSRRFromBulk isPrimaryIssuer artistAddress metadataCID issuerAddress lockExternalTransfer
      to_ royaltyReceiver royaltyBasisPoints =>
      some ⟨isPrimaryIssuer, artistAddress, metadataCID, issuerAddress, lockExternalTransfer, to_,
        royaltyReceiver, royaltyBasisPoints⟩
  | _ => none

namespace Creation

variable (creation : Creation)

def tokenId (deployment : Deployment) : Uint256 :=
  generate deployment.evm creation.metadataCID creation.artistAddress

def srr : SRR := ⟨creation.isPrimaryIssuer, creation.artistAddress, creation.issuerAddress⟩

-- A royalty is saved only if there is a receiver.
def written (old : Details) : Details :=
  { old with
    srr := creation.srr
    metadataCID := creation.metadataCID
    lockExternalTransfer := creation.lockExternalTransfer
    royalty := if creation.royaltyReceiver ≠ 0 then
        ⟨creation.royaltyReceiver, creation.royaltyBasisPoints⟩
      else old.royalty }

end Creation

section Authority

variable (deployment : Deployment) (world : World) (msg : Msg) (before : State)

def ByAdministrator : Prop :=
  sender msg before = (world.nameRegistry before.nameRegistryAddress).administrator

def ByIssuer (tokenId : Uint256) : Prop := sender msg before = (details before tokenId).srr.issuer

def ByEditor (tokenId : Uint256) : Prop :=
  ByAdministrator world msg before ∨ ByIssuer msg before tokenId ∨
    sender msg before = (details before tokenId).srr.artistAddress

def ByOwner (tokenId : Uint256) : Prop :=
  sender msg before = before._tokenOwner tokenId ∨ ByAdministrator world msg before

/-- The calls that set or cancel a commitment, each with what it has checked. -/
inductive Commits (tokenId : Uint256) : Call → Prop
  | approveSRRByCommitment (commitment : Bytes32) (historyMetadataHash : Bytes) :
      ByOwner world msg before tokenId →
      Commits tokenId (.approveSRRByCommitment tokenId commitment historyMetadataHash)
  | approveSRRByCommitmentWithHistory (commitment : Bytes32) (historyMetadataHash : Bytes)
      (customHistoryId : Uint256) : ByOwner world msg before tokenId →
      Commits tokenId (.approveSRRByCommitmentWithHistory tokenId commitment historyMetadataHash
        customHistoryId)
  | approveSRRByCommitmentFromBulk (commitment : Bytes32) (historyMetadataHash : Bytes)
      (customHistoryId : Uint256) : FromBulk world msg before →
      Commits tokenId (.approveSRRByCommitmentFromBulk (before._tokenOwner tokenId) tokenId
        commitment historyMetadataHash customHistoryId)
  | cancelSRRCommitment : ByOwner world msg before tokenId →
      Commits tokenId (.cancelSRRCommitment tokenId)

inductive Edits (tokenId : Uint256) : Call → Details → Prop
  | kept (call : Call) : Edits tokenId call (details before tokenId)
  | created {call : Call} {creation : Creation} : call.creation msg before = some creation →
      creation.tokenId deployment = tokenId → before._tokenOwner tokenId = 0 →
      Edits tokenId call (creation.written (details before tokenId))
  | updateSRR (isPrimaryIssuer : Bool) (artistAddress : Address) :
      before._tokenOwner tokenId ≠ 0 → ByEditor world msg before tokenId →
      Edits tokenId (.updateSRR tokenId isPrimaryIssuer artistAddress)
        { details before tokenId with
          srr := ⟨isPrimaryIssuer, artistAddress, (details before tokenId).srr.issuer⟩ }
  | updateSRRMetadata (metadataCID : Bytes) : before._tokenOwner tokenId ≠ 0 →
      ByEditor world msg before tokenId → Edits tokenId (.updateSRRMetadata tokenId metadataCID)
        { details before tokenId with metadataCID := metadataCID }
  | updateSRRRoyalty (royaltyReceiver : Address) (royaltyBasisPoints : Uint16) :
      before._tokenOwner tokenId ≠ 0 → ByEditor world msg before tokenId →
      (details before tokenId).royalty.receiver ≠ 0 →
      Edits tokenId (.updateSRRRoyalty tokenId royaltyReceiver royaltyBasisPoints)
        { details before tokenId with royalty := ⟨royaltyReceiver, royaltyBasisPoints⟩ }
  | updateSRRRoyaltyReceiverMulti {tokenIds : List Uint256} (royaltyReceiver : Address) :
      before._tokenOwner tokenId ≠ 0 → ByAdministrator world msg before →
      (details before tokenId).royalty.receiver ≠ 0 → tokenId ∈ tokenIds →
      Edits tokenId (.updateSRRRoyaltyReceiverMulti tokenIds royaltyReceiver)
        { details before tokenId with
          royalty := ⟨royaltyReceiver, (details before tokenId).royalty.basisPoints⟩ }
  | setLockExternalTransfer (flag : Bool) : before._tokenOwner tokenId ≠ 0 →
      ByIssuer msg before tokenId ∨ ByAdministrator world msg before →
      Edits tokenId (.setLockExternalTransfer tokenId flag)
        { details before tokenId with lockExternalTransfer := flag }
  | committed {call : Call} (commitment : Approval) : before._tokenOwner tokenId ≠ 0 →
      Commits world msg before tokenId call →
      Edits tokenId call { details before tokenId with commitment := commitment }
  | transferSRRByReveal (to_ : Address) (reveal : Bytes32) (isIntermediary : Bool) :
      before._tokenOwner tokenId ≠ 0 →
      Edits tokenId (.transferSRRByReveal to_ reveal tokenId isIntermediary)
        { details before tokenId with commitment := Approval.none }

end Authority

variable {deployment : Deployment} {world : World} {msg : Msg} {state state' : State}
  {tokenId : Uint256} {call : Call}

section Effects

theorem Edits.silent (same : details state' tokenId = details state tokenId) (call : Call) :
    Edits deployment world msg state tokenId call (details state' tokenId) := by
  rw [same]
  exact .kept call

theorem details_emit (event : Event) (tokenId : Uint256) :
    details (state.emit event) tokenId = details state tokenId := rfl

theorem onlyIssuerOrArtistOrAdministrator_byEditor
    (accepted : onlyIssuerOrArtistOrAdministrator world msg state tokenId = .ok ()) :
    ByEditor world msg state tokenId := by
  unfold onlyIssuerOrArtistOrAdministrator at accepted
  split at accepted
  · rename_i administrator
    exact Or.inl (beq_iff_eq.mp administrator).symm
  · split at accepted
    · rename_i issuer
      exact Or.inr (Or.inl (beq_iff_eq.mp issuer))
    · exact Or.inr (Or.inr (beq_iff_eq.mp (require_eq_ok.mp accepted)))

theorem onlyAdministrator_byAdministrator (accepted : onlyAdministrator world msg state = .ok ()) :
    ByAdministrator world msg state :=
  (beq_iff_eq.mp (require_eq_ok.mp accepted)).symm

theorem onlySRROwnerOrAdministrator_byOwner
    (accepted : onlySRROwnerOrAdministrator world msg state tokenId = .ok ()) :
    state._tokenOwner tokenId ≠ 0 ∧ ByOwner world msg state tokenId := by
  simp only [onlySRROwnerOrAdministrator, bind_eq_ok, ownerOf_eq_ok, require_eq_ok] at accepted
  obtain ⟨_, ⟨owned, rfl⟩, owner | administrator⟩ := accepted
  · exact ⟨owned, Or.inl owner.symm⟩
  · exact ⟨owned, Or.inr (beq_iff_eq.mp administrator).symm⟩

theorem transfer_details {from_ to_ : Address} {moved : Uint256}
    (transferred : _transfer state from_ to_ moved = .ok state') :
    details state' tokenId = details state tokenId := by
  obtain ⟨_, _, _, _, _, rfl⟩ := transfer_accepted transferred
  rfl

theorem saveRoyalties_details {basisPoints : Uint16} {receiver : Address} {saved : Uint256}
    (saves : _saveRoyalties state saved basisPoints receiver = .ok state') :
    details state' tokenId = if tokenId = saved then
      { details state tokenId with royalty := ⟨receiver, basisPoints⟩ } else
      details state tokenId := by
  obtain ⟨_, _, _, rfl⟩ := saveRoyalties_accepted saves
  split
  · rename_i same
    subst same
    simp [details, lockExternalTransfer, commitmentOf]
  · rename_i other
    simp [details, lockExternalTransfer, commitmentOf, other]

theorem replaceRoyalty_details {basisPoints : Uint16} {receiver : Address} {replaced : Uint256}
    (replaces : replaceRoyalty state replaced basisPoints receiver = .ok state') :
    details state' tokenId =
      if tokenId = replaced ∧ (details state tokenId).royalty.receiver ≠ 0 then
        { details state tokenId with royalty := ⟨receiver, basisPoints⟩ }
      else details state tokenId := by
  rcases replaceRoyalty_accepted replaces with ⟨had, saved, saves, rfl⟩ | ⟨unset, rfl⟩
  · refine (saveRoyalties_details saves).trans ?_
    by_cases same : tokenId = replaced
    · subst same
      rw [if_pos rfl, if_pos ⟨rfl, had⟩]
    · rw [if_neg same, if_neg fun both => same both.1]
  · rw [if_neg]
    rintro ⟨rfl, had⟩
    exact had unset

theorem updateRoyaltyReceivers_details {royaltyReceiver : Address} {tokenIds : List Uint256}
    (updated : updateRoyaltyReceivers royaltyReceiver tokenIds state = .ok state') :
    details state' tokenId = details state tokenId ∨
      (tokenId ∈ tokenIds ∧ state._tokenOwner tokenId ≠ 0 ∧
        (details state tokenId).royalty.receiver ≠ 0 ∧
        details state' tokenId = { details state tokenId with
          royalty := ⟨royaltyReceiver, (details state tokenId).royalty.basisPoints⟩ }) := by
  induction tokenIds generalizing state with
  | nil =>
      cases updated
      exact Or.inl rfl
  | cons first tokenIds ih =>
      simp only [updateRoyaltyReceivers, tokenExists, bind_eq_ok, require_eq_ok] at updated
      obtain ⟨_, owned, replaced, replaces, rest⟩ := updated
      have step := @replaceRoyalty_details _ _ tokenId _ _ _ replaces
      have owners := (replaceRoyalty_aside replaces).owners
      have later := ih rest
      rw [owners] at later
      split at step
      · rename_i edited
        obtain ⟨rfl, had⟩ := edited
        refine Or.inr ⟨List.mem_cons_self, exists_iff.mp owned, had, ?_⟩
        rcases later with same | ⟨_, _, _, again⟩
        · rw [same, step]
          rfl
        · rw [again, step]
          rfl
      · rw [step] at later
        rcases later with same | ⟨listed, edited⟩
        · exact Or.inl same
        · exact Or.inr ⟨List.mem_cons_of_mem _ listed, edited⟩

theorem mint_details {to_ : Address} {minted : Uint256}
    (mints : _mint state to_ minted = .ok state') :
    details state' tokenId = details state tokenId := by
  obtain ⟨_, _, _, rfl⟩ := mint_accepted mints
  rfl

theorem saveSRR_details (saved : Uint256) (isPrimaryIssuer : Bool) (artistAddress : Address) :
    details (_saveSRR state saved isPrimaryIssuer artistAddress) tokenId =
      if tokenId = saved then { details state tokenId with
        srr := ⟨isPrimaryIssuer, artistAddress, (details state tokenId).srr.issuer⟩ }
      else details state tokenId := by
  split
  · rename_i same
    subst same
    simp [details, lockExternalTransfer, commitmentOf, _saveSRR, Storage.set_apply]
  · rename_i other
    simp [details, lockExternalTransfer, commitmentOf, _saveSRR, Storage.set_apply, other]

theorem metadata_details (described : Uint256) (metadataCID : Bytes) :
    details { state with
      _stringStorage := state._stringStorage.set described ._SRR ._METADATA_HASH metadataCID }
      tokenId =
      if tokenId = described then { details state tokenId with metadataCID := metadataCID }
      else details state tokenId := by
  split
  · rename_i same
    subst same
    simp [details, lockExternalTransfer, commitmentOf, Storage.set_apply]
  · rename_i other
    simp [details, lockExternalTransfer, commitmentOf, Storage.set_apply, other]

theorem recorded_details (minted : State) (created : Uint256) (creation : Creation) :
    details (minted.recorded created creation.isPrimaryIssuer creation.artistAddress
        creation.issuerAddress creation.metadataCID creation.lockExternalTransfer) tokenId =
      if tokenId = created then
        { details minted tokenId with
          srr := creation.srr
          metadataCID := creation.metadataCID
          lockExternalTransfer := creation.lockExternalTransfer }
      else details minted tokenId := by
  rw [State.recorded, details_emit]
  split
  · rename_i same
    subst same
    simp [details, lockExternalTransfer, commitmentOf, _saveSRR, Storage.set_apply, Creation.srr]
  · rename_i other
    simp [details, lockExternalTransfer, commitmentOf, _saveSRR, Storage.set_apply, other]

theorem createSRR_details {creation : Creation} {created : Uint256}
    (creates : _createSRR deployment state creation.isPrimaryIssuer creation.artistAddress
      creation.metadataCID creation.issuerAddress creation.lockExternalTransfer
      creation.royaltyReceiver creation.royaltyBasisPoints = .ok (state', created)) :
    creation.metadataCID ≠ [] ∧ created = creation.tokenId deployment ∧
      ∀ tokenId, details state' tokenId =
        if tokenId = creation.tokenId deployment then creation.written (details state tokenId)
        else details state tokenId := by
  obtain ⟨given, rfl, minted, _, mints, rfl, royalty⟩ := createSRR_accepted creates
  refine ⟨given, rfl, fun tokenId => ?_⟩
  rcases royalty with ⟨received, saved, saves, rfl⟩ | ⟨unreceived, rfl⟩
  · refine (saveRoyalties_details saves).trans ?_
    rw [recorded_details minted _ creation, mint_details mints, Creation.tokenId]
    split
    · rw [Creation.written, if_pos received]
    · rfl
  · rw [recorded_details minted _ creation, mint_details mints, Creation.tokenId]
    split
    · rw [Creation.written, if_neg (not_not.mpr unreceived)]
    · rfl

theorem createSRRFor_details {creation : Creation} {created : Uint256}
    (creates : createSRRFor deployment state creation.isPrimaryIssuer creation.artistAddress
      creation.metadataCID creation.issuerAddress creation.lockExternalTransfer creation.to_
      creation.royaltyReceiver creation.royaltyBasisPoints = .ok (state', created)) :
    creation.metadataCID ≠ [] ∧ created = creation.tokenId deployment ∧
      ∀ tokenId, details state' tokenId =
        if tokenId = creation.tokenId deployment then creation.written (details state tokenId)
        else details state tokenId := by
  obtain ⟨middle, first, ending⟩ := createSRRFor_accepted creates
  obtain ⟨given, generated, written⟩ := createSRR_details first
  rcases ending with ⟨_, passed⟩ | ⟨_, rfl⟩
  · exact ⟨given, generated, fun tokenId => (transfer_details passed).trans (written tokenId)⟩
  · exact ⟨given, generated, written⟩

theorem approveSRRByCommitment_details {approved customHistoryId : Uint256} {commitment : Bytes32}
    {historyMetadataHash : Bytes}
    (approves : _approveSRRByCommitment state approved commitment historyMetadataHash
      customHistoryId = .ok state') :
    state._tokenOwner approved ≠ 0 ∧ ∃ approval, details state' tokenId =
      if tokenId = approved then { details state tokenId with commitment := approval }
      else details state tokenId := by
  have prior : details (cancelPriorApproval state approved) tokenId = details state tokenId := by
    unfold cancelPriorApproval
    split
    · rfl
    · rfl
  obtain ⟨owned, _, rfl, stores⟩ := approveSRRByCommitment_accepted approves
  refine ⟨owned, commitmentOf state' approved, ?_⟩
  rw [← prior]
  generalize cancelPriorApproval state approved = cancelled at stores
  rcases stores with ⟨_, rfl⟩ | ⟨_, rfl⟩
  · by_cases same : tokenId = approved
    · simp [same, details, lockExternalTransfer, commitmentOf, storeCommitment, State.emit,
        Storage.set_apply]
    · simp [same, details, lockExternalTransfer, commitmentOf, storeCommitment, State.emit,
        Storage.set_apply]
  · by_cases same : tokenId = approved
    · simp [same, details, lockExternalTransfer, commitmentOf, storeCommitment, storeCustomHistory,
        State.emit, Storage.set_apply]
    · simp [same, details, lockExternalTransfer, commitmentOf, storeCommitment, storeCustomHistory,
        State.emit, Storage.set_apply]

theorem clearSRRCommitment_details (cleared : Uint256) :
    details (_clearSRRCommitment state cleared) tokenId =
      if tokenId = cleared then { details state tokenId with commitment := Approval.none }
      else details state tokenId := by
  split
  · rename_i same
    subst same
    simp [details, lockExternalTransfer, commitmentOf, _clearSRRCommitment, Storage.set_apply,
      Approval.none]
  · rename_i other
    simp [details, lockExternalTransfer, commitmentOf, _clearSRRCommitment, Storage.set_apply,
      other]

theorem customHistory_details (id : Uint256) (name : Bytes) :
    details { state with
      _stringStorage := state._stringStorage.set id ._CUSTOM_HISTORY ._CUSTOM_HISTORY_NAME name }
      tokenId = details state tokenId := by
  simp [details, lockExternalTransfer, commitmentOf, Storage.set_apply]

theorem setLock_details (locked : Uint256) (flag : Bool) :
    details { state with
      _boolStorage := state._boolStorage.set locked ._SRR ._LOCK_EXTERNAL_TRANSFER flag } tokenId =
      if tokenId = locked then { details state tokenId with lockExternalTransfer := flag }
      else details state tokenId := by
  split
  · rename_i same
    subst same
    simp [details, lockExternalTransfer, commitmentOf, Storage.set_apply]
  · rename_i other
    simp [details, lockExternalTransfer, commitmentOf, Storage.set_apply, other]

theorem commits_edits (owned : state._tokenOwner tokenId ≠ 0)
    (commits : Commits world msg state tokenId call) {edited : Uint256} {approval : Approval}
    (written : details state' edited = if edited = tokenId then
      { details state edited with commitment := approval } else details state edited) :
    Edits deployment world msg state edited call (details state' edited) := by
  rw [written]
  split
  · rename_i same
    subst same
    exact .committed approval owned commits
  · exact .kept call

theorem create_edits {creation : Creation} {created : Uint256}
    (named : call.creation msg state = some creation)
    (creates : createSRRFor deployment state creation.isPrimaryIssuer creation.artistAddress
      creation.metadataCID creation.issuerAddress creation.lockExternalTransfer creation.to_
      creation.royaltyReceiver creation.royaltyBasisPoints = .ok (state', created)) :
    Edits deployment world msg state tokenId call (details state' tokenId) := by
  obtain ⟨_, rfl, written⟩ := createSRRFor_details creates
  obtain ⟨_, absent, _, _⟩ := createSRRFor_ledger creates
  rw [written]
  split
  · rename_i same
    subst same
    exact .created named rfl absent
  · exact .kept call

theorem Accepted.edits (accepted : Accepted deployment world msg state call state')
    (other : call.aside = false) (tokenId : Uint256) :
    Edits deployment world msg state tokenId call (details state' tokenId) := by
  cases accepted with
  | aside aside _ => rw [aside] at other; cases other
  | createSRRFromLicensedUser _ creates => exact create_edits rfl creates
  | createSRRFromBulk _ creates => exact create_edits rfl creates
  | approveSRRByCommitmentFromBulk bulk owner approved =>
      simp only [onlySRROwner, bind_eq_ok, ownerOf_eq_ok, require_eq_ok] at owner
      obtain ⟨_, ⟨_, rfl⟩, rfl⟩ := owner
      obtain ⟨owned, approval, written⟩ := approveSRRByCommitment_details approved
      exact commits_edits owned (.approveSRRByCommitmentFromBulk _ _ _ (onlyBulk_fromBulk bulk))
        written
  | approveSRRByCommitment allowed approved =>
      obtain ⟨_, byOwner⟩ := onlySRROwnerOrAdministrator_byOwner allowed
      obtain ⟨owned, approval, written⟩ := approveSRRByCommitment_details approved
      exact commits_edits owned (.approveSRRByCommitment _ _ byOwner) written
  | approveSRRByCommitmentWithHistory allowed _ approved =>
      obtain ⟨_, byOwner⟩ := onlySRROwnerOrAdministrator_byOwner allowed
      obtain ⟨owned, approval, written⟩ := approveSRRByCommitment_details approved
      exact commits_edits owned (.approveSRRByCommitmentWithHistory _ _ _ byOwner) written
  | cancelSRRCommitment allowed =>
      obtain ⟨owned, byOwner⟩ := onlySRROwnerOrAdministrator_byOwner allowed
      exact commits_edits owned (.cancelSRRCommitment byOwner)
        ((details_emit _ _).trans (clearSRRCommitment_details _))
  | @transferSRRByReveal to_ reveal revealed isIntermediary _ reveals =>
      obtain ⟨owned, _, moved⟩ := transferSRRByReveal_accepted reveals
      rw [transfer_details moved, clearSRRCommitment_details]
      split
      · rename_i same
        subst same
        exact .transferSRRByReveal to_ reveal isIntermediary owned
      · exact .kept _
  | addHistory _ _ _ _ => exact .kept _
  | @writeCustomHistory name _ _ _ _ _ =>
      refine .silent ?_ _
      rw [details_emit]
      exact customHistory_details _ name
  | @updateCustomHistory customHistoryId name _ _ _ _ =>
      refine .silent ?_ _
      rw [details_emit]
      split
      · exact customHistory_details customHistoryId name
      · rfl
  | transferFrom _ _ moved => exact .silent (transfer_details moved) _
  | safeTransferFrom _ _ moved => exact .silent (transfer_details moved) _
  | transferFromWithProvenance _ _ moved =>
      rw [transfer_details moved]
      exact .kept _
  | transferFromWithProvenanceFromBulk _ _ _ moved =>
      rw [transfer_details moved]
      exact .kept _
  | approve _ _ _ _ => exact .kept _
  | @setLockExternalTransfer locked flag allowed owned =>
      rw [details_emit, setLock_details]
      split
      · rename_i same
        subst same
        refine .setLockExternalTransfer flag (exists_iff.mp owned) ?_
        exact (require_eq_ok.mp allowed).imp beq_iff_eq.mp fun administrator =>
          (beq_iff_eq.mp administrator).symm
      · exact .kept _

theorem execute_edits_aside {selfCall : Msg → Call → State → Execution State}
    (ran : (execute deployment world selfCall msg call state).front = some state')
    (aside : call.aside = true) (tokenId : Uint256) :
    Edits deployment world msg state tokenId call (details state' tokenId) := by
  cases execute_administered ran aside with
  | updateSRR owned allowed =>
      rename_i updated isPrimaryIssuer artistAddress
      rw [details_emit, saveSRR_details]
      split
      · rename_i same
        subst same
        exact .updateSRR isPrimaryIssuer artistAddress (exists_iff.mp owned)
          (onlyIssuerOrArtistOrAdministrator_byEditor allowed)
      · exact .kept _
  | updateSRRMetadata owned allowed =>
      rename_i updated metadataCID
      rw [details_emit, metadata_details]
      split
      · rename_i same
        subst same
        exact .updateSRRMetadata metadataCID (exists_iff.mp owned)
          (onlyIssuerOrArtistOrAdministrator_byEditor allowed)
      · exact .kept _
  | updateSRRRoyalty owned allowed replaces =>
      rename_i updated royaltyReceiver royaltyBasisPoints
      rw [replaceRoyalty_details replaces]
      split
      · rename_i had
        obtain ⟨rfl, had⟩ := had
        exact .updateSRRRoyalty royaltyReceiver royaltyBasisPoints (exists_iff.mp owned)
          (onlyIssuerOrArtistOrAdministrator_byEditor allowed) had
      · exact .kept _
  | updateSRRRoyaltyReceiverMulti allowed updated =>
      rcases @updateRoyaltyReceivers_details _ _ tokenId _ _ updated with
        same | ⟨listed, owned, had, written⟩
      · exact .silent same _
      · rw [written]
        exact .updateSRRRoyaltyReceiverMulti _ owned
          (onlyAdministrator_byAdministrator allowed) had listed
  | setTokenURIParts _ =>
      refine .silent ?_ _
      simp [details, lockExternalTransfer, commitmentOf, Storage.set_apply]
  | setContractURI _ =>
      refine .silent ?_ _
      simp [details, lockExternalTransfer, commitmentOf, Storage.set_apply]
  | setOpenSeaApproveAllKillSwitch _ =>
      refine .silent ?_ _
      simp [details, lockExternalTransfer, commitmentOf, Storage.set_apply]
  | setOpenSeaMetaTxIntegration _ =>
      refine .silent ?_ _
      simp [details, lockExternalTransfer, commitmentOf, Storage.set_apply]
  | _ => exact .kept _

theorem execute_edits {selfCall : Msg → Call → State → Execution State}
    (ran : (execute deployment world selfCall msg call state).front = some state')
    (direct : ∀ userAddress callData sigR sigS sigV,
      call ≠ .executeMetaTransaction userAddress callData sigR sigS sigV) (tokenId : Uint256) :
    Edits deployment world msg state tokenId call (details state' tokenId) := by
  by_cases aside : call.aside = true
  · exact execute_edits_aside ran aside tokenId
  · exact (execute_accepted ran direct).edits (Bool.eq_false_iff.mpr aside) tokenId

theorem Edits.context {nonces : OpenSeaMetaTransactionStorage} {logs : List Event}
    {written : Details}
    (edits : Edits deployment world msg { state with openSeaMetaTx := nonces, logs := logs }
      tokenId call written) :
    Edits deployment world msg state tokenId call written := by
  cases edits with
  | kept => exact .kept call
  | created named generated absent =>
      refine .created (Eq.trans ?_ named) generated absent
      cases call <;> rfl
  | updateSRR isPrimaryIssuer artistAddress owned allowed =>
      exact .updateSRR isPrimaryIssuer artistAddress owned allowed
  | updateSRRMetadata metadataCID owned allowed =>
      exact .updateSRRMetadata metadataCID owned allowed
  | updateSRRRoyalty royaltyReceiver royaltyBasisPoints owned allowed had =>
      exact .updateSRRRoyalty royaltyReceiver royaltyBasisPoints owned allowed had
  | updateSRRRoyaltyReceiverMulti royaltyReceiver owned allowed had listed =>
      exact .updateSRRRoyaltyReceiverMulti royaltyReceiver owned allowed had listed
  | setLockExternalTransfer flag owned allowed => exact .setLockExternalTransfer flag owned allowed
  | committed commitment owned commits =>
      refine .committed commitment owned ?_
      cases commits with
      | approveSRRByCommitment _ _ byOwner => exact .approveSRRByCommitment _ _ byOwner
      | approveSRRByCommitmentWithHistory _ _ _ byOwner =>
          exact .approveSRRByCommitmentWithHistory _ _ _ byOwner
      | approveSRRByCommitmentFromBulk _ _ _ bulk =>
          exact .approveSRRByCommitmentFromBulk _ _ _ bulk
      | cancelSRRCommitment byOwner => exact .cancelSRRCommitment byOwner
  | transferSRRByReveal to_ reveal isIntermediary owned =>
      exact .transferSRRByReveal to_ reveal isIntermediary owned

theorem perform_edits {depth : Nat}
    (ran : (perform deployment world depth msg call state).front = some state') :
    ∃ middle msg' call', Runs deployment state msg call middle msg' call' ∧
      Accepted deployment world msg' middle call' state' ∧
      ∀ tokenId, Edits deployment world msg' state tokenId call' (details state' tokenId) := by
  obtain ⟨middle, msg', call', selfCall, runs, direct, executed⟩ := perform_executes ran
  obtain ⟨_, nonces, logs, rfl⟩ := runs.context
  exact ⟨_, msg', call', runs, execute_accepted executed direct,
    fun tokenId => (execute_edits executed direct tokenId).context⟩

end Effects

/-- The tokens that a call names. -/
def Call.tokens : Call → List Uint256
  | .updateSRRRoyaltyReceiverMulti tokenIds _ => tokenIds
  | .addHistory tokenIds _ => tokenIds
  | .approveSRRByCommitmentFromBulk _ tokenId _ _ _ => [tokenId]
  | .transferFromWithProvenanceFromBulk _ _ tokenId _ _ _ => [tokenId]
  | .updateSRR tokenId _ _ => [tokenId]
  | .updateSRRMetadata tokenId _ => [tokenId]
  | .updateSRRRoyalty tokenId _ _ => [tokenId]
  | .approveSRRByCommitment tokenId _ _ => [tokenId]
  | .approveSRRByCommitmentWithHistory tokenId _ _ _ => [tokenId]
  | .cancelSRRCommitment tokenId => [tokenId]
  | .transferSRRByReveal _ _ tokenId _ => [tokenId]
  | .transferFrom _ _ tokenId => [tokenId]
  | .safeTransferFrom _ _ tokenId _ => [tokenId]
  | .transferFromWithProvenance _ tokenId _ _ _ => [tokenId]
  | .approve _ tokenId => [tokenId]
  | .setLockExternalTransfer tokenId _ => [tokenId]
  | _ => []

/-- What a call may make of the details of a token that exists, and by whose authority. -/
structure Permitted (world : World) (msg : Msg) (before : State) (tokenId : Uint256) (call : Call)
    (after : Details) (recipient : Address) : Prop where
  issuer : after.srr.issuer = (details before tokenId).srr.issuer
  digest : after.metadataDigest = (details before tokenId).metadataDigest
  srr : after.srr ≠ (details before tokenId).srr →
    ByEditor world msg before tokenId ∧ ∃ isPrimaryIssuer artistAddress,
      call = .updateSRR tokenId isPrimaryIssuer artistAddress
  metadata : after.metadataCID ≠ (details before tokenId).metadataCID →
    ByEditor world msg before tokenId ∧ ∃ metadataCID, call = .updateSRRMetadata tokenId metadataCID
  royalty : after.royalty ≠ (details before tokenId).royalty →
    (details before tokenId).royalty.receiver ≠ 0 ∧
      ((ByEditor world msg before tokenId ∧ ∃ royaltyReceiver royaltyBasisPoints,
          call = .updateSRRRoyalty tokenId royaltyReceiver royaltyBasisPoints) ∨
        (ByAdministrator world msg before ∧ ∃ tokenIds royaltyReceiver,
          call = .updateSRRRoyaltyReceiverMulti tokenIds royaltyReceiver ∧ tokenId ∈ tokenIds))
  lock : after.lockExternalTransfer ≠ (details before tokenId).lockExternalTransfer →
    (ByIssuer msg before tokenId ∨ ByAdministrator world msg before) ∧
      ∃ flag, call = .setLockExternalTransfer tokenId flag
  commitment : after.commitment ≠ (details before tokenId).commitment →
    Commits world msg before tokenId call ∨
      (after.commitment = Approval.none ∧ ∃ reveal isIntermediary,
        call = .transferSRRByReveal recipient reveal tokenId isIntermediary)
  unnamed : tokenId ∉ call.tokens → after = details before tokenId

theorem Commits.named (commits : Commits world msg state tokenId call) :
    tokenId ∈ call.tokens := by
  cases commits <;> exact List.mem_singleton_self _

theorem Edits.permitted {after : Details} {recipient : Address}
    (edits : Edits deployment world msg state tokenId call after)
    (owned : state._tokenOwner tokenId ≠ 0)
    (handed : ∀ to_ reveal isIntermediary,
      call = .transferSRRByReveal to_ reveal tokenId isIntermediary → to_ = recipient) :
    Permitted world msg state tokenId call after recipient := by
  cases edits with
  | kept =>
      exact ⟨rfl, rfl, fun changed => absurd rfl changed, fun changed => absurd rfl changed,
        fun changed => absurd rfl changed, fun changed => absurd rfl changed,
        fun changed => absurd rfl changed, fun _ => rfl⟩
  | created _ _ absent => exact absurd absent owned
  | updateSRR isPrimaryIssuer artistAddress _ allowed =>
      exact ⟨rfl, rfl, fun _ => ⟨allowed, _, _, rfl⟩, fun changed => absurd rfl changed,
        fun changed => absurd rfl changed, fun changed => absurd rfl changed,
        fun changed => absurd rfl changed, fun other => absurd (List.mem_singleton_self _) other⟩
  | updateSRRMetadata metadataCID _ allowed =>
      exact ⟨rfl, rfl, fun changed => absurd rfl changed, fun _ => ⟨allowed, _, rfl⟩,
        fun changed => absurd rfl changed, fun changed => absurd rfl changed,
        fun changed => absurd rfl changed, fun other => absurd (List.mem_singleton_self _) other⟩
  | updateSRRRoyalty royaltyReceiver royaltyBasisPoints _ allowed had =>
      exact ⟨rfl, rfl, fun changed => absurd rfl changed, fun changed => absurd rfl changed,
        fun _ => ⟨had, Or.inl ⟨allowed, _, _, rfl⟩⟩, fun changed => absurd rfl changed,
        fun changed => absurd rfl changed, fun other => absurd (List.mem_singleton_self _) other⟩
  | updateSRRRoyaltyReceiverMulti royaltyReceiver _ allowed had listed =>
      exact ⟨rfl, rfl, fun changed => absurd rfl changed, fun changed => absurd rfl changed,
        fun _ => ⟨had, Or.inr ⟨allowed, _, _, rfl, listed⟩⟩, fun changed => absurd rfl changed,
        fun changed => absurd rfl changed, fun other => absurd listed other⟩
  | setLockExternalTransfer flag _ allowed =>
      exact ⟨rfl, rfl, fun changed => absurd rfl changed, fun changed => absurd rfl changed,
        fun changed => absurd rfl changed, fun _ => ⟨allowed, _, rfl⟩,
        fun changed => absurd rfl changed, fun other => absurd (List.mem_singleton_self _) other⟩
  | committed commitment _ commits =>
      exact ⟨rfl, rfl, fun changed => absurd rfl changed, fun changed => absurd rfl changed,
        fun changed => absurd rfl changed, fun changed => absurd rfl changed,
        fun _ => Or.inl commits, fun other => absurd commits.named other⟩
  | transferSRRByReveal to_ reveal isIntermediary _ =>
      cases handed to_ reveal isIntermediary rfl
      exact ⟨rfl, rfl, fun changed => absurd rfl changed, fun changed => absurd rfl changed,
        fun changed => absurd rfl changed, fun changed => absurd rfl changed,
        fun _ => Or.inr ⟨rfl, _, _, rfl⟩, fun other => absurd (List.mem_singleton_self _) other⟩

theorem record_authority (deployment : Deployment) (transaction : Transaction) (state : State) :
    (entry deployment transaction state).Trailing ∧
      ∀ state', (entry deployment transaction state).front = some state' →
        ∃ middle msg call,
          Runs deployment state transaction.msg transaction.call middle msg call ∧
          ∀ tokenId, state._tokenOwner tokenId ≠ 0 →
            Permitted transaction.world msg state tokenId call (details state' tokenId)
              (state'._tokenOwner tokenId) := by
  refine ⟨perform_trailing _ _ _ _, ?_⟩
  intro state' ran
  obtain ⟨middle, msg, call, runs, accepted, edits⟩ := perform_edits ran
  refine ⟨middle, msg, call, runs, ?_⟩
  intro tokenId owned
  apply (edits tokenId).permitted owned
  rintro to_ reveal isIntermediary rfl
  obtain ⟨_, _, _, moved, _⟩ := transferSRRByReveal_effect accepted.revealed
  exact moved.here.symm

-- The owner takes the token by her own commitment, which whoever knows the secret can send.
def ownReveal : Transaction :=
  sampleCall 0xe0a (.transferSRRByReveal 0xa11ce secret recordId false)

set_option maxRecDepth 8000 in
theorem ownReveal_permitted :
    ∃ state', (entry sampleDeployment ownReveal approvedRun.now.state).front = some state' ∧
      state'._tokenOwner recordId = 0xa11ce ∧ ∃ middle msg call,
        Runs sampleDeployment approvedRun.now.state ownReveal.msg ownReveal.call middle msg call ∧
        Permitted ownReveal.world msg approvedRun.now.state recordId call
          (details state' recordId) (state'._tokenOwner recordId) := by
  have revealed : ((entry sampleDeployment ownReveal approvedRun.now.state).front.map fun state =>
      state._tokenOwner recordId) = some 0xa11ce := by decide
  obtain ⟨state', ran, owner⟩ := Option.map_eq_some_iff.mp revealed
  obtain ⟨_, permits⟩ := record_authority sampleDeployment ownReveal approvedRun.now.state
  obtain ⟨middle, msg, call, runs, permitted⟩ := permits state' ran
  exact ⟨state', ran, owner, middle, msg, call, runs, permitted recordId (by decide)⟩

set_option maxRecDepth 8000 in
theorem ownReveal_clears :
    ¬∀ config, Reach (entry sampleDeployment) (Legal sampleDeployment) State.blank config →
      ∀ transaction state', Legal sampleDeployment transaction config.now.state →
        (entry sampleDeployment transaction config.now.state).front = some state' →
        ∀ tokenId, config.now.state._tokenOwner tokenId ≠ 0 →
          commitmentOf state' tokenId ≠ commitmentOf config.now.state tokenId →
          (∃ middle msg call, Runs sampleDeployment config.now.state transaction.msg
            transaction.call middle msg call ∧
              Commits transaction.world msg config.now.state tokenId call) ∨
          (commitmentOf state' tokenId = Approval.none ∧
            state'._tokenOwner tokenId ≠ config.now.state._tokenOwner tokenId) := by
  intro claimed
  have reach : Reach (entry sampleDeployment) (Legal sampleDeployment) State.blank approvedRun :=
    approvedRun_reach (fun _ => by unfold Legal; decide) fun _ => by unfold Legal; decide
  have revealed : ((entry sampleDeployment ownReveal approvedRun.now.state).front.map fun state =>
      (state._tokenOwner recordId, (commitmentOf state recordId).commitment)) =
      some (0xa11ce, 0) := by decide
  obtain ⟨state', ran, left⟩ := Option.map_eq_some_iff.mp revealed
  obtain ⟨owner, commitment⟩ := Prod.mk.inj left
  have changed : commitmentOf state' recordId ≠ commitmentOf approvedRun.now.state recordId := by
    intro same
    rw [same] at commitment
    exact absurd commitment (by decide)
  rcases claimed _ reach ownReveal state' (by unfold Legal; decide) ran recordId (by decide)
    changed with ⟨middle, msg, call, runs, commits⟩ | ⟨_, handed⟩
  · cases runs with
    | direct => cases commits
  · exact handed (by rw [owner]; decide)

end Startrail.Registry
