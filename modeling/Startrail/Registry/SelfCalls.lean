import Startrail.Registry.MetaTransactions

/-!
What a meta transaction lets its user do, compared with the user's own call. In
the call that the registry makes to itself `_msgSender()` is the user, but
`msg.sender` and the `msgSender()` of the Startrail meta transactions are the
registry. `Beside` relates the two runs, `Admits` is what a function asks of its
caller, and the comparison goes through all functions of the registry.
-/

namespace Startrail.Registry

/-- A state inside the user's meta transaction beside the one without it: the nonce and the event
of the meta transaction are the only differences. -/
def Beside (userAddress : Address) (event : Event) (base : List Event) (inner own : State) : Prop :=
  ∃ fresh, own.logs = fresh ++ base ∧ inner = { own with
    openSeaMetaTx := { own.openSeaMetaTx with
      nonces := Function.update own.openSeaMetaTx.nonces userAddress
        (own.openSeaMetaTx.nonces userAddress + 1) }
    logs := fresh ++ event :: base }

section Functions

variable {deployment : Deployment} {world : World} {msg msg' : Msg} {userAddress : Address}
  {event : Event} {base : List Event} {inner inner' own : State} {tokenId : Uint256}
  {from_ to_ : Address}

theorem Beside.emit (beside : Beside userAddress event base inner own) (logged : Event) :
    Beside userAddress event base (inner.emit logged) (own.emit logged) := by
  obtain ⟨fresh, logs, rfl⟩ := beside
  exact ⟨logged :: fresh, congrArg (List.cons logged) logs, rfl⟩

theorem Beside.ownerOf (beside : Beside userAddress event base inner own) (tokenId : Uint256) :
    ownerOf inner tokenId = ownerOf own tokenId := by
  obtain ⟨_, _, rfl⟩ := beside
  rfl

theorem Beside.spends (beside : Beside userAddress event base inner own) (tokenId : Uint256) :
    externalTransferNotLocked inner tokenId = externalTransferNotLocked own tokenId ∧
      ∀ spender, _isApprovedOrOwner inner spender tokenId =
        _isApprovedOrOwner own spender tokenId := by
  obtain ⟨_, _, rfl⟩ := beside
  exact ⟨rfl, fun _ => rfl⟩

theorem mint_matches (beside : Beside userAddress event base inner own) :
    Matches (Beside userAddress event base) (_mint inner to_ tokenId) (_mint own to_ tokenId) := by
  obtain ⟨fresh, logs, rfl⟩ := beside
  apply Matches.after rfl
  intro _
  apply Matches.after rfl
  intro _
  apply Matches.after rfl
  intro _
  apply Matches.pure
  exact ⟨_ :: fresh, congrArg (List.cons _) logs, rfl⟩

theorem approve_matches (beside : Beside userAddress event base inner own) :
    Matches (Beside userAddress event base) (_approve inner to_ tokenId)
      (_approve own to_ tokenId) := by
  obtain ⟨fresh, logs, rfl⟩ := beside
  apply Matches.after rfl
  intro owner
  apply Matches.pure
  exact ⟨_ :: fresh, congrArg (List.cons _) logs, rfl⟩

theorem transfer_matches (beside : Beside userAddress event base inner own) :
    Matches (Beside userAddress event base) (_transfer inner from_ to_ tokenId)
      (_transfer own from_ to_ tokenId) := by
  apply Matches.after (beside.ownerOf tokenId)
  intro owner
  apply Matches.after rfl
  intro _
  apply Matches.after rfl
  intro _
  apply Matches.bind (approve_matches beside)
  rintro _ approved ⟨fresh, logs, rfl⟩
  apply Matches.after rfl
  intro _
  apply Matches.after rfl
  intro _
  apply Matches.pure
  exact ⟨_ :: fresh, congrArg (List.cons _) logs, rfl⟩

theorem saveRoyalties_matches {basisPoints : Uint16} {receiver : Address}
    (beside : Beside userAddress event base inner own) :
    Matches (Beside userAddress event base) (_saveRoyalties inner tokenId basisPoints receiver)
      (_saveRoyalties own tokenId basisPoints receiver) := by
  obtain ⟨fresh, logs, rfl⟩ := beside
  apply Matches.after rfl
  intro _
  apply Matches.after rfl
  intro _
  apply Matches.after rfl
  intro _
  apply Matches.pure
  exact ⟨fresh, logs, rfl⟩

/-- States with the token that a call creates. -/
def BesideWith (userAddress : Address) (event : Event) (base : List Event)
    (inner own : State × Uint256) : Prop :=
  Beside userAddress event base inner.1 own.1 ∧ inner.2 = own.2

theorem createSRR_matches {isPrimaryIssuer lockExternalTransfer : Bool}
    {artistAddress sender royaltyReceiver : Address} {metadataCID : Bytes}
    {royaltyBasisPoints : Uint16} (beside : Beside userAddress event base inner own) :
    Matches (BesideWith userAddress event base)
      (_createSRR deployment inner isPrimaryIssuer artistAddress metadataCID sender
        lockExternalTransfer royaltyReceiver royaltyBasisPoints)
      (_createSRR deployment own isPrimaryIssuer artistAddress metadataCID sender
        lockExternalTransfer royaltyReceiver royaltyBasisPoints) := by
  have absent : ∀ token, _exists inner token = _exists own token := by
    obtain ⟨_, _, rfl⟩ := beside
    exact fun _ => rfl
  unfold _createSRR
  simp only [absent]
  apply Matches.after rfl
  intro _
  apply Matches.after rfl
  intro _
  apply Matches.after rfl
  intro _
  apply Matches.bind (mint_matches beside)
  rintro _ minted ⟨fresh, logs, rfl⟩
  dsimp only
  split
  · refine @Matches.bind _ _ _ _ _ (Beside userAddress event base) _ _ _ _ _
      (saveRoyalties_matches ?_) ?_
    · exact ⟨_ :: fresh, congrArg (List.cons _) logs, rfl⟩
    · intro saved saved' beside'
      exact Matches.pure ⟨beside'.emit _, rfl⟩
  · exact Matches.pure ⟨⟨_ :: fresh, congrArg (List.cons _) logs, rfl⟩, rfl⟩

theorem createSRRFor_matches {isPrimaryIssuer lockExternalTransfer : Bool}
    {artistAddress issuerAddress royaltyReceiver : Address} {metadataCID : Bytes}
    {royaltyBasisPoints : Uint16} (beside : Beside userAddress event base inner own) :
    Matches (BesideWith userAddress event base)
      (createSRRFor deployment inner isPrimaryIssuer artistAddress metadataCID issuerAddress
        lockExternalTransfer to_ royaltyReceiver royaltyBasisPoints)
      (createSRRFor deployment own isPrimaryIssuer artistAddress metadataCID issuerAddress
        lockExternalTransfer to_ royaltyReceiver royaltyBasisPoints) := by
  apply Matches.bind (createSRR_matches beside)
  rintro ⟨stored, token⟩ ⟨stored', _⟩ ⟨beside', rfl⟩
  dsimp only
  split
  · apply Matches.bind (transfer_matches beside')
    intro last last' beside''
    exact Matches.pure ⟨beside'', rfl⟩
  · exact Matches.pure ⟨beside', rfl⟩

theorem approveSRRByCommitment_matches {customHistoryId : Uint256} {commitment : Bytes32}
    {historyMetadataHash : Bytes} (beside : Beside userAddress event base inner own) :
    Matches (Beside userAddress event base)
      (_approveSRRByCommitment inner tokenId commitment historyMetadataHash customHistoryId)
      (_approveSRRByCommitment own tokenId commitment historyMetadataHash customHistoryId) := by
  have cancelled : Beside userAddress event base (cancelPriorApproval inner tokenId)
      (cancelPriorApproval own tokenId) := by
    have same : inner._bytes32Storage = own._bytes32Storage := by
      obtain ⟨_, _, rfl⟩ := beside
      rfl
    unfold cancelPriorApproval
    rw [same]
    split
    · exact beside.emit _
    · exact beside
  unfold _approveSRRByCommitment
  generalize cancelPriorApproval inner tokenId = cancelledInner at cancelled ⊢
  generalize cancelPriorApproval own tokenId = cancelledOwn at cancelled ⊢
  obtain ⟨fresh, logs, rfl⟩ := cancelled
  apply Matches.after rfl
  intro owner
  split
  · exact Matches.pure ⟨_ :: fresh, congrArg (List.cons _) logs, rfl⟩
  · exact Matches.pure ⟨_ :: fresh, congrArg (List.cons _) logs, rfl⟩

theorem replaceRoyalty_matches {basisPoints : Uint16} {receiver : Address}
    (beside : Beside userAddress event base inner own) :
    Matches (Beside userAddress event base) (replaceRoyalty inner tokenId basisPoints receiver)
      (replaceRoyalty own tokenId basisPoints receiver) := by
  have same : inner.royalties = own.royalties := by
    obtain ⟨_, _, rfl⟩ := beside
    rfl
  unfold replaceRoyalty
  rw [same]
  split
  · apply Matches.bind (saveRoyalties_matches beside)
    intro saved saved' beside'
    exact Matches.pure (beside'.emit _)
  · exact Matches.pure beside

theorem updateRoyaltyReceivers_matches {royaltyReceiver : Address} {tokenIds : List Uint256}
    (beside : Beside userAddress event base inner own) :
    Matches (Beside userAddress event base)
      (updateRoyaltyReceivers royaltyReceiver tokenIds inner)
      (updateRoyaltyReceivers royaltyReceiver tokenIds own) := by
  induction tokenIds generalizing inner own with
  | nil => exact Matches.pure beside
  | cons tokenId tokenIds ih =>
      have reads : tokenExists inner tokenId = tokenExists own tokenId ∧
          inner.royalties = own.royalties := by
        obtain ⟨_, _, rfl⟩ := beside
        exact ⟨rfl, rfl⟩
      apply Matches.after reads.1
      intro _
      rw [reads.2]
      exact Matches.bind (replaceRoyalty_matches beside) fun _ _ beside' => ih beside'

theorem safeTransfer_mirrors {_data : Bytes} (beside : Beside userAddress event base inner own)
    (senders : _msgSender deployment msg = _msgSender deployment msg') :
    (_safeTransfer deployment world msg inner from_ to_ tokenId _data).Mirrors
      (Beside userAddress event base) (Beside userAddress event base)
      (_safeTransfer deployment world msg' own from_ to_ tokenId _data) := by
  apply Outcome.Mirrors.lift_bind (transfer_matches beside)
  intro moved moved' beside'
  unfold _checkOnERC721Received
  rw [senders]
  split
  · exact ⟨moved', rfl, beside'⟩
  · rw [Outcome.bind_bind, Outcome.bind_bind]
    apply Outcome.Mirrors.external beside'
    intro later later' reply close
    simp only [Outcome.bind_bind]
    apply Outcome.Mirrors.after rfl
    intro accepted
    apply Outcome.Mirrors.after rfl
    intro _
    exact ⟨later', rfl, close⟩

theorem transferFromWithProvenance_mirrors {historyMetadataHash : Bytes} {customHistoryId : Uint256}
    {isIntermediary : Bool} (beside : Beside userAddress event base inner own)
    (senders : _msgSender deployment msg = _msgSender deployment msg') :
    (_transferFromWithProvenance deployment world msg inner to_ tokenId historyMetadataHash
      customHistoryId isIntermediary).Mirrors
      (Beside userAddress event base) (Beside userAddress event base)
      (_transferFromWithProvenance deployment world msg' own to_ tokenId historyMetadataHash
        customHistoryId isIntermediary) := by
  apply Outcome.Mirrors.after (beside.ownerOf tokenId)
  intro from_
  refine safeTransfer_mirrors ?_ senders
  obtain ⟨fresh, logs, rfl⟩ := beside
  exact ⟨_ :: fresh, congrArg (List.cons _) logs, rfl⟩

end Functions

section Callers

variable (deployment : Deployment) (world : World) (msg : Msg) (state : State)

/-- What the functions ask of their caller. -/
def Admits : Call → Prop
  | .setTrustedForwarder _ | .setMaxCombinedHistoryRecords _ | .updateSRRRoyaltyReceiverMulti _ _
  | .setNameRegistryAddress _ | .setTokenURIParts _ _ | .addCustomHistoryType _
  | .writeCustomHistory _ _ _ | .updateCustomHistory _ _ _ | .setContractURI _
  | .transferOwnership _ | .setOpenSeaApproveAllKillSwitch _ | .setOpenSeaMetaTxIntegration _ _ =>
      onlyAdministrator world msg state = .ok ()
  | .createSRRFromLicensedUser .. => trustedForwarderOnly msg state = .ok ()
  | .createSRRFromBulk .. | .approveSRRByCommitmentFromBulk ..
  | .transferFromWithProvenanceFromBulk .. => onlyBulk world msg state = .ok ()
  | .updateSRR tokenId _ _ | .updateSRRMetadata tokenId _ | .updateSRRRoyalty tokenId _ _ =>
      onlyIssuerOrArtistOrAdministrator world msg state tokenId = .ok ()
  | .approveSRRByCommitment tokenId _ _ | .approveSRRByCommitmentWithHistory tokenId _ _ _
  | .cancelSRRCommitment tokenId | .transferFromWithProvenance _ tokenId _ _ _ =>
      onlySRROwnerOrAdministrator world msg state tokenId = .ok ()
  | .addHistory tokenIds _ => onlyLicensedUserOrAdministrator world msg state = .ok () ∧
      ∀ tokenId ∈ tokenIds, onlyIssuerOrArtistOrAdministrator world msg state tokenId = .ok ()
  | .setLockExternalTransfer tokenId _ => onlyIssuerOrAdministrator world msg state tokenId = .ok ()
  | .approve _ tokenId => _msgSender deployment msg = state._tokenOwner tokenId ∨
      isApprovedForAll state (state._tokenOwner tokenId) (_msgSender deployment msg) = true ∨
      isAdministrator world msg state = true
  | .transferFrom .. | .safeTransferFrom .. | .setApprovalForAll .. | .transferSRRByReveal ..
  | .executeMetaTransaction .. | .view _ => True

/-- Calls that leave the same trace of their caller with another message: `updateSRR` logs its
sender, a meta transaction its relayer. -/
def Untraced (other : Msg) : Call → Prop
  | .updateSRR .. => sender other state = sender msg state
  | .executeMetaTransaction .. => False
  | _ => True

end Callers

section Calls

variable {deployment : Deployment} {world : World} {msg msg' : Msg} {userAddress : Address}
  {event : Event} {base : List Event} {inner own : State}

theorem forEach_imp {check check' : Uint256 → Result Unit} {values : List Uint256} {i : Nat}
    (follows : ∀ value ∈ values, check value = .ok () → check' value = .ok ())
    (checked : forEach check values i = .ok ()) : forEach check' values i = .ok () := by
  induction values generalizing i with
  | nil => rfl
  | cons value values ih =>
      simp only [forEach, bind_eq_ok] at checked ⊢
      obtain ⟨_, first, _, room, rest⟩ := checked
      exact ⟨_, follows value List.mem_cons_self first, _, room,
        ih (fun value member => follows value (List.mem_cons_of_mem _ member)) rest⟩

/-- Inside a meta transaction the call does no more than on its own. -/
abbrev Mirrored (deployment : Deployment) (world : World) (userAddress : Address) (event : Event)
    (base : List Event) (msg msg' : Msg) (inner own : State) (call : Call) : Prop :=
  ∀ selfCall selfCall' : Msg → Call → State → Execution State,
    (execute deployment world selfCall msg call inner).Mirrors
      (Beside userAddress event base) (Beside userAddress event base)
      (execute deployment world selfCall' msg' call own)

theorem Matches.written {Rel : State → State → Prop} {check check' : Result Unit}
    {inner' own' : State} (admits : check' = .ok ()) (beside : Rel inner' own') :
    Matches Rel (check >>= fun _ => pure inner') (check' >>= fun _ => pure own') :=
  Matches.passed admits fun _ => Matches.pure beside

theorem setTrustedForwarder_mirrored {forwarder : Address}
    (beside : Beside userAddress event base inner own)
    (admits : Admits deployment world msg' own (.setTrustedForwarder forwarder)) :
    Mirrored deployment world userAddress event base msg msg' inner own
      (.setTrustedForwarder forwarder) := by
  intro selfCall selfCall'
  apply Outcome.Mirrors.lift
  apply Matches.passed admits
  intro _
  unfold _setTrustedForwarder
  split
  · intro _ failed
    cases failed
  · obtain ⟨fresh, logs, rfl⟩ := beside
    exact Matches.pure ⟨fresh, logs, rfl⟩

theorem createSRRFromLicensedUser_mirrored {isPrimaryIssuer : Bool} {artistAddress : Address}
    {metadataCID : Bytes} {lockExternalTransfer : Bool} {to_ royaltyReceiver : Address}
    {royaltyBasisPoints : Uint16} (beside : Beside userAddress event base inner own)
    (others : msg.sender ≠ msg'.sender)
    (admits : Admits deployment world msg' own (.createSRRFromLicensedUser isPrimaryIssuer
      artistAddress metadataCID lockExternalTransfer to_ royaltyReceiver royaltyBasisPoints)) :
    Mirrored deployment world userAddress event base msg msg' inner own
      (.createSRRFromLicensedUser isPrimaryIssuer artistAddress metadataCID lockExternalTransfer
        to_ royaltyReceiver royaltyBasisPoints) := by
  intro selfCall selfCall'
  -- The forwarder is one of the two, so the other call reverts.
  apply Outcome.Mirrors.lift
  intro inner' accepted
  simp only [createSRRFromLicensedUser, trustedForwarderOnly, bind_eq_ok, require_eq_ok]
    at accepted
  obtain ⟨_, forwarded, _⟩ := accepted
  simp only [Admits, trustedForwarderOnly, require_eq_ok] at admits
  obtain ⟨_, _, rfl⟩ := beside
  exact absurd (forwarded.trans admits.symm) others

theorem createSRRFromBulk_mirrored {isPrimaryIssuer : Bool} {artistAddress : Address}
    {metadataCID : Bytes} {issuerAddress : Address} {lockExternalTransfer : Bool}
    {to_ royaltyReceiver : Address} {royaltyBasisPoints : Uint16}
    (beside : Beside userAddress event base inner own)
    (admits : Admits deployment world msg' own (.createSRRFromBulk isPrimaryIssuer artistAddress
      metadataCID issuerAddress lockExternalTransfer to_ royaltyReceiver royaltyBasisPoints)) :
    Mirrored deployment world userAddress event base msg msg' inner own
      (.createSRRFromBulk isPrimaryIssuer artistAddress metadataCID issuerAddress
        lockExternalTransfer to_ royaltyReceiver royaltyBasisPoints) := by
  intro selfCall selfCall'
  have creates : Matches (BesideWith userAddress event base)
      (createSRRFromBulk deployment world msg inner isPrimaryIssuer artistAddress metadataCID
        issuerAddress lockExternalTransfer to_ royaltyReceiver royaltyBasisPoints)
      (createSRRFromBulk deployment world msg' own isPrimaryIssuer artistAddress metadataCID
        issuerAddress lockExternalTransfer to_ royaltyReceiver royaltyBasisPoints) := by
    apply Matches.passed admits
    intro _
    exact createSRRFor_matches beside
  apply Outcome.Mirrors.lift_bind creates
  rintro ⟨inner', tokenId⟩ ⟨own', _⟩ ⟨beside', rfl⟩
  exact ⟨own', rfl, beside'⟩

theorem approveSRRByCommitmentFromBulk_mirrored {signer : Address} {tokenId : Uint256}
    {commitment : Bytes32} {historyMetadataHash : Bytes} {customHistoryId : Uint256}
    (beside : Beside userAddress event base inner own)
    (admits : Admits deployment world msg' own (.approveSRRByCommitmentFromBulk signer
      tokenId commitment historyMetadataHash customHistoryId)) :
    Mirrored deployment world userAddress event base msg msg' inner own
      (.approveSRRByCommitmentFromBulk signer tokenId commitment historyMetadataHash
        customHistoryId) := by
  intro selfCall selfCall'
  apply Outcome.Mirrors.lift
  apply Matches.passed admits
  intro _
  refine Matches.after ?_ fun _ => approveSRRByCommitment_matches beside
  unfold onlySRROwner
  rw [beside.ownerOf]

theorem updateSRR_mirrored {tokenId : Uint256} {isPrimaryIssuer : Bool} {artistAddress : Address}
    (beside : Beside userAddress event base inner own)
    (admits : Admits deployment world msg' own (.updateSRR tokenId isPrimaryIssuer artistAddress))
    (untraced : Untraced msg' own msg (.updateSRR tokenId isPrimaryIssuer artistAddress)) :
    Mirrored deployment world userAddress event base msg msg' inner own
      (.updateSRR tokenId isPrimaryIssuer artistAddress) := by
  intro selfCall selfCall'
  obtain ⟨fresh, logs, rfl⟩ := beside
  apply Outcome.Mirrors.lift
  apply Matches.after rfl
  intro _
  apply Matches.passed admits
  intro _
  have traced : sender msg own = sender msg' own := untraced
  refine Matches.pure ⟨_ :: fresh, congrArg (List.cons _) logs, ?_⟩
  rw [← traced]
  rfl

theorem updateSRRMetadata_mirrored {tokenId : Uint256} {metadataCID : Bytes}
    (beside : Beside userAddress event base inner own)
    (admits : Admits deployment world msg' own (.updateSRRMetadata tokenId metadataCID)) :
    Mirrored deployment world userAddress event base msg msg' inner own
      (.updateSRRMetadata tokenId metadataCID) := by
  intro selfCall selfCall'
  obtain ⟨fresh, logs, rfl⟩ := beside
  apply Outcome.Mirrors.lift
  apply Matches.after rfl
  intro _
  apply Matches.passed admits
  intro _
  exact Matches.pure ⟨_ :: fresh, congrArg (List.cons _) logs, rfl⟩

theorem updateSRRRoyalty_mirrored {tokenId : Uint256} {royaltyReceiver : Address}
    {royaltyBasisPoints : Uint16} (beside : Beside userAddress event base inner own)
    (admits : Admits deployment world msg' own (.updateSRRRoyalty tokenId royaltyReceiver
      royaltyBasisPoints)) :
    Mirrored deployment world userAddress event base msg msg' inner own
      (.updateSRRRoyalty tokenId royaltyReceiver royaltyBasisPoints) := by
  intro selfCall selfCall'
  apply Outcome.Mirrors.lift
  have exists_ : tokenExists inner tokenId = tokenExists own tokenId := by
    obtain ⟨_, _, rfl⟩ := beside
    rfl
  apply Matches.after exists_
  intro _
  apply Matches.passed admits
  intro _
  exact replaceRoyalty_matches beside

theorem approveSRRByCommitmentWithHistory_mirrored {tokenId : Uint256} {commitment : Bytes32}
    {historyMetadataHash : Bytes} {customHistoryId : Uint256}
    (beside : Beside userAddress event base inner own)
    (admits : Admits deployment world msg' own (.approveSRRByCommitmentWithHistory tokenId
      commitment historyMetadataHash customHistoryId)) :
    Mirrored deployment world userAddress event base msg msg' inner own
      (.approveSRRByCommitmentWithHistory tokenId commitment historyMetadataHash customHistoryId)
        := by
  intro selfCall selfCall'
  apply Outcome.Mirrors.lift
  apply Matches.passed admits
  intro _
  refine Matches.after ?_ fun _ => approveSRRByCommitment_matches beside
  obtain ⟨_, _, rfl⟩ := beside
  rfl

theorem transferSRRByReveal_mirrored {to_ : Address} {reveal : Bytes32} {tokenId : Uint256}
    {isIntermediary : Bool} (beside : Beside userAddress event base inner own) :
    Mirrored deployment world userAddress event base msg msg' inner own
      (.transferSRRByReveal to_ reveal tokenId isIntermediary) := by
  intro selfCall selfCall'
  apply Outcome.Mirrors.lift
  obtain ⟨fresh, logs, rfl⟩ := beside
  apply Matches.after rfl
  intro _
  apply Matches.after rfl
  intro approval
  apply Matches.after rfl
  intro _
  apply Matches.after rfl
  intro from_
  apply transfer_matches
  exact ⟨_ :: fresh, congrArg (List.cons _) logs, rfl⟩

theorem addHistory_mirrored {tokenIds customHistoryIds : List Uint256}
    (beside : Beside userAddress event base inner own)
    (admits : Admits deployment world msg' own (.addHistory tokenIds customHistoryIds)) :
    Mirrored deployment world userAddress event base msg msg' inner own
      (.addHistory tokenIds customHistoryIds) := by
  intro selfCall selfCall'
  obtain ⟨fresh, logs, rfl⟩ := beside
  apply Outcome.Mirrors.lift
  apply Matches.passed admits.1
  intro _
  apply Matches.after rfl
  intro _
  apply Matches.after rfl
  intro _ inner' accepted
  simp only [bind_eq_ok, pure_eq_ok] at accepted ⊢
  obtain ⟨_, tokens, _, histories, rfl⟩ := accepted
  refine ⟨_, ⟨_, forEach_imp ?_ tokens, _, histories, rfl⟩, _ :: fresh,
    congrArg (List.cons _) logs, rfl⟩
  intro tokenId member checked
  simp only [bind_eq_ok] at checked ⊢
  obtain ⟨_, exists_, _⟩ := checked
  exact ⟨_, exists_, admits.2 tokenId member⟩

theorem setNameRegistryAddress_mirrored {nameRegistry : Address}
    (beside : Beside userAddress event base inner own)
    (admits : Admits deployment world msg' own (.setNameRegistryAddress nameRegistry)) :
    Mirrored deployment world userAddress event base msg msg' inner own
      (.setNameRegistryAddress nameRegistry) := by
  intro selfCall selfCall'
  obtain ⟨fresh, logs, rfl⟩ := beside
  apply Outcome.Mirrors.lift
  apply Matches.after rfl
  intro _
  apply Matches.passed admits
  intro _
  exact Matches.pure ⟨fresh, logs, rfl⟩

theorem addCustomHistoryType_mirrored {historyTypeName : Bytes}
    (beside : Beside userAddress event base inner own)
    (admits : Admits deployment world msg' own (.addCustomHistoryType historyTypeName)) :
    Mirrored deployment world userAddress event base msg msg' inner own
      (.addCustomHistoryType historyTypeName) := by
  intro selfCall selfCall'
  apply Outcome.Mirrors.lift
  apply Matches.passed admits
  intro _
  obtain ⟨fresh, logs, rfl⟩ := beside
  apply Matches.after rfl
  intro _
  apply Matches.after rfl
  intro _
  exact Matches.pure ⟨_ :: fresh, congrArg (List.cons _) logs, rfl⟩

theorem writeCustomHistory_mirrored {name : Bytes} {customHistoryTypeId : Uint256}
    {metadata : Metadata} (beside : Beside userAddress event base inner own)
    (admits : Admits deployment world msg' own (.writeCustomHistory name customHistoryTypeId
      metadata)) :
    Mirrored deployment world userAddress event base msg msg' inner own
      (.writeCustomHistory name customHistoryTypeId metadata) := by
  intro selfCall selfCall'
  apply Outcome.Mirrors.lift
  apply Matches.passed admits
  intro _
  obtain ⟨fresh, logs, rfl⟩ := beside
  apply Matches.after rfl
  intro _
  apply Matches.after rfl
  intro _
  exact Matches.pure ⟨_ :: fresh, congrArg (List.cons _) logs, rfl⟩

theorem updateCustomHistory_mirrored {customHistoryId : Uint256} {name : Bytes}
    {metadata : Metadata} (beside : Beside userAddress event base inner own)
    (admits : Admits deployment world msg' own (.updateCustomHistory customHistoryId name
      metadata)) :
    Mirrored deployment world userAddress event base msg msg' inner own
      (.updateCustomHistory customHistoryId name metadata) := by
  intro selfCall selfCall'
  apply Outcome.Mirrors.lift
  apply Matches.passed admits
  intro _
  obtain ⟨fresh, logs, rfl⟩ := beside
  apply Matches.after rfl
  intro _
  apply Matches.after rfl
  intro _
  apply Matches.pure
  apply Beside.emit
  unfold getCustomHistoryNameById
  split
  · exact ⟨fresh, logs, rfl⟩
  · exact ⟨fresh, logs, rfl⟩

theorem transferFrom_mirrored {from_ to_ : Address} {tokenId : Uint256}
    (beside : Beside userAddress event base inner own)
    (senders : _msgSender deployment msg = _msgSender deployment msg') :
    Mirrored deployment world userAddress event base msg msg' inner own
      (.transferFrom from_ to_ tokenId) := by
  intro selfCall selfCall'
  obtain ⟨unlocked, approved⟩ := beside.spends tokenId
  apply Outcome.Mirrors.lift
  unfold transferFrom
  rw [senders, unlocked, approved]
  apply Matches.after rfl
  intro _
  apply Matches.after rfl
  intro allowed
  apply Matches.after rfl
  intro _
  exact transfer_matches beside

theorem safeTransferFrom_mirrored {from_ to_ : Address} {tokenId : Uint256} {_data : Bytes}
    (beside : Beside userAddress event base inner own)
    (senders : _msgSender deployment msg = _msgSender deployment msg') :
    Mirrored deployment world userAddress event base msg msg' inner own
      (.safeTransferFrom from_ to_ tokenId _data) := by
  intro selfCall selfCall'
  obtain ⟨unlocked, approved⟩ := beside.spends tokenId
  simp only [execute, safeTransferFrom, senders, unlocked, approved]
  apply Outcome.Mirrors.after rfl
  intro _
  apply Outcome.Mirrors.after rfl
  intro allowed
  apply Outcome.Mirrors.after rfl
  intro _
  exact safeTransfer_mirrors beside senders

theorem approve_mirrored {to_ : Address} {tokenId : Uint256}
    (beside : Beside userAddress event base inner own)
    (admits : Admits deployment world msg' own (.approve to_ tokenId)) :
    Mirrored deployment world userAddress event base msg msg' inner own
      (.approve to_ tokenId) := by
  intro selfCall selfCall'
  apply Outcome.Mirrors.lift
  intro inner' accepted
  simp only [approve, bind_eq_ok, ownerOf_eq_ok, require_eq_ok] at accepted ⊢
  obtain ⟨_, unlocked, _, ⟨owned, rfl⟩, _, other, _, _, approves⟩ := accepted
  obtain ⟨own', approves', beside'⟩ := approve_matches beside inner' approves
  obtain ⟨_, _, rfl⟩ := beside
  exact ⟨own', ⟨(), unlocked, _, ⟨owned, rfl⟩, (), other, (), admits, approves'⟩, beside'⟩

theorem setApprovalForAll_mirrored {operator : Address} {approved : Bool}
    (beside : Beside userAddress event base inner own)
    (senders : _msgSender deployment msg = _msgSender deployment msg') :
    Mirrored deployment world userAddress event base msg msg' inner own
      (.setApprovalForAll operator approved) := by
  intro selfCall selfCall'
  obtain ⟨fresh, logs, rfl⟩ := beside
  apply Outcome.Mirrors.lift
  unfold setApprovalForAll
  rw [senders]
  apply Matches.after rfl
  intro _
  exact Matches.pure ⟨_ :: fresh, congrArg (List.cons _) logs, rfl⟩

theorem setLockExternalTransfer_mirrored {tokenId : Uint256} {flag : Bool}
    (beside : Beside userAddress event base inner own)
    (admits : Admits deployment world msg' own (.setLockExternalTransfer tokenId flag)) :
    Mirrored deployment world userAddress event base msg msg' inner own
      (.setLockExternalTransfer tokenId flag) := by
  intro selfCall selfCall'
  apply Outcome.Mirrors.lift
  apply Matches.passed admits
  intro _
  obtain ⟨fresh, logs, rfl⟩ := beside
  apply Matches.after rfl
  intro _
  exact Matches.pure ⟨_ :: fresh, congrArg (List.cons _) logs, rfl⟩

theorem transferOwnership_mirrored {newOwner : Address}
    (beside : Beside userAddress event base inner own)
    (admits : Admits deployment world msg' own (.transferOwnership newOwner)) :
    Mirrored deployment world userAddress event base msg msg' inner own
      (.transferOwnership newOwner) := by
  intro selfCall selfCall'
  apply Outcome.Mirrors.lift
  apply Matches.passed admits
  intro _
  obtain ⟨fresh, logs, rfl⟩ := beside
  apply Matches.after rfl
  intro _
  exact Matches.pure ⟨_ :: fresh, congrArg (List.cons _) logs, rfl⟩

/-- A call does no more inside a meta transaction than on its own, if it is admitted there. -/
theorem execute_mirrors {selfCall selfCall' : Msg → Call → State → Execution State} {call : Call}
    (beside : Beside userAddress event base inner own)
    (senders : _msgSender deployment msg = _msgSender deployment msg')
    (others : msg.sender ≠ msg'.sender)
    (admits : Admits deployment world msg' own call) (untraced : Untraced msg' own msg call) :
    (execute deployment world selfCall msg call inner).Mirrors
      (Beside userAddress event base) (Beside userAddress event base)
      (execute deployment world selfCall' msg' call own) := by
  cases call with
  | setTrustedForwarder forwarder => exact setTrustedForwarder_mirrored beside admits _ _
  | setMaxCombinedHistoryRecords maxRecords =>
      obtain ⟨fresh, logs, rfl⟩ := beside
      exact Outcome.Mirrors.lift (Matches.written admits ⟨fresh, logs, rfl⟩)
  | createSRRFromLicensedUser => exact createSRRFromLicensedUser_mirrored beside others admits _ _
  | createSRRFromBulk => exact createSRRFromBulk_mirrored beside admits _ _
  | approveSRRByCommitmentFromBulk =>
      exact approveSRRByCommitmentFromBulk_mirrored beside admits _ _
  | transferFromWithProvenanceFromBulk signer to_ tokenId historyMetadataHash customHistoryId
      isIntermediary =>
      apply Outcome.Mirrors.passed admits
      intro _
      refine Outcome.Mirrors.after ?_ fun _ => transferFromWithProvenance_mirrors beside senders
      unfold onlySRROwner
      rw [beside.ownerOf]
  | updateSRR tokenId isPrimaryIssuer artistAddress =>
      exact updateSRR_mirrored beside admits untraced _ _
  | updateSRRMetadata tokenId metadataCID => exact updateSRRMetadata_mirrored beside admits _ _
  | updateSRRRoyalty => exact updateSRRRoyalty_mirrored beside admits _ _
  | updateSRRRoyaltyReceiverMulti tokenIds royaltyReceiver =>
      apply Outcome.Mirrors.lift
      apply Matches.passed admits
      intro _
      exact updateRoyaltyReceivers_matches beside
  | approveSRRByCommitment tokenId commitment historyMetadataHash =>
      apply Outcome.Mirrors.lift
      apply Matches.passed admits
      intro _
      exact approveSRRByCommitment_matches beside
  | approveSRRByCommitmentWithHistory =>
      exact approveSRRByCommitmentWithHistory_mirrored beside admits _ _
  | cancelSRRCommitment tokenId =>
      apply Outcome.Mirrors.lift
      apply Matches.passed admits
      intro _
      obtain ⟨fresh, logs, rfl⟩ := beside
      exact Matches.pure ⟨_ :: fresh, congrArg (List.cons _) logs, rfl⟩
  | transferSRRByReveal => exact transferSRRByReveal_mirrored beside _ _
  | addHistory tokenIds customHistoryIds => exact addHistory_mirrored beside admits _ _
  | setNameRegistryAddress nameRegistry => exact setNameRegistryAddress_mirrored beside admits _ _
  | setTokenURIParts URIPrefix URIPostfix =>
      obtain ⟨fresh, logs, rfl⟩ := beside
      exact Outcome.Mirrors.lift (Matches.written admits ⟨fresh, logs, rfl⟩)
  | addCustomHistoryType historyTypeName => exact addCustomHistoryType_mirrored beside admits _ _
  | writeCustomHistory => exact writeCustomHistory_mirrored beside admits _ _
  | updateCustomHistory customHistoryId name metadata =>
      exact updateCustomHistory_mirrored beside admits _ _
  | transferFrom from_ to_ tokenId => exact transferFrom_mirrored beside senders _ _
  | safeTransferFrom from_ to_ tokenId _data => exact safeTransferFrom_mirrored beside senders _ _
  | transferFromWithProvenance to_ tokenId historyMetadataHash customHistoryId isIntermediary =>
      apply Outcome.Mirrors.passed admits
      intro _
      exact transferFromWithProvenance_mirrors beside senders
  | approve to_ tokenId => exact approve_mirrored beside admits _ _
  | setApprovalForAll operator approved => exact setApprovalForAll_mirrored beside senders _ _
  | setLockExternalTransfer tokenId flag => exact setLockExternalTransfer_mirrored beside admits _ _
  | setContractURI _contractURI =>
      obtain ⟨fresh, logs, rfl⟩ := beside
      exact Outcome.Mirrors.lift (Matches.written admits ⟨fresh, logs, rfl⟩)
  | transferOwnership newOwner => exact transferOwnership_mirrored beside admits _ _
  | setOpenSeaApproveAllKillSwitch on =>
      obtain ⟨fresh, logs, rfl⟩ := beside
      exact Outcome.Mirrors.lift (Matches.written admits ⟨fresh, logs, rfl⟩)
  | setOpenSeaMetaTxIntegration proxyRegistryAddress name =>
      obtain ⟨fresh, logs, rfl⟩ := beside
      exact Outcome.Mirrors.lift (Matches.written admits ⟨fresh, logs, rfl⟩)
  | executeMetaTransaction userAddress callData sigR sigS sigV => exact absurd untraced id
  | view calldata => exact ⟨own, rfl, beside⟩

theorem first_check {check : Result Unit} {next : Unit → Result State} {state : State}
    (ran : (liftM (check >>= next) : Execution State).front = some state) : check = .ok () := by
  obtain ⟨_, checked, _⟩ := bind_eq_ok.mp (Outcome.front_lift ran)
  exact checked

theorem execute_admits {selfCall : Msg → Call → State → Execution State} {call : Call}
    {own' : State} (ran : (execute deployment world selfCall msg call own).front = some own') :
    Admits deployment world msg own call := by
  cases call with
  | createSRRFromBulk =>
      obtain ⟨_, accepted, _⟩ := Outcome.front_lift_bind ran
      obtain ⟨_, checked, _⟩ := bind_eq_ok.mp accepted
      exact checked
  | transferFromWithProvenanceFromBulk | transferFromWithProvenance =>
      obtain ⟨_, checked, _⟩ := Outcome.front_lift_bind ran
      exact checked
  | updateSRR | updateSRRMetadata | updateSRRRoyalty =>
      obtain ⟨_, _, accepted⟩ := bind_eq_ok.mp (Outcome.front_lift ran)
      obtain ⟨_, checked, _⟩ := bind_eq_ok.mp accepted
      exact checked
  | setNameRegistryAddress =>
      obtain ⟨_, _, accepted⟩ := bind_eq_ok.mp (Outcome.front_lift ran)
      obtain ⟨_, checked, _⟩ := bind_eq_ok.mp accepted
      exact checked
  | addHistory tokenIds customHistoryIds =>
      have accepted := Outcome.front_lift ran
      simp only [addHistory, bind_eq_ok] at accepted
      obtain ⟨_, checked, _, _, _, _, _, tokens, _⟩ := accepted
      refine ⟨checked, ?_⟩
      intro tokenId member
      obtain ⟨_, _, admitted⟩ := bind_eq_ok.mp (forEach_all tokens tokenId member)
      exact admitted
  | approve to_ tokenId =>
      have accepted := Outcome.front_lift ran
      simp only [approve, bind_eq_ok, ownerOf_eq_ok, require_eq_ok] at accepted
      obtain ⟨_, _, _, ⟨_, rfl⟩, _, _, _, admitted, _⟩ := accepted
      exact admitted
  | transferFrom | safeTransferFrom | setApprovalForAll | transferSRRByReveal
  | executeMetaTransaction | view => trivial
  | _ => exact first_check ran

end Calls

section Traces

variable {deployment : Deployment} {world : World} {msg msg' : Msg} {userAddress : Address}
  {event : Event} {base : List Event} {inner inner' own own' state state' middle : State}
  {call call' : Call}

/-- Beside each other the same was logged. -/
theorem Beside.same_logs {logged logged' : List Event}
    (before : Beside userAddress event base inner own)
    (after : Beside userAddress event base inner' own')
    (inside : inner'.logs = logged ++ inner.logs) (alone : own'.logs = logged' ++ own.logs) :
    logged = logged' := by
  obtain ⟨fresh, logs, rfl⟩ := before
  obtain ⟨fresh', logs', rfl⟩ := after
  rw [logs', logs, ← List.append_assoc] at alone
  have first : fresh' = logged' ++ fresh := List.append_cancel_right alone
  rw [← List.append_assoc] at inside
  have second : fresh' = logged ++ fresh := List.append_cancel_right inside
  rw [first] at second
  exact (List.append_cancel_right second).symm

theorem Runs.logs (runs : Runs deployment state msg call middle msg' call') :
    ∃ fresh, middle.logs = fresh ++ state.logs := by
  induction runs with
  | direct state msg call => exact ⟨[], rfl⟩
  | wrapped accepts _ _ ih =>
      obtain ⟨_, _, _, rfl⟩ := acceptMetaTransaction_consumes accepts
      obtain ⟨fresh, grown⟩ := ih
      exact ⟨fresh ++ [_], by rw [grown, List.append_assoc]; rfl⟩

theorem perform_relayer {depth : Nat} {callData : Bytes} {sigR sigS : Bytes32} {sigV : Uint8}
    (ran : (perform deployment world depth msg
      (.executeMetaTransaction userAddress callData sigR sigS sigV) state).front = some state') :
    ∃ fresh, state'.logs =
      fresh ++ [.MetaTransactionExecuted userAddress msg.sender callData] ++ state.logs := by
  obtain ⟨middle, _, _, runs, accepted⟩ := perform_accepted ran
  obtain ⟨later, grown, _⟩ := accepted.wrote.logs
  cases runs with
  | direct =>
      cases accepted with
      | aside aside _ => cases aside
  | wrapped accepts _ runs =>
      obtain ⟨_, _, _, rfl⟩ := acceptMetaTransaction_consumes accepts
      obtain ⟨fresh, grown'⟩ := runs.logs
      refine ⟨later ++ fresh, ?_⟩
      simp only [grown, grown', List.append_assoc]
      rfl

theorem perform_eq (deployment : Deployment) (world : World) (depth : Nat) :
    ∃ selfCall, perform deployment world depth = execute deployment world selfCall := by
  cases depth with
  | zero => exact ⟨_, rfl⟩
  | succ depth => exact ⟨_, rfl⟩

theorem perform_untraced {depth depth' : Nat} (others : msg.sender ≠ msg'.sender)
    (beside : Beside userAddress event base inner own)
    (ran : (perform deployment world depth msg call inner).front = some inner')
    (ran' : (perform deployment world depth' msg' call own).front = some own')
    (after : Beside userAddress event base inner' own') : Untraced msg' own msg call := by
  cases call with
  | updateSRR tokenId isPrimaryIssuer artistAddress =>
      obtain ⟨selfCall, same⟩ := perform_eq deployment world depth
      obtain ⟨selfCall', same'⟩ := perform_eq deployment world depth'
      rw [same] at ran
      rw [same'] at ran'
      have accepted := Outcome.front_lift ran
      have accepted' := Outcome.front_lift ran'
      simp only [updateSRR, bind_eq_ok, pure_eq_ok] at accepted accepted'
      obtain ⟨_, _, _, _, rfl⟩ := accepted
      obtain ⟨_, _, _, _, rfl⟩ := accepted'
      have logged : [Event.UpdateSRR tokenId isPrimaryIssuer artistAddress (sender msg inner)] =
          [Event.UpdateSRR tokenId isPrimaryIssuer artistAddress (sender msg' own)] :=
        beside.same_logs after rfl rfl
      simp only [List.cons.injEq, Event.UpdateSRR.injEq, true_and, and_true] at logged
      obtain ⟨_, _, rfl⟩ := beside
      exact logged
  | executeMetaTransaction userAddress callData sigR sigS sigV =>
      obtain ⟨fresh, grown⟩ := perform_relayer ran
      obtain ⟨fresh', grown'⟩ := perform_relayer ran'
      have logged := Beside.same_logs beside after grown grown'
      have last := (List.append_inj' logged rfl).2
      simp only [List.cons.injEq, Event.MetaTransactionExecuted.injEq, true_and, and_true] at last
      exact others last
  | _ => trivial

end Traces

/-- A decoder that does not mind bytes behind the arguments. A view keeps its calldata. -/
def Lenient (deployment : Deployment) : Prop :=
  ∀ calldata extra call, deployment.dispatch calldata = some call →
    deployment.dispatch (calldata ++ extra) = some call ∨
      ∃ calldata', call = .view calldata ∧
        deployment.dispatch (calldata ++ extra) = some (.view calldata')

/-- The user's own call with this calldata. -/
def ownCall (deployment : Deployment) (world : World) (depth : Nat) (userAddress : Address)
    (callData : Bytes) (state : State) : Execution State :=
  match deployment.dispatch callData with
  | some call => entry deployment ⟨world, depth, ⟨userAddress, callData⟩, call⟩ state
  | none => .revert .empty

def OwnRight (deployment : Deployment) (world : World) (userAddress : Address) (callData : Bytes)
    (state : State) : Prop :=
  ∃ call, deployment.dispatch callData = some call ∧
    Admits deployment world ⟨userAddress, callData⟩ state call ∧
    Untraced ⟨userAddress, callData⟩ state (selfMsg deployment userAddress callData) call

section Rights

variable {deployment : Deployment} {world : World} {msg : Msg} {userAddress : Address}
  {callData : Bytes} {sigR sigS : Bytes32} {sigV : Uint8} {state accepted : State}

theorem accepted_beside
    (accepts : acceptMetaTransaction deployment msg state userAddress callData sigR sigS sigV =
      .ok accepted) :
    Beside userAddress (.MetaTransactionExecuted userAddress msg.sender callData) state.logs
      accepted state := by
  obtain ⟨_, _, _, rfl⟩ := acceptMetaTransaction_consumes accepts
  exact ⟨[], rfl, rfl⟩

theorem perform_metaTransaction {depth : Nat} {state' : State}
    (ran : (perform deployment world depth msg
      (.executeMetaTransaction userAddress callData sigR sigS sigV) state).front = some state') :
    ∃ depth' accepted call,
      acceptMetaTransaction deployment msg state userAddress callData sigR sigS sigV =
        .ok accepted ∧
      deployment.dispatch (callData ++ packWord userAddress) = some call ∧
      perform deployment world depth msg
          (.executeMetaTransaction userAddress callData sigR sigS sigV) state =
        (perform deployment world depth' (selfMsg deployment userAddress callData) call
          accepted).failWith (.reason "Function call not successful") := by
  cases depth with
  | zero =>
      obtain ⟨accepted, _, inside⟩ := Outcome.front_lift_bind ran
      split at inside
      · cases inside
      · cases inside
  | succ depth =>
      obtain ⟨accepted, accepts, inside⟩ := Outcome.front_lift_bind ran
      cases dispatched : deployment.dispatch (callData ++ packWord userAddress) with
      | none =>
          simp only [selfMsg, dispatched] at inside
          cases inside
      | some call =>
          refine ⟨depth, accepted, call, accepts, rfl, ?_⟩
          simp only [perform, execute, executeMetaTransaction, accepts, Outcome.liftM_ok,
            Outcome.done_bind, selfMsg, dispatched]

theorem own_senders (user : userAddress ≠ deployment.self) :
    _msgSender deployment (selfMsg deployment userAddress callData) =
      _msgSender deployment ⟨userAddress, callData⟩ := by
  rw [msgSender_selfMsg, _msgSender, if_neg user]

end Rights

/-- A meta transaction that succeeds does what its user could do alone exactly when the calldata
decodes without the user behind it, the function admits the user as its caller, and it leaves no
trace of who called. -/
theorem meta_transaction_rights (deployment : Deployment) (lenient : Lenient deployment)
    (world : World) (depth : Nat) (msg : Msg) (state state' : State) (userAddress : Address)
    (user : userAddress ≠ deployment.self) (callData : Bytes) (sigR sigS : Bytes32) (sigV : Uint8)
    (ran : (entry deployment
      ⟨world, depth, msg, .executeMetaTransaction userAddress callData sigR sigS sigV⟩
        state).front = some state') :
    (entry deployment
      ⟨world, depth, msg, .executeMetaTransaction userAddress callData sigR sigS sigV⟩
        state).Mirrors
      (Beside userAddress (.MetaTransactionExecuted userAddress msg.sender callData) state.logs)
      (Beside userAddress (.MetaTransactionExecuted userAddress msg.sender callData) state.logs)
      (ownCall deployment world depth userAddress callData state) ↔
      OwnRight deployment world userAddress callData state := by
  obtain ⟨depth', accepted, call, accepts, dispatched, same⟩ := perform_metaTransaction ran
  have beside := accepted_beside accepts
  have others : (selfMsg deployment userAddress callData).sender ≠ userAddress := Ne.symm user
  obtain ⟨selfCall, runsInside⟩ := perform_eq deployment world depth'
  obtain ⟨ownSelfCall, runsAlone⟩ := perform_eq deployment world depth
  rw [entry, same] at ran ⊢
  rw [Outcome.front_failWith] at ran
  rw [Outcome.mirrors_failWith]
  constructor
  · intro mirrors
    obtain ⟨own', ownRan, after⟩ := mirrors.front ran
    unfold ownCall at ownRan
    split at ownRan
    · rename_i own ownDispatched
      rcases lenient callData (packWord userAddress) own ownDispatched with
        decoded | ⟨_, rfl, _⟩
      · rw [dispatched] at decoded
        cases decoded
        refine ⟨call, ownDispatched, ?_, perform_untraced others beside ran ownRan after⟩
        rw [entry, runsAlone] at ownRan
        exact execute_admits ownRan
      · exact ⟨.view callData, ownDispatched, trivial, trivial⟩
    · cases ownRan
  · rintro ⟨own, ownDispatched, admits, untraced⟩
    simp only [ownCall, ownDispatched, entry, runsInside, runsAlone]
    rcases lenient callData (packWord userAddress) own ownDispatched with
      decoded | ⟨calldata', rfl, viewed⟩
    · rw [dispatched] at decoded
      cases decoded
      exact execute_mirrors beside (own_senders user) others admits untraced
    · rw [dispatched] at viewed
      cases viewed
      exact ⟨state, rfl, beside⟩

section Samples

theorem metaDeployment_lenient : Lenient metaDeployment := by
  intro calldata extra call dispatched
  refine Or.inl ?_
  simp only [metaDeployment] at dispatched ⊢
  split at dispatched
  · rename_i front
    have long : 68 ≤ calldata.length := by
      have size := congrArg List.length front
      have data : approveAllData.length = 68 := by decide
      rw [List.length_take, data] at size
      omega
    rw [List.take_append_of_le_length long, if_pos front]
    exact dispatched
  · cases dispatched

set_option maxRecDepth 8000 in
theorem approveAllCall_mirrors :
    (entry metaDeployment approveAllCall configuredRun.now.state).Mirrors
      (Beside 0xa11ce (.MetaTransactionExecuted 0xa11ce 0xe0a approveAllData)
        configuredRun.now.state.logs)
      (Beside 0xa11ce (.MetaTransactionExecuted 0xa11ce 0xe0a approveAllData)
        configuredRun.now.state.logs)
      (ownCall metaDeployment sampleWorld 8 0xa11ce approveAllData configuredRun.now.state) := by
  have entered : (entry metaDeployment approveAllCall configuredRun.now.state).front.isSome =
      true := by decide
  obtain ⟨state', ran⟩ := Option.isSome_iff_exists.mp entered
  refine (meta_transaction_rights metaDeployment metaDeployment_lenient sampleWorld 8 ⟨0xe0a, []⟩
    configuredRun.now.state state' 0xa11ce (by decide) approveAllData 1 2 27 ran).mpr ?_
  have whole : approveAllData.take 68 = approveAllData := by decide
  have decoded : metaDeployment.dispatch approveAllData = some (.setApprovalForAll 0xb0b true) := by
    simp only [metaDeployment, if_pos whole]
  exact ⟨.setApprovalForAll 0xb0b true, decoded, trivial, trivial⟩

-- `transferFromWithProvenance(0xbad, recordId, "", 0, false)`
def seizeData : Bytes :=
  [0xfb, 0x89, 0x72, 0x04] ++ encodeAddress 0xbad ++ packWord recordId ++ encodeBE 32 0xa0 ++
    encodeBE 32 0 ++ encodeBE 32 0 ++ encodeBE 32 0

def seizeDeployment : Deployment where
  evm := { sampleEvm with
    recover := fun _ v _ _ => if v = 27 then some ⟨0xbad, by decide⟩ else none }
  self := 0x5e1f
  dispatch calldata :=
    if calldata.take 196 = seizeData then
      some (.transferFromWithProvenance 0xbad recordId [] 0 false)
    else none

-- A record that its owner sent to the registry itself.
def lostRun : Config Revert State Query Reply Transaction :=
  let enter := Config.enter (entry seizeDeployment)
  enter (sampleCall 0xa11ce (.transferFrom 0xa11ce 0x5e1f recordId))
    (enter (sampleCall 0xb17c (.createSRRFromBulk true 0xa271 (ascii "Qm") 0xa11ce false 0 0 0))
      (.start State.blank))

def seizeCall : Transaction :=
  sampleCall 0xe0a (.executeMetaTransaction 0xbad seizeData 1 2 27)

set_option maxRecDepth 8000 in
/-- Anyone takes the record by a meta transaction, and nobody can by a call of their own. -/
theorem lostRun_seized :
    Reach (entry seizeDeployment) (Legal seizeDeployment) State.blank lostRun ∧
      (entry seizeDeployment seizeCall lostRun.now.state).front.map
        (fun state => state._tokenOwner recordId) = some 0xbad ∧
      (entry seizeDeployment seizeCall lostRun.now.state).question.isNone ∧
      (ownCall seizeDeployment sampleWorld 8 0xbad seizeData lostRun.now.state).front.isNone ∧
      ¬(entry seizeDeployment seizeCall lostRun.now.state).Mirrors
        (Beside 0xbad (.MetaTransactionExecuted 0xbad 0xe0a seizeData) lostRun.now.state.logs)
        (Beside 0xbad (.MetaTransactionExecuted 0xbad 0xe0a seizeData) lostRun.now.state.logs)
        (ownCall seizeDeployment sampleWorld 8 0xbad seizeData lostRun.now.state) := by
  have seized : (entry seizeDeployment seizeCall lostRun.now.state).front.map
    (fun state => state._tokenOwner recordId) = some 0xbad := by decide
  have alone : (ownCall seizeDeployment sampleWorld 8 0xbad seizeData
    lostRun.now.state).front.isNone := by decide
  refine ⟨?_, seized, by decide, alone, ?_⟩
  · exact .enter _ (.enter _ .start (by unfold Legal; decide)) (by unfold Legal; decide)
  · intro mirrors
    obtain ⟨state', ran, _⟩ := Option.map_eq_some_iff.mp seized
    obtain ⟨own', ownRan, _⟩ := mirrors.front ran
    rw [ownRan] at alone
    cases alone

end Samples

end Startrail.Registry
