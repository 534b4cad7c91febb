import Startrail.Registry.Frame

/-!
Who may move a token of the registry. Every call comes to one change of the book
of owners and commitments: `Runs` finds the call that is run in the end, inside
any meta transactions, and `Warrant` is what the code has checked before the
change. The receiver check is the last thing a call does, so a call's own effect
is the state at that point.
-/

namespace Startrail.Registry

def mark : Event → Option (Mark Uint256 Bytes32)
  | .Transfer from_ to_ tokenId => if to_ = from_ then none else some (.acquired tokenId)
  | .SRRCommitment tokenId _ commitment _ => some (.approved tokenId commitment)
  | _ => none

def book (state : State) : Book Uint256 Address Approval Bytes32 where
  owner := state._tokenOwner
  record := commitmentOf state
  marks := state.logs.filterMap mark

variable {deployment : Deployment} {world : World} {msg : Msg} {state state' : State}

section Books

theorem book_eq (owners : state'._tokenOwner = state._tokenOwner)
    (commitments : ∀ tokenId, commitmentOf state' tokenId = commitmentOf state tokenId)
    (logs : state'.logs.filterMap mark = state.logs.filterMap mark) : book state' = book state := by
  unfold book
  rw [owners, logs, funext commitments]

theorem exists_iff {tokenId : Uint256} :
    _exists state tokenId = true ↔ (book state).Exists tokenScheme tokenId := by
  simp [_exists, Book.Exists, book, tokenScheme]

theorem ownerOf_eq_ok {tokenId : Uint256} {owner : Address} :
    ownerOf state tokenId = .ok owner ↔
      (book state).Exists tokenScheme tokenId ∧ state._tokenOwner tokenId = owner := by
  simp only [ownerOf, bind_eq_ok, require_eq_ok, pure_eq_ok, exists_iff]
  constructor
  · rintro ⟨_, owned, same⟩
    exact ⟨owned, same⟩
  · rintro ⟨owned, same⟩
    exact ⟨(), owned, same⟩

theorem getApproved_eq_ok {tokenId : Uint256} {approved : Address} :
    getApproved state tokenId = .ok approved ↔
      (book state).Exists tokenScheme tokenId ∧ state._tokenApprovals tokenId = approved := by
  simp only [getApproved, bind_eq_ok, require_eq_ok, pure_eq_ok, exists_iff]
  constructor
  · rintro ⟨_, owned, same⟩
    exact ⟨owned, same⟩
  · rintro ⟨owned, same⟩
    exact ⟨(), owned, same⟩

theorem transferred_moved {from_ to_ : Address} {tokenId : Uint256}
    (owners : state'._tokenOwner = Function.update state._tokenOwner tokenId to_)
    (logs : state'.logs.filterMap mark = (mark (.Transfer from_ to_ tokenId)).toList ++
      state.logs.filterMap mark)
    (before : state._tokenOwner tokenId = from_) :
    Moved (book state) (book state') tokenId to_ := by
  subst before
  exact ⟨owners, .logged logs⟩

theorem transfer_effect {from_ to_ : Address} {tokenId : Uint256}
    (moved : _transfer state from_ to_ tokenId = .ok state') :
    (book state).Exists tokenScheme tokenId ∧ state._tokenOwner tokenId = from_ ∧ to_ ≠ 0 ∧
      Moved (book state) (book state') tokenId to_ ∧
      (book state').record = (book state).record := by
  obtain ⟨owned, rfl, recipient, _, _, rfl⟩ := transfer_accepted moved
  exact ⟨owned, rfl, recipient, transferred_moved rfl (marks_cons mark _ _) rfl, rfl⟩

theorem mint_effect {to_ : Address} {tokenId : Uint256}
    (minted : _mint state to_ tokenId = .ok state') :
    ¬(book state).Exists tokenScheme tokenId ∧ to_ ≠ 0 ∧
      Moved (book state) (book state') tokenId to_ ∧
      (book state').record = (book state).record := by
  obtain ⟨unowned, recipient, _, rfl⟩ := mint_accepted minted
  have missing : ¬(book state).Exists tokenScheme tokenId := by
    simp [Book.Exists, book, tokenScheme, unowned]
  exact ⟨missing, recipient, transferred_moved rfl (marks_cons mark _ _) unowned, rfl⟩

theorem book_emit {event : Event} (unmarked : mark event = none) :
    book (state.emit event) = book state :=
  book_eq rfl (fun _ => rfl) (by rw [State.emit, marks_cons, unmarked]; rfl)

theorem Aside.book (aside : Aside state state') : book state' = book state := by
  refine book_eq aside.owners ?_ (aside.filterMap ?_)
  · intro tokenId
    simp only [commitmentOf, aside.words, aside.uints]
    rw [aside.strings tokenId _ _ (by decide)]
  · intro event quiet
    cases event <;> first | rfl | cases quiet

theorem recorded_book (minted : State) {isPrimaryIssuer lockExternalTransfer_ : Bool}
    {artistAddress sender : Address} {metadataCID : Bytes} {tokenId : Uint256} :
    book (minted.recorded tokenId isPrimaryIssuer artistAddress sender metadataCID
      lockExternalTransfer_) = book minted := by
  rw [State.recorded, book_emit rfl]
  exact book_eq rfl (by simp [_saveSRR, commitmentOf, Storage.set_apply]) rfl

theorem createSRR_effect {isPrimaryIssuer lockExternalTransfer_ : Bool}
    {artistAddress sender royaltyReceiver : Address} {metadataCID : Bytes}
    {royaltyBasisPoints : Uint16} {tokenId : Uint256}
    (created : _createSRR deployment state isPrimaryIssuer artistAddress metadataCID sender
      lockExternalTransfer_ royaltyReceiver royaltyBasisPoints = .ok (state', tokenId)) :
    ¬(book state).Exists tokenScheme tokenId ∧ sender ≠ 0 ∧
      Moved (book state) (book state') tokenId sender ∧
      (book state').record = (book state).record := by
  obtain ⟨_, minted, mint, aside⟩ := createSRR_aside created
  rw [aside.book, recorded_book]
  exact mint_effect mint

theorem createSRRFor_effect {isPrimaryIssuer lockExternalTransfer_ : Bool}
    {artistAddress issuerAddress to_ royaltyReceiver : Address} {metadataCID : Bytes}
    {royaltyBasisPoints : Uint16} {tokenId : Uint256}
    (created : createSRRFor deployment state isPrimaryIssuer artistAddress metadataCID issuerAddress
      lockExternalTransfer_ to_ royaltyReceiver royaltyBasisPoints = .ok (state', tokenId)) :
    ∃ owner, Step tokenScheme (book state) (book state') (.create tokenId owner) := by
  obtain ⟨middle, first, ending⟩ := createSRRFor_accepted created
  obtain ⟨absent, issuer, minted, records⟩ := createSRR_effect first
  have unowned : state._tokenOwner tokenId = 0 := by
    simpa [Book.Exists, book, tokenScheme] using absent
  rcases ending with ⟨_, passed⟩ | ⟨_, rfl⟩
  · obtain ⟨_, _, recipient, moved, records'⟩ := transfer_effect passed
    refine ⟨to_, absent, recipient, minted.trans moved ?_ ?_, records'.trans records⟩
    · exact fun same => issuer (same.trans unowned)
    · exact fun same => recipient (same.trans unowned)
  · exact ⟨issuerAddress, absent, issuer, minted, records⟩

theorem cancelPriorApproval_book (tokenId : Uint256) :
    book (cancelPriorApproval state tokenId) = book state := by
  unfold cancelPriorApproval
  split
  · exact book_emit rfl
  · rfl

theorem approveSRRByCommitment_effect {tokenId customHistoryId : Uint256} {commitment : Bytes32}
    {historyMetadataHash : Bytes}
    (approved : _approveSRRByCommitment state tokenId commitment historyMetadataHash
      customHistoryId = .ok state') :
    ∃ record, Step tokenScheme (book state) (book state') (.approve tokenId record) := by
  obtain ⟨owned, _, rfl, stores⟩ := approveSRRByCommitment_accepted approved
  rw [← @cancelPriorApproval_owners state tokenId] at owned
  have unchanged : book (cancelPriorApproval state tokenId) = book state :=
    cancelPriorApproval_book tokenId
  rw [← unchanged]
  generalize cancelPriorApproval state tokenId = prior at owned stores ⊢
  rcases stores with ⟨_, rfl⟩ | ⟨_, rfl⟩
  · refine ⟨⟨commitment, historyMetadataHash, (commitmentOf prior tokenId).customHistoryId⟩, owned,
      rfl, ?_, rfl⟩
    funext other
    by_cases same : other = tokenId
    · subst other
      simp [book, commitmentOf, storeCommitment, State.emit, Storage.set_apply]
    · simp [book, commitmentOf, storeCommitment, State.emit, Storage.set_apply, same]
  · refine ⟨⟨commitment, historyMetadataHash, customHistoryId⟩, owned, rfl, ?_, rfl⟩
    funext other
    by_cases same : other = tokenId
    · subst other
      simp [book, commitmentOf, storeCommitment, storeCustomHistory, State.emit, Storage.set_apply]
    · simp [book, commitmentOf, storeCommitment, storeCustomHistory, State.emit, Storage.set_apply,
        same]

theorem clearSRRCommitment_record (tokenId : Uint256) :
    commitmentOf (_clearSRRCommitment state tokenId) =
      Function.update (commitmentOf state) tokenId Approval.none := by
  funext other
  by_cases same : other = tokenId
  · subst other
    simp [commitmentOf, _clearSRRCommitment, Storage.set_apply, Approval.none]
  · simp [commitmentOf, _clearSRRCommitment, Storage.set_apply, same]

theorem transferSRRByReveal_effect {to_ : Address} {reveal : Bytes32} {tokenId : Uint256}
    {isIntermediary : Bool}
    (revealed : transferSRRByReveal deployment state to_ reveal tokenId isIntermediary =
      .ok state') :
    deployment.evm.keccak256 (packWord reveal) = (commitmentOf state tokenId).commitment ∧
      to_ ≠ 0 ∧ Step tokenScheme (book state) (book state') (.reveal tokenId to_) := by
  obtain ⟨owned, opened, transferred⟩ := transferSRRByReveal_accepted revealed
  obtain ⟨_, _, recipient, moved, records⟩ := transfer_effect transferred
  refine ⟨opened, recipient, owned, ⟨moved.owner, ?_⟩, ?_⟩
  · exact moved.marks
  · exact records.trans (clearSRRCommitment_record tokenId)

theorem safeTransfer_trailing {from_ to_ : Address} {tokenId : Uint256} {_data : Bytes} :
    (_safeTransfer deployment world msg state from_ to_ tokenId _data).Trailing := by
  apply Outcome.Trailing.lift_bind
  intro middle _
  unfold _checkOnERC721Received
  split
  · trivial
  · rw [Outcome.bind_bind]
    apply Outcome.Trailing.external
    intro later reply
    simp only [Outcome.bind_bind]
    apply Outcome.Ends.lift_bind
    intro accepted
    apply Outcome.Ends.lift_bind
    intro _
    exact Or.inl rfl

end Books

/-- The token and the recipient of the calls that hand a token over without a reveal. -/
def Call.handover : Call → Option (Uint256 × Address)
  | .transferFrom _ to_ tokenId => some (tokenId, to_)
  | .safeTransferFrom _ to_ tokenId _ => some (tokenId, to_)
  | .transferFromWithProvenance to_ tokenId _ _ _ => some (tokenId, to_)
  | .transferFromWithProvenanceFromBulk _ to_ tokenId _ _ _ => some (tokenId, to_)
  | _ => none

section Authority

variable (deployment : Deployment) (world : World) (msg : Msg) (state : State)

/-- The owner, the approved address, an operator, or the OpenSea proxy while it is switched on. -/
def MaySpend (tokenId : Uint256) : Prop :=
  let spender := _msgSender deployment msg
  let owner := state._tokenOwner tokenId
  spender = owner ∨ spender = state._tokenApprovals tokenId ∨
    state._operatorApprovals owner spender = true ∨
    (state._boolStorage SRR_GLOBAL_SLOT ._SRR ._OPENSEA_APPROVE_ALL_KILL_SWITCH = false ∧
      spender = getOpenSeaProxyAddress state)

def FromBulk : Prop :=
  let registered := (world.nameRegistry state.nameRegistryAddress).get
  msg.sender = registered BULK ∨ msg.sender = registered BULK_ISSUE ∨
    msg.sender = registered BULK_TRANSFER

/-- The calls that hand a token over without a reveal, each with what it has checked. -/
inductive Hands (tokenId : Uint256) (to_ : Address) : Call → Prop
  | transferFrom (from_ : Address) : MaySpend deployment msg state tokenId →
      Hands tokenId to_ (.transferFrom from_ to_ tokenId)
  | safeTransferFrom (from_ : Address) (_data : Bytes) : MaySpend deployment msg state tokenId →
      Hands tokenId to_ (.safeTransferFrom from_ to_ tokenId _data)
  | transferFromWithProvenance (historyMetadataHash : Bytes) (customHistoryId : Uint256)
      (isIntermediary : Bool) :
      sender msg state = state._tokenOwner tokenId ∨
        sender msg state = (world.nameRegistry state.nameRegistryAddress).administrator →
      Hands tokenId to_ (.transferFromWithProvenance to_ tokenId historyMetadataHash
        customHistoryId isIntermediary)
  | transferFromWithProvenanceFromBulk (signer : Address) (historyMetadataHash : Bytes)
      (customHistoryId : Uint256) (isIntermediary : Bool) :
      FromBulk world msg state → signer = state._tokenOwner tokenId →
      Hands tokenId to_ (.transferFromWithProvenanceFromBulk signer to_ tokenId
        historyMetadataHash customHistoryId isIntermediary)

/-- What the code has checked before a change. -/
def Warrant (call : Call) : Change Uint256 Address Approval → Prop
  | .hand tokenId to_ => to_ ≠ 0 ∧ Hands deployment world msg state tokenId to_ call
  | .reveal tokenId to_ => to_ ≠ 0 ∧ ∃ reveal isIntermediary,
      call = .transferSRRByReveal to_ reveal tokenId isIntermediary ∧
        deployment.evm.keccak256 (packWord reveal) = (commitmentOf state tokenId).commitment
  | _ => True

end Authority

section Effects

variable {tokenId : Uint256} {from_ to_ : Address}

theorem isApprovedOrOwner_maySpend
    (approved : _isApprovedOrOwner state (_msgSender deployment msg) tokenId = .ok true) :
    MaySpend deployment msg state tokenId := by
  simp only [_isApprovedOrOwner, bind_eq_ok, ownerOf_eq_ok, getApproved_eq_ok, pure_eq_ok]
    at approved
  obtain ⟨_, _, _, ⟨_, rfl⟩, _, ⟨_, rfl⟩, allowed⟩ := approved
  simp only [isApprovedForAll, Bool.or_eq_true, beq_iff_eq] at allowed
  unfold MaySpend
  rcases allowed with (owner | approved) | operator
  · exact Or.inl owner
  · exact Or.inr (Or.inl approved.symm)
  · split at operator
    · rename_i proxy
      exact Or.inr (Or.inr (Or.inr ⟨proxy.1, proxy.2.symm⟩))
    · exact Or.inr (Or.inr (Or.inl operator))

theorem onlyBulk_fromBulk (accepted : onlyBulk world msg state = .ok ()) :
    FromBulk world msg state := by
  simp only [onlyBulk, require_eq_ok] at accepted
  rcases accepted with bulk | issue | transfer
  · exact Or.inl bulk.symm
  · exact Or.inr (Or.inl issue.symm)
  · exact Or.inr (Or.inr transfer.symm)

theorem transfer_step (moved : _transfer state from_ to_ tokenId = .ok state') :
    to_ ≠ 0 ∧ Step tokenScheme (book state) (book state') (.hand tokenId to_) := by
  obtain ⟨_, _, recipient, moved, records⟩ := transfer_effect moved
  exact ⟨recipient, moved, records⟩

theorem provenance_step {historyMetadataHash : Bytes} {customHistoryId : Uint256}
    {isIntermediary : Bool}
    (moved : _transfer (_historyProvenance state tokenId from_ to_ historyMetadataHash
      customHistoryId isIntermediary) from_ to_ tokenId = .ok state') :
    to_ ≠ 0 ∧ Step tokenScheme (book state) (book state') (.hand tokenId to_) := by
  have step := transfer_step moved
  unfold _historyProvenance at step
  rwa [book_emit rfl] at step

theorem customHistory_book (id : Uint256) (name : Bytes) :
    book { state with
      _stringStorage := state._stringStorage.set id ._CUSTOM_HISTORY ._CUSTOM_HISTORY_NAME name } =
      book state :=
  book_eq rfl (by simp [commitmentOf, Storage.set_apply]) rfl

theorem Hands.handover {call : Call} (hands : Hands deployment world msg state tokenId to_ call) :
    call.handover = some (tokenId, to_) := by
  cases hands <;> rfl

theorem handover_aside {call : Call} (aside : call.aside = true) : call.handover = none := by
  cases call <;> first | rfl | cases aside

theorem Accepted.hands {call : Call} (accepted : Accepted deployment world msg state call state')
    (handover : call.handover = some (tokenId, to_)) :
    Warrant deployment world msg state call (.hand tokenId to_) ∧
      Step tokenScheme (book state) (book state') (.hand tokenId to_) := by
  cases accepted with
  | @transferFrom from_ _ _ _ _ spends moved =>
      cases handover
      obtain ⟨recipient, step⟩ := transfer_step moved
      exact ⟨⟨recipient, .transferFrom from_ (isApprovedOrOwner_maySpend spends)⟩, step⟩
  | @safeTransferFrom from_ _ _ _data _ _ spends moved =>
      cases handover
      obtain ⟨recipient, step⟩ := transfer_step moved
      exact ⟨⟨recipient, .safeTransferFrom from_ _data (isApprovedOrOwner_maySpend spends)⟩, step⟩
  | @transferFromWithProvenance _ _ historyMetadataHash customHistoryId isIntermediary _ _ allowed
      _ moved =>
      cases handover
      obtain ⟨recipient, step⟩ := provenance_step moved
      simp only [onlySRROwnerOrAdministrator, isAdministrator, bind_eq_ok, ownerOf_eq_ok,
        require_eq_ok, beq_iff_eq] at allowed
      obtain ⟨_, ⟨_, rfl⟩, allowed⟩ := allowed
      exact ⟨⟨recipient, .transferFromWithProvenance historyMetadataHash customHistoryId
        isIntermediary (allowed.imp Eq.symm Eq.symm)⟩, step⟩
  | @transferFromWithProvenanceFromBulk signer _ _ historyMetadataHash customHistoryId
      isIntermediary _ _ bulk owner _ moved =>
      cases handover
      obtain ⟨recipient, step⟩ := provenance_step moved
      simp only [onlySRROwner, bind_eq_ok, ownerOf_eq_ok, require_eq_ok] at owner
      obtain ⟨_, ⟨_, rfl⟩, owner⟩ := owner
      exact ⟨⟨recipient, .transferFromWithProvenanceFromBulk signer historyMetadataHash
        customHistoryId isIntermediary (onlyBulk_fromBulk bulk) owner.symm⟩, step⟩
  | aside aside _ => cases (handover_aside aside).symm.trans handover
  | _ => cases handover

/-- The effect of every call but a meta transaction. -/
theorem Accepted.effect {call : Call}
    (accepted : Accepted deployment world msg state call state') :
    ∃ change, Warrant deployment world msg state call change ∧
      Step tokenScheme (book state) (book state') change := by
  cases accepted with
  | aside _ same => exact ⟨.quiet, trivial, same.book⟩
  | createSRRFromLicensedUser _ creates =>
      obtain ⟨owner, step⟩ := createSRRFor_effect creates
      exact ⟨.create _ owner, trivial, step⟩
  | createSRRFromBulk _ creates =>
      obtain ⟨owner, step⟩ := createSRRFor_effect creates
      exact ⟨.create _ owner, trivial, step⟩
  | approveSRRByCommitmentFromBulk _ _ approved =>
      obtain ⟨record, step⟩ := approveSRRByCommitment_effect approved
      exact ⟨.approve _ record, trivial, step⟩
  | approveSRRByCommitment _ approved =>
      obtain ⟨record, step⟩ := approveSRRByCommitment_effect approved
      exact ⟨.approve _ record, trivial, step⟩
  | approveSRRByCommitmentWithHistory _ _ approved =>
      obtain ⟨record, step⟩ := approveSRRByCommitment_effect approved
      exact ⟨.approve _ record, trivial, step⟩
  | cancelSRRCommitment allowed =>
      simp only [onlySRROwnerOrAdministrator, bind_eq_ok, ownerOf_eq_ok] at allowed
      obtain ⟨_, ⟨owned, _⟩, _⟩ := allowed
      exact ⟨.cancel _, trivial, owned, rfl, clearSRRCommitment_record _, rfl⟩
  | @transferSRRByReveal to_ reveal tokenId isIntermediary _ revealed =>
      obtain ⟨opened, recipient, step⟩ := transferSRRByReveal_effect revealed
      exact ⟨.reveal tokenId to_, ⟨recipient, reveal, isIntermediary, rfl, opened⟩, step⟩
  | addHistory _ _ _ _ => exact ⟨.quiet, trivial, book_emit rfl⟩
  | @writeCustomHistory name _ _ _ _ _ =>
      exact ⟨.quiet, trivial, (book_emit rfl).trans (customHistory_book _ name)⟩
  | @updateCustomHistory customHistoryId name _ _ _ _ =>
      refine ⟨.quiet, trivial, (book_emit rfl).trans ?_⟩
      split
      · exact customHistory_book customHistoryId name
      · rfl
  | transferFrom unlocked spends moved => exact ⟨_, hands (.transferFrom unlocked spends moved) rfl⟩
  | safeTransferFrom unlocked spends moved =>
      exact ⟨_, hands (.safeTransferFrom unlocked spends moved) rfl⟩
  | transferFromWithProvenance allowed owned moved =>
      exact ⟨_, hands (.transferFromWithProvenance allowed owned moved) rfl⟩
  | transferFromWithProvenanceFromBulk bulk owner owned moved =>
      exact ⟨_, hands (.transferFromWithProvenanceFromBulk bulk owner owned moved) rfl⟩
  | approve _ _ _ _ => exact ⟨.quiet, trivial, book_emit rfl⟩
  | setLockExternalTransfer _ _ => exact ⟨.quiet, trivial, book_emit rfl⟩

end Effects

section Runs

/-- The call that is run in the end and the state it starts from: the call itself, or one that
the registry calls itself with inside verified meta transactions. -/
inductive Runs (deployment : Deployment) : State → Msg → Call → State → Msg → Call → Prop
  | direct (state : State) (msg : Msg) (call : Call) : Runs deployment state msg call state msg call
  | wrapped {state accepted middle : State} {msg msg' : Msg} {userAddress : Address}
      {callData : Bytes} {sigR sigS : Bytes32} {sigV : Uint8} {inner call' : Call} :
      acceptMetaTransaction deployment msg state userAddress callData sigR sigS sigV =
        .ok accepted →
      deployment.dispatch (selfMsg deployment userAddress callData).data = some inner →
      Runs deployment accepted (selfMsg deployment userAddress callData) inner middle msg' call' →
      Runs deployment state msg (.executeMetaTransaction userAddress callData sigR sigS sigV)
        middle msg' call'

/-- The user signed the call, with some nonce and the registry's domain. -/
def Signed (deployment : Deployment) (state : State) (userAddress : Address) (callData : Bytes) :
    Prop :=
  ∃ nonce sigR sigS sigV, deployment.evm.Signed
    (toTypedMessageHash deployment state
      (hashMetaTransaction deployment nonce userAddress callData))
      sigV sigR sigS userAddress

variable {middle : State} {msg' : Msg} {call call' : Call}

theorem acceptMetaTransaction_effect {userAddress : Address} {callData : Bytes}
    {sigR sigS : Bytes32} {sigV : Uint8}
    (accepted : acceptMetaTransaction deployment msg state userAddress callData sigR sigS sigV =
      .ok state') :
    Signed deployment state userAddress callData ∧ book state' = book state ∧
      ∃ nonces logs, state' = { state with
        openSeaMetaTx := { state.openSeaMetaTx with nonces := nonces }, logs := logs } := by
  simp only [acceptMetaTransaction, verify, bind_eq_ok, require_eq_ok, pure_eq_ok] at accepted
  obtain ⟨_, ⟨_, nonzero, rfl⟩, _, verified, _, _, rfl⟩ := accepted
  refine ⟨⟨state.openSeaMetaTx.nonces userAddress, sigR, sigS, sigV, ?_⟩, book_emit rfl, _, _, rfl⟩
  rw [Evm.signed_iff]
  exact ⟨(beq_iff_eq.mp verified).symm, nonzero⟩

theorem Runs.context (runs : Runs deployment state msg call middle msg' call') :
    book middle = book state ∧ ∃ nonces logs, middle = { state with
      openSeaMetaTx := { state.openSeaMetaTx with nonces := nonces }, logs := logs } := by
  induction runs with
  | direct state msg call => exact ⟨rfl, _, _, rfl⟩
  | wrapped accepted dispatched _ ih =>
      obtain ⟨_, same, nonces, logs, rfl⟩ := acceptMetaTransaction_effect accepted
      obtain ⟨same', nonces', logs', rfl⟩ := ih
      exact ⟨same'.trans same, nonces', logs', rfl⟩

theorem Runs.speaker (runs : Runs deployment state msg call middle msg' call') :
    msg' = msg ∨ ∃ userAddress callData, msg' = selfMsg deployment userAddress callData ∧
      Signed deployment state userAddress callData := by
  induction runs with
  | direct state msg call => exact Or.inl rfl
  | @wrapped state accepted middle msg msg' userAddress callData sigR sigS sigV inner call' accepts
      dispatched _ ih =>
      obtain ⟨signed, _, nonces, logs, rfl⟩ := acceptMetaTransaction_effect accepts
      rcases ih with same | speaker
      · exact Or.inr ⟨userAddress, callData, same, signed⟩
      · exact Or.inr speaker

theorem msgSender_selfMsg (deployment : Deployment) (userAddress : Address) (callData : Bytes) :
    _msgSender deployment (selfMsg deployment userAddress callData) = userAddress := by
  unfold _msgSender selfMsg
  rw [if_pos rfl, lastBytes_append _ _ (by simp), addressOf_packWord]

theorem Warrant.context {nonces : OpenSeaMetaTransactionStorage} {logs : List Event}
    {change : Change Uint256 Address Approval}
    (warrant : Warrant deployment world msg
      { state with openSeaMetaTx := nonces, logs := logs } call change) :
    Warrant deployment world msg state call change := by
  cases change with
  | hand tokenId to_ =>
      obtain ⟨recipient, hands⟩ := warrant
      refine ⟨recipient, ?_⟩
      cases hands with
      | transferFrom from_ may => exact .transferFrom from_ may
      | safeTransferFrom from_ _data may => exact .safeTransferFrom from_ _data may
      | transferFromWithProvenance historyMetadataHash customHistoryId isIntermediary allowed =>
          exact .transferFromWithProvenance historyMetadataHash customHistoryId isIntermediary
            allowed
      | transferFromWithProvenanceFromBulk signer historyMetadataHash customHistoryId
          isIntermediary bulk owner =>
          exact .transferFromWithProvenanceFromBulk signer historyMetadataHash customHistoryId
            isIntermediary bulk owner
  | reveal tokenId to_ => exact warrant
  | _ => trivial

def HasEffect (deployment : Deployment) (world : World) (state : State) (msg : Msg) (call : Call)
    (state' : State) : Prop :=
  ∃ middle msg' call' change, Runs deployment state msg call middle msg' call' ∧
    Warrant deployment world msg' state call' change ∧
    Step tokenScheme (book state) (book state') change

/-- A call comes to a direct one that is executed in the end. -/
def Executes (deployment : Deployment) (world : World) (state : State) (msg : Msg) (call : Call)
    (state' : State) : Prop :=
  ∃ middle msg' call' selfCall, Runs deployment state msg call middle msg' call' ∧
    (∀ userAddress callData sigR sigS sigV,
      call' ≠ .executeMetaTransaction userAddress callData sigR sigS sigV) ∧
    (execute deployment world selfCall msg' call' middle).front = some state'

theorem execute_executes {selfCall : Msg → Call → State → Execution State}
    (inner : ∀ {msg call state state'}, (selfCall msg call state).front = some state' →
      Executes deployment world state msg call state')
    (ran : (execute deployment world selfCall msg call state).front = some state') :
    Executes deployment world state msg call state' := by
  by_cases direct : ∀ userAddress callData sigR sigS sigV,
      call ≠ .executeMetaTransaction userAddress callData sigR sigS sigV
  · exact ⟨state, msg, call, selfCall, .direct state msg call, direct, ran⟩
  · simp only [not_forall, ne_eq, not_not] at direct
    obtain ⟨userAddress, callData, sigR, sigS, sigV, rfl⟩ := direct
    obtain ⟨accepted, accepts, ran⟩ := Outcome.front_lift_bind ran
    split at ran
    · rename_i innerCall dispatched
      rw [Outcome.front_failWith] at ran
      obtain ⟨middle, msg', call', selfCall', runs, direct, executed⟩ := inner ran
      exact ⟨middle, msg', call', selfCall', .wrapped accepts dispatched runs, direct, executed⟩
    · cases ran

theorem perform_executes {depth : Nat}
    (ran : (perform deployment world depth msg call state).front = some state') :
    Executes deployment world state msg call state' := by
  induction depth generalizing msg call state state' with
  | zero => exact execute_executes (fun reverted => by cases reverted) ran
  | succ depth ih => exact execute_executes ih ran

theorem perform_accepted {depth : Nat}
    (ran : (perform deployment world depth msg call state).front = some state') :
    ∃ middle msg' call', Runs deployment state msg call middle msg' call' ∧
      Accepted deployment world msg' middle call' state' := by
  obtain ⟨middle, msg', call', selfCall, runs, direct, executed⟩ := perform_executes ran
  exact ⟨middle, msg', call', runs, execute_accepted executed direct⟩

theorem perform_hasEffect {depth : Nat}
    (ran : (perform deployment world depth msg call state).front = some state') :
    HasEffect deployment world state msg call state' := by
  obtain ⟨middle, msg', call', runs, accepted⟩ := perform_accepted ran
  obtain ⟨change, warrant, step⟩ := accepted.effect
  obtain ⟨same, nonces, logs, rfl⟩ := runs.context
  rw [same] at step
  exact ⟨_, msg', call', change, runs, warrant.context, step⟩

theorem Runs.performed (runs : Runs deployment state msg call middle msg' call') {depth : Nat}
    (ran : (perform deployment world depth msg call state).front = some state') :
    ∃ depth', (perform deployment world depth' msg' call' middle).front = some state' := by
  induction runs generalizing depth with
  | direct state msg call => exact ⟨depth, ran⟩
  | @wrapped state accepted middle msg msg' userAddress callData sigR sigS sigV inner call' accepts
      dispatched _ ih =>
      cases depth with
      | zero =>
          obtain ⟨_, accepted', ran⟩ := Outcome.front_lift_bind ran
          rw [accepts] at accepted'
          cases accepted'
          simp only [dispatched] at ran
          cases ran
      | succ depth =>
          obtain ⟨_, accepted', ran⟩ := Outcome.front_lift_bind ran
          rw [accepts] at accepted'
          cases accepted'
          simp only [dispatched, Outcome.front_failWith] at ran
          exact ih ran

theorem perform_execute {depth : Nat} {call : Call}
    (ran : (perform deployment world depth msg call state).front = some state') :
    ∃ selfCall, (execute deployment world selfCall msg call state).front = some state' := by
  cases depth with
  | zero => exact ⟨_, ran⟩
  | succ depth => exact ⟨_, ran⟩

theorem Runs.accepted (runs : Runs deployment state msg call middle msg' call') {depth : Nat}
    (ran : (perform deployment world depth msg call state).front = some state')
    (direct : ∀ userAddress callData sigR sigS sigV,
      call' ≠ .executeMetaTransaction userAddress callData sigR sigS sigV) :
    Accepted deployment world msg' middle call' state' := by
  obtain ⟨_, performed⟩ := runs.performed ran
  obtain ⟨_, executed⟩ := perform_execute performed
  exact execute_accepted executed direct

/-- The call that a transaction comes to in the end, inside any meta transactions. -/
def ComesTo (deployment : Deployment) (transaction : Transaction) (state : State)
    (Wanted : Call → Prop) : Prop :=
  ∃ middle msg call, Runs deployment state transaction.msg transaction.call middle msg call ∧
    Wanted call

theorem ComesTo.accepted {transaction : Transaction} {Wanted : Call → Prop}
    (comes : ComesTo deployment transaction state Wanted)
    (ran : (entry deployment transaction state).front = some state')
    (direct : ∀ userAddress callData sigR sigS sigV,
      ¬Wanted (.executeMetaTransaction userAddress callData sigR sigS sigV)) :
    ∃ middle msg call,
      Runs deployment state transaction.msg transaction.call middle msg call ∧ Wanted call ∧
      Accepted deployment transaction.world msg middle call state' := by
  obtain ⟨middle, msg, call, runs, wanted⟩ := comes
  refine ⟨middle, msg, call, runs, wanted, runs.accepted ran ?_⟩
  rintro userAddress callData sigR sigS sigV rfl
  exact direct userAddress callData sigR sigS sigV wanted

theorem execute_trailing {selfCall : Msg → Call → State → Execution State}
    (inner : ∀ msg call state, (selfCall msg call state).Trailing) :
    (execute deployment world selfCall msg call state).Trailing := by
  cases call with
  | createSRRFromBulk isPrimaryIssuer artistAddress metadataCID issuerAddress lockExternalTransfer
      to_ royaltyReceiver royaltyBasisPoints =>
      apply Outcome.Trailing.lift_bind
      intro created _
      trivial
  | transferFromWithProvenanceFromBulk signer to_ tokenId historyMetadataHash customHistoryId
      isIntermediary =>
      apply Outcome.Trailing.lift_bind
      intro _ _
      apply Outcome.Trailing.lift_bind
      intro _ _
      apply Outcome.Trailing.lift_bind
      intro from_ _
      exact safeTransfer_trailing
  | safeTransferFrom from_ to_ tokenId _data =>
      apply Outcome.Trailing.lift_bind
      intro _ _
      apply Outcome.Trailing.lift_bind
      intro _ _
      apply Outcome.Trailing.lift_bind
      intro _ _
      exact safeTransfer_trailing
  | transferFromWithProvenance to_ tokenId historyMetadataHash customHistoryId isIntermediary =>
      apply Outcome.Trailing.lift_bind
      intro _ _
      apply Outcome.Trailing.lift_bind
      intro from_ _
      exact safeTransfer_trailing
  | executeMetaTransaction userAddress callData sigR sigS sigV =>
      apply Outcome.Trailing.lift_bind
      intro accepted _
      split
      · exact (inner _ _ _).failWith _
      · trivial
  | view calldata => trivial
  | _ => exact Outcome.Trailing.lift _

theorem perform_trailing (depth : Nat) (msg : Msg) (call : Call) (state : State) :
    (perform deployment world depth msg call state).Trailing := by
  induction depth generalizing msg call state with
  | zero => exact execute_trailing fun _ _ _ => trivial
  | succ depth ih => exact execute_trailing ih

/-- The owner, someone allowed by the owner, or someone who knows what the owner committed to. -/
def Authorized (deployment : Deployment) (world : World) (msg : Msg) (state : State)
    (tokenId : Uint256) (call : Call) : Prop :=
  ∃ to_, Hands deployment world msg state tokenId to_ call ∨
    ∃ reveal isIntermediary, call = .transferSRRByReveal to_ reveal tokenId isIntermediary ∧
      deployment.evm.keccak256 (packWord reveal) = (commitmentOf state tokenId).commitment ∧
      (commitmentOf state tokenId).commitment ≠ 0

/-- Who `_msgSender` is: the sender of the transaction, or a user who signed the call. -/
def Speaks (deployment : Deployment) (state : State) (outer inner : Msg) : Prop :=
  (inner = outer ∧ _msgSender deployment inner = outer.sender) ∨
    ∃ callData, inner = selfMsg deployment (_msgSender deployment inner) callData ∧
      Signed deployment state (_msgSender deployment inner) callData

theorem Runs.speaks (runs : Runs deployment state msg call middle msg' call')
    (outside : msg.sender ≠ deployment.self) : Speaks deployment state msg msg' := by
  rcases runs.speaker with rfl | ⟨userAddress, callData, rfl, signed⟩
  · refine Or.inl ⟨rfl, ?_⟩
    unfold _msgSender
    rw [if_neg outside]
  · refine Or.inr ⟨callData, ?_⟩
    rw [msgSender_selfMsg]
    exact ⟨rfl, signed⟩

end Runs

theorem ownership_authority (deployment : Deployment) (transaction : Transaction) (state : State)
    (legal : Legal deployment transaction state) (tokenId : Uint256)
    (nonzero : ∀ middle msg to_ reveal isIntermediary,
      Runs deployment state transaction.msg transaction.call middle msg
        (.transferSRRByReveal to_ reveal tokenId isIntermediary) →
      deployment.evm.keccak256 (packWord reveal) ≠ 0) :
    (entry deployment transaction state).Trailing ∧
      ∀ state', (entry deployment transaction state).front = some state' →
        state._tokenOwner tokenId ≠ 0 → state'._tokenOwner tokenId ≠ state._tokenOwner tokenId →
        ∃ middle msg call,
          Runs deployment state transaction.msg transaction.call middle msg call ∧
          Speaks deployment state transaction.msg msg ∧
          Authorized deployment transaction.world msg state tokenId call := by
  refine ⟨perform_trailing _ _ _ _, ?_⟩
  intro state' ran owned changed
  obtain ⟨middle, msg, call, change, runs, warrant, step⟩ := perform_hasEffect ran
  refine ⟨middle, msg, call, runs, runs.speaks legal, ?_⟩
  obtain ⟨to_, _, handed | revealed⟩ := step.owner_changed owned changed
  · subst handed
    exact ⟨to_, Or.inl warrant.2⟩
  · subst revealed
    obtain ⟨_, reveal, isIntermediary, rfl, opened⟩ := warrant
    refine ⟨to_, Or.inr ⟨reveal, isIntermediary, rfl, opened, ?_⟩⟩
    rw [← opened]
    exact nonzero middle msg to_ reveal isIntermediary runs

section Samples

def secret : Bytes32 := 0x5ec2e7

def secretHash : Bytes32 :=
  0x21b914e034f5b7f2c24328fe5efa675b252d877c1da3a49c2e55b1549725625a

def recordId : Uint256 := 860506940725

def sampleEvm : Evm :=
  Evm.ofTables [(packWord secret, secretHash),
    (ascii "Qm" ++ packWord (0xa271 : Address),
      0xecec4fabaa1929b1d8116ac6e36e09ab5d40ad76d1a1fbd75cf249d2e2722535)] []

def sampleDeployment : Deployment := ⟨sampleEvm, 0x5e1f, fun _ => none⟩

def sampleWorld : World := World.named [(BULK, 0xb17c), (ADMINISTRATOR, 0xad317)]

def sampleCall (sender : Address) (call : Call) : Transaction :=
  ⟨sampleWorld, 8, ⟨sender, []⟩, call⟩

def committedState : State :=
  { State.blank with
    _tokenOwner := Function.update (fun _ => 0) recordId 0xa11ce
    _ownedTokensCount := Function.update (fun _ => 0) 0xa11ce 1
    _bytes32Storage := State.blank._bytes32Storage.set recordId ._SRR ._COMMITMENT secretHash }

set_option maxRecDepth 8000 in
theorem ownership_authority_revealed :
    ∃ state' middle msg call,
      (entry sampleDeployment (sampleCall 0xe0a (.transferSRRByReveal 0xb0b secret recordId false))
        committedState).front = some state' ∧
      Authorized sampleDeployment sampleWorld msg committedState recordId call ∧
      Runs sampleDeployment committedState ⟨0xe0a, []⟩
        (.transferSRRByReveal 0xb0b secret recordId false) middle msg call := by
  have moved : ((entry sampleDeployment
      (sampleCall 0xe0a (.transferSRRByReveal 0xb0b secret recordId false))
        committedState).front.map fun state => state._tokenOwner recordId) = some 0xb0b := by decide
  obtain ⟨state', ran, owner⟩ := Option.map_eq_some_iff.mp moved
  obtain ⟨_, authorized⟩ := ownership_authority sampleDeployment
    (sampleCall 0xe0a (.transferSRRByReveal 0xb0b secret recordId false)) committedState
    (by unfold Legal; decide) recordId (by
      intro middle msg to_ reveal isIntermediary runs
      cases runs
      decide)
  obtain ⟨middle, msg, call, runs, _, warranted⟩ :=
    authorized state' ran (by decide) (by rw [owner]; decide)
  exact ⟨state', middle, msg, call, ran, warranted, runs⟩

end Samples

end Startrail.Registry
