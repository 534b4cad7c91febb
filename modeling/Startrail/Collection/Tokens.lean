import Startrail.Collection.Frame

/-!
The tokens of a collection. As in the registry, every call comes to one change of
the book of owners and commitments, but the shared `_transferFrom` checks no
recipient: three of the four calls that hand a token over pass the zero address on
to it, and the token is lost.
-/

namespace Startrail.Collection

def mark : Event → Option (Mark Uint256 Bytes32)
  | .Transfer from_ to_ id => if to_ = from_ then none else some (.acquired id)
  | .SRRCommitment tokenId commitment _ _ => some (.approved tokenId commitment)
  | _ => none

def book (state : State) : Book Uint256 Address Approval Bytes32 where
  owner := state.erc721.ownerOf
  record := state.approvals
  marks := state.logs.filterMap mark

def isCreate (tokenId : Uint256) : Event → Bool
  | .CreateSRR id _ _ _ => id == tokenId
  | _ => false

/-- How often a record was created. -/
def timesCreated (tokenId : Uint256) (logs : List Event) : Nat := logs.countP (isCreate tokenId)

def creations (tokenId : Uint256) : Change Uint256 Address Approval → Nat
  | .create token _ => if token = tokenId then 1 else 0
  | _ => 0

/-- The token and the recipient of the calls that hand a token over without a reveal. -/
def Call.handover : Call → Option (Uint256 × Address)
  | .transferFrom _ to_ id => some (id, to_)
  | .safeTransferFrom _ to_ id _ => some (id, to_)
  | .transferFromWithProvenance to_ tokenId _ _ _ => some (tokenId, to_)
  | .transferFromWithProvenanceFromBulk _ to_ tokenId _ _ _ => some (tokenId, to_)
  | _ => none

/-- The recipient of the calls that pass it on to `_transferFrom` unchecked. -/
def Call.uncheckedRecipient : Call → Option Address
  | .transferFromWithProvenance to_ _ _ _ _ => some to_
  | .transferFromWithProvenanceFromBulk _ to_ _ _ _ _ => some to_
  | .transferSRRByReveal to_ _ _ _ => some to_
  | _ => none

/-- What the code has checked before a change. -/
def Warrant (evm : Evm) (state : State) (call : Call) : Change Uint256 Address Approval → Prop
  | .hand tokenId to_ => call.handover = some (tokenId, to_) ∧
      (call.uncheckedRecipient = some to_ ∨ to_ ≠ 0)
  | .reveal tokenId to_ => ∃ reveal isIntermediary,
      call = .transferSRRByReveal to_ reveal tokenId isIntermediary ∧
        evm.keccak256 (packWord reveal) = (state.approvals tokenId).commitment
  | _ => True

structure Effect (evm : Evm) (state : State) (call : Call) (state' : State)
    (change : Change Uint256 Address Approval) : Prop where
  warrant : Warrant evm state call change
  step : Step tokenScheme (book state) (book state') change
  created : ∀ tokenId,
    timesCreated tokenId state'.logs = timesCreated tokenId state.logs + creations tokenId change

variable {evm : Evm} {world : World} {msg : Msg} {state state' : State}

section Books

theorem book_emit {event : Event} (unmarked : mark event = none) :
    book (state.emit event) = book state := by
  simp [book, State.emit, unmarked]

theorem exists_iff {tokenId : Uint256} :
    exists_ state tokenId = true ↔ (book state).Exists tokenScheme tokenId := by
  simp [exists_, Book.Exists, book, tokenScheme]

theorem onlyExistingToken_eq_ok {tokenId : Uint256} {u : Unit} :
    onlyExistingToken state tokenId = .ok u ↔ (book state).Exists tokenScheme tokenId := by
  simp only [onlyExistingToken, requireCustom_eq_ok, exists_iff]

/-- `_transferFrom` moves whatever it is given, if it is told the owner. -/
theorem transferFrom_moved (from_ to_ : Address) (id : Uint256)
    (owner : state.erc721.ownerOf id = from_) :
    Moved (book state) (book (_transferFrom state from_ to_ id)) id to_ := by
  subst owner
  exact ⟨rfl, .logged (marks_cons mark (.Transfer _ to_ id) state.logs)⟩

theorem Effect.quiet {call : Call} (same : book state' = book state)
    (logs : ∀ tokenId, timesCreated tokenId state'.logs = timesCreated tokenId state.logs) :
    Effect evm state call state' .quiet :=
  ⟨trivial, same, logs⟩

theorem Aside.same (aside : Aside state state') : book state' = book state ∧
    ∀ tokenId, timesCreated tokenId state'.logs = timesCreated tokenId state.logs := by
  have marks : state'.logs.filterMap mark = state.logs.filterMap mark := by
    apply aside.filterMap
    intro event quiet
    cases event <;> first | rfl | cases quiet
  constructor
  · unfold book
    rw [aside.owners, aside.approvals, marks]
  · intro tokenId
    apply aside.countP
    intro event quiet
    cases event <;> first | rfl | cases quiet

theorem safeTransferFromReceivedCheck_trailing (sender from_ to_ : Address) (id : Uint256)
    (data : Bytes) :
    (safeTransferFromReceivedCheck world state sender from_ to_ id data).Trailing := by
  unfold safeTransferFromReceivedCheck
  split
  · trivial
  · apply Outcome.Trailing.external
    intro later reply
    apply Outcome.Ends.lift_bind
    intro accepted
    apply Outcome.Ends.lift_bind
    intro _
    exact Or.inl rfl

end Books

section Effects

theorem mint_effect {to_ : Address} {id : Uint256} (minted : _mint state to_ id = .ok state') :
    ¬(book state).Exists tokenScheme id ∧ to_ ≠ 0 ∧ Moved (book state) (book state') id to_ ∧
      state'.approvals = state.approvals ∧
      ∀ other, timesCreated other state'.logs = timesCreated other state.logs := by
  obtain ⟨unowned, recipient, rfl⟩ := mint_accepted minted
  have missing : ¬(book state).Exists tokenScheme id := by
    simp [Book.Exists, book, tokenScheme, unowned]
  have logged : Acquires (book state) ⟨Function.update state.erc721.ownerOf id to_,
      state.approvals, (Event.Transfer 0 to_ id :: state.logs).filterMap mark⟩ id to_ := by
    apply Acquires.logged
    rw [marks_cons]
    simp [mark, book, unowned]
  exact ⟨missing, recipient, ⟨rfl, logged⟩, rfl, fun _ => rfl⟩

theorem lockIf_same (state : State) (tokenId : Uint256) (lockExternalTransfer : Bool) :
    book (lockIf state tokenId lockExternalTransfer) = book state ∧
      (lockIf state tokenId lockExternalTransfer).logs = state.logs := by
  unfold lockIf
  split <;> exact ⟨rfl, rfl⟩

theorem createRecord_effect {isPrimaryIssuer lockExternalTransfer fromBulk : Bool}
    {artistAddress issuerAddress royaltyReceiver : Address} {metadataCID : Bytes}
    {royaltyBasisPoints : Uint16} {tokenId : Uint256}
    (creates : createRecord evm world msg state isPrimaryIssuer artistAddress metadataCID
      issuerAddress lockExternalTransfer royaltyReceiver royaltyBasisPoints fromBulk =
        .ok (state', tokenId)) :
    ¬(book state).Exists tokenScheme tokenId ∧ issuerAddress ≠ 0 ∧
      Moved (book state) (book state') tokenId issuerAddress ∧
      (book state').record = (book state).record ∧
      ∀ id, timesCreated id state'.logs =
        timesCreated id state.logs + if tokenId = id then 1 else 0 := by
  obtain ⟨_, _, _, minted, mints, rfl⟩ := createRecord_accepted creates
  obtain ⟨missing, issuer, moved, records, logs⟩ := mint_effect mints
  obtain ⟨locked, lockLogs⟩ := lockIf_same minted tokenId lockExternalTransfer
  obtain ⟨royalty, royaltyLogs⟩ := Aside.same <| upsertRoyalty_aside
    (minted.recorded tokenId ⟨isPrimaryIssuer, artistAddress, issuerAddress⟩ metadataCID
      lockExternalTransfer) tokenId royaltyReceiver royaltyBasisPoints
  have recorded : book (minted.recorded tokenId ⟨isPrimaryIssuer, artistAddress, issuerAddress⟩
      metadataCID lockExternalTransfer) = book minted := (book_emit rfl).trans locked
  rw [royalty, recorded]
  refine ⟨missing, issuer, moved, records, ?_⟩
  intro id
  have same : timesCreated id minted.logs = timesCreated id state.logs := logs id
  rw [royaltyLogs, ← same]
  simp only [timesCreated, State.recorded, State.emit, lockLogs, List.countP_cons, isCreate,
    beq_iff_eq]

theorem passOn_effect {issuerAddress to_ : Address} {tokenId : Uint256} {middle : State}
    (missing : ¬(book state).Exists tokenScheme tokenId) (issuer : issuerAddress ≠ 0)
    (moved : Moved (book state) (book middle) tokenId issuerAddress) :
    ∃ owner, owner ≠ 0 ∧
      Moved (book state) (book (passOn middle issuerAddress to_ tokenId)) tokenId owner := by
  have unowned : state.erc721.ownerOf tokenId = 0 := by
    simpa [Book.Exists, book, tokenScheme] using missing
  unfold passOn
  split
  · rename_i recipient
    refine ⟨to_, recipient, moved.trans (transferFrom_moved _ to_ tokenId moved.here) ?_ ?_⟩
    · exact fun same => issuer (same.trans unowned)
    · exact fun same => recipient (same.trans unowned)
  · exact ⟨issuerAddress, issuer, moved⟩

theorem passOn_same (state : State) (issuerAddress to_ : Address) (tokenId : Uint256) :
    (passOn state issuerAddress to_ tokenId).approvals = state.approvals ∧
      ∀ id, timesCreated id (passOn state issuerAddress to_ tokenId).logs =
        timesCreated id state.logs := by
  unfold passOn
  split
  · exact ⟨rfl, fun _ => rfl⟩
  · exact ⟨rfl, fun _ => rfl⟩

/-- Both functions that create a record. -/
theorem create_effect {call : Call} {isPrimaryIssuer lockExternalTransfer fromBulk : Bool}
    {artistAddress issuerAddress to_ royaltyReceiver : Address} {metadataCID : Bytes}
    {royaltyBasisPoints : Uint16} {tokenId : Uint256} {middle : State}
    (creates : createRecord evm world msg state isPrimaryIssuer artistAddress metadataCID
      issuerAddress lockExternalTransfer royaltyReceiver royaltyBasisPoints fromBulk =
        .ok (middle, tokenId)) :
    ∃ owner, Effect evm state call (passOn middle issuerAddress to_ tokenId)
      (.create tokenId owner) := by
  obtain ⟨missing, issuer, moved, records, logs⟩ := createRecord_effect creates
  obtain ⟨owner, recipient, passed⟩ := passOn_effect missing issuer moved
  obtain ⟨approvals, passLogs⟩ := passOn_same middle issuerAddress to_ tokenId
  refine ⟨owner, trivial, ⟨missing, recipient, passed, approvals.trans records⟩, ?_⟩
  intro id
  exact (passLogs id).trans (logs id)

theorem approveByCommitment_effect {call : Call} {tokenId customHistoryId : Uint256}
    {commitment : Bytes32} {historyMetadataHash : Bytes} {signer toCheck : Address}
    (owned : onlyCollectionOwnerOrSRROwner state toCheck tokenId = .ok ())
    (approved : approveByCommitment world state tokenId commitment historyMetadataHash
      customHistoryId signer = .ok state') :
    ∃ record, Effect evm state call state' (.approve tokenId record) := by
  simp only [onlyCollectionOwnerOrSRROwner, bind_eq_ok, onlyExistingToken_eq_ok] at owned
  obtain ⟨_, owned, _⟩ := owned
  obtain ⟨_, _, rfl, stores⟩ := approveByCommitment_accepted approved
  have prior : book (cancelPriorApproval state tokenId signer) = book state ∧
      ∀ id, timesCreated id (cancelPriorApproval state tokenId signer).logs =
        timesCreated id state.logs := by
    unfold cancelPriorApproval
    split
    · exact ⟨book_emit rfl, fun _ => rfl⟩
    · exact ⟨rfl, fun _ => rfl⟩
  obtain ⟨same, logs⟩ := prior
  generalize cancelPriorApproval state tokenId signer = noted at same logs stores
  rcases stores with ⟨_, rfl⟩ | ⟨_, rfl⟩
  · refine ⟨⟨commitment, historyMetadataHash, (noted.approvals tokenId).customHistoryId⟩,
      trivial, ?_, logs⟩
    rw [← same] at owned ⊢
    exact ⟨owned, rfl, rfl, rfl⟩
  · refine ⟨⟨commitment, historyMetadataHash, customHistoryId⟩, trivial, ?_, logs⟩
    rw [← same] at owned ⊢
    exact ⟨owned, rfl, rfl, rfl⟩

theorem transferSRRByReveal_effect {to_ : Address} {reveal : Bytes32} {tokenId : Uint256}
    {isIntermediary : Bool}
    (revealed : transferSRRByReveal evm state to_ reveal tokenId isIntermediary = .ok state') :
    Effect evm state (.transferSRRByReveal to_ reveal tokenId isIntermediary) state'
      (.reveal tokenId to_) := by
  obtain ⟨owned, opened, rfl⟩ := transferSRRByReveal_accepted revealed
  refine ⟨⟨reveal, isIntermediary, rfl, opened⟩, ⟨owned, ?_, rfl⟩, fun _ => rfl⟩
  exact ⟨rfl, (transferFrom_moved (state.erc721.ownerOf tokenId) to_ tokenId rfl).marks⟩

theorem transferFrom_effect {call : Call} {from_ to_ : Address} {id : Uint256}
    (moved : transferFrom msg state from_ to_ id = .ok state')
    (handover : call.handover = some (id, to_)) :
    Effect evm state call state' (.hand id to_) := by
  obtain ⟨_, _, recipient, rfl, rfl⟩ := transferFrom_accepted moved
  exact ⟨⟨handover, Or.inr recipient⟩, ⟨transferFrom_moved _ to_ id rfl, rfl⟩, fun _ => rfl⟩

theorem provenance_effect {call : Call} {to_ : Address} {tokenId customHistoryId : Uint256}
    {historyMetadataHash : Bytes} {isIntermediary : Bool} {signer : Option Address}
    (handover : call.handover = some (tokenId, to_))
    (unchecked : call.uncheckedRecipient = some to_) :
    Effect evm state call (_transferFrom (logProvenance state tokenId
      (state.erc721.ownerOf tokenId) to_ historyMetadataHash customHistoryId isIntermediary signer)
        (state.erc721.ownerOf tokenId) to_ tokenId) (.hand tokenId to_) := by
  refine ⟨⟨handover, Or.inl unchecked⟩, ⟨⟨rfl, ?_⟩, rfl⟩, fun _ => rfl⟩
  exact (transferFrom_moved (state.erc721.ownerOf tokenId) to_ tokenId rfl).marks

theorem handover_aside {call : Call} (aside : call.aside = true) : call.handover = none := by
  cases call <;> first | rfl | cases aside

theorem Accepted.hands {call : Call} {tokenId : Uint256} {to_ : Address}
    (accepted : Accepted evm world msg state call state')
    (handover : call.handover = some (tokenId, to_)) :
    Effect evm state call state' (.hand tokenId to_) := by
  cases accepted with
  | transferFrom moved =>
      cases handover
      exact transferFrom_effect moved rfl
  | safeTransferFrom moved =>
      cases handover
      exact transferFrom_effect moved rfl
  | transferFromWithProvenance _ _ =>
      cases handover
      exact provenance_effect rfl rfl
  | transferFromWithProvenanceFromBulk _ _ =>
      cases handover
      exact provenance_effect rfl rfl
  | aside aside _ => cases (handover_aside aside).symm.trans handover
  | _ => cases handover

/-- Every call comes to one change of the book. -/
theorem Accepted.effect {call : Call} (accepted : Accepted evm world msg state call state') :
    ∃ change, Effect evm state call state' change := by
  cases accepted with
  | aside _ same =>
      obtain ⟨same, logs⟩ := same.same
      exact ⟨.quiet, .quiet same logs⟩
  | createSRR creates =>
      obtain ⟨owner, effect⟩ := create_effect creates
      exact ⟨.create _ owner, effect⟩
  | createSRRFromBulk _ _ creates =>
      obtain ⟨owner, effect⟩ := create_effect creates
      exact ⟨.create _ owner, effect⟩
  | addHistory _ _ _ => exact ⟨.quiet, .quiet (book_emit rfl) fun _ => rfl⟩
  | setLockExternalTransfer _ _ _ => exact ⟨.quiet, .quiet (book_emit rfl) fun _ => rfl⟩
  | transferFrom moved => exact ⟨_, transferFrom_effect moved rfl⟩
  | safeTransferFrom moved => exact ⟨_, transferFrom_effect moved rfl⟩
  | approve _ _ => exact ⟨.quiet, .quiet (book_emit rfl) fun _ => rfl⟩
  | setApprovalForAll => exact ⟨.quiet, .quiet (book_emit rfl) fun _ => rfl⟩
  | transferFromWithProvenance owned allowed =>
      exact ⟨_, hands (.transferFromWithProvenance owned allowed) rfl⟩
  | transferFromWithProvenanceFromBulk bulk signed =>
      exact ⟨_, hands (.transferFromWithProvenanceFromBulk bulk signed) rfl⟩
  | approveSRRByCommitment signed approved =>
      obtain ⟨record, effect⟩ := approveByCommitment_effect signed approved
      exact ⟨.approve _ record, effect⟩
  | approveSRRByCommitmentFromBulk _ signed approved =>
      obtain ⟨record, effect⟩ := approveByCommitment_effect signed approved
      exact ⟨.approve _ record, effect⟩
  | @cancelSRRCommitment tokenId signed =>
      simp only [onlyCollectionOwnerOrSRROwner, bind_eq_ok, onlyExistingToken_eq_ok] at signed
      obtain ⟨_, owned, _⟩ := signed
      exact ⟨.cancel tokenId, trivial, ⟨owned, rfl, rfl, rfl⟩, fun _ => rfl⟩
  | transferSRRByReveal revealed => exact ⟨_, transferSRRByReveal_effect revealed⟩

theorem entry_trailing (evm : Evm) (transaction : Transaction) (state : State) :
    (entry evm transaction state).Trailing := by
  obtain ⟨world, msg, call⟩ := transaction
  cases call with
  | createSRRFromBulk isPrimaryIssuer artistAddress metadataCID issuerAddress lockExternalTransfer
      to_ royaltyReceiver royaltyBasisPoints =>
      apply Outcome.Trailing.lift_bind
      intro created _
      trivial
  | safeTransferFrom from_ to_ id data =>
      apply Outcome.Trailing.lift_bind
      intro middle _
      exact safeTransferFromReceivedCheck_trailing _ _ _ _ _
  | setApprovalForAll operator approved => trivial
  | transferFromWithProvenance to_ tokenId historyMetadataHash customHistoryId isIntermediary =>
      apply Outcome.Trailing.lift_bind
      intro _ _
      apply Outcome.Trailing.lift_bind
      intro _ _
      exact safeTransferFromReceivedCheck_trailing _ _ _ _ _
  | transferFromWithProvenanceFromBulk signer to_ tokenId historyMetadataHash customHistoryId
      isIntermediary =>
      apply Outcome.Trailing.lift_bind
      intro _ _
      apply Outcome.Trailing.lift_bind
      intro _ _
      exact safeTransferFromReceivedCheck_trailing _ _ _ _ _
  | view calldata => trivial
  | _ => exact Outcome.Trailing.lift _

end Effects

section Loss

/-- A call that passes no zero address on to `_transferFrom`. -/
def Named (transaction : Transaction) (_ : State) : Prop :=
  transaction.call.uncheckedRecipient ≠ some 0

instance (transaction : Transaction) (state : State) : Decidable (Named transaction state) :=
  inferInstanceAs (Decidable (_ ≠ _))

/-- The token that a call creates. -/
def Call.creates (evm : Evm) : Call → Option Uint256
  | .createSRR _ artistAddress metadataCID _ _ _ _ => some (generate evm metadataCID artistAddress)
  | .createSRRFromBulk _ artistAddress metadataCID _ _ _ _ _ =>
      some (generate evm metadataCID artistAddress)
  | _ => none

theorem entry_keeps {transaction : Transaction} {tokenId : Uint256}
    (ran : (entry evm transaction state).front = some state') (named : Named transaction state)
    (owned : state.erc721.ownerOf tokenId ≠ 0) : state'.erc721.ownerOf tokenId ≠ 0 := by
  obtain ⟨change, warrant, step, _⟩ := (entry_accepted ran).effect
  by_cases changed : state'.erc721.ownerOf tokenId = state.erc721.ownerOf tokenId
  · rwa [changed]
  · obtain ⟨owner, same, handed | revealed⟩ := step.owner_changed owned changed
    · subst handed
      change state'.erc721.ownerOf tokenId = owner at same
      rw [same]
      rcases warrant.2 with unchecked | recipient
      · rintro rfl
        exact named unchecked
      · exact recipient
    · subst revealed
      change state'.erc721.ownerOf tokenId = owner at same
      obtain ⟨reveal, isIntermediary, revealed, _⟩ := warrant
      rw [same]
      rintro rfl
      exact named (by rw [revealed]; rfl)

theorem createRecord_existing {isPrimaryIssuer lockExternalTransfer fromBulk : Bool}
    {artistAddress issuerAddress royaltyReceiver : Address} {metadataCID : Bytes}
    {royaltyBasisPoints : Uint16} {result : State × Uint256}
    (owned : state.erc721.ownerOf (generate evm metadataCID artistAddress) ≠ 0) :
    createRecord evm world msg state isPrimaryIssuer artistAddress metadataCID issuerAddress
      lockExternalTransfer royaltyReceiver royaltyBasisPoints fromBulk ≠ .ok result := by
  intro creates
  obtain ⟨created, tokenId⟩ := result
  obtain ⟨rfl, _, _, minted, mints, _⟩ := createRecord_accepted creates
  exact owned (mint_accepted mints).1

theorem creates_aside {call : Call} (aside : call.aside = true) : call.creates evm = none := by
  cases call <;> first | rfl | cases aside

/-- A record that exists is not created again. -/
theorem entry_recreates {transaction : Transaction} {tokenId : Uint256}
    (creates : transaction.call.creates evm = some tokenId)
    (owned : state.erc721.ownerOf tokenId ≠ 0) :
    ∃ reason, entry evm transaction state = .revert reason := by
  apply Outcome.reverts_of_front
  intro state' ran
  have accepted := entry_accepted ran
  obtain ⟨world, msg, call⟩ := transaction
  cases accepted with
  | createSRR created =>
      cases creates
      exact createRecord_existing owned created
  | createSRRFromBulk _ _ created =>
      cases creates
      exact createRecord_existing owned created
  | aside aside _ => cases (creates_aside aside).symm.trans creates
  | _ => cases creates

theorem transferFrom_recipient {from_ to_ : Address} {id : Uint256}
    (moved : transferFrom msg state from_ to_ id = .ok state') : to_ ≠ 0 := by
  simp only [transferFrom, bind_eq_ok, require_eq_ok] at moved
  obtain ⟨_, _, _, _, _, recipient, _⟩ := moved
  exact recipient

theorem entry_discards {transaction : Transaction} {tokenId : Uint256}
    (named : Named transaction state) (handover : transaction.call.handover = some (tokenId, 0)) :
    ∃ reason, entry evm transaction state = .revert reason := by
  apply Outcome.reverts_of_front
  intro state' ran
  have accepted := entry_accepted ran
  obtain ⟨world, msg, call⟩ := transaction
  cases accepted with
  | transferFrom moved =>
      cases handover
      exact transferFrom_recipient moved rfl
  | safeTransferFrom moved =>
      cases handover
      exact transferFrom_recipient moved rfl
  | transferFromWithProvenance _ _ =>
      cases handover
      exact named rfl
  | transferFromWithProvenanceFromBulk _ _ =>
      cases handover
      exact named rfl
  | aside aside _ => cases (handover_aside aside).symm.trans handover
  | _ => cases handover

/-- A record is created once, and not before it exists. -/
def CreatedOnce (state : State) : Prop :=
  ∀ tokenId, timesCreated tokenId state.logs ≤ 1 ∧
    (state.erc721.ownerOf tokenId = 0 → timesCreated tokenId state.logs = 0)

theorem entry_createdOnce {transaction : Transaction}
    (ran : (entry evm transaction state).front = some state') (named : Named transaction state)
    (once : CreatedOnce state) : CreatedOnce state' := by
  obtain ⟨change, warrant, step, logs⟩ := (entry_accepted ran).effect
  intro tokenId
  obtain ⟨most, absent⟩ := once tokenId
  rw [logs tokenId]
  by_cases creates : creations tokenId change = 0
  · rw [creates]
    refine ⟨most, ?_⟩
    intro lost
    by_contra counted
    exact entry_keeps ran named (fun unowned => counted (absent unowned)) lost
  · cases change with
    | create token owner =>
        have same : token = tokenId := by
          by_contra different
          exact creates (if_neg different)
        subst same
        obtain ⟨missing, owned, moved, _⟩ := step
        have unowned : state.erc721.ownerOf token = 0 := by
          simpa [Book.Exists, book, tokenScheme] using missing
        have here : state'.erc721.ownerOf token = owner := moved.here
        simp only [creations, if_true, absent unowned]
        refine ⟨le_refl 1, ?_⟩
        intro lost
        exact absurd (here.symm.trans lost) owned
    | _ => exact absurd rfl creates

theorem tokens_kept (evm : Evm) (origin : State)
    (config : Config Revert State Query Reply Transaction)
    (reach : Reach (entry evm) Named origin config) :
    (∀ tokenId, origin.erc721.ownerOf tokenId ≠ 0 →
        config.now.state.erc721.ownerOf tokenId ≠ 0) ∧
      (∀ transaction tokenId, Named transaction config.now.state →
        transaction.call.handover = some (tokenId, 0) →
          ∃ reason, entry evm transaction config.now.state = .revert reason) ∧
      (∀ transaction tokenId, transaction.call.creates evm = some tokenId →
        config.now.state.erc721.ownerOf tokenId ≠ 0 →
          ∃ reason, entry evm transaction config.now.state = .revert reason) ∧
      (origin.logs = [] → CreatedOnce config.now.state) := by
  refine ⟨?_, fun _ _ => entry_discards, fun _ _ => entry_recreates, ?_⟩
  · intro tokenId owned
    refine reach.invariant (fun state => state.erc721.ownerOf tokenId ≠ 0) owned ?_
    intro transaction state named exists_
    exact (entry_trailing evm transaction state).keeps fun state' ran =>
      entry_keeps ran named exists_
  · intro fresh
    refine reach.invariant CreatedOnce ?_ ?_
    · intro tokenId
      simp [timesCreated, fresh]
    · intro transaction state named once
      exact (entry_trailing evm transaction state).keeps fun state' ran =>
        entry_createdOnce ran named once

section Samples

def recordId : Uint256 := 860506940725

def secret : Bytes32 := 0x5ec2e7

def secretHash : Bytes32 :=
  0x21b914e034f5b7f2c24328fe5efa675b252d877c1da3a49c2e55b1549725625a

def sampleEvm : Evm :=
  Evm.ofTables [(packWord secret, secretHash),
    (ascii "Qm" ++ packWord (0xa271 : Address),
      0xecec4fabaa1929b1d8116ac6e36e09ab5d40ad76d1a1fbd75cf249d2e2722535)] []

def sampleCall (sender : Address) (call : Call) : Transaction :=
  ⟨World.named [(BULK, 0xb17c), (ADMINISTRATOR, 0xad317)], ⟨sender, []⟩, call⟩

def createSample : Transaction :=
  sampleCall 0xb17c (.createSRRFromBulk true 0xa271 (ascii "Qm") 0xa11ce false 0 0 0)

def createdRun : Config Revert State Query Reply Transaction :=
  let enter := Config.enter (entry sampleEvm)
  enter createSample (enter (sampleCall 0xfac (.initializeOwnableFeature 0xa11ce))
    (enter (sampleCall 0xfac (.initializeCollectionProxy 0xfea)) (.start State.blank)))

theorem createdRun_reach {Legal : Transaction → State → Prop}
    (legal : ∀ sender call, Call.handover call = none → Call.uncheckedRecipient call = none →
      ∀ state, Legal (sampleCall sender call) state) :
    Reach (entry sampleEvm) Legal State.blank createdRun := by
  have proxy : Reach (entry sampleEvm) Legal State.blank _ :=
    .enter _ .start (legal 0xfac (.initializeCollectionProxy 0xfea) rfl rfl _)
  have owned := Reach.enter _ proxy (legal 0xfac (.initializeOwnableFeature 0xa11ce) rfl rfl _)
  exact .enter createSample owned (legal _ _ rfl rfl _)

def keptRun : Config Revert State Query Reply Transaction :=
  createdRun.enter (entry sampleEvm) (sampleCall 0xa11ce (.transferFrom 0xa11ce 0xb0b recordId))

set_option maxRecDepth 8000 in
theorem keptRun_once :
    keptRun.now.state.erc721.ownerOf recordId = 0xb0b ∧
      timesCreated recordId keptRun.now.state.logs = 1 ∧
      ∃ reason, entry sampleEvm createSample keptRun.now.state = .revert reason := by
  have named : ∀ sender call, Call.uncheckedRecipient call = none → ∀ state,
      Named (sampleCall sender call) state := by
    intro sender call unchecked state
    simp [Named, sampleCall, unchecked]
  have reach : Reach (entry sampleEvm) Named State.blank keptRun :=
    .enter _ (createdRun_reach fun sender call _ => named sender call) (named _ _ rfl _)
  obtain ⟨_, _, recreates, once⟩ := tokens_kept sampleEvm State.blank keptRun reach
  have least : 1 ≤ timesCreated recordId keptRun.now.state.logs := by decide
  refine ⟨by decide, Nat.le_antisymm (once rfl recordId).1 least, ?_⟩
  exact recreates createSample recordId (by decide) (by decide)

-- The owner transfers the record with provenance to the zero address.
def loseRecord : Transaction :=
  sampleCall 0xa11ce (.transferFromWithProvenance 0 recordId [] 0 false)

set_option maxRecDepth 8000 in
theorem loseRecord_lost :
    ¬∀ config, Reach (entry sampleEvm) (fun _ _ => True) State.blank config →
      ∀ transaction state', (entry sampleEvm transaction config.now.state).front = some state' →
        ∀ tokenId, config.now.state.erc721.ownerOf tokenId ≠ 0 →
          state'.erc721.ownerOf tokenId ≠ 0 := by
  intro kept
  have reach : Reach (entry sampleEvm) (fun _ _ => True) State.blank createdRun :=
    createdRun_reach fun _ _ _ _ _ => trivial
  have lost : ((entry sampleEvm loseRecord createdRun.now.state).front.map
      fun state => state.erc721.ownerOf recordId) = some 0 := by decide
  obtain ⟨state', ran, owner⟩ := Option.map_eq_some_iff.mp lost
  exact kept createdRun reach loseRecord state' ran recordId (by decide) owner

end Samples

end Loss

end Startrail.Collection
