import Startrail.Approvals
import Startrail.Collection.Ownership

/-!
What a new record of a collection is left with. A creation does not write the commitment at
all, and the lock and the royalty only if they are given, so it relies on finding nothing
under the new id. A token that is handed to the zero address leaves them behind.
-/

namespace Startrail.Collection

section Views

variable (state : State) (tokenId : Uint256)

def getSRR : SRR := state.srrs tokenId

def getSRRMetadata : Result Bytes := do
  onlyExistingToken state tokenId
  pure (state.metadata tokenId)

def getLockExternalTransfer : Bool := state.tokenIdToLockFlag tokenId

def getSRRRoyalty : RoyaltyInfo := state.royalties tokenId

def getApproved : Address := state.erc721.getApproved tokenId

end Views

/-- All that is stored under a token's id besides its owner and its approved address. -/
structure Details where
  srr : SRR
  metadataCID : Bytes
  lockExternalTransfer : Bool
  royalty : RoyaltyInfo
  commitment : Approval

def details (state : State) (tokenId : Uint256) : Details :=
  ⟨state.srrs tokenId, state.metadata tokenId, state.tokenIdToLockFlag tokenId,
    state.royalties tokenId, state.approvals tokenId⟩

/-- The arguments of the calls that create a record. -/
structure Creation where
  isPrimaryIssuer : Bool
  artistAddress : Address
  metadataCID : Bytes
  issuerAddress : Address
  lockExternalTransfer : Bool
  to_ : Address
  royaltyReceiver : Address
  royaltyBasisPoints : Uint16

def Call.creation (world : World) (msg : Msg) (state : State) : Call → Option Creation
  | .createSRR isPrimaryIssuer artistAddress metadataCID lockExternalTransfer to_ royaltyReceiver
      royaltyBasisPoints =>
      some ⟨isPrimaryIssuer, artistAddress, metadataCID, sender world msg state,
        lockExternalTransfer, to_, royaltyReceiver, royaltyBasisPoints⟩
  | .createSRRFromBulk isPrimaryIssuer artistAddress metadataCID issuerAddress lockExternalTransfer
      to_ royaltyReceiver royaltyBasisPoints =>
      some ⟨isPrimaryIssuer, artistAddress, metadataCID, issuerAddress, lockExternalTransfer, to_,
        royaltyReceiver, royaltyBasisPoints⟩
  | _ => none

namespace Creation

variable (creation : Creation)

def tokenId (evm : Evm) : Uint256 := generate evm creation.metadataCID creation.artistAddress

def srr : SRR := ⟨creation.isPrimaryIssuer, creation.artistAddress, creation.issuerAddress⟩

def royalty : RoyaltyInfo :=
  if creation.royaltyReceiver ≠ 0 then ⟨creation.royaltyReceiver, creation.royaltyBasisPoints⟩
  else ⟨0, 0⟩

def owner : Address := if creation.to_ ≠ 0 then creation.to_ else creation.issuerAddress

def birth (evm : Evm) : Birth :=
  ⟨creation.tokenId evm, creation.srr, creation.metadataCID, creation.lockExternalTransfer,
    creation.to_⟩

def written (old : Details) : Details where
  srr := creation.srr
  metadataCID := creation.metadataCID
  lockExternalTransfer := creation.lockExternalTransfer || old.lockExternalTransfer
  royalty := if creation.royaltyReceiver ≠ 0 then
      ⟨creation.royaltyReceiver, creation.royaltyBasisPoints⟩
    else old.royalty
  commitment := old.commitment

/-- It finds nothing that it does not write itself. -/
def FindsNothing (old : Details) : Prop :=
  old.commitment = Approval.none ∧
    (creation.lockExternalTransfer = true ∨ old.lockExternalTransfer = false) ∧
    (creation.royaltyReceiver ≠ 0 ∨ old.royalty = ⟨0, 0⟩)

end Creation

structure SameToken (before after : State) (tokenId : Uint256) : Prop where
  owner : after.erc721.ownerOf tokenId = before.erc721.ownerOf tokenId
  approved : after.erc721.getApproved tokenId = before.erc721.getApproved tokenId
  details : details after tokenId = details before tokenId

/-- What the views show of a new record, and what has become of the others. -/
structure Fresh (creation : Creation) (tokenId : Uint256) (before after : State) : Prop where
  owner : ownerOf after tokenId = .ok creation.owner
  srr : getSRR after tokenId = creation.srr
  metadata : getSRRMetadata after tokenId = .ok creation.metadataCID
  lock : getLockExternalTransfer after tokenId = creation.lockExternalTransfer
  royalty : getSRRRoyalty after tokenId = creation.royalty
  commitment : getSRRCommitment after tokenId = Approval.none
  approved : getApproved after tokenId = 0
  others : ∀ other, other ≠ tokenId → SameToken before after other

variable {evm : Evm} {world : World} {msg : Msg} {state state' : State} {tokenId : Uint256}
  {call : Call}

section Creations

theorem details_emit (event : Event) : details (state.emit event) tokenId = details state tokenId :=
  rfl

theorem upsertRoyalty_details (updated : Uint256) (royaltyReceiver : Address)
    (royaltyBasisPoints : Uint16) :
    details (upsertRoyalty state updated royaltyReceiver royaltyBasisPoints) tokenId =
      if tokenId = updated ∧ royaltyReceiver ≠ 0 ∧ royaltyBasisPoints ≤ 10000 then
        { details state tokenId with royalty := ⟨royaltyReceiver, royaltyBasisPoints⟩ }
      else details state tokenId := by
  unfold upsertRoyalty
  by_cases given : royaltyReceiver ≠ 0 ∧ royaltyBasisPoints ≤ 10000
  · rw [if_pos given]
    by_cases same : tokenId = updated
    · subst same
      rw [if_pos ⟨rfl, given⟩]
      simp [details, State.emit]
    · rw [if_neg fun both => same both.1]
      simp [details, State.emit, same]
  · rw [if_neg given, if_neg fun both => given both.2]

theorem lockIf_details (locked : Uint256) (lockExternalTransfer : Bool) :
    details (lockIf state locked lockExternalTransfer) tokenId =
      if tokenId = locked then { details state tokenId with
        lockExternalTransfer := lockExternalTransfer ||
          (details state tokenId).lockExternalTransfer }
      else details state tokenId := by
  cases lockExternalTransfer with
  | false =>
      split
      · rfl
      · rfl
  | true =>
      by_cases same : tokenId = locked
      · simp [lockIf, details, same]
      · simp [lockIf, details, same]

theorem saveSRR_details (saved : Uint256) (srr : SRR) (metadataCID : Bytes) :
    details (saveSRR state saved srr metadataCID) tokenId =
      if tokenId = saved then { details state tokenId with srr := srr, metadataCID := metadataCID }
      else details state tokenId := by
  by_cases same : tokenId = saved
  · simp [saveSRR, details, same]
  · simp [saveSRR, details, same]

theorem mint_details {to_ : Address} {minted : Uint256}
    (mints : _mint state to_ minted = .ok state') :
    details state' tokenId = details state tokenId := by
  obtain ⟨_, _, rfl⟩ := mint_accepted mints
  rfl

theorem createRecord_details {creation : Creation} {fromBulk : Bool} {created : Uint256}
    (creates : createRecord evm world msg state creation.isPrimaryIssuer creation.artistAddress
      creation.metadataCID creation.issuerAddress creation.lockExternalTransfer
      creation.royaltyReceiver creation.royaltyBasisPoints fromBulk = .ok (state', created)) :
    ∀ tokenId, details state' tokenId =
      if tokenId = creation.tokenId evm then creation.written (details state tokenId)
      else details state tokenId := by
  obtain ⟨rfl, _, bounded, minted, mints, rfl⟩ := createRecord_accepted creates
  intro tokenId
  rw [upsertRoyalty_details, State.recorded, details_emit, lockIf_details, mint_details mints,
    saveSRR_details, ← Creation.tokenId]
  by_cases same : tokenId = creation.tokenId evm
  · simp only [if_pos same]
    unfold Creation.written
    by_cases received : creation.royaltyReceiver ≠ 0
    · rw [if_pos ⟨same, received, bounded received⟩, if_pos received]
      rfl
    · rw [if_neg fun all => received all.2.1, if_neg received]
      rfl
  · rw [if_neg fun all => same all.1, if_neg same, if_neg same, if_neg same]

theorem passOn_details (issuerAddress to_ : Address) (passed : Uint256) :
    details (passOn state issuerAddress to_ passed) tokenId = details state tokenId := by
  unfold passOn
  split
  · rfl
  · rfl

theorem createRecord_given {creation : Creation} {fromBulk : Bool} {middle : State}
    {created : Uint256}
    (creates : createRecord evm world msg state creation.isPrimaryIssuer creation.artistAddress
      creation.metadataCID creation.issuerAddress creation.lockExternalTransfer
      creation.royaltyReceiver creation.royaltyBasisPoints fromBulk = .ok (middle, created)) :
    state.erc721.ownerOf (creation.tokenId evm) = 0 ∧ creation.issuerAddress ≠ 0 ∧
      ledger (passOn middle creation.issuerAddress creation.to_ created) =
        (creation.birth evm).entered (ledger state) ∧
      ∀ tokenId, details (passOn middle creation.issuerAddress creation.to_ created) tokenId =
        if tokenId = creation.tokenId evm then creation.written (details state tokenId)
        else details state tokenId := by
  obtain ⟨rfl, absent, issuer, _, entered⟩ := createRecord_accounts creation.to_ creates
  have minted : ledger middle = (creation.birth evm).minted (ledger state) :=
    congrArg Accounts.ledger entered
  refine ⟨absent, issuer, congrArg Accounts.ledger (passOn_accounts minted), ?_⟩
  intro tokenId
  rw [passOn_details]
  exact createRecord_details creates tokenId

theorem creation_aside (aside : call.aside = true) : call.creation world msg state = none := by
  cases call <;> first | rfl | cases aside

/-- A successful creation. -/
theorem Accepted.made {creation : Creation}
    (accepted : Accepted evm world msg state call state')
    (named : call.creation world msg state = some creation) :
    state.erc721.ownerOf (creation.tokenId evm) = 0 ∧ creation.issuerAddress ≠ 0 ∧
      ledger state' = (creation.birth evm).entered (ledger state) ∧
      ∀ tokenId, details state' tokenId =
        if tokenId = creation.tokenId evm then creation.written (details state tokenId)
        else details state tokenId := by
  cases accepted with
  | createSRR creates =>
      cases named
      exact @createRecord_given _ _ _ _ ⟨_, _, _, _, _, _, _, _⟩ _ _ _ creates
  | createSRRFromBulk bulk owner creates =>
      cases named
      exact @createRecord_given _ _ _ _ ⟨_, _, _, _, _, _, _, _⟩ _ _ _ creates
  | aside aside _ => cases (creation_aside aside).symm.trans named
  | _ => cases named

theorem Creation.owner_ne {creation : Creation} (issuer : creation.issuerAddress ≠ 0) :
    creation.owner ≠ 0 := by
  unfold Creation.owner
  split
  · assumption
  · exact issuer

theorem Creation.entered (creation : Creation) (evm : Evm)
    (before : Ledger Uint256 Address Uint256)
    (unapproved : before.approved (creation.tokenId evm) = 0) :
    ((creation.birth evm).entered before).owner (creation.tokenId evm) = creation.owner ∧
      ((creation.birth evm).entered before).approved (creation.tokenId evm) = 0 := by
  have kept : ((creation.birth evm).minted before).approved = before.approved := by
    unfold Birth.minted
    split
    · rfl
    · rfl
  unfold Birth.entered Creation.owner
  by_cases passed : creation.to_ ≠ 0
  · have here : (creation.birth evm).to_ ≠ 0 := passed
    rw [if_pos here, if_pos passed]
    exact ⟨Function.update_self _ _ _, Function.update_self _ _ _⟩
  · have here : ¬(creation.birth evm).to_ ≠ 0 := passed
    rw [if_neg here, if_neg passed, kept, Birth.minted_owner]
    exact ⟨Function.update_self _ _ _, unapproved⟩

theorem Birth.entered_apart (birth : Birth) (before : Ledger Uint256 Address Uint256)
    (other : tokenId ≠ birth.tokenId) :
    (birth.entered before).owner tokenId = before.owner tokenId ∧
      (birth.entered before).approved tokenId = before.approved tokenId := by
  refine ⟨birth.entered_other before other, ?_⟩
  unfold Birth.entered Birth.minted
  split
  · split
    · exact Function.update_of_ne other _ _
    · exact Function.update_of_ne other _ _
  · split
    · rfl
    · rfl

theorem fresh_iff {transaction : Transaction} {creation : Creation}
    (ran : (entry evm transaction state).front = some state')
    (named : transaction.call.creation transaction.world transaction.msg state = some creation)
    (sound : Sound (accounts state)) :
    Fresh creation (creation.tokenId evm) state state' ↔
      creation.FindsNothing (details state (creation.tokenId evm)) := by
  obtain ⟨absent, issuer, entered, written⟩ := (entry_accepted ran).made named
  obtain ⟨owner, approved⟩ :=
    creation.entered evm (ledger state) (sound.balanced.unapproved _ absent)
  rw [← entered] at owner approved
  have present := written (creation.tokenId evm)
  rw [if_pos rfl] at present
  have owned : state'.erc721.ownerOf (creation.tokenId evm) ≠ 0 := by
    intro unowned
    exact Creation.owner_ne issuer (owner.symm.trans unowned)
  have commitment : getSRRCommitment state' (creation.tokenId evm) =
      (details state (creation.tokenId evm)).commitment := congrArg Details.commitment present
  have lock : getLockExternalTransfer state' (creation.tokenId evm) =
      (creation.lockExternalTransfer ||
        (details state (creation.tokenId evm)).lockExternalTransfer) :=
    congrArg Details.lockExternalTransfer present
  have royalty : getSRRRoyalty state' (creation.tokenId evm) =
      if creation.royaltyReceiver ≠ 0 then
        ⟨creation.royaltyReceiver, creation.royaltyBasisPoints⟩
      else (details state (creation.tokenId evm)).royalty := congrArg Details.royalty present
  constructor
  · intro fresh
    refine ⟨commitment.symm.trans fresh.commitment, ?_, ?_⟩
    · have given := lock.symm.trans fresh.lock
      cases set : creation.lockExternalTransfer with
      | true => exact Or.inl rfl
      | false =>
          rw [set] at given
          exact Or.inr given
    · by_cases received : creation.royaltyReceiver ≠ 0
      · exact Or.inl received
      · have given := royalty.symm.trans fresh.royalty
        rw [if_neg received, Creation.royalty, if_neg received] at given
        exact Or.inr given
  · rintro ⟨uncommitted, unlocked, unpaid⟩
    refine ⟨?_, congrArg Details.srr present, ?_, ?_, ?_, ?_, approved, ?_⟩
    · simp only [ownerOf, bind_eq_ok, require_eq_ok, pure_eq_ok]
      exact ⟨(), owned, owner⟩
    · simp only [getSRRMetadata, bind_eq_ok, onlyExistingToken_eq_ok, pure_eq_ok]
      exact ⟨(), owned, congrArg Details.metadataCID present⟩
    · rw [lock]
      rcases unlocked with given | unset
      · rw [given, Bool.true_or]
      · rw [unset, Bool.or_false]
    · rw [royalty, Creation.royalty]
      split
      · rfl
      · rename_i unreceived
        exact unpaid.resolve_left unreceived
    · rw [commitment, uncommitted]
    · intro other different
      obtain ⟨owner', approved'⟩ := (creation.birth evm).entered_apart (ledger state) different
      rw [← entered] at owner' approved'
      exact ⟨owner', approved', by rw [written, if_neg different]⟩

end Creations

section Leftovers

/-- The token of the calls that hand it to the zero address unchecked. -/
def Call.discards : Call → Option Uint256
  | .transferFromWithProvenance to_ tokenId _ _ _ => if to_ = 0 then some tokenId else none
  | .transferFromWithProvenanceFromBulk _ to_ tokenId _ _ _ =>
      if to_ = 0 then some tokenId else none
  | .transferSRRByReveal to_ _ tokenId _ => if to_ = 0 then some tokenId else none
  | _ => none

def Call.opens : Call → Bool
  | .transferSRRByReveal .. => true
  | _ => false

/-- A token is handed to the zero address only with nothing stored for it. A reveal clears the
commitment itself. -/
def Spares (transaction : Transaction) (state : State) : Prop :=
  transaction.msg.sender ≠ 0 ∧ ∀ tokenId, transaction.call.discards = some tokenId →
    (details state tokenId).lockExternalTransfer = false ∧
      (details state tokenId).royalty = ⟨0, 0⟩ ∧
      ((details state tokenId).commitment = Approval.none ∨ transaction.call.opens = true)

/-- Nothing that a creation may not write is stored under an id without an owner. -/
def Unwritten (state : State) : Prop :=
  ∀ tokenId, state.erc721.ownerOf tokenId = 0 → (details state tokenId).commitment = Approval.none ∧
    (details state tokenId).lockExternalTransfer = false ∧
      (details state tokenId).royalty = ⟨0, 0⟩

/-- What a call does to the details of one token. -/
inductive Touches (evm : Evm) (state : State) (tokenId : Uint256) : Call → Details → Prop
  | kept (call : Call) : Touches evm state tokenId call (details state tokenId)
  | created {call : Call} {after : Details} : call.creates evm = some tokenId →
      state.erc721.ownerOf tokenId = 0 → Touches evm state tokenId call after
  | edited {call : Call} {after : Details} : state.erc721.ownerOf tokenId ≠ 0 →
      call.discards = none → Touches evm state tokenId call after
  | revealed {call : Call} : state.erc721.ownerOf tokenId ≠ 0 →
      Touches evm state tokenId call
        { details state tokenId with commitment := Approval.none }

theorem Touches.silent (same : details state' tokenId = details state tokenId) (call : Call) :
    Touches evm state tokenId call (details state' tokenId) := by
  rw [same]
  exact .kept call

theorem Touches.only {edited : Uint256} (owned : state.erc721.ownerOf edited ≠ 0)
    (moves : call.discards = none)
    (others : tokenId ≠ edited → details state' tokenId = details state tokenId) :
    Touches evm state tokenId call (details state' tokenId) := by
  by_cases same : tokenId = edited
  · subst same
    exact .edited owned moves
  · exact .silent (others same) call

theorem setApproval_details (edited : Uint256) (approval : Approval) :
    details (setApproval state edited approval) tokenId =
      if tokenId = edited then { details state tokenId with commitment := approval }
      else details state tokenId := by
  by_cases same : tokenId = edited
  · simp [details, setApproval, same]
  · simp [details, setApproval, same]

theorem transferFrom_details (from_ to_ : Address) (moved : Uint256) :
    details (_transferFrom state from_ to_ moved) tokenId = details state tokenId := rfl

theorem approveByCommitment_other {edited customHistoryId : Uint256} {commitment : Bytes32}
    {historyMetadataHash : Bytes} {signer : Address}
    (approved : approveByCommitment world state edited commitment historyMetadataHash
      customHistoryId signer = .ok state') (other : tokenId ≠ edited) :
    details state' tokenId = details state tokenId := by
  have prior : details (cancelPriorApproval state edited signer) tokenId =
      details state tokenId := by
    unfold cancelPriorApproval
    split
    · rfl
    · rfl
  obtain ⟨_, _, rfl, ⟨_, rfl⟩ | ⟨_, rfl⟩⟩ := approveByCommitment_accepted approved
  · rw [details_emit, setApproval_details, if_neg other, prior]
  · rw [details_emit, setApproval_details, if_neg other, prior]

theorem requireRoyalties_existing {tokenIds : List Uint256}
    (required : requireRoyalties state tokenIds = .ok ()) :
    ∀ tokenId ∈ tokenIds, state.erc721.ownerOf tokenId ≠ 0 := by
  induction tokenIds with
  | nil => simp
  | cons first tokenIds ih =>
      simp only [requireRoyalties, bind_eq_ok, onlyExistingToken_eq_ok] at required
      obtain ⟨_, owned, _, _, rest⟩ := required
      rintro other (_ | ⟨_, listed⟩)
      · exact owned
      · exact ih rest other listed

theorem upsertReceivers_other {royaltyReceiver : Address} {tokenIds : List Uint256}
    (other : tokenId ∉ tokenIds) :
    details (upsertReceivers royaltyReceiver tokenIds state) tokenId = details state tokenId := by
  induction tokenIds generalizing state with
  | nil => rfl
  | cons first tokenIds ih =>
      simp only [List.mem_cons, not_or] at other
      rw [upsertReceivers, ih other.2, upsertRoyalty_details, if_neg fun all => other.1 all.1]

theorem entry_touches_aside {transaction : Transaction}
    (ran : (entry evm transaction state).front = some state')
    (aside : transaction.call.aside = true) (tokenId : Uint256) :
    Touches evm state tokenId transaction.call (details state' tokenId) := by
  obtain ⟨world, msg, call⟩ := transaction
  cases call with
  | initializeCollectionProxy _featureRegistry =>
      have accepted := Outcome.front_lift ran
      simp only [initializeCollectionProxy, bind_eq_ok, pure_eq_ok] at accepted
      obtain ⟨_, _, rfl⟩ := accepted
      exact .kept _
  | initializeOwnableFeature initialOwner =>
      have accepted := Outcome.front_lift ran
      simp only [initializeOwnableFeature, bind_eq_ok, pure_eq_ok] at accepted
      obtain ⟨_, _, rfl⟩ := accepted
      exact .kept _
  | initializeERC721Feature name_ symbol_ =>
      have accepted := Outcome.front_lift ran
      simp only [initializeERC721Feature, bind_eq_ok, pure_eq_ok] at accepted
      obtain ⟨_, _, rfl⟩ := accepted
      exact .kept _
  | transferOwnership newOwner =>
      have accepted := Outcome.front_lift ran
      simp only [transferOwnership, bind_eq_ok, pure_eq_ok] at accepted
      obtain ⟨_, _, _, _, _, _, rfl⟩ := accepted
      exact .kept _
  | updateSRR updated isPrimaryIssuer artistAddress =>
      have accepted := Outcome.front_lift ran
      simp only [updateSRR, bind_eq_ok, onlyExistingToken_eq_ok, pure_eq_ok] at accepted
      obtain ⟨_, _, _, owned, _, _, _, _, rfl⟩ := accepted
      refine .only owned rfl fun other => ?_
      simp [details, State.emit, other]
  | updateSRRMetadata updated metadataCID =>
      have accepted := Outcome.front_lift ran
      simp only [updateSRRMetadata, bind_eq_ok, onlyExistingToken_eq_ok, pure_eq_ok] at accepted
      obtain ⟨_, owned, _, _, _, _, rfl⟩ := accepted
      refine .only owned rfl fun other => ?_
      simp [details, State.emit, other]
  | updateSRRRoyalty updated royaltyReceiver royaltyBasisPoints =>
      have accepted := Outcome.front_lift ran
      simp only [updateSRRRoyalty, bind_eq_ok, onlyExistingToken_eq_ok, pure_eq_ok] at accepted
      obtain ⟨_, owned, _, _, _, _, _, _, _, _, rfl⟩ := accepted
      refine .only owned rfl fun other => ?_
      rw [upsertRoyalty_details, if_neg fun all => other all.1]
  | updateSRRRoyaltyReceiverMulti tokenIds royaltyReceiver =>
      have accepted := Outcome.front_lift ran
      simp only [updateSRRRoyaltyReceiverMulti, bind_eq_ok, pure_eq_ok] at accepted
      obtain ⟨_, _, _, _, _, required, rfl⟩ := accepted
      by_cases listed : tokenId ∈ tokenIds
      · exact .edited (requireRoyalties_existing required tokenId listed) rfl
      · exact .silent (upsertReceivers_other listed) _
  | view calldata =>
      cases ran
      exact .kept _
  | _ => cases aside

theorem creation_creates {creation : Creation}
    (named : call.creation world msg state = some creation) :
    call.creates evm = some (creation.tokenId evm) := by
  cases call with
  | createSRR =>
      cases named
      rfl
  | createSRRFromBulk =>
      cases named
      rfl
  | _ => cases named

theorem Accepted.creates_touches {creation : Creation}
    (accepted : Accepted evm world msg state call state')
    (named : call.creation world msg state = some creation) (tokenId : Uint256) :
    Touches evm state tokenId call (details state' tokenId) := by
  obtain ⟨absent, _, _, written⟩ := accepted.made named
  by_cases same : tokenId = creation.tokenId evm
  · subst same
    exact .created (creation_creates named) absent
  · exact .silent (by rw [written, if_neg same]) call

theorem entry_touches {transaction : Transaction}
    (ran : (entry evm transaction state).front = some state') (tokenId : Uint256) :
    Touches evm state tokenId transaction.call (details state' tokenId) := by
  by_cases aside : transaction.call.aside = true
  · exact entry_touches_aside ran aside tokenId
  have accepted := entry_accepted ran
  obtain ⟨world, msg, call⟩ := transaction
  cases accepted with
  | aside set _ => exact absurd set aside
  | createSRR creates => exact (Accepted.createSRR creates).creates_touches rfl tokenId
  | createSRRFromBulk bulk owner creates =>
      exact (Accepted.createSRRFromBulk bulk owner creates).creates_touches rfl tokenId
  | addHistory _ _ _ => exact .kept _
  | setLockExternalTransfer _ owned _ =>
      refine .only (onlyExistingToken_eq_ok.mp owned) rfl fun other => ?_
      simp [details, State.emit, other]
  | transferFrom moved =>
      obtain ⟨_, _, _, _, rfl⟩ := transferFrom_accepted moved
      exact .kept _
  | safeTransferFrom moved =>
      obtain ⟨_, _, _, _, rfl⟩ := transferFrom_accepted moved
      exact .kept _
  | approve _ _ => exact .kept _
  | setApprovalForAll => exact .kept _
  | transferFromWithProvenance _ _ => exact .kept _
  | transferFromWithProvenanceFromBulk _ _ => exact .kept _
  | approveSRRByCommitment signed approved =>
      exact .only (onlyCollectionOwnerOrSRROwner_eq_ok.mp signed).1 rfl
        (approveByCommitment_other approved)
  | approveSRRByCommitmentFromBulk _ signed approved =>
      exact .only (onlyCollectionOwnerOrSRROwner_eq_ok.mp signed).1 rfl
        (approveByCommitment_other approved)
  | cancelSRRCommitment signed =>
      refine .only (onlyCollectionOwnerOrSRROwner_eq_ok.mp signed).1 rfl fun other => ?_
      rw [details_emit, _clearSRRCommitment, setApproval_details, if_neg other]
  | @transferSRRByReveal to_ reveal revealed _ _ reveals =>
      obtain ⟨owned, _, rfl⟩ := transferSRRByReveal_accepted reveals
      rw [transferFrom_details, _clearSRRCommitment, setApproval_details]
      split
      · rename_i same
        subst same
        exact .revealed owned
      · exact .kept _

theorem Birth.entered_given (birth : Birth) (before : Ledger Uint256 Address Uint256)
    (issuer : birth.record.issuer ≠ 0) : (birth.entered before).owner birth.tokenId ≠ 0 := by
  unfold Birth.entered
  split
  · rename_i passed
    simpa [Ledger.pass] using passed
  · rw [birth.minted_owner, Function.update_self]
    exact issuer

theorem Creates.creates {birth : Birth} (creates : Creates evm world msg state birth call) :
    call.creates evm = some birth.tokenId := by
  cases creates with
  | createSRR _ _ generated => exact congrArg some generated.symm
  | createSRRFromBulk _ _ generated => exact congrArg some generated.symm

theorem Hands.creates {to_ : Address} (hands : Hands world msg state tokenId to_ call) :
    call.creates evm = none := by
  cases hands <;> rfl

theorem Hands.discards (hands : Hands world msg state tokenId 0 call) :
    call.discards = some tokenId := by
  cases hands with
  | transferFrom _ _ recipient => exact absurd rfl recipient
  | safeTransferFrom _ _ _ recipient => exact absurd rfl recipient
  | transferFromWithProvenance => rfl
  | transferFromWithProvenanceFromBulk => rfl

theorem Posting.unowned {entered : Accounts} (posting : Posting evm world msg state call entered)
    (unowned : entered.ledger.owner tokenId = 0) :
    state.erc721.ownerOf tokenId = 0 ∧ call.creates evm ≠ some tokenId ∨
      call.discards = some tokenId := by
  have passed : ∀ {token : Uint256} {to_ : Address},
      ((ledger state).pass 0 (state.erc721.ownerOf token) to_ token).owner tokenId = 0 →
        state.erc721.ownerOf tokenId = 0 ∨ (token = tokenId ∧ to_ = 0) := by
    intro token to_ unowned
    by_cases same : token = tokenId
    · subst same
      simp only [Ledger.pass, Function.update_self] at unowned
      exact Or.inr ⟨rfl, unowned⟩
    · simp only [Ledger.pass, Function.update_of_ne (Ne.symm same)] at unowned
      exact Or.inl unowned
  cases posting with
  | quiet silent =>
      refine Or.inl ⟨unowned, ?_⟩
      cases call with
      | createSRR => cases silent
      | createSRRFromBulk => cases silent
      | _ => simp [Call.creates]
  | @create _ birth creates absent issuer =>
      by_cases same : tokenId = birth.tokenId
      · subst same
        exact absurd unowned (birth.entered_given (ledger state) issuer)
      · refine Or.inl ⟨(birth.entered_other (ledger state) same).symm.trans unowned, ?_⟩
        rw [creates.creates]
        exact fun named => same (Option.some.inj named).symm
  | hand hands =>
      rcases passed unowned with before | ⟨rfl, rfl⟩
      · exact Or.inl ⟨before, by simp [hands.creates]⟩
      · exact Or.inr hands.discards
  | reveal =>
      rcases passed unowned with before | ⟨rfl, rfl⟩
      · exact Or.inl ⟨before, by simp [Call.creates]⟩
      · exact Or.inr rfl
  | approve => exact Or.inl ⟨unowned, by simp [Call.creates]⟩
  | allow => exact Or.inl ⟨unowned, by simp [Call.creates]⟩
  | setLock => exact Or.inl ⟨unowned, by simp [Call.creates]⟩

theorem opens_clears {transaction : Transaction}
    (ran : (entry evm transaction state).front = some state')
    (opens : transaction.call.opens = true)
    (discards : transaction.call.discards = some tokenId) :
    details state' tokenId = { details state tokenId with commitment := Approval.none } := by
  have accepted := entry_accepted ran
  obtain ⟨world, msg, call⟩ := transaction
  cases call with
  | transferSRRByReveal to_ reveal revealed isIntermediary =>
      have same : revealed = tokenId := by
        simp only [Call.discards] at discards
        split at discards
        · exact Option.some.inj discards
        · cases discards
      have cleared := accepted.revealed
      simp only [Collection.transferSRRByReveal, bind_eq_ok, pure_eq_ok] at cleared
      obtain ⟨_, _, _, _, rfl⟩ := cleared
      rw [transferFrom_details, _clearSRRCommitment, setApproval_details, if_pos same.symm]
      rfl
  | _ => cases opens

theorem entry_unwritten {transaction : Transaction}
    (ran : (entry evm transaction state).front = some state') (spares : Spares transaction state)
    (unwritten : Unwritten state) : Unwritten state' := by
  intro tokenId unowned
  have touches := entry_touches ran tokenId
  rcases (entry_accepted ran).posting.unowned unowned with ⟨before, other⟩ | discards
  · have blank := unwritten tokenId before
    generalize details state' tokenId = after at touches ⊢
    cases touches with
    | kept => exact blank
    | created created _ => exact absurd created other
    | edited owned _ => exact absurd before owned
    | revealed owned => exact absurd before owned
  · obtain ⟨lock, royalty, commitment⟩ := spares.2 tokenId discards
    by_cases opens : transaction.call.opens = true
    · rw [opens_clears ran opens discards]
      exact ⟨rfl, lock, royalty⟩
    · have uncommitted := commitment.resolve_right opens
      generalize details state' tokenId = after at touches ⊢
      cases touches with
      | kept => exact ⟨uncommitted, lock, royalty⟩
      | created created _ =>
          generalize transaction.call = call at created discards
          cases call <;> first | cases discards | cases created
      | edited _ moves => exact absurd (moves.symm.trans discards) (by simp)
      | revealed _ => exact ⟨rfl, lock, royalty⟩

theorem Unwritten.findsNothing (unwritten : Unwritten state)
    (absent : state.erc721.ownerOf tokenId = 0) (creation : Creation) :
    creation.FindsNothing (details state tokenId) := by
  obtain ⟨commitment, lock, royalty⟩ := unwritten tokenId absent
  exact ⟨commitment, Or.inr lock, Or.inr royalty⟩

theorem creations_fresh (evm : Evm) :
    (∀ config, Reach (entry evm) Sent State.blank config → ∀ transaction state' creation,
      (entry evm transaction config.now.state).front = some state' →
      transaction.call.creation transaction.world transaction.msg config.now.state =
        some creation →
      (Fresh creation (creation.tokenId evm) config.now.state state' ↔
        creation.FindsNothing (details config.now.state (creation.tokenId evm)))) ∧
    ∀ config, Reach (entry evm) Spares State.blank config → ∀ transaction state' creation,
      (entry evm transaction config.now.state).front = some state' →
      transaction.call.creation transaction.world transaction.msg config.now.state =
        some creation →
      Fresh creation (creation.tokenId evm) config.now.state state' := by
  constructor
  · intro config reach transaction state' creation ran named
    exact fresh_iff ran named (reach_sound reach)
  · intro config reach transaction state' creation ran named
    have kept : Sound (accounts config.now.state) ∧ Unwritten config.now.state := by
      refine reach.invariant (fun state => Sound (accounts state) ∧ Unwritten state)
        ⟨State.blank_sound, fun _ _ => ⟨rfl, rfl, rfl⟩⟩ fun transaction state spares before => ?_
      exact (entry_trailing evm transaction state).keeps fun state' ran =>
        ⟨(entry_accepted ran).posting.sound before.1 spares.1, entry_unwritten ran spares before.2⟩
    obtain ⟨absent, _⟩ := (entry_accepted ran).made named
    exact (fresh_iff ran named kept.1).mpr (kept.2.findsNothing absent creation)

def openedRun : Config Revert State Query Reply Transaction :=
  let enter := Config.enter (entry sampleEvm)
  enter (sampleCall 0xfac (.initializeOwnableFeature 0xa11ce))
    (enter (sampleCall 0xfac (.initializeCollectionProxy 0xfea)) (.start State.blank))

def createLocked : Transaction :=
  sampleCall 0xb17c
    (.createSRRFromBulk true 0xa271 (ascii "Qm") 0xa11ce true 0xb0b 0xc0de 500)

def lockedCreation : Creation := ⟨true, 0xa271, ascii "Qm", 0xa11ce, true, 0xb0b, 0xc0de, 500⟩

set_option maxRecDepth 8000 in
theorem creations_fresh_first :
    ∃ state', (entry sampleEvm createLocked openedRun.now.state).front = some state' ∧
      state'.erc721.ownerOf recordId = 0xb0b ∧
      Fresh lockedCreation recordId openedRun.now.state state' := by
  have spared : ∀ sender call, sender ≠ 0 → call.discards = none → ∀ state,
      Spares (sampleCall sender call) state := by
    intro sender call sent moves state
    exact ⟨sent, fun tokenId discards => by cases moves.symm.trans discards⟩
  have reach : Reach (entry sampleEvm) Spares State.blank openedRun :=
    .enter _ (.enter _ .start (spared _ _ (by decide) rfl _)) (spared _ _ (by decide) rfl _)
  have ran : ((entry sampleEvm createLocked openedRun.now.state).front.map fun state =>
      state.erc721.ownerOf recordId) = some 0xb0b := by decide
  obtain ⟨state', ran, owner⟩ := Option.map_eq_some_iff.mp ran
  have generated : lockedCreation.tokenId sampleEvm = recordId := by decide
  have fresh :=
    (creations_fresh sampleEvm).2 openedRun reach createLocked state' lockedCreation ran rfl
  rw [generated] at fresh
  exact ⟨state', ran, owner, fresh⟩

def sampleCreation : Creation := ⟨true, 0xa271, ascii "Qm", 0xa11ce, false, 0, 0, 0⟩

-- The record is approved by commitment, lost and created again.
def lostRun : Config Revert State Query Reply Transaction :=
  Collection.approvedRun.enter (entry sampleEvm) loseRecord

set_option maxRecDepth 8000 in
theorem recreated_committed :
    ¬∀ config, Reach (entry sampleEvm) Sent State.blank config →
      ∀ transaction state' creation,
        (entry sampleEvm transaction config.now.state).front = some state' →
        transaction.call.creation transaction.world transaction.msg config.now.state =
          some creation →
        Fresh creation (creation.tokenId sampleEvm) config.now.state state' := by
  intro clean
  have sent : ∀ sender call, sender ≠ 0 → ∀ state, Sent (sampleCall sender call) state :=
    fun _ _ sent _ => sent
  have opened : Reach (entry sampleEvm) Sent State.blank _ :=
    .enter (sampleCall 0xfac (.initializeCollectionProxy 0xfea)) .start (sent _ _ (by decide) _)
  have owned := Reach.enter (sampleCall 0xfac (.initializeOwnableFeature 0xa11ce)) opened
    (sent _ _ (by decide) _)
  have created := Reach.enter createSample owned (sent _ _ (by decide) _)
  have approved := Reach.enter approveSample created (sent _ _ (by decide) _)
  have reach : Reach (entry sampleEvm) Sent State.blank lostRun :=
    .enter loseRecord approved (sent _ _ (by decide) _)
  have left : ((entry sampleEvm createSample lostRun.now.state).front.map fun state =>
      getSRRCommitment state recordId) = some ⟨secretHash, [], 0⟩ := by decide
  obtain ⟨state', ran, left⟩ := Option.map_eq_some_iff.mp left
  have fresh := clean lostRun reach createSample state' sampleCreation ran rfl
  have generated : sampleCreation.tokenId sampleEvm = recordId := by decide
  rw [generated] at fresh
  have committed : (⟨secretHash, [], 0⟩ : Approval) ≠ Approval.none := by decide
  exact committed (left.symm.trans fresh.commitment)

end Leftovers

end Startrail.Collection
