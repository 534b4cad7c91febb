import Startrail.Collection.Tokens
import Startrail.Registry.Records

/-!
What a sale owes. Both contracts store a receiver and basis points for a token and answer
`royaltyInfo` from them, with a default receiver and nothing to pay where there is no royalty.
The bound on the basis points is checked by each function that stores a royalty in its own way.
-/

namespace Startrail

section Royalty

/-- Receiver and basis points, as both contracts store them. -/
abbrev Royalty := Address × Uint16

variable {before middle after royalty : Royalty}

/-- Never set, or set within the bounds. -/
def Royalty.Proper (royalty : Royalty) : Prop :=
  royalty = (0, 0) ∨ royalty.1 ≠ 0 ∧ royalty.2 ≤ 10000

/-- What a call may make of the royalty of a token. -/
def Royalty.Settles (before after : Royalty) : Prop :=
  after = before ∨ after.1 ≠ 0 ∧ after.2 ≤ 10000

theorem Royalty.Settles.refl (royalty : Royalty) : Royalty.Settles royalty royalty := Or.inl rfl

theorem Royalty.Settles.trans (early : Royalty.Settles before middle)
    (late : Royalty.Settles middle after) : Royalty.Settles before after := by
  rcases late with same | settled
  · rw [same]
    exact early
  · exact Or.inr settled

theorem Royalty.Settles.proper (settles : Royalty.Settles before after)
    (proper : Royalty.Proper before) : Royalty.Proper after := by
  rcases settles with same | settled
  · rw [same]
    exact proper
  · exact Or.inr settled

theorem Royalty.Settles.keeps (settles : Royalty.Settles before after) (had : before.1 ≠ 0) :
    after.1 ≠ 0 := by
  rcases settles with same | ⟨received, _⟩
  · rw [same]
    exact had
  · exact received

def defaultRoyaltyReceiver : Address := 0x75194F40c5337d218A6798B02BbB34500a653A16

/-- `royaltyInfo` of either contract for the royalty that it reads. -/
def royaltyFor (royalty : Royalty) (salePrice : Uint256) : Result (Address × Uint256) := do
  let (receiver, basisPoints) := if royalty.1 = 0 then (defaultRoyaltyReceiver, 0) else royalty
  requirePanic (salePrice.toNat * basisPoints.toNat < 2 ^ 256) 0x11
  pure (receiver, salePrice * basisPoints.setWidth 256 / 10000)

/-- Every sale can be settled whose price times the basis points fits a word. -/
structure Payable (basisPoints : Uint16) (royaltyInfo : Uint256 → Result (Address × Uint256)) :
    Prop where
  pays : ∀ salePrice receiver royaltyAmount, royaltyInfo salePrice = .ok (receiver, royaltyAmount) →
    receiver ≠ 0 ∧ royaltyAmount.toNat = salePrice.toNat * basisPoints.toNat / 10000 ∧
      royaltyAmount ≤ salePrice
  grows : ∀ low high receiver receiver' royaltyAmount royaltyAmount', low ≤ high →
    royaltyInfo low = .ok (receiver, royaltyAmount) →
    royaltyInfo high = .ok (receiver', royaltyAmount') → royaltyAmount ≤ royaltyAmount'
  reverts : ∀ salePrice, (∃ reason, royaltyInfo salePrice = .error reason) ↔
    2 ^ 256 ≤ salePrice.toNat * basisPoints.toNat

theorem royaltyFor_eq (proper : Royalty.Proper royalty) (salePrice : Uint256) :
    royaltyFor royalty salePrice =
      if salePrice.toNat * royalty.2.toNat < 2 ^ 256 then
        .ok (if royalty.1 = 0 then defaultRoyaltyReceiver else royalty.1,
          salePrice * royalty.2.setWidth 256 / 10000)
      else .error (.panic 0x11) := by
  have read : (if royalty.1 = 0 then (defaultRoyaltyReceiver, 0) else royalty) =
      (if royalty.1 = 0 then defaultRoyaltyReceiver else royalty.1, royalty.2) := by
    rcases proper with rfl | ⟨received, _⟩
    · rfl
    · rw [if_neg received, if_neg received]
  unfold royaltyFor
  rw [read]
  simp only [requirePanic]
  split
  · rfl
  · rfl

theorem toNat_royaltyAmount {salePrice : Uint256} {basisPoints : Uint16}
    (fits : salePrice.toNat * basisPoints.toNat < 2 ^ 256) :
    (salePrice * basisPoints.setWidth 256 / 10000).toNat =
      salePrice.toNat * basisPoints.toNat / 10000 := by
  have widened : (basisPoints.setWidth 256).toNat = basisPoints.toNat := by
    rw [BitVec.toNat_setWidth]
    omega
  rw [BitVec.toNat_udiv, BitVec.toNat_mul, widened, Nat.mod_eq_of_lt fits]
  rfl

theorem Royalty.Proper.bounded (proper : Royalty.Proper royalty) : royalty.2.toNat ≤ 10000 := by
  rcases proper with rfl | ⟨_, bounded⟩
  · exact Nat.zero_le _
  · exact bounded

theorem royaltyFor_ok {salePrice royaltyAmount : Uint256} {receiver : Address}
    (answered : royaltyFor royalty salePrice = .ok (receiver, royaltyAmount))
    (proper : Royalty.Proper royalty) :
    receiver ≠ 0 ∧ royaltyAmount.toNat = salePrice.toNat * royalty.2.toNat / 10000 := by
  rw [royaltyFor_eq proper] at answered
  split at answered
  · rename_i fits
    obtain ⟨rfl, rfl⟩ := Prod.mk.inj (Except.ok.inj answered)
    refine ⟨?_, toNat_royaltyAmount fits⟩
    split
    · decide
    · assumption
  · cases answered

theorem Royalty.Proper.payable (proper : Royalty.Proper royalty) :
    Payable royalty.2 (royaltyFor royalty) := by
  constructor
  · intro salePrice receiver royaltyAmount answered
    obtain ⟨received, amount⟩ := royaltyFor_ok answered proper
    refine ⟨received, amount, ?_⟩
    rw [BitVec.le_def, amount]
    apply Nat.div_le_of_le_mul
    rw [Nat.mul_comm]
    exact Nat.mul_le_mul_right _ proper.bounded
  · intro low high receiver receiver' royaltyAmount royaltyAmount' ordered less more
    rw [BitVec.le_def, (royaltyFor_ok less proper).2, (royaltyFor_ok more proper).2]
    exact Nat.div_le_div_right (Nat.mul_le_mul_right _ ordered)
  · intro salePrice
    rw [royaltyFor_eq proper]
    split
    · rename_i fits
      simp only [reduceCtorEq, exists_false, false_iff]
      omega
    · rename_i exceeds
      exact ⟨fun _ => Nat.le_of_not_lt exceeds, fun _ => ⟨_, rfl⟩⟩

end Royalty

namespace Registry

variable {deployment : Deployment} {world : World} {msg : Msg} {call : Call}
  {state state' : State} {tokenId : Uint256}

def royaltyOf (state : State) (tokenId : Uint256) : Royalty :=
  ((state.royalties tokenId).receiver, (state.royalties tokenId).basisPoints)

def royaltyInfo (state : State) (_tokenId _salePrice : Uint256) : Result (Address × Uint256) :=
  royaltyFor (royaltyOf state _tokenId) _salePrice

theorem royaltyOf_emit (event : Event) :
    royaltyOf (state.emit event) tokenId = royaltyOf state tokenId := rfl

theorem saveRoyalties_settles {saved : Uint256} {basisPoints : Uint16} {receiver : Address}
    (saves : _saveRoyalties state saved basisPoints receiver = .ok state') :
    Royalty.Settles (royaltyOf state tokenId) (royaltyOf state' tokenId) := by
  obtain ⟨received, bounded, _, rfl⟩ := saveRoyalties_accepted saves
  by_cases same : tokenId = saved
  · right
    simp only [royaltyOf, same, Function.update_self]
    exact ⟨received, bounded⟩
  · left
    simp only [royaltyOf, Function.update_of_ne same]

theorem replaceRoyalty_settles {replaced : Uint256} {basisPoints : Uint16} {receiver : Address}
    (replaces : replaceRoyalty state replaced basisPoints receiver = .ok state') :
    Royalty.Settles (royaltyOf state tokenId) (royaltyOf state' tokenId) := by
  rcases replaceRoyalty_accepted replaces with ⟨_, saved, saves, rfl⟩ | ⟨_, rfl⟩
  · rw [royaltyOf_emit]
    exact saveRoyalties_settles saves
  · exact .refl _

theorem updateRoyaltyReceivers_settles {royaltyReceiver : Address} {tokenIds : List Uint256}
    (updated : updateRoyaltyReceivers royaltyReceiver tokenIds state = .ok state') :
    Royalty.Settles (royaltyOf state tokenId) (royaltyOf state' tokenId) := by
  induction tokenIds generalizing state with
  | nil =>
      cases updated
      exact .refl _
  | cons first tokenIds ih =>
      simp only [updateRoyaltyReceivers, bind_eq_ok] at updated
      obtain ⟨_, _, replaced, replaces, rest⟩ := updated
      exact (replaceRoyalty_settles replaces).trans (ih rest)

theorem transfer_royaltyOf {from_ to_ : Address} {moved : Uint256}
    (transferred : _transfer state from_ to_ moved = .ok state') :
    royaltyOf state' tokenId = royaltyOf state tokenId := by
  obtain ⟨_, _, _, _, _, rfl⟩ := transfer_accepted transferred
  rfl

theorem recorded_royaltyOf (minted : State) (created : Uint256)
    (isPrimaryIssuer lockExternalTransfer_ : Bool) (artistAddress sender : Address)
    (metadataCID : Bytes) :
    royaltyOf (minted.recorded created isPrimaryIssuer artistAddress sender metadataCID
      lockExternalTransfer_) tokenId = royaltyOf minted tokenId := rfl

theorem mint_royaltyOf {to_ : Address} {minted : Uint256}
    (mints : _mint state to_ minted = .ok state') :
    royaltyOf state' tokenId = royaltyOf state tokenId := by
  obtain ⟨_, _, _, rfl⟩ := mint_accepted mints
  rfl

theorem createSRR_settles {isPrimaryIssuer lockExternalTransfer_ : Bool}
    {artistAddress sender royaltyReceiver : Address} {metadataCID : Bytes}
    {royaltyBasisPoints : Uint16} {created : Uint256}
    (creates : _createSRR deployment state isPrimaryIssuer artistAddress metadataCID sender
      lockExternalTransfer_ royaltyReceiver royaltyBasisPoints = .ok (state', created)) :
    Royalty.Settles (royaltyOf state tokenId) (royaltyOf state' tokenId) := by
  obtain ⟨_, _, minted, _, mints, rfl, royalty⟩ := createSRR_accepted creates
  rw [← mint_royaltyOf mints]
  rcases royalty with ⟨_, saved, saves, rfl⟩ | ⟨_, rfl⟩
  · rw [royaltyOf_emit, ← recorded_royaltyOf minted]
    exact saveRoyalties_settles saves
  · rw [recorded_royaltyOf]
    exact .refl _

theorem createSRRFor_settles {isPrimaryIssuer lockExternalTransfer_ : Bool}
    {artistAddress sender to_ royaltyReceiver : Address} {metadataCID : Bytes}
    {royaltyBasisPoints : Uint16} {created : Uint256}
    (creates : createSRRFor deployment state isPrimaryIssuer artistAddress metadataCID sender
      lockExternalTransfer_ to_ royaltyReceiver royaltyBasisPoints = .ok (state', created)) :
    Royalty.Settles (royaltyOf state tokenId) (royaltyOf state' tokenId) := by
  obtain ⟨middle, first, ⟨_, passed⟩ | ⟨_, rfl⟩⟩ := createSRRFor_accepted creates
  · rw [transfer_royaltyOf passed]
    exact createSRR_settles first
  · exact createSRR_settles first

theorem Edits.royalty {after : Details}
    (edits : Edits deployment world msg state tokenId call after)
    (uncreated : call.creation msg state = none)
    (single : ∀ royaltyReceiver royaltyBasisPoints,
      call ≠ .updateSRRRoyalty tokenId royaltyReceiver royaltyBasisPoints)
    (multi : ∀ tokenIds royaltyReceiver,
      call ≠ .updateSRRRoyaltyReceiverMulti tokenIds royaltyReceiver) :
    after.royalty = state.royalties tokenId := by
  cases edits with
  | created named _ _ =>
      rw [uncreated] at named
      cases named
  | updateSRRRoyalty royaltyReceiver royaltyBasisPoints _ _ _ => exact absurd rfl (single _ _)
  | updateSRRRoyaltyReceiverMulti royaltyReceiver _ _ _ _ => exact absurd rfl (multi _ _)
  | _ => rfl

theorem execute_settles {selfCall : Msg → Call → State → Execution State}
    (ran : (execute deployment world selfCall msg call state).front = some state')
    (direct : ∀ userAddress callData sigR sigS sigV,
      call ≠ .executeMetaTransaction userAddress callData sigR sigS sigV) (tokenId : Uint256) :
    Royalty.Settles (royaltyOf state tokenId) (royaltyOf state' tokenId) := by
  have edits := execute_edits ran direct tokenId
  have accepted := execute_accepted ran direct
  have kept : (details state' tokenId).royalty = state.royalties tokenId →
      Royalty.Settles (royaltyOf state tokenId) (royaltyOf state' tokenId) := by
    intro same
    left
    change (_, _) = (_, _)
    rw [← same]
    rfl
  cases call with
  | createSRRFromLicensedUser _ _ _ _ _ _ _ =>
      cases accepted with
      | createSRRFromLicensedUser _ creates => exact createSRRFor_settles creates
      | aside aside _ => cases aside
  | createSRRFromBulk _ _ _ _ _ _ _ _ =>
      cases accepted with
      | createSRRFromBulk _ creates => exact createSRRFor_settles creates
      | aside aside _ => cases aside
  | updateSRRRoyalty updated royaltyReceiver royaltyBasisPoints =>
      have updates := Outcome.front_lift ran
      simp only [updateSRRRoyalty, bind_eq_ok] at updates
      obtain ⟨_, _, _, _, replaces⟩ := updates
      exact replaceRoyalty_settles replaces
  | updateSRRRoyaltyReceiverMulti tokenIds royaltyReceiver =>
      have updates := Outcome.front_lift ran
      simp only [updateSRRRoyaltyReceiverMulti, bind_eq_ok] at updates
      obtain ⟨_, _, updated⟩ := updates
      exact updateRoyaltyReceivers_settles updated
  | _ => exact kept (edits.royalty rfl (by simp) (by simp))

theorem perform_settles {depth : Nat}
    (ran : (perform deployment world depth msg call state).front = some state')
    (tokenId : Uint256) :
    Royalty.Settles (royaltyOf state tokenId) (royaltyOf state' tokenId) := by
  obtain ⟨middle, msg', call', selfCall, runs, direct, executed⟩ := perform_executes ran
  obtain ⟨_, nonces, logs, rfl⟩ := runs.context
  exact execute_settles executed direct tokenId

end Registry

namespace Collection

variable {evm : Evm} {world : World} {msg : Msg} {state state' : State} {tokenId : Uint256}

def royaltyOf (state : State) (tokenId : Uint256) : Royalty :=
  ((state.royalties tokenId).receiver, (state.royalties tokenId).basisPoints)

def royaltyInfo (state : State) (tokenId salePrice : Uint256) : Result (Address × Uint256) :=
  royaltyFor (royaltyOf state tokenId) salePrice

theorem upsertRoyalty_settles (updated : Uint256) (royaltyReceiver : Address)
    (royaltyBasisPoints : Uint16) :
    Royalty.Settles (royaltyOf state tokenId)
      (royaltyOf (upsertRoyalty state updated royaltyReceiver royaltyBasisPoints) tokenId) := by
  unfold upsertRoyalty
  split
  · rename_i bounded
    by_cases same : tokenId = updated
    · right
      simp only [royaltyOf, State.emit, same, Function.update_self]
      exact bounded
    · left
      simp only [royaltyOf, State.emit, Function.update_of_ne same]
  · exact .refl _

theorem upsertReceivers_settles (royaltyReceiver : Address) (tokenIds : List Uint256) :
    Royalty.Settles (royaltyOf state tokenId)
      (royaltyOf (upsertReceivers royaltyReceiver tokenIds state) tokenId) := by
  induction tokenIds generalizing state with
  | nil => exact .refl _
  | cons first tokenIds ih => exact (upsertRoyalty_settles first _ _).trans ih

theorem passOn_royaltyOf (issuerAddress to_ : Address) (passed : Uint256) :
    royaltyOf (passOn state issuerAddress to_ passed) tokenId = royaltyOf state tokenId := by
  unfold passOn
  split
  · rfl
  · rfl

theorem recorded_royaltyOf (minted : State) (created : Uint256) (srr : SRR) (metadataCID : Bytes)
    (lockExternalTransfer : Bool) :
    royaltyOf (minted.recorded created srr metadataCID lockExternalTransfer) tokenId =
      royaltyOf minted tokenId := by
  unfold State.recorded lockIf
  split
  · rfl
  · rfl

theorem mint_royaltyOf {to_ : Address} {minted : Uint256}
    (mints : _mint state to_ minted = .ok state') :
    royaltyOf state' tokenId = royaltyOf state tokenId := by
  obtain ⟨_, _, rfl⟩ := mint_accepted mints
  rfl

theorem createRecord_settles {isPrimaryIssuer lockExternalTransfer fromBulk : Bool}
    {artistAddress issuerAddress royaltyReceiver : Address} {metadataCID : Bytes}
    {royaltyBasisPoints : Uint16} {created : Uint256}
    (creates : createRecord evm world msg state isPrimaryIssuer artistAddress metadataCID
      issuerAddress lockExternalTransfer royaltyReceiver royaltyBasisPoints fromBulk =
        .ok (state', created)) :
    Royalty.Settles (royaltyOf state tokenId) (royaltyOf state' tokenId) := by
  obtain ⟨_, _, _, minted, mints, rfl⟩ := createRecord_accepted creates
  have unset : royaltyOf minted tokenId = royaltyOf state tokenId :=
    (mint_royaltyOf mints).trans rfl
  rw [← unset, ← recorded_royaltyOf minted]
  exact upsertRoyalty_settles _ _ _

theorem approveByCommitment_royaltyOf {approved customHistoryId : Uint256} {commitment : Bytes32}
    {historyMetadataHash : Bytes} {signer : Address}
    (approves : approveByCommitment world state approved commitment historyMetadataHash
      customHistoryId signer = .ok state') :
    royaltyOf state' tokenId = royaltyOf state tokenId := by
  have prior : royaltyOf (cancelPriorApproval state approved signer) tokenId =
      royaltyOf state tokenId := by
    unfold cancelPriorApproval
    split
    · rfl
    · rfl
  obtain ⟨_, _, rfl, ⟨_, rfl⟩ | ⟨_, rfl⟩⟩ := approveByCommitment_accepted approves
  · exact prior
  · exact prior

theorem entry_settles_aside {transaction : Transaction}
    (ran : (entry evm transaction state).front = some state')
    (aside : transaction.call.aside = true) (tokenId : Uint256) :
    Royalty.Settles (royaltyOf state tokenId) (royaltyOf state' tokenId) := by
  obtain ⟨world, msg, call⟩ := transaction
  cases call with
  | initializeCollectionProxy _featureRegistry =>
      have accepted := Outcome.front_lift ran
      simp only [initializeCollectionProxy, bind_eq_ok, pure_eq_ok] at accepted
      obtain ⟨_, _, rfl⟩ := accepted
      exact .refl _
  | initializeOwnableFeature initialOwner =>
      have accepted := Outcome.front_lift ran
      simp only [initializeOwnableFeature, bind_eq_ok, pure_eq_ok] at accepted
      obtain ⟨_, _, rfl⟩ := accepted
      exact .refl _
  | initializeERC721Feature name_ symbol_ =>
      have accepted := Outcome.front_lift ran
      simp only [initializeERC721Feature, bind_eq_ok, pure_eq_ok] at accepted
      obtain ⟨_, _, rfl⟩ := accepted
      exact .refl _
  | transferOwnership newOwner =>
      have accepted := Outcome.front_lift ran
      simp only [transferOwnership, bind_eq_ok, pure_eq_ok] at accepted
      obtain ⟨_, _, _, _, _, _, rfl⟩ := accepted
      exact .refl _
  | updateSRR updated isPrimaryIssuer artistAddress =>
      have accepted := Outcome.front_lift ran
      simp only [updateSRR, bind_eq_ok, pure_eq_ok] at accepted
      obtain ⟨_, _, _, _, _, _, _, _, rfl⟩ := accepted
      exact .refl _
  | updateSRRMetadata updated metadataCID =>
      have accepted := Outcome.front_lift ran
      simp only [updateSRRMetadata, bind_eq_ok, pure_eq_ok] at accepted
      obtain ⟨_, _, _, _, _, _, rfl⟩ := accepted
      exact .refl _
  | updateSRRRoyalty updated royaltyReceiver royaltyBasisPoints =>
      have accepted := Outcome.front_lift ran
      simp only [updateSRRRoyalty, bind_eq_ok, pure_eq_ok] at accepted
      obtain ⟨_, _, _, _, _, _, _, _, _, _, rfl⟩ := accepted
      exact upsertRoyalty_settles _ _ _
  | updateSRRRoyaltyReceiverMulti tokenIds royaltyReceiver =>
      have accepted := Outcome.front_lift ran
      simp only [updateSRRRoyaltyReceiverMulti, bind_eq_ok, pure_eq_ok] at accepted
      obtain ⟨_, _, _, _, _, _, rfl⟩ := accepted
      exact upsertReceivers_settles _ _
  | view calldata =>
      cases ran
      exact .refl _
  | _ => cases aside

theorem entry_settles {transaction : Transaction}
    (ran : (entry evm transaction state).front = some state') (tokenId : Uint256) :
    Royalty.Settles (royaltyOf state tokenId) (royaltyOf state' tokenId) := by
  have accepted := entry_accepted ran
  have outside := fun aside => entry_settles_aside ran aside tokenId
  obtain ⟨world, msg, call⟩ := transaction
  cases accepted with
  | aside aside _ => exact outside aside
  | createSRR creates =>
      rw [passOn_royaltyOf]
      exact createRecord_settles creates
  | createSRRFromBulk _ _ creates =>
      rw [passOn_royaltyOf]
      exact createRecord_settles creates
  | transferFrom moved =>
      obtain ⟨_, _, _, _, rfl⟩ := transferFrom_accepted moved
      exact .refl _
  | safeTransferFrom moved =>
      obtain ⟨_, _, _, _, rfl⟩ := transferFrom_accepted moved
      exact .refl _
  | approveSRRByCommitment _ approved => exact Or.inl (approveByCommitment_royaltyOf approved)
  | approveSRRByCommitmentFromBulk _ _ approved =>
      exact Or.inl (approveByCommitment_royaltyOf approved)
  | transferSRRByReveal revealed =>
      obtain ⟨_, _, rfl⟩ := transferSRRByReveal_accepted revealed
      exact .refl _
  | _ => exact .refl _

end Collection

section Runs

/-- What a run makes of the royalties it started with, and what a sale of a token then owes. -/
structure RoyaltiesHold (origin now : Uint256 → Royalty)
    (royaltyInfo : Uint256 → Uint256 → Result (Address × Uint256)) : Prop where
  proper : ∀ tokenId, Royalty.Proper (now tokenId)
  kept : ∀ tokenId, (origin tokenId).1 ≠ 0 → (now tokenId).1 ≠ 0
  payable : ∀ tokenId, Payable (now tokenId).2 (royaltyInfo tokenId)

variable {E S Q R L : Type} {entry : L → S → Outcome E S Q R S} {Legal : L → S → Prop} {origin : S}

theorem royalties_hold {config : Config E S Q R L} (royaltyOf : S → Uint256 → Royalty)
    (trailing : ∀ label state, (entry label state).Trailing)
    (settles : ∀ label state state', (entry label state).front = some state' →
      ∀ tokenId, Royalty.Settles (royaltyOf state tokenId) (royaltyOf state' tokenId))
    (proper : ∀ tokenId, Royalty.Proper (royaltyOf origin tokenId))
    (reach : Reach entry Legal origin config) :
    RoyaltiesHold (royaltyOf origin) (royaltyOf config.now.state)
      fun tokenId => royaltyFor (royaltyOf config.now.state tokenId) := by
  have settled : ∀ tokenId,
      Royalty.Settles (royaltyOf origin tokenId) (royaltyOf config.now.state tokenId) := by
    refine reach.invariant
      (fun state => ∀ tokenId, Royalty.Settles (royaltyOf origin tokenId) (royaltyOf state tokenId))
      (fun tokenId => .refl _) fun label state _ before => ?_
    refine (trailing label state).keeps fun state' ran tokenId => ?_
    exact (before tokenId).trans (settles label state state' ran tokenId)
  have now : ∀ tokenId, Royalty.Proper (royaltyOf config.now.state tokenId) :=
    fun tokenId => (settled tokenId).proper (proper tokenId)
  exact ⟨now, fun tokenId => (settled tokenId).keeps, fun tokenId => (now tokenId).payable⟩

theorem Registry.reach_royalties {deployment : Registry.Deployment}
    {Legal : Registry.Transaction → Registry.State → Prop} {origin : Registry.State}
    {config : Config Revert Registry.State Registry.Query Reply Registry.Transaction}
    (proper : ∀ tokenId, Royalty.Proper (Registry.royaltyOf origin tokenId))
    (reach : Reach (Registry.entry deployment) Legal origin config) :
    RoyaltiesHold (Registry.royaltyOf origin) (Registry.royaltyOf config.now.state)
      (Registry.royaltyInfo config.now.state) := by
  refine royalties_hold Registry.royaltyOf (fun transaction state =>
    Registry.perform_trailing _ _ _ state) ?_ proper reach
  intro transaction state state' ran
  exact Registry.perform_settles ran

theorem Collection.reach_royalties {evm : Evm}
    {Legal : Collection.Transaction → Collection.State → Prop} {origin : Collection.State}
    {config : Config Revert Collection.State Collection.Query Reply Collection.Transaction}
    (proper : ∀ tokenId, Royalty.Proper (Collection.royaltyOf origin tokenId))
    (reach : Reach (Collection.entry evm) Legal origin config) :
    RoyaltiesHold (Collection.royaltyOf origin) (Collection.royaltyOf config.now.state)
      (Collection.royaltyInfo config.now.state) := by
  refine royalties_hold Collection.royaltyOf (Collection.entry_trailing evm) ?_ proper reach
  intro transaction state state' ran
  exact Collection.entry_settles ran

/-- In every run of the registry and of a collection, from any state with proper royalties. -/
theorem royalties_payable :
    (∀ (deployment : Registry.Deployment) (Legal : Registry.Transaction → Registry.State → Prop)
      (origin : Registry.State)
      (config : Config Revert Registry.State Registry.Query Reply Registry.Transaction),
      (∀ tokenId, Royalty.Proper (Registry.royaltyOf origin tokenId)) →
      Reach (Registry.entry deployment) Legal origin config →
      RoyaltiesHold (Registry.royaltyOf origin) (Registry.royaltyOf config.now.state)
        (Registry.royaltyInfo config.now.state)) ∧
    ∀ (evm : Evm) (Legal : Collection.Transaction → Collection.State → Prop)
      (origin : Collection.State)
      (config : Config Revert Collection.State Collection.Query Reply Collection.Transaction),
      (∀ tokenId, Royalty.Proper (Collection.royaltyOf origin tokenId)) →
      Reach (Collection.entry evm) Legal origin config →
      RoyaltiesHold (Collection.royaltyOf origin) (Collection.royaltyOf config.now.state)
        (Collection.royaltyInfo config.now.state) := by
  constructor
  · intro deployment Legal origin config proper reach
    exact Registry.reach_royalties proper reach
  · intro evm Legal origin config proper reach
    exact Collection.reach_royalties proper reach

end Runs

namespace Registry

-- A record with a royalty of five per cent, which is then raised to the whole price.
def raisedRun : Config Revert State Query Reply Transaction :=
  let enter := Config.enter (entry sampleDeployment)
  enter (sampleCall 0xad317 (.updateSRRRoyalty recordId 0x50 10000))
    (enter (sampleCall 0xb17c
        (.createSRRFromBulk true 0xa271 (ascii "Qm") 0xa11ce false 0 0x4f 500))
      (.start State.blank))

set_option maxRecDepth 8000 in
theorem royalties_payable_raised :
    royaltyOf raisedRun.now.state recordId = (0x50, 10000) ∧
      Payable 10000 (royaltyInfo raisedRun.now.state recordId) ∧
      Payable 0 (royaltyInfo raisedRun.now.state 7) := by
  have reach : Reach (entry sampleDeployment) (fun _ _ => True) State.blank raisedRun :=
    .enter _ (.enter _ .start trivial) trivial
  have hold := royalties_payable.1 sampleDeployment _ State.blank raisedRun
    (fun _ => Or.inl rfl) reach
  have raised : royaltyOf raisedRun.now.state recordId = (0x50, 10000) := by decide
  have unset : royaltyOf raisedRun.now.state 7 = (0, 0) := by decide
  have here := hold.payable recordId
  have there := hold.payable 7
  rw [raised] at here
  rw [unset] at there
  exact ⟨raised, here, there⟩

end Registry

end Startrail
