import Startrail.Collection.Accounting
import Startrail.Commitments

/-!
Who may move a token of a collection, and who may create one. The features check this in
different layers; that `_transferFrom` cannot be used to create a token rests on the
accounts being sound.
-/

namespace Startrail.Collection

variable {evm : Evm} {world : World} {msg : Msg} {state state' : State}

/-- Someone with a right to the token, or someone who knows what was committed to. -/
def Authorized (evm : Evm) (world : World) (msg : Msg) (state : State) (tokenId : Uint256)
    (call : Call) : Prop :=
  ∃ to_, Hands world msg state tokenId to_ call ∨
    ∃ reveal isIntermediary, call = .transferSRRByReveal to_ reveal tokenId isIntermediary ∧
      evm.keccak256 (packWord reveal) = (state.approvals tokenId).commitment ∧
      (state.approvals tokenId).commitment ≠ 0

theorem Birth.entered_other (birth : Birth) (before : Ledger Uint256 Address Uint256)
    {tokenId : Uint256} (other : tokenId ≠ birth.tokenId) :
    (birth.entered before).owner tokenId = before.owner tokenId := by
  unfold Birth.entered
  split
  · simp [Ledger.pass, birth.minted_owner, other]
  · rw [birth.minted_owner, Function.update_of_ne other]

theorem pass_other {before : Ledger Uint256 Address Uint256} {from_ to_ : Address}
    {tokenId token : Uint256}
    (changed : (before.pass 0 from_ to_ token).owner tokenId ≠ before.owner tokenId) :
    token = tokenId := by
  by_contra different
  exact changed (Function.update_of_ne (Ne.symm different) _ _)

/-- The entries that give a token another owner. -/
theorem Posting.owner_changed {call : Call} {entered : Accounts} {tokenId : Uint256}
    (posting : Posting evm world msg state call entered)
    (changed : entered.ledger.owner tokenId ≠ state.erc721.ownerOf tokenId) :
    (∃ birth, Creates evm world msg state birth call ∧ birth.tokenId = tokenId ∧
        state.erc721.ownerOf tokenId = 0) ∨
      (∃ to_, Hands world msg state tokenId to_ call) ∨
      ∃ to_ reveal isIntermediary, state.erc721.ownerOf tokenId ≠ 0 ∧
        call = .transferSRRByReveal to_ reveal tokenId isIntermediary ∧
        evm.keccak256 (packWord reveal) = (state.approvals tokenId).commitment := by
  cases posting with
  | quiet _ => exact absurd rfl changed
  | @create _ birth creates absent _ =>
      have same : birth.tokenId = tokenId := by
        by_contra different
        exact changed (birth.entered_other _ (Ne.symm different))
      subst same
      exact Or.inl ⟨birth, creates, rfl, absent⟩
  | @hand _ token to_ hands =>
      have same : token = tokenId := pass_other changed
      subst same
      exact Or.inr (Or.inl ⟨to_, hands⟩)
  | @reveal to_ reveal token isIntermediary owned opened =>
      have same : token = tokenId := pass_other changed
      subst same
      exact Or.inr (Or.inr ⟨to_, reveal, isIntermediary, owned, rfl, opened⟩)
  | approve _ => exact absurd rfl changed
  | allow => exact absurd rfl changed
  | setLock _ => exact absurd rfl changed

theorem Accepted.stores {birth : Birth} {call : Call}
    (accepted : Accepted evm world msg state call state')
    (creates : Creates evm world msg state birth call) : Stores state' birth := by
  cases creates with
  | createSRR royaltyReceiver royaltyBasisPoints generated _ sent issuer =>
      cases accepted with
      | aside aside _ => cases aside
      | createSRR recorded =>
          rw [sent.trans issuer.symm] at recorded
          have stores := createRecord_stores birth.to_ recorded
          rw [(createRecord_accounts birth.to_ recorded).1, ← generated] at stores
          exact passOn_stores _ _ _ stores
  | createSRRFromBulk royaltyReceiver royaltyBasisPoints generated _ _ =>
      cases accepted with
      | aside aside _ => cases aside
      | createSRRFromBulk _ _ recorded =>
          have stores := createRecord_stores birth.to_ recorded
          rw [(createRecord_accounts birth.to_ recorded).1, ← generated] at stores
          exact passOn_stores _ _ _ stores

theorem collection_authority (evm : Evm) (config : Config Revert State Query Reply Transaction)
    (reach : Reach (entry evm) Sent State.blank config) (transaction : Transaction)
    (sent : Sent transaction config.now.state) (tokenId : Uint256)
    (nonzero : ∀ to_ reveal isIntermediary,
      transaction.call = .transferSRRByReveal to_ reveal tokenId isIntermediary →
      evm.keccak256 (packWord reveal) ≠ 0) :
    (entry evm transaction config.now.state).Trailing ∧
      ∀ state', (entry evm transaction config.now.state).front = some state' →
        (config.now.state.erc721.ownerOf tokenId ≠ 0 →
          state'.erc721.ownerOf tokenId ≠ config.now.state.erc721.ownerOf tokenId →
          Authorized evm transaction.world transaction.msg config.now.state tokenId
            transaction.call) ∧
        (config.now.state.erc721.ownerOf tokenId = 0 → state'.erc721.ownerOf tokenId ≠ 0 →
          ∃ birth, birth.tokenId = tokenId ∧
            Creates evm transaction.world transaction.msg config.now.state birth
              transaction.call ∧
            Stores state' birth) := by
  have sound := reach_sound reach
  refine ⟨entry_trailing evm transaction _, ?_⟩
  intro state' ran
  have posting := (entry_accepted ran).posting
  constructor
  · intro owned changed
    rcases posting.owner_changed changed with ⟨_, _, _, absent⟩ | ⟨to_, hands⟩ |
      ⟨to_, reveal, isIntermediary, _, revealed, opened⟩
    · exact absurd absent owned
    · exact ⟨to_, Or.inl hands⟩
    · refine ⟨to_, Or.inr ⟨reveal, isIntermediary, revealed, opened, ?_⟩⟩
      rw [← opened]
      exact nonzero to_ reveal isIntermediary revealed
  · intro absent owned
    rcases posting.owner_changed (fun same => owned (same.trans absent)) with
      ⟨birth, creates, here, _⟩ | ⟨to_, hands⟩ | ⟨_, _, _, exists_, _⟩
    · exact ⟨birth, here, creates, (entry_accepted ran).stores creates⟩
    · exact absurd absent (hands.owned sound sent)
    · exact absurd absent exists_

set_option maxRecDepth 8000 in
theorem revealSample_authorized :
    ∃ state', (entry sampleEvm revealSample approvedRun.now.state).front = some state' ∧
      state'.erc721.ownerOf recordId = 0xb0b ∧
      Authorized sampleEvm revealSample.world revealSample.msg approvedRun.now.state recordId
        revealSample.call := by
  have reach : Reach (entry sampleEvm) Sent State.blank approvedRun :=
    .enter _ createdRun_sent (by unfold Sent; decide)
  obtain ⟨_, authority⟩ := collection_authority sampleEvm approvedRun reach revealSample
    (by unfold Sent; decide) recordId (by
      rintro to_ reveal isIntermediary revealed
      cases revealed
      decide)
  obtain ⟨state', ran, owner⟩ := revealSample_moves
  refine ⟨state', ran, owner, (authority state' ran).1 (by decide) ?_⟩
  rw [owner]
  decide

end Startrail.Collection
