import Startrail.Collection.Accounting
import Startrail.Library.Since

/-!
Who may send a token of a collection by ERC721 means, and since when: its owner, an
operator whom the owner appointed, or the account that the owner or an operator approved
for the token while the same owner had it. The features ask the sender of the message
alone, so a right of this kind never goes through the trusted forwarder.
-/

namespace Startrail.Collection

section Grants

variable (evm : Evm)

/-- The owner made the account an operator and has not taken it back. -/
def Operating (owner operator : Address) : List Transaction → State → Prop :=
  Since (entry evm) Sent State.blank
    (fun _ transaction _ => transaction.call = .setApprovalForAll operator true ∧
      transaction.msg.sender = owner)
    fun state => state.erc721.isApprovedForAll owner operator = true

def Represents (account owner : Address) (trace : List Transaction) (state : State) : Prop :=
  account = owner ∨ Operating evm owner account trace state

/-- The account was approved for the token, by the owner or someone who was an operator at that
moment, and the token has not changed hands since then. -/
def ApprovedFor (tokenId : Uint256) (owner account : Address) : List Transaction → State → Prop :=
  Since (entry evm) Sent State.blank
    (fun trace transaction before => transaction.call = .approve account tokenId ∧
      Represents evm transaction.msg.sender owner trace before)
    fun state => state.erc721.ownerOf tokenId = owner ∧ state.erc721.getApproved tokenId = account

end Grants

variable {evm : Evm} {world : World} {msg : Msg} {call : Call} {state state' : State}
  {tokenId : Uint256} {owner account : Address}

section Gains

theorem Posting.operator {entered : Accounts} {operator : Address}
    (posting : Posting evm world msg state call entered)
    (given : entered.operators owner operator = true) :
    state.erc721.isApprovedForAll owner operator = true ∨
      call = .setApprovalForAll operator true ∧ msg.sender = owner := by
  cases posting with
  | @allow appointed approved =>
      simp only [update₂_apply] at given
      split at given
      · rename_i same
        obtain ⟨rfl, rfl⟩ := same
        subst given
        exact Or.inr ⟨rfl, rfl⟩
      · exact Or.inl given
  | _ => exact Or.inl given

theorem Birth.entered_granted (birth : Birth) {before : Ledger Uint256 Address Uint256}
    (unapproved : before.approved birth.tokenId = 0) (someone : account ≠ 0)
    (granted : (birth.entered before).Granted tokenId owner account) :
    before.Granted tokenId owner account := by
  have minted : (birth.minted before).Granted tokenId owner account →
      before.Granted tokenId owner account := by
    unfold Birth.minted
    split
    · exact Ledger.mint_granted unapproved someone
    · exact Ledger.mint_granted unapproved someone
  unfold Birth.entered at granted
  split at granted
  · exact minted (Ledger.pass_granted someone granted)
  · exact minted granted

theorem Posting.granted {entered : Accounts}
    (posting : Posting evm world msg state call entered) (sound : Sound (accounts state))
    (someone : account ≠ 0) (granted : entered.ledger.Granted tokenId owner account) :
    (ledger state).Granted tokenId owner account ∨
      call = .approve account tokenId ∧
        (msg.sender = owner ∨ state.erc721.isApprovedForAll owner msg.sender = true) := by
  cases posting with
  | quiet _ => exact Or.inl granted
  | @create _ birth _ absent _ =>
      have unapproved := sound.balanced.unapproved birth.tokenId absent
      exact Or.inl (birth.entered_granted unapproved someone granted)
  | hand _ => exact Or.inl (Ledger.pass_granted someone granted)
  | reveal _ _ => exact Or.inl (Ledger.pass_granted someone granted)
  | approve allowed =>
      rcases Ledger.approve_granted granted with already | ⟨rfl, rfl, rfl⟩
      · exact Or.inl already
      · exact Or.inr ⟨rfl, allowed⟩
  | allow => exact Or.inl granted
  | setLock _ => exact Or.inl granted

end Gains

section Runs

variable {trace : List Transaction} (past : Past (entry evm) Sent State.blank trace state)

include past

theorem operating_since (allowed : state.erc721.isApprovedForAll owner account = true) :
    Operating evm owner account trace state := by
  refine past.since ?_ ?_ allowed
  · exact Bool.false_ne_true
  · intro trace transaction before after _ _ ran given
    exact (entry_accepted ran).posting.operator given

theorem represents_since
    (allowed : account = owner ∨ state.erc721.isApprovedForAll owner account = true) :
    Represents evm account owner trace state :=
  allowed.imp id (operating_since past)

theorem approvedFor_since (someone : account ≠ 0)
    (granted : (ledger state).Granted tokenId owner account) :
    ApprovedFor evm tokenId owner account trace state := by
  refine past.since ?_ ?_ granted
  · rintro ⟨_, approved⟩
    exact someone approved.symm
  · intro trace transaction before after earlier sent ran given
    have sound : Sound (accounts before) :=
      earlier.invariant (fun state => Sound (accounts state)) State.blank_sound
        fun sent ran sound => (entry_accepted ran).posting.sound sound sent
    exact ((entry_accepted ran).posting.granted sound someone given).imp id fun acted =>
      ⟨acted.1, represents_since earlier acted.2⟩

end Runs

section Rights

theorem mayTransfer_iff {config : Config Revert State Query Reply Transaction}
    (reach : Reach (entry evm) Sent State.blank config) (someone : msg.sender ≠ 0) :
    MayTransfer msg config.now.state tokenId ↔
      Represents evm msg.sender (config.now.state.erc721.ownerOf tokenId) config.now.trace
          config.now.state ∨
        ApprovedFor evm tokenId (config.now.state.erc721.ownerOf tokenId) msg.sender
          config.now.trace config.now.state := by
  have past := reach.past (entry_trailing evm)
  constructor
  · rintro (owner | operator | approved)
    · exact Or.inl (Or.inl owner)
    · exact Or.inl (represents_since past (Or.inr operator))
    · exact Or.inr (approvedFor_since past someone ⟨rfl, approved.symm⟩)
  · rintro ((owner | operating) | approvedFor)
    · exact Or.inl owner
    · exact Or.inr (Or.inl operating.held)
    · exact Or.inr (Or.inr approvedFor.held.2.symm)

/-- A message moves a token, which is not locked, from its owner to somebody just when its sender
represents the owner or was approved for the token under this owner. -/
theorem transfers_entitled (evm : Evm) (config : Config Revert State Query Reply Transaction)
    (reach : Reach (entry evm) Sent State.blank config) (tokenId : Uint256) (msg : Msg)
    (someone : msg.sender ≠ 0) (from_ to_ : Address) (after : State) :
    transferFrom msg config.now.state from_ to_ tokenId = .ok after ↔
      config.now.state.tokenIdToLockFlag tokenId = false ∧
      from_ = config.now.state.erc721.ownerOf tokenId ∧ to_ ≠ 0 ∧
      (Represents evm msg.sender from_ config.now.trace config.now.state ∨
        ApprovedFor evm tokenId from_ msg.sender config.now.trace config.now.state) ∧
      after = _transferFrom config.now.state from_ to_ tokenId := by
  rw [transferFrom_eq_ok]
  constructor
  · rintro ⟨⟨unlocked, rfl, recipient, spender⟩, moved⟩
    exact ⟨unlocked, rfl, recipient, (mayTransfer_iff reach someone).mp spender, moved⟩
  · rintro ⟨unlocked, rfl, recipient, entitled, moved⟩
    exact ⟨⟨unlocked, rfl, recipient, (mayTransfer_iff reach someone).mpr entitled⟩, moved⟩

-- The owner 0xa11ce makes 0x0b3 an operator, who approves 0xb0b for her record.
def operatedRun : Config Revert State Query Reply Transaction :=
  let enter := Config.enter (entry sampleEvm)
  enter (sampleCall 0x0b3 (.approve 0xb0b recordId))
    (enter (sampleCall 0xa11ce (.setApprovalForAll 0x0b3 true)) createdRun)

set_option maxRecDepth 8000 in
theorem operatedRun_entitled :
    transferFrom ⟨0xb0b, []⟩ operatedRun.now.state 0xa11ce 0xcafe recordId =
        .ok (_transferFrom operatedRun.now.state 0xa11ce 0xcafe recordId) ∧
      ApprovedFor sampleEvm recordId 0xa11ce 0xb0b operatedRun.now.trace
        operatedRun.now.state := by
  have reach : Reach (entry sampleEvm) Sent State.blank operatedRun :=
    .enter _ (.enter _ createdRun_sent (by unfold Sent; decide)) (by unfold Sent; decide)
  have moved : transferFrom ⟨0xb0b, []⟩ operatedRun.now.state 0xa11ce 0xcafe recordId =
      .ok (_transferFrom operatedRun.now.state 0xa11ce 0xcafe recordId) :=
    transferFrom_eq_ok.mpr ⟨⟨by decide, by decide, by decide, by unfold MayTransfer; decide⟩, rfl⟩
  obtain ⟨_, _, _, entitled, _⟩ := (transfers_entitled sampleEvm operatedRun reach recordId
    ⟨0xb0b, []⟩ (by decide) _ _ _).mp moved
  refine ⟨moved, entitled.resolve_left ?_⟩
  rintro (same | operating)
  · exact absurd same (by decide)
  · exact absurd operating.held (by decide)

end Rights

end Startrail.Collection
