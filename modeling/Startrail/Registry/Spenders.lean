import Startrail.Library.Since
import Startrail.Registry.Accounting

/-!
Who may send a token by ERC721 means, and since when. Whoever may send it is its owner,
or was approved for it under the same owner, or is an operator whom the owner appointed
in person, or is the market's proxy while the administrator lists it. Each of these
goes back to a call of the run, and holds in every state since then.
-/

namespace Startrail.Registry

/-- Nobody sends from the zero address, and only the registry itself calls in its own name. -/
def Sent (deployment : Deployment) (transaction : Transaction) (state : State) : Prop :=
  Legal deployment transaction state ∧ transaction.msg.sender ≠ 0

structure Ungranted (state : State) : Prop where
  unapproved : ∀ tokenId, state._tokenApprovals tokenId = 0
  unappointed : ∀ owner operator, state._operatorApprovals owner operator = false
  unlisted : getOpenSeaProxyAddress state = 0

section Grants

variable (deployment : Deployment) (origin : State)

/-- The transaction runs such a call with such a message: in the name of its sender, or of a user
who signed the call. -/
def RunsFor (transaction : Transaction) (before : State) (Wanted : Msg → Call → Prop) : Prop :=
  ∃ middle msg call, Runs deployment before transaction.msg transaction.call middle msg call ∧
    Speaks deployment before transaction.msg msg ∧ Wanted msg call

/-- The owner made the account an operator and has not taken it back. -/
def Operating (owner operator : Address) : List Transaction → State → Prop :=
  Since (entry deployment) (Sent deployment) origin
    (fun _ transaction before => RunsFor deployment transaction before fun msg call =>
      call = .setApprovalForAll operator true ∧ _msgSender deployment msg = owner)
    fun state => state._operatorApprovals owner operator = true

def Serves (proxy : Address) (state : State) : Prop :=
  state._boolStorage SRR_GLOBAL_SLOT ._SRR ._OPENSEA_APPROVE_ALL_KILL_SWITCH = false ∧
    getOpenSeaProxyAddress state = proxy

/-- The administrator registered the market's proxy, or switched it on, and it is neither replaced
nor switched off. -/
def Listed (proxy : Address) : List Transaction → State → Prop :=
  Since (entry deployment) (Sent deployment) origin
    (fun _ transaction before => RunsFor deployment transaction before fun msg call =>
      isAdministrator transaction.world msg before = true ∧
        (call = .setOpenSeaApproveAllKillSwitch false ∨
          ∃ name, call = .setOpenSeaMetaTxIntegration proxy name))
    (Serves proxy)

def Represents (account owner : Address) (trace : List Transaction) (state : State) : Prop :=
  account = owner ∨ Operating deployment origin owner account trace state ∨
    Listed deployment origin account trace state

/-- The account was approved for the token, by the owner, someone who represented the owner at that
moment or the administrator, and the token has not changed hands since then. -/
def ApprovedFor (tokenId : Uint256) (owner account : Address) : List Transaction → State → Prop :=
  Since (entry deployment) (Sent deployment) origin
    (fun trace transaction before => RunsFor deployment transaction before fun msg call =>
      call = .approve account tokenId ∧
        (Represents deployment origin (_msgSender deployment msg) owner trace before ∨
          isAdministrator transaction.world msg before = true))
    fun state => state._tokenOwner tokenId = owner ∧ state._tokenApprovals tokenId = account

end Grants

variable {deployment : Deployment} {world : World} {msg : Msg} {call : Call}
  {origin state state' : State} {tokenId : Uint256}

section Delegates

/-- Who may act for the owners. -/
structure Delegates where
  operators : Address → Address → Bool
  switchedOff : Bool
  proxy : Address

def delegates (state : State) : Delegates where
  operators := state._operatorApprovals
  switchedOff := state._boolStorage SRR_GLOBAL_SLOT ._SRR ._OPENSEA_APPROVE_ALL_KILL_SWITCH
  proxy := getOpenSeaProxyAddress state

/-- What each call makes of the delegates. -/
inductive Delegation (deployment : Deployment) (world : World) (msg : Msg) (state : State) :
    Call → Delegates → Prop
  | quiet {call : Call} : Delegation deployment world msg state call (delegates state)
  | appoint {operator : Address} {approved : Bool} :
      Delegation deployment world msg state (.setApprovalForAll operator approved)
        { delegates state with
          operators := update₂ state._operatorApprovals (_msgSender deployment msg) operator
            approved }
  | switch {on : Bool} : isAdministrator world msg state = true →
      Delegation deployment world msg state (.setOpenSeaApproveAllKillSwitch on)
        { delegates state with switchedOff := on }
  | list {proxy : Address} {name : Bytes} : isAdministrator world msg state = true →
      Delegation deployment world msg state (.setOpenSeaMetaTxIntegration proxy name)
        { delegates state with proxy }

theorem saveSRR_delegates (state : State) (tokenId : Uint256) (isPrimaryIssuer : Bool)
    (artistAddress : Address) :
    delegates (_saveSRR state tokenId isPrimaryIssuer artistAddress) = delegates state := by
  simp [delegates, getOpenSeaProxyAddress, _saveSRR, Storage.set_apply]

theorem delegates_overlooks : Overlooks delegates where
  transfer moved := by
    obtain ⟨_, _, _, _, _, rfl⟩ := transfer_accepted moved
    rfl
  mint minted := by
    obtain ⟨_, _, _, rfl⟩ := mint_accepted minted
    rfl
  saveRoyalties saved := by
    obtain ⟨_, _, _, rfl⟩ := saveRoyalties_accepted saved
    rfl
  royaltiesSet _ _ _ := rfl
  recorded minted tokenId _ _ _ _ _ := by
    simp [delegates, getOpenSeaProxyAddress, State.recorded, State.emit, _saveSRR,
      Storage.set_apply]
  cancelled state tokenId := by
    unfold cancelPriorApproval
    split
    · rfl
    · rfl
  stored _ _ _ _ := rfl
  storedHistory _ _ _ := rfl
  committed _ _ _ _ _ := rfl

theorem provenance_delegates {from_ to_ : Address} {historyMetadataHash : Bytes}
    {customHistoryId : Uint256} {isIntermediary : Bool}
    (moved : _transfer (_historyProvenance state tokenId from_ to_ historyMetadataHash
      customHistoryId isIntermediary) from_ to_ tokenId = .ok state') :
    delegates state' = delegates state :=
  (delegates_overlooks.transfer moved).trans rfl

theorem Administered.delegation
    (administered : Administered deployment world msg state call state') :
    Delegation deployment world msg state call (delegates state') := by
  have kept : delegates state' = delegates state →
      Delegation deployment world msg state call (delegates state') :=
    fun same => same ▸ .quiet
  cases administered with
  | setTrustedForwarder _ _ => exact .quiet
  | setMaxCombinedHistoryRecords _ => exact .quiet
  | @updateSRR tokenId isPrimaryIssuer artistAddress _ _ =>
      have same := saveSRR_delegates state tokenId isPrimaryIssuer artistAddress
      exact kept same
  | updateSRRMetadata _ _ => exact .quiet
  | updateSRRRoyalty _ _ replaced => exact kept (delegates_overlooks.replaceRoyalty replaced)
  | updateSRRRoyaltyReceiverMulti _ updated =>
      exact kept (delegates_overlooks.updateRoyaltyReceivers updated)
  | setNameRegistryAddress _ _ => exact .quiet
  | setTokenURIParts _ => exact .quiet
  | addCustomHistoryType _ _ _ => exact .quiet
  | setApprovalForAll _ => exact .appoint
  | setContractURI _ => exact .quiet
  | transferOwnership _ _ => exact .quiet
  | setOpenSeaApproveAllKillSwitch allowed => exact .switch (require_eq_ok.mp allowed)
  | setOpenSeaMetaTxIntegration allowed => exact .list (require_eq_ok.mp allowed)
  | view => exact .quiet

theorem execute_delegation {selfCall : Msg → Call → State → Execution State}
    (ran : (execute deployment world selfCall msg call state).front = some state')
    (direct : ∀ userAddress callData sigR sigS sigV,
      call ≠ .executeMetaTransaction userAddress callData sigR sigS sigV) :
    Delegation deployment world msg state call (delegates state') := by
  have kept : delegates state' = delegates state →
      Delegation deployment world msg state call (delegates state') :=
    fun same => same ▸ .quiet
  cases execute_accepted ran direct with
  | aside aside _ => exact (execute_administered ran aside).delegation
  | createSRRFromLicensedUser _ creates => exact kept (delegates_overlooks.createSRRFor creates)
  | createSRRFromBulk _ creates => exact kept (delegates_overlooks.createSRRFor creates)
  | approveSRRByCommitmentFromBulk _ _ approved =>
      exact kept (delegates_overlooks.approveSRRByCommitment approved)
  | approveSRRByCommitment _ approved =>
      exact kept (delegates_overlooks.approveSRRByCommitment approved)
  | approveSRRByCommitmentWithHistory _ _ approved =>
      exact kept (delegates_overlooks.approveSRRByCommitment approved)
  | cancelSRRCommitment _ => exact .quiet
  | transferSRRByReveal revealed =>
      obtain ⟨_, _, moved⟩ := transferSRRByReveal_accepted revealed
      have same := delegates_overlooks.transfer moved
      exact kept same
  | addHistory _ _ _ _ => exact .quiet
  | writeCustomHistory _ _ _ => exact .quiet
  | updateCustomHistory _ _ _ =>
      apply kept
      split
      · rfl
      · rfl
  | transferFrom _ _ moved => exact kept (delegates_overlooks.transfer moved)
  | safeTransferFrom _ _ moved => exact kept (delegates_overlooks.transfer moved)
  | transferFromWithProvenance _ _ moved => exact kept (provenance_delegates moved)
  | transferFromWithProvenanceFromBulk _ _ _ moved => exact kept (provenance_delegates moved)
  | approve _ _ _ _ => exact .quiet
  | setLockExternalTransfer _ _ =>
      apply kept
      simp [delegates, getOpenSeaProxyAddress, State.emit, Storage.set_apply]

/-- A call, in whatever meta transactions, with what it makes of the delegates and the ledger. -/
theorem entry_delegation {transaction : Transaction}
    (ran : (entry deployment transaction state).front = some state') :
    ∃ middle msg call, Runs deployment state transaction.msg transaction.call middle msg call ∧
      Delegation deployment transaction.world msg state call (delegates state') ∧
      Accepted deployment transaction.world msg middle call state' := by
  obtain ⟨middle, msg, call, selfCall, runs, direct, executed⟩ := perform_executes ran
  refine ⟨middle, msg, call, runs, ?_, execute_accepted executed direct⟩
  have delegation := execute_delegation executed direct
  obtain ⟨_, nonces, logs, rfl⟩ := runs.context
  generalize delegates state' = after at delegation
  cases delegation with
  | quiet => exact .quiet
  | appoint => exact .appoint
  | switch administrator => exact .switch administrator
  | list administrator => exact .list administrator

end Delegates

section Gains

variable {owner account : Address}

theorem Delegation.operator {after : Delegates} {operator : Address}
    (delegation : Delegation deployment world msg state call after)
    (given : after.operators owner operator = true) :
    state._operatorApprovals owner operator = true ∨
      call = .setApprovalForAll operator true ∧ _msgSender deployment msg = owner := by
  cases delegation with
  | quiet => exact Or.inl given
  | @appoint appointed approved =>
      simp only [update₂_apply] at given
      split at given
      · rename_i same
        obtain ⟨rfl, rfl⟩ := same
        subst given
        exact Or.inr ⟨rfl, rfl⟩
      · exact Or.inl given
  | switch _ => exact Or.inl given
  | list _ => exact Or.inl given

theorem Delegation.serves {after : Delegates} {proxy : Address}
    (delegation : Delegation deployment world msg state call after)
    (on : after.switchedOff = false) (given : after.proxy = proxy) :
    Serves proxy state ∨ isAdministrator world msg state = true ∧
      (call = .setOpenSeaApproveAllKillSwitch false ∨
        ∃ name, call = .setOpenSeaMetaTxIntegration proxy name) := by
  cases delegation with
  | quiet => exact Or.inl ⟨on, given⟩
  | appoint => exact Or.inl ⟨on, given⟩
  | switch administrator =>
      subst on
      exact Or.inr ⟨administrator, Or.inl rfl⟩
  | @list _ name administrator =>
      subst given
      exact Or.inr ⟨administrator, Or.inr ⟨name, rfl⟩⟩

theorem Birth.entered_granted (birth : Birth) {before : Ledger Uint256 Address ℤ}
    (unapproved : before.approved birth.tokenId = 0) (someone : account ≠ 0)
    (granted : (birth.entered before).Granted tokenId owner account) :
    before.Granted tokenId owner account := by
  have minted : (birth.minted before).Granted tokenId owner account →
      before.Granted tokenId owner account := by
    unfold Birth.minted
    split
    · exact Ledger.mint_granted unapproved someone
    · exact Ledger.mint_granted unapproved someone
  unfold Birth.entered at granted
  split at granted
  · exact minted (Ledger.pass_granted someone granted)
  · exact minted granted

theorem Posting.granted {entered : Ledger Uint256 Address ℤ}
    (posting : Posting deployment msg state call entered)
    (unapproved : ∀ token, state._tokenOwner token = 0 → state._tokenApprovals token = 0)
    (someone : account ≠ 0) (granted : entered.Granted tokenId owner account) :
    (ledger state).Granted tokenId owner account ∨
      call = .approve account tokenId ∧ state._tokenOwner tokenId = owner ∧ owner ≠ 0 := by
  cases posting with
  | quiet _ => exact Or.inl granted
  | @create _ birth _ absent _ =>
      exact Or.inl (birth.entered_granted (unapproved _ absent) someone granted)
  | hand _ _ _ => exact Or.inl (Ledger.pass_granted someone granted)
  | reveal _ _ => exact Or.inl (Ledger.pass_granted someone granted)
  | @approve _ token owned =>
      rcases Ledger.approve_granted granted with already | ⟨rfl, rfl, rfl⟩
      · exact Or.inl already
      · exact Or.inr ⟨rfl, rfl, owned⟩
  | setLock _ => exact Or.inl granted

/-- A token that does not exist has no approved account. -/
def Unapproved (state : State) : Prop :=
  ∀ token, state._tokenOwner token = 0 → state._tokenApprovals token = 0

theorem entry_unapproved {transaction : Transaction} (unapproved : Unapproved state)
    (ran : (entry deployment transaction state).front = some state') : Unapproved state' := by
  obtain ⟨middle, msg, call, runs, posting⟩ := perform_posting ran
  obtain ⟨_, nonces, logs, rfl⟩ := runs.context
  intro token unowned
  by_contra someone
  rcases posting.granted unapproved someone ⟨unowned, rfl⟩ with ⟨absent, approved⟩ | ⟨_, _, owned⟩
  · exact someone (approved.symm.trans (unapproved token absent))
  · exact owned rfl

theorem Accepted.approver
    (accepted : Accepted deployment world msg state (.approve account tokenId) state') :
    _msgSender deployment msg = state._tokenOwner tokenId ∨
      isApprovedForAll state (state._tokenOwner tokenId) (_msgSender deployment msg) = true ∨
      isAdministrator world msg state = true := by
  cases accepted with
  | aside aside _ => cases aside
  | approve _ owned _ allowed =>
      obtain ⟨_, rfl⟩ := ownerOf_accepted owned
      exact allowed

theorem Runs.speaker_nonzero {transaction : Transaction} {middle : State}
    (runs : Runs deployment state transaction.msg transaction.call middle msg call)
    (sent : Sent deployment transaction state) : _msgSender deployment msg ≠ 0 := by
  rcases runs.speaks sent.1 with ⟨_, same⟩ | ⟨_, _, _, _, _, _, signed⟩
  · rw [same]
    exact sent.2
  · exact ((Evm.signed_iff _ _ _ _ _ _).mp signed).2

end Gains

section Runs

variable {trace : List Transaction} {owner account proxy : Address}
  (ungranted : Ungranted origin)
  (past : Past (entry deployment) (Sent deployment) origin trace state)

include ungranted past

theorem operating_since (allowed : state._operatorApprovals owner account = true) :
    Operating deployment origin owner account trace state := by
  refine past.since ?_ ?_ allowed
  · rw [ungranted.unappointed]
    exact Bool.false_ne_true
  · intro trace transaction before after _ sent ran given
    obtain ⟨middle, msg, call, runs, delegation, _⟩ := entry_delegation ran
    exact (delegation.operator given).imp id fun acted =>
      ⟨middle, msg, call, runs, runs.speaks sent.1, acted⟩

theorem listed_since (someone : proxy ≠ 0) (serves : Serves proxy state) :
    Listed deployment origin proxy trace state := by
  refine past.since ?_ ?_ serves
  · rintro ⟨_, given⟩
    exact someone (given.symm.trans ungranted.unlisted)
  · rintro trace transaction before after _ sent ran ⟨on, given⟩
    obtain ⟨middle, msg, call, runs, delegation, _⟩ := entry_delegation ran
    exact (delegation.serves on given).imp id fun acted =>
      ⟨middle, msg, call, runs, runs.speaks sent.1, acted⟩

theorem represents_since (someone : account ≠ 0)
    (allowed : account = owner ∨ isApprovedForAll state owner account = true) :
    Represents deployment origin account owner trace state := by
  rcases allowed with same | allowed
  · exact Or.inl same
  · unfold isApprovedForAll at allowed
    split at allowed
    · rename_i serves
      exact Or.inr (Or.inr (listed_since ungranted past someone serves))
    · exact Or.inr (Or.inl (operating_since ungranted past allowed))

theorem approvedFor_since (someone : account ≠ 0)
    (granted : (ledger state).Granted tokenId owner account) :
    ApprovedFor deployment origin tokenId owner account trace state := by
  refine past.since ?_ ?_ granted
  · rintro ⟨_, approved⟩
    exact someone (approved.symm.trans (ungranted.unapproved tokenId))
  · intro trace transaction before after earlier sent ran given
    have unapproved : Unapproved before :=
      earlier.invariant Unapproved (fun token _ => ungranted.unapproved token)
        fun _ ran unapproved => entry_unapproved unapproved ran
    obtain ⟨middle, msg, call, runs, _, accepted⟩ := entry_delegation ran
    have speaker := runs.speaker_nonzero sent
    have speaks := runs.speaks sent.1
    have posting := accepted.posting
    obtain ⟨_, nonces, logs, rfl⟩ := runs.context
    rcases posting.granted unapproved someone given with already | ⟨rfl, rfl, _⟩
    · exact Or.inl already
    · refine Or.inr ⟨_, msg, _, runs, speaks, rfl, ?_⟩
      rcases accepted.approver with owner | operator | administrator
      · exact Or.inl (Or.inl owner)
      · exact Or.inl (represents_since ungranted earlier speaker (Or.inr operator))
      · exact Or.inr administrator

end Runs

section Rights

theorem Represents.may {owner account : Address} {trace : List Transaction}
    (represents : Represents deployment origin account owner trace state) :
    account = owner ∨ isApprovedForAll state owner account = true := by
  rcases represents with same | operating | listed
  · exact Or.inl same
  · refine Or.inr ?_
    unfold isApprovedForAll
    split
    · rfl
    · exact operating.held
  · exact Or.inr (if_pos listed.held)

theorem isApprovedOrOwner_iff {spender : Address} :
    _isApprovedOrOwner state spender tokenId = .ok true ↔ state._tokenOwner tokenId ≠ 0 ∧
      ((spender = state._tokenOwner tokenId ∨
          isApprovedForAll state (state._tokenOwner tokenId) spender = true) ∨
        state._tokenApprovals tokenId = spender) := by
  simp only [_isApprovedOrOwner, bind_eq_ok, require_eq_ok, ownerOf_eq_ok, getApproved_eq_ok,
    exists_iff, pure_eq_ok, Bool.or_eq_true, beq_iff_eq]
  constructor
  · rintro ⟨_, owned, _, ⟨_, rfl⟩, _, ⟨_, rfl⟩, (owner | approved) | operator⟩
    · exact ⟨owned, Or.inl (Or.inl owner)⟩
    · exact ⟨owned, Or.inr approved⟩
    · exact ⟨owned, Or.inl (Or.inr operator)⟩
  · rintro ⟨owned, (owner | operator) | approved⟩
    · exact ⟨(), owned, _, ⟨owned, rfl⟩, _, ⟨owned, rfl⟩, Or.inl (Or.inl owner)⟩
    · exact ⟨(), owned, _, ⟨owned, rfl⟩, _, ⟨owned, rfl⟩, Or.inr operator⟩
    · exact ⟨(), owned, _, ⟨owned, rfl⟩, _, ⟨owned, rfl⟩, Or.inl (Or.inr approved)⟩

/-- An account may send a token if and only if it represents the owner or was approved for the
token under this owner. -/
theorem spenders_entitled (deployment : Deployment) (origin : State) (ungranted : Ungranted origin)
    (config : Config Revert State Query Reply Transaction)
    (reach : Reach (entry deployment) (Sent deployment) origin config) (tokenId : Uint256)
    (spender : Address) (someone : spender ≠ 0) :
    _isApprovedOrOwner config.now.state spender tokenId = .ok true ↔
      config.now.state._tokenOwner tokenId ≠ 0 ∧
        (Represents deployment origin spender (config.now.state._tokenOwner tokenId)
            config.now.trace config.now.state ∨
          ApprovedFor deployment origin tokenId (config.now.state._tokenOwner tokenId) spender
            config.now.trace config.now.state) := by
  have past := reach.past fun transaction state => perform_trailing _ _ _ state
  rw [isApprovedOrOwner_iff]
  constructor
  · rintro ⟨owned, allowed | approved⟩
    · exact ⟨owned, Or.inl (represents_since ungranted past someone allowed)⟩
    · exact ⟨owned, Or.inr (approvedFor_since ungranted past someone ⟨rfl, approved⟩)⟩
  · rintro ⟨owned, represents | approvedFor⟩
    · exact ⟨owned, Or.inl represents.may⟩
    · exact ⟨owned, Or.inr approvedFor.held.2⟩

theorem State.blank_ungranted : Ungranted State.blank :=
  ⟨fun _ => rfl, fun _ _ => rfl, rfl⟩

-- 0xa11ce makes 0x0b3 an operator, who approves 0xb0b for her record.
def lentRun : Config Revert State Query Reply Transaction :=
  let enter := Config.enter (entry sampleDeployment)
  enter (sampleCall 0x0b3 (.approve 0xb0b recordId))
    (enter (sampleCall 0xa11ce (.setApprovalForAll 0x0b3 true))
      (enter (sampleCall 0xb17c (.createSRRFromBulk true 0xa271 (ascii "Qm") 0xa11ce false 0 0 0))
        (.start State.blank)))

set_option maxRecDepth 8000 in
theorem lentRun_entitled :
    lentRun.now.state._tokenOwner recordId = 0xa11ce ∧
      ApprovedFor sampleDeployment State.blank recordId 0xa11ce 0xb0b lentRun.now.trace
        lentRun.now.state := by
  have owner : lentRun.now.state._tokenOwner recordId = 0xa11ce := by decide
  have sent : ∀ sender call, sender ≠ sampleDeployment.self → sender ≠ 0 →
      ∀ state, Sent sampleDeployment (sampleCall sender call) state :=
    fun _ _ other someone _ => ⟨other, someone⟩
  have reach : Reach (entry sampleDeployment) (Sent sampleDeployment) State.blank lentRun :=
    .enter _ (.enter _ (.enter _ .start (sent _ _ (by decide) (by decide) _))
      (sent _ _ (by decide) (by decide) _)) (sent _ _ (by decide) (by decide) _)
  have entitled := (spenders_entitled sampleDeployment State.blank State.blank_ungranted lentRun
    reach recordId 0xb0b (by decide)).mp (by rfl)
  rw [owner] at entitled
  refine ⟨owner, entitled.2.resolve_left ?_⟩
  intro represents
  exact absurd represents.may (by decide)

end Rights

end Startrail.Registry
