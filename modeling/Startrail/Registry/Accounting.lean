import Startrail.Library.TokenLedger
import Startrail.Registry.Ownership

/-!
The ERC721 bookkeeping of the registry. `ledger` is what the registry keeps about its
tokens beside their commitments, and `Posting` is what each call enters into it. The
counts of the ledger are integers: `_mint` and `_transfer` check their arithmetic.
-/

namespace Startrail.Registry

-- The events that set a lock flag. A record created without a lock sets none.
def setting : Event → Option (Uint256 × Bool)
  | .LockExternalTransfer tokenId flag => some (tokenId, flag)
  | .CreateSRR tokenId _ _ _ _ lockExternalTransfer =>
      if lockExternalTransfer = true then some (tokenId, true) else none
  | _ => none

def ledger (state : State) : Ledger Uint256 Address ℤ where
  owner := state._tokenOwner
  count account := (state._ownedTokensCount account).toNat
  approved := state._tokenApprovals
  locked tokenId := state._boolStorage tokenId ._SRR ._LOCK_EXTERNAL_TRANSFER
  settings := state.logs.filterMap setting

/-- A record to be created, which is passed on if `to_` is given. -/
structure Birth where
  tokenId : Uint256
  issuer : Address
  lockExternalTransfer : Bool
  to_ : Address

def Call.birth (deployment : Deployment) (msg : Msg) (state : State) : Call → Option Birth
  | .createSRRFromLicensedUser _ artistAddress metadataCID lockExternalTransfer to_ _ _ =>
      some ⟨generate deployment.evm metadataCID artistAddress, sender msg state,
        lockExternalTransfer, to_⟩
  | .createSRRFromBulk _ artistAddress metadataCID issuerAddress lockExternalTransfer to_ _ _ =>
      some ⟨generate deployment.evm metadataCID artistAddress, issuerAddress,
        lockExternalTransfer, to_⟩
  | _ => none

def Birth.minted (birth : Birth) (ledger : Ledger Uint256 Address ℤ) : Ledger Uint256 Address ℤ :=
  let flagged := if birth.lockExternalTransfer = true then ledger.setLock birth.tokenId true
    else ledger.resetLock birth.tokenId
  flagged.mint birth.issuer birth.tokenId

def Birth.entered (birth : Birth) (ledger : Ledger Uint256 Address ℤ) :
    Ledger Uint256 Address ℤ :=
  if birth.to_ ≠ 0 then (birth.minted ledger).pass 0 birth.issuer birth.to_ birth.tokenId
  else birth.minted ledger

/-- The token of the calls that move or approve it by ERC721 means. -/
def Call.external : Call → Option Uint256
  | .transferFrom _ _ tokenId => some tokenId
  | .safeTransferFrom _ _ tokenId _ => some tokenId
  | .approve _ tokenId => some tokenId
  | _ => none

def Call.posts : Call → Bool
  | .createSRRFromLicensedUser .. | .createSRRFromBulk .. | .transferFrom .. | .safeTransferFrom ..
  | .transferFromWithProvenance .. | .transferFromWithProvenanceFromBulk ..
  | .transferSRRByReveal .. | .approve .. | .setLockExternalTransfer .. => true
  | _ => false

/-- What each direct call enters into the ledger. -/
inductive Posting (deployment : Deployment) (msg : Msg) (state : State) :
    Call → Ledger Uint256 Address ℤ → Prop
  | quiet {call : Call} : call.posts = false → Posting deployment msg state call (ledger state)
  | create {call : Call} {birth : Birth} : call.birth deployment msg state = some birth →
      state._tokenOwner birth.tokenId = 0 → birth.issuer ≠ 0 →
      Posting deployment msg state call (birth.entered (ledger state))
  | hand {call : Call} {tokenId : Uint256} {to_ : Address} :
      call.handover = some (tokenId, to_) → state._tokenOwner tokenId ≠ 0 → to_ ≠ 0 →
      Posting deployment msg state call
        ((ledger state).pass 0 (state._tokenOwner tokenId) to_ tokenId)
  | reveal {to_ : Address} {reveal : Bytes32} {tokenId : Uint256} {isIntermediary : Bool} :
      state._tokenOwner tokenId ≠ 0 → to_ ≠ 0 →
      Posting deployment msg state (.transferSRRByReveal to_ reveal tokenId isIntermediary)
        ((ledger state).pass 0 (state._tokenOwner tokenId) to_ tokenId)
  | approve {to_ : Address} {tokenId : Uint256} : state._tokenOwner tokenId ≠ 0 →
      Posting deployment msg state (.approve to_ tokenId) ((ledger state).approve to_ tokenId)
  | setLock {tokenId : Uint256} {flag : Bool} : state._tokenOwner tokenId ≠ 0 →
      Posting deployment msg state (.setLockExternalTransfer tokenId flag)
        ((ledger state).setLock tokenId flag)

variable {deployment : Deployment} {world : World} {msg : Msg} {state state' : State}

section Entries

theorem Posting.silent {call : Call} (silent : call.posts = false)
    (same : ledger state' = ledger state) :
    Posting deployment msg state call (ledger state') := by
  rw [same]
  exact .quiet silent

theorem ledger_emit {event : Event} (unset : setting event = none) :
    ledger (state.emit event) = ledger state := by
  simp [ledger, State.emit, unset]

theorem owned_iff {tokenId : Uint256} :
    (book state).Exists tokenScheme tokenId ↔ state._tokenOwner tokenId ≠ 0 := Iff.rfl

theorem toNat_increment {value : Uint256} (fits : value.toNat + 1 < 2 ^ 256) :
    ((value + 1).toNat : ℤ) = value.toNat + 1 := by
  have exact_ : (value + 1).toNat = value.toNat + 1 := by bv_omega
  omega

theorem toNat_decrement {value : Uint256} (positive : 0 < value.toNat) :
    ((value - 1).toNat : ℤ) = value.toNat - 1 := by
  have exact_ : (value - 1).toNat = value.toNat - 1 := by bv_omega
  omega

theorem counts_update (counts : Address → Uint256) (account : Address) (value : Uint256) :
    (fun other => ((Function.update counts account value other).toNat : ℤ)) =
      Function.update (fun other => ((counts other).toNat : ℤ)) account value.toNat :=
  Function.comp_update (fun value : Uint256 => (value.toNat : ℤ)) counts account value

theorem mint_ledger {to_ : Address} {tokenId : Uint256}
    (minted : _mint state to_ tokenId = .ok state') :
    state._tokenOwner tokenId = 0 ∧ to_ ≠ 0 ∧
      ledger state' = (ledger state).mint to_ tokenId := by
  obtain ⟨unowned, recipient, fits, rfl⟩ := mint_accepted minted
  refine ⟨unowned, recipient, ?_⟩
  unfold ledger Ledger.mint
  congr 1
  rw [State.emit, counts_update, toNat_increment fits]

theorem transfer_ledger {from_ to_ : Address} {tokenId : Uint256}
    (moved : _transfer state from_ to_ tokenId = .ok state') :
    state._tokenOwner tokenId ≠ 0 ∧ state._tokenOwner tokenId = from_ ∧ to_ ≠ 0 ∧
      ledger state' = (ledger state).pass 0 from_ to_ tokenId := by
  obtain ⟨owned, rfl, recipient, positive, fits, rfl⟩ := transfer_accepted moved
  refine ⟨owned, rfl, recipient, ?_⟩
  simp only [State.emit, passedCounts]
  unfold ledger Ledger.pass
  congr 1
  have debited := counts_update state._ownedTokensCount (state._tokenOwner tokenId)
    (state._ownedTokensCount (state._tokenOwner tokenId) - 1)
  rw [toNat_decrement positive] at debited
  rw [counts_update, toNat_increment fits, ← debited]

theorem Aside.ledger (aside : Aside state state') : ledger state' = ledger state := by
  have settings : state'.logs.filterMap setting = state.logs.filterMap setting := by
    apply aside.filterMap
    intro event quiet
    cases event <;> first | rfl | cases quiet
  unfold Registry.ledger
  rw [settings, aside.owners, aside.counts, aside.approvals, funext aside.locks]

theorem recorded_ledger (minted : State) {tokenId : Uint256}
    {isPrimaryIssuer lockExternalTransfer : Bool} {artistAddress issuer : Address}
    {metadataCID : Bytes} :
    ledger (minted.recorded tokenId isPrimaryIssuer artistAddress issuer metadataCID
        lockExternalTransfer) =
      if lockExternalTransfer = true then (ledger minted).setLock tokenId true
      else (ledger minted).resetLock tokenId := by
  have flags : (fun other => (minted._boolStorage.set tokenId ._SRR ._LOCK_EXTERNAL_TRANSFER
      lockExternalTransfer).set tokenId ._SRR ._IS_PRIMARY_ISSUER isPrimaryIssuer other ._SRR
        ._LOCK_EXTERNAL_TRANSFER) =
      Function.update (fun other => minted._boolStorage other ._SRR ._LOCK_EXTERNAL_TRANSFER)
        tokenId lockExternalTransfer := by
    funext other
    by_cases same : other = tokenId
    · simp [same, Storage.set_apply]
    · simp [same, Storage.set_apply]
  unfold ledger State.recorded _saveSRR State.emit
  rw [flags]
  cases lockExternalTransfer with
  | true => rfl
  | false => rfl

theorem createSRR_ledger {isPrimaryIssuer lockExternalTransfer : Bool}
    {artistAddress issuer royaltyReceiver : Address} (to_ : Address) {metadataCID : Bytes}
    {royaltyBasisPoints : Uint16} {tokenId : Uint256}
    (created : _createSRR deployment state isPrimaryIssuer artistAddress metadataCID issuer
      lockExternalTransfer royaltyReceiver royaltyBasisPoints = .ok (state', tokenId)) :
    generate deployment.evm metadataCID artistAddress = tokenId ∧
      state._tokenOwner tokenId = 0 ∧ issuer ≠ 0 ∧
      ledger state' =
        Birth.minted ⟨tokenId, issuer, lockExternalTransfer, to_⟩ (ledger state) := by
  obtain ⟨generated, minted, mint, aside⟩ := createSRR_aside created
  obtain ⟨absent, recipient, entered⟩ := mint_ledger mint
  refine ⟨generated, absent, recipient, ?_⟩
  rw [aside.ledger, recorded_ledger, entered]
  cases lockExternalTransfer with
  | true => rfl
  | false => rfl

theorem createSRRFor_ledger {isPrimaryIssuer lockExternalTransfer : Bool}
    {artistAddress issuer to_ royaltyReceiver : Address} {metadataCID : Bytes}
    {royaltyBasisPoints : Uint16} {tokenId : Uint256}
    (created : createSRRFor deployment state isPrimaryIssuer artistAddress metadataCID issuer
      lockExternalTransfer to_ royaltyReceiver royaltyBasisPoints = .ok (state', tokenId)) :
    generate deployment.evm metadataCID artistAddress = tokenId ∧
      state._tokenOwner tokenId = 0 ∧ issuer ≠ 0 ∧
      ledger state' =
        Birth.entered ⟨tokenId, issuer, lockExternalTransfer, to_⟩ (ledger state) := by
  obtain ⟨middle, first, ending⟩ := createSRRFor_accepted created
  obtain ⟨generated, absent, recipient, minted⟩ := createSRR_ledger to_ first
  unfold Birth.entered
  rcases ending with ⟨passed, moved⟩ | ⟨kept, rfl⟩
  · obtain ⟨_, _, _, entered⟩ := transfer_ledger moved
    exact ⟨generated, absent, recipient, by rw [entered, minted, if_pos passed]⟩
  · exact ⟨generated, absent, recipient, by rw [minted, if_neg (not_not.mpr kept)]⟩

theorem approveSRRByCommitment_ledger {tokenId customHistoryId : Uint256} {commitment : Bytes32}
    {historyMetadataHash : Bytes}
    (approved : _approveSRRByCommitment state tokenId commitment historyMetadataHash
      customHistoryId = .ok state') : ledger state' = ledger state := by
  have prior : ledger (cancelPriorApproval state tokenId) = ledger state := by
    unfold cancelPriorApproval
    split
    · rfl
    · rfl
  obtain ⟨_, _, rfl, ⟨_, rfl⟩ | ⟨_, rfl⟩⟩ := approveSRRByCommitment_accepted approved
  · exact prior
  · exact prior

theorem provenance_posting {call : Call} {from_ to_ : Address} {tokenId : Uint256}
    {historyMetadataHash : Bytes} {customHistoryId : Uint256} {isIntermediary : Bool}
    (owned : ownerOf state tokenId = .ok from_)
    (moved : _transfer (_historyProvenance state tokenId from_ to_ historyMetadataHash
      customHistoryId isIntermediary) from_ to_ tokenId = .ok state')
    (handover : call.handover = some (tokenId, to_)) :
    Posting deployment msg state call (ledger state') := by
  obtain ⟨_, rfl⟩ := ownerOf_eq_ok.mp owned
  obtain ⟨owned, _, recipient, entered⟩ := transfer_ledger moved
  rw [entered]
  exact .hand handover owned recipient

theorem externalTransferNotLocked_eq_ok {tokenId : Uint256} {u : Unit} :
    externalTransferNotLocked state tokenId = .ok u ↔ (ledger state).locked tokenId = false := by
  simp only [externalTransferNotLocked, require_eq_ok, ledger]

theorem external_aside {call : Call} (aside : call.aside = true) : call.external = none := by
  cases call <;> first | rfl | cases aside

theorem Accepted.unlocked {call : Call} {tokenId : Uint256}
    (accepted : Accepted deployment world msg state call state')
    (external : call.external = some tokenId) : (ledger state).locked tokenId = false := by
  cases accepted with
  | transferFrom unlocked _ _ =>
      cases external
      exact externalTransferNotLocked_eq_ok.mp unlocked
  | safeTransferFrom unlocked _ _ =>
      cases external
      exact externalTransferNotLocked_eq_ok.mp unlocked
  | approve unlocked _ _ _ =>
      cases external
      exact externalTransferNotLocked_eq_ok.mp unlocked
  | aside aside _ => cases (external_aside aside).symm.trans external
  | _ => cases external

theorem posts_aside {call : Call} (aside : call.aside = true) : call.posts = false := by
  cases call <;> first | rfl | cases aside

theorem Accepted.posting {call : Call}
    (accepted : Accepted deployment world msg state call state') :
    Posting deployment msg state call (ledger state') := by
  cases accepted with
  | aside aside same => exact .silent (posts_aside aside) same.ledger
  | createSRRFromLicensedUser _ creates =>
      obtain ⟨rfl, absent, issuer, entered⟩ := createSRRFor_ledger creates
      rw [entered]
      exact .create rfl absent issuer
  | createSRRFromBulk _ creates =>
      obtain ⟨rfl, absent, issuer, entered⟩ := createSRRFor_ledger creates
      rw [entered]
      exact .create rfl absent issuer
  | approveSRRByCommitmentFromBulk _ _ approved =>
      exact .silent rfl (approveSRRByCommitment_ledger approved)
  | approveSRRByCommitment _ approved =>
      exact .silent rfl (approveSRRByCommitment_ledger approved)
  | approveSRRByCommitmentWithHistory _ _ approved =>
      exact .silent rfl (approveSRRByCommitment_ledger approved)
  | cancelSRRCommitment _ => exact .silent rfl rfl
  | transferSRRByReveal revealed =>
      obtain ⟨_, _, moved⟩ := transferSRRByReveal_accepted revealed
      obtain ⟨owned, _, recipient, entered⟩ := transfer_ledger moved
      rw [entered]
      exact .reveal owned recipient
  | addHistory _ _ _ _ => exact .silent rfl rfl
  | writeCustomHistory _ _ _ => exact .silent rfl rfl
  | updateCustomHistory _ _ _ =>
      refine .silent rfl ((ledger_emit rfl).trans ?_)
      split
      · rfl
      · rfl
  | transferFrom _ _ moved =>
      obtain ⟨owned, rfl, recipient, entered⟩ := transfer_ledger moved
      rw [entered]
      exact .hand rfl owned recipient
  | safeTransferFrom _ _ moved =>
      obtain ⟨owned, rfl, recipient, entered⟩ := transfer_ledger moved
      rw [entered]
      exact .hand rfl owned recipient
  | transferFromWithProvenance _ owned moved => exact provenance_posting owned moved rfl
  | transferFromWithProvenanceFromBulk _ _ owned moved => exact provenance_posting owned moved rfl
  | approve _ owned _ _ =>
      obtain ⟨exists_, rfl⟩ := ownerOf_eq_ok.mp owned
      exact .approve exists_
  | @setLockExternalTransfer tokenId flag _ owned =>
      have entered : ledger ({ state with
          _boolStorage := state._boolStorage.set tokenId ._SRR ._LOCK_EXTERNAL_TRANSFER flag }.emit
            (.LockExternalTransfer tokenId flag)) = (ledger state).setLock tokenId flag := by
        unfold ledger Ledger.setLock
        congr 1
        funext other
        by_cases same : other = tokenId
        · simp [State.emit, same, Storage.set_apply]
        · simp [State.emit, same, Storage.set_apply]
      rw [entered]
      exact .setLock (exists_iff.mp owned)

theorem Runs.ledger {middle : State} {msg' : Msg} {call call' : Call}
    (runs : Runs deployment state msg call middle msg' call') :
    ledger middle = ledger state := by
  induction runs with
  | direct state msg call => rfl
  | wrapped accepted dispatched _ ih =>
      rw [ih]
      simp only [acceptMetaTransaction, bind_eq_ok, pure_eq_ok] at accepted
      obtain ⟨_, _, _, _, _, _, rfl⟩ := accepted
      rfl

theorem perform_posting {depth : Nat} {call : Call}
    (ran : (perform deployment world depth msg call state).front = some state') :
    ∃ middle msg' call', Runs deployment state msg call middle msg' call' ∧
      Posting deployment msg' middle call' (ledger state') := by
  obtain ⟨middle, msg', call', runs, accepted⟩ := perform_accepted ran
  exact ⟨middle, msg', call', runs, accepted.posting⟩

end Entries

section Accounts

theorem Birth.minted_posts (birth : Birth) (state : State)
    (absent : state._tokenOwner birth.tokenId = 0) (issuer : birth.issuer ≠ 0) :
    Relation.ReflTransGen (Ledger.Post 0) (ledger state) (birth.minted (ledger state)) := by
  unfold Birth.minted
  split
  · exact .tail (.single (.setLock birth.tokenId true)) (.mint _ _ absent issuer)
  · exact .tail (.single (.resetLock birth.tokenId)) (.mint _ _ absent issuer)

theorem Birth.minted_owner (birth : Birth) (before : Ledger Uint256 Address ℤ) :
    (birth.minted before).owner = Function.update before.owner birth.tokenId birth.issuer := by
  unfold Birth.minted
  split
  · rfl
  · rfl

theorem Birth.minted_approved (birth : Birth) (before : Ledger Uint256 Address ℤ) :
    (birth.minted before).approved = before.approved := by
  unfold Birth.minted
  split
  · rfl
  · rfl

theorem Birth.posts (birth : Birth) (state : State)
    (absent : state._tokenOwner birth.tokenId = 0) (issuer : birth.issuer ≠ 0) :
    Relation.ReflTransGen (Ledger.Post 0) (ledger state) (birth.entered (ledger state)) := by
  have minted := birth.minted_posts state absent issuer
  have given : (birth.minted (ledger state)).owner birth.tokenId = birth.issuer := by
    rw [birth.minted_owner, Function.update_self]
  unfold Birth.entered
  split
  · have passed : Ledger.Post 0 (birth.minted (ledger state)) _ :=
      .pass birth.to_ birth.tokenId (given ▸ issuer)
    rw [given] at passed
    exact minted.tail passed
  · exact minted

theorem Posting.posts {call : Call} {entered : Ledger Uint256 Address ℤ}
    (posting : Posting deployment msg state call entered) :
    Relation.ReflTransGen (Ledger.Post 0) (ledger state) entered := by
  cases posting with
  | quiet _ => exact .refl
  | @create _ birth _ absent issuer => exact birth.posts state absent issuer
  | hand _ owned _ => exact .single (.pass _ _ owned)
  | reveal owned _ => exact .single (.pass _ _ owned)
  | approve owned => exact .single (.approve _ _ owned)
  | setLock owned => exact .single (.setLock _ _)

theorem Birth.entered_owner (birth : Birth) (before : Ledger Uint256 Address ℤ)
    (issuer : birth.issuer ≠ 0) : ∃ owner, owner ≠ 0 ∧
      (birth.entered before).owner = Function.update before.owner birth.tokenId owner := by
  unfold Birth.entered
  split
  · rename_i recipient
    refine ⟨birth.to_, recipient, ?_⟩
    simp [Ledger.pass, birth.minted_owner]
  · exact ⟨birth.issuer, issuer, birth.minted_owner before⟩

theorem Birth.entered_approved (birth : Birth) (before : Ledger Uint256 Address ℤ)
    (unapproved : before.approved birth.tokenId = 0) :
    (birth.entered before).approved birth.tokenId = 0 := by
  unfold Birth.entered
  split
  · simp [Ledger.pass]
  · rw [birth.minted_approved, unapproved]

theorem Posting.owner {call : Call} {entered : Ledger Uint256 Address ℤ}
    (posting : Posting deployment msg state call entered)
    (unapproved : ∀ tokenId, state._tokenOwner tokenId = 0 → state._tokenApprovals tokenId = 0)
    (tokenId : Uint256) :
    entered.owner tokenId = state._tokenOwner tokenId ∨
      (entered.owner tokenId ≠ 0 ∧ entered.approved tokenId = 0) := by
  have passed : ∀ (token : Uint256) (to_ : Address), to_ ≠ 0 →
      ((ledger state).pass 0 (state._tokenOwner token) to_ token).owner tokenId =
          state._tokenOwner tokenId ∨
        (((ledger state).pass 0 (state._tokenOwner token) to_ token).owner tokenId ≠ 0 ∧
          ((ledger state).pass 0 (state._tokenOwner token) to_ token).approved tokenId = 0) := by
    intro token to_ recipient
    by_cases same : tokenId = token
    · subst same
      exact Or.inr (by simpa [Ledger.pass] using recipient)
    · exact Or.inl (by simp [Ledger.pass, same, ledger])
  cases posting with
  | quiet _ => exact Or.inl rfl
  | @create _ birth _ absent issuer =>
      obtain ⟨owner, someone, owners⟩ := birth.entered_owner (ledger state) issuer
      by_cases same : tokenId = birth.tokenId
      · subst same
        refine Or.inr ⟨?_, birth.entered_approved _ (unapproved _ absent)⟩
        rwa [owners, Function.update_self]
      · refine Or.inl ?_
        rw [owners, Function.update_of_ne same]
        rfl
  | hand _ _ recipient => exact passed _ _ recipient
  | reveal _ recipient => exact passed _ _ recipient
  | approve _ => exact Or.inl rfl
  | setLock _ => exact Or.inl rfl

def balanceOf (state : State) (owner : Address) : Result Uint256 := do
  require (owner ≠ 0) "ERC721: balance query for the zero address"
  pure (state._ownedTokensCount owner)

/-- The books balance: `balanceOf` counts the tokens of an account, and a token that does not
exist has no approved address. -/
structure Accounted (state : State) : Prop where
  balance : ∀ account balance, balanceOf state account = .ok balance →
    balance.toNat = {tokenId | ownerOf state tokenId = .ok account}.ncard
  unapproved : ∀ tokenId, state._tokenOwner tokenId = 0 → state._tokenApprovals tokenId = 0

theorem accounted_iff : Accounted state ↔ (ledger state).Balanced 0 := by
  have owned : ∀ account : Address, account ≠ 0 →
      {tokenId | ownerOf state tokenId = .ok account} =
        {tokenId | (ledger state).owner tokenId = account} := by
    intro account someone
    ext tokenId
    simp only [Set.mem_ofPred_eq, ownerOf_eq_ok, owned_iff, ledger]
    constructor
    · exact And.right
    · rintro rfl
      exact ⟨someone, rfl⟩
  constructor
  · rintro ⟨balance, unapproved⟩
    refine ⟨?_, unapproved⟩
    intro account someone
    have asked : balanceOf state account = .ok (state._ownedTokensCount account) := by
      simp only [balanceOf, bind_eq_ok, require_eq_ok, pure_eq_ok]
      exact ⟨(), someone, trivial⟩
    have counted := balance account _ asked
    rw [owned account someone] at counted
    exact congrArg Nat.cast counted
  · rintro ⟨counted, unapproved⟩
    refine ⟨?_, unapproved⟩
    intro account balance asked
    simp only [balanceOf, bind_eq_ok, require_eq_ok, pure_eq_ok] at asked
    obtain ⟨_, someone, rfl⟩ := asked
    rw [owned account someone]
    exact Int.ofNat_inj.mp (counted account someone)

/-- The states, senders and tokens that a direct call passes to `_transfer`. -/
inductive Passes (deployment : Deployment) (msg : Msg) (state : State) :
    Call → State → Address → Uint256 → Prop
  | transferFrom (from_ to_ : Address) (tokenId : Uint256) :
      Passes deployment msg state (.transferFrom from_ to_ tokenId) state from_ tokenId
  | safeTransferFrom (from_ to_ : Address) (tokenId : Uint256) (_data : Bytes) :
      Passes deployment msg state (.safeTransferFrom from_ to_ tokenId _data) state from_ tokenId
  | transferFromWithProvenance {from_ : Address} {tokenId : Uint256} (to_ : Address)
      (historyMetadataHash : Bytes) (customHistoryId : Uint256) (isIntermediary : Bool) :
      ownerOf state tokenId = .ok from_ → Passes deployment msg state
        (.transferFromWithProvenance to_ tokenId historyMetadataHash customHistoryId isIntermediary)
        (_historyProvenance state tokenId from_ to_ historyMetadataHash customHistoryId
          isIntermediary) from_ tokenId
  | transferFromWithProvenanceFromBulk {from_ : Address} {tokenId : Uint256} (signer to_ : Address)
      (historyMetadataHash : Bytes) (customHistoryId : Uint256) (isIntermediary : Bool) :
      ownerOf state tokenId = .ok from_ → Passes deployment msg state
        (.transferFromWithProvenanceFromBulk signer to_ tokenId historyMetadataHash customHistoryId
          isIntermediary)
        (_historyProvenance state tokenId from_ to_ historyMetadataHash customHistoryId
          isIntermediary) from_ tokenId
  | transferSRRByReveal {from_ : Address} {tokenId : Uint256} {approval : Approval} (to_ : Address)
      (reveal : Bytes32) (isIntermediary : Bool) :
      getSRRCommitment state tokenId = .ok approval → ownerOf state tokenId = .ok from_ →
      Passes deployment msg state (.transferSRRByReveal to_ reveal tokenId isIntermediary)
        (_clearSRRCommitment (_historyProvenance state tokenId from_ to_
          approval.historyMetadataHash approval.customHistoryId isIntermediary) tokenId)
        from_ tokenId
  | createSRRFromLicensedUser {isPrimaryIssuer lockExternalTransfer : Bool}
      {artistAddress to_ royaltyReceiver : Address} {metadataCID : Bytes}
      {royaltyBasisPoints : Uint16} {middle : State} {tokenId : Uint256} :
      _createSRR deployment state isPrimaryIssuer artistAddress metadataCID (sender msg state)
        lockExternalTransfer royaltyReceiver royaltyBasisPoints = .ok (middle, tokenId) →
      Passes deployment msg state
        (.createSRRFromLicensedUser isPrimaryIssuer artistAddress metadataCID lockExternalTransfer
          to_ royaltyReceiver royaltyBasisPoints) middle (sender msg state) tokenId
  | createSRRFromBulk {isPrimaryIssuer lockExternalTransfer : Bool}
      {artistAddress issuerAddress to_ royaltyReceiver : Address} {metadataCID : Bytes}
      {royaltyBasisPoints : Uint16} {middle : State} {tokenId : Uint256} :
      _createSRR deployment state isPrimaryIssuer artistAddress metadataCID issuerAddress
        lockExternalTransfer royaltyReceiver royaltyBasisPoints = .ok (middle, tokenId) →
      Passes deployment msg state
        (.createSRRFromBulk isPrimaryIssuer artistAddress metadataCID issuerAddress
          lockExternalTransfer to_ royaltyReceiver royaltyBasisPoints) middle issuerAddress tokenId

theorem createSRR_balanced {isPrimaryIssuer lockExternalTransfer : Bool}
    {artistAddress issuer royaltyReceiver : Address} {metadataCID : Bytes}
    {royaltyBasisPoints : Uint16} {tokenId : Uint256}
    (created : _createSRR deployment state isPrimaryIssuer artistAddress metadataCID issuer
      lockExternalTransfer royaltyReceiver royaltyBasisPoints = .ok (state', tokenId))
    (balanced : (ledger state).Balanced 0) : (ledger state').Balanced 0 := by
  obtain ⟨_, absent, recipient, minted⟩ := createSRR_ledger 0 created
  rw [minted]
  exact balanced.posts (Birth.minted_posts ⟨tokenId, issuer, _, 0⟩ state absent recipient)

theorem Passes.balanced {call : Call} {passed : State} {from_ : Address} {tokenId : Uint256}
    (passes : Passes deployment msg state call passed from_ tokenId)
    (balanced : (ledger state).Balanced 0) : (ledger passed).Balanced 0 := by
  cases passes with
  | createSRRFromLicensedUser created => exact createSRR_balanced created balanced
  | createSRRFromBulk created => exact createSRR_balanced created balanced
  | _ => exact balanced

theorem balanced_count {from_ : Address} {tokenId : Uint256}
    (balanced : (ledger state).Balanced 0) (owner : ownerOf state tokenId = .ok from_) :
    0 < (state._ownedTokensCount from_).toNat := by
  obtain ⟨owned, rfl⟩ := ownerOf_eq_ok.mp owner
  have positive := Ledger.held_pos state._tokenOwner tokenId
  have counted : ((state._ownedTokensCount (state._tokenOwner tokenId)).toNat : ℤ) =
      (Ledger.held state._tokenOwner (state._tokenOwner tokenId) : Nat) :=
    balanced.counted _ owned
  omega

theorem perform_balanced {depth : Nat} {call : Call}
    (ran : (perform deployment world depth msg call state).front = some state')
    (balanced : (ledger state).Balanced 0) :
    (ledger state').Balanced 0 ∧ ∀ tokenId, state'._tokenOwner tokenId = state._tokenOwner tokenId ∨
      (state'._tokenOwner tokenId ≠ 0 ∧ state'._tokenApprovals tokenId = 0) := by
  obtain ⟨middle, msg', call', runs, posting⟩ := perform_posting ran
  rw [← runs.ledger] at balanced
  refine ⟨balanced.posts posting.posts, ?_⟩
  intro tokenId
  have owner := posting.owner balanced.unapproved tokenId
  have same : middle._tokenOwner = state._tokenOwner := congrArg Ledger.owner runs.ledger
  rwa [same] at owner

theorem registry_accounting (deployment : Deployment) (origin : State)
    (accounted : Accounted origin) (config : Config Revert State Query Reply Transaction)
    (reach : Reach (entry deployment) (fun _ _ => True) origin config) :
    Accounted config.now.state ∧
      (∀ tokenId, origin._tokenOwner tokenId ≠ 0 → config.now.state._tokenOwner tokenId ≠ 0) ∧
      ∀ transaction, (entry deployment transaction config.now.state).Trailing ∧
        (∀ state', (entry deployment transaction config.now.state).front = some state' →
          ∀ tokenId,
            (config.now.state._tokenOwner tokenId ≠ 0 → state'._tokenOwner tokenId ≠ 0) ∧
            (state'._tokenOwner tokenId ≠ config.now.state._tokenOwner tokenId →
              getApproved state' tokenId = .ok 0)) ∧
        ∀ middle msg call passed from_ tokenId,
          Runs deployment config.now.state transaction.msg transaction.call middle msg call →
          Passes deployment msg middle call passed from_ tokenId →
          ownerOf passed tokenId = .ok from_ → 0 < (passed._ownedTokensCount from_).toNat := by
  have trailing : ∀ transaction state, (entry deployment transaction state).Trailing :=
    fun transaction => perform_trailing _ _ _
  have everywhere : ∀ {config}, Reach (entry deployment) (fun _ _ => True) origin config →
      (ledger config.now.state).Balanced 0 := by
    intro config reach
    refine reach.invariant (fun state => (ledger state).Balanced 0) (accounted_iff.mp accounted) ?_
    intro transaction state _ balanced
    exact (trailing transaction state).keeps fun state' ran => (perform_balanced ran balanced).1
  have balanced := everywhere reach
  refine ⟨accounted_iff.mpr balanced, ?_, ?_⟩
  · intro tokenId owned
    refine (reach.invariant (fun state => (ledger state).Balanced 0 ∧
      state._tokenOwner tokenId ≠ 0) ⟨accounted_iff.mp accounted, owned⟩ ?_).2
    intro transaction state _ kept
    refine (trailing transaction state).keeps fun state' ran => ?_
    obtain ⟨balanced', owners⟩ := perform_balanced ran kept.1
    rcases owners tokenId with same | moved
    · exact ⟨balanced', same ▸ kept.2⟩
    · exact ⟨balanced', moved.1⟩
  · intro transaction
    refine ⟨trailing transaction _, ?_, ?_⟩
    · intro state' ran tokenId
      rcases (perform_balanced ran balanced).2 tokenId with same | ⟨owned, cleared⟩
      · exact ⟨fun owned => same ▸ owned, fun changed => absurd same changed⟩
      · exact ⟨fun _ => owned, fun _ => getApproved_eq_ok.mpr ⟨owned, cleared⟩⟩
    · intro middle msg call passed from_ tokenId runs passes owner
      rw [← runs.ledger] at balanced
      exact balanced_count (passes.balanced balanced) owner

theorem State.blank_accounted : Accounted State.blank := by
  rw [accounted_iff]
  refine ⟨?_, fun _ _ => rfl⟩
  intro account someone
  have nothing : {tokenId | (ledger State.blank).owner tokenId = account} = ∅ := by
    ext tokenId
    simp only [Set.mem_ofPred_eq, Set.mem_empty_iff_false, iff_false]
    exact fun owned => someone owned.symm
  have counted : (ledger State.blank).count account = 0 := rfl
  rw [counted, Ledger.held, nothing, Set.ncard_empty]
  rfl

def soldRun : Config Revert State Query Reply Transaction :=
  let enter := Config.enter (entry sampleDeployment)
  enter (sampleCall 0xa11ce (.transferFrom 0xa11ce 0xb0b recordId))
    (enter (sampleCall 0xb17c (.createSRRFromBulk true 0xa271 (ascii "Qm") 0xa11ce false 0 0 0))
      (.start State.blank))

set_option maxRecDepth 8000 in
theorem soldRun_accounted :
    Accounted soldRun.now.state ∧ ownerOf soldRun.now.state recordId = .ok 0xb0b ∧
      balanceOf soldRun.now.state 0xb0b = .ok 1 ∧ balanceOf soldRun.now.state 0xa11ce = .ok 0 := by
  have reach : Reach (entry sampleDeployment) (fun _ _ => True) State.blank soldRun :=
    .enter _ (.enter _ .start trivial) trivial
  obtain ⟨accounted, _⟩ :=
    registry_accounting sampleDeployment State.blank State.blank_accounted soldRun reach
  exact ⟨accounted, by rfl, by rfl, by rfl⟩

end Accounts

end Startrail.Registry
