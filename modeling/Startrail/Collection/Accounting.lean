import Startrail.Library.TokenLedger
import Startrail.Collection.Tokens

/-!
The ERC721 bookkeeping of a collection. The counts are words: the code of the features
does unchecked arithmetic on them and trusts what its callers say about the owner of a
token. `Posting` is what each call enters into the accounts, with what it has checked
about its sender.
-/

namespace Startrail.Collection

-- The events that set a lock flag. A record created without a lock sets none.
def setting : Event → Option (Uint256 × Bool)
  | .LockExternalTransferSetLock tokenId flag => some (tokenId, flag)
  | .CreateSRR tokenId _ _ lockExternalTransfer =>
      if lockExternalTransfer = true then some (tokenId, true) else none
  | _ => none

def isCreation : Event → Bool
  | .CreateSRR _ _ _ _ => true
  | _ => false

def ledger (state : State) : Ledger Uint256 Address Uint256 where
  owner := state.erc721.ownerOf
  count := state.erc721.balanceOf
  approved := state.erc721.getApproved
  locked := state.tokenIdToLockFlag
  settings := state.logs.filterMap setting

/-- The ledger, the operators, and how many records were created. -/
structure Accounts where
  ledger : Ledger Uint256 Address Uint256
  operators : Address → Address → Bool
  created : Nat

def accounts (state : State) : Accounts where
  ledger := ledger state
  operators := state.erc721.isApprovedForAll
  created := state.logs.countP isCreation

/-- A record to be created, which is passed on if `to_` is given. -/
structure Birth where
  tokenId : Uint256
  record : SRR
  metadataCID : Bytes
  lockExternalTransfer : Bool
  to_ : Address

def Birth.minted (birth : Birth) (before : Ledger Uint256 Address Uint256) :
    Ledger Uint256 Address Uint256 :=
  let flagged := if birth.lockExternalTransfer = true then before.setLock birth.tokenId true
    else before
  flagged.mint birth.record.issuer birth.tokenId

def Birth.entered (birth : Birth) (before : Ledger Uint256 Address Uint256) :
    Ledger Uint256 Address Uint256 :=
  if birth.to_ ≠ 0 then (birth.minted before).pass 0 birth.record.issuer birth.to_ birth.tokenId
  else birth.minted before

/-- The token of the calls that move or approve it by ERC721 means. -/
def Call.external : Call → Option Uint256
  | .transferFrom _ _ id => some id
  | .safeTransferFrom _ _ id _ => some id
  | .approve _ id => some id
  | _ => none

def Call.posts : Call → Bool
  | .createSRR .. | .createSRRFromBulk .. | .transferFrom .. | .safeTransferFrom .. | .approve ..
  | .setApprovalForAll .. | .transferFromWithProvenance ..
  | .transferFromWithProvenanceFromBulk .. | .transferSRRByReveal ..
  | .setLockExternalTransfer .. => true
  | _ => false

section Authority

variable (evm : Evm) (world : World) (msg : Msg) (state : State)

def FromBulk : Prop := msg.sender = (world.nameRegistry (getNameRegistry world state)).get BULK

/-- The calls that hand a token over without a reveal, each with what it has checked. -/
inductive Hands (tokenId : Uint256) (to_ : Address) : Call → Prop
  | transferFrom (from_ : Address) : MayTransfer msg state tokenId → to_ ≠ 0 →
      Hands tokenId to_ (.transferFrom from_ to_ tokenId)
  | safeTransferFrom (from_ : Address) (data : Bytes) : MayTransfer msg state tokenId → to_ ≠ 0 →
      Hands tokenId to_ (.safeTransferFrom from_ to_ tokenId data)
  | transferFromWithProvenance (historyMetadataHash : Bytes) (customHistoryId : Uint256)
      (isIntermediary : Bool) : state.erc721.ownerOf tokenId ≠ 0 →
      sender world msg state = state.owner ∨
        sender world msg state = state.erc721.ownerOf tokenId →
      Hands tokenId to_ (.transferFromWithProvenance to_ tokenId historyMetadataHash
        customHistoryId isIntermediary)
  | transferFromWithProvenanceFromBulk (signer : Address) (historyMetadataHash : Bytes)
      (customHistoryId : Uint256) (isIntermediary : Bool) :
      state.erc721.ownerOf tokenId ≠ 0 → FromBulk world msg state →
      signer = state.owner ∨ signer = state.erc721.ownerOf tokenId →
      Hands tokenId to_ (.transferFromWithProvenanceFromBulk signer to_ tokenId
        historyMetadataHash customHistoryId isIntermediary)

/-- The calls that create a record, each with what it has checked. -/
inductive Creates (birth : Birth) : Call → Prop
  | createSRR (royaltyReceiver : Address) (royaltyBasisPoints : Uint16) :
      birth.tokenId = generate evm birth.metadataCID birth.record.artist →
      msg.sender = trustedForwarder world state → sender world msg state = state.owner →
      birth.record.issuer = state.owner →
      Creates birth (.createSRR birth.record.isPrimaryIssuer birth.record.artist birth.metadataCID
        birth.lockExternalTransfer birth.to_ royaltyReceiver royaltyBasisPoints)
  | createSRRFromBulk (royaltyReceiver : Address) (royaltyBasisPoints : Uint16) :
      birth.tokenId = generate evm birth.metadataCID birth.record.artist →
      FromBulk world msg state → birth.record.issuer = state.owner →
      Creates birth (.createSRRFromBulk birth.record.isPrimaryIssuer birth.record.artist
        birth.metadataCID birth.record.issuer birth.lockExternalTransfer birth.to_ royaltyReceiver
        royaltyBasisPoints)

end Authority

section Posting

variable (evm : Evm) (world : World) (msg : Msg) (state : State)

/-- What each call enters into the accounts. -/
inductive Posting : Call → Accounts → Prop
  | quiet {call : Call} : call.posts = false → Posting call (accounts state)
  | create {call : Call} {birth : Birth} : Creates evm world msg state birth call →
      state.erc721.ownerOf birth.tokenId = 0 → birth.record.issuer ≠ 0 →
      Posting call { accounts state with
        ledger := birth.entered (ledger state)
        created := (accounts state).created + 1 }
  | hand {call : Call} {tokenId : Uint256} {to_ : Address} :
      Hands world msg state tokenId to_ call →
      Posting call { accounts state with
        ledger := (ledger state).pass 0 (state.erc721.ownerOf tokenId) to_ tokenId }
  | reveal {to_ : Address} {reveal : Bytes32} {tokenId : Uint256} {isIntermediary : Bool} :
      state.erc721.ownerOf tokenId ≠ 0 →
      evm.keccak256 (packWord reveal) = (state.approvals tokenId).commitment →
      Posting (.transferSRRByReveal to_ reveal tokenId isIntermediary) { accounts state with
        ledger := (ledger state).pass 0 (state.erc721.ownerOf tokenId) to_ tokenId }
  | approve {spender : Address} {tokenId : Uint256} :
      msg.sender = state.erc721.ownerOf tokenId ∨
        state.erc721.isApprovedForAll (state.erc721.ownerOf tokenId) msg.sender = true →
      Posting (.approve spender tokenId) { accounts state with
        ledger := (ledger state).approve spender tokenId }
  | allow {operator : Address} {approved : Bool} :
      Posting (.setApprovalForAll operator approved) { accounts state with
        operators := update₂ state.erc721.isApprovedForAll msg.sender operator approved }
  | setLock {tokenId : Uint256} {flag : Bool} : state.erc721.ownerOf tokenId ≠ 0 →
      Posting (.setLockExternalTransfer tokenId flag) { accounts state with
        ledger := (ledger state).setLock tokenId flag }

end Posting

variable {evm : Evm} {world : World} {msg : Msg} {state state' : State}

section Entries

theorem Posting.silent {call : Call} (silent : call.posts = false)
    (same : accounts state' = accounts state) :
    Posting evm world msg state call (accounts state') := by
  rw [same]
  exact .quiet silent

theorem accounts_emit {event : Event} (unset : setting event = none)
    (recorded : isCreation event = false) : accounts (state.emit event) = accounts state := by
  simp [accounts, ledger, State.emit, unset, recorded]

theorem Aside.accounts (aside : Aside state state') : accounts state' = accounts state := by
  have settings : state'.logs.filterMap setting = state.logs.filterMap setting := by
    apply aside.filterMap
    intro event quiet
    cases event <;> first | rfl | cases quiet
  have created : state'.logs.countP isCreation = state.logs.countP isCreation := by
    apply aside.countP
    intro event quiet
    cases event <;> first | rfl | cases quiet
  unfold Collection.accounts ledger
  rw [settings, created, aside.owners, aside.balances, aside.approved, aside.operators, aside.locks]

theorem mint_accounts {to_ : Address} {id : Uint256} (minted : _mint state to_ id = .ok state') :
    state.erc721.ownerOf id = 0 ∧ to_ ≠ 0 ∧
      accounts state' = { accounts state with ledger := (ledger state).mint to_ id } := by
  obtain ⟨unowned, recipient, rfl⟩ := mint_accepted minted
  exact ⟨unowned, recipient, rfl⟩

theorem transferFrom_accounts (from_ to_ : Address) (id : Uint256) :
    accounts (_transferFrom state from_ to_ id) =
      { accounts state with ledger := (ledger state).pass 0 from_ to_ id } := rfl

theorem recorded_accounts (minted : State) (tokenId : Uint256) (record : SRR)
    (metadataCID : Bytes) (lockExternalTransfer : Bool) :
    accounts (minted.recorded tokenId record metadataCID lockExternalTransfer) =
      { accounts minted with
      ledger := if lockExternalTransfer = true then (ledger minted).setLock tokenId true
        else ledger minted
      created := (accounts minted).created + 1 } := by
  have recorded : (Event.CreateSRR tokenId record metadataCID lockExternalTransfer ::
      minted.logs).countP isCreation = minted.logs.countP isCreation + 1 :=
    List.countP_cons_of_pos rfl
  cases lockExternalTransfer with
  | true =>
      simp only [State.recorded, lockIf, if_true, State.emit, accounts, recorded]
      rfl
  | false =>
      simp only [State.recorded, lockIf, Bool.false_eq_true, if_false, State.emit, accounts,
        recorded]
      rfl

theorem createRecord_accounts {isPrimaryIssuer lockExternalTransfer fromBulk : Bool}
    {artistAddress issuerAddress royaltyReceiver : Address} (to_ : Address) {metadataCID : Bytes}
    {royaltyBasisPoints : Uint16} {tokenId : Uint256}
    (creates : createRecord evm world msg state isPrimaryIssuer artistAddress metadataCID
      issuerAddress lockExternalTransfer royaltyReceiver royaltyBasisPoints fromBulk =
        .ok (state', tokenId)) :
    tokenId = generate evm metadataCID artistAddress ∧ state.erc721.ownerOf tokenId = 0 ∧
      issuerAddress ≠ 0 ∧
      (fromBulk = false → msg.sender = trustedForwarder world state ∧
        sender world msg state = state.owner) ∧
      accounts state' = { accounts state with
        ledger := Birth.minted ⟨tokenId, ⟨isPrimaryIssuer, artistAddress, issuerAddress⟩,
          metadataCID, lockExternalTransfer, to_⟩ (ledger state)
        created := (accounts state).created + 1 } := by
  obtain ⟨generated, admitted, _, minted, mints, rfl⟩ := createRecord_accepted creates
  obtain ⟨unowned, recipient, entered⟩ := mint_accounts mints
  have same : ledger minted = (ledger state).mint issuerAddress tokenId :=
    congrArg Accounts.ledger entered
  refine ⟨generated, unowned, recipient, admitted, ?_⟩
  rw [(upsertRoyalty_aside _ _ _ _).accounts, recorded_accounts, same, entered]
  unfold Birth.minted
  cases lockExternalTransfer with
  | true => rfl
  | false => rfl

theorem upsertRoyalty_stored (state : State) (tokenId : Uint256) (royaltyReceiver : Address)
    (royaltyBasisPoints : Uint16) :
    (upsertRoyalty state tokenId royaltyReceiver royaltyBasisPoints).srrs = state.srrs ∧
      (upsertRoyalty state tokenId royaltyReceiver royaltyBasisPoints).metadata =
        state.metadata := by
  unfold upsertRoyalty
  split
  · exact ⟨rfl, rfl⟩
  · exact ⟨rfl, rfl⟩

theorem lockIf_stored (state : State) (tokenId : Uint256) (lockExternalTransfer : Bool) :
    (lockIf state tokenId lockExternalTransfer).srrs = state.srrs ∧
      (lockIf state tokenId lockExternalTransfer).metadata = state.metadata := by
  unfold lockIf
  split
  · exact ⟨rfl, rfl⟩
  · exact ⟨rfl, rfl⟩

/-- The record that a creating call stores for the token. -/
def Stores (state : State) (birth : Birth) : Prop :=
  state.srrs birth.tokenId = birth.record ∧ state.metadata birth.tokenId = birth.metadataCID

theorem createRecord_stores {isPrimaryIssuer lockExternalTransfer fromBulk : Bool}
    {artistAddress issuerAddress royaltyReceiver : Address} (to_ : Address) {metadataCID : Bytes}
    {royaltyBasisPoints : Uint16} {tokenId : Uint256}
    (creates : createRecord evm world msg state isPrimaryIssuer artistAddress metadataCID
      issuerAddress lockExternalTransfer royaltyReceiver royaltyBasisPoints fromBulk =
        .ok (state', tokenId)) :
    Stores state' ⟨tokenId, ⟨isPrimaryIssuer, artistAddress, issuerAddress⟩, metadataCID,
      lockExternalTransfer, to_⟩ := by
  obtain ⟨_, _, _, minted, mints, rfl⟩ := createRecord_accepted creates
  obtain ⟨_, _, rfl⟩ := mint_accepted mints
  unfold Stores
  simp only [upsertRoyalty_stored, State.recorded, State.emit, lockIf_stored, saveSRR,
    Function.update_self, and_self]

theorem passOn_accounts {birth : Birth} {middle : State}
    (minted : ledger middle = birth.minted (ledger state)) :
    accounts (passOn middle birth.record.issuer birth.to_ birth.tokenId) =
      { accounts middle with ledger := birth.entered (ledger state) } := by
  unfold passOn Birth.entered
  split
  · rw [transferFrom_accounts, minted]
  · rw [← minted]
    rfl

theorem onlyCollectionOwnerOrSRROwner_eq_ok {toCheck : Address} {tokenId : Uint256} {u : Unit} :
    onlyCollectionOwnerOrSRROwner state toCheck tokenId = .ok u ↔
      state.erc721.ownerOf tokenId ≠ 0 ∧
        (state.owner = toCheck ∨ state.erc721.ownerOf tokenId = toCheck) := by
  simp only [onlyCollectionOwnerOrSRROwner, onlyExistingToken, bind_eq_ok, requireCustom_eq_ok]
  simp only [exists_, getCollectionOwner, bne_iff_ne, exists_const]

theorem onlyBulk_eq_ok {u : Unit} : onlyBulk world msg state = .ok u ↔ FromBulk world msg state :=
  requireCustom_eq_ok

theorem approveByCommitment_accounts {tokenId customHistoryId : Uint256} {commitment : Bytes32}
    {historyMetadataHash : Bytes} {signer : Address}
    (approved : approveByCommitment world state tokenId commitment historyMetadataHash
      customHistoryId signer = .ok state') : accounts state' = accounts state := by
  have prior : accounts (cancelPriorApproval state tokenId signer) = accounts state := by
    unfold cancelPriorApproval
    split
    · exact accounts_emit rfl rfl
    · rfl
  obtain ⟨_, _, rfl, ⟨_, rfl⟩ | ⟨_, rfl⟩⟩ := approveByCommitment_accepted approved
  · exact (accounts_emit rfl rfl).trans prior
  · exact (accounts_emit rfl rfl).trans prior

theorem passOn_stores {birth : Birth} (issuer to_ : Address) (tokenId : Uint256)
    (stores : Stores state birth) : Stores (passOn state issuer to_ tokenId) birth := by
  unfold passOn
  split
  · exact stores
  · exact stores

/-- Both functions that create a record. -/
theorem create_posting (birth : Birth) {call : Call} {fromBulk : Bool} {royaltyReceiver : Address}
    {royaltyBasisPoints : Uint16} {middle : State}
    (creates : createRecord evm world msg state birth.record.isPrimaryIssuer birth.record.artist
      birth.metadataCID birth.record.issuer birth.lockExternalTransfer royaltyReceiver
      royaltyBasisPoints fromBulk = .ok (middle, birth.tokenId))
    (checked : Creates evm world msg state birth call) :
    Posting evm world msg state call
        (accounts (passOn middle birth.record.issuer birth.to_ birth.tokenId)) := by
  obtain ⟨_, absent, issuer, _, entered⟩ := createRecord_accounts birth.to_ creates
  have minted : ledger middle = birth.minted (ledger state) := congrArg Accounts.ledger entered
  rw [passOn_accounts minted, entered]
  exact .create checked absent issuer

theorem posts_aside {call : Call} (aside : call.aside = true) : call.posts = false := by
  cases call <;> first | rfl | cases aside

theorem Accepted.posting {call : Call} (accepted : Accepted evm world msg state call state') :
    Posting evm world msg state call (accounts state') := by
  cases accepted with
  | aside aside same => exact .silent (posts_aside aside) same.accounts
  | createSRR creates =>
      obtain ⟨generated, _, _, forwarded, _⟩ := createRecord_accounts 0 creates
      obtain ⟨forwarder, owner⟩ := forwarded rfl
      exact create_posting ⟨_, ⟨_, _, _⟩, _, _, _⟩ creates
        (.createSRR _ _ generated forwarder owner owner)
  | createSRRFromBulk bulk owner creates =>
      obtain ⟨generated, _⟩ := createRecord_accounts 0 creates
      exact create_posting ⟨_, ⟨_, _, _⟩, _, _, _⟩ creates
        (.createSRRFromBulk _ _ generated (onlyBulk_eq_ok.mp bulk) (requireCustom_eq_ok.mp owner))
  | addHistory _ _ _ => exact .silent rfl (accounts_emit rfl rfl)
  | setLockExternalTransfer _ owned _ => exact .setLock (onlyExistingToken_eq_ok.mp owned)
  | transferFrom moved =>
      obtain ⟨_, allowed, recipient, rfl, rfl⟩ := transferFrom_accepted moved
      exact .hand (.transferFrom _ allowed recipient)
  | safeTransferFrom moved =>
      obtain ⟨_, allowed, recipient, rfl, rfl⟩ := transferFrom_accepted moved
      exact .hand (.safeTransferFrom _ _ allowed recipient)
  | approve _ allowed => exact .approve allowed
  | setApprovalForAll => exact .allow
  | transferFromWithProvenance owned allowed =>
      exact .hand (.transferFromWithProvenance _ _ _ owned allowed)
  | transferFromWithProvenanceFromBulk bulk signed =>
      obtain ⟨owned, allowed⟩ := onlyCollectionOwnerOrSRROwner_eq_ok.mp signed
      exact .hand (.transferFromWithProvenanceFromBulk _ _ _ _ owned (onlyBulk_eq_ok.mp bulk)
        (allowed.imp Eq.symm Eq.symm))
  | approveSRRByCommitment _ approved => exact .silent rfl (approveByCommitment_accounts approved)
  | approveSRRByCommitmentFromBulk _ _ approved =>
      exact .silent rfl (approveByCommitment_accounts approved)
  | cancelSRRCommitment _ => exact .silent rfl (accounts_emit rfl rfl)
  | transferSRRByReveal revealed =>
      obtain ⟨owned, opened, rfl⟩ := transferSRRByReveal_accepted revealed
      exact .reveal owned opened

end Entries

section Soundness

/-- The zero address has neither a key nor code: nobody sends from it. -/
def Sent (transaction : Transaction) (_ : State) : Prop := transaction.msg.sender ≠ 0

structure Sound (accounts : Accounts) : Prop where
  balanced : accounts.ledger.Balanced 0
  tallied : accounts.ledger.Tallied 0 accounts.created
  strangers : ∀ operator, accounts.operators 0 operator = false
  generated : ∀ tokenId, accounts.ledger.owner tokenId ≠ 0 → tokenId.toNat < 10 ^ 12

theorem generate_lt (metadataCID : Bytes) (artistAddress : Address) :
    (generate evm metadataCID artistAddress).toNat < 10 ^ 12 := by
  unfold generate
  rw [BitVec.toNat_ofNat]
  omega

theorem MayTransfer.owned {tokenId : Uint256} (may : MayTransfer msg state tokenId)
    (sound : Sound (accounts state)) (sent : msg.sender ≠ 0) :
    state.erc721.ownerOf tokenId ≠ 0 := by
  intro unowned
  unfold MayTransfer at may
  rw [unowned] at may
  rcases may with owner | operator | approved
  · exact sent owner
  · exact Bool.false_ne_true ((sound.strangers msg.sender).symm.trans operator)
  · exact sent (approved.trans (sound.balanced.unapproved tokenId unowned))

theorem Hands.owned {tokenId : Uint256} {to_ : Address} {call : Call}
    (hands : Hands world msg state tokenId to_ call) (sound : Sound (accounts state))
    (sent : msg.sender ≠ 0) : state.erc721.ownerOf tokenId ≠ 0 := by
  cases hands with
  | transferFrom _ may _ => exact may.owned sound sent
  | safeTransferFrom _ _ may _ => exact may.owned sound sent
  | transferFromWithProvenance _ _ _ owned _ => exact owned
  | transferFromWithProvenanceFromBulk _ _ _ _ owned _ _ => exact owned

theorem Birth.minted_owner (birth : Birth) (before : Ledger Uint256 Address Uint256) :
    (birth.minted before).owner =
      Function.update before.owner birth.tokenId birth.record.issuer := by
  unfold Birth.minted
  split
  · rfl
  · rfl

theorem Birth.minted_sound (birth : Birth) {before : Accounts} (sound : Sound before)
    (absent : before.ledger.owner birth.tokenId = 0) (issuer : birth.record.issuer ≠ 0)
    (small : birth.tokenId.toNat < 10 ^ 12) :
    Sound { before with
      ledger := birth.minted before.ledger
      created := before.created + 1 } := by
  refine ⟨?_, ?_, sound.strangers, ?_⟩
  · unfold Birth.minted
    split
    · exact (sound.balanced.post (.setLock birth.tokenId true)).mint absent issuer
    · exact sound.balanced.mint absent issuer
  · have minted := sound.tallied.mint absent issuer
    unfold Birth.minted
    split
    · exact minted
    · exact minted
  · intro tokenId owned
    simp only [birth.minted_owner] at owned
    by_cases same : tokenId = birth.tokenId
    · rw [same]
      exact small
    · rw [Function.update_of_ne same] at owned
      exact sound.generated tokenId owned

theorem Sound.pass {before : Accounts} (sound : Sound before) (tokenId : Uint256) (to_ : Address)
    (owned : before.ledger.owner tokenId ≠ 0) :
    Sound { before with
      ledger := before.ledger.pass 0 (before.ledger.owner tokenId) to_ tokenId } := by
  refine ⟨sound.balanced.pass tokenId to_, sound.tallied.pass to_ owned, sound.strangers, ?_⟩
  intro other given
  by_cases same : other = tokenId
  · rw [same]
    exact sound.generated tokenId owned
  · simp only [Ledger.pass, Function.update_of_ne same] at given
    exact sound.generated other given

theorem Birth.entered_sound (birth : Birth) {before : Accounts} (sound : Sound before)
    (absent : before.ledger.owner birth.tokenId = 0) (issuer : birth.record.issuer ≠ 0)
    (small : birth.tokenId.toNat < 10 ^ 12) :
    Sound { before with
      ledger := birth.entered before.ledger
      created := before.created + 1 } := by
  have minted := birth.minted_sound sound absent issuer small
  have given : (birth.minted before.ledger).owner birth.tokenId = birth.record.issuer := by
    rw [birth.minted_owner, Function.update_self]
  unfold Birth.entered
  split
  · have passed := minted.pass birth.tokenId birth.to_ (by
      simp only [given]
      exact issuer)
    simpa only [given] using passed
  · exact minted

theorem Creates.small {birth : Birth} {call : Call}
    (creates : Creates evm world msg state birth call) : birth.tokenId.toNat < 10 ^ 12 := by
  cases creates with
  | createSRR _ _ generated => exact generated ▸ generate_lt _ _
  | createSRRFromBulk _ _ generated => exact generated ▸ generate_lt _ _

theorem Posting.sound {call : Call} {entered : Accounts}
    (posting : Posting evm world msg state call entered) (sound : Sound (accounts state))
    (sent : msg.sender ≠ 0) : Sound entered := by
  cases posting with
  | quiet _ => exact sound
  | @create _ birth creates absent issuer =>
      exact birth.entered_sound sound absent issuer creates.small
  | hand hands => exact sound.pass _ _ (hands.owned sound sent)
  | reveal owned _ => exact sound.pass _ _ owned
  | @approve spender tokenId allowed =>
      have may : MayTransfer msg state tokenId := allowed.imp id Or.inl
      have owned := may.owned sound sent
      exact ⟨sound.balanced.post (.approve spender tokenId owned), sound.tallied, sound.strangers,
        sound.generated⟩
  | allow =>
      refine ⟨sound.balanced, sound.tallied, ?_, sound.generated⟩
      intro other
      simp only [update₂_apply, sent.symm, false_and, if_false]
      exact sound.strangers other
  | setLock owned =>
      exact ⟨sound.balanced.post (.setLock _ _), sound.tallied, sound.strangers, sound.generated⟩

theorem State.blank_sound : Sound (accounts State.blank) := by
  refine ⟨⟨?_, fun _ _ => rfl⟩, ⟨0, rfl, ?_⟩, fun _ => rfl, fun _ owned => absurd rfl owned⟩
  · intro account someone
    have nothing : {tokenId | (ledger State.blank).owner tokenId = account} = ∅ := by
      ext tokenId
      simp only [Set.mem_ofPred_eq, Set.mem_empty_iff_false, iff_false]
      exact fun owned => someone owned.symm
    have counted : (ledger State.blank).count account = 0 := rfl
    change (ledger State.blank).count account = (Ledger.held (ledger State.blank).owner account : _)
    rw [counted, Ledger.held, nothing, Set.ncard_empty]
    rfl
  · simp [Ledger.existing, Ledger.held, accounts, ledger, State.blank]

theorem reach_sound {config : Config Revert State Query Reply Transaction}
    (reach : Reach (entry evm) Sent State.blank config) : Sound (accounts config.now.state) := by
  refine reach.invariant (fun state => Sound (accounts state)) State.blank_sound ?_
  intro transaction state sent sound
  exact (entry_trailing evm transaction state).keeps fun state' ran =>
    (entry_accepted ran).posting.sound sound sent

theorem Sound.count (sound : Sound (accounts state)) {account : Address} (someone : account ≠ 0) :
    (state.erc721.balanceOf account).toNat = Ledger.held state.erc721.ownerOf account ∧
      (state.erc721.balanceOf account).toNat ≤ 10 ^ 12 := by
  have few : Ledger.held state.erc721.ownerOf account ≤ 10 ^ 12 :=
    Ledger.held_le BitVec.toNat (fun _ _ => BitVec.eq_of_toNat_eq)
      fun tokenId owned =>
        sound.generated tokenId (fun unowned => someone (owned.symm.trans unowned))
  have counted : state.erc721.balanceOf account =
      ((Ledger.held state.erc721.ownerOf account : Nat) : Uint256) :=
    sound.balanced.counted account someone
  rw [counted, BitVec.natCast_eq_ofNat, BitVec.toNat_ofNat, Nat.mod_eq_of_lt (by omega)]
  exact ⟨rfl, few⟩

/-- The states and arguments that a call passes to `_transferFrom`, once it has checked what it
checks. -/
inductive Passes (evm : Evm) (world : World) (msg : Msg) (state : State) :
    Call → State → Address → Address → Uint256 → Prop
  | transferFrom {from_ to_ : Address} {id : Uint256} {moved : State} :
      transferFrom msg state from_ to_ id = .ok moved →
      Passes evm world msg state (.transferFrom from_ to_ id) state from_ to_ id
  | safeTransferFrom {from_ to_ : Address} {id : Uint256} {moved : State} (data : Bytes) :
      transferFrom msg state from_ to_ id = .ok moved →
      Passes evm world msg state (.safeTransferFrom from_ to_ id data) state from_ to_ id
  | transferFromWithProvenance {tokenId : Uint256} {tokenOwner : Address} (to_ : Address)
      (historyMetadataHash : Bytes) (customHistoryId : Uint256) (isIntermediary : Bool) :
      ownerOf state tokenId = .ok tokenOwner →
      sender world msg state = getCollectionOwner state ∨ sender world msg state = tokenOwner →
      Passes evm world msg state
        (.transferFromWithProvenance to_ tokenId historyMetadataHash customHistoryId isIntermediary)
        (logProvenance state tokenId (state.erc721.ownerOf tokenId) to_ historyMetadataHash
          customHistoryId isIntermediary (some (sender world msg state)))
        (state.erc721.ownerOf tokenId) to_ tokenId
  | transferFromWithProvenanceFromBulk {tokenId : Uint256} {signer : Address} (to_ : Address)
      (historyMetadataHash : Bytes) (customHistoryId : Uint256) (isIntermediary : Bool) :
      onlyBulk world msg state = .ok () →
      onlyCollectionOwnerOrSRROwner state signer tokenId = .ok () →
      Passes evm world msg state
        (.transferFromWithProvenanceFromBulk signer to_ tokenId historyMetadataHash customHistoryId
          isIntermediary)
        (logProvenance state tokenId (state.erc721.ownerOf tokenId) to_ historyMetadataHash
          customHistoryId isIntermediary (some signer))
        (state.erc721.ownerOf tokenId) to_ tokenId
  | transferSRRByReveal {tokenId : Uint256} {reveal : Bytes32} (to_ : Address)
      (isIntermediary : Bool) : onlyExistingToken state tokenId = .ok () →
      evm.keccak256 (packWord reveal) = (state.approvals tokenId).commitment →
      Passes evm world msg state (.transferSRRByReveal to_ reveal tokenId isIntermediary)
        (_clearSRRCommitment (logProvenance state tokenId (state.erc721.ownerOf tokenId) to_
          (state.approvals tokenId).historyMetadataHash (state.approvals tokenId).customHistoryId
          isIntermediary none) tokenId)
        (state.erc721.ownerOf tokenId) to_ tokenId
  | createSRR {isPrimaryIssuer lockExternalTransfer : Bool}
      {artistAddress to_ royaltyReceiver : Address} {metadataCID : Bytes}
      {royaltyBasisPoints : Uint16} {middle : State} {tokenId : Uint256} :
      createRecord evm world msg state isPrimaryIssuer artistAddress metadataCID
        (sender world msg state) lockExternalTransfer royaltyReceiver royaltyBasisPoints false =
          .ok (middle, tokenId) → to_ ≠ 0 →
      Passes evm world msg state
        (.createSRR isPrimaryIssuer artistAddress metadataCID lockExternalTransfer to_
          royaltyReceiver royaltyBasisPoints)
        middle (sender world msg state) to_ tokenId
  | createSRRFromBulk {isPrimaryIssuer lockExternalTransfer : Bool}
      {artistAddress issuerAddress to_ royaltyReceiver : Address} {metadataCID : Bytes}
      {royaltyBasisPoints : Uint16} {middle : State} {tokenId : Uint256} :
      onlyBulk world msg state = .ok () → onlyCollectionOwner state issuerAddress = .ok () →
      createRecord evm world msg state isPrimaryIssuer artistAddress metadataCID issuerAddress
        lockExternalTransfer royaltyReceiver royaltyBasisPoints true = .ok (middle, tokenId) →
      to_ ≠ 0 →
      Passes evm world msg state
        (.createSRRFromBulk isPrimaryIssuer artistAddress metadataCID issuerAddress
          lockExternalTransfer to_ royaltyReceiver royaltyBasisPoints)
        middle issuerAddress to_ tokenId

theorem createRecord_sound {isPrimaryIssuer lockExternalTransfer fromBulk : Bool}
    {artistAddress issuerAddress royaltyReceiver : Address} {metadataCID : Bytes}
    {royaltyBasisPoints : Uint16} {tokenId : Uint256}
    (creates : createRecord evm world msg state isPrimaryIssuer artistAddress metadataCID
      issuerAddress lockExternalTransfer royaltyReceiver royaltyBasisPoints fromBulk =
        .ok (state', tokenId)) (sound : Sound (accounts state)) :
    Sound (accounts state') ∧ issuerAddress = state'.erc721.ownerOf tokenId ∧
      issuerAddress ≠ 0 := by
  obtain ⟨generated, absent, issuer, _, entered⟩ := createRecord_accounts 0 creates
  have minted : ledger state' = Birth.minted ⟨tokenId, ⟨isPrimaryIssuer, artistAddress,
      issuerAddress⟩, metadataCID, lockExternalTransfer, 0⟩ (ledger state) :=
    congrArg Accounts.ledger entered
  have owner : (ledger state').owner tokenId = issuerAddress := by
    rw [minted, Birth.minted_owner, Function.update_self]
  rw [entered]
  exact ⟨Birth.minted_sound _ sound absent issuer (generated ▸ generate_lt _ _), owner.symm, issuer⟩

/-- Whoever calls it tells `_transferFrom` the owner of a token that exists. -/
theorem Passes.owner {call : Call} {passed : State} {from_ to_ : Address} {id : Uint256}
    (passes : Passes evm world msg state call passed from_ to_ id)
    (sound : Sound (accounts state)) (sent : msg.sender ≠ 0) :
    Sound (accounts passed) ∧ from_ = passed.erc721.ownerOf id ∧ from_ ≠ 0 := by
  cases passes with
  | transferFrom moved =>
      obtain ⟨_, may, _, rfl, _⟩ := transferFrom_accepted moved
      exact ⟨sound, rfl, MayTransfer.owned may sound sent⟩
  | safeTransferFrom data moved =>
      obtain ⟨_, may, _, rfl, _⟩ := transferFrom_accepted moved
      exact ⟨sound, rfl, MayTransfer.owned may sound sent⟩
  | transferFromWithProvenance to_ historyMetadataHash customHistoryId isIntermediary owned _ =>
      simp only [ownerOf, bind_eq_ok, require_eq_ok] at owned
      obtain ⟨_, owned, _⟩ := owned
      exact ⟨sound, rfl, owned⟩
  | transferFromWithProvenanceFromBulk to_ historyMetadataHash customHistoryId isIntermediary _
      signed => exact ⟨sound, rfl, (onlyCollectionOwnerOrSRROwner_eq_ok.mp signed).1⟩
  | transferSRRByReveal to_ isIntermediary owned _ =>
      exact ⟨sound, rfl, onlyExistingToken_eq_ok.mp owned⟩
  | createSRR creates _ => exact createRecord_sound creates sound
  | createSRRFromBulk _ _ creates _ => exact createRecord_sound creates sound

theorem transferFrom_unwrapped (sound : Sound (accounts state)) {to_ : Address} {id : Uint256}
    (owned : state.erc721.ownerOf id ≠ 0) :
    0 < (state.erc721.balanceOf (state.erc721.ownerOf id)).toNat ∧
      ((accounts state).created < 2 ^ 256 →
        (Function.update state.erc721.balanceOf (state.erc721.ownerOf id)
          (state.erc721.balanceOf (state.erc721.ownerOf id) - 1) to_).toNat + 1 < 2 ^ 256) := by
  obtain ⟨exact_, few⟩ := sound.count owned
  have positive := Ledger.held_pos state.erc721.ownerOf id
  refine ⟨by omega, ?_⟩
  intro finite
  by_cases back : to_ = state.erc721.ownerOf id
  · subst back
    rw [Function.update_self]
    bv_omega
  · rw [Function.update_of_ne back]
    by_cases lost : to_ = 0
    · subst lost
      obtain ⟨discarded, count, total⟩ := sound.tallied
      have some_ := Ledger.existing_pos 0 state.erc721.ownerOf owned
      have counted : state.erc721.balanceOf 0 = (discarded : Uint256) := count
      change discarded + Ledger.existing 0 state.erc721.ownerOf = _ at total
      rw [counted, BitVec.natCast_eq_ofNat, BitVec.toNat_ofNat, Nat.mod_eq_of_lt (by omega)]
      omega
    · have bound := (sound.count lost).2
      omega

theorem collection_accounting (evm : Evm) (config : Config Revert State Query Reply Transaction)
    (reach : Reach (entry evm) Sent State.blank config) :
    (∀ account, account ≠ 0 →
      (config.now.state.erc721.balanceOf account).toNat =
          {tokenId | config.now.state.erc721.ownerOf tokenId = account}.ncard ∧
        (config.now.state.erc721.balanceOf account).toNat + 1 < 2 ^ 256) ∧
      ∀ transaction, Sent transaction config.now.state →
        (entry evm transaction config.now.state).Trailing ∧
        ∀ passed from_ to_ id,
          Passes evm transaction.world transaction.msg config.now.state transaction.call
            passed from_ to_ id →
          from_ = passed.erc721.ownerOf id ∧ from_ ≠ 0 ∧
            0 < (passed.erc721.balanceOf from_).toNat ∧
            (passed.logs.countP isCreation < 2 ^ 256 →
              (Function.update passed.erc721.balanceOf from_
                (passed.erc721.balanceOf from_ - 1) to_).toNat + 1 < 2 ^ 256) := by
  have sound := reach_sound reach
  constructor
  · intro account someone
    obtain ⟨counted, few⟩ := sound.count someone
    exact ⟨counted, by omega⟩
  · intro transaction sent
    refine ⟨entry_trailing evm transaction _, ?_⟩
    intro passed from_ to_ id passes
    obtain ⟨soundPassed, rfl, owned⟩ := passes.owner sound sent
    exact ⟨rfl, owned, transferFrom_unwrapped soundPassed owned⟩

theorem createdRun_sent : Reach (entry sampleEvm) Sent State.blank createdRun :=
  .enter _ (.enter _ (.enter _ .start (by unfold Sent; decide)) (by unfold Sent; decide))
    (by unfold Sent; decide)

set_option maxRecDepth 8000 in
theorem loseRecord_counted :
    (createdRun.now.state.erc721.balanceOf 0xa11ce).toNat =
        {tokenId | createdRun.now.state.erc721.ownerOf tokenId = 0xa11ce}.ncard ∧
      ∃ passed, Passes sampleEvm loseRecord.world loseRecord.msg createdRun.now.state
          loseRecord.call passed 0xa11ce 0 recordId ∧
        0 < (passed.erc721.balanceOf 0xa11ce).toNat := by
  obtain ⟨counted, calls⟩ := collection_accounting sampleEvm createdRun createdRun_sent
  have owner : createdRun.now.state.erc721.ownerOf recordId = 0xa11ce := by decide
  have owned : ownerOf createdRun.now.state recordId = .ok 0xa11ce := by rfl
  have passes : Passes sampleEvm loseRecord.world loseRecord.msg createdRun.now.state
      loseRecord.call _ (createdRun.now.state.erc721.ownerOf recordId) 0 recordId :=
    .transferFromWithProvenance 0 [] 0 false owned (by decide)
  rw [owner] at passes
  obtain ⟨_, _, positive, _⟩ :=
    (calls loseRecord (by unfold Sent; decide)).2 _ _ _ _ passes
  exact ⟨(counted 0xa11ce (by decide)).1, _, passes, positive⟩

end Soundness

end Startrail.Collection
