import Mathlib.Data.List.Nodup
import Startrail.Registry.Ownership

/-!
The meta transactions that the registry runs by calling itself. The nonce of a
user counts the meta transactions of that user in the log, so the next one can
only be a message signed with that number. The count covers meta transactions
inside others, and it goes back with the log when a call is undone. The sender
that the called function sees is read from memory, behind the word that holds the
length of the calldata.
-/

namespace Startrail.Registry

def Event.executed (userAddress : Address) : Event → Option Bytes
  | .MetaTransactionExecuted user _ callData => if user = userAddress then some callData else none
  | _ => none

/-- The calls executed for a user, the latest first. -/
def executed (userAddress : Address) (logs : List Event) : List Bytes :=
  logs.filterMap (Event.executed userAddress)

def Numbered (state : State) : Prop :=
  ∀ userAddress, (state.openSeaMetaTx.nonces userAddress).toNat =
    (executed userAddress state.logs).length

section Messages

variable (deployment : Deployment) (state : State) (userAddress : Address)

/-- The message that has the registry call itself with `callData` as this user's number `nonce`. -/
def message (nonce : Nat) (callData : Bytes) : Bytes32 :=
  toTypedMessageHash deployment state
    (hashMetaTransaction deployment (BitVec.ofNat 256 nonce) userAddress callData)

/-- The messages of executed calls, each with the nonce that counts those before it. -/
def messages : List Bytes → List Bytes32
  | [] => []
  | callData :: earlier =>
      message deployment state userAddress earlier.length callData :: messages earlier

def Consumed (base : Nat) : List Bytes → Prop
  | [] => True
  | callData :: earlier => (∃ sigV sigR sigS, deployment.evm.Signed
      (message deployment state userAddress (earlier.length + base) callData) sigV sigR sigS
        userAddress) ∧ Consumed base earlier

def metaTransactionInputs (nonce : Nat) (callData : Bytes) : Bytes :=
  packWord (META_TRANSACTION_TYPEHASH deployment) ++ packWord (BitVec.ofNat 256 nonce) ++
    encodeAddress userAddress ++ packWord (deployment.evm.keccak256 callData)

def messageInputs (nonce : Nat) (callData : Bytes) : Bytes :=
  [0x19, 0x01] ++ packWord state.openSeaMetaTx.domainSeperator ++
    packWord (deployment.evm.keccak256
      (metaTransactionInputs deployment userAddress nonce callData))

/-- All that is hashed for these messages. -/
def hashedInputs : List Bytes → List Bytes
  | [] => []
  | callData :: earlier =>
      metaTransactionInputs deployment userAddress earlier.length callData ::
        messageInputs deployment state userAddress earlier.length callData :: hashedInputs earlier

end Messages

/-- The registry's part of what happened since: messages signed with the nonces that were next. -/
def Follows (deployment : Deployment) (before after : State) : Prop :=
  ∀ userAddress, ∃ since,
    executed userAddress after.logs = since ++ executed userAddress before.logs ∧
    Consumed deployment before userAddress (executed userAddress before.logs).length since

variable {deployment : Deployment} {world : World} {msg msg' : Msg} {call call' : Call}
  {state state' middle before after : State} {userAddress : Address}

theorem executed_append (later earlier : List Event) :
    executed userAddress (later ++ earlier) =
      executed userAddress later ++ executed userAddress earlier :=
  List.filterMap_append

theorem message_congr
    (same : after.openSeaMetaTx.domainSeperator = before.openSeaMetaTx.domainSeperator) :
    message deployment after = message deployment before := by
  funext userAddress nonce callData
  unfold message toTypedMessageHash
  rw [same]

theorem Consumed.append {base : Nat} {first second : List Bytes}
    (early : Consumed deployment before userAddress base first)
    (late : Consumed deployment before userAddress (first.length + base) second) :
    Consumed deployment before userAddress base (second ++ first) := by
  induction second with
  | nil => exact early
  | cons callData second ih =>
      have count : (second ++ first).length + base = second.length + (first.length + base) := by
        rw [List.length_append, Nat.add_assoc]
      refine ⟨?_, ih late.2⟩
      rw [List.append_eq, count]
      exact late.1

theorem Consumed.congr {base : Nat} {calls : List Bytes}
    (same : after.openSeaMetaTx.domainSeperator = before.openSeaMetaTx.domainSeperator)
    (consumed : Consumed deployment after userAddress base calls) :
    Consumed deployment before userAddress base calls := by
  induction calls with
  | nil => trivial
  | cons callData calls ih =>
      refine ⟨?_, ih consumed.2⟩
      rw [← message_congr same]
      exact consumed.1

theorem Follows.refl (state : State) : Follows deployment state state :=
  fun _ => ⟨[], rfl, trivial⟩

theorem Follows.trans
    (same : middle.openSeaMetaTx.domainSeperator = before.openSeaMetaTx.domainSeperator)
    (early : Follows deployment before middle) (late : Follows deployment middle after) :
    Follows deployment before after := by
  intro userAddress
  obtain ⟨first, grown, consumed⟩ := early userAddress
  obtain ⟨second, grown', consumed'⟩ := late userAddress
  refine ⟨second ++ first, ?_, ?_⟩
  · rw [grown', grown, List.append_assoc]
  · rw [grown, List.length_append] at consumed'
    exact consumed.append (consumed'.congr same)

theorem metaTransactionInputs_inj {nonce nonce' : Nat} {callData callData' : Bytes}
    (small : nonce < 2 ^ 256) (small' : nonce' < 2 ^ 256)
    (same : metaTransactionInputs deployment userAddress nonce callData =
      metaTransactionInputs deployment userAddress nonce' callData') : nonce = nonce' := by
  unfold metaTransactionInputs at same
  have front := (List.append_inj' (List.append_inj' same (by simp)).1 (by simp [encodeAddress])).1
  have words := (packWord_inj ⟨32, rfl⟩).mp (List.append_inj' front (by simp)).2
  have numbers := congrArg BitVec.toNat words
  simp only [BitVec.toNat_ofNat] at numbers
  rwa [Nat.mod_eq_of_lt small, Nat.mod_eq_of_lt small'] at numbers

theorem messages_hashed {calls : List Bytes} {digest : Bytes32}
    (listed : digest ∈ messages deployment state userAddress calls) :
    ∃ nonce callData, nonce < calls.length ∧
      digest = deployment.evm.keccak256
        (messageInputs deployment state userAddress nonce callData) ∧
      metaTransactionInputs deployment userAddress nonce callData ∈
        hashedInputs deployment state userAddress calls ∧
      messageInputs deployment state userAddress nonce callData ∈
        hashedInputs deployment state userAddress calls := by
  induction calls with
  | nil => cases listed
  | cons callData earlier ih =>
      rcases List.mem_cons.mp listed with rfl | inside
      · exact ⟨earlier.length, callData, Nat.lt_succ_self _, rfl, List.mem_cons_self,
          List.mem_cons_of_mem _ List.mem_cons_self⟩
      · obtain ⟨nonce, callData', before, same, first, second⟩ := ih inside
        exact ⟨nonce, callData', Nat.lt_succ_of_lt before, same,
          List.mem_cons_of_mem _ (List.mem_cons_of_mem _ first),
          List.mem_cons_of_mem _ (List.mem_cons_of_mem _ second)⟩

/-- Messages of one user differ in their nonce. -/
theorem messages_nodup {calls : List Bytes} (small : calls.length < 2 ^ 256)
    (free : deployment.evm.CollisionFree (hashedInputs deployment state userAddress calls)) :
    (messages deployment state userAddress calls).Nodup := by
  induction calls with
  | nil => exact List.nodup_nil
  | cons callData earlier ih =>
      rw [List.length_cons] at small
      refine List.nodup_cons.mpr ⟨?_, ih (by omega) ?_⟩
      · intro repeated
        obtain ⟨nonce, callData', before, same, first, second⟩ := messages_hashed repeated
        have encodings := free _ (List.mem_cons_of_mem _ List.mem_cons_self) _
          (List.mem_cons_of_mem _ (List.mem_cons_of_mem _ second)) same
        have hashes := (packWord_inj ⟨32, rfl⟩).mp (List.append_inj' encodings (by simp)).2
        have structs := free _ List.mem_cons_self _
          (List.mem_cons_of_mem _ (List.mem_cons_of_mem _ first)) hashes
        have nonces := metaTransactionInputs_inj (by omega) (by omega) structs
        omega
      · intro left inLeft right inRight
        exact free left (List.mem_cons_of_mem _ (List.mem_cons_of_mem _ inLeft)) right
          (List.mem_cons_of_mem _ (List.mem_cons_of_mem _ inRight))

theorem acceptMetaTransaction_consumes {callData : Bytes} {sigR sigS : Bytes32} {sigV : Uint8}
    (accepted : acceptMetaTransaction deployment msg state userAddress callData sigR sigS sigV =
      .ok state') :
    userAddress ≠ 0 ∧
      deployment.evm.Signed (metaTransactionHash deployment state userAddress callData) sigV sigR
        sigS userAddress ∧
      (state.openSeaMetaTx.nonces userAddress).toNat + 1 < 2 ^ 256 ∧
      state' = { state with
        openSeaMetaTx := { state.openSeaMetaTx with
          nonces := Function.update state.openSeaMetaTx.nonces userAddress
            (state.openSeaMetaTx.nonces userAddress + 1) }
        logs := .MetaTransactionExecuted userAddress msg.sender callData :: state.logs } := by
  simp only [acceptMetaTransaction, verify, bind_eq_ok, require_eq_ok, requirePanic_eq_ok,
    pure_eq_ok] at accepted
  obtain ⟨_, ⟨_, nonzero, rfl⟩, _, verified, _, room, rfl⟩ := accepted
  refine ⟨nonzero, ?_, room, rfl⟩
  rw [Evm.signed_iff]
  exact ⟨(beq_iff_eq.mp verified).symm, nonzero⟩

theorem metaTransactionHash_numbered (numbered : Numbered state) (callData : Bytes) :
    metaTransactionHash deployment state userAddress callData =
      message deployment state userAddress (executed userAddress state.logs).length callData := by
  unfold metaTransactionHash message
  rw [← numbered userAddress, BitVec.ofNat_toNat, BitVec.setWidth_eq]

theorem acceptMetaTransaction_follows {callData : Bytes} {sigR sigS : Bytes32} {sigV : Uint8}
    (numbered : Numbered state)
    (accepted : acceptMetaTransaction deployment msg state userAddress callData sigR sigS sigV =
      .ok state') :
    Numbered state' ∧ Follows deployment state state' ∧
      state'.openSeaMetaTx.domainSeperator = state.openSeaMetaTx.domainSeperator := by
  obtain ⟨_, signed, room, rfl⟩ := acceptMetaTransaction_consumes accepted
  have grown : ∀ account, executed account
      (.MetaTransactionExecuted userAddress msg.sender callData :: state.logs) =
        (if userAddress = account then [callData] else []) ++ executed account state.logs := by
    intro account
    by_cases own : userAddress = account
    · simp [executed, Event.executed, own]
    · simp [executed, Event.executed, own]
  refine ⟨?_, ?_, rfl⟩
  · intro account
    rw [grown, List.length_append]
    by_cases own : userAddress = account
    · subst account
      simp only [Function.update_self, if_pos, List.length_singleton]
      have one : (1 : Uint256).toNat = 1 := rfl
      rw [BitVec.toNat_add, one, Nat.mod_eq_of_lt room, numbered userAddress, Nat.add_comm]
    · simp only [Function.update_of_ne (Ne.symm own), if_neg own, List.length_nil, Nat.zero_add]
      exact numbered account
  · intro account
    refine ⟨_, grown account, ?_⟩
    by_cases own : userAddress = account
    · subst account
      rw [if_pos rfl]
      refine ⟨⟨sigV, sigR, sigS, ?_⟩, trivial⟩
      rw [List.length_nil, Nat.zero_add, ← metaTransactionHash_numbered numbered]
      exact signed
    · rw [if_neg own]
      trivial

theorem Runs.follows (runs : Runs deployment state msg call middle msg' call')
    (numbered : Numbered state) :
    Numbered middle ∧ Follows deployment state middle ∧
      middle.openSeaMetaTx.domainSeperator = state.openSeaMetaTx.domainSeperator := by
  induction runs with
  | direct state msg call => exact ⟨numbered, Follows.refl state, rfl⟩
  | wrapped accepts _ _ ih =>
      obtain ⟨counted, follows, same⟩ := acceptMetaTransaction_follows numbered accepts
      obtain ⟨counted', follows', same'⟩ := ih counted
      exact ⟨counted', follows.trans same follows', same'.trans same⟩

/-- What a call writes besides meta transactions. -/
structure Wrote (before after : State) : Prop where
  nonces : after.openSeaMetaTx.nonces = before.openSeaMetaTx.nonces
  logs : ∃ fresh, after.logs = fresh ++ before.logs ∧ ∀ userAddress, executed userAddress fresh = []

theorem Wrote.refl (state : State) : Wrote state state := ⟨rfl, [], rfl, fun _ => rfl⟩

theorem Wrote.trans (early : Wrote before middle) (late : Wrote middle after) :
    Wrote before after := by
  obtain ⟨first, grown, quiet⟩ := early.logs
  obtain ⟨second, grown', quiet'⟩ := late.logs
  refine ⟨late.nonces.trans early.nonces, second ++ first, ?_, ?_⟩
  · rw [grown', grown, List.append_assoc]
  · intro userAddress
    rw [executed_append, quiet, quiet', List.append_nil]

theorem Wrote.emit {event : Event} (other : ∀ userAddress, event.executed userAddress = none) :
    Wrote state (state.emit event) := by
  refine ⟨rfl, [event], rfl, ?_⟩
  intro userAddress
  simp [executed, other]

section Effects

variable {tokenId : Uint256} {from_ to_ : Address}

theorem mint_wrote (minted : _mint state to_ tokenId = .ok state') : Wrote state state' := by
  obtain ⟨_, _, _, rfl⟩ := mint_accepted minted
  exact ⟨rfl, [_], rfl, fun _ => rfl⟩

theorem transfer_wrote (moved : _transfer state from_ to_ tokenId = .ok state') :
    Wrote state state' := by
  obtain ⟨_, _, _, _, _, rfl⟩ := transfer_accepted moved
  exact ⟨rfl, [_, _], rfl, fun _ => rfl⟩

theorem Aside.wrote (aside : Aside state state') : Wrote state state' := by
  obtain ⟨fresh, grown, quiet⟩ := aside.logs
  refine ⟨aside.nonces, fresh, grown, ?_⟩
  intro userAddress
  apply List.filterMap_eq_nil_iff.mpr
  intro event belongs
  have aside := quiet event belongs
  cases event <;> first | rfl | cases aside

theorem createSRRFor_wrote {isPrimaryIssuer lockExternalTransfer : Bool}
    {artistAddress issuerAddress royaltyReceiver : Address} {metadataCID : Bytes}
    {royaltyBasisPoints : Uint16}
    (created : createSRRFor deployment state isPrimaryIssuer artistAddress metadataCID issuerAddress
      lockExternalTransfer to_ royaltyReceiver royaltyBasisPoints = .ok (state', tokenId)) :
    Wrote state state' := by
  obtain ⟨stored, first, ending⟩ := createSRRFor_accepted created
  obtain ⟨_, minted, mint, aside⟩ := createSRR_aside first
  have recorded : Wrote minted (minted.recorded tokenId isPrimaryIssuer artistAddress issuerAddress
      metadataCID lockExternalTransfer) := ⟨rfl, [_], rfl, fun _ => rfl⟩
  have creates := (mint_wrote mint).trans (recorded.trans aside.wrote)
  rcases ending with ⟨_, moved⟩ | ⟨_, rfl⟩
  · exact creates.trans (transfer_wrote moved)
  · exact creates

theorem approveSRRByCommitment_wrote {customHistoryId : Uint256} {commitment : Bytes32}
    {historyMetadataHash : Bytes}
    (approved : _approveSRRByCommitment state tokenId commitment historyMetadataHash
      customHistoryId = .ok state') : Wrote state state' := by
  have cancelled : Wrote state (cancelPriorApproval state tokenId) := by
    unfold cancelPriorApproval
    split
    · exact ⟨rfl, [_], rfl, fun _ => rfl⟩
    · exact .refl state
  obtain ⟨_, _, rfl, ⟨_, rfl⟩ | ⟨_, rfl⟩⟩ := approveSRRByCommitment_accepted approved
  · exact cancelled.trans ⟨rfl, [_], rfl, fun _ => rfl⟩
  · exact cancelled.trans ⟨rfl, [_], rfl, fun _ => rfl⟩

/-- Of all the calls only `executeMetaTransaction` itself touches the nonces. -/
theorem Accepted.wrote (accepted : Accepted deployment world msg state call state') :
    Wrote state state' := by
  cases accepted with
  | aside _ same => exact same.wrote
  | createSRRFromLicensedUser _ creates => exact createSRRFor_wrote creates
  | createSRRFromBulk _ creates => exact createSRRFor_wrote creates
  | approveSRRByCommitmentFromBulk _ _ approved => exact approveSRRByCommitment_wrote approved
  | approveSRRByCommitment _ approved => exact approveSRRByCommitment_wrote approved
  | approveSRRByCommitmentWithHistory _ _ approved => exact approveSRRByCommitment_wrote approved
  | cancelSRRCommitment _ => exact ⟨rfl, [_], rfl, fun _ => rfl⟩
  | transferSRRByReveal revealed =>
      obtain ⟨_, _, moved⟩ := transferSRRByReveal_accepted revealed
      refine Wrote.trans ?_ (transfer_wrote moved)
      exact ⟨rfl, [_], rfl, fun _ => rfl⟩
  | addHistory _ _ _ _ => exact ⟨rfl, [_], rfl, fun _ => rfl⟩
  | writeCustomHistory _ _ _ => exact ⟨rfl, [_], rfl, fun _ => rfl⟩
  | updateCustomHistory _ _ _ =>
      refine Wrote.trans ?_ (.emit fun _ => rfl)
      split
      · exact ⟨rfl, [], rfl, fun _ => rfl⟩
      · exact .refl state
  | transferFrom _ _ moved => exact transfer_wrote moved
  | safeTransferFrom _ _ moved => exact transfer_wrote moved
  | transferFromWithProvenance _ _ moved =>
      exact Wrote.trans (.emit fun _ => rfl) (transfer_wrote moved)
  | transferFromWithProvenanceFromBulk _ _ _ moved =>
      exact Wrote.trans (.emit fun _ => rfl) (transfer_wrote moved)
  | approve _ _ _ _ => exact ⟨rfl, [_], rfl, fun _ => rfl⟩
  | setLockExternalTransfer _ _ => exact ⟨rfl, [_], rfl, fun _ => rfl⟩

end Effects

theorem Wrote.executed (wrote : Wrote before after) (userAddress : Address) :
    executed userAddress after.logs = executed userAddress before.logs := by
  obtain ⟨fresh, grown, quiet⟩ := wrote.logs
  rw [grown, executed_append, quiet, List.nil_append]

theorem perform_follows {depth : Nat}
    (ran : (perform deployment world depth msg call state).front = some state')
    (numbered : Numbered state) : Numbered state' ∧ Follows deployment state state' := by
  obtain ⟨middle, msg', call', runs, accepted⟩ := perform_accepted ran
  obtain ⟨counted, follows, _⟩ := runs.follows numbered
  have wrote := accepted.wrote
  constructor
  · intro userAddress
    rw [wrote.nonces, wrote.executed]
    exact counted userAddress
  · intro userAddress
    rw [wrote.executed]
    exact follows userAddress

theorem State.blank_numbered : Numbered State.blank := fun _ => rfl

theorem reach_numbered {config : Config Revert State Query Reply Transaction}
    (reach : Reach (entry deployment) (Legal deployment) State.blank config) :
    Numbered config.now.state := by
  refine reach.invariant Numbered State.blank_numbered ?_
  intro transaction state _ numbered
  refine (perform_trailing _ _ _ _).keeps ?_
  intro state' ran
  exact (perform_follows ran numbered).1

/-- The calls of a run with one domain separator. -/
def Fixed (deployment : Deployment) (transaction : Transaction) (state : State) : Prop :=
  Legal deployment transaction state ∧
    ∀ state', (entry deployment transaction state).front = some state' →
      state'.openSeaMetaTx.domainSeperator = state.openSeaMetaTx.domainSeperator

theorem reach_follows {origin : State} {config : Config Revert State Query Reply Transaction}
    (numbered : Numbered origin)
    (reach : Reach (entry deployment) (Fixed deployment) origin config) :
    Numbered config.now.state ∧ Follows deployment origin config.now.state := by
  have kept := reach.invariant (fun state => Numbered state ∧ Follows deployment origin state ∧
    state.openSeaMetaTx.domainSeperator = origin.openSeaMetaTx.domainSeperator)
    ⟨numbered, Follows.refl origin, rfl⟩ ?_
  · exact ⟨kept.1, kept.2.1⟩
  · rintro transaction state ⟨_, fixed⟩ ⟨counted, follows, same⟩
    refine (perform_trailing _ _ _ _).keeps ?_
    intro state' ran
    obtain ⟨counted', since⟩ := perform_follows ran counted
    exact ⟨counted', follows.trans same since, (fixed state' ran).trans same⟩

section Failures

variable {environment : State → Query → State × Reply}

/-- Whatever the receivers answer, a meta transaction fails when the call inside it does. -/
theorem executeMetaTransaction_fails {selfCall : Msg → Call → State → Execution State}
    {callData : Bytes} {sigR sigS : Bytes32} {sigV : Uint8}
    (fails : ∀ accepted inner,
      acceptMetaTransaction deployment msg state userAddress callData sigR sigS sigV =
        .ok accepted →
      deployment.dispatch (selfMsg deployment userAddress callData).data = some inner →
      ∃ reason, (selfCall (selfMsg deployment userAddress callData) inner accepted).against
        environment = .error reason) :
    ∃ reason, (executeMetaTransaction deployment selfCall msg state userAddress callData sigR sigS
      sigV).against environment = .error reason := by
  unfold executeMetaTransaction
  cases accepts : acceptMetaTransaction deployment msg state userAddress callData sigR sigS sigV
    with
  | error reason => exact ⟨reason, rfl⟩
  | ok accepted =>
      rw [Outcome.liftM_ok, Outcome.done_bind]
      cases dispatched : deployment.dispatch (selfMsg deployment userAddress callData).data with
      | none => exact ⟨_, rfl⟩
      | some inner =>
          obtain ⟨reason, failed⟩ := fails accepted inner accepts dispatched
          exact ⟨_, Outcome.against_failWith failed⟩

end Failures

/-- `msgSenderFromEIP2771MsgData`: the sender is the end of the word in memory that ends with the
last byte of the calldata, which follow the word that holds their length. -/
def msgSenderFromEIP2771MsgData (behind : Nat → UInt8) (deployment : Deployment) (msg : Msg) :
    Address :=
  if msg.sender = deployment.self then
    (memoryWord behind (packWord (BitVec.ofNat 256 msg.data.length) ++ msg.data)
      msg.data.length).setWidth 160
  else msg.sender

theorem msgSenderFromEIP2771MsgData_selfMsg (behind : Nat → UInt8) (deployment : Deployment)
    (userAddress : Address) (callData : Bytes) :
    msgSenderFromEIP2771MsgData behind deployment (selfMsg deployment userAddress callData) =
      userAddress := by
  unfold msgSenderFromEIP2771MsgData selfMsg
  rw [if_pos rfl, memoryWord_last behind (by simp [Nat.add_comm])]
  have address := lastBytes_add 12 (packWord (BitVec.ofNat 256
    (callData ++ packWord userAddress).length) ++ callData) (packWord userAddress)
  rw [List.append_assoc, length_packWord] at address
  rw [address, wordOf_address]

theorem meta_transactions_once (deployment : Deployment)
    (configured : Config Revert State Query Reply Transaction)
    (reach : Reach (entry deployment) (Legal deployment) State.blank configured) :
    Numbered configured.now.state ∧
      (∀ msg userAddress callData sigR sigS sigV accepted,
        acceptMetaTransaction deployment msg configured.now.state userAddress callData sigR sigS
            sigV = .ok accepted →
          userAddress ≠ 0 ∧ Numbered accepted ∧
            executed userAddress accepted.logs =
              callData :: executed userAddress configured.now.state.logs ∧
            deployment.evm.Signed (message deployment configured.now.state userAddress
              (executed userAddress configured.now.state.logs).length callData) sigV sigR sigS
                userAddress) ∧
      (∀ config, Reach (entry deployment) (Fixed deployment) configured.now.state config →
        Numbered config.now.state ∧ Follows deployment configured.now.state config.now.state ∧
          ∀ userAddress,
            deployment.evm.CollisionFree (hashedInputs deployment configured.now.state userAddress
                (executed userAddress config.now.state.logs)) →
              (messages deployment configured.now.state userAddress
                (executed userAddress config.now.state.logs)).Nodup) ∧
      (∀ environment selfCall msg state userAddress callData sigR sigS sigV,
        (∀ accepted inner,
          acceptMetaTransaction deployment msg state userAddress callData sigR sigS sigV =
            .ok accepted →
          deployment.dispatch (selfMsg deployment userAddress callData).data = some inner →
          ∃ reason, (selfCall (selfMsg deployment userAddress callData) inner accepted).against
            environment = .error reason) →
        ∃ reason, (executeMetaTransaction deployment selfCall msg state userAddress callData sigR
          sigS sigV).against environment = .error reason) ∧
      Reverting (entry deployment) (Legal deployment) configured ∧
      (∀ behind userAddress callData,
        msgSenderFromEIP2771MsgData behind deployment (selfMsg deployment userAddress callData) =
            userAddress ∧
          _msgSender deployment (selfMsg deployment userAddress callData) = userAddress) ∧
      (∀ behind msg, msg.sender ≠ deployment.self →
        msgSenderFromEIP2771MsgData behind deployment msg = msg.sender ∧
          _msgSender deployment msg = msg.sender) ∧
      ∀ transaction, Legal deployment transaction configured.now.state →
        ∀ middle msg call, Runs deployment configured.now.state transaction.msg transaction.call
          middle msg call → Speaks deployment configured.now.state transaction.msg msg := by
  have numbered := reach_numbered reach
  refine ⟨numbered, ?_, ?_, ?_, reverting _ _ _, ?_, ?_, ?_⟩
  · intro msg userAddress callData sigR sigS sigV accepted accepts
    obtain ⟨nonzero, signed, _, same⟩ := acceptMetaTransaction_consumes accepts
    refine ⟨nonzero, (acceptMetaTransaction_follows numbered accepts).1, ?_, ?_⟩
    · rw [same]
      simp [executed, Event.executed]
    · rw [← metaTransactionHash_numbered numbered]
      exact signed
  · intro config fixed
    obtain ⟨counted, follows⟩ := reach_follows numbered fixed
    refine ⟨counted, follows, ?_⟩
    intro userAddress free
    refine messages_nodup ?_ free
    rw [← counted userAddress]
    exact (config.now.state.openSeaMetaTx.nonces userAddress).isLt
  · intro environment selfCall msg state userAddress callData sigR sigS sigV fails
    exact executeMetaTransaction_fails fails
  · intro behind userAddress callData
    exact ⟨msgSenderFromEIP2771MsgData_selfMsg behind deployment userAddress callData,
      msgSender_selfMsg deployment userAddress callData⟩
  · intro behind msg outside
    exact ⟨if_neg outside, if_neg outside⟩
  · intro transaction legal middle msg call runs
    exact runs.speaks legal

section Samples

-- `setApprovalForAll(0xb0b, true)`
def approveAllData : Bytes :=
  [0xa2, 0x2c, 0xb4, 0x65] ++ encodeAddress 0xb0b ++ encodeBE 32 1

-- Hashes that differ where their inputs do, for the inputs of this example.
def metaEvm : Evm where
  keccak256 bytes := BitVec.ofNat 256 (decodeBE bytes + bytes.length)
  recover _ v _ _ := if v = 27 then some ⟨0xa11ce, by decide⟩ else none
  chainid := 1

def metaDeployment : Deployment where
  evm := metaEvm
  self := 0x5e1f
  dispatch calldata :=
    if calldata.take 68 = approveAllData then some (.setApprovalForAll 0xb0b true) else none

def configuredRun : Config Revert State Query Reply Transaction :=
  Config.enter (entry metaDeployment)
    (sampleCall 0xad317 (.setOpenSeaMetaTxIntegration 0x9801 (ascii "Startrail")))
    (.start State.blank)

def approveAllCall : Transaction :=
  sampleCall 0xe0a (.executeMetaTransaction 0xa11ce approveAllData 1 2 27)

def approvedAllRun : Config Revert State Query Reply Transaction :=
  Config.enter (entry metaDeployment) approveAllCall (.start configuredRun.now.state)

set_option maxRecDepth 8000 in
theorem approvedAllRun_once :
    executed 0xa11ce approvedAllRun.now.state.logs = [approveAllData] ∧
      (approvedAllRun.now.state.openSeaMetaTx.nonces 0xa11ce).toNat = 1 ∧
      (messages metaDeployment configuredRun.now.state 0xa11ce [approveAllData]).Nodup := by
  have reach : Reach (entry metaDeployment) (Legal metaDeployment) State.blank configuredRun :=
    .enter _ .start (by unfold Legal; decide)
  have ran : executed 0xa11ce approvedAllRun.now.state.logs = [approveAllData] := by decide
  have fixed : Reach (entry metaDeployment) (Fixed metaDeployment) configuredRun.now.state
      approvedAllRun := by
    refine .enter _ .start ⟨by unfold Legal; decide, ?_⟩
    intro state' entered
    have front : ((entry metaDeployment approveAllCall configuredRun.now.state).front.map
      fun state => state.openSeaMetaTx.domainSeperator) =
        some configuredRun.now.state.openSeaMetaTx.domainSeperator := by decide
    have same : (entry metaDeployment approveAllCall configuredRun.now.state).front =
      some state' := entered
    rw [same] at front
    exact Option.some.inj front
  obtain ⟨_, _, once, _⟩ := meta_transactions_once metaDeployment configuredRun reach
  obtain ⟨counted, _, distinct⟩ := once approvedAllRun fixed
  have messages := distinct 0xa11ce
  rw [ran] at messages
  refine ⟨ran, ?_, messages (by decide)⟩
  rw [counted, ran]
  rfl

end Samples

end Startrail.Registry
