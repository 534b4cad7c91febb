import Mathlib.Logic.Relation
import Startrail.LicensedUser.Authority
import Startrail.LicensedUser.Signatures
import Startrail.Platform.Rules

/-!
Who changes a wallet or prepares a batch in a run of the system. A run is a chain
of moves: the administrator sends a call to the name registry, the forwarder or the
manager, or the forwarder accepts a request and the manager or the bulk contract
executes it at once. A request reaches the record of the wallet that it is from, its
signatures are checked against the record as it then is, and it uses up its nonce.
-/

namespace Startrail.Platform

open LicensedUserManager

/-- As many owners as the wallet asks for signed, each with some 65 of the bytes. -/
def SignedByOwners (evm : Evm) (behind : Nat → UInt8) (state : LicensedUserManager.State)
    (wallet : Address) (txHash : Bytes32) (_signatures : Bytes) : Prop :=
  isActiveWallet state wallet = true ∧ ∃ signers : List Address, signers.Nodup ∧
    (getThreshold state wallet).toNat ≤ signers.length ∧
    ∀ signer ∈ signers, signer ≠ 0 ∧ isOwner state wallet signer ∧
      ∃ group, groupSigner evm behind txHash _signatures group = signer ∧
        (isSingleOwner state wallet ∧ group = 0 ∨ 65 * (group + 1) ≤ _signatures.length)

-- An invalid signature recovers the zero address.
def SignedByAccount (evm : Evm) (behind : Nat → UInt8) (account : Address) (txHash : Bytes32)
    (_signatures : Bytes) : Prop :=
  groupSigner evm behind txHash _signatures 0 = account

/-- The request was submitted with signatures over its hash. -/
def SignedRequest (deployment : Deployment) (sent : List Transaction)
    (state : LicensedUserManager.State) (_request : MetaTxForwarder.ExecutionRequest)
    (txHash : Bytes32) : Prop :=
  ∃ behind _signatures isEOASignature,
    Submitted deployment sent (.forwarder (execution _request _signatures isEOASignature)) ∧
      if isEOASignature then
        SignedByAccount deployment.evm behind _request.from_ txHash _signatures
      else SignedByOwners deployment.evm behind state _request.from_ txHash _signatures

def SameRecords (before after : LicensedUserManager.State) : Prop :=
  after.wallets = before.wallets ∧ after.luws = before.luws

section Moves

variable (deployment : Deployment) (sent : List Transaction) (before : State)

/-- The administrator of that moment sent the call. -/
def Administered (msg : Msg) (call : Call) : Prop :=
  Sent deployment sent msg call ∧ before.names.registry.administrator = msg.sender

def requestMsg (_request : MetaTxForwarder.ExecutionRequest) : Msg :=
  ⟨deployment.forwarder, MetaTxForwarder.callDataOf before.forwarder _request⟩

/-- The request is the next one of its sender, it is signed, and what it asks for is this call. -/
structure Requested (_request : MetaTxForwarder.ExecutionRequest) (call : Call) : Prop where
  next : Next before.forwarder _request
  signed : ∃ txHashEncoded,
    MetaTxForwarder.encodeRequest deployment.evm before.forwarder _request = .ok txHashEncoded ∧
      SignedRequest deployment sent before.manager _request
        (deployment.evm.keccak256 txHashEncoded)
  addressed : ∃ _to, MetaTxForwarder.destinationOf (worldOf deployment before) before.forwarder
    _request = .ok _to ∧
      dispatch deployment _to (MetaTxForwarder.callDataOf before.forwarder _request) = some call

inductive Move (deployment : Deployment) (sent : List Transaction) : State → State → Prop
  | renamed {before : State} {names : Names.State} {msg : Msg} {call : Names.Call} :
      Administered deployment sent before msg (.names call) →
      Names.execute msg call before.names = .ok names →
      Move deployment sent before { before with names }
  | settled {before : State} {forwarder : MetaTxForwarder.State}
      {transaction : MetaTxForwarder.Transaction} :
      Administered deployment sent before transaction.msg (.forwarder transaction.call) →
      MetaTxForwarder.entry (forwarderDeployment deployment) transaction before.forwarder =
        .done forwarder →
      forwarder.nonces = before.forwarder.nonces →
      Move deployment sent before { before with forwarder }
  | administered {before : State} {manager : LicensedUserManager.State} {msg : Msg}
      {call : LicensedUserManager.Call} {wallet : Address} :
      Administered deployment sent before msg (.manager call) →
      execute (managerDeployment deployment) ⟨worldOf deployment before, msg, call⟩
        before.manager = .ok manager →
      Confined wallet before.manager manager →
      Move deployment sent before { before with manager }
  | requested {before : State} {manager : LicensedUserManager.State}
      {_request : MetaTxForwarder.ExecutionRequest} {call : LicensedUserManager.Call} :
      Requested deployment sent before _request (.manager call) →
      execute (managerDeployment deployment)
        ⟨worldOf deployment before, requestMsg deployment before _request, call⟩ before.manager =
          .ok manager →
      Confined _request.from_ before.manager manager →
      Move deployment sent before
        { before with forwarder := noted before.forwarder _request, manager }
  | prepared {before : State} {_request : MetaTxForwarder.ExecutionRequest}
      {merkleRoot : Bytes32} :
      Requested deployment sent before _request (.bulk (.prepareBatchFromLicensedUser merkleRoot)) →
      before.bulk.trustedForwarder = deployment.forwarder →
      (before.bulk.batches merkleRoot).prepared = false →
      Move deployment sent before
        { before with
          forwarder := noted before.forwarder _request
          bulk := Bulk._prepareBatch (requestMsg deployment before _request) before.bulk
            merkleRoot }
  | other {before after : State} : after.names = before.names →
      SameSettings before.forwarder after.forwarder → Counted before.forwarder after.forwarder →
      SameRecords before.manager after.manager → SameSigners before.bulk after.bulk →
      Move deployment sent before after

end Moves

section Signatures

variable {evm : Evm} {behind : Nat → UInt8} {state : LicensedUserManager.State}
  {wallet : Address} {txHash : Bytes32} {_signatures : Bytes}

theorem isValidSignatureSet_owners {magic : Bytes4}
    (valid : isValidSignatureSet evm behind state wallet txHash _signatures = .ok magic) :
    SignedByOwners evm behind state wallet txHash _signatures := by
  simp only [isValidSignatureSet, onlyActiveWallet, bind_eq_ok, require_eq_ok] at valid
  obtain ⟨_, active, checked⟩ := valid
  refine ⟨active, ?_⟩
  by_cases single : isSingleOwner state wallet
  · simp only [single, if_true, bind_eq_ok, require_eq_ok] at checked
    obtain ⟨_, recovered, _⟩ := checked
    refine ⟨[(state.luws wallet).owner], List.nodup_singleton _, ?_, ?_⟩
    · rw [getThreshold, if_pos single]
      exact Nat.le_refl 1
    · intro signer belongs
      obtain rfl := List.mem_singleton.mp belongs
      refine ⟨single, ?_, 0, recovered, Or.inl ⟨single, rfl⟩⟩
      rw [isOwner, if_pos single]
  · simp only [single, if_false, checkSignatures, bind_eq_ok, require_eq_ok] at checked
    obtain ⟨_, ⟨_, _, _, long, looped⟩, _⟩ := checked
    obtain ⟨signers, size, ascending, signed⟩ := checkSignaturesLoop_signers looped
    obtain ⟨positive, ascending⟩ := List.pairwise_cons.mp ascending
    refine ⟨signers, ascending.imp fun below => BitVec.ne_of_lt below, ?_, ?_⟩
    · rw [getThreshold, if_neg single, size]
      exact Nat.le_refl _
    · intro signer belongs
      obtain ⟨link, proper, group, bound, recovered⟩ := signed signer belongs
      refine ⟨(BitVec.ne_of_lt (positive signer belongs)).symm, ?_, group, recovered, Or.inr ?_⟩
      · rw [isOwner, if_neg single]
        exact ⟨proper, link⟩
      · omega

theorem Accepted.signed_by {deployment : Deployment} {sent : List Transaction} {whole : State}
    {_request : MetaTxForwarder.ExecutionRequest}
    (accepted : Accepted deployment sent whole _request txHash) :
    SignedRequest deployment sent whole.manager _request txHash := by
  obtain ⟨behind, _signatures, isEOASignature, submitted, checked⟩ := accepted.signed
  refine ⟨behind, _signatures, isEOASignature, submitted, ?_⟩
  cases isEOASignature with
  | true =>
      simp only [if_true, MetaTxForwarder.verifySigner, require_eq_ok] at checked
      exact checked
  | false => exact isValidSignatureSet_owners checked

end Signatures

section Wallets

variable {deployment : Deployment} {sent : List Transaction} {origin whole : State}

theorem callDataOf_sender (state : MetaTxForwarder.State)
    (_request : MetaTxForwarder.ExecutionRequest) :
    addressOf (lastBytes 20 (MetaTxForwarder.callDataOf state _request)) = _request.from_ := by
  unfold MetaTxForwarder.callDataOf
  rw [lastBytes_append _ _ (by simp), addressOf_packWord]

/-- The state that the request was accepted in. -/
def Consenting (deployment : Deployment) (sent : List Transaction) (origin whole : State)
    (_request : MetaTxForwarder.ExecutionRequest) : Prop :=
  ∃ before, Relation.ReflTransGen (Move deployment sent) origin before ∧
    Next before.forwarder _request ∧
    whole = { before with forwarder := noted before.forwarder _request }

theorem Forwarded.requested {before : State} {msg : Msg} {call : Call}
    {_request : MetaTxForwarder.ExecutionRequest} {txHash : Bytes32}
    (next : Next before.forwarder _request)
    (forwarded : Forwarded deployment sent msg call
      { before with forwarder := noted before.forwarder _request } _request txHash) :
    Requested deployment sent before _request call ∧
      msg = requestMsg deployment before _request := by
  obtain ⟨consent, rfl, _to, found, named⟩ := forwarded
  obtain ⟨txHashEncoded, encoded, rfl⟩ := consent.encoded
  exact ⟨⟨next, ⟨txHashEncoded, encoded, consent.signed_by⟩, _to, found, named⟩, rfl⟩

theorem same_move (past : Relation.ReflTransGen (Move deployment sent) origin whole) {later : State}
    (names : later.names = whole.names) (forwarder : later.forwarder = whole.forwarder)
    (records : SameRecords whole.manager later.manager)
    (signers : SameSigners whole.bulk later.bulk) :
    Relation.ReflTransGen (Move deployment sent) origin later := by
  refine past.tail (.other names ?_ ?_ records signers)
  · rw [forwarder]
    exact ⟨rfl, rfl, rfl, rfl⟩
  · rw [forwarder]
    exact fun _ _ => Nat.le_refl _

theorem manager_move {msg : Msg} {call : LicensedUserManager.Call}
    {manager : LicensedUserManager.State} (wired : Wired deployment whole)
    (past : Relation.ReflTransGen (Move deployment sent) origin whole)
    (backed : Backed deployment sent (Consenting deployment sent origin) msg (.manager call) whole)
    (accepted : execute (managerDeployment deployment) ⟨worldOf deployment whole, msg, call⟩
      whole.manager = .ok manager) :
    Relation.ReflTransGen (Move deployment sent) origin { whole with manager } := by
  rcases execute_confined accepted with records | ⟨wallet, mayChange, confined⟩
  · exact same_move past rfl rfl records fun _ => ⟨rfl, rfl⟩
  · rcases mayChange with administrator | ⟨fromForwarder, _, sender⟩
    · rw [isFromAdministrator, wired.manager.2.1, worldOf_nameRegistry] at administrator
      have administered := wired.administrator_outside backed administrator
      exact past.tail (.administered ⟨administered, administrator⟩ accepted confined)
    · rcases backed with ⟨outside, _⟩ | ⟨_request, txHash, forwarded, before, past', next, rfl⟩
      · have own : msg.sender = deployment.forwarder := fromForwarder.trans wired.manager.2.2
        exact absurd (own ▸ forwarder_mem) outside
      · obtain ⟨requested, rfl⟩ := forwarded.requested next
        rw [requestMsg, callDataOf_sender] at sender
        obtain rfl := sender
        exact past'.tail (.requested requested accepted confined)

theorem prepare_move {msg : Msg} {merkleRoot : Bytes32} {bulk : Bulk.State}
    (wired : Wired deployment whole)
    (backed : Backed deployment sent (Consenting deployment sent origin) msg
      (.bulk (.prepareBatchFromLicensedUser merkleRoot)) whole)
    (accepted : Bulk.prepareBatchFromLicensedUser msg whole.bulk merkleRoot = .ok bulk) :
    Wired deployment { whole with bulk } ∧
      Relation.ReflTransGen (Move deployment sent) origin { whole with bulk } := by
  obtain ⟨wired', sender, fresh, rfl⟩ := prepareBatch_effect wired.bulk accepted
  refine ⟨⟨wired.names, wired.forwarder, wired.manager, wired'⟩, ?_⟩
  rcases backed with ⟨outside, _⟩ | ⟨_request, txHash, forwarded, before, past, next, rfl⟩
  · exact absurd (sender ▸ forwarder_mem) outside
  · obtain ⟨requested, rfl⟩ := forwarded.requested next
    exact past.tail (.prepared requested wired.bulk.2.2 fresh)

theorem registry_move {whole : State} (registry : Registry.State)
    (_ : KeepsRecords whole.registry registry)
    (past : Relation.ReflTransGen (Move deployment sent) origin whole) :
    Relation.ReflTransGen (Move deployment sent) origin { whole with registry } ∧ True :=
  ⟨same_move past rfl rfl ⟨rfl, rfl⟩ fun _ => ⟨rfl, rfl⟩, trivial⟩

theorem bulk_move {whole : State} {bulk : Bulk.State}
    (past : Relation.ReflTransGen (Move deployment sent) origin whole)
    (step : BulkStep deployment whole.bulk bulk) :
    (BulkWired deployment whole.bulk → BulkWired deployment bulk) ∧
      Relation.ReflTransGen (Move deployment sent) origin { whole with bulk } ∧ True :=
  ⟨step.1, same_move past rfl rfl ⟨rfl, rfl⟩ step.2, trivial⟩

theorem moves_rule : Rule deployment sent (Relation.ReflTransGen (Move deployment sent) origin)
    (Consenting deployment sent origin) fun _ _ => True where
  refl _ := trivial
  trans _ _ := trivial
  names := by
    intro whole names msg call wired past backed executed
    have administrator := wired.names.called executed
    have administered := wired.administrator_outside backed administrator
    exact ⟨past.tail (.renamed ⟨administered, administrator⟩ executed), trivial⟩
  settles := by
    intro whole forwarder transaction call wired past backed administrator same executed counted
    subst same
    have administered := wired.administrator_outside backed administrator
    exact ⟨past.tail (.settled ⟨administered, administrator⟩ executed counted), trivial⟩
  forwarder := by
    intro whole forwarder settings counted past
    exact ⟨past.tail (.other rfl settings counted ⟨rfl, rfl⟩ fun _ => ⟨rfl, rfl⟩), trivial⟩
  accepts := by
    intro whole _request past next
    exact ⟨whole, past, next, rfl⟩
  elsewhere := by
    intro whole elsewhere past
    exact ⟨same_move past rfl rfl ⟨rfl, rfl⟩ fun _ => ⟨rfl, rfl⟩, trivial⟩
  manager := by
    intro whole manager msg call wired past backed accepted
    exact ⟨manager_move wired past backed accepted, trivial⟩
  registry := by
    intro whole msg call depth wired past backed
    exact registry_frame (fun _ => trivial) (fun _ _ => trivial) registry_move wired past
      (registry_keepsRecords depth call)
  bulk := by
    intro whole msg call wired past backed
    by_cases preparing : ∃ merkleRoot, call = .prepareBatchFromLicensedUser merkleRoot
    · obtain ⟨merkleRoot, rfl⟩ := preparing
      apply Outcome.Obeys.plug_lift
      intro bulk accepted
      exact ⟨prepare_move wired backed accepted, trivial⟩
    · exact bulk_frame (fun _ => trivial) (fun _ _ => trivial) registry_move bulk_move wired past
        (bulk_wiring wired.bulk (backed.keeps wired) fun merkleRoot same =>
          preparing ⟨merkleRoot, same⟩)

/-- Every change of a wallet or of a batch's signer has the administrator or the wallet behind
it. -/
theorem run_consented (deployment : Deployment) (origin : State)
    (config : Config Revert State Query Reply Transaction) (wired : Wired deployment origin)
    (reach : Reach (entry deployment) (Legal deployment) origin config) :
    Wired deployment config.now.state ∧
      Relation.ReflTransGen (Move deployment config.now.trace) origin config.now.state :=
  moves_rule.reach wired Relation.ReflTransGen.refl reach

end Wallets

section Runs

open MetaTxForwarder (administratorAddress managerAddress renameRequest renameTypeHash
  requestStruct requestEncoding)

def namedWallet : Address := 0x3a11

/-- A wallet asks to be named "Startbahn". -/
def nameRequest : MetaTxForwarder.ExecutionRequest := { renameRequest with from_ := namedWallet }

def nameHash : Bytes32 := 0xd267395a2ff64476ac288e6a26018fd1db58568d576bd501f5c07f721a523698

def nameSignature : Bytes :=
  encodeBE 32 0x0df0b904d7e31f637072fddb84b67f2c55061c9cbaa43d2e950a468808e745ce5 ++
    encodeBE 32 0x4e955d4087d86c8f9666cb3d5bdb844c709b577e6d76bd1617ec1e8ea7d32982 ++ encodeBE 1 28

theorem upperOwner_account : upperOwner ≠ 0 := by decide

def nameEvm : Evm :=
  Evm.ofTables
    [([], 0xc5d2460186f7233c927e7db2dcc703c0e500b653ca82273b7bfad8045d85a470),
      (ascii ("WalletSetOriginalName(address from,uint256 nonce,bytes data,address wallet," ++
        "string name)"), renameTypeHash),
      (nameRequest.callData, 0x54926e526af587388c1823f17bbd76dddbee05a7c221f1292982313fe32cb43a),
      (requestStruct nameRequest
        (encodeBE 32 0x54926e526af587388c1823f17bbd76dddbee05a7c221f1292982313fe32cb43a),
        0xf9773d39f6d2e46cb4f5a7389e07d1f90378944cb3bbb83b088e1c56f43cc64f),
      (requestEncoding 0xf9773d39f6d2e46cb4f5a7389e07d1f90378944cb3bbb83b088e1c56f43cc64f,
        nameHash)]
    [((nameHash, 28, 0xdf0b904d7e31f637072fddb84b67f2c55061c9cbaa43d2e950a468808e745ce5,
        0x4e955d4087d86c8f9666cb3d5bdb844c709b577e6d76bd1617ec1e8ea7d32982),
      ⟨upperOwner, upperOwner_account⟩)]

def nameDeployment : Deployment :=
  systemDeployment nameEvm
    (fun data => if data = nameRequest.callData ++ packWord namedWallet then
      some (.setOriginalName namedWallet (ascii "Startbahn")) else none)
    (fun _ => none)

def administratorSends (call : Call) : Transaction :=
  ⟨fun _ _ => 0, 1, ⟨administratorAddress, []⟩, call⟩

/-- A wallet and the request type for its name are set up, and its owner signs the request. -/
def namedRun : Config Revert State Query Reply Transaction :=
  (((Config.start systemOrigin).enter (entry nameDeployment)
    (administratorSends (.manager (.createWalletFromMigration
      ⟨[upperOwner], 1, .HANDLER, ascii "E", ascii "O"⟩ namedWallet (ascii "eth")
        1600000000)))).enter
    (entry nameDeployment)
    (administratorSends (.forwarder (.registerRequestType (ascii "WalletSetOriginalName")
      (ascii "bytes data,address wallet,string name") managerAddress 0x5624edde)))).enter
    (entry nameDeployment)
    ⟨fun _ _ => 0, 1, ⟨0xe0a, []⟩, .forwarder (.executeTransactionLUW nameRequest nameSignature)⟩

set_option maxRecDepth 8000 in
theorem namedRun_consented :
    (namedRun.now.state.manager.luws namedWallet).originalName = ascii "Startbahn" ∧
      Relation.ReflTransGen (Move nameDeployment namedRun.now.trace) systemOrigin
        namedRun.now.state := by
  refine ⟨by decide +kernel, ?_⟩
  have reach : Reach (entry nameDeployment) (Legal nameDeployment) systemOrigin namedRun :=
    Reach.enter _ (Reach.enter _ (Reach.enter _ Reach.start ⟨by decide +kernel, trivial⟩)
      ⟨by decide +kernel, trivial⟩) ⟨by decide +kernel, trivial⟩
  exact (run_consented nameDeployment systemOrigin namedRun
    (systemOrigin_wired nameEvm _ _) reach).2

end Runs

end Startrail.Platform
