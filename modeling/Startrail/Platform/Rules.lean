import Startrail.MetaTx.Authority
import Startrail.Platform.Wiring

/-!
What every run of the system keeps. A call of a contract is `Backed` if nobody can
have made it up: it was sent from outside the system, or the forwarder delivers a
request that it has just accepted. `Rule` has what is to be shown of each contract
for a property of the whole to hold in every run, besides the wiring.
-/

namespace Startrail.Platform

def execution (_request : MetaTxForwarder.ExecutionRequest) (_signatures : Bytes)
    (isEOASignature : Bool) : MetaTxForwarder.Call :=
  if isEOASignature then .executeTransactionEOA _request _signatures
  else .executeTransactionLUW _request _signatures

/-- The call was sent, or it is what a request comes to that was submitted itself. -/
inductive Submitted (deployment : Deployment) (sent : List Transaction) : Call → Prop
  | sent {transaction : Transaction} : transaction ∈ sent →
      Submitted deployment sent transaction.call
  | wrapped {_request : MetaTxForwarder.ExecutionRequest} {_signatures : Bytes}
      {isEOASignature : Bool} {state : MetaTxForwarder.State} {_to : Address} {call : Call} :
      Submitted deployment sent (.forwarder (execution _request _signatures isEOASignature)) →
      dispatch deployment _to (MetaTxForwarder.callDataOf state _request) = some call →
      Submitted deployment sent call

/-- The request that the forwarder is about to deliver: its nonce was current, and the signatures it
was submitted with were accepted, as those of a wallet or of an account. -/
structure Accepted (deployment : Deployment) (sent : List Transaction) (whole : State)
    (_request : MetaTxForwarder.ExecutionRequest) (txHash : Bytes32) : Prop where
  encoded : ∃ txHashEncoded, MetaTxForwarder.encodeRequest deployment.evm whole.forwarder
    _request = .ok txHashEncoded ∧ txHash = deployment.evm.keccak256 txHashEncoded
  nonce : whole.forwarder.nonces _request.from_ (MetaTxForwarder.channelOf _request.nonce) =
    MetaTxForwarder.nonceOf _request.nonce + 1
  signed : ∃ behind _signatures isEOASignature,
    Submitted deployment sent (.forwarder (execution _request _signatures isEOASignature)) ∧
      if isEOASignature then
        MetaTxForwarder.verifySigner deployment.evm behind _request txHash _signatures = .ok ()
      else LicensedUserManager.isValidSignatureSet deployment.evm behind whole.manager
        _request.from_ txHash _signatures = .ok LicensedUserManager.IS_VALID_SIG_SUCCESS

def Forwarded (deployment : Deployment) (sent : List Transaction) (msg : Msg) (call : Call)
    (whole : State) (_request : MetaTxForwarder.ExecutionRequest) (txHash : Bytes32) : Prop :=
  Accepted deployment sent whole _request txHash ∧
    msg = ⟨deployment.forwarder, MetaTxForwarder.callDataOf whole.forwarder _request⟩ ∧
    ∃ _to, MetaTxForwarder.destinationOf (worldOf deployment whole) whole.forwarder _request =
      .ok _to ∧ dispatch deployment _to msg.data = some call

def Sent (deployment : Deployment) (sent : List Transaction) (msg : Msg) (call : Call) : Prop :=
  msg.sender ∉ deployment.contracts ∧ KeepsWiring deployment call ∧
    ∃ transaction ∈ sent, transaction.msg = msg ∧ transaction.call = call

def Backed (deployment : Deployment) (sent : List Transaction)
    (Fresh : State → MetaTxForwarder.ExecutionRequest → Prop) (msg : Msg) (call : Call)
    (whole : State) : Prop :=
  Sent deployment sent msg call ∨
    ∃ _request txHash, Forwarded deployment sent msg call whole _request txHash ∧
      Fresh whole _request

/-- What the administrator decides about requests. -/
def SameSettings (before after : MetaTxForwarder.State) : Prop :=
  after.typeHashes = before.typeHashes ∧ after.requestTypes = before.requestTypes ∧
    after.domainSeparator = before.domainSeparator ∧
    after.collectionRegistry = before.collectionRegistry

/-- Nonces are only ever used up. -/
def Counted (before after : MetaTxForwarder.State) : Prop :=
  ∀ wallet channel, (before.nonces wallet channel).toNat ≤ (after.nonces wallet channel).toNat

-- The request's nonce is used up.
def noted (state : MetaTxForwarder.State) (_request : MetaTxForwarder.ExecutionRequest) :
    MetaTxForwarder.State :=
  { state with
    nonces := update₂ state.nonces _request.from_ (MetaTxForwarder.channelOf _request.nonce)
      (MetaTxForwarder.nonceOf _request.nonce + 1) }

theorem noted_nonce (state : MetaTxForwarder.State)
    (_request : MetaTxForwarder.ExecutionRequest) :
    (noted state _request).nonces _request.from_ (MetaTxForwarder.channelOf _request.nonce) =
      MetaTxForwarder.nonceOf _request.nonce + 1 := by
  simp [noted, update₂_apply]

/-- The request is the next one of its sender on its channel. -/
def Next (state : MetaTxForwarder.State) (_request : MetaTxForwarder.ExecutionRequest) : Prop :=
  MetaTxForwarder.nonceOf _request.nonce =
      state.nonces _request.from_ (MetaTxForwarder.channelOf _request.nonce) ∧
    (MetaTxForwarder.nonceOf _request.nonce).toNat + 1 < 2 ^ 128

theorem Next.counted {state : MetaTxForwarder.State}
    {_request : MetaTxForwarder.ExecutionRequest} (next : Next state _request) :
    Counted state (noted state _request) := by
  intro wallet channel
  simp only [noted, update₂_apply]
  split
  · rename_i here
    obtain ⟨rfl, rfl⟩ := here
    rw [← next.1, BitVec.toNat_add]
    have room := next.2
    have one : (1 : Uint128).toNat = 1 := rfl
    rw [one, Nat.mod_eq_of_lt room]
    omega
  · exact Nat.le_refl _

/-- What of the whole is kept by each contract, besides the wiring, and what happens to it while a
call waits. -/
structure Rule (deployment : Deployment) (sent : List Transaction) (Extra : State → Prop)
    (Fresh : State → MetaTxForwarder.ExecutionRequest → Prop) (Rel : State → State → Prop) :
    Prop where
  refl : ∀ whole, Rel whole whole
  trans : ∀ {first middle last}, Rel first middle → Rel middle last → Rel first last
  names : ∀ {whole names msg call}, Wired deployment whole → Extra whole →
    Backed deployment sent Fresh msg (.names call) whole →
    Names.execute msg call whole.names = .ok names →
    Extra { whole with names } ∧ Rel whole { whole with names }
  settles : ∀ {whole forwarder transaction call}, Wired deployment whole → Extra whole →
    Backed deployment sent Fresh transaction.msg (.forwarder call) whole →
    whole.names.registry.administrator = transaction.msg.sender → transaction.call = call →
    MetaTxForwarder.entry (forwarderDeployment deployment) transaction whole.forwarder =
      .done forwarder →
    forwarder.nonces = whole.forwarder.nonces →
    Extra { whole with forwarder } ∧ Rel whole { whole with forwarder }
  forwarder : ∀ {whole} forwarder, SameSettings whole.forwarder forwarder →
    Counted whole.forwarder forwarder → Extra whole →
    Extra { whole with forwarder } ∧ Rel whole { whole with forwarder }
  accepts : ∀ {whole _request}, Extra whole → Next whole.forwarder _request →
    Fresh { whole with forwarder := noted whole.forwarder _request } _request
  elsewhere : ∀ {whole} elsewhere, Extra whole →
    Extra { whole with elsewhere } ∧ Rel whole { whole with elsewhere }
  manager : ∀ {whole manager msg call}, Wired deployment whole → Extra whole →
    Backed deployment sent Fresh msg (.manager call) whole →
    LicensedUserManager.execute (managerDeployment deployment) ⟨worldOf deployment whole, msg, call⟩
      whole.manager = .ok manager →
    Extra { whole with manager } ∧ Rel whole { whole with manager }
  registry : ∀ {whole msg call depth}, Wired deployment whole → Extra whole →
    Backed deployment sent Fresh msg (.registry call) whole →
    ((Registry.perform (registryDeployment deployment) (worldOf deployment whole) depth msg call
      whole.registry).plug registryPart (serveRegistry deployment) whole).Obeys
        (fun whole => Wired deployment whole ∧ Extra whole) Rel
        (fun value => (Wired deployment value.1 ∧ Extra { value.1 with registry := value.2 }) ∧
          Rel whole { value.1 with registry := value.2 })
  bulk : ∀ {whole msg call}, Wired deployment whole → Extra whole →
    Backed deployment sent Fresh msg (.bulk call) whole →
    ((Bulk.entry deployment.evm ⟨worldOf deployment whole, msg, call⟩ whole.bulk).plug bulkPart
      (serveBulk deployment) whole).Obeys
        (fun whole => Wired deployment whole ∧ Extra whole) Rel
        (fun value => (Wired deployment { value.1 with bulk := value.2 } ∧
            Extra { value.1 with bulk := value.2 }) ∧
          Rel whole { value.1 with bulk := value.2 })

section Backing

variable {deployment : Deployment} {sent : List Transaction} {whole : State} {msg : Msg}
  {call : Call} {Fresh : State → MetaTxForwarder.ExecutionRequest → Prop}

/-- The administrator does not call through the forwarder. -/
theorem Wired.administrator_outside (wired : Wired deployment whole)
    (backed : Backed deployment sent Fresh msg call whole)
    (same : whole.names.registry.administrator = msg.sender) :
    Sent deployment sent msg call := by
  rcases backed with outside | ⟨_, _, ⟨_, rfl, _⟩, _⟩
  · exact outside
  · exact absurd forwarder_mem (same ▸ wired.names.administrator)

theorem Backed.submitted (backed : Backed deployment sent Fresh msg call whole) :
    Submitted deployment sent call := by
  rcases backed with
    ⟨_, _, transaction, belongs, _, rfl⟩ | ⟨_request, _, ⟨accepted, rfl, _to, _, named⟩, _⟩
  · exact .sent belongs
  · obtain ⟨_, _, _, submitted, _⟩ := accepted.signed
    exact .wrapped submitted named

theorem Backed.keeps (backed : Backed deployment sent Fresh msg call whole)
    (wired : Wired deployment whole) :
    ((worldOf deployment whole).nameRegistry deployment.nameRegistry).administrator = msg.sender →
      KeepsWiring deployment call := by
  rw [worldOf_nameRegistry]
  exact fun same => (wired.administrator_outside backed same).2.1

end Backing

section Frames

variable {deployment : Deployment} {Extra : State → Prop} {Rel : State → State → Prop}
  {whole : State} {msg : Msg}

theorem Wired.put_registry (wired : Wired deployment whole) (registry : Registry.State) :
    Wired deployment { whole with registry } :=
  ⟨wired.names, wired.forwarder, wired.manager, wired.bulk⟩

theorem serveRegistry_obeys (refl : ∀ whole, Rel whole whole) {Inv : State → Prop}
    (query : Registry.Query) (inv : Inv whole) :
    (serveRegistry deployment query whole).Obeys Inv Rel
      (fun value => Inv value.1 ∧ Rel whole value.1) := by
  unfold serveRegistry
  split
  · exact ⟨inv, refl whole⟩
  · exact Outcome.Obeys.external inv

variable (refl : ∀ whole, Rel whole whole)
  (trans : ∀ {first middle last}, Rel first middle → Rel middle last → Rel first last)
  (registry : ∀ {whole} registry, KeepsRecords whole.registry registry → Extra whole →
    Extra { whole with registry } ∧ Rel whole { whole with registry })

include refl trans registry

theorem registry_frame {code : Registry.Execution Registry.State} (wired : Wired deployment whole)
    (extra : Extra whole) (segments : code.Segments KeepsRecords KeepsRecords whole.registry) :
    (code.plug registryPart (serveRegistry deployment) whole).Obeys
      (fun whole => Wired deployment whole ∧ Extra whole) Rel
      (fun value => (Wired deployment value.1 ∧ Extra { value.1 with registry := value.2 }) ∧
        Rel whole { value.1 with registry := value.2 }) := by
  have own : ∀ {whole : State} {state : Registry.State}, Wired deployment whole ∧ Extra whole →
      KeepsRecords (registryPart.get whole) state →
      (Wired deployment (registryPart.put whole state) ∧ Extra (registryPart.put whole state)) ∧
        Rel whole (registryPart.put whole state) := by
    intro whole state inv kept
    obtain ⟨extra', since⟩ := registry state kept inv.2
    exact ⟨⟨inv.1.put_registry state, extra'⟩, since⟩
  have obeys : (code.plug registryPart (serveRegistry deployment) whole).Obeys
      (fun whole => Wired deployment whole ∧ Extra whole) Rel
      (fun value => (Wired deployment value.1 ∧ Extra value.1) ∧ Rel whole value.1 ∧
        KeepsRecords value.1.registry value.2) :=
    Outcome.Obeys.plug (fun whole => Wired deployment whole ∧ Extra whole) Rel trans own
      (fun query whole inv => serveRegistry_obeys refl query inv) ⟨wired, extra⟩ (refl whole)
      segments
  refine obeys.mono ?_
  rintro ⟨later, state⟩ ⟨inv, since, kept⟩
  obtain ⟨inv', since'⟩ := own inv kept
  exact ⟨⟨inv.1, inv'.2⟩, trans since since'⟩

theorem registryFromBulk_frame (query : Bulk.Query) (wired : Wired deployment whole)
    (extra : Extra whole) :
    (registryFromBulk deployment query whole).Obeys
      (fun whole => Wired deployment whole ∧ Extra whole) Rel
      (fun value => (Wired deployment value.1 ∧ Extra value.1) ∧ Rel whole value.1) := by
  have written : ∀ state, KeepsRecords whole.registry state →
      (Wired deployment { whole with registry := state } ∧ Extra { whole with registry := state }) ∧
        Rel whole { whole with registry := state } := by
    intro state kept
    obtain ⟨extra', since⟩ := registry state kept extra
    exact ⟨⟨wired.put_registry state, extra'⟩, since⟩
  cases query with
  | createSRRFromBulk =>
      apply Outcome.Obeys.lift_bind
      rintro ⟨state, tokenId⟩ created
      exact written state (createSRRFromBulk_keepsRecords created)
  | approveSRRByCommitmentFromBulk =>
      apply Outcome.Obeys.lift_bind
      intro state approved
      exact written state (approveFromBulk_keepsRecords (registryDeployment deployment) approved)
  | transferFromWithProvenanceFromBulk _ signer to_ tokenId historyMetadataHash customHistoryId
      isIntermediary =>
      have segments : ∀ msg, (Registry.transferFromWithProvenanceFromBulk
          (registryDeployment deployment) (worldOf deployment whole) msg whole.registry signer to_
          tokenId historyMetadataHash customHistoryId isIntermediary).Segments KeepsRecords
          KeepsRecords whole.registry :=
        fun msg => registry_keepsRecords 0 (.transferFromWithProvenanceFromBulk signer to_ tokenId
          historyMetadataHash customHistoryId isIntermediary)
      refine Outcome.Obeys.bind (registry_frame refl trans registry wired extra (segments _)) ?_
      rintro ⟨later, state⟩ ⟨⟨wired', extra'⟩, since⟩
      exact ⟨⟨wired'.put_registry state, extra'⟩, since⟩

theorem serveBulk_frame (query : Bulk.Query) (wired : Wired deployment whole)
    (extra : Extra whole) :
    (serveBulk deployment query whole).Obeys
      (fun whole => Wired deployment whole ∧ Extra whole) Rel
      (fun value => (Wired deployment value.1 ∧ Extra value.1) ∧ Rel whole value.1 ∧
        value.2.world = worldOf deployment value.1) := by
  have same : (Wired deployment whole ∧ Extra whole) ∧ Rel whole whole :=
    ⟨⟨wired, extra⟩, refl whole⟩
  have answered : (replyToBulk deployment query whole).Obeys
      (fun whole => Wired deployment whole ∧ Extra whole) Rel
      (fun value : State × Reply =>
        (Wired deployment value.1 ∧ Extra value.1) ∧ Rel whole value.1) := by
    unfold replyToBulk
    split
    · exact (registryFromBulk_frame refl trans registry query wired extra).attempt fun _ => same
    · split
      · exact same
      · exact Outcome.Obeys.external ⟨wired, extra⟩
  exact Outcome.Obeys.bind answered fun value kept => ⟨kept.1, kept.2, rfl⟩

theorem bulk_frame {Step : Bulk.State → Bulk.State → Prop}
    {code : Bulk.Execution Bulk.State}
    (bulk : ∀ {whole bulk}, Extra whole → Step whole.bulk bulk →
      (BulkWired deployment whole.bulk → BulkWired deployment bulk) ∧
        Extra { whole with bulk } ∧ Rel whole { whole with bulk })
    (wired : Wired deployment whole) (extra : Extra whole)
    (segments : code.Segments Step Step whole.bulk) :
    (code.plug bulkPart (serveBulk deployment) whole).Obeys
        (fun whole => Wired deployment whole ∧ Extra whole) Rel
        (fun value => (Wired deployment { value.1 with bulk := value.2 } ∧
            Extra { value.1 with bulk := value.2 }) ∧
          Rel whole { value.1 with bulk := value.2 }) := by
  have own : ∀ {whole : State} {state : Bulk.State}, Wired deployment whole ∧ Extra whole →
      Step (bulkPart.get whole) state →
      (Wired deployment (bulkPart.put whole state) ∧ Extra (bulkPart.put whole state)) ∧
        Rel whole (bulkPart.put whole state) := by
    intro whole state inv step
    obtain ⟨kept, extra', since⟩ := bulk inv.2 step
    exact ⟨⟨⟨inv.1.names, inv.1.forwarder, inv.1.manager, kept inv.1.bulk⟩, extra'⟩, since⟩
  have obeys : (code.plug bulkPart (serveBulk deployment) whole).Obeys
      (fun whole => Wired deployment whole ∧ Extra whole) Rel
      (fun value => (Wired deployment value.1 ∧ Extra value.1) ∧ Rel whole value.1 ∧
        Step value.1.bulk value.2) :=
    Outcome.Obeys.plug (fun whole => Wired deployment whole ∧ Extra whole) Rel trans own
      (fun query whole inv => (serveBulk_frame refl trans registry query inv.1 inv.2).mono
        fun value kept => ⟨kept.1, kept.2.1⟩)
      ⟨wired, extra⟩ (refl whole) segments
  refine obeys.mono ?_
  rintro ⟨later, state⟩ ⟨inv, since, step⟩
  obtain ⟨inv', since'⟩ := own inv step
  exact ⟨inv', trans since since'⟩

end Frames

section Rules

variable {deployment : Deployment} {Extra : State → Prop} {Rel : State → State → Prop}
  {Fresh : State → MetaTxForwarder.ExecutionRequest → Prop} {sent : List Transaction}
  {whole : State} {msg : Msg} {behind : Nat → UInt8} {depth : Nat}
  {deliver : Msg → Call → State → Execution State}

def Delivers (deployment : Deployment) (sent : List Transaction) (Extra : State → Prop)
    (Fresh : State → MetaTxForwarder.ExecutionRequest → Prop) (Rel : State → State → Prop)
    (deliver : Msg → Call → State → Execution State) : Prop :=
  ∀ ⦃msg call whole⦄, Wired deployment whole → Extra whole →
    Backed deployment sent Fresh msg call whole → (deliver msg call whole).Obeys
      (fun whole => Wired deployment whole ∧ Extra whole) Rel
      (fun later => (Wired deployment later ∧ Extra later) ∧ Rel whole later)

/-- The call that a request comes to. -/
theorem Rule.served (rule : Rule deployment sent Extra Fresh Rel)
    (delivers : Delivers deployment sent Extra Fresh Rel deliver) (wired : Wired deployment whole)
    (extra : Extra whole) {_request : MetaTxForwarder.ExecutionRequest} {txHash : Bytes32}
    {_to : Address}
    (accepted : Accepted deployment sent whole _request txHash) (fresh : Fresh whole _request)
    (found : MetaTxForwarder.destinationOf (worldOf deployment whole) whole.forwarder _request =
      .ok _to) :
    (serveForwarder deployment behind deliver
      (.call _to (MetaTxForwarder.callDataOf whole.forwarder _request)) whole).Obeys
      (fun whole => Wired deployment whole ∧ Extra whole) Rel
      (fun value => (Wired deployment value.1 ∧ Extra value.1) ∧ Rel whole value.1) := by
  have same : (Wired deployment whole ∧ Extra whole) ∧ Rel whole whole :=
    ⟨⟨wired, extra⟩, rule.refl whole⟩
  have answered : (delivered deployment deliver _to
      (MetaTxForwarder.callDataOf whole.forwarder _request) whole).Obeys
      (fun whole => Wired deployment whole ∧ Extra whole) Rel
      (fun value => (Wired deployment value.1 ∧ Extra value.1) ∧ Rel whole value.1) := by
    unfold delivered
    split
    · split
      · exact same
      · rename_i call named
        refine Outcome.Obeys.attempt (Outcome.Obeys.bind (delivers wired extra ?_) ?_) ?_
        · exact Or.inr ⟨_request, txHash, ⟨accepted, rfl, _to, found, named⟩, fresh⟩
        · exact fun later kept => kept
        · exact fun _ => same
    · exact Outcome.Obeys.external ⟨wired, extra⟩
  exact Outcome.Obeys.bind answered fun value kept => kept

theorem Wired.put_forwarder (wired : Wired deployment whole) {forwarder : MetaTxForwarder.State}
    (kept : ForwarderWired deployment forwarder) : Wired deployment { whole with forwarder } :=
  ⟨wired.names, kept, wired.manager, wired.bulk⟩

/-- The end of an execution: the call is made, and its success is logged. -/
theorem Rule.conclude (rule : Rule deployment sent Extra Fresh Rel)
    (delivers : Delivers deployment sent Extra Fresh Rel deliver) (entered : State)
    (forwarder : MetaTxForwarder.State)
    (wired : Wired deployment { entered with forwarder }) (extra : Extra { entered with forwarder })
    (since : Rel whole { entered with forwarder })
    {_request : MetaTxForwarder.ExecutionRequest} {txHash : Bytes32}
    (accepted : Accepted deployment sent { entered with forwarder } _request txHash)
    (fresh : Fresh { entered with forwarder } _request) :
    (Outcome.plug forwarderPart (serveForwarder deployment behind deliver) (do
      let destination ←
        MetaTxForwarder.destinationOf (worldOf deployment entered) forwarder _request
      MetaTxForwarder.executeCall forwarder destination
        (MetaTxForwarder.callDataOf forwarder _request) txHash) entered).Obeys
      (fun whole => Wired deployment whole ∧ Extra whole) Rel
      (fun value => (Wired deployment { value.1 with forwarder := value.2 } ∧
          Extra { value.1 with forwarder := value.2 }) ∧
        Rel whole { value.1 with forwarder := value.2 }) := by
  apply Outcome.Obeys.plug_lift_bind
  intro destination found
  unfold MetaTxForwarder.executeCall
  rw [Outcome.plug_external_bind]
  refine Outcome.Obeys.bind (rule.served delivers wired extra accepted fresh found) ?_
  rintro ⟨later, answer⟩ ⟨⟨wired', extra'⟩, since'⟩
  dsimp only
  split
  · have logged := rule.forwarder (later.forwarder.emit (.ExecutionSuccess txHash))
      ⟨rfl, rfl, rfl, rfl⟩ (fun _ _ => Nat.le_refl _) extra'
    exact ⟨⟨wired'.put_forwarder wired'.forwarder, logged.1⟩,
      rule.trans since (rule.trans since' logged.2)⟩
  · trivial

theorem isValidSignatureSet_success {evm : Evm} {state : LicensedUserManager.State}
    {_walletAddress : Address} {_hash : Bytes32} {_signatures : Bytes} {magic : Bytes4}
    (valid : LicensedUserManager.isValidSignatureSet evm behind state _walletAddress _hash
      _signatures = .ok magic) : magic = LicensedUserManager.IS_VALID_SIG_SUCCESS := by
  simp only [LicensedUserManager.isValidSignatureSet, bind_eq_ok] at valid
  obtain ⟨_, _, checked⟩ := valid
  split at checked
  · simp only [bind_eq_ok, pure_eq_ok] at checked
    obtain ⟨_, _, rfl⟩ := checked
    rfl
  · simp only [bind_eq_ok, pure_eq_ok] at checked
    obtain ⟨_, _, rfl⟩ := checked
    rfl

theorem signatureSetReply_accepts {_walletAddress : Address} {_hash : Bytes32}
    {_signatures : Bytes}
    (success : (signatureSetReply deployment behind whole _walletAddress _hash
      _signatures).success = true) :
    LicensedUserManager.isValidSignatureSet deployment.evm behind whole.manager _walletAddress _hash
      _signatures = .ok LicensedUserManager.IS_VALID_SIG_SUCCESS := by
  unfold signatureSetReply at success
  split at success
  · rename_i magic valid
    rw [valid, isValidSignatureSet_success valid]
  · cases success

theorem serveForwarder_valid {_walletAddress : Address} {_hash : Bytes32} {_signatures : Bytes} :
    serveForwarder deployment behind deliver
      (.isValidSignatureSet deployment.manager _walletAddress _hash _signatures) whole =
      pure (whole, ⟨signatureSetReply deployment behind whole _walletAddress _hash _signatures,
        worldOf deployment whole⟩) := by
  simp only [serveForwarder, replyToForwarder, if_true, pure_bind]

theorem Rule.executeTransactionInternal (rule : Rule deployment sent Extra Fresh Rel)
    (delivers : Delivers deployment sent Extra Fresh Rel deliver) (wired : Wired deployment whole)
    (extra : Extra whole) {_request : MetaTxForwarder.ExecutionRequest} {_signatures : Bytes}
    {isEOASignature : Bool} (submitted : Submitted deployment sent
      (.forwarder (execution _request _signatures isEOASignature))) :
    ((MetaTxForwarder.executeTransactionInternal (forwarderDeployment deployment)
      (worldOf deployment whole) behind whole.forwarder _request _signatures isEOASignature).plug
        forwarderPart (serveForwarder deployment behind deliver) whole).Obeys
      (fun whole => Wired deployment whole ∧ Extra whole) Rel
      (fun value => (Wired deployment { value.1 with forwarder := value.2 } ∧
          Extra { value.1 with forwarder := value.2 }) ∧
        Rel whole { value.1 with forwarder := value.2 }) := by
  apply Outcome.Obeys.plug_lift_bind
  intro _ _
  apply Outcome.Obeys.plug_lift_bind
  rintro ⟨success, pending⟩ checked
  apply Outcome.Obeys.plug_lift_bind
  intro _ successful
  obtain ⟨current, room, consumed⟩ :=
    MetaTxForwarder.checkAndUpdateNonce_effect checked (by simpa using successful)
  obtain rfl : pending = noted whole.forwarder _request := consumed
  have next : Next whole.forwarder _request := ⟨current, room⟩
  apply Outcome.Obeys.plug_lift_bind
  intro txHashEncoded encoded
  obtain ⟨extra', since⟩ := rule.forwarder (noted whole.forwarder _request)
    ⟨rfl, rfl, rfl, rfl⟩ next.counted extra
  have fresh := rule.accepts extra next
  have wired' : Wired deployment { whole with forwarder := noted whole.forwarder _request } :=
    wired.put_forwarder wired.forwarder
  cases isEOASignature with
  | true =>
      simp only [if_true, bind_assoc, pure_bind]
      apply Outcome.Obeys.plug_lift_bind
      intro _ verified
      exact rule.conclude delivers whole (noted whole.forwarder _request) wired' extra' since
        ⟨⟨_, encoded, rfl⟩, noted_nonce _ _, behind, _signatures, true, submitted, verified⟩ fresh
  | false =>
      have manager : ((worldOf deployment whole).nameRegistry
          (noted whole.forwarder _request).nameRegistryAddress).get LICENSED_USER_MANAGER =
            deployment.manager := by
        rw [show (noted whole.forwarder _request).nameRegistryAddress = deployment.nameRegistry
          from wired.forwarder.2, worldOf_nameRegistry, wired.names.manager]
      simp only [Bool.false_eq_true, if_false, MetaTxForwarder.verifySignatureSet, manager,
        bind_assoc, Outcome.plug_external_bind, serveForwarder_valid, pure_bind]
      split
      · trivial
      · rename_i success
        split
        · trivial
        · simp only [bind_assoc, pure_bind]
          apply Outcome.Obeys.plug_lift_bind
          intro _ _
          exact rule.conclude delivers { whole with forwarder := noted whole.forwarder _request }
            (noted whole.forwarder _request) wired' extra' since
            ⟨⟨_, encoded, rfl⟩, noted_nonce _ _, behind, _signatures, false, submitted,
              signatureSetReply_accepts (Bool.of_not_eq_false success)⟩ fresh

theorem Rule.forwards (rule : Rule deployment sent Extra Fresh Rel)
    (delivers : Delivers deployment sent Extra Fresh Rel deliver) (wired : Wired deployment whole)
    (extra : Extra whole) (call : MetaTxForwarder.Call)
    (backed : Backed deployment sent Fresh msg (.forwarder call) whole) :
    ((MetaTxForwarder.entry (forwarderDeployment deployment)
      ⟨worldOf deployment whole, msg, behind, call⟩ whole.forwarder).plug forwarderPart
        (serveForwarder deployment behind deliver) whole).Obeys
      (fun whole => Wired deployment whole ∧ Extra whole) Rel
      (fun value => (Wired deployment { value.1 with forwarder := value.2 } ∧
          Extra { value.1 with forwarder := value.2 }) ∧
        Rel whole { value.1 with forwarder := value.2 }) := by
  have settled : ∀ forwarder, ForwarderWired deployment forwarder →
      ((worldOf deployment whole).nameRegistry whole.forwarder.nameRegistryAddress).administrator =
        msg.sender →
      MetaTxForwarder.entry (forwarderDeployment deployment)
        ⟨worldOf deployment whole, msg, behind, call⟩ whole.forwarder = .done forwarder →
      forwarder.nonces = whole.forwarder.nonces →
      (Wired deployment { whole with forwarder } ∧ Extra { whole with forwarder }) ∧
        Rel whole { whole with forwarder } := by
    intro forwarder kept administrator entered same
    rw [wired.forwarder.2, worldOf_nameRegistry] at administrator
    obtain ⟨extra', since⟩ := rule.settles wired extra backed administrator rfl entered same
    exact ⟨⟨wired.put_forwarder kept, extra'⟩, since⟩
  cases call with
  | initializeV1 _nameRegistry =>
      apply Outcome.Obeys.plug_lift
      intro forwarder accepted
      simp only [MetaTxForwarder.initializeV1, bind_eq_ok] at accepted
      obtain ⟨_, passed, _⟩ := accepted
      exact absurd wired.forwarder.1 (initializer_unready passed)
  | setCollectionRegistry _registry =>
      apply Outcome.Obeys.plug_lift
      intro forwarder accepted
      have entered := congrArg (fun result => (liftM result : MetaTxForwarder.Execution _)) accepted
      simp only [MetaTxForwarder.setCollectionRegistry, MetaTxForwarder.onlyAdministrator,
        bind_eq_ok, require_eq_ok, pure_eq_ok] at accepted
      obtain ⟨_, administrator, _, _, rfl⟩ := accepted
      exact settled _ wired.forwarder administrator entered rfl
  | registerRequestType _typeName _typeSuffix _destinationContract _functionSignature =>
      apply Outcome.Obeys.plug_lift
      intro forwarder accepted
      have entered := congrArg (fun result => (liftM result : MetaTxForwarder.Execution _)) accepted
      simp only [MetaTxForwarder.registerRequestType, MetaTxForwarder.onlyAdministrator,
        bind_eq_ok, require_eq_ok, pure_eq_ok] at accepted
      obtain ⟨_, administrator, _, _, _, _, rfl⟩ := accepted
      exact settled _ wired.forwarder administrator entered rfl
  | unregisterRequestType _typeHash =>
      apply Outcome.Obeys.plug_lift
      intro forwarder accepted
      have entered := congrArg (fun result => (liftM result : MetaTxForwarder.Execution _)) accepted
      simp only [MetaTxForwarder.unregisterRequestType, MetaTxForwarder.onlyAdministrator,
        bind_eq_ok, require_eq_ok, pure_eq_ok] at accepted
      obtain ⟨_, _, _, administrator, rfl⟩ := accepted
      exact settled _ wired.forwarder administrator entered rfl
  | executeTransactionLUW _request _signatures =>
      apply Outcome.Obeys.plug_lift_bind
      exact fun _ _ => rule.executeTransactionInternal delivers wired extra backed.submitted
  | executeTransactionEOA _request _signature =>
      apply Outcome.Obeys.plug_lift_bind
      exact fun _ _ => rule.executeTransactionInternal delivers wired extra backed.submitted

theorem Rule.run (rule : Rule deployment sent Extra Fresh Rel)
    (delivers : Delivers deployment sent Extra Fresh Rel deliver) :
    Delivers deployment sent Extra Fresh Rel (Platform.run deployment behind depth deliver) := by
  intro msg call whole wired extra backed
  cases call with
  | names call =>
      apply Outcome.Obeys.lift_bind
      intro names accepted
      obtain ⟨extra', since⟩ := rule.names wired extra backed accepted
      have administered := wired.administrator_outside backed (wired.names.called accepted)
      have names' := wired.names.execute administered.2.1 accepted
      exact ⟨⟨⟨names', wired.forwarder, wired.manager, wired.bulk⟩, extra'⟩, since⟩
  | forwarder call =>
      apply Outcome.Obeys.bind (rule.forwards delivers wired extra call backed)
      exact fun value kept => kept
  | manager call =>
      apply Outcome.Obeys.lift_bind
      intro manager accepted
      obtain ⟨extra', since⟩ := rule.manager wired extra backed accepted
      have manager' := wired.manager.execute accepted
      exact ⟨⟨⟨wired.names, wired.forwarder, manager', wired.bulk⟩, extra'⟩, since⟩
  | registry call =>
      apply Outcome.Obeys.bind (rule.registry wired extra backed)
      rintro ⟨later, registry⟩ ⟨⟨wired', extra'⟩, since⟩
      exact ⟨⟨⟨wired'.names, wired'.forwarder, wired'.manager, wired'.bulk⟩, extra'⟩, since⟩
  | bulk call =>
      apply Outcome.Obeys.bind (rule.bulk wired extra backed)
      exact fun value kept => kept
  | elsewhere world =>
      obtain ⟨extra', since⟩ := rule.elsewhere world extra
      exact ⟨⟨⟨wired.names, wired.forwarder, wired.manager, wired.bulk⟩, extra'⟩, since⟩

theorem Rule.perform (rule : Rule deployment sent Extra Fresh Rel) {memory : Nat → Nat → UInt8} :
    Delivers deployment sent Extra Fresh Rel (Platform.perform deployment memory depth) := by
  induction depth with
  | zero =>
      have reverts : Delivers deployment sent Extra Fresh Rel fun _ _ _ => .revert .empty :=
        fun _ _ _ _ _ _ => trivial
      exact rule.run reverts
  | succ depth ih => exact rule.run ih

theorem Rule.reach {origin : State} {config : Config Revert State Query Reply Transaction}
    (rule : Rule deployment config.now.trace Extra Fresh Rel) (wired : Wired deployment origin)
    (extra : Extra origin) (reach : Reach (entry deployment) (Legal deployment) origin config) :
    Wired deployment config.now.state ∧ Extra config.now.state := by
  have step : ∀ transaction whole,
      WithinTrace (Legal deployment) config.now.trace transaction whole →
      Wired deployment whole ∧ Extra whole →
      (entry deployment transaction whole).Obeys (fun whole => Wired deployment whole ∧ Extra whole)
        Rel (fun later => (Wired deployment later ∧ Extra later) ∧ Rel whole later) := by
    intro transaction whole within kept
    exact rule.perform kept.1 kept.2
      (Or.inl ⟨within.1.1, within.1.2, transaction, within.2, rfl, rfl⟩)
  exact Reach.obeys rule.refl rule.trans step ⟨wired, extra⟩ reach.within

end Rules

section Samples

open MetaTxForwarder (forwarderAddress administratorAddress managerAddress registryAddress
  domainHash)

def nameRegistryAddress : Address := 0x4a3e

def bulkAddress : Address := 0xb01c

/-- The contracts at some addresses, where few calls are known. -/
def systemDeployment (evm : Evm) (managerDispatch : Bytes → Option LicensedUserManager.Call)
    (bulkDispatch : Bytes → Option Bulk.Call) : Deployment where
  evm := evm
  nameRegistry := nameRegistryAddress
  forwarder := forwarderAddress
  manager := managerAddress
  registry := registryAddress
  bulk := bulkAddress
  beaconProxyCreationCode := []
  namesDispatch _ := none
  forwarderDispatch _ := none
  managerDispatch := managerDispatch
  registryDispatch _ := none
  bulkDispatch := bulkDispatch
  bulkCalldata _ := []
  returndataOf _ := []

/-- The initializers have run, and the contracts have their names. -/
def systemOrigin : State where
  names := ⟨⟨1, false⟩, ⟨fun key => ([(ADMINISTRATOR, administratorAddress),
    (LICENSED_USER_MANAGER, managerAddress), (STARTRAIL_REGISTRY, registryAddress),
    (BULK, bulkAddress)].lookup key).getD 0⟩⟩
  forwarder :=
    { MetaTxForwarder.State.blank with
      initializable := ⟨1, false⟩
      domainSeparator := domainHash
      nameRegistryAddress := nameRegistryAddress }
  manager :=
    { LicensedUserManager.State.blank with
      initializable := ⟨2, false⟩
      trustedForwarder := forwarderAddress
      nameRegistryAddress := nameRegistryAddress }
  registry :=
    { Registry.State.blank with
      trustedForwarder := forwarderAddress
      nameRegistryAddress := nameRegistryAddress
      maxCombinedHistoryRecords := 10 }
  bulk :=
    { Bulk.State.blank with
      initializable := ⟨1, false⟩
      trustedForwarder := forwarderAddress
      nameRegistryAddress := nameRegistryAddress }
  elsewhere := World.named []

theorem administrator_outside : administratorAddress ∉
    [nameRegistryAddress, forwarderAddress, managerAddress, registryAddress, bulkAddress] := by
  decide

theorem systemOrigin_wired (evm : Evm)
    (managerDispatch : Bytes → Option LicensedUserManager.Call)
    (bulkDispatch : Bytes → Option Bulk.Call) :
    Wired (systemDeployment evm managerDispatch bulkDispatch) systemOrigin where
  names := ⟨BitVec.le_refl 1, administrator_outside, rfl, rfl⟩
  forwarder := ⟨BitVec.le_refl 1, rfl⟩
  manager := ⟨(by decide : (1 : Uint8) ≤ 2), rfl, rfl⟩
  bulk := ⟨BitVec.le_refl 1, rfl, rfl⟩

end Samples

end Startrail.Platform
