import Mathlib.Data.List.Perm.Subperm
import Startrail.MetaTx.Authority

/-!
Replay protection over all runs of the forwarder. The trace of a run lists the
calls that were entered and not rolled back; a request among them was accepted.
Along any run the accepted nonces of each wallet and channel count up from zero,
and the requests that report success are among those in the trace. While a
forwarded call is pending its hash is in the trace but not yet in the log: the
relation between the snapshots around a pending call keeps that place free.
-/

namespace Startrail.MetaTxForwarder

def requestOf (transaction : Transaction) : Option ExecutionRequest :=
  match transaction.call with
  | .executeTransactionLUW _request _ => some _request
  | .executeTransactionEOA _request _ => some _request
  | _ => none

def Targets (_request : ExecutionRequest) (wallet : Address) (channel : Uint128) : Prop :=
  _request.from_ = wallet ∧ channelOf _request.nonce = channel

instance (_request : ExecutionRequest) (wallet : Address) (channel : Uint128) :
    Decidable (Targets _request wallet channel) :=
  inferInstanceAs (Decidable (_ ∧ _))

def Submits (transaction : Transaction) (_request : ExecutionRequest) (_signatures : Bytes)
    (isEOASignature : Bool) : Prop :=
  transaction.call = if isEOASignature then .executeTransactionEOA _request _signatures
    else .executeTransactionLUW _request _signatures

def requests (trace : List Transaction) : List ExecutionRequest := trace.filterMap requestOf

/-- The nonces of the accepted requests of a wallet in a channel, the latest first. -/
def acceptedNonces (wallet : Address) (channel : Uint128) (trace : List Transaction) : List Nat :=
  ((requests trace).filter fun _request => Targets _request wallet channel).map
    fun _request => (nonceOf _request.nonce).toNat

def txHashOf (evm : Evm) (domainSeparator : Bytes32) (_request : ExecutionRequest) : Bytes32 :=
  evm.keccak256 ([0x19] ++ [0x01] ++ packWord domainSeparator ++
    packWord (evm.keccak256 (encodedStruct evm _request)))

def successHashes (logs : List Event) : List Bytes32 :=
  logs.filterMap fun event => match event with
    | .ExecutionSuccess txHash => some txHash
    | _ => none

structure Counted (snapshot : Snapshot State Transaction) : Prop where
  nonces : ∀ wallet channel, (acceptedNonces wallet channel snapshot.trace).reverse =
    List.range (getNonce snapshot.state wallet channel).toNat

structure Logged (evm : Evm) (domainSeparator : Bytes32)
    (snapshot : Snapshot State Transaction) : Prop where
  initialized : snapshot.state.initializable = ⟨1, false⟩
  domain : snapshot.state.domainSeparator = domainSeparator
  hashes : (successHashes snapshot.state.logs).Subperm
    ((requests snapshot.trace).map (txHashOf evm domainSeparator))

/-- The new successes are among the new calls. -/
def Follow (evm : Evm) (domainSeparator : Bytes32) (before after : Snapshot State Transaction) :
    Prop :=
  ∃ calls hashes, after.trace = calls ++ before.trace ∧
    successHashes after.state.logs = hashes ++ successHashes before.state.logs ∧
    hashes.Subperm ((requests calls).map (txHashOf evm domainSeparator))

variable {deployment : Deployment} {evm : Evm} {domainSeparator : Bytes32}

theorem requests_append (front back : List Transaction) :
    requests (front ++ back) = requests front ++ requests back :=
  List.filterMap_append ..

theorem Follow.refl (snapshot : Snapshot State Transaction) :
    Follow evm domainSeparator snapshot snapshot :=
  ⟨[], [], rfl, rfl, List.Subperm.refl _⟩

theorem Follow.trans {first middle last : Snapshot State Transaction}
    (before : Follow evm domainSeparator first middle)
    (after : Follow evm domainSeparator middle last) : Follow evm domainSeparator first last := by
  obtain ⟨calls, hashes, trace, logs, among⟩ := before
  obtain ⟨calls', hashes', trace', logs', among'⟩ := after
  refine ⟨calls' ++ calls, hashes' ++ hashes, ?_, ?_, ?_⟩
  · rw [trace', trace, List.append_assoc]
  · rw [logs', logs, List.append_assoc]
  · rw [requests_append, List.map_append]
    exact among'.append among

theorem Follow.hashes {before after : Snapshot State Transaction}
    (follow : Follow evm domainSeparator before after)
    (hashes : (successHashes before.state.logs).Subperm
      ((requests before.trace).map (txHashOf evm domainSeparator))) :
    (successHashes after.state.logs).Subperm
      ((requests after.trace).map (txHashOf evm domainSeparator)) := by
  obtain ⟨calls, new, trace, logs, among⟩ := follow
  rw [logs, trace, requests_append, List.map_append]
  exact among.append hashes

/-- A pending request that succeeds takes the place its hash has in the trace. -/
theorem Follow.succeed {_request : ExecutionRequest} {transaction : Transaction}
    (requested : requestOf transaction = some _request) {state pending later : State}
    {trace trace' : List Transaction} (quiet : pending.logs = state.logs)
    (follow : Follow evm domainSeparator ⟨pending, transaction :: trace⟩ ⟨later, trace'⟩) :
    Follow evm domainSeparator ⟨state, trace⟩
      ⟨later.emit (.ExecutionSuccess (txHashOf evm domainSeparator _request)), trace'⟩ := by
  obtain ⟨calls, hashes, same, logs, among⟩ := follow
  refine ⟨calls ++ [transaction], txHashOf evm domainSeparator _request :: hashes, ?_, ?_, ?_⟩
  · simpa using same
  · simp only at logs
    rw [quiet] at logs
    simp [State.emit, successHashes] at logs ⊢
    exact logs
  · have single : requests [transaction] = [_request] := by simp [requests, requested]
    rw [requests_append, single, List.map_append]
    have moved := (List.perm_append_singleton (txHashOf evm domainSeparator _request)
      ((requests calls).map (txHashOf evm domainSeparator))).symm
    exact ((List.subperm_cons _).mpr among).trans moved.subperm

theorem acceptedNonces_cons {_request : ExecutionRequest} {transaction : Transaction}
    (requested : requestOf transaction = some _request) (trace : List Transaction)
    (wallet : Address) (channel : Uint128) :
    acceptedNonces wallet channel (transaction :: trace) =
      if Targets _request wallet channel then
        (nonceOf _request.nonce).toNat :: acceptedNonces wallet channel trace
      else acceptedNonces wallet channel trace := by
  have split : requests (transaction :: trace) = _request :: requests trace := by
    simp [requests, requested]
  unfold acceptedNonces
  rw [split, List.filter_cons]
  by_cases targeted : Targets _request wallet channel
  · simp [targeted]
  · simp [targeted]

theorem Counted.accept {state : State} {trace : List Transaction} {transaction : Transaction}
    {_request : ExecutionRequest} (counted : Counted ⟨state, trace⟩)
    (requested : requestOf transaction = some _request)
    (current : nonceOf _request.nonce = state.nonces _request.from_ (channelOf _request.nonce))
    (room : (nonceOf _request.nonce).toNat + 1 < 2 ^ 128) :
    Counted ⟨{ state with
      nonces := update₂ state.nonces _request.from_ (channelOf _request.nonce)
        (nonceOf _request.nonce + 1) }, transaction :: trace⟩ := by
  constructor
  intro wallet channel
  have before := counted.nonces wallet channel
  simp only [getNonce, update₂_apply, acceptedNonces_cons requested] at before ⊢
  by_cases targeted : Targets _request wallet channel
  · have own : wallet = _request.from_ ∧ channel = channelOf _request.nonce :=
      ⟨targeted.1.symm, targeted.2.symm⟩
    have next : (nonceOf _request.nonce + 1).toNat = (nonceOf _request.nonce).toNat + 1 := by
      have one : (1 : Uint128).toNat = 1 := rfl
      rw [BitVec.toNat_add, one, Nat.mod_eq_of_lt room]
    rw [if_pos targeted, if_pos own, List.reverse_cons, before, next, List.range_succ, own.1, own.2,
      ← current]
  · have other : ¬(wallet = _request.from_ ∧ channel = channelOf _request.nonce) := by
      rintro ⟨rfl, rfl⟩
      exact targeted ⟨rfl, rfl⟩
    rw [if_neg targeted, if_neg other, before]

section Calls

variable {transaction : Transaction} {state state' : State} {trace : List Transaction}

structure Safe (evm : Evm) (domainSeparator : Bytes32) (snapshot : Snapshot State Transaction) :
    Prop where
  counted : Counted snapshot
  logged : Logged evm domainSeparator snapshot

theorem Safe.quiet (safe : Safe evm domainSeparator ⟨state, trace⟩)
    (silent : requestOf transaction = none) (nonces : state'.nonces = state.nonces)
    (initializable : state'.initializable = state.initializable)
    (domain : state'.domainSeparator = state.domainSeparator)
    (logs : successHashes state'.logs = successHashes state.logs) :
    Safe evm domainSeparator ⟨state', transaction :: trace⟩ ∧
      Follow evm domainSeparator ⟨state, trace⟩ ⟨state', transaction :: trace⟩ := by
  have none : requests [transaction] = [] := by simp [requests, silent]
  have same : requests (transaction :: trace) = requests trace := by
    rw [← List.singleton_append, requests_append, none, List.nil_append]
  refine ⟨⟨⟨?_⟩, ?_, ?_, ?_⟩, [transaction], [], rfl, ?_, List.nil_subperm⟩
  · intro wallet channel
    have before := safe.counted.nonces wallet channel
    simpa [acceptedNonces, getNonce, same, nonces] using before
  · exact initializable.trans safe.logged.initialized
  · exact domain.trans safe.logged.domain
  · simpa only [logs, same] using safe.logged.hashes
  · simpa using logs

variable {pending : Snapshot State Transaction} {world : World} {_request : ExecutionRequest}
  {_txHash : Bytes32} {_signatures _data : Bytes} {_to : Address}

theorem executeCall_meets {Post : State → List Transaction → Prop}
    (safe : Safe evm domainSeparator pending)
    (post : ∀ later trace', Safe evm domainSeparator ⟨later, trace'⟩ →
      Follow evm domainSeparator pending ⟨later, trace'⟩ →
      Post (later.emit (.ExecutionSuccess _txHash)) trace') :
    (executeCall pending.state _to _data _txHash).Meets (Safe evm domainSeparator)
      (Follow evm domainSeparator) Post pending.trace := by
  apply Outcome.Meets.bind (Outcome.Meets.external safe)
  rintro ⟨later, answer⟩ trace' ⟨safe', follow⟩
  dsimp only
  split
  · exact post later trace' safe' follow
  · trivial

theorem verifySignatureSet_meets (safe : Safe evm domainSeparator pending) :
    (verifySignatureSet world pending.state _request _txHash _signatures).Meets
      (Safe evm domainSeparator) (Follow evm domainSeparator)
      (fun value trace' => Safe evm domainSeparator ⟨value.2, trace'⟩ ∧
        Follow evm domainSeparator pending ⟨value.2, trace'⟩) pending.trace := by
  apply Outcome.Meets.bind (Outcome.Meets.external safe)
  rintro ⟨later, answer⟩ trace' resumed
  dsimp only
  split
  · trivial
  · split
    · trivial
    · apply Outcome.Meets.lift_bind
      intro _ _
      exact resumed

theorem encodeRequest_hash {txHashEncoded : Bytes}
    (encoded : encodeRequest evm state _request = .ok txHashEncoded) :
    evm.keccak256 txHashEncoded = txHashOf evm state.domainSeparator _request := by
  simp only [encodeRequest, bind_eq_ok, pure_eq_ok] at encoded
  obtain ⟨_, _, rfl⟩ := encoded
  rfl

/-- An accepted request counts at once; when it succeeds its hash is logged. -/
theorem executeTransactionInternal_completes {behind : Nat → UInt8} {isEOASignature : Bool}
    (requested : requestOf transaction = some _request)
    (safe : Safe deployment.evm domainSeparator ⟨state, trace⟩) :
    Completes (Safe deployment.evm domainSeparator) (Follow deployment.evm domainSeparator)
      ⟨state, trace⟩ (transaction :: trace)
      (executeTransactionInternal deployment world behind state _request _signatures
        isEOASignature) := by
  apply Outcome.Meets.lift_bind
  intro _ _
  apply Outcome.Meets.lift_bind
  rintro ⟨success, accepted⟩ checked
  apply Outcome.Meets.lift_bind
  intro _ successful
  obtain ⟨current, room, rfl⟩ := checkAndUpdateNonce_effect checked (by simpa using successful)
  apply Outcome.Meets.lift_bind
  intro txHashEncoded encoded
  have named : deployment.evm.keccak256 txHashEncoded =
      txHashOf deployment.evm domainSeparator _request := by
    rw [encodeRequest_hash encoded]
    exact congrArg (txHashOf deployment.evm · _request) safe.logged.domain
  have added : requests (transaction :: trace) = _request :: requests trace := by
    simp [requests, requested]
  have pending : Safe deployment.evm domainSeparator ⟨{ state with
      nonces := update₂ state.nonces _request.from_ (channelOf _request.nonce)
        (nonceOf _request.nonce + 1) }, transaction :: trace⟩ := by
    refine ⟨safe.counted.accept requested current room, safe.logged.initialized,
      safe.logged.domain, ?_⟩
    simp only [added, List.map_cons]
    exact safe.logged.hashes.cons_right _
  rw [named]
  have forward : ∀ value : World × State, ∀ trace',
      Safe deployment.evm domainSeparator ⟨value.2, trace'⟩ →
      Follow deployment.evm domainSeparator ⟨{ state with
        nonces := update₂ state.nonces _request.from_ (channelOf _request.nonce)
          (nonceOf _request.nonce + 1) }, transaction :: trace⟩ ⟨value.2, trace'⟩ →
      (liftM (destinationOf value.1 value.2 _request) >>= fun destination =>
        executeCall value.2 destination (callDataOf value.2 _request)
          (txHashOf deployment.evm domainSeparator _request)).Meets
        (Safe deployment.evm domainSeparator) (Follow deployment.evm domainSeparator)
        (fun state' trace'' => Safe deployment.evm domainSeparator ⟨state', trace''⟩ ∧
          Follow deployment.evm domainSeparator ⟨state, trace⟩ ⟨state', trace''⟩) trace' := by
    intro value trace' safe' since
    apply Outcome.Meets.lift_bind
    intro destination _
    apply executeCall_meets safe'
    intro later trace'' safe'' further
    have follow := Follow.succeed requested rfl (since.trans further)
    refine ⟨⟨⟨safe''.counted.nonces⟩, safe''.logged.initialized, safe''.logged.domain, ?_⟩, follow⟩
    exact follow.hashes safe.logged.hashes
  cases isEOASignature with
  | true =>
      simp only [if_true, bind_assoc, pure_bind]
      apply Outcome.Meets.lift_bind
      intro _ _
      exact forward (world, _) _ pending (Follow.refl _)
  | false =>
      simp only [Bool.false_eq_true, if_false]
      apply Outcome.Meets.bind (verifySignatureSet_meets pending)
      intro value trace' resumed
      exact forward value trace' resumed.1 resumed.2

theorem successHashes_emit {event : Event}
    (quiet : ∀ txHash, event ≠ .ExecutionSuccess txHash) :
    successHashes (state.emit event).logs = successHashes state.logs := by
  cases event with
  | ExecutionSuccess txHash => exact absurd rfl (quiet txHash)
  | _ => rfl

section Written

variable {msg : Msg} {isContract : Bool} {later : State}

theorem initializeV1_written {_nameRegistry : Address}
    (accepted : initializeV1 deployment isContract state _nameRegistry = .ok later) :
    ∃ initializable, later = { state with
      initializable := initializable
      domainSeparator := domainSeparatorOf deployment
      nameRegistryAddress := _nameRegistry }.emit (.Initialized 1) := by
  simp only [initializeV1, bind_eq_ok, pure_eq_ok] at accepted
  obtain ⟨_, _, _, _, _, _, rfl⟩ := accepted
  exact ⟨_, rfl⟩

theorem setCollectionRegistry_written {_registry : Address}
    (accepted : setCollectionRegistry world msg state _registry = .ok later) :
    later = { state with collectionRegistry := _registry } := by
  simp only [setCollectionRegistry, bind_eq_ok, pure_eq_ok] at accepted
  obtain ⟨_, _, _, _, rfl⟩ := accepted
  rfl

theorem registerRequestType_written {_typeName _typeSuffix requestType : Bytes}
    {_destinationContract : Address} {_functionSignature : Bytes4}
    (named : requestType =
      _typeName ++ ascii "(" ++ GENERIC_PARAMS ++ ascii "," ++ _typeSuffix ++ ascii ")")
    (accepted : registerRequestType deployment world msg state _typeName _typeSuffix
      _destinationContract _functionSignature = .ok later) :
    (∀ c ∈ _typeName, c ≠ 40 ∧ c ≠ 41) ∧
      state.typeHashes (deployment.evm.keccak256 requestType) = false ∧
      later = { state with
        typeHashes := Function.update state.typeHashes (deployment.evm.keccak256 requestType) true
        requestTypes := Function.update state.requestTypes (deployment.evm.keccak256 requestType)
          ⟨_destinationContract, _functionSignature⟩ }.emit
        (.RequestTypeRegistered (deployment.evm.keccak256 requestType) requestType) := by
  subst named
  simp only [registerRequestType, bind_eq_ok, require_eq_ok, pure_eq_ok] at accepted
  obtain ⟨_, _, _, unbracketed, _, unknown, rfl⟩ := accepted
  exact ⟨unbracketed, unknown, rfl⟩

theorem unregisterRequestType_written {_typeHash : Bytes32}
    (accepted : unregisterRequestType world msg state _typeHash = .ok later) :
    state.typeHashes _typeHash = true ∧ later = { state with
      typeHashes := Function.update state.typeHashes _typeHash false
      requestTypes := Function.update state.requestTypes _typeHash ⟨0, 0⟩ }.emit
      (.RequestTypeUnregistered _typeHash) := by
  simp only [unregisterRequestType, requestTypeRegistered, bind_eq_ok, require_eq_ok,
    pure_eq_ok] at accepted
  obtain ⟨_, registered, _, _, rfl⟩ := accepted
  exact ⟨registered, rfl⟩

end Written

theorem entry_completes (transaction : Transaction)
    (safe : Safe deployment.evm domainSeparator ⟨state, trace⟩) :
    Completes (Safe deployment.evm domainSeparator) (Follow deployment.evm domainSeparator)
      ⟨state, trace⟩ (transaction :: trace) (entry deployment transaction state) := by
  obtain ⟨world, msg, behind, call⟩ := transaction
  cases call with
  | initializeV1 _nameRegistry =>
      apply Outcome.Meets.lift
      intro state' accepted
      have initialized : state.initializable = ⟨1, false⟩ := safe.logged.initialized
      simp [initializeV1, Initializable.initializer, initialized] at accepted
  | setCollectionRegistry _registry =>
      apply Outcome.Meets.lift
      intro state' accepted
      obtain rfl := setCollectionRegistry_written accepted
      exact safe.quiet rfl rfl rfl rfl rfl
  | registerRequestType _typeName _typeSuffix _destinationContract _functionSignature =>
      apply Outcome.Meets.lift
      intro state' accepted
      obtain ⟨_, _, rfl⟩ := registerRequestType_written rfl accepted
      exact safe.quiet rfl rfl rfl rfl (successHashes_emit (by simp))
  | unregisterRequestType _typeHash =>
      apply Outcome.Meets.lift
      intro state' accepted
      obtain ⟨_, rfl⟩ := unregisterRequestType_written accepted
      exact safe.quiet rfl rfl rfl rfl (successHashes_emit (by simp))
  | executeTransactionLUW _request _signatures =>
      apply Outcome.Meets.lift_bind
      intro _ _
      exact executeTransactionInternal_completes rfl safe
  | executeTransactionEOA _request _signature =>
      apply Outcome.Meets.lift_bind
      intro _ _
      exact executeTransactionInternal_completes rfl safe

theorem deployed_safe (deployed : Deployed deployment state) :
    Safe evm state.domainSeparator ⟨state, []⟩ := by
  obtain ⟨_nameRegistry, made⟩ := deployed
  simp only [initializeV1, Initializable.initializer, bind_eq_ok, pure_eq_ok] at made
  obtain ⟨_, ⟨_, _, rfl⟩, _, _, _, ⟨_, _, rfl⟩, rfl⟩ := made
  refine ⟨⟨?_⟩, rfl, rfl, ?_⟩
  · intro wallet channel
    rfl
  · exact List.nil_subperm

theorem reach_safe {origin : State} {config : Config Revert State Query Answer Transaction}
    (deployed : Deployed deployment origin)
    (reach : Reach (entry deployment) (fun _ _ => True) origin config) :
    Safe deployment.evm origin.domainSeparator config.now := by
  refine (reach.sound (Safe deployment.evm origin.domainSeparator)
    (Follow deployment.evm origin.domainSeparator) Follow.refl Follow.trans ?_
    (deployed_safe deployed)).1
  intro transaction snapshot _ safe
  exact entry_completes transaction safe

/-- A call changes no nonce but the one its own request names. -/
def OwnEntry (transaction : Transaction) (before after : State) : Prop :=
  ∀ wallet channel,
    (∀ _request, requestOf transaction = some _request → ¬Targets _request wallet channel) →
      getNonce after wallet channel = getNonce before wallet channel

theorem executeCall_segments {Step : State → State → Prop} {before : State}
    (step : Step before state)
    (succeeds : ∀ later, Step later (later.emit (.ExecutionSuccess _txHash))) :
    (executeCall state _to _data _txHash).Segments Step Step before := by
  apply Outcome.Segments.bind (Outcome.Segments.external step)
  rintro resumed ⟨later, answer⟩ rfl
  dsimp only
  split
  · exact succeeds later
  · trivial

/-- A request counts its nonce before others are called, and then logs a success or nothing. -/
theorem executeTransactionInternal_segments {Step : State → State → Prop} {behind : Nat → UInt8}
    {isEOASignature : Bool}
    (counts : Step state { state with
      nonces := update₂ state.nonces _request.from_ (channelOf _request.nonce)
        (nonceOf _request.nonce + 1) })
    (same : ∀ later, Step later later)
    (succeeds : ∀ later txHash, Step later (later.emit (.ExecutionSuccess txHash))) :
    (executeTransactionInternal deployment world behind state _request _signatures
      isEOASignature).Segments Step Step state := by
  apply Outcome.Segments.lift_bind
  intro _ _
  apply Outcome.Segments.lift_bind
  rintro ⟨success, accepted⟩ checked
  apply Outcome.Segments.lift_bind
  intro _ successful
  obtain ⟨_, _, rfl⟩ := checkAndUpdateNonce_effect checked (by simpa using successful)
  apply Outcome.Segments.lift_bind
  intro txHashEncoded _
  cases isEOASignature with
  | true =>
      simp only [if_true, bind_assoc, pure_bind]
      apply Outcome.Segments.lift_bind
      intro _ _
      apply Outcome.Segments.lift_bind
      intro _ _
      exact executeCall_segments counts fun later => succeeds later _
  | false =>
      simp only [Bool.false_eq_true, if_false, verifySignatureSet, bind_assoc]
      apply Outcome.Segments.bind (Outcome.Segments.external counts)
      rintro resumed ⟨later, answer⟩ rfl
      dsimp only
      split
      · trivial
      · split
        · trivial
        · simp only [bind_assoc, pure_bind]
          apply Outcome.Segments.lift_bind
          intro _ _
          apply Outcome.Segments.lift_bind
          intro _ _
          exact executeCall_segments (same later) fun later => succeeds later _

theorem executeTransactionInternal_ownEntry {behind : Nat → UInt8} {isEOASignature : Bool}
    (requested : requestOf transaction = some _request) :
    (executeTransactionInternal deployment world behind state _request _signatures
      isEOASignature).Segments (OwnEntry transaction) (OwnEntry transaction) state := by
  refine executeTransactionInternal_segments ?_ (fun _ _ _ _ => rfl) fun _ _ _ _ _ => rfl
  intro wallet channel other
  have elsewhere : ¬(wallet = _request.from_ ∧ channel = channelOf _request.nonce) := by
    rintro ⟨rfl, rfl⟩
    exact other _request requested ⟨rfl, rfl⟩
  simp only [getNonce, update₂_apply, if_neg elsewhere]

theorem entry_ownEntry (transaction : Transaction) (state : State) :
    (entry deployment transaction state).Segments (OwnEntry transaction) (OwnEntry transaction)
      state := by
  obtain ⟨world, msg, behind, call⟩ := transaction
  cases call with
  | initializeV1 _nameRegistry =>
      apply Outcome.Segments.lift
      intro state' accepted
      obtain ⟨_, rfl⟩ := initializeV1_written accepted
      exact fun _ _ _ => rfl
  | setCollectionRegistry _registry =>
      apply Outcome.Segments.lift
      intro state' accepted
      obtain rfl := setCollectionRegistry_written accepted
      exact fun _ _ _ => rfl
  | registerRequestType _typeName _typeSuffix _destinationContract _functionSignature =>
      apply Outcome.Segments.lift
      intro state' accepted
      obtain ⟨_, _, rfl⟩ := registerRequestType_written rfl accepted
      exact fun _ _ _ => rfl
  | unregisterRequestType _typeHash =>
      apply Outcome.Segments.lift
      intro state' accepted
      obtain ⟨_, rfl⟩ := unregisterRequestType_written accepted
      exact fun _ _ _ => rfl
  | executeTransactionLUW _request _signatures =>
      apply Outcome.Segments.lift_bind
      intro _ _
      exact executeTransactionInternal_ownEntry rfl
  | executeTransactionEOA _request _signature =>
      apply Outcome.Segments.lift_bind
      intro _ _
      exact executeTransactionInternal_ownEntry rfl

end Calls

abbrev Talk := Exchange State Query Answer Transaction

/-- The answers that an execution goes on with. -/
def Accepts : Query → Answer → Prop
  | .isValidSignatureSet _ _ _ _, answer => answer.reply.success = true ∧
      decodeBytes4 answer.reply.returndata = some IS_VALID_SIG_SUCCESS
  | .call _ _, answer => answer.reply.success = true

/-- The signature is checked: of an account in place, of a wallet by asking its manager. -/
def Verified (deployment : Deployment) (world : World) (behind : Nat → UInt8) (state : State)
    (_request : ExecutionRequest) (_signatures : Bytes) (isEOASignature : Bool)
    (questions : List Talk) : Prop :=
  let txHash := txHashOf deployment.evm state.domainSeparator _request
  if isEOASignature = true then
    questions = [] ∧ verifySigner deployment.evm behind _request txHash _signatures = .ok ()
  else ∃ question, questions = [question] ∧
    question.query = .isValidSignatureSet
      ((world.nameRegistry state.nameRegistryAddress).get LICENSED_USER_MANAGER)
      _request.from_ txHash _signatures

/-- What a request with a wrong nonce, a bad signature or a failing destination comes to, and
what one that is carried out has met. -/
structure Guarded (deployment : Deployment)
    (config : Config Revert State Query Answer Transaction) (transaction : Transaction)
    (_request : ExecutionRequest) (_signatures : Bytes) (isEOASignature : Bool) : Prop where
  current : nonceOf _request.nonce ≠
      getNonce config.now.state _request.from_ (channelOf _request.nonce) →
    ∃ reason, entry deployment transaction config.now.state = .revert reason
  signed : isEOASignature = true → verifySigner deployment.evm transaction.behind _request
      (txHashOf deployment.evm config.now.state.domainSeparator _request) _signatures ≠ .ok () →
    ∃ reason, entry deployment transaction config.now.state = .revert reason
  declined : ∀ (exchanges : List Talk) state query resume now answer,
    (entry deployment transaction config.now.state).Comes exchanges (.call state query resume) →
      ¬Accepts query answer →
      Config.reply answer ⟨now, ⟨config.now, resume⟩ :: config.frames⟩ = config
  completed : ∀ (exchanges : List Talk) final,
    (entry deployment transaction config.now.state).Comes exchanges (.done final) →
      ∃ questions forwarded _to _data, exchanges = questions ++ [forwarded] ∧
        Verified deployment transaction.world transaction.behind config.now.state _request
          _signatures isEOASignature questions ∧
        forwarded.query = .call _to _data ∧
        (∀ exchange ∈ exchanges, Accepts exchange.query exchange.reply) ∧
        final = forwarded.answered.state.emit (.ExecutionSuccess
          (txHashOf deployment.evm config.now.state.domainSeparator _request))

section Executions

variable {world : World} {behind : Nat → UInt8} {state final later : State}
  {transaction : Transaction} {_request : ExecutionRequest} {_signatures _data : Bytes}
  {_to : Address} {_txHash : Bytes32} {isEOASignature : Bool} {exchanges : List Talk}

/-- An execution that gets to a call has the current nonce, with room for the next one. -/
theorem executeTransactionInternal_front
    (ran : (executeTransactionInternal deployment world behind state _request _signatures
      isEOASignature).front = some later) :
    nonceOf _request.nonce = getNonce state _request.from_ (channelOf _request.nonce) ∧
      (nonceOf _request.nonce).toNat + 1 < 2 ^ 128 ∧
      (isEOASignature = true → verifySigner deployment.evm behind _request
        (txHashOf deployment.evm state.domainSeparator _request) _signatures = .ok ()) := by
  obtain ⟨_, _, ran⟩ := Outcome.front_lift_bind ran
  obtain ⟨⟨success, state'⟩, checked, ran⟩ := Outcome.front_lift_bind ran
  obtain ⟨_, accepted, ran⟩ := Outcome.front_lift_bind ran
  obtain ⟨txHashEncoded, encoded, ran⟩ := Outcome.front_lift_bind ran
  obtain ⟨current, room, rfl⟩ := checkAndUpdateNonce_effect checked (by simpa using accepted)
  refine ⟨current, room, ?_⟩
  rintro rfl
  simp only [if_true, bind_assoc] at ran
  obtain ⟨_, verified, _⟩ := Outcome.front_lift_bind ran
  rw [encodeRequest_hash encoded] at verified
  exact verified

theorem entry_front (submitted : Submits transaction _request _signatures isEOASignature)
    (ran : (entry deployment transaction state).front = some later) :
    (executeTransactionInternal deployment transaction.world transaction.behind state _request
      _signatures isEOASignature).front = some later := by
  obtain ⟨world, msg, behind, call⟩ := transaction
  cases isEOASignature with
  | true =>
      obtain rfl : call = .executeTransactionEOA _request _signatures := submitted
      exact (Outcome.front_lift_bind ran).choose_spec.2
  | false =>
      obtain rfl : call = .executeTransactionLUW _request _signatures := submitted
      exact (Outcome.front_lift_bind ran).choose_spec.2

theorem executeCall_demands : (executeCall state _to _data _txHash).Demands Accepts := by
  apply Outcome.Demands.external
  intro later answer
  dsimp only
  split
  · rename_i succeeded
    exact ⟨fun declined => absurd succeeded declined, trivial⟩
  · exact ⟨fun _ => ⟨_, rfl⟩, trivial⟩

theorem verifySignatureSet_demands :
    (verifySignatureSet world state _request _txHash _signatures).Demands Accepts := by
  apply Outcome.Demands.external
  intro later answer
  dsimp only
  split
  · exact ⟨fun _ => ⟨_, rfl⟩, trivial⟩
  · rename_i answered
    split
    · exact ⟨fun _ => ⟨_, rfl⟩, trivial⟩
    · rename_i result decoded
      by_cases valid : result = IS_VALID_SIG_SUCCESS
      · refine ⟨fun declined => absurd ?_ declined, ?_⟩
        · exact ⟨by simpa using answered, by rw [decoded, valid]⟩
        · simp [require, valid, Outcome.Demands]
      · simp [require, valid, Outcome.Demands]

theorem executeTransactionInternal_demands :
    (executeTransactionInternal deployment world behind state _request _signatures
      isEOASignature).Demands Accepts := by
  refine Outcome.Demands.bind (Outcome.Demands.lift _) fun _ => ?_
  refine Outcome.Demands.bind (Outcome.Demands.lift _) fun value => ?_
  refine Outcome.Demands.bind (Outcome.Demands.lift _) fun _ => ?_
  refine Outcome.Demands.bind (Outcome.Demands.lift _) fun _ => ?_
  refine Outcome.Demands.bind ?_ fun _ =>
    Outcome.Demands.bind (Outcome.Demands.lift _) fun _ => executeCall_demands
  cases isEOASignature with
  | true => exact Outcome.Demands.bind (Outcome.Demands.lift _) fun _ => trivial
  | false => exact verifySignatureSet_demands

theorem entry_demands : (entry deployment transaction state).Demands Accepts := by
  obtain ⟨world, msg, behind, call⟩ := transaction
  cases call with
  | executeTransactionLUW _request _signatures =>
      exact Outcome.Demands.bind (Outcome.Demands.lift _)
        fun _ => executeTransactionInternal_demands
  | executeTransactionEOA _request _signature =>
      exact Outcome.Demands.bind (Outcome.Demands.lift _)
        fun _ => executeTransactionInternal_demands
  | _ => exact Outcome.Demands.lift _

theorem executeCall_comes
    (comes : (executeCall state _to _data _txHash).Comes exchanges (.done final)) :
    ∃ forwarded, exchanges = [forwarded] ∧ forwarded.asked = state ∧
      forwarded.query = .call _to _data ∧
      final = forwarded.answered.state.emit (.ExecutionSuccess _txHash) := by
  obtain ⟨first, rest, ⟨later, answer⟩, rfl, before, after⟩ := Outcome.Comes.of_bind comes
  cases before with
  | call answered reply before =>
      cases before
      dsimp only at after
      split at after <;> cases after
      exact ⟨_, rfl, rfl, rfl, rfl⟩

theorem verifySignatureSet_comes {value : World × State}
    (comes : (verifySignatureSet world state _request _txHash _signatures).Comes exchanges
      (.done value)) :
    ∃ question, exchanges = [question] ∧ question.asked = state ∧
      question.query = .isValidSignatureSet
        ((world.nameRegistry state.nameRegistryAddress).get LICENSED_USER_MANAGER)
        _request.from_ _txHash _signatures ∧
      value = (question.reply.world, question.answered.state) := by
  obtain ⟨first, rest, ⟨later, answer⟩, rfl, before, after⟩ := Outcome.Comes.of_bind comes
  cases before with
  | call answered reply before =>
      cases before
      dsimp only at after
      split at after
      · cases after
      · split at after
        · cases after
        · obtain ⟨_, _, after⟩ := Outcome.Comes.of_lift_bind after
          cases after
          exact ⟨_, rfl, rfl, rfl, rfl⟩

/-- What an execution stands on after these exchanges: the world and the snapshot of the last
answer. -/
def standing : World × Snapshot State Transaction → List Talk → World × Snapshot State Transaction
  | moment, [] => moment
  | _, exchange :: exchanges => standing (exchange.reply.world, exchange.answered) exchanges

/-- A successful execution has its signature checked and then makes its one call, by the register
as it stands there. -/
theorem executeTransactionInternal_comes {trace : List Transaction}
    (comes : (executeTransactionInternal deployment world behind state _request _signatures
      isEOASignature).Comes exchanges (.done final)) :
    ∃ questions forwarded _to, exchanges = questions ++ [forwarded] ∧
      Verified deployment world behind state _request _signatures isEOASignature questions ∧
      (∀ question ∈ questions, question.asked.typeHashes = state.typeHashes) ∧
      state.typeHashes _request.typeHash = true ∧
      final = forwarded.answered.state.emit (.ExecutionSuccess
        (txHashOf deployment.evm state.domainSeparator _request)) ∧
      let moment := standing (world, ⟨state, trace⟩) questions
      forwarded.query = .call _to (callDataOf moment.2.state _request) ∧
        destinationOf moment.1 moment.2.state _request = .ok _to ∧
        forwarded.asked.typeHashes = moment.2.state.typeHashes ∧
        forwarded.asked.requestTypes = moment.2.state.requestTypes ∧
        forwarded.asked.collectionRegistry = moment.2.state.collectionRegistry := by
  obtain ⟨_, registered, comes⟩ := Outcome.Comes.of_lift_bind comes
  simp only [requestTypeRegistered, require_eq_ok] at registered
  obtain ⟨⟨success, state'⟩, checked, comes⟩ := Outcome.Comes.of_lift_bind comes
  obtain ⟨_, accepted, comes⟩ := Outcome.Comes.of_lift_bind comes
  obtain ⟨txHashEncoded, encoded, comes⟩ := Outcome.Comes.of_lift_bind comes
  obtain ⟨_, _, rfl⟩ := checkAndUpdateNonce_effect checked (by simpa using accepted)
  have named := encodeRequest_hash encoded
  cases isEOASignature with
  | true =>
      simp only [if_true, bind_assoc, pure_bind] at comes
      obtain ⟨_, verified, comes⟩ := Outcome.Comes.of_lift_bind comes
      obtain ⟨destination, found, comes⟩ := Outcome.Comes.of_lift_bind comes
      obtain ⟨forwarded, rfl, asked, query, rfl⟩ := executeCall_comes comes
      rw [named] at verified ⊢
      exact ⟨[], forwarded, destination, rfl, ⟨rfl, verified⟩, by simp, registered, rfl, query,
        found, by rw [asked]; rfl, by rw [asked]; rfl, by rw [asked]; rfl⟩
  | false =>
      simp only [Bool.false_eq_true, if_false] at comes
      obtain ⟨questions, rest, value, rfl, checks, comes⟩ := Outcome.Comes.of_bind comes
      obtain ⟨question, rfl, asked, query, rfl⟩ := verifySignatureSet_comes checks
      obtain ⟨destination, found, comes⟩ := Outcome.Comes.of_lift_bind comes
      obtain ⟨forwarded, rfl, asked', query', rfl⟩ := executeCall_comes comes
      rw [named] at query ⊢
      refine ⟨_, forwarded, destination, rfl, ⟨question, rfl, query⟩, ?_, registered, rfl, query',
        found, by rw [asked']; rfl, by rw [asked']; rfl, by rw [asked']; rfl⟩
      intro other belongs
      rw [List.mem_singleton.mp belongs, asked]

theorem entry_comes (submitted : Submits transaction _request _signatures isEOASignature)
    (comes : (entry deployment transaction state).Comes exchanges (.done final)) :
    (executeTransactionInternal deployment transaction.world transaction.behind state _request
      _signatures isEOASignature).Comes exchanges (.done final) := by
  obtain ⟨world, msg, behind, call⟩ := transaction
  cases isEOASignature with
  | true =>
      obtain rfl : call = .executeTransactionEOA _request _signatures := submitted
      exact (Outcome.Comes.of_lift_bind comes).choose_spec.2
  | false =>
      obtain rfl : call = .executeTransactionLUW _request _signatures := submitted
      exact (Outcome.Comes.of_lift_bind comes).choose_spec.2

theorem submits_of_requestOf (requested : requestOf transaction = some _request) :
    ∃ _signatures isEOASignature, Submits transaction _request _signatures isEOASignature := by
  obtain ⟨world, msg, behind, call⟩ := transaction
  cases call with
  | executeTransactionLUW _request _signatures =>
      cases requested
      exact ⟨_signatures, false, rfl⟩
  | executeTransactionEOA _request _signature =>
      cases requested
      exact ⟨_signature, true, rfl⟩
  | _ => cases requested

theorem entry_exhausted (requested : requestOf transaction = some _request)
    (exhausted : (getNonce state _request.from_ (channelOf _request.nonce)).toNat = 2 ^ 128 - 1) :
    ∃ reason, entry deployment transaction state = .revert reason := by
  obtain ⟨_, _, submitted⟩ := submits_of_requestOf requested
  apply Outcome.reverts_of_front
  intro later ran
  obtain ⟨current, room, _⟩ := executeTransactionInternal_front (entry_front submitted ran)
  rw [← current] at exhausted
  omega

theorem entry_guarded (config : Config Revert State Query Answer Transaction)
    (submitted : Submits transaction _request _signatures isEOASignature) :
    Guarded deployment config transaction _request _signatures isEOASignature where
  current := by
    intro stale
    apply Outcome.reverts_of_front
    intro later ran
    exact stale (executeTransactionInternal_front (entry_front submitted ran)).1
  signed := by
    intro isEOA forged
    apply Outcome.reverts_of_front
    intro later ran
    exact forged ((executeTransactionInternal_front (entry_front submitted ran)).2.2 isEOA)
  declined := by
    intro exchanges state query resume now answer comes declined
    exact declined_reply entry_demands comes declined
  completed := by
    intro exchanges final comes
    obtain ⟨questions, forwarded, _to, same, verified, _, _, ended, query, _⟩ :=
      @executeTransactionInternal_comes deployment _ _ _ _ _ _ _ _ [] (entry_comes submitted comes)
    exact ⟨questions, forwarded, _to, _, same, verified, query, entry_demands.accepted comes,
      ended⟩

end Executions

/-- No two accepted requests have the same sender and packed nonce. -/
theorem requests_distinct {trace : List Transaction}
    (unique : ∀ wallet channel, (acceptedNonces wallet channel trace).Nodup) :
    (requests trace).Pairwise fun first second =>
      ¬(first.from_ = second.from_ ∧ first.nonce = second.nonce) := by
  induction trace with
  | nil => exact List.Pairwise.nil
  | cons transaction trace ih =>
      cases requested : requestOf transaction with
      | none =>
          have same : requests (transaction :: trace) = requests trace := by
            simp [requests, requested]
          rw [same]
          apply ih
          intro wallet channel
          simpa [acceptedNonces, same] using unique wallet channel
      | some _request =>
          have split : requests (transaction :: trace) = _request :: requests trace := by
            simp [requests, requested]
          rw [split]
          refine List.pairwise_cons.mpr ⟨?_, ih ?_⟩
          · rintro second belongs ⟨sender, nonce⟩
            have own := unique _request.from_ (channelOf _request.nonce)
            rw [acceptedNonces_cons requested, if_pos ⟨rfl, rfl⟩] at own
            apply (List.nodup_cons.mp own).1
            rw [nonce]
            apply List.mem_map_of_mem
            simp [belongs, Targets, sender]
          · intro wallet channel
            have own := unique wallet channel
            rw [acceptedNonces_cons requested] at own
            split at own
            · exact (List.nodup_cons.mp own).2
            · exact own

theorem txHashes_distinct {trace : List Transaction} {state : State}
    (distinct : (requests trace).Pairwise fun first second =>
      ¬(first.from_ = second.from_ ∧ first.nonce = second.nonce))
    (collisionFree : evm.CollisionFree ((requests trace).flatMap (hashedStrings evm state))) :
    ((requests trace).map (txHashOf evm state.domainSeparator)).Nodup := by
  have hashed : ∀ first ∈ requests trace, ∀ text ∈ hashedStrings evm state first,
      text ∈ (requests trace).flatMap (hashedStrings evm state) := by
    intro first belongs text inside
    exact List.mem_flatMap.mpr ⟨first, belongs, inside⟩
  apply List.pairwise_map.mpr
  apply distinct.imp_of_mem
  intro first second firstBelongs secondBelongs different same
  have encodings := collisionFree _ (hashed first firstBelongs _ (by simp [hashedStrings])) _
    (hashed second secondBelongs _ (by simp [hashedStrings])) same
  have hashes := (List.append_inj' encodings (by simp)).2
  have structs := collisionFree _ (hashed first firstBelongs (encodedStruct evm first)
    (by simp [hashedStrings])) _ (hashed second secondBelongs (encodedStruct evm second)
      (by simp [hashedStrings])) ((packWord_inj ⟨32, rfl⟩).mp hashes)
  obtain ⟨_, sender, nonce, _⟩ := encodedStruct_inj structs
  exact different ⟨sender, nonce⟩

theorem replay_protection (deployment : Deployment) (origin : State)
    (deployed : Deployed deployment origin)
    (config : Config Revert State Query Answer Transaction)
    (reach : Reach (entry deployment) (fun _ _ => True) origin config) :
    (∀ wallet channel,
      (acceptedNonces wallet channel config.now.trace).reverse =
          List.range (getNonce config.now.state wallet channel).toNat ∧
        (getNonce config.now.state wallet channel).toNat =
          (acceptedNonces wallet channel config.now.trace).length) ∧
      (∀ transaction, (entry deployment transaction config.now.state).Segments
        (OwnEntry transaction) (OwnEntry transaction) config.now.state) ∧
      Reverting (entry deployment) (fun _ _ => True) config ∧
      (∀ transaction _request, requestOf transaction = some _request →
        (getNonce config.now.state _request.from_ (channelOf _request.nonce)).toNat =
            2 ^ 128 - 1 →
          ∃ reason, entry deployment transaction config.now.state = .revert reason) ∧
      (∀ transaction _request _signatures isEOASignature,
        Submits transaction _request _signatures isEOASignature →
          Guarded deployment config transaction _request _signatures isEOASignature) ∧
      (deployment.evm.CollisionFree ((requests config.now.trace).flatMap
          (hashedStrings deployment.evm config.now.state)) →
        (successHashes config.now.state.logs).Nodup) := by
  have safe := reach_safe deployed reach
  refine ⟨?_, fun _ => entry_ownEntry _ _, reverting _ _ _, ?_,
    fun _ _ _ _ submitted => entry_guarded config submitted, ?_⟩
  · intro wallet channel
    have counted := safe.counted.nonces wallet channel
    refine ⟨counted, ?_⟩
    have lengths := congrArg List.length counted
    simpa using lengths.symm
  · intro transaction _request requested exhausted
    exact entry_exhausted requested exhausted
  · intro collisionFree
    have unique : ∀ wallet channel, (acceptedNonces wallet channel config.now.trace).Nodup := by
      intro wallet channel
      have counted := safe.counted.nonces wallet channel
      exact (List.reverse_perm _).nodup_iff.mp (counted ▸ List.nodup_range)
    have hashes := safe.logged.hashes
    rw [← safe.logged.domain] at hashes
    obtain ⟨listed, permuted, among⟩ := hashes
    exact permuted.nodup_iff.mp
      ((txHashes_distinct (requests_distinct unique) collisionFree).sublist among)

section Runs

-- The renaming of a wallet is submitted and its forwarded call succeeds.
def renamedConfig : Config Revert State Query Answer Transaction :=
  (registeredConfig.enter (entry requestDeployment)
    ⟨requestWorld, ⟨0xe0a, []⟩, fun _ => 0,
      .executeTransactionEOA renameRequest renameSignature⟩).reply ⟨⟨true, []⟩, requestWorld⟩

def renameAgain : Transaction :=
  ⟨requestWorld, ⟨0xe0a, []⟩, fun _ => 0, .executeTransactionEOA renameRequest renameSignature⟩

set_option maxRecDepth 8000 in
theorem replay_protection_renamed :
    (acceptedNonces renameRequest.from_ 0 renamedConfig.now.trace).reverse = List.range 1 ∧
      (∃ reason, entry requestDeployment renameAgain renamedConfig.now.state = .revert reason) ∧
      (successHashes renamedConfig.now.state.logs).Nodup := by
  obtain ⟨counted, _, _, _, guarded, distinct⟩ := replay_protection requestDeployment
    deployedState deployedState_deployed renamedConfig
    (Reach.reply _ (Reach.enter _ registeredConfig_reach trivial))
  have again := guarded renameAgain renameRequest renameSignature true rfl
  exact ⟨(counted renameRequest.from_ 0).1, again.current (by decide), distinct (by decide)⟩

end Runs

end Startrail.MetaTxForwarder
