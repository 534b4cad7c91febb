import Startrail.MetaTx.Core

/-!
Who and what stands behind a forwarded call. A request that is accepted with an
EOA signature was signed by its `from`, unless `from` is the zero address, which
is also what the precompile answers for an invalid signature. The signed bytes fix
every field of a request except the split between `callData` and `suffixData`: the
hash of the call data is a prefix of the suffix that nothing marks.
-/

namespace Startrail.MetaTxForwarder

variable {deployment : Deployment} {world : World} {behind : Nat → UInt8} {state later : State}
  {_request : ExecutionRequest} {_signatures : Bytes} {_to : Address} {_data : Bytes}

theorem checkAndUpdateNonce_effect {_wallet : Address} {_packedNonce : Uint256} {success : Bool}
    {state' : State}
    (checked : checkAndUpdateNonce state _wallet _packedNonce = .ok (success, state'))
    (accepted : success = true) :
    nonceOf _packedNonce = state.nonces _wallet (channelOf _packedNonce) ∧
      (nonceOf _packedNonce).toNat + 1 < 2 ^ 128 ∧
      state' = { state with
        nonces := update₂ state.nonces _wallet (channelOf _packedNonce)
          (nonceOf _packedNonce + 1) } := by
  simp only [checkAndUpdateNonce] at checked
  split at checked
  · rename_i current
    simp only [bind_eq_ok, requirePanic_eq_ok, pure_eq_ok, Prod.mk.injEq] at checked
    obtain ⟨_, room, _, rfl⟩ := checked
    rw [← current] at room ⊢
    exact ⟨rfl, room, rfl⟩
  · simp only [pure_eq_ok, Prod.mk.injEq] at checked
    rw [← checked.1] at accepted
    contradiction

theorem executeCall_issues {_txHash : Bytes32} {query : Query}
    (issues : (executeCall state _to _data _txHash).Issues later query) :
    later = state ∧ query = .call _to _data := by
  simp only [executeCall, Outcome.external, Outcome.call_bind, Outcome.done_bind] at issues
  cases issues with
  | here => exact ⟨rfl, rfl⟩
  | later after answer issues =>
      dsimp only at issues
      split at issues <;> cases issues

theorem verifySignatureSet_issues {_hash : Bytes32} {query : Query}
    (issues : (verifySignatureSet world state _request _hash _signatures).Issues later query) :
    ∃ manager, query = .isValidSignatureSet manager _request.from_ _hash _signatures := by
  simp only [verifySignatureSet, Outcome.external, Outcome.call_bind, Outcome.done_bind] at issues
  cases issues with
  | here => exact ⟨_, rfl⟩
  | later after answer issues =>
      dsimp only at issues
      split at issues
      · cases issues
      · split at issues
        · cases issues
        · obtain ⟨_, _, issues⟩ := Outcome.Issues.of_lift_bind issues
          cases issues

/-- Every forwarded call is the one its request determines where the call is made. -/
theorem executeTransactionInternal_forwards {isEOASignature : Bool}
    (forwards : (executeTransactionInternal deployment world behind state _request _signatures
      isEOASignature).Issues later (.call _to _data)) :
    ∃ txHashEncoded, encodeRequest deployment.evm state _request = .ok txHashEncoded ∧
      (isEOASignature = true → verifySigner deployment.evm behind _request
        (deployment.evm.keccak256 txHashEncoded) _signatures = .ok ()) ∧
      ∃ world', destinationOf world' later _request = .ok _to ∧
        _data = callDataOf later _request := by
  obtain ⟨_, _, forwards⟩ := Outcome.Issues.of_lift_bind forwards
  obtain ⟨⟨success, state'⟩, checked, forwards⟩ := Outcome.Issues.of_lift_bind forwards
  obtain ⟨_, accepted, forwards⟩ := Outcome.Issues.of_lift_bind forwards
  obtain ⟨txHashEncoded, encoded, forwards⟩ := Outcome.Issues.of_lift_bind forwards
  obtain ⟨_, _, rfl⟩ := checkAndUpdateNonce_effect checked (by simpa using accepted)
  refine ⟨txHashEncoded, encoded, ?_⟩
  cases isEOASignature with
  | true =>
      simp only [if_true, bind_assoc, pure_bind] at forwards
      obtain ⟨_, verified, forwards⟩ := Outcome.Issues.of_lift_bind forwards
      obtain ⟨destination, found, forwards⟩ := Outcome.Issues.of_lift_bind forwards
      obtain ⟨rfl, same⟩ := executeCall_issues forwards
      obtain ⟨rfl, rfl⟩ := Query.call.inj same
      exact ⟨fun _ => verified, world, found, rfl⟩
  | false =>
      simp only [Bool.false_eq_true, if_false] at forwards
      refine ⟨by simp, ?_⟩
      rcases Outcome.Issues.of_bind forwards with asks | ⟨⟨world', state'⟩, forwards⟩
      · obtain ⟨_, impossible⟩ := verifySignatureSet_issues asks
        cases impossible
      · obtain ⟨destination, found, forwards⟩ := Outcome.Issues.of_lift_bind forwards
        obtain ⟨rfl, same⟩ := executeCall_issues forwards
        obtain ⟨rfl, rfl⟩ := Query.call.inj same
        exact ⟨world', found, rfl⟩

/-- The first signature is a valid signature of the hash by this account. -/
def SignedBy (evm : Evm) (behind : Nat → UInt8) (_hash : Bytes32) (_signature : Bytes)
    (account : Address) : Prop :=
  let (v, r, s) := signatureSplit behind _signature 0
  evm.Signed _hash v r s account

theorem verifySigner_signed {evm : Evm} {_hash : Bytes32} {u : Unit}
    (verified : verifySigner evm behind _request _hash _signatures = .ok u) :
    SignedBy evm behind _hash _signatures _request.from_ ↔ _request.from_ ≠ 0 := by
  simp only [verifySigner, require_eq_ok] at verified
  simp only [SignedBy, Evm.signed_iff, verified, true_and]

/-- A request forwarded on an EOA signature was signed by its sender exactly if the sender is
not the zero address. -/
theorem executeTransactionEOA_signed (deployment : Deployment) (world : World)
    (behind : Nat → UInt8) (state later : State) (_request : ExecutionRequest)
    (_signature : Bytes) (_to : Address) (_data : Bytes)
    (forwards : (executeTransactionEOA deployment world behind state _request
      _signature).Issues later (.call _to _data)) :
    (∃ callData, _data = callData ++ packWord _request.from_) ∧
      ∃ txHashEncoded, encodeRequest deployment.evm state _request = .ok txHashEncoded ∧
        (SignedBy deployment.evm behind (deployment.evm.keccak256 txHashEncoded) _signature
          _request.from_ ↔ _request.from_ ≠ 0) := by
  obtain ⟨_, _, forwards⟩ := Outcome.Issues.of_lift_bind forwards
  obtain ⟨txHashEncoded, encoded, verified, _, _, rfl⟩ :=
    executeTransactionInternal_forwards forwards
  exact ⟨⟨_, rfl⟩, txHashEncoded, encoded, verifySigner_signed (verified rfl)⟩

/-- Everything the forwarder hashes for a request. -/
def hashedStrings (evm : Evm) (state : State) (_request : ExecutionRequest) : List Bytes :=
  [_request.callData, encodedStruct evm _request,
    [0x19] ++ [0x01] ++ packWord state.domainSeparator ++
      packWord (evm.keccak256 (encodedStruct evm _request))]

def signedSuffix (evm : Evm) (_request : ExecutionRequest) : Bytes :=
  if 0 < _request.callData.length then
    packWord (evm.keccak256 _request.callData) ++ _request.suffixData
  else _request.suffixData

theorem length_encodeAddress (account : Address) : (encodeAddress account).length = 32 := by
  simp [encodeAddress]

theorem encodeAddress_inj {left right : Address} (same : encodeAddress left = encodeAddress right) :
    left = right := by
  apply BitVec.eq_of_toNat_eq
  apply encodeBE_inj _ _ same
  · have bound := left.isLt
    omega
  · have bound := right.isLt
    omega

theorem encodedStruct_inj {evm : Evm} {first second : ExecutionRequest}
    (same : encodedStruct evm first = encodedStruct evm second) :
    first.typeHash = second.typeHash ∧ first.from_ = second.from_ ∧ first.nonce = second.nonce ∧
      signedSuffix evm first = signedSuffix evm second := by
  simp only [encodedStruct, List.append_assoc] at same
  obtain ⟨typeHash, same⟩ := List.append_inj same (by simp)
  obtain ⟨from_, same⟩ := List.append_inj same (by simp [length_encodeAddress])
  obtain ⟨nonce, suffix⟩ := List.append_inj same (by simp)
  exact ⟨(packWord_inj ⟨32, rfl⟩).mp typeHash, encodeAddress_inj from_,
    (packWord_inj ⟨32, rfl⟩).mp nonce, suffix⟩

theorem encodeRequest_inj {evm : Evm} {state₁ state₂ : State} {first second : ExecutionRequest}
    {txHashEncoded : Bytes} (left : encodeRequest evm state₁ first = .ok txHashEncoded)
    (right : encodeRequest evm state₂ second = .ok txHashEncoded)
    (collisionFree : evm.CollisionFree
      (hashedStrings evm state₁ first ++ hashedStrings evm state₂ second)) :
    encodedStruct evm first = encodedStruct evm second := by
  simp only [encodeRequest, bind_eq_ok, pure_eq_ok] at left right
  obtain ⟨_, _, left⟩ := left
  obtain ⟨_, _, right⟩ := right
  have hashes := (List.append_inj' (left.trans right.symm) (by simp)).2
  apply collisionFree
  · simp [hashedStrings]
  · simp [hashedStrings]
  · exact (packWord_inj ⟨32, rfl⟩).mp hashes

-- The same signed bytes with the hash of the call data read as the start of the suffix.
def resplit (evm : Evm) (_request : ExecutionRequest) : ExecutionRequest :=
  { _request with
    callData := []
    suffixData := packWord (evm.keccak256 _request.callData) ++ _request.suffixData }

/-- The call data names its own hash: it is what the forwarder builds from the resplit request. -/
def SelfHashing (evm : Evm) (type : MetaTxRequestType) (_request : ExecutionRequest) : Prop :=
  if type.destination = 0 then
    addressOf (packWord (evm.keccak256 _request.callData)) =
        addressOf (_request.suffixData.take 32) ∧
      packWord type.functionSignature ++ _request.suffixData = _request.callData
  else packWord type.functionSignature ++
    (packWord (evm.keccak256 _request.callData) ++ _request.suffixData) = _request.callData

instance (evm : Evm) (type : MetaTxRequestType) (_request : ExecutionRequest) :
    Decidable (SelfHashing evm type _request) :=
  inferInstanceAs (Decidable (if type.destination = 0 then _ ∧ _ else _))

def destinationIn (type : MetaTxRequestType) (_request : ExecutionRequest) : Address :=
  if type.destination = 0 then addressOf (_request.suffixData.take 32) else type.destination

theorem destinationOf_eq (found : destinationOf world state _request = .ok _to) :
    _to = destinationIn (state.requestTypes _request.typeHash) _request := by
  simp only [destinationOf] at found
  unfold destinationIn
  split at found
  · rename_i unnamed
    split at found
    · cases found
    · simp only [bind_eq_ok, pure_eq_ok] at found
      obtain ⟨_, _, rfl⟩ := found
      rw [if_pos unnamed]
  · rename_i named
    simp only [pure_eq_ok] at found
    rw [if_neg named, found]

theorem resplit_same_call {evm : Evm} (supplied : 0 < _request.callData.length) :
    (destinationIn (state.requestTypes _request.typeHash) (resplit evm _request) =
        destinationIn (state.requestTypes _request.typeHash) _request ∧
      callDataOf state (resplit evm _request) = callDataOf state _request) ↔
      SelfHashing evm (state.requestTypes _request.typeHash) _request := by
  simp only [destinationIn, callDataOf, SelfHashing, resplit, supplied, List.length_nil,
    lt_irrefl, if_true, if_false, List.append_left_inj]
  by_cases unnamed : (state.requestTypes _request.typeHash).destination = 0
  · have front : (packWord (evm.keccak256 _request.callData) ++ _request.suffixData).take 32 =
        packWord (evm.keccak256 _request.callData) := List.take_left' (by simp)
    have rest : (packWord (evm.keccak256 _request.callData) ++ _request.suffixData).drop 32 =
        _request.suffixData := List.drop_left' (by simp)
    simp only [unnamed, if_true, front, rest]
  · simp only [unnamed, if_false, true_and]

theorem signedSuffix_cases {evm : Evm} {first second : ExecutionRequest}
    (same : encodedStruct evm first = encodedStruct evm second)
    (collisionFree : evm.keccak256 first.callData = evm.keccak256 second.callData →
      first.callData = second.callData) :
    (first.callData = [] ↔ second.callData = []) ∧ second = first ∨
      0 < first.callData.length ∧ second.callData = [] ∧ second = resplit evm first ∨
      first.callData = [] ∧ 0 < second.callData.length ∧ first = resplit evm second := by
  obtain ⟨typeHash, from_, nonce, suffix⟩ := encodedStruct_inj same
  obtain ⟨typeHash₁, from₁, nonce₁, suffixData₁, callData₁⟩ := first
  obtain ⟨typeHash₂, from₂, nonce₂, suffixData₂, callData₂⟩ := second
  simp only at typeHash from_ nonce collisionFree
  subst typeHash from_ nonce
  simp only [signedSuffix] at suffix
  by_cases supplied₁ : 0 < callData₁.length
  · by_cases supplied₂ : 0 < callData₂.length
    · simp only [supplied₁, supplied₂, if_true] at suffix
      obtain ⟨hashes, suffixData⟩ := List.append_inj suffix (by simp)
      have callData := collisionFree ((packWord_inj ⟨32, rfl⟩).mp hashes)
      subst callData suffixData
      exact Or.inl ⟨Iff.rfl, rfl⟩
    · have absent : callData₂ = [] := List.length_eq_zero_iff.mp (by omega)
      simp only [supplied₁, absent, List.length_nil, lt_irrefl, if_true, if_false] at suffix
      subst suffix absent
      exact Or.inr (Or.inl ⟨supplied₁, rfl, rfl⟩)
  · have absent₁ : callData₁ = [] := List.length_eq_zero_iff.mp (by omega)
    by_cases supplied₂ : 0 < callData₂.length
    · simp only [supplied₂, absent₁, List.length_nil, lt_irrefl, if_true, if_false] at suffix
      subst suffix absent₁
      exact Or.inr (Or.inr ⟨rfl, supplied₂, rfl⟩)
    · have absent₂ : callData₂ = [] := List.length_eq_zero_iff.mp (by omega)
      simp only [absent₁, absent₂, List.length_nil, lt_irrefl, if_false] at suffix
      subst suffix absent₁ absent₂
      exact Or.inl ⟨Iff.rfl, rfl⟩

section Binding

variable {world₁ world₂ : World} {behind₁ behind₂ : Nat → UInt8}
  {state₁ state₂ later₁ later₂ : State} {first second : ExecutionRequest}
  {signatures₁ signatures₂ : Bytes} {isEOA₁ isEOA₂ : Bool} {to₁ to₂ : Address}
  {data₁ data₂ txHashEncoded : Bytes}

/-- Two requests with the same signed bytes lead to the same call exactly if both or neither of
them supply call data, short of call data that names its own hash. -/
theorem executeTransactionInternal_bound
    (forwards₁ : (executeTransactionInternal deployment world₁ behind₁ state₁ first signatures₁
      isEOA₁).Issues later₁ (.call to₁ data₁))
    (forwards₂ : (executeTransactionInternal deployment world₂ behind₂ state₂ second signatures₂
      isEOA₂).Issues later₂ (.call to₂ data₂))
    (types : later₁.requestTypes = later₂.requestTypes)
    (encoded : encodeRequest deployment.evm state₁ first =
      encodeRequest deployment.evm state₂ second)
    (collisionFree : deployment.evm.CollisionFree
      (hashedStrings deployment.evm state₁ first ++ hashedStrings deployment.evm state₂ second)) :
    (to₁ = to₂ ∧ data₁ = data₂) ↔
      ((first.callData = [] ↔ second.callData = []) ∨
        (first.callData ≠ [] ∧
          SelfHashing deployment.evm (later₁.requestTypes first.typeHash) first) ∨
        (second.callData ≠ [] ∧
          SelfHashing deployment.evm (later₂.requestTypes second.typeHash) second)) := by
  obtain ⟨txHashEncoded, encoded₁, _, _, found₁, rfl⟩ :=
    executeTransactionInternal_forwards forwards₁
  obtain ⟨_, encoded₂, _, _, found₂, rfl⟩ := executeTransactionInternal_forwards forwards₂
  have sameBytes := encodeRequest_inj encoded₁ ((encoded.symm.trans encoded₁)) collisionFree
  have callDataFree : deployment.evm.keccak256 first.callData =
      deployment.evm.keccak256 second.callData → first.callData = second.callData := by
    apply collisionFree
    · simp [hashedStrings]
    · simp [hashedStrings]
  have to₁Eq := destinationOf_eq found₁
  have to₂Eq := destinationOf_eq found₂
  have callDataEq : ∀ request, callDataOf later₂ request = callDataOf later₁ request := by
    intro request
    simp [callDataOf, types]
  rw [callDataEq, to₁Eq, to₂Eq, ← types]
  rcases signedSuffix_cases sameBytes callDataFree with
    ⟨form, rfl⟩ | ⟨supplied, absent, rfl⟩ | ⟨absent, supplied, rfl⟩
  · simp
  · have notEmpty : first.callData ≠ [] := List.length_pos_iff.mp supplied
    rw [← resplit_same_call supplied]
    simp [resplit, notEmpty, eq_comm]
  · have notEmpty : second.callData ≠ [] := List.length_pos_iff.mp supplied
    rw [← resplit_same_call supplied]
    simp [resplit, notEmpty]

end Binding

section Requests

def forwarderAddress : Address := 0xf04a4d

def administratorAddress : Address := 0xad317

def managerAddress : Address := 0x111

def registryAddress : Address := 0x5e9

def domainHash : Bytes32 := 0x0c058dd5e7a4f95373b04a1d7c4b638b0f9711536e8ad0bf3e86775bdc5dc527

def cancelTypeHash : Bytes32 := 0xfc61e554d8da03571436be8820948b7c044eb5abfddb2394091c1fdebc71b5fd

def renameTypeHash : Bytes32 := 0x425002ddfe8a5210fcf678ff38ca336c9b3babbf2f10efa5fdeaace5951e2b48

-- Cancelling the commitment of token 1 in the name of the zero address.
def unsignedRequest : ExecutionRequest where
  typeHash := cancelTypeHash
  from_ := 0
  nonce := 0
  suffixData := encodeBE 32 1
  callData := []

-- Naming a wallet "Startbahn": the type has a string, so the call data is supplied.
def renameRequest : ExecutionRequest where
  typeHash := renameTypeHash
  from_ := 0x7e5f4552091a69125d5dfcb7b8c2659029395bdf
  nonce := 0
  suffixData := encodeBE 32 0x3a11 ++
    encodeBE 32 0xe7c0618b33198cfc39aa8d4e74bcb1e90b32878794931ec8f99b169d01dae626
  callData := encodeBE 4 0x5624edde ++ encodeBE 32 0x3a11 ++ encodeBE 32 0x40 ++ encodeBE 32 9 ++
    ascii "Startbahn" ++ List.replicate 23 0

def renameHash : Bytes32 := 0x2e42ed88572d4e4f97b4a79e7dd9278a22973a33415d24a8bb83d6dfb392e8bb

def renameSignature : Bytes :=
  encodeBE 32 0xe9a2463c5ecaaaac49dc3ac382cae02cec513d342ee9a6c18e842c344f7b2bfb ++
    encodeBE 32 0x7eb5180f76fe9df10aa68d80ec724c7a82662c7290918a841bb0241c23be6e3b ++ encodeBE 1 27

def requestStruct (_request : ExecutionRequest) (callData : Bytes) : Bytes :=
  packWord _request.typeHash ++ encodeAddress _request.from_ ++ packWord _request.nonce ++
    callData ++ _request.suffixData

def requestEncoding (structHash : Bytes32) : Bytes :=
  [0x19, 0x01] ++ packWord domainHash ++ packWord structHash

def requestEvm : Evm :=
  Evm.ofTables
    [([], 0xc5d2460186f7233c927e7db2dcc703c0e500b653ca82273b7bfad8045d85a470),
      (ascii "EIP712Domain(string name,string version,uint256 chainId,address verifyingContract)",
        0x8b73c3c69bb8fe3d512ecc4cf759cc79239f7b179b0ffacaa9a75d522b39400f),
      (ascii "Startrail", 0xf22048a501bf8025c8fa2565105dbf915ef99303bbba2c96f5fe86cd82404fd7),
      (ascii "1", 0xc89efdaa54c0f20c7adf612882df0950f5a951637e0307cdcb4c672f298b8bc6),
      (encodeBE 32 0x8b73c3c69bb8fe3d512ecc4cf759cc79239f7b179b0ffacaa9a75d522b39400f ++
        encodeBE 32 0xf22048a501bf8025c8fa2565105dbf915ef99303bbba2c96f5fe86cd82404fd7 ++
        encodeBE 32 0xc89efdaa54c0f20c7adf612882df0950f5a951637e0307cdcb4c672f298b8bc6 ++
        encodeBE 32 1 ++ encodeAddress forwarderAddress, domainHash),
      (ascii "StartrailRegistryCancelSRRCommitment(address from,uint256 nonce,uint256 tokenId)",
        cancelTypeHash),
      (ascii ("WalletSetOriginalName(address from,uint256 nonce,bytes data,address wallet," ++
        "string name)"), renameTypeHash),
      (requestStruct unsignedRequest [],
        0x83858c02544b7ea2689a5fac26a0ece6bf9cbe17eb5d07284c304d741ba15b4b),
      (requestEncoding 0x83858c02544b7ea2689a5fac26a0ece6bf9cbe17eb5d07284c304d741ba15b4b,
        0x111415d0f1f57ec8fddbf91140c4a30e711c95b5fd3453599fcc6816ac0f568f),
      (renameRequest.callData, 0x54926e526af587388c1823f17bbd76dddbee05a7c221f1292982313fe32cb43a),
      (requestStruct renameRequest
        (encodeBE 32 0x54926e526af587388c1823f17bbd76dddbee05a7c221f1292982313fe32cb43a),
        0x08f4a6fc258403dc09984cdd09256aa86b37c151369d35149b7ebe36a055314a),
      (requestEncoding 0x08f4a6fc258403dc09984cdd09256aa86b37c151369d35149b7ebe36a055314a,
        renameHash)]
    [((renameHash, 27, 0xe9a2463c5ecaaaac49dc3ac382cae02cec513d342ee9a6c18e842c344f7b2bfb,
        0x7eb5180f76fe9df10aa68d80ec724c7a82662c7290918a841bb0241c23be6e3b),
      ⟨renameRequest.from_, by decide⟩)]

def requestDeployment : Deployment := ⟨requestEvm, forwarderAddress⟩

def requestWorld : World :=
  World.named [(ADMINISTRATOR, administratorAddress), (LICENSED_USER_MANAGER, managerAddress),
    (STARTRAIL_REGISTRY, registryAddress)]

def administratorCall (call : Call) : Transaction :=
  ⟨requestWorld, ⟨administratorAddress, []⟩, fun _ => 0, call⟩

def deployedState : State :=
  { State.blank with
    initializable := ⟨1, false⟩
    domainSeparator := domainSeparatorOf requestDeployment
    nameRegistryAddress := 0x4a3e
    logs := [.Initialized 1] }

theorem deployedState_deployed : Deployed requestDeployment deployedState := ⟨0x4a3e, rfl⟩

/-- A forwarder with two request types. -/
def registeredConfig : Config Revert State Query Answer Transaction :=
  ((Config.start deployedState).enter (entry requestDeployment)
    (administratorCall (.registerRequestType (ascii "StartrailRegistryCancelSRRCommitment")
      (ascii "uint256 tokenId") registryAddress 0x4247794c))).enter (entry requestDeployment)
    (administratorCall (.registerRequestType (ascii "WalletSetOriginalName")
      (ascii "bytes data,address wallet,string name") managerAddress 0x5624edde))

theorem registeredConfig_reach :
    Reach (entry requestDeployment) (fun _ _ => True) deployedState registeredConfig :=
  Reach.enter _ (Reach.enter _ Reach.start trivial) trivial

set_option maxRecDepth 8000 in
theorem renameRequest_issues : ∃ later,
    (executeTransactionEOA requestDeployment requestWorld (fun _ => 0) registeredConfig.now.state
      renameRequest renameSignature).Issues later
        (.call managerAddress (callDataOf registeredConfig.now.state renameRequest)) :=
  ⟨_, .first rfl⟩

set_option maxRecDepth 8000 in
theorem executeTransactionEOA_signed_rename :
    ∃ txHashEncoded, encodeRequest requestEvm registeredConfig.now.state renameRequest =
        .ok txHashEncoded ∧
      SignedBy requestEvm (fun _ => 0) (requestEvm.keccak256 txHashEncoded) renameSignature
        renameRequest.from_ := by
  obtain ⟨later, issues⟩ := renameRequest_issues
  obtain ⟨_, txHashEncoded, encoded, signed⟩ := executeTransactionEOA_signed requestDeployment
    requestWorld (fun _ => 0) registeredConfig.now.state later renameRequest renameSignature _ _
    issues
  exact ⟨txHashEncoded, encoded, signed.mpr (by decide)⟩

set_option maxRecDepth 8000 in
theorem unsignedRequest_forwarded :
    ¬∀ config, Reach (entry requestDeployment) (fun _ _ => True) deployedState config →
      ∀ (world : World) (behind : Nat → UInt8) (later final : State) (_request : ExecutionRequest)
        (_signature : Bytes) (_to : Address) (_data txHashEncoded : Bytes)
        (environment : State → Query → State × Answer),
        (executeTransactionEOA requestDeployment world behind config.now.state _request
          _signature).Issues later (.call _to _data) →
        (executeTransactionEOA requestDeployment world behind config.now.state _request
          _signature).against environment = .ok final →
        encodeRequest requestEvm config.now.state _request = .ok txHashEncoded →
        SignedBy requestEvm behind (requestEvm.keccak256 txHashEncoded) _signature
          _request.from_ := by
  intro holds
  have signed := holds registeredConfig registeredConfig_reach requestWorld (fun _ => 0) _ _
    unsignedRequest (List.replicate 65 0) _ _ _ (fun state _ => (state, ⟨⟨true, []⟩, requestWorld⟩))
    (Outcome.Issues.first rfl) rfl rfl
  exact ((Evm.signed_iff _ _ _ _ _ _).mp signed).2 rfl

def resplitRequest : ExecutionRequest := resplit requestEvm renameRequest

set_option maxRecDepth 8000 in
theorem renameRequest_bound :
    callDataOf registeredConfig.now.state renameRequest ≠
      callDataOf registeredConfig.now.state resplitRequest := by
  intro same
  have form := (@executeTransactionInternal_bound requestDeployment requestWorld requestWorld
    (fun _ => 0) (fun _ => 0) registeredConfig.now.state registeredConfig.now.state _ _
    renameRequest resplitRequest renameSignature renameSignature true true _ _ _ _
    (Outcome.Issues.first rfl) (Outcome.Issues.first rfl) rfl rfl (by decide)).mp ⟨rfl, same⟩
  revert form
  decide

set_option maxRecDepth 8000 in
theorem resplitRequest_other_call :
    ¬∀ config, Reach (entry requestDeployment) (fun _ _ => True) deployedState config →
      ∀ (world : World) (behind : Nat → UInt8) (first second : ExecutionRequest)
        (signatures : Bytes) (later₁ later₂ : State) (to₁ to₂ : Address) (data₁ data₂ : Bytes),
        (executeTransactionEOA requestDeployment world behind config.now.state first
          signatures).Issues later₁ (.call to₁ data₁) →
        (executeTransactionEOA requestDeployment world behind config.now.state second
          signatures).Issues later₂ (.call to₂ data₂) →
        encodeRequest requestEvm config.now.state first =
          encodeRequest requestEvm config.now.state second →
        requestEvm.CollisionFree (hashedStrings requestEvm config.now.state first ++
          hashedStrings requestEvm config.now.state second) →
        to₁ = to₂ ∧ data₁ = data₂ := by
  intro holds
  have same := holds registeredConfig registeredConfig_reach requestWorld (fun _ => 0)
    renameRequest resplitRequest renameSignature _ _ _ _ _ _ (Outcome.Issues.first rfl)
    (Outcome.Issues.first rfl) rfl (by decide)
  have different : callDataOf registeredConfig.now.state renameRequest ≠
      callDataOf registeredConfig.now.state resplitRequest := by decide
  exact different same.2

end Requests

end Startrail.MetaTxForwarder
