import Startrail.Library.Reentrancy
import Startrail.Shared

/-!
The meta transaction forwarder: `metaTx/MetaTxForwarderV3.sol` with
`metaTx/MetaTxRequestManager.sol`, `metaTx/TransactionExecutor.sol` and
`metaTx/replayProtection/ReplayProtection.sol`. Two calls leave the contract: the
question to the licensed user manager whether a signature set is valid, and the
forwarded call. Both run unknown code, which may come back to the forwarder.
-/

namespace Startrail.MetaTxForwarder

def IS_VALID_SIG_SUCCESS : Bytes4 := 0x9878440b

def UINT_128_SHIFT : Uint256 := BitVec.ofNat 256 (2 ^ 128)

def DOMAIN_NAME : Bytes := ascii "Startrail"

def DOMAIN_VERSION : Bytes := ascii "1"

def GENERIC_PARAMS : Bytes := ascii "address from,uint256 nonce"

structure ExecutionRequest where
  typeHash : Bytes32
  from_ : Address
  nonce : Uint256
  suffixData : Bytes
  callData : Bytes

structure MetaTxRequestType where
  destination : Address
  functionSignature : Bytes4

inductive Event where
  | Initialized (version : Uint8)
  | RequestTypeRegistered (typeHash : Bytes32) (typeStr : Bytes)
  | RequestTypeUnregistered (typeHash : Bytes32)
  | ExecutionSuccess (txHash : Bytes32)

structure State where
  nonces : Address → Uint128 → Uint128
  initializable : Initializable
  typeHashes : Bytes32 → Bool
  requestTypes : Bytes32 → MetaTxRequestType
  domainSeparator : Bytes32
  nameRegistryAddress : Address
  collectionRegistry : Address
  logs : List Event

def State.blank : State where
  nonces := fun _ _ => 0
  initializable := ⟨0, false⟩
  typeHashes := fun _ => false
  requestTypes := fun _ => ⟨0, 0⟩
  domainSeparator := 0
  nameRegistryAddress := 0
  collectionRegistry := 0
  logs := []

def State.emit (state : State) (event : Event) : State := { state with logs := event :: state.logs }

structure Deployment where
  evm : Evm
  this : Address

inductive Query where
  | isValidSignatureSet (manager _walletAddress : Address) (_hash : Bytes32) (_signatures : Bytes)
  | call (_to : Address) (_data : Bytes)

structure Answer where
  reply : Reply
  world : World

abbrev Execution (α : Type) := Outcome Revert State Query Answer α

def onlyAdministrator (world : World) (msg : Msg) (state : State) : Result Unit :=
  require ((world.nameRegistry state.nameRegistryAddress).administrator = msg.sender)
    "Caller is not the Startrail Administrator"

def requestTypeRegistered (state : State) (_typeHash : Bytes32) : Result Unit :=
  require (state.typeHashes _typeHash = true) "request type not registered"

def domainSeparatorOf (deployment : Deployment) : Bytes32 :=
  let keccak256 := deployment.evm.keccak256
  keccak256 (packWord (keccak256 (ascii
      "EIP712Domain(string name,string version,uint256 chainId,address verifyingContract)")) ++
    packWord (keccak256 DOMAIN_NAME) ++ packWord (keccak256 DOMAIN_VERSION) ++
    packWord deployment.evm.chainid ++ encodeAddress deployment.this)

-- The source's `initialize`, a reserved word here. Its body is an initializer of its own, which
-- passes inside another one only while the contract has no code yet.
def initializeV1 (deployment : Deployment) (isContract : Bool) (state : State)
    (_nameRegistry : Address) : Result State := do
  let storage ← state.initializable.initializer isContract
  requireCustom (_nameRegistry ≠ 0) "ZeroAddress"
  let storage ← storage.initializer isContract
  pure ({ state with
    initializable := storage.finish
    domainSeparator := domainSeparatorOf deployment
    nameRegistryAddress := _nameRegistry }.emit (.Initialized 1))

def setCollectionRegistry (world : World) (msg : Msg) (state : State) (_registry : Address) :
    Result State := do
  onlyAdministrator world msg state
  requireCustom (_registry ≠ 0) "ZeroAddress"
  pure { state with collectionRegistry := _registry }

def registerRequestType (deployment : Deployment) (world : World) (msg : Msg) (state : State)
    (_typeName _typeSuffix : Bytes) (_destinationContract : Address)
    (_functionSignature : Bytes4) : Result State := do
  onlyAdministrator world msg state
  require (∀ c ∈ _typeName, c ≠ 40 ∧ c ≠ 41) "invalid typename"
  let requestType :=
    _typeName ++ ascii "(" ++ GENERIC_PARAMS ++ ascii "," ++ _typeSuffix ++ ascii ")"
  let requestTypeHash := deployment.evm.keccak256 requestType
  require (state.typeHashes requestTypeHash = false) "Already registered type with this typeHash"
  pure ({ state with
    typeHashes := Function.update state.typeHashes requestTypeHash true
    requestTypes := Function.update state.requestTypes requestTypeHash
      ⟨_destinationContract, _functionSignature⟩ }.emit
    (.RequestTypeRegistered requestTypeHash requestType))

def unregisterRequestType (world : World) (msg : Msg) (state : State) (_typeHash : Bytes32) :
    Result State := do
  requestTypeRegistered state _typeHash
  onlyAdministrator world msg state
  pure ({ state with
    typeHashes := Function.update state.typeHashes _typeHash false
    requestTypes := Function.update state.requestTypes _typeHash ⟨0, 0⟩ }.emit
    (.RequestTypeUnregistered _typeHash))

def encodedStruct (evm : Evm) (_request : ExecutionRequest) : Bytes :=
  let encodedStructPrefix := packWord _request.typeHash ++
    (encodeAddress _request.from_ ++ packWord _request.nonce)
  let encodedStructSuffix := if 0 < _request.callData.length then
      packWord (evm.keccak256 _request.callData) ++ _request.suffixData
    else _request.suffixData
  encodedStructPrefix ++ encodedStructSuffix

def encodeRequest (evm : Evm) (state : State) (_request : ExecutionRequest) : Result Bytes := do
  requestTypeRegistered state _request.typeHash
  let txHash := evm.keccak256 (encodedStruct evm _request)
  pure ([0x19] ++ [0x01] ++ packWord state.domainSeparator ++ packWord txHash)

def getNonce (state : State) (_wallet : Address) (_channel : Uint128) : Uint128 :=
  state.nonces _wallet _channel

def channelOf (_packedNonce : Uint256) : Uint128 := (_packedNonce >>> 128).setWidth 128

def nonceOf (_packedNonce : Uint256) : Uint128 := (_packedNonce % UINT_128_SHIFT).setWidth 128

def packNonce (_channel _nonce : Uint128) : Result Uint256 := do
  let shifted : Uint256 := _channel.setWidth 256 <<< 128
  requirePanic (shifted.toNat + _nonce.toNat < 2 ^ 256) 0x11
  pure (shifted + _nonce.setWidth 256)

def checkAndUpdateNonce (state : State) (_wallet : Address) (_packedNonce : Uint256) :
    Result (Bool × State) :=
  let channel := channelOf _packedNonce
  let nonce := nonceOf _packedNonce
  let currentNonce := state.nonces _wallet channel
  if nonce = currentNonce then do
    requirePanic (currentNonce.toNat + 1 < 2 ^ 128) 0x11
    pure (true, { state with nonces := update₂ state.nonces _wallet channel (currentNonce + 1) })
  else pure (false, state)

def verifySigner (evm : Evm) (behind : Nat → UInt8) (_request : ExecutionRequest)
    (txHash : Bytes32) (_signatures : Bytes) : Result Unit :=
  let (v, r, s) := signatureSplit behind _signatures 0
  require (evm.ecrecover txHash v r s = _request.from_) "Signer verification failed"

def verifySignatureSet (world : World) (state : State) (_request : ExecutionRequest)
    (txHash : Bytes32) (_signatures : Bytes) : Execution (World × State) := do
  let manager := (world.nameRegistry state.nameRegistryAddress).get LICENSED_USER_MANAGER
  let (state, answer) ← Outcome.external state
    (.isValidSignatureSet manager _request.from_ txHash _signatures)
  if answer.reply.success = false then .revert (.bubbled answer.reply.returndata)
  else
    match decodeBytes4 answer.reply.returndata with
    | none => .revert .empty
    | some result =>
        require (result = IS_VALID_SIG_SUCCESS) "isValidSignatureSet check failed"
        pure (answer.world, state)

def destinationOf (world : World) (state : State) (_request : ExecutionRequest) :
    Result Address :=
  let destination := (state.requestTypes _request.typeHash).destination
  if destination = 0 then
    if _request.suffixData.length < 32 then .error .empty
    else do
      let destination := addressOf (_request.suffixData.take 32)
      requireCustom (world.collectionRegistry state.collectionRegistry destination = true)
        "DestinationNotACollectionProxy"
      pure destination
  else pure destination

def callDataOf (state : State) (_request : ExecutionRequest) : Bytes :=
  let requestType := state.requestTypes _request.typeHash
  let callData := if 0 < _request.callData.length then _request.callData
    else packWord requestType.functionSignature ++
      (if requestType.destination = 0 then _request.suffixData.drop 32 else _request.suffixData)
  callData ++ packWord _request.from_

def executeCall (state : State) (_to : Address) (_data : Bytes) (_txHash : Bytes32) :
    Execution State := do
  let (state, answer) ← Outcome.external state (.call _to _data)
  if answer.reply.success = true then pure (state.emit (.ExecutionSuccess _txHash))
  else .revert (.bubbled answer.reply.returndata)

def executeTransactionInternal (deployment : Deployment) (world : World) (behind : Nat → UInt8)
    (state : State) (_request : ExecutionRequest) (_signatures : Bytes) (isEOASignature : Bool) :
    Execution State := do
  requestTypeRegistered state _request.typeHash
  let (success, state) ← checkAndUpdateNonce state _request.from_ _request.nonce
  require (success = true) "Invalid nonce"
  let txHashEncoded ← encodeRequest deployment.evm state _request
  let txHash := deployment.evm.keccak256 txHashEncoded
  let (world, state) ← (if isEOASignature then do
      verifySigner deployment.evm behind _request txHash _signatures
      pure (world, state)
    else verifySignatureSet world state _request txHash _signatures)
  let destination ← destinationOf world state _request
  executeCall state destination (callDataOf state _request) txHash

def executeTransactionLUW (deployment : Deployment) (world : World) (behind : Nat → UInt8)
    (state : State) (_request : ExecutionRequest) (_signatures : Bytes) : Execution State := do
  requestTypeRegistered state _request.typeHash
  executeTransactionInternal deployment world behind state _request _signatures false

def executeTransactionEOA (deployment : Deployment) (world : World) (behind : Nat → UInt8)
    (state : State) (_request : ExecutionRequest) (_signature : Bytes) : Execution State := do
  requestTypeRegistered state _request.typeHash
  executeTransactionInternal deployment world behind state _request _signature true

inductive Call where
  | initializeV1 (_nameRegistry : Address)
  | setCollectionRegistry (_registry : Address)
  | registerRequestType (_typeName _typeSuffix : Bytes) (_destinationContract : Address)
      (_functionSignature : Bytes4)
  | unregisterRequestType (_typeHash : Bytes32)
  | executeTransactionLUW (_request : ExecutionRequest) (_signatures : Bytes)
  | executeTransactionEOA (_request : ExecutionRequest) (_signature : Bytes)

-- `behind` is the memory behind the copy of the signatures.
structure Transaction where
  world : World
  msg : Msg
  behind : Nat → UInt8
  call : Call

def entry (deployment : Deployment) (transaction : Transaction) (state : State) :
    Execution State :=
  let ⟨world, msg, behind, call⟩ := transaction
  match call with
  | .initializeV1 _nameRegistry =>
      liftM (MetaTxForwarder.initializeV1 deployment true state _nameRegistry)
  | .setCollectionRegistry _registry =>
      liftM (MetaTxForwarder.setCollectionRegistry world msg state _registry)
  | .registerRequestType _typeName _typeSuffix _destinationContract _functionSignature =>
      liftM (MetaTxForwarder.registerRequestType deployment world msg state _typeName _typeSuffix
        _destinationContract _functionSignature)
  | .unregisterRequestType _typeHash =>
      liftM (MetaTxForwarder.unregisterRequestType world msg state _typeHash)
  | .executeTransactionLUW _request _signatures =>
      MetaTxForwarder.executeTransactionLUW deployment world behind state _request _signatures
  | .executeTransactionEOA _request _signature =>
      MetaTxForwarder.executeTransactionEOA deployment world behind state _request _signature

/-- A deployed forwarder: `initialize` runs in the constructor of its proxy. -/
def Deployed (deployment : Deployment) (state : State) : Prop :=
  ∃ _nameRegistry, initializeV1 deployment false State.blank _nameRegistry = .ok state

end Startrail.MetaTxForwarder
