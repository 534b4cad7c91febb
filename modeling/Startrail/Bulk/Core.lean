import Startrail.Library.Reentrancy
import Startrail.Shared

/-!
The bulk contract: `bulk/BulkV6.sol`. A batch is a Merkle tree whose root a
licensed user prepares; anyone may then submit its leaves with their proofs. A
leaf stands for one operation on the registry or on a contract the submitter
names, which is called after the leaf is marked and may come back at once.
-/

namespace Startrail.Bulk

structure Batch where
  prepared : Bool
  signer : Address
  processedCount : Uint8
  processedLeaves : Bytes32 → Bool

structure CreateSRRInputs where
  isPrimaryIssuer : Bool
  artistAddress : Address
  metadataCID : Bytes
  lockExternalTransfer : Bool
  to_ : Address
  royaltyReceiver : Address
  royaltyBasisPoints : Uint16
  contractAddress : Address

inductive Event where
  | Initialized (version : Uint8)
  | BatchPrepared (merkleRoot : Bytes32) (sender : Address)
  | CreateSRRWithProof (merkleRoot : Bytes32) (contractAddress : Address) (tokenId : Uint256)
      (leafHash : Bytes32)
  | ApproveSRRByCommitmentWithProof (merkleRoot : Bytes32) (contractAddress : Address)
      (tokenId : Uint256) (leafHash : Bytes32)
  | TransferFromWithProvenanceWithProof (merkleRoot : Bytes32) (contractAddress : Address)
      (tokenId : Uint256) (leafHash : Bytes32)

structure State where
  initializable : Initializable
  trustedForwarder : Address
  nameRegistryAddress : Address
  batches : Bytes32 → Batch
  logs : List Event

def State.blank : State where
  initializable := ⟨0, false⟩
  trustedForwarder := 0
  nameRegistryAddress := 0
  batches := fun _ => ⟨false, 0, 0, fun _ => false⟩
  logs := []

def State.emit (state : State) (event : Event) : State := { state with logs := event :: state.logs }

def State.setBatch (state : State) (merkleRoot : Bytes32) (batch : Batch) : State :=
  { state with batches := Function.update state.batches merkleRoot batch }

inductive Query where
  | createSRRFromBulk (target : Address) (isPrimaryIssuer : Bool) (artistAddress : Address)
      (metadataCID : Bytes) (issuerAddress : Address) (lockExternalTransfer : Bool)
      (to_ royaltyReceiver : Address) (royaltyBasisPoints : Uint16)
  | approveSRRByCommitmentFromBulk (target signer : Address) (tokenId : Uint256)
      (commitment : Bytes32) (historyMetadataHash : Bytes) (customHistoryId : Uint256)
  | transferFromWithProvenanceFromBulk (target signer to_ : Address) (tokenId : Uint256)
      (historyMetadataHash : Bytes) (customHistoryId : Uint256) (isIntermediary : Bool)

structure Answer where
  reply : Reply
  world : World

abbrev Execution (α : Type) := Outcome Revert State Query Answer α

def isNewBatch (state : State) (merkleRoot : Bytes32) : Result Unit :=
  require ((state.batches merkleRoot).prepared = false)
    "Batch already exists for the given merkle root"

def batchExists (state : State) (merkleRoot : Bytes32) : Result Unit :=
  require ((state.batches merkleRoot).prepared = true)
    "Batch doesn't exist for the given merkle root"

def srrNotAlreadyProcessed (state : State) (merkleRoot leafHash : Bytes32) : Result Unit :=
  require ((state.batches merkleRoot).processedLeaves leafHash = false) "SRR already processed."

def onlyAdministrator (world : World) (msg : Msg) (state : State) : Result Unit :=
  require ((world.nameRegistry state.nameRegistryAddress).administrator = msg.sender)
    "Caller is not the Startrail Administrator"

def trustedForwarderOnly (msg : Msg) (state : State) : Result Unit :=
  require (msg.sender = state.trustedForwarder)
    "Function can only be called through the trusted Forwarder"

def _setTrustedForwarder (state : State) (forwarder : Address) : Result State :=
  if forwarder = 0 then .error .empty else pure { state with trustedForwarder := forwarder }

-- The source's `initialize`, a reserved word here.
def initializeV1 (isContract : Bool) (state : State) (_nameRegistry _trustedForwarder : Address) :
    Result State := do
  let storage ← state.initializable.initializer isContract
  let state ← _setTrustedForwarder { state with
    initializable := storage.finish
    nameRegistryAddress := _nameRegistry } _trustedForwarder
  pure (state.emit (.Initialized 1))

def setTrustedForwarder (world : World) (msg : Msg) (state : State) (forwarder : Address) :
    Result State := do
  onlyAdministrator world msg state
  _setTrustedForwarder state forwarder

def _prepareBatch (msg : Msg) (state : State) (merkleRoot : Bytes32) : State :=
  let signer := msgSender state.trustedForwarder msg
  (state.setBatch merkleRoot { state.batches merkleRoot with
    processedCount := 0
    prepared := true
    signer := signer }).emit (.BatchPrepared merkleRoot signer)

def prepareBatchFromLicensedUser (msg : Msg) (state : State) (merkleRoot : Bytes32) :
    Result State := do
  isNewBatch state merkleRoot
  trustedForwarderOnly msg state
  pure (_prepareBatch msg state merkleRoot)

def _startrailRegistry (world : World) (state : State) : Address :=
  (world.nameRegistry state.nameRegistryAddress).get STARTRAIL_REGISTRY

-- `MerkleProof` of OpenZeppelin 5: a pair is hashed with its smaller element first.
def hashPair (evm : Evm) (a b : Bytes32) : Bytes32 :=
  if a < b then evm.keccak256 (packWord a ++ packWord b)
  else evm.keccak256 (packWord b ++ packWord a)

def processProof (evm : Evm) (proof : List Bytes32) (leaf : Bytes32) : Bytes32 :=
  proof.foldl (hashPair evm) leaf

def MerkleProof.verify (evm : Evm) (proof : List Bytes32) (root leaf : Bytes32) : Bool :=
  processProof evm proof leaf == root

def approveHashInputs (tokenId : Uint256) (commitment : Bytes32) (historyMetadataHash : Bytes)
    (customHistoryId : Uint256) (contractAddress : Address) : Bytes :=
  let hashInputs :=
    packWord tokenId ++ packWord commitment ++ historyMetadataHash ++ packWord customHistoryId
  if contractAddress ≠ 0 then hashInputs ++ packWord contractAddress else hashInputs

def verifyApproveSRRByCommitmentHash (evm : Evm) (leafHash : Bytes32) (tokenId : Uint256)
    (commitment : Bytes32) (historyMetadataHash : Bytes) (customHistoryId : Uint256)
    (contractAddress : Address) : Bool :=
  leafHash == evm.keccak256
    (approveHashInputs tokenId commitment historyMetadataHash customHistoryId contractAddress)

def transferHashInputs (to_ : Address) (tokenId : Uint256) (metadataCID : Bytes)
    (customHistoryId : Uint256) (isIntermediary : Bool) (contractAddress : Address) : Bytes :=
  let hashInputs := packWord to_ ++ packWord tokenId ++ metadataCID ++ packWord customHistoryId ++
    packBool isIntermediary
  if contractAddress ≠ 0 then hashInputs ++ packWord contractAddress else hashInputs

def verifyTransferFromWithProvenanceHash (evm : Evm) (leafHash : Bytes32) (to_ : Address)
    (tokenId : Uint256) (metadataCID : Bytes) (customHistoryId : Uint256) (isIntermediary : Bool)
    (contractAddress : Address) : Bool :=
  leafHash == evm.keccak256
    (transferHashInputs to_ tokenId metadataCID customHistoryId isIntermediary contractAddress)

def leafHashInputs (inputs : CreateSRRInputs) (isToInLeafHash : Bool) : Bytes :=
  let hashInputs := packBool inputs.isPrimaryIssuer ++ packWord inputs.artistAddress ++
    inputs.metadataCID ++ packBool inputs.lockExternalTransfer
  let hashInputs := if isToInLeafHash then hashInputs ++ packWord inputs.to_ else hashInputs
  let hashInputs :=
    hashInputs ++ packWord inputs.royaltyReceiver ++ packWord inputs.royaltyBasisPoints
  if inputs.contractAddress ≠ 0 then hashInputs ++ packWord inputs.contractAddress else hashInputs

def verifyLeafHash (evm : Evm) (leafHash : Bytes32) (inputs : CreateSRRInputs)
    (isToInLeafHash : Bool) : Bool :=
  leafHash == evm.keccak256 (leafHashInputs inputs isToInLeafHash)

-- `processedLeaves[leafHash] = true; processedCount++`
def markProcessed (state : State) (merkleRoot leafHash : Bytes32) : Result State := do
  let batch := state.batches merkleRoot
  requirePanic (batch.processedCount.toNat + 1 < 2 ^ 8) 0x11
  pure (state.setBatch merkleRoot { batch with
    processedLeaves := Function.update batch.processedLeaves leafHash true
    processedCount := batch.processedCount + 1 })

-- A call through an interface: a failure is passed on.
def externalCall (state : State) (query : Query) : Execution (World × State × Bytes) := do
  let (state, answer) ← Outcome.external state query
  if answer.reply.success = true then pure (answer.world, state, answer.reply.returndata)
  else .revert (.bubbled answer.reply.returndata)

def targetOf (world : World) (state : State) (contractAddress : Address) : Address :=
  if contractAddress = 0 then _startrailRegistry world state else contractAddress

def transferFromWithProvenanceWithProof (evm : Evm) (world : World) (state : State)
    (merkleProof : List Bytes32) (merkleRoot leafHash : Bytes32) (to_ : Address) (tokenId : Uint256)
    (historyMetadataHash : Bytes) (customHistoryId : Uint256) (isIntermediary : Bool)
    (contractAddress : Address) : Execution State := do
  batchExists state merkleRoot
  srrNotAlreadyProcessed state merkleRoot leafHash
  require (verifyTransferFromWithProvenanceHash evm leafHash to_ tokenId historyMetadataHash
      customHistoryId isIntermediary contractAddress = true)
    "leafHash does not match the transferFromWithProvenance details"
  require (MerkleProof.verify evm merkleProof merkleRoot leafHash = true)
    "Merkle proof verification failed"
  let state ← markProcessed state merkleRoot leafHash
  let signer := (state.batches merkleRoot).signer
  let (_, state, _) ← externalCall state
    (.transferFromWithProvenanceFromBulk (targetOf world state contractAddress) signer to_ tokenId
      historyMetadataHash customHistoryId isIntermediary)
  pure (state.emit
    (.TransferFromWithProvenanceWithProof merkleRoot contractAddress tokenId leafHash))

def approveSRRByCommitmentWithProof (evm : Evm) (world : World) (state : State)
    (merkleProof : List Bytes32) (merkleRoot leafHash : Bytes32) (tokenId : Uint256)
    (commitment : Bytes32) (historyMetadataHash : Bytes) (customHistoryId : Uint256)
    (contractAddress : Address) : Execution State := do
  batchExists state merkleRoot
  srrNotAlreadyProcessed state merkleRoot leafHash
  require (verifyApproveSRRByCommitmentHash evm leafHash tokenId commitment historyMetadataHash
      customHistoryId contractAddress = true)
    "leafHash does not match the approveSRRByCommitment details"
  require (MerkleProof.verify evm merkleProof merkleRoot leafHash = true)
    "Merkle proof verification failed"
  let state ← markProcessed state merkleRoot leafHash
  let signer := (state.batches merkleRoot).signer
  let (_, state, _) ← externalCall state
    (.approveSRRByCommitmentFromBulk (targetOf world state contractAddress) signer tokenId
      commitment historyMetadataHash customHistoryId)
  pure (state.emit (.ApproveSRRByCommitmentWithProof merkleRoot contractAddress tokenId leafHash))

def _createSRRWithProof (evm : Evm) (world : World) (state : State) (merkleProof : List Bytes32)
    (merkleRoot leafHash : Bytes32) (inputs : CreateSRRInputs) :
    Execution (World × State × Uint256) := do
  require (MerkleProof.verify evm merkleProof merkleRoot leafHash = true)
    "Merkle proof verification failed"
  let state ← markProcessed state merkleRoot leafHash
  let issuerAddress := (state.batches merkleRoot).signer
  let (world, state, returndata) ← externalCall state
    (.createSRRFromBulk (targetOf world state inputs.contractAddress) inputs.isPrimaryIssuer
      inputs.artistAddress inputs.metadataCID issuerAddress inputs.lockExternalTransfer inputs.to_
      inputs.royaltyReceiver inputs.royaltyBasisPoints)
  if returndata.length < 32 then .revert .empty
  else
    let tokenId := wordOf (returndata.take 32)
    pure (world,
      state.emit (.CreateSRRWithProof merkleRoot inputs.contractAddress tokenId leafHash), tokenId)

def index {α : Type} (values : List α) (i : Nat) : Result α :=
  match values[i]? with
  | some value => pure value
  | none => .error (.panic 0x32)

/-- The arrays of `createSRRWithProofMulti`; only one of its overloads has `tos`. -/
structure CreateSRRArrays where
  isPrimaryIssuers : List Bool
  artistAddresses : List Address
  metadataCIDs : List Bytes
  lockExternalTransfers : List Bool
  tos : Option (List Address)
  royaltyReceivers : List Address
  royaltyBasisPoints : List Uint16
  contractAddresses : List Address

def CreateSRRArrays.inputsAt (arrays : CreateSRRArrays) (i : Nat) : Result CreateSRRInputs := do
  let isPrimaryIssuer ← index arrays.isPrimaryIssuers i
  let artistAddress ← index arrays.artistAddresses i
  let metadataCID ← index arrays.metadataCIDs i
  let lockExternalTransfer ← index arrays.lockExternalTransfers i
  let to_ ← (match arrays.tos with
    | some tos => index tos i
    | none => pure 0)
  let royaltyReceiver ← index arrays.royaltyReceivers i
  let royaltyBasisPoints ← index arrays.royaltyBasisPoints i
  let contractAddress ← index arrays.contractAddresses i
  pure ⟨isPrimaryIssuer, artistAddress, metadataCID, lockExternalTransfer, to_, royaltyReceiver,
    royaltyBasisPoints, contractAddress⟩

def createLoop (evm : Evm) (merkleProofs : List (List Bytes32)) (merkleRoot : Bytes32)
    (arrays : CreateSRRArrays) : List Bytes32 → Nat → World → State →
    Execution (State × List Uint256)
  | [], _, _, state => pure (state, [])
  | leafHash :: leafHashes, i, world, state => do
      srrNotAlreadyProcessed state merkleRoot leafHash
      let inputs ← arrays.inputsAt i
      require (verifyLeafHash evm leafHash inputs arrays.tos.isSome = true)
        "leafHash does not match the srr details"
      let merkleProof ← index merkleProofs i
      let (world, state, tokenId) ←
        _createSRRWithProof evm world state merkleProof merkleRoot leafHash inputs
      let (state, tokenIds) ←
        createLoop evm merkleProofs merkleRoot arrays leafHashes (i + 1) world state
      pure (state, tokenId :: tokenIds)

/-- Both overloads of `createSRRWithProofMulti`. -/
def createSRRWithProofMulti (evm : Evm) (world : World) (state : State)
    (merkleProofs : List (List Bytes32)) (merkleRoot : Bytes32) (leafHashes : List Bytes32)
    (arrays : CreateSRRArrays) : Execution (State × List Uint256) := do
  batchExists state merkleRoot
  createLoop evm merkleProofs merkleRoot arrays leafHashes 0 world state

inductive Call where
  | initializeV1 (_nameRegistry _trustedForwarder : Address)
  | setTrustedForwarder (forwarder : Address)
  | prepareBatchFromLicensedUser (merkleRoot : Bytes32)
  | createSRRWithProofMulti (merkleProofs : List (List Bytes32)) (merkleRoot : Bytes32)
      (leafHashes : List Bytes32) (arrays : CreateSRRArrays)
  | approveSRRByCommitmentWithProof (merkleProof : List Bytes32) (merkleRoot leafHash : Bytes32)
      (tokenId : Uint256) (commitment : Bytes32) (historyMetadataHash : Bytes)
      (customHistoryId : Uint256) (contractAddress : Address)
  | transferFromWithProvenanceWithProof (merkleProof : List Bytes32) (merkleRoot leafHash : Bytes32)
      (to_ : Address) (tokenId : Uint256) (historyMetadataHash : Bytes) (customHistoryId : Uint256)
      (isIntermediary : Bool) (contractAddress : Address)

structure Transaction where
  world : World
  msg : Msg
  call : Call

def entry (evm : Evm) (transaction : Transaction) (state : State) : Execution State :=
  let ⟨world, msg, call⟩ := transaction
  match call with
  | .initializeV1 _nameRegistry _trustedForwarder =>
      liftM (Bulk.initializeV1 true state _nameRegistry _trustedForwarder)
  | .setTrustedForwarder forwarder => liftM (Bulk.setTrustedForwarder world msg state forwarder)
  | .prepareBatchFromLicensedUser merkleRoot =>
      liftM (Bulk.prepareBatchFromLicensedUser msg state merkleRoot)
  | .createSRRWithProofMulti merkleProofs merkleRoot leafHashes arrays => do
      let (state, _) ←
        Bulk.createSRRWithProofMulti evm world state merkleProofs merkleRoot leafHashes arrays
      pure state
  | .approveSRRByCommitmentWithProof merkleProof merkleRoot leafHash tokenId commitment
      historyMetadataHash customHistoryId contractAddress =>
      Bulk.approveSRRByCommitmentWithProof evm world state merkleProof merkleRoot leafHash tokenId
        commitment historyMetadataHash customHistoryId contractAddress
  | .transferFromWithProvenanceWithProof merkleProof merkleRoot leafHash to_ tokenId
      historyMetadataHash customHistoryId isIntermediary contractAddress =>
      Bulk.transferFromWithProvenanceWithProof evm world state merkleProof merkleRoot leafHash to_
        tokenId historyMetadataHash customHistoryId isIntermediary contractAddress

end Startrail.Bulk
