import Startrail.Library.Reentrancy
import Startrail.Shared

/-!
A collection: `collection/CollectionProxy.sol` with the current features
`SRRFeatureV02`, `BulkFeatureV04`, `ERC721FeatureV05`, `SRRApproveTransferFeatureV04`,
`SRRHistoryFeatureV01`, `SRRMetadataFeatureV01`, `LockExternalTransferFeatureV01`,
`OwnableFeatureV01` and `ERC2981RoyaltyFeatureV01`, which all run on the storage of
the proxy. The receiver check at the end of a safe transfer is the one place where
a collection hands control to others.
-/

namespace Startrail.Collection

def NO_CUSTOM_HISTORY : Uint256 := 0

def onERC721ReceivedSelector : Bytes4 := 0x150b7a02

structure SRR where
  isPrimaryIssuer : Bool
  artist : Address
  issuer : Address

structure RoyaltyInfo where
  receiver : Address
  basisPoints : Uint16

/-- `ERC721UpgradeableBase.transferFrom` and the rest of the ERC721 code work on this layout. -/
structure ERC721Storage where
  name : Bytes
  symbol : Bytes
  ownerOf : Uint256 → Address
  balanceOf : Address → Uint256
  getApproved : Uint256 → Address
  isApprovedForAll : Address → Address → Bool

/-- An event with overloads has the arguments that not all of them carry as options. -/
inductive Event where
  | Transfer (from_ to_ : Address) (id : Uint256)
  | Approval (owner spender : Address) (id : Uint256)
  | ApprovalForAll (owner operator : Address) (approved : Bool)
  | CreateSRR (tokenId : Uint256) (registryRecord : SRR) (metadataCID : Bytes)
      (lockExternalTransfer : Bool)
  | UpdateSRR (tokenId : Uint256) (isPrimaryIssuer : Bool) (artistAddress sender : Address)
  | UpdateSRRMetadataDigest (tokenId : Uint256) (metadataCID : Bytes)
  | History (tokenIds customHistoryIds : List Uint256)
  | Provenance (tokenId : Uint256) (from_ to_ : Address) (customHistoryId : Option Uint256)
      (historyMetadataHash historyMetadataURI : Bytes) (isIntermediary : Bool)
      (sender : Option Address)
  | SRRCommitment (tokenId : Uint256) (commitment : Bytes32) (customHistoryId : Option Uint256)
      (sender : Address)
  | SRRCommitmentCancelled (tokenId : Uint256) (sender : Address)
  | LockExternalTransferSetLock (tokenId : Uint256) (flag : Bool)
  | OwnershipTransferred (previousOwner newOwner : Address)
  | RoyaltiesSet (tokenId : Uint256) (royalty : RoyaltyInfo)

-- One field for each of the storage layouts that the features share.
structure State where
  featureRegistry : Address
  owner : Address
  erc721 : ERC721Storage
  approvals : Uint256 → Approval
  srrs : Uint256 → SRR
  metadata : Uint256 → Bytes
  tokenIdToLockFlag : Uint256 → Bool
  royalties : Uint256 → RoyaltyInfo
  logs : List Event

def State.blank : State where
  featureRegistry := 0
  owner := 0
  erc721 := ⟨[], [], fun _ => 0, fun _ => 0, fun _ => 0, fun _ _ => false⟩
  approvals _ := Approval.none
  srrs _ := ⟨false, 0, 0⟩
  metadata _ := []
  tokenIdToLockFlag _ := false
  royalties _ := ⟨0, 0⟩
  logs := []

def State.emit (state : State) (event : Event) : State := { state with logs := event :: state.logs }

/-- The call of the receiver check, `onERC721Received` of `target`. -/
structure Query where
  target : Address
  operator : Address
  from_ : Address
  tokenId : Uint256
  data : Bytes

abbrev Execution (α : Type) := Outcome Revert State Query Reply α

section FeatureCommon

variable (world : World) (msg : Msg) (state : State)

def getNameRegistry : Address := (world.featureRegistry state.featureRegistry).getNameRegistry

def getAdministrator : Address := (world.nameRegistry (getNameRegistry world state)).administrator

def trustedForwarder : Address :=
  (world.featureRegistry state.featureRegistry).getEIP2771TrustedForwarder

-- `LibEIP2771.msgSender`
def sender : Address := msgSender (trustedForwarder world state) msg

def onlyTrustedForwarder : Result Unit :=
  requireCustom (msg.sender = trustedForwarder world state) "NotTrustedForwarder"

def getCollectionOwner : Address := state.owner

def onlyCollectionOwner (toCheck : Address) : Result Unit :=
  requireCustom (toCheck = state.owner) "NotCollectionOwner"

def onlyAdministrator : Result Unit :=
  requireCustom (sender world msg state = getAdministrator world state) "NotAdministrator"

def exists_ (tokenId : Uint256) : Bool := state.erc721.ownerOf tokenId != 0

def onlyExistingToken (tokenId : Uint256) : Result Unit :=
  requireCustom (exists_ state tokenId = true) "SRRNotExists"

def onlyNonExistantToken (tokenId : Uint256) : Result Unit :=
  requireCustom (exists_ state tokenId = false) "SRRAlreadyExists"

def onlyCollectionOwnerOrSRROwner (toCheck : Address) (tokenId : Uint256) : Result Unit := do
  onlyExistingToken state tokenId
  requireCustom (getCollectionOwner state = toCheck ∨ state.erc721.ownerOf tokenId = toCheck)
    "NotCollectionOwnerOrSRROwner"

def onlyExternalTransferUnlocked (tokenId : Uint256) : Result Unit :=
  requireCustom (state.tokenIdToLockFlag tokenId = false) "ERC721ExternalTransferLocked"

def onlyBulk : Result Unit :=
  requireCustom (msg.sender = (world.nameRegistry (getNameRegistry world state)).get BULK)
    "OnlyBulkContract"

def getStartrailRegistry : StartrailRegistrySubset :=
  world.startrailRegistry
    ((world.nameRegistry (getNameRegistry world state)).get STARTRAIL_REGISTRY)

end FeatureCommon

section ERC721

variable (world : World) (msg : Msg) (state : State)

def ownerOf (id : Uint256) : Result Address := do
  require (state.erc721.ownerOf id ≠ 0) "NOT_MINTED"
  pure (state.erc721.ownerOf id)

-- The source's `__ERC721Feature_initialize`; the other two are named likewise.
def initializeERC721Feature (name_ symbol_ : Bytes) : Result State := do
  requireCustom (¬(state.erc721.name.length ≠ 0 ∧ state.erc721.symbol.length ≠ 0))
    "ERC721FeatureAlreadyInitialized"
  pure { state with erc721 := { state.erc721 with name := name_, symbol := symbol_ } }

-- `unchecked`, as in `_transferFrom`.
def _mint (to_ : Address) (id : Uint256) : Result State := do
  require (to_ ≠ 0) "INVALID_RECIPIENT"
  require (state.erc721.ownerOf id = 0) "ALREADY_MINTED"
  pure ({ state with
    erc721 := { state.erc721 with
      balanceOf :=
        Function.update state.erc721.balanceOf to_ (state.erc721.balanceOf to_ + 1)
      ownerOf := Function.update state.erc721.ownerOf id to_ } }.emit (.Transfer 0 to_ id))

/-- `LibERC721Storage._transferFrom`, which checks neither the owner nor the recipient. -/
def _transferFrom (from_ to_ : Address) (id : Uint256) : State :=
  let balances := Function.update state.erc721.balanceOf from_ (state.erc721.balanceOf from_ - 1)
  { state with
    erc721 := { state.erc721 with
      balanceOf := Function.update balances to_ (balances to_ + 1)
      ownerOf := Function.update state.erc721.ownerOf id to_
      getApproved := Function.update state.erc721.getApproved id 0 } }.emit (.Transfer from_ to_ id)

-- What `safeTransferFromReceivedCheck` makes of the receiver's answer.
def receiverAccepts (reply : Reply) : Result Bool :=
  if reply.success = false then .error (.bubbled reply.returndata)
  else
    match decodeBytes4 reply.returndata with
    | some retval => pure (retval == onERC721ReceivedSelector)
    | none => .error .empty

def safeTransferFromReceivedCheck (sender from_ to_ : Address) (id : Uint256) (data : Bytes) :
    Execution State :=
  if world.codeLength to_ = 0 then pure state
  else do
    let (state, reply) ← Outcome.external state ⟨to_, sender, from_, id, data⟩
    let accepted ← receiverAccepts reply
    require (accepted = true) "UNSAFE_RECIPIENT"
    pure state

/-- `ERC721FeatureV05.transferFrom`, and its `safeTransferFrom` without data. -/
def transferFrom (from_ to_ : Address) (id : Uint256) : Result State := do
  onlyExternalTransferUnlocked state id
  require (from_ = state.erc721.ownerOf id) "WRONG_FROM"
  require (to_ ≠ 0) "INVALID_RECIPIENT"
  require (msg.sender = from_ ∨ state.erc721.isApprovedForAll from_ msg.sender = true ∨
      msg.sender = state.erc721.getApproved id)
    "NOT_AUTHORIZED"
  pure (_transferFrom state from_ to_ id)

-- The overload of `safeTransferFrom` with data.
def safeTransferFrom (from_ to_ : Address) (id : Uint256) (data : Bytes) : Execution State := do
  let state ← transferFrom msg state from_ to_ id
  safeTransferFromReceivedCheck world state msg.sender from_ to_ id data

def approve (spender : Address) (id : Uint256) : Result State := do
  onlyExternalTransferUnlocked state id
  let owner := state.erc721.ownerOf id
  require (msg.sender = owner ∨ state.erc721.isApprovedForAll owner msg.sender = true)
    "NOT_AUTHORIZED"
  pure ({ state with
    erc721 := { state.erc721 with
      getApproved := Function.update state.erc721.getApproved id spender } }.emit
        (.Approval owner spender id))

def setApprovalForAll (operator : Address) (approved : Bool) : State :=
  { state with
    erc721 := { state.erc721 with
      isApprovedForAll :=
        update₂ state.erc721.isApprovedForAll msg.sender operator approved } }.emit
          (.ApprovalForAll msg.sender operator approved)

def buildTokenURI (metadataCID : Bytes) : Bytes := ascii "ipfs://" ++ metadataCID

-- Both overloads of `logProvenance`.
def logProvenance (tokenId : Uint256) (from_ to_ : Address) (historyMetadataHash : Bytes)
    (customHistoryId : Uint256) (isIntermediary : Bool) (sender : Option Address) : State :=
  state.emit (.Provenance tokenId from_ to_
    (if customHistoryId ≠ 0 then some customHistoryId else none) historyMetadataHash
    (buildTokenURI historyMetadataHash) isIntermediary sender)

/-- `LibTransferWithProvenanceV03.transferFromWithProvenance`. -/
def transferWithProvenance (to_ : Address) (tokenId : Uint256) (historyMetadataHash : Bytes)
    (customHistoryId : Uint256) (isIntermediary : Bool) (signer : Address) : Execution State :=
  let tokenOwner := state.erc721.ownerOf tokenId
  let logged := logProvenance state tokenId tokenOwner to_ historyMetadataHash customHistoryId
    isIntermediary (some signer)
  safeTransferFromReceivedCheck world (_transferFrom logged tokenOwner to_ tokenId)
    (sender world msg state) tokenOwner to_ tokenId []

def transferFromWithProvenance (to_ : Address) (tokenId : Uint256) (historyMetadataHash : Bytes)
    (customHistoryId : Uint256) (isIntermediary : Bool) : Execution State := do
  let tokenOwner ← ownerOf state tokenId
  let sender := sender world msg state
  require (sender = getCollectionOwner state ∨ sender = tokenOwner) "NOT_AUTHORIZED"
  transferWithProvenance world msg state to_ tokenId historyMetadataHash customHistoryId
    isIntermediary sender

end ERC721

section Records

variable (evm : Evm) (world : World) (msg : Msg) (state : State)

def notToExceedSalePrice (royaltyBasisPoints : Uint16) : Result Unit :=
  requireCustom (royaltyBasisPoints ≤ 10000) "RoyaltyFeeNotToExceedSalePrice"

def notAddressZero (royaltyReceiver : Address) : Result Unit :=
  requireCustom (royaltyReceiver ≠ 0) "RoyaltyReceiverNotAddressZero"

def onlyExistingRoyalty (tokenId : Uint256) : Result Unit :=
  requireCustom ((state.royalties tokenId).receiver ≠ 0) "RoyaltyNotExists"

def upsertRoyalty (tokenId : Uint256) (royaltyReceiver : Address) (royaltyBasisPoints : Uint16) :
    State :=
  if royaltyReceiver ≠ 0 ∧ royaltyBasisPoints ≤ 10000 then
    { state with
      royalties :=
        Function.update state.royalties tokenId ⟨royaltyReceiver, royaltyBasisPoints⟩ }.emit
          (.RoyaltiesSet tokenId ⟨royaltyReceiver, royaltyBasisPoints⟩)
  else state

def saveSRR (tokenId : Uint256) (srr : SRR) (metadataCID : Bytes) : State :=
  { state with
    srrs := Function.update state.srrs tokenId srr
    metadata := Function.update state.metadata tokenId metadataCID }

def lockIf (tokenId : Uint256) (lockExternalTransfer : Bool) : State :=
  if lockExternalTransfer = true then
    { state with tokenIdToLockFlag := Function.update state.tokenIdToLockFlag tokenId true }
  else state

/-- `LibSRRCreate.createSRR`. -/
def createRecord (isPrimaryIssuer : Bool) (artistAddress : Address) (metadataCID : Bytes)
    (issuerAddress : Address) (lockExternalTransfer : Bool) (royaltyReceiver : Address)
    (royaltyBasisPoints : Uint16) (fromBulk : Bool) : Result (State × Uint256) := do
  (if fromBulk = false then do
    onlyTrustedForwarder world msg state
    onlyCollectionOwner state (sender world msg state)
  else pure ())
  requireCustom (metadataCID.length ≠ 0) "SRRMetadataNotEmpty"
  requireCustom (artistAddress ≠ 0) "ZeroAddress"
  (if royaltyReceiver ≠ 0 then notToExceedSalePrice royaltyBasisPoints else pure ())
  let tokenId := generate evm metadataCID artistAddress
  onlyNonExistantToken state tokenId
  let srr : SRR := ⟨isPrimaryIssuer, artistAddress, issuerAddress⟩
  let state ← _mint (saveSRR state tokenId srr metadataCID) issuerAddress tokenId
  let state := (lockIf state tokenId lockExternalTransfer).emit
    (.CreateSRR tokenId srr metadataCID lockExternalTransfer)
  pure (upsertRoyalty state tokenId royaltyReceiver royaltyBasisPoints, tokenId)

-- The end of both functions that create a record: it is passed on if `to_` is given.
def passOn (issuerAddress to_ : Address) (tokenId : Uint256) : State :=
  if to_ ≠ 0 then _transferFrom state issuerAddress to_ tokenId else state

def createSRR (isPrimaryIssuer : Bool) (artistAddress : Address) (metadataCID : Bytes)
    (lockExternalTransfer : Bool) (to_ royaltyReceiver : Address) (royaltyBasisPoints : Uint16) :
    Result State := do
  let issuerAddress := sender world msg state
  let (state, tokenId) ← createRecord evm world msg state isPrimaryIssuer artistAddress metadataCID
    issuerAddress lockExternalTransfer royaltyReceiver royaltyBasisPoints false
  pure (passOn state issuerAddress to_ tokenId)

def createSRRFromBulk (isPrimaryIssuer : Bool) (artistAddress : Address) (metadataCID : Bytes)
    (issuerAddress : Address) (lockExternalTransfer : Bool) (to_ royaltyReceiver : Address)
    (royaltyBasisPoints : Uint16) : Result (State × Uint256) := do
  onlyBulk world msg state
  onlyCollectionOwner state issuerAddress
  let (state, tokenId) ← createRecord evm world msg state isPrimaryIssuer artistAddress metadataCID
    issuerAddress lockExternalTransfer royaltyReceiver royaltyBasisPoints true
  pure (passOn state issuerAddress to_ tokenId, tokenId)

-- The check that `updateSRR` and `updateSRRMetadata` repeat.
def onlyIssuerOrArtistOrCollectionOwner (tokenId : Uint256) : Result Unit :=
  let sendingWallet := sender world msg state
  requireCustom (sendingWallet = (state.srrs tokenId).issuer ∨
      sendingWallet = (state.srrs tokenId).artist ∨ sendingWallet = getCollectionOwner state)
    "OnlyIssuerOrArtistOrCollectionOwner"

def updateSRR (tokenId : Uint256) (isPrimaryIssuer : Bool) (artistAddress : Address) :
    Result State := do
  onlyTrustedForwarder world msg state
  onlyExistingToken state tokenId
  onlyIssuerOrArtistOrCollectionOwner world msg state tokenId
  requireCustom (artistAddress ≠ 0) "ZeroAddress"
  pure ({ state with
    srrs := Function.update state.srrs tokenId { state.srrs tokenId with
      isPrimaryIssuer := isPrimaryIssuer
      artist := artistAddress } }.emit
        (.UpdateSRR tokenId isPrimaryIssuer artistAddress (sender world msg state)))

def updateSRRMetadata (tokenId : Uint256) (metadataCID : Bytes) : Result State := do
  onlyExistingToken state tokenId
  requireCustom (metadataCID.length ≠ 0) "SRRMetadataNotEmpty"
  onlyIssuerOrArtistOrCollectionOwner world msg state tokenId
  pure ({ state with metadata := Function.update state.metadata tokenId metadataCID }.emit
    (.UpdateSRRMetadataDigest tokenId metadataCID))

-- A loop over calldata with a checked `uint16` counter.
def forEach (check : Uint256 → Result Unit) : List Uint256 → Nat → Result Unit
  | [], _ => pure ()
  | value :: values, i => do
      check value
      requirePanic (i + 1 < 2 ^ 16) 0x11
      forEach check values (i + 1)

def addHistory (tokenIds customHistoryIds : List Uint256) : Result State := do
  let sr := getStartrailRegistry world state
  requirePanic (tokenIds.length * customHistoryIds.length < 2 ^ 256) 0x11
  requireCustom (tokenIds.length * customHistoryIds.length ≤ sr.maxCombinedHistoryRecords.toNat)
    "MaxCombinedTokensAndHistoriesExceeded"
  let sender := sender world msg state
  forEach (fun tokenId => do
    onlyExistingToken state tokenId
    requireCustom (sender = getCollectionOwner state ∨ sender = (state.srrs tokenId).issuer ∨
        sender = (state.srrs tokenId).artist ∨ sender = state.erc721.ownerOf tokenId)
      "AddHistoryNotPermitted") tokenIds 0
  forEach (fun customHistoryId =>
    requireCustom ((sr.getCustomHistoryNameById customHistoryId).length ≠ 0)
      "CustomHistoryDoesNotExist") customHistoryIds 0
  pure (state.emit (.History tokenIds customHistoryIds))

def setLockExternalTransfer (tokenId : Uint256) (flag : Bool) : Result State := do
  onlyTrustedForwarder world msg state
  onlyExistingToken state tokenId
  let sendingWallet := sender world msg state
  requireCustom (sendingWallet = (state.srrs tokenId).issuer ∨
      sendingWallet = getCollectionOwner state) "OnlyIssuerOrCollectionOwner"
  pure ({ state with
    tokenIdToLockFlag := Function.update state.tokenIdToLockFlag tokenId flag }.emit
      (.LockExternalTransferSetLock tokenId flag))

def updateSRRRoyalty (tokenId : Uint256) (royaltyReceiver : Address) (royaltyBasisPoints : Uint16) :
    Result State := do
  onlyExistingToken state tokenId
  onlyAdministrator world msg state
  onlyExistingRoyalty state tokenId
  notAddressZero royaltyReceiver
  notToExceedSalePrice royaltyBasisPoints
  pure (upsertRoyalty state tokenId royaltyReceiver royaltyBasisPoints)

def requireRoyalties : List Uint256 → Result Unit
  | [] => pure ()
  | tokenId :: tokenIds => do
      onlyExistingToken state tokenId
      onlyExistingRoyalty state tokenId
      requireRoyalties tokenIds

def upsertReceivers (royaltyReceiver : Address) : List Uint256 → State → State
  | [], state => state
  | tokenId :: tokenIds, state => upsertReceivers royaltyReceiver tokenIds
      (upsertRoyalty state tokenId royaltyReceiver (state.royalties tokenId).basisPoints)

def updateSRRRoyaltyReceiverMulti (tokenIds : List Uint256) (royaltyReceiver : Address) :
    Result State := do
  onlyAdministrator world msg state
  notAddressZero royaltyReceiver
  requireRoyalties state tokenIds
  pure (upsertReceivers royaltyReceiver tokenIds state)

end Records

section ApproveTransfer

variable (evm : Evm) (world : World) (msg : Msg) (state : State)

-- A prior approval is cancelled by the next one.
def cancelPriorApproval (tokenId : Uint256) (sender : Address) : State :=
  if (state.approvals tokenId).commitment ≠ 0 then
    state.emit (.SRRCommitmentCancelled tokenId sender)
  else state

def setApproval (tokenId : Uint256) (approval : Approval) : State :=
  { state with approvals := Function.update state.approvals tokenId approval }

/-- `LibSRRApproveTransferV02.approveSRRByCommitment`. -/
def approveByCommitment (tokenId : Uint256) (commitment : Bytes32) (historyMetadataHash : Bytes)
    (customHistoryId : Uint256) (sender : Address) : Result State := do
  requireCustom (¬(0 < customHistoryId.toNat ∧
      ((getStartrailRegistry world state).getCustomHistoryNameById customHistoryId).length = 0))
    "CustomHistoryDoesNotExist"
  let state := cancelPriorApproval state tokenId sender
  if customHistoryId = NO_CUSTOM_HISTORY then
    pure ((setApproval state tokenId ⟨commitment, historyMetadataHash,
      (state.approvals tokenId).customHistoryId⟩).emit
        (.SRRCommitment tokenId commitment none sender))
  else
    pure ((setApproval state tokenId ⟨commitment, historyMetadataHash, customHistoryId⟩).emit
      (.SRRCommitment tokenId commitment (some customHistoryId) sender))

-- Both overloads; the shorter one passes `NO_CUSTOM_HISTORY`.
def approveSRRByCommitment (tokenId : Uint256) (commitment : Bytes32) (historyMetadataHash : Bytes)
    (customHistoryId : Uint256) : Result State := do
  let sender := sender world msg state
  onlyCollectionOwnerOrSRROwner state sender tokenId
  approveByCommitment world state tokenId commitment historyMetadataHash customHistoryId sender

def approveSRRByCommitmentFromBulk (signer : Address) (tokenId : Uint256) (commitment : Bytes32)
    (historyMetadataHash : Bytes) (customHistoryId : Uint256) : Result State := do
  onlyBulk world msg state
  onlyCollectionOwnerOrSRROwner state signer tokenId
  approveByCommitment world state tokenId commitment historyMetadataHash customHistoryId signer

def _clearSRRCommitment (tokenId : Uint256) : State := setApproval state tokenId Approval.none

def cancelSRRCommitment (tokenId : Uint256) : Result State := do
  let sender := sender world msg state
  onlyCollectionOwnerOrSRROwner state sender tokenId
  pure ((_clearSRRCommitment state tokenId).emit (.SRRCommitmentCancelled tokenId sender))

def transferSRRByReveal (to_ : Address) (reveal : Bytes32) (tokenId : Uint256)
    (isIntermediary : Bool) : Result State := do
  onlyExistingToken state tokenId
  let approval := state.approvals tokenId
  requireCustom (evm.keccak256 (packWord reveal) = approval.commitment) "IncorrectRevealHash"
  let from_ := state.erc721.ownerOf tokenId
  let logged := logProvenance state tokenId from_ to_ approval.historyMetadataHash
    approval.customHistoryId isIntermediary none
  pure (_transferFrom (_clearSRRCommitment logged tokenId) from_ to_ tokenId)

def transferFromWithProvenanceFromBulk (signer to_ : Address) (tokenId : Uint256)
    (historyMetadataHash : Bytes) (customHistoryId : Uint256) (isIntermediary : Bool) :
    Execution State := do
  onlyBulk world msg state
  onlyCollectionOwnerOrSRROwner state signer tokenId
  transferWithProvenance world msg state to_ tokenId historyMetadataHash customHistoryId
    isIntermediary signer

end ApproveTransfer

section Proxy

variable (world : World) (msg : Msg) (state : State)

def initializeCollectionProxy (_featureRegistry : Address) : Result State := do
  requireCustom (state.featureRegistry = 0) "CollectionProxyAlreadyInitialized"
  pure { state with featureRegistry := _featureRegistry }

def initializeOwnableFeature (initialOwner : Address) : Result State := do
  requireCustom (state.owner = 0) "OwnableFeatureAlreadyInitialized"
  pure { state with owner := initialOwner }

def transferOwnership (newOwner : Address) : Result State := do
  onlyTrustedForwarder world msg state
  onlyCollectionOwner state (sender world msg state)
  requireCustom (newOwner ≠ 0) "ZeroAddress"
  pure { state.emit (.OwnershipTransferred state.owner newOwner) with owner := newOwner }

end Proxy

inductive Call where
  | initializeCollectionProxy (_featureRegistry : Address)
  | initializeOwnableFeature (initialOwner : Address)
  | initializeERC721Feature (name_ symbol_ : Bytes)
  | transferOwnership (newOwner : Address)
  | createSRR (isPrimaryIssuer : Bool) (artistAddress : Address) (metadataCID : Bytes)
      (lockExternalTransfer : Bool) (to_ royaltyReceiver : Address) (royaltyBasisPoints : Uint16)
  | createSRRFromBulk (isPrimaryIssuer : Bool) (artistAddress : Address) (metadataCID : Bytes)
      (issuerAddress : Address) (lockExternalTransfer : Bool) (to_ royaltyReceiver : Address)
      (royaltyBasisPoints : Uint16)
  | updateSRR (tokenId : Uint256) (isPrimaryIssuer : Bool) (artistAddress : Address)
  | updateSRRMetadata (tokenId : Uint256) (metadataCID : Bytes)
  | addHistory (tokenIds customHistoryIds : List Uint256)
  | setLockExternalTransfer (tokenId : Uint256) (flag : Bool)
  | updateSRRRoyalty (tokenId : Uint256) (royaltyReceiver : Address) (royaltyBasisPoints : Uint16)
  | updateSRRRoyaltyReceiverMulti (tokenIds : List Uint256) (royaltyReceiver : Address)
  | transferFrom (from_ to_ : Address) (id : Uint256)
  | safeTransferFrom (from_ to_ : Address) (id : Uint256) (data : Bytes)
  | approve (spender : Address) (id : Uint256)
  | setApprovalForAll (operator : Address) (approved : Bool)
  | transferFromWithProvenance (to_ : Address) (tokenId : Uint256) (historyMetadataHash : Bytes)
      (customHistoryId : Uint256) (isIntermediary : Bool)
  | approveSRRByCommitment (tokenId : Uint256) (commitment : Bytes32) (historyMetadataHash : Bytes)
      (customHistoryId : Uint256)
  | cancelSRRCommitment (tokenId : Uint256)
  | transferSRRByReveal (to_ : Address) (reveal : Bytes32) (tokenId : Uint256)
      (isIntermediary : Bool)
  | approveSRRByCommitmentFromBulk (signer : Address) (tokenId : Uint256) (commitment : Bytes32)
      (historyMetadataHash : Bytes) (customHistoryId : Uint256)
  | transferFromWithProvenanceFromBulk (signer to_ : Address) (tokenId : Uint256)
      (historyMetadataHash : Bytes) (customHistoryId : Uint256) (isIntermediary : Bool)
  | view (calldata : Bytes)

structure Transaction where
  world : World
  msg : Msg
  call : Call

def entry (evm : Evm) (transaction : Transaction) (state : State) : Execution State :=
  let ⟨world, msg, call⟩ := transaction
  match call with
  | .initializeCollectionProxy _featureRegistry =>
      liftM (Collection.initializeCollectionProxy state _featureRegistry)
  | .initializeOwnableFeature initialOwner =>
      liftM (Collection.initializeOwnableFeature state initialOwner)
  | .initializeERC721Feature name_ symbol_ =>
      liftM (Collection.initializeERC721Feature state name_ symbol_)
  | .transferOwnership newOwner => liftM (Collection.transferOwnership world msg state newOwner)
  | .createSRR isPrimaryIssuer artistAddress metadataCID lockExternalTransfer to_ royaltyReceiver
      royaltyBasisPoints =>
      liftM (Collection.createSRR evm world msg state isPrimaryIssuer artistAddress metadataCID
        lockExternalTransfer to_ royaltyReceiver royaltyBasisPoints)
  | .createSRRFromBulk isPrimaryIssuer artistAddress metadataCID issuerAddress lockExternalTransfer
      to_ royaltyReceiver royaltyBasisPoints => do
      let (state, _) ← Collection.createSRRFromBulk evm world msg state isPrimaryIssuer
        artistAddress metadataCID issuerAddress lockExternalTransfer to_ royaltyReceiver
        royaltyBasisPoints
      pure state
  | .updateSRR tokenId isPrimaryIssuer artistAddress =>
      liftM (Collection.updateSRR world msg state tokenId isPrimaryIssuer artistAddress)
  | .updateSRRMetadata tokenId metadataCID =>
      liftM (Collection.updateSRRMetadata world msg state tokenId metadataCID)
  | .addHistory tokenIds customHistoryIds =>
      liftM (Collection.addHistory world msg state tokenIds customHistoryIds)
  | .setLockExternalTransfer tokenId flag =>
      liftM (Collection.setLockExternalTransfer world msg state tokenId flag)
  | .updateSRRRoyalty tokenId royaltyReceiver royaltyBasisPoints =>
      liftM (Collection.updateSRRRoyalty world msg state tokenId royaltyReceiver royaltyBasisPoints)
  | .updateSRRRoyaltyReceiverMulti tokenIds royaltyReceiver =>
      liftM (Collection.updateSRRRoyaltyReceiverMulti world msg state tokenIds royaltyReceiver)
  | .transferFrom from_ to_ id => liftM (Collection.transferFrom msg state from_ to_ id)
  | .safeTransferFrom from_ to_ id data =>
      Collection.safeTransferFrom world msg state from_ to_ id data
  | .approve spender id => liftM (Collection.approve msg state spender id)
  | .setApprovalForAll operator approved =>
      pure (Collection.setApprovalForAll msg state operator approved)
  | .transferFromWithProvenance to_ tokenId historyMetadataHash customHistoryId isIntermediary =>
      Collection.transferFromWithProvenance world msg state to_ tokenId historyMetadataHash
        customHistoryId isIntermediary
  | .approveSRRByCommitment tokenId commitment historyMetadataHash customHistoryId =>
      liftM (Collection.approveSRRByCommitment world msg state tokenId commitment
        historyMetadataHash customHistoryId)
  | .cancelSRRCommitment tokenId => liftM (Collection.cancelSRRCommitment world msg state tokenId)
  | .transferSRRByReveal to_ reveal tokenId isIntermediary =>
      liftM (Collection.transferSRRByReveal evm state to_ reveal tokenId isIntermediary)
  | .approveSRRByCommitmentFromBulk signer tokenId commitment historyMetadataHash
      customHistoryId =>
      liftM (Collection.approveSRRByCommitmentFromBulk world msg state signer tokenId commitment
        historyMetadataHash customHistoryId)
  | .transferFromWithProvenanceFromBulk signer to_ tokenId historyMetadataHash customHistoryId
      isIntermediary =>
      Collection.transferFromWithProvenanceFromBulk world msg state signer to_ tokenId
        historyMetadataHash customHistoryId isIntermediary
  | .view _ => pure state

end Startrail.Collection
