import Startrail.Library.Reentrancy
import Startrail.Shared

/-!
The registry: `startrailregistry/StartrailRegistryV25.sol` with its base contract
`startrailregistry/ERC721.sol` and `startrailregistry/OpenSeaMetaTransactionLibrary.sol`,
whose functions run in the registry's own context. The registry hands control to
others at one point only, the receiver check that ends a safe transfer. It calls
itself in `executeMetaTransaction`, with calldata that `Deployment.dispatch`
decodes.
-/

namespace Startrail.Registry

def SRR_GLOBAL_SLOT : Uint256 := 0

def _NO_CUSTOM_HISTORY : Uint256 := 0

def _ERC721_RECEIVED : Bytes4 := 0x150b7a02

-- The constants that `Storage` is keyed by, hashes of their names in the source.
inductive StorageKey where
  | _SRR
  | _HISTORY
  | _IS_PRIMARY_ISSUER
  | _ISSUER
  | _ARTIST_ADDRESS
  | _COMMITMENT
  | _URI_PREFIX
  | _URI_POSTFIX
  | _METADATA_HASH
  | _CONTRACT_URI
  | _CUSTOM_HISTORY
  | _CUSTOM_HISTORY_NAME
  | _LOCK_EXTERNAL_TRANSFER
  | _OPENSEA_PROXY_ADDRESS
  | _OPENSEA_APPROVE_ALL_KILL_SWITCH
deriving DecidableEq

abbrev Storage (V : Type) := Uint256 → StorageKey → StorageKey → V

def Storage.set {V : Type} (storage : Storage V) (id : Uint256) (group key : StorageKey)
    (value : V) : Storage V :=
  Function.update storage id (update₂ (storage id) group key value)

theorem Storage.set_apply {V : Type} (storage : Storage V) (id : Uint256) (group key : StorageKey)
    (value : V) (id' : Uint256) (group' key' : StorageKey) :
    storage.set id group key value id' group' key' =
      if id' = id ∧ group' = group ∧ key' = key then value else storage id' group' key' := by
  unfold Storage.set
  by_cases same : id' = id
  · subst id'
    simp [update₂_apply]
  · simp [same]

structure RoyaltyInfo where
  receiver : Address
  basisPoints : Uint16
deriving DecidableEq

structure OpenSeaMetaTransactionStorage where
  nonces : Address → Uint256
  domainSeperator : Bytes32

-- Metadata is a digest or, in the newer overload of a function, a CID.
inductive Metadata where
  | metadataDigest (digest : Bytes32)
  | metadataCID (cid : Bytes)
deriving DecidableEq

/-- An event with two overloads has its `customHistoryId` as an option. -/
inductive Event where
  | Transfer (from_ to_ : Address) (tokenId : Uint256)
  | Approval (owner approved : Address) (tokenId : Uint256)
  | ApprovalForAll (owner operator : Address) (approved : Bool)
  | CreateSRR (tokenId : Uint256) (isPrimaryIssuer : Bool) (artistAddress issuer : Address)
      (metadataCID : Bytes) (lockExternalTransfer : Bool)
  | UpdateSRR (tokenId : Uint256) (isPrimaryIssuer : Bool) (artistAddress sender : Address)
  | UpdateSRRMetadataCID (tokenId : Uint256) (metadataCID : Bytes)
  | History (tokenIds customHistoryIds : List Uint256)
  | Provenance (tokenId : Uint256) (from_ to_ : Address) (customHistoryId : Option Uint256)
      (historyMetadataHash historyMetadataURI : Bytes) (isIntermediary : Bool)
  | SRRCommitment (tokenId : Uint256) (owner : Address) (commitment : Bytes32)
      (customHistoryId : Option Uint256)
  | SRRCommitmentCancelled (tokenId : Uint256)
  | CreateCustomHistoryType (id : Uint256) (historyType : Bytes)
  | CreateCustomHistory (id : Uint256) (name : Bytes) (customHistoryTypeId : Uint256)
      (metadata : Metadata)
  | UpdateCustomHistory (id : Uint256) (name : Bytes) (metadata : Metadata)
  | LockExternalTransfer (tokenId : Uint256) (flag : Bool)
  | OwnershipTransferred (previousOwner newOwner : Address)
  | RoyaltiesSet (tokenId : Uint256) (royalty : RoyaltyInfo)
  | MetaTransactionExecuted (userAddress relayerAddress : Address) (functionSignature : Bytes)

structure State where
  _tokenOwner : Uint256 → Address
  _ownedTokensCount : Address → Uint256
  _tokenApprovals : Uint256 → Address
  _operatorApprovals : Address → Address → Bool
  _addressStorage : Storage Address
  _uintStorage : Storage Uint256
  _boolStorage : Storage Bool
  _bytes32Storage : Storage Bytes32
  _stringStorage : Storage Bytes
  trustedForwarder : Address
  nameRegistryAddress : Address
  customHistoryCount : Uint256
  customHistoryTypeCount : Uint256
  customHistoryTypeNameById : Uint256 → Bytes
  customHistoryTypeIdByName : Bytes → Uint256
  maxCombinedHistoryRecords : Uint256
  owner : Address
  openSeaMetaTx : OpenSeaMetaTransactionStorage
  royalties : Uint256 → RoyaltyInfo
  logs : List Event

def State.emit (state : State) (event : Event) : State := { state with logs := event :: state.logs }

def State.blank : State where
  _tokenOwner _ := 0
  _ownedTokensCount _ := 0
  _tokenApprovals _ := 0
  _operatorApprovals _ _ := false
  _addressStorage _ _ _ := 0
  _uintStorage _ _ _ := 0
  _boolStorage _ _ _ := false
  _bytes32Storage _ _ _ := 0
  _stringStorage _ _ _ := []
  trustedForwarder := 0
  nameRegistryAddress := 0
  customHistoryCount := 0
  customHistoryTypeCount := 0
  customHistoryTypeNameById _ := []
  customHistoryTypeIdByName _ := 0
  maxCombinedHistoryRecords := 0
  owner := 0
  openSeaMetaTx := ⟨fun _ => 0, 0⟩
  royalties _ := ⟨0, 0⟩
  logs := []

/-- The call of the receiver check, `onERC721Received` of `target`. -/
structure Query where
  target : Address
  operator : Address
  from_ : Address
  tokenId : Uint256
  data : Bytes

abbrev Execution (α : Type) := Outcome Revert State Query Reply α

inductive Call where
  | setTrustedForwarder (forwarder : Address)
  | setMaxCombinedHistoryRecords (maxRecords : Uint256)
  | createSRRFromLicensedUser (isPrimaryIssuer : Bool) (artistAddress : Address)
      (metadataCID : Bytes) (lockExternalTransfer : Bool) (to_ royaltyReceiver : Address)
      (royaltyBasisPoints : Uint16)
  | createSRRFromBulk (isPrimaryIssuer : Bool) (artistAddress : Address) (metadataCID : Bytes)
      (issuerAddress : Address) (lockExternalTransfer : Bool) (to_ royaltyReceiver : Address)
      (royaltyBasisPoints : Uint16)
  | approveSRRByCommitmentFromBulk (signer : Address) (tokenId : Uint256) (commitment : Bytes32)
      (historyMetadataHash : Bytes) (customHistoryId : Uint256)
  | transferFromWithProvenanceFromBulk (signer to_ : Address) (tokenId : Uint256)
      (historyMetadataHash : Bytes) (customHistoryId : Uint256) (isIntermediary : Bool)
  | updateSRR (tokenId : Uint256) (isPrimaryIssuer : Bool) (artistAddress : Address)
  | updateSRRMetadata (tokenId : Uint256) (metadataCID : Bytes)
  | updateSRRRoyalty (tokenId : Uint256) (royaltyReceiver : Address) (royaltyBasisPoints : Uint16)
  | updateSRRRoyaltyReceiverMulti (tokenIds : List Uint256) (royaltyReceiver : Address)
  | approveSRRByCommitment (tokenId : Uint256) (commitment : Bytes32) (historyMetadataHash : Bytes)
  | approveSRRByCommitmentWithHistory (tokenId : Uint256) (commitment : Bytes32)
      (historyMetadataHash : Bytes) (customHistoryId : Uint256)
  | cancelSRRCommitment (tokenId : Uint256)
  | transferSRRByReveal (to_ : Address) (reveal : Bytes32) (tokenId : Uint256)
      (isIntermediary : Bool)
  | addHistory (tokenIds customHistoryIds : List Uint256)
  | setNameRegistryAddress (nameRegistry : Address)
  | setTokenURIParts (URIPrefix URIPostfix : Bytes)
  | addCustomHistoryType (historyTypeName : Bytes)
  | writeCustomHistory (name : Bytes) (customHistoryTypeId : Uint256) (metadata : Metadata)
  | updateCustomHistory (customHistoryId : Uint256) (name : Bytes) (metadata : Metadata)
  | transferFrom (from_ to_ : Address) (tokenId : Uint256)
  | safeTransferFrom (from_ to_ : Address) (tokenId : Uint256) (_data : Bytes)
  | transferFromWithProvenance (to_ : Address) (tokenId : Uint256) (historyMetadataHash : Bytes)
      (customHistoryId : Uint256) (isIntermediary : Bool)
  | approve (to_ : Address) (tokenId : Uint256)
  | setApprovalForAll (operator : Address) (approved : Bool)
  | setLockExternalTransfer (tokenId : Uint256) (flag : Bool)
  | setContractURI (_contractURI : Bytes)
  | transferOwnership (newOwner : Address)
  | setOpenSeaApproveAllKillSwitch (on : Bool)
  | setOpenSeaMetaTxIntegration (proxyRegistryAddress : Address) (name : Bytes)
  | executeMetaTransaction (userAddress : Address) (callData : Bytes) (sigR sigS : Bytes32)
      (sigV : Uint8)
  | view (calldata : Bytes)

structure Deployment where
  evm : Evm
  self : Address
  dispatch : Bytes → Option Call

section Senders

variable (deployment : Deployment) (world : World) (msg : Msg) (state : State)

def _msgSender : Address :=
  if msg.sender = deployment.self then addressOf (lastBytes 20 msg.data) else msg.sender

def sender : Address := msgSender state.trustedForwarder msg

def isAdministrator : Bool :=
  (world.nameRegistry state.nameRegistryAddress).administrator == sender msg state

def onlyAdministrator : Result Unit :=
  require (isAdministrator world msg state = true) "Caller is not the Startrail Administrator"

def isIssuer (tokenId : Uint256) : Bool :=
  sender msg state == state._addressStorage tokenId ._SRR ._ISSUER

def isArtist (tokenId : Uint256) : Bool :=
  sender msg state == state._addressStorage tokenId ._SRR ._ARTIST_ADDRESS

def onlyIssuerOrArtistOrAdministrator (tokenId : Uint256) : Result Unit :=
  if isAdministrator world msg state = true then pure ()
  else if isIssuer msg state tokenId = true then pure ()
  else require (isArtist msg state tokenId = true)
    "Caller is not the Startrail Administrator or an Issuer or an Artist"

def onlyLicensedUserOrAdministrator : Result Unit :=
  if isAdministrator world msg state = true then pure ()
  else require (world.isActiveWallet
      ((world.nameRegistry state.nameRegistryAddress).get LICENSED_USER_MANAGER)
      (sender msg state) = true)
    "Caller is not the Startrail Administrator or a LicensedUser"

def onlyBulk : Result Unit :=
  let nr := world.nameRegistry state.nameRegistryAddress
  require (nr.get BULK = msg.sender ∨ nr.get BULK_ISSUE = msg.sender ∨
      nr.get BULK_TRANSFER = msg.sender)
    "The sender is not the Bulk related contract"

def onlyIssuerOrAdministrator (tokenId : Uint256) : Result Unit :=
  require (isIssuer msg state tokenId = true ∨ isAdministrator world msg state = true)
    "This is neither a issuer nor the admin"

def trustedForwarderOnly : Result Unit :=
  require (msg.sender = state.trustedForwarder)
    "Function can only be called through the trusted Forwarder"

end Senders

section ERC721

variable (deployment : Deployment) (world : World) (msg : Msg) (state : State)

def _exists (tokenId : Uint256) : Bool := state._tokenOwner tokenId != 0

def ownerOf (tokenId : Uint256) : Result Address := do
  require (_exists state tokenId = true) "ERC721: owner query for nonexistent token"
  pure (state._tokenOwner tokenId)

def getApproved (tokenId : Uint256) : Result Address := do
  require (_exists state tokenId = true) "ERC721: approved query for nonexistent token"
  pure (state._tokenApprovals tokenId)

def getOpenSeaProxyAddress : Address :=
  state._addressStorage SRR_GLOBAL_SLOT ._SRR ._OPENSEA_PROXY_ADDRESS

def isApprovedForAll (tokenOwner operator : Address) : Bool :=
  if state._boolStorage SRR_GLOBAL_SLOT ._SRR ._OPENSEA_APPROVE_ALL_KILL_SWITCH = false ∧
      getOpenSeaProxyAddress state = operator then true
  else state._operatorApprovals tokenOwner operator

def _isApprovedOrOwner (spender : Address) (tokenId : Uint256) : Result Bool := do
  require (_exists state tokenId = true) "ERC721: operator query for nonexistent token"
  let owner ← ownerOf state tokenId
  let approved ← getApproved state tokenId
  pure (spender == owner || approved == spender || isApprovedForAll state owner spender)

def _approve (to_ : Address) (tokenId : Uint256) : Result State := do
  let state := { state with _tokenApprovals := Function.update state._tokenApprovals tokenId to_ }
  let owner ← ownerOf state tokenId
  pure (state.emit (.Approval owner to_ tokenId))

def _mint (to_ : Address) (tokenId : Uint256) : Result State := do
  require (to_ ≠ 0) "ERC721: mint to the zero address"
  require (_exists state tokenId = false) "ERC721: token already minted"
  requirePanic ((state._ownedTokensCount to_).toNat + 1 < 2 ^ 256) 0x11
  pure ({ state with
    _ownedTokensCount :=
      Function.update state._ownedTokensCount to_ (state._ownedTokensCount to_ + 1)
    _tokenOwner := Function.update state._tokenOwner tokenId to_ }.emit (.Transfer 0 to_ tokenId))

def _transfer (from_ to_ : Address) (tokenId : Uint256) : Result State := do
  let owner ← ownerOf state tokenId
  require (owner = from_) "ERC721: transfer of token that is not own"
  require (to_ ≠ 0) "ERC721: transfer to the zero address"
  let state ← _approve state 0 tokenId
  requirePanic (0 < (state._ownedTokensCount from_).toNat) 0x11
  let counts := Function.update state._ownedTokensCount from_ (state._ownedTokensCount from_ - 1)
  requirePanic ((counts to_).toNat + 1 < 2 ^ 256) 0x11
  pure ({ state with
    _ownedTokensCount := Function.update counts to_ (counts to_ + 1)
    _tokenOwner := Function.update state._tokenOwner tokenId to_ }.emit
      (.Transfer from_ to_ tokenId))

-- What `_checkOnERC721Received` makes of the receiver's answer.
def receiverAccepts (reply : Reply) : Result Bool :=
  if reply.success = false then
    if 0 < reply.returndata.length then .error (.bubbled reply.returndata)
    else .error (.reason "ERC721: transfer to non ERC721Receiver implementer")
  else
    match decodeBytes4 reply.returndata with
    | some retval => pure (retval == _ERC721_RECEIVED)
    | none => .error .empty

def _checkOnERC721Received (from_ to_ : Address) (tokenId : Uint256) (_data : Bytes) :
    Execution (State × Bool) :=
  if world.codeLength to_ = 0 then pure (state, true)
  else do
    let (state, reply) ← Outcome.external state
      ⟨to_, _msgSender deployment msg, from_, tokenId, _data⟩
    let accepted ← receiverAccepts reply
    pure (state, accepted)

def _safeTransfer (from_ to_ : Address) (tokenId : Uint256) (_data : Bytes) : Execution State := do
  let state ← _transfer state from_ to_ tokenId
  let (state, accepted) ← _checkOnERC721Received deployment world msg state from_ to_ tokenId _data
  require (accepted = true) "ERC721: transfer to non ERC721Receiver implementer"
  pure state

def setApprovalForAll (operator : Address) (approved : Bool) : Result State := do
  require (operator ≠ _msgSender deployment msg) "ERC721: approve to caller"
  pure ({ state with
    _operatorApprovals :=
      update₂ state._operatorApprovals (_msgSender deployment msg) operator approved }.emit
        (.ApprovalForAll (_msgSender deployment msg) operator approved))

end ERC721

section Records

variable (deployment : Deployment) (world : World) (msg : Msg) (state : State)

def onlySRROwnerOrAdministrator (tokenId : Uint256) : Result Unit := do
  let owner ← ownerOf state tokenId
  require (owner = sender msg state ∨ isAdministrator world msg state = true)
    "Sender is neither a SRR owner nor the admin"

def onlySRROwner (toCheck : Address) (tokenId : Uint256) : Result Unit := do
  let owner ← ownerOf state tokenId
  require (owner = toCheck) "This is not a SRR owner"

def tokenExists (tokenId : Uint256) : Result Unit :=
  require (_exists state tokenId = true) "The tokenId does not exist"

def getCustomHistoryNameById (id : Uint256) : Bytes :=
  state._stringStorage id ._CUSTOM_HISTORY ._CUSTOM_HISTORY_NAME

def customHistoryIdExists (customHistoryId : Uint256) : Result Unit :=
  require ((getCustomHistoryNameById state customHistoryId).length ≠ 0)
    "The custom history id does not exist"

def externalTransferNotLocked (tokenId : Uint256) : Result Unit :=
  require (state._boolStorage tokenId ._SRR ._LOCK_EXTERNAL_TRANSFER = false)
    "Transfer is locked for this token"

/-- What `getSRRCommitment` answers for a token that exists. -/
def commitmentOf (tokenId : Uint256) : Approval where
  commitment := state._bytes32Storage tokenId ._SRR ._COMMITMENT
  historyMetadataHash := state._stringStorage tokenId ._HISTORY ._METADATA_HASH
  customHistoryId := state._uintStorage tokenId ._HISTORY ._CUSTOM_HISTORY

def getSRRCommitment (tokenId : Uint256) : Result Approval := do
  tokenExists state tokenId
  pure (commitmentOf state tokenId)

-- The overload of `tokenURI` for a digest with its 0x prefix or a CID.
def tokenURI (metadataDigest : Bytes) : Bytes :=
  if metadataDigest.length = 66 then
    state._stringStorage SRR_GLOBAL_SLOT ._SRR ._URI_PREFIX ++ metadataDigest ++
      state._stringStorage SRR_GLOBAL_SLOT ._SRR ._URI_POSTFIX
  else ascii "ipfs://" ++ metadataDigest

def _saveSRR (tokenId : Uint256) (isPrimaryIssuer : Bool) (artistAddress : Address) : State :=
  { state with
    _addressStorage := state._addressStorage.set tokenId ._SRR ._ARTIST_ADDRESS artistAddress
    _boolStorage := state._boolStorage.set tokenId ._SRR ._IS_PRIMARY_ISSUER isPrimaryIssuer }

def _saveRoyalties (tokenId : Uint256) (basisPoints : Uint16) (receiver : Address) :
    Result State := do
  require (receiver ≠ 0) "ERC2981: royalty receiver can not be address(0)"
  require (basisPoints ≤ 10000) "ERC2981: royalty fee will exceed salePrice"
  tokenExists state tokenId
  pure { state with royalties := Function.update state.royalties tokenId ⟨receiver, basisPoints⟩ }

def _createSRR (isPrimaryIssuer : Bool) (artistAddress : Address) (metadataCID : Bytes)
    (sender : Address) (lockExternalTransfer_ : Bool) (royaltyReceiver : Address)
    (royaltyBasisPoints : Uint16) : Result (State × Uint256) := do
  require (0 < metadataCID.length) "SRR metadataCID is required"
  let tokenId := generate deployment.evm metadataCID artistAddress
  require (_exists state tokenId = false)
    "SRR already exists on chain for artist/metadata combination"
  require (royaltyReceiver = 0 ∨ royaltyBasisPoints ≤ 10000)
    "ERC2981: royalty fee will exceed salePrice"
  let state ← _mint state sender tokenId
  let state := { state with
    _addressStorage := state._addressStorage.set tokenId ._SRR ._ISSUER sender
    _stringStorage := state._stringStorage.set tokenId ._SRR ._METADATA_HASH metadataCID
    _boolStorage :=
      state._boolStorage.set tokenId ._SRR ._LOCK_EXTERNAL_TRANSFER lockExternalTransfer_ }
  let state := (_saveSRR state tokenId isPrimaryIssuer artistAddress).emit
    (.CreateSRR tokenId isPrimaryIssuer artistAddress sender metadataCID lockExternalTransfer_)
  if royaltyReceiver ≠ 0 then do
    let state ← _saveRoyalties state tokenId royaltyBasisPoints royaltyReceiver
    pure (state.emit (.RoyaltiesSet tokenId ⟨royaltyReceiver, royaltyBasisPoints⟩), tokenId)
  else pure (state, tokenId)

-- The end of both functions that create a record: it is passed on if `to_` is given.
def createSRRFor (isPrimaryIssuer : Bool) (artistAddress : Address) (metadataCID : Bytes)
    (issuerAddress : Address) (lockExternalTransfer_ : Bool) (to_ royaltyReceiver : Address)
    (royaltyBasisPoints : Uint16) : Result (State × Uint256) := do
  let (state, tokenId) ← _createSRR deployment state isPrimaryIssuer artistAddress metadataCID
    issuerAddress lockExternalTransfer_ royaltyReceiver royaltyBasisPoints
  if to_ ≠ 0 then do
    let state ← _transfer state issuerAddress to_ tokenId
    pure (state, tokenId)
  else pure (state, tokenId)

def createSRRFromLicensedUser (isPrimaryIssuer : Bool) (artistAddress : Address)
    (metadataCID : Bytes) (lockExternalTransfer_ : Bool) (to_ royaltyReceiver : Address)
    (royaltyBasisPoints : Uint16) : Result State := do
  trustedForwarderOnly msg state
  let (state, _) ← createSRRFor deployment state isPrimaryIssuer artistAddress metadataCID
    (sender msg state) lockExternalTransfer_ to_ royaltyReceiver royaltyBasisPoints
  pure state

def createSRRFromBulk (isPrimaryIssuer : Bool) (artistAddress : Address) (metadataCID : Bytes)
    (issuerAddress : Address) (lockExternalTransfer_ : Bool) (to_ royaltyReceiver : Address)
    (royaltyBasisPoints : Uint16) : Result (State × Uint256) := do
  onlyBulk world msg state
  createSRRFor deployment state isPrimaryIssuer artistAddress metadataCID issuerAddress
    lockExternalTransfer_ to_ royaltyReceiver royaltyBasisPoints

def updateSRR (tokenId : Uint256) (isPrimaryIssuer : Bool) (artistAddress : Address) :
    Result State := do
  tokenExists state tokenId
  onlyIssuerOrArtistOrAdministrator world msg state tokenId
  pure ((_saveSRR state tokenId isPrimaryIssuer artistAddress).emit
    (.UpdateSRR tokenId isPrimaryIssuer artistAddress (sender msg state)))

def updateSRRMetadata (tokenId : Uint256) (metadataCID : Bytes) : Result State := do
  tokenExists state tokenId
  onlyIssuerOrArtistOrAdministrator world msg state tokenId
  pure ({ state with
    _stringStorage := state._stringStorage.set tokenId ._SRR ._METADATA_HASH metadataCID }.emit
      (.UpdateSRRMetadataCID tokenId metadataCID))

-- `if (royalty.receiver != address(0))` of both functions that change a royalty.
def replaceRoyalty (tokenId : Uint256) (basisPoints : Uint16) (receiver : Address) :
    Result State :=
  if (state.royalties tokenId).receiver ≠ 0 then do
    let state ← _saveRoyalties state tokenId basisPoints receiver
    pure (state.emit (.RoyaltiesSet tokenId ⟨receiver, basisPoints⟩))
  else pure state

def updateSRRRoyalty (tokenId : Uint256) (royaltyReceiver : Address) (royaltyBasisPoints : Uint16) :
    Result State := do
  tokenExists state tokenId
  onlyIssuerOrArtistOrAdministrator world msg state tokenId
  replaceRoyalty state tokenId royaltyBasisPoints royaltyReceiver

def updateRoyaltyReceivers (royaltyReceiver : Address) : List Uint256 → State → Result State
  | [], state => pure state
  | tokenId :: tokenIds, state => do
      tokenExists state tokenId
      let state ←
        replaceRoyalty state tokenId (state.royalties tokenId).basisPoints royaltyReceiver
      updateRoyaltyReceivers royaltyReceiver tokenIds state

def updateSRRRoyaltyReceiverMulti (tokenIds : List Uint256) (royaltyReceiver : Address) :
    Result State := do
  onlyAdministrator world msg state
  updateRoyaltyReceivers royaltyReceiver tokenIds state

end Records

section Commitments

variable (deployment : Deployment) (world : World) (msg : Msg) (state : State)

-- A prior approval is cancelled by the next one.
def cancelPriorApproval (tokenId : Uint256) : State :=
  if state._bytes32Storage tokenId ._SRR ._COMMITMENT ≠ 0 then
    state.emit (.SRRCommitmentCancelled tokenId)
  else state

def storeCommitment (tokenId : Uint256) (commitment : Bytes32) (historyMetadataHash : Bytes) :
    State :=
  { state with
    _bytes32Storage := state._bytes32Storage.set tokenId ._SRR ._COMMITMENT commitment
    _stringStorage :=
      state._stringStorage.set tokenId ._HISTORY ._METADATA_HASH historyMetadataHash }

def storeCustomHistory (tokenId customHistoryId : Uint256) : State :=
  { state with
    _uintStorage := state._uintStorage.set tokenId ._HISTORY ._CUSTOM_HISTORY customHistoryId }

def _approveSRRByCommitment (tokenId : Uint256) (commitment : Bytes32)
    (historyMetadataHash : Bytes) (customHistoryId : Uint256) : Result State := do
  let state :=
    storeCommitment (cancelPriorApproval state tokenId) tokenId commitment historyMetadataHash
  let owner ← ownerOf state tokenId
  if customHistoryId = _NO_CUSTOM_HISTORY then
    pure (state.emit (.SRRCommitment tokenId owner commitment none))
  else
    pure ((storeCustomHistory state tokenId customHistoryId).emit
      (.SRRCommitment tokenId owner commitment (some customHistoryId)))

def approveSRRByCommitmentFromBulk (signer : Address) (tokenId : Uint256) (commitment : Bytes32)
    (historyMetadataHash : Bytes) (customHistoryId : Uint256) : Result State := do
  onlyBulk world msg state
  onlySRROwner state signer tokenId
  _approveSRRByCommitment state tokenId commitment historyMetadataHash customHistoryId

def approveSRRByCommitment (tokenId : Uint256) (commitment : Bytes32)
    (historyMetadataHash : Bytes) : Result State := do
  onlySRROwnerOrAdministrator world msg state tokenId
  _approveSRRByCommitment state tokenId commitment historyMetadataHash _NO_CUSTOM_HISTORY

-- The overload of `approveSRRByCommitment` with a `customHistoryId`.
def approveSRRByCommitmentWithHistory (tokenId : Uint256) (commitment : Bytes32)
    (historyMetadataHash : Bytes) (customHistoryId : Uint256) : Result State := do
  onlySRROwnerOrAdministrator world msg state tokenId
  customHistoryIdExists state customHistoryId
  _approveSRRByCommitment state tokenId commitment historyMetadataHash customHistoryId

def _clearSRRCommitment (tokenId : Uint256) : State :=
  { state with
    _bytes32Storage := state._bytes32Storage.set tokenId ._SRR ._COMMITMENT 0
    _stringStorage := state._stringStorage.set tokenId ._HISTORY ._METADATA_HASH []
    _uintStorage := state._uintStorage.set tokenId ._HISTORY ._CUSTOM_HISTORY 0 }

def cancelSRRCommitment (tokenId : Uint256) : Result State := do
  onlySRROwnerOrAdministrator world msg state tokenId
  pure ((_clearSRRCommitment state tokenId).emit (.SRRCommitmentCancelled tokenId))

def _historyProvenance (tokenId : Uint256) (from_ to_ : Address) (historyMetadataHash : Bytes)
    (customHistoryId : Uint256) (isIntermediary : Bool) : State :=
  state.emit (.Provenance tokenId from_ to_
    (if customHistoryId ≠ _NO_CUSTOM_HISTORY then some customHistoryId else none)
    historyMetadataHash (tokenURI state historyMetadataHash) isIntermediary)

def transferSRRByReveal (to_ : Address) (reveal : Bytes32) (tokenId : Uint256)
    (isIntermediary : Bool) : Result State := do
  tokenExists state tokenId
  let approval ← getSRRCommitment state tokenId
  require (deployment.evm.keccak256 (packWord reveal) = approval.commitment)
    "Hash of reveal doesn't match"
  let from_ ← ownerOf state tokenId
  let state := _historyProvenance state tokenId from_ to_ approval.historyMetadataHash
    approval.customHistoryId isIntermediary
  let state := _clearSRRCommitment state tokenId
  _transfer state from_ to_ tokenId

def _transferFromWithProvenance (to_ : Address) (tokenId : Uint256) (historyMetadataHash : Bytes)
    (customHistoryId : Uint256) (isIntermediary : Bool) : Execution State := do
  let from_ ← ownerOf state tokenId
  let state := _historyProvenance state tokenId from_ to_ historyMetadataHash customHistoryId
    isIntermediary
  _safeTransfer deployment world msg state from_ to_ tokenId []

def transferFromWithProvenance (to_ : Address) (tokenId : Uint256) (historyMetadataHash : Bytes)
    (customHistoryId : Uint256) (isIntermediary : Bool) : Execution State := do
  onlySRROwnerOrAdministrator world msg state tokenId
  _transferFromWithProvenance deployment world msg state to_ tokenId historyMetadataHash
    customHistoryId isIntermediary

def transferFromWithProvenanceFromBulk (signer to_ : Address) (tokenId : Uint256)
    (historyMetadataHash : Bytes) (customHistoryId : Uint256) (isIntermediary : Bool) :
    Execution State := do
  onlyBulk world msg state
  onlySRROwner state signer tokenId
  _transferFromWithProvenance deployment world msg state to_ tokenId historyMetadataHash
    customHistoryId isIntermediary

def transferFrom (from_ to_ : Address) (tokenId : Uint256) : Result State := do
  externalTransferNotLocked state tokenId
  let approved ← _isApprovedOrOwner state (_msgSender deployment msg) tokenId
  require (approved = true) "ERC721: transfer caller is not owner nor approved"
  _transfer state from_ to_ tokenId

-- Both overloads; the shorter one passes empty `_data`.
def safeTransferFrom (from_ to_ : Address) (tokenId : Uint256) (_data : Bytes) :
    Execution State := do
  externalTransferNotLocked state tokenId
  let approved ← _isApprovedOrOwner state (_msgSender deployment msg) tokenId
  require (approved = true) "ERC721: transfer caller is not owner nor approved"
  _safeTransfer deployment world msg state from_ to_ tokenId _data

def approve (to_ : Address) (tokenId : Uint256) : Result State := do
  externalTransferNotLocked state tokenId
  let tokenOwner ← ownerOf state tokenId
  require (to_ ≠ tokenOwner) "ERC721: approval to current owner"
  require (_msgSender deployment msg = tokenOwner ∨
      isApprovedForAll state tokenOwner (_msgSender deployment msg) = true ∨
      isAdministrator world msg state = true)
    "ERC721: approve caller is not owner nor approved for all"
  _approve state to_ tokenId

def setLockExternalTransfer (tokenId : Uint256) (flag : Bool) : Result State := do
  onlyIssuerOrAdministrator world msg state tokenId
  tokenExists state tokenId
  pure ({ state with
    _boolStorage := state._boolStorage.set tokenId ._SRR ._LOCK_EXTERNAL_TRANSFER flag }.emit
      (.LockExternalTransfer tokenId flag))

end Commitments

section Administration

variable (deployment : Deployment) (world : World) (msg : Msg) (state : State)

-- A loop over calldata with a checked `uint16` counter.
def forEach (check : Uint256 → Result Unit) : List Uint256 → Nat → Result Unit
  | [], _ => pure ()
  | value :: values, i => do
      check value
      requirePanic (i + 1 < 2 ^ 16) 0x11
      forEach check values (i + 1)

def addHistory (tokenIds customHistoryIds : List Uint256) : Result State := do
  onlyLicensedUserOrAdministrator world msg state
  requirePanic (tokenIds.length * customHistoryIds.length < 2 ^ 256) 0x11
  require (tokenIds.length * customHistoryIds.length ≤ state.maxCombinedHistoryRecords.toNat)
    "maximum number of combined tokens and histories exceeded"
  forEach (fun tokenId => do
    require (_exists state tokenId = true) "one of the tokenIds does not exist"
    onlyIssuerOrArtistOrAdministrator world msg state tokenId) tokenIds 0
  forEach (customHistoryIdExists state) customHistoryIds 0
  pure (state.emit (.History tokenIds customHistoryIds))

def _setTrustedForwarder (forwarder : Address) : Result State :=
  if forwarder = 0 then .error .empty else pure { state with trustedForwarder := forwarder }

def setTrustedForwarder (forwarder : Address) : Result State := do
  onlyAdministrator world msg state
  _setTrustedForwarder state forwarder

def setMaxCombinedHistoryRecords (maxRecords : Uint256) : Result State := do
  onlyAdministrator world msg state
  pure { state with maxCombinedHistoryRecords := maxRecords }

def setNameRegistryAddress (nameRegistry : Address) : Result State := do
  require (nameRegistry ≠ 0) "nameRegistry cannot be 0 address"
  onlyAdministrator world msg state
  pure { state with nameRegistryAddress := nameRegistry }

def setTokenURIParts (URIPrefix URIPostfix : Bytes) : Result State := do
  onlyAdministrator world msg state
  pure { state with
    _stringStorage := (state._stringStorage.set SRR_GLOBAL_SLOT ._SRR ._URI_PREFIX URIPrefix).set
      SRR_GLOBAL_SLOT ._SRR ._URI_POSTFIX URIPostfix }

def addCustomHistoryType (historyTypeName : Bytes) : Result State := do
  onlyAdministrator world msg state
  require (state.customHistoryTypeIdByName historyTypeName = 0)
    "History type with the same name already exists"
  requirePanic (state.customHistoryTypeCount.toNat + 1 < 2 ^ 256) 0x11
  let customHistoryTypeCount := state.customHistoryTypeCount + 1
  pure ({ state with
    customHistoryTypeCount := customHistoryTypeCount
    customHistoryTypeNameById :=
      Function.update state.customHistoryTypeNameById customHistoryTypeCount historyTypeName
    customHistoryTypeIdByName :=
      Function.update state.customHistoryTypeIdByName historyTypeName customHistoryTypeCount }.emit
        (.CreateCustomHistoryType customHistoryTypeCount historyTypeName))

def writeCustomHistory (name : Bytes) (customHistoryTypeId : Uint256) (metadata : Metadata) :
    Result State := do
  onlyAdministrator world msg state
  require ((state.customHistoryTypeNameById customHistoryTypeId).length ≠ 0)
    "The custom history type id does not exist"
  requirePanic (state.customHistoryCount.toNat + 1 < 2 ^ 256) 0x11
  let customHistoryCount := state.customHistoryCount + 1
  pure ({ state with
    customHistoryCount := customHistoryCount
    _stringStorage := state._stringStorage.set customHistoryCount ._CUSTOM_HISTORY
      ._CUSTOM_HISTORY_NAME name }.emit
        (.CreateCustomHistory customHistoryCount name customHistoryTypeId metadata))

def requireCustomHistoryName (name : Bytes) : Result Unit :=
  require (name.length ≠ 0) "The custom history name is required"

def updateCustomHistory (customHistoryId : Uint256) (name : Bytes) (metadata : Metadata) :
    Result State := do
  onlyAdministrator world msg state
  customHistoryIdExists state customHistoryId
  requireCustomHistoryName name
  let state := if deployment.evm.keccak256 (getCustomHistoryNameById state customHistoryId) ≠
      deployment.evm.keccak256 name then
      { state with
        _stringStorage := state._stringStorage.set customHistoryId ._CUSTOM_HISTORY
          ._CUSTOM_HISTORY_NAME name }
    else state
  pure (state.emit (.UpdateCustomHistory customHistoryId name metadata))

def setContractURI (_contractURI : Bytes) : Result State := do
  onlyAdministrator world msg state
  pure { state with
    _stringStorage :=
      state._stringStorage.set SRR_GLOBAL_SLOT ._SRR ._CONTRACT_URI _contractURI }

def transferOwnership (newOwner : Address) : Result State := do
  onlyAdministrator world msg state
  require (newOwner ≠ 0) "Ownable: new owner is the zero address"
  pure { state.emit (.OwnershipTransferred state.owner newOwner) with owner := newOwner }

def setOpenSeaApproveAllKillSwitch (on : Bool) : Result State := do
  onlyAdministrator world msg state
  pure { state with
    _boolStorage :=
      state._boolStorage.set SRR_GLOBAL_SLOT ._SRR ._OPENSEA_APPROVE_ALL_KILL_SWITCH on }

def META_TRANSACTION_TYPEHASH : Bytes32 :=
  deployment.evm.keccak256
    (ascii "MetaTransaction(uint256 nonce,address from,bytes functionSignature)")

def EIP712_DOMAIN_TYPEHASH : Bytes32 :=
  deployment.evm.keccak256
    (ascii "EIP712Domain(string name,string version,address verifyingContract,bytes32 salt)")

def setDomainSeparator (name : Bytes) : OpenSeaMetaTransactionStorage :=
  { state.openSeaMetaTx with
    domainSeperator := deployment.evm.keccak256
      (packWord (EIP712_DOMAIN_TYPEHASH deployment) ++ packWord (deployment.evm.keccak256 name) ++
        packWord (deployment.evm.keccak256 (ascii "1")) ++ encodeAddress deployment.self ++
        packWord deployment.evm.chainid) }

def setOpenSeaMetaTxIntegration (proxyRegistryAddress : Address) (name : Bytes) :
    Result State := do
  onlyAdministrator world msg state
  let state := { state with
    _addressStorage := state._addressStorage.set SRR_GLOBAL_SLOT ._SRR ._OPENSEA_PROXY_ADDRESS
      proxyRegistryAddress }
  pure { state with openSeaMetaTx := setDomainSeparator deployment state name }

def hashMetaTransaction (nonce : Uint256) (from_ : Address) (functionSignature : Bytes) : Bytes32 :=
  deployment.evm.keccak256
    (packWord (META_TRANSACTION_TYPEHASH deployment) ++ packWord nonce ++ encodeAddress from_ ++
      packWord (deployment.evm.keccak256 functionSignature))

def toTypedMessageHash (messageHash : Bytes32) : Bytes32 :=
  deployment.evm.keccak256
    ([0x19, 0x01] ++ packWord state.openSeaMetaTx.domainSeperator ++ packWord messageHash)

/-- What a user signs to have the registry call itself with `callData` in the user's name. -/
def metaTransactionHash (userAddress : Address) (callData : Bytes) : Bytes32 :=
  toTypedMessageHash deployment state
    (hashMetaTransaction deployment (state.openSeaMetaTx.nonces userAddress) userAddress callData)

def verify (userAddress : Address) (callData : Bytes) (sigR sigS : Bytes32) (sigV : Uint8) :
    Result Bool := do
  require (userAddress ≠ 0) "MetaTransaction: INVALID_SIGNER"
  pure (userAddress == deployment.evm.ecrecover
    (metaTransactionHash deployment state userAddress callData) sigV sigR sigS)

-- `executeMetaTransaction` up to the call of the registry by itself.
def acceptMetaTransaction (userAddress : Address) (callData : Bytes) (sigR sigS : Bytes32)
    (sigV : Uint8) : Result State := do
  let verified ← verify deployment state userAddress callData sigR sigS sigV
  require (verified = true) "Signer and signature do not match"
  requirePanic ((state.openSeaMetaTx.nonces userAddress).toNat + 1 < 2 ^ 256) 0x11
  pure ({ state with
    openSeaMetaTx := { state.openSeaMetaTx with
      nonces := Function.update state.openSeaMetaTx.nonces userAddress
        (state.openSeaMetaTx.nonces userAddress + 1) } }.emit
      (.MetaTransactionExecuted userAddress msg.sender callData))

end Administration

def selfMsg (deployment : Deployment) (userAddress : Address) (callData : Bytes) : Msg :=
  ⟨deployment.self, callData ++ packWord userAddress⟩

def executeMetaTransaction (deployment : Deployment)
    (selfCall : Msg → Call → State → Execution State) (msg : Msg) (state : State)
    (userAddress : Address) (callData : Bytes) (sigR sigS : Bytes32) (sigV : Uint8) :
    Execution State := do
  let state ← acceptMetaTransaction deployment msg state userAddress callData sigR sigS sigV
  match deployment.dispatch (selfMsg deployment userAddress callData).data with
  | some call =>
      (selfCall (selfMsg deployment userAddress callData) call state).failWith
        (.reason "Function call not successful")
  | none => .revert (.reason "Function call not successful")

def execute (deployment : Deployment) (world : World)
    (selfCall : Msg → Call → State → Execution State) (msg : Msg) (call : Call) (state : State) :
    Execution State :=
  match call with
  | .setTrustedForwarder forwarder => liftM (setTrustedForwarder world msg state forwarder)
  | .setMaxCombinedHistoryRecords maxRecords =>
      liftM (setMaxCombinedHistoryRecords world msg state maxRecords)
  | .createSRRFromLicensedUser isPrimaryIssuer artistAddress metadataCID lockExternalTransfer to_
      royaltyReceiver royaltyBasisPoints =>
      liftM (createSRRFromLicensedUser deployment msg state isPrimaryIssuer artistAddress
        metadataCID lockExternalTransfer to_ royaltyReceiver royaltyBasisPoints)
  | .createSRRFromBulk isPrimaryIssuer artistAddress metadataCID issuerAddress lockExternalTransfer
      to_ royaltyReceiver royaltyBasisPoints => do
      let (state, _) ← createSRRFromBulk deployment world msg state isPrimaryIssuer artistAddress
        metadataCID issuerAddress lockExternalTransfer to_ royaltyReceiver royaltyBasisPoints
      pure state
  | .approveSRRByCommitmentFromBulk signer tokenId commitment historyMetadataHash customHistoryId =>
      liftM (approveSRRByCommitmentFromBulk world msg state signer tokenId commitment
        historyMetadataHash customHistoryId)
  | .transferFromWithProvenanceFromBulk signer to_ tokenId historyMetadataHash customHistoryId
      isIntermediary =>
      transferFromWithProvenanceFromBulk deployment world msg state signer to_ tokenId
        historyMetadataHash customHistoryId isIntermediary
  | .updateSRR tokenId isPrimaryIssuer artistAddress =>
      liftM (updateSRR world msg state tokenId isPrimaryIssuer artistAddress)
  | .updateSRRMetadata tokenId metadataCID =>
      liftM (updateSRRMetadata world msg state tokenId metadataCID)
  | .updateSRRRoyalty tokenId royaltyReceiver royaltyBasisPoints =>
      liftM (updateSRRRoyalty world msg state tokenId royaltyReceiver royaltyBasisPoints)
  | .updateSRRRoyaltyReceiverMulti tokenIds royaltyReceiver =>
      liftM (updateSRRRoyaltyReceiverMulti world msg state tokenIds royaltyReceiver)
  | .approveSRRByCommitment tokenId commitment historyMetadataHash =>
      liftM (approveSRRByCommitment world msg state tokenId commitment historyMetadataHash)
  | .approveSRRByCommitmentWithHistory tokenId commitment historyMetadataHash customHistoryId =>
      liftM (approveSRRByCommitmentWithHistory world msg state tokenId commitment
        historyMetadataHash customHistoryId)
  | .cancelSRRCommitment tokenId => liftM (cancelSRRCommitment world msg state tokenId)
  | .transferSRRByReveal to_ reveal tokenId isIntermediary =>
      liftM (transferSRRByReveal deployment state to_ reveal tokenId isIntermediary)
  | .addHistory tokenIds customHistoryIds =>
      liftM (addHistory world msg state tokenIds customHistoryIds)
  | .setNameRegistryAddress nameRegistry =>
      liftM (setNameRegistryAddress world msg state nameRegistry)
  | .setTokenURIParts URIPrefix URIPostfix =>
      liftM (setTokenURIParts world msg state URIPrefix URIPostfix)
  | .addCustomHistoryType historyTypeName =>
      liftM (addCustomHistoryType world msg state historyTypeName)
  | .writeCustomHistory name customHistoryTypeId metadata =>
      liftM (writeCustomHistory world msg state name customHistoryTypeId metadata)
  | .updateCustomHistory customHistoryId name metadata =>
      liftM (updateCustomHistory deployment world msg state customHistoryId name metadata)
  | .transferFrom from_ to_ tokenId => liftM (transferFrom deployment msg state from_ to_ tokenId)
  | .safeTransferFrom from_ to_ tokenId _data =>
      safeTransferFrom deployment world msg state from_ to_ tokenId _data
  | .transferFromWithProvenance to_ tokenId historyMetadataHash customHistoryId isIntermediary =>
      transferFromWithProvenance deployment world msg state to_ tokenId historyMetadataHash
        customHistoryId isIntermediary
  | .approve to_ tokenId => liftM (approve deployment world msg state to_ tokenId)
  | .setApprovalForAll operator approved =>
      liftM (setApprovalForAll deployment msg state operator approved)
  | .setLockExternalTransfer tokenId flag =>
      liftM (setLockExternalTransfer world msg state tokenId flag)
  | .setContractURI _contractURI => liftM (setContractURI world msg state _contractURI)
  | .transferOwnership newOwner => liftM (transferOwnership world msg state newOwner)
  | .setOpenSeaApproveAllKillSwitch on =>
      liftM (setOpenSeaApproveAllKillSwitch world msg state on)
  | .setOpenSeaMetaTxIntegration proxyRegistryAddress name =>
      liftM (setOpenSeaMetaTxIntegration deployment world msg state proxyRegistryAddress name)
  | .executeMetaTransaction userAddress callData sigR sigS sigV =>
      executeMetaTransaction deployment selfCall msg state userAddress callData sigR sigS sigV
  | .view _ => pure state

def perform (deployment : Deployment) (world : World) :
    Nat → Msg → Call → State → Execution State
  | 0 => execute deployment world fun _ _ _ => .revert .empty
  | depth + 1 => execute deployment world (perform deployment world depth)

structure Transaction where
  world : World
  depth : Nat
  msg : Msg
  call : Call

def entry (deployment : Deployment) (transaction : Transaction) (state : State) :
    Execution State :=
  perform deployment transaction.world transaction.depth transaction.msg transaction.call state

/-- Only the registry itself calls in its own name, and these calls are part of the others. -/
def Legal (deployment : Deployment) (transaction : Transaction) (_ : State) : Prop :=
  transaction.msg.sender ≠ deployment.self

end Startrail.Registry
