import Startrail.Library.Reentrancy
import Startrail.Shared

/-!
The licensed user manager: `licensedUser/OwnerManager.sol`,
`licensedUser/SignatureChecker.sol` and `licensedUser/LicensedUserManagerV02.sol`.
One contract holds all wallets. A wallet with one owner keeps it in `luws`; a
wallet with several keeps a linked list of them in `wallets`. The functions of
`OwnerManager` that `LicensedUserManagerV02` overrides stand in a namespace of
that name.
-/

namespace Startrail.LicensedUserManager

def SENTINEL_OWNERS : Address := 1

def IS_VALID_SIG_SUCCESS : Bytes4 := 0x9878440b

structure Wallet where
  owners : Address → Address
  ownerCount : Uint8
  threshold : Uint8

inductive UserType where
  | HANDLER
  | ARTIST
deriving DecidableEq

structure LicensedUser where
  owner : Address
  active : Bool
  userType : UserType
  englishName : Bytes
  originalName : Bytes

structure LicensedUserDto where
  owners : List Address
  threshold : Uint8
  userType : UserType
  englishName : Bytes
  originalName : Bytes

inductive Event where
  | Initialized (version : Uint8)
  | AddedOwner (wallet owner : Address)
  | RemovedOwner (wallet owner : Address)
  | ChangedThreshold (wallet : Address) (threshold : Uint8)
  | CreateLicensedUserWallet (walletAddress : Address) (owners : List Address)
      (threshold : Uint8) (englishName originalName : Bytes) (userType : UserType) (salt : Bytes32)
  | UpgradeLicensedUserWalletToMulti (walletAddress : Address) (owners : List Address)
      (threshold : Uint8)
  | UpdateLicensedUserDetail (walletAddress : Address) (key : String) (value : Bytes)
  | MigrateLicensedUserWallet (walletAddress : Address) (originChain : Bytes)
      (originTimestamp : Uint256)

structure State where
  initializable : Initializable
  trustedForwarder : Address
  wallets : Address → Wallet
  nameRegistryAddress : Address
  luws : Address → LicensedUser
  upgradeableBeacon : Address
  logs : List Event

def Wallet.blank : Wallet := ⟨fun _ => 0, 0, 0⟩

def State.blank : State where
  initializable := ⟨0, false⟩
  trustedForwarder := 0
  wallets := fun _ => Wallet.blank
  nameRegistryAddress := 0
  luws := fun _ => ⟨0, false, .HANDLER, [], []⟩
  upgradeableBeacon := 0
  logs := []

def State.emit (state : State) (event : Event) : State := { state with logs := event :: state.logs }

def State.setWallet (state : State) (_wallet : Address) (wallet : Wallet) : State :=
  { state with wallets := Function.update state.wallets _wallet wallet }

def State.setUser (state : State) (_walletAddress : Address) (user : LicensedUser) : State :=
  { state with luws := Function.update state.luws _walletAddress user }

def isTrustedForwarder (state : State) (forwarder : Address) : Prop :=
  forwarder = state.trustedForwarder

instance (state : State) (forwarder : Address) : Decidable (isTrustedForwarder state forwarder) :=
  inferInstanceAs (Decidable (_ = _))

def isFromAdministrator (world : World) (msg : Msg) (state : State) : Prop :=
  (world.nameRegistry state.nameRegistryAddress).administrator = msg.sender

instance (world : World) (msg : Msg) (state : State) :
    Decidable (isFromAdministrator world msg state) :=
  inferInstanceAs (Decidable (_ = _))

def isFromWallet (msg : Msg) (state : State) (_wallet : Address) : String :=
  if ¬isTrustedForwarder state msg.sender then
    "Wallet function can only be called from the trusted forwarder"
  else if msg.data.length < 24 then
    "Wallet address must be appended to calldata (EIP2771 forward)"
  else if addressOf (lastBytes 20 msg.data) ≠ _wallet then
    "Sending wallet attempted to modify a different wallet"
  else ""

def onlyAdministrator (world : World) (msg : Msg) (state : State) : Result Unit :=
  require (isFromAdministrator world msg state) "Caller is not the Startrail Administrator"

def onlyWalletOrAdministrator (world : World) (msg : Msg) (state : State) (_wallet : Address) :
    Result Unit :=
  if isFromAdministrator world msg state then .ok ()
  else do
    require (isTrustedForwarder state msg.sender)
      "Wallet function can only be called from trusted forwarder or admin"
    require (isFromWallet msg state _wallet = "") (isFromWallet msg state _wallet)

-- The source's `initialize`: that word is reserved here.
def initializeV1 (isContract : Bool) (state : State)
    (_nameRegistryAddress _trustedForwarder : Address) : Result State := do
  let storage ← state.initializable.initializer isContract
  if _trustedForwarder = 0 then .error .empty
  else pure ({ state with
    initializable := storage.finish
    nameRegistryAddress := _nameRegistryAddress
    trustedForwarder := _trustedForwarder }.emit (.Initialized 1))

def initializeV2 (state : State) (_upgradeableBeacon : Address) : Result State := do
  let storage ← state.initializable.reinitializer 2
  pure ({ state with
    initializable := storage.finish
    upgradeableBeacon := _upgradeableBeacon }.emit (.Initialized 2))

def setupOwnersLoop : List Address → Address → (Address → Address) →
    Result (Address × (Address → Address))
  | [], currentOwner, owners => pure (currentOwner, owners)
  | owner :: _owners, currentOwner, owners => do
      require (owner ≠ 0 ∧ owner ≠ SENTINEL_OWNERS) "Invalid owner address provided"
      require (owners owner = 0) "Duplicate owner address provided"
      setupOwnersLoop _owners owner (Function.update owners currentOwner owner)

def setupOwners (state : State) (_wallet : Address) (_owners : List Address) (_threshold : Uint8) :
    Result State := do
  let wallet := state.wallets _wallet
  require (wallet.threshold = 0) "Owners have already been setup"
  require (_threshold.toNat ≤ _owners.length) "Threshold cannot exceed owner count"
  require (1 ≤ _threshold) "Threshold needs to be greater than 0"
  let (currentOwner, owners) ← setupOwnersLoop _owners SENTINEL_OWNERS wallet.owners
  pure (state.setWallet _wallet
    { owners := Function.update owners currentOwner SENTINEL_OWNERS
      ownerCount := BitVec.ofNat 8 _owners.length
      threshold := _threshold })

def changeThreshold (world : World) (msg : Msg) (state : State) (_wallet : Address)
    (_threshold : Uint8) : Result State := do
  onlyWalletOrAdministrator world msg state _wallet
  let wallet := state.wallets _wallet
  require (_threshold ≤ wallet.ownerCount) "Threshold cannot exceed owner count"
  require (1 ≤ _threshold) "Threshold needs to be greater than 0"
  pure ((state.setWallet _wallet { wallet with threshold := _threshold }).emit
    (.ChangedThreshold _wallet _threshold))

def OwnerManager.addOwner (world : World) (msg : Msg) (state : State) (_wallet _owner : Address)
    (_threshold : Uint8) : Result State := do
  onlyWalletOrAdministrator world msg state _wallet
  require (_owner ≠ 0 ∧ _owner ≠ SENTINEL_OWNERS) "Invalid owner address provided"
  let wallet := state.wallets _wallet
  require (wallet.owners _owner = 0) "Address is already an owner"
  let owners := Function.update wallet.owners _owner (wallet.owners SENTINEL_OWNERS)
  requirePanic (wallet.ownerCount.toNat + 1 < 2 ^ 8) 0x11
  let state := (state.setWallet _wallet
    { wallet with
      owners := Function.update owners SENTINEL_OWNERS _owner
      ownerCount := wallet.ownerCount + 1 }).emit (.AddedOwner _wallet _owner)
  if wallet.threshold ≠ _threshold then changeThreshold world msg state _wallet _threshold
  else pure state

def removeOwner (world : World) (msg : Msg) (state : State) (_wallet _prevOwner _owner : Address)
    (_threshold : Uint8) : Result State := do
  onlyWalletOrAdministrator world msg state _wallet
  let wallet := state.wallets _wallet
  requirePanic (1 ≤ wallet.ownerCount) 0x11
  require (_threshold ≤ wallet.ownerCount - 1)
    "New owner count needs to be larger than new threshold"
  require (_owner ≠ 0 ∧ _owner ≠ SENTINEL_OWNERS) "Invalid owner address provided"
  require (wallet.owners _prevOwner = _owner) "Invalid prevOwner, owner pair provided"
  let owners := Function.update wallet.owners _prevOwner (wallet.owners _owner)
  let state := (state.setWallet _wallet
    { wallet with
      owners := Function.update owners _owner 0
      ownerCount := wallet.ownerCount - 1 }).emit (.RemovedOwner _wallet _owner)
  if wallet.threshold ≠ _threshold then changeThreshold world msg state _wallet _threshold
  else pure state

def swapOwner (world : World) (msg : Msg) (state : State)
    (_wallet _prevOwner _oldOwner _newOwner : Address) : Result State := do
  onlyWalletOrAdministrator world msg state _wallet
  require (_newOwner ≠ 0 ∧ _newOwner ≠ SENTINEL_OWNERS) "Invalid owner address provided"
  let wallet := state.wallets _wallet
  require (wallet.owners _newOwner = 0) "Address is already an owner"
  require (_oldOwner ≠ 0 ∧ _oldOwner ≠ SENTINEL_OWNERS) "Invalid owner address provided"
  require (wallet.owners _prevOwner = _oldOwner) "Invalid _prevOwner, owner pair provided"
  let owners := Function.update wallet.owners _newOwner (wallet.owners _oldOwner)
  let owners := Function.update owners _prevOwner _newOwner
  pure (((state.setWallet _wallet { wallet with owners := Function.update owners _oldOwner 0 }).emit
    (.RemovedOwner _wallet _oldOwner)).emit (.AddedOwner _wallet _newOwner))

def OwnerManager.getThreshold (state : State) (_wallet : Address) : Uint8 :=
  (state.wallets _wallet).threshold

def OwnerManager.isOwner (state : State) (_wallet _owner : Address) : Prop :=
  _owner ≠ SENTINEL_OWNERS ∧ (state.wallets _wallet).owners _owner ≠ 0

-- The array has room for `ownerCount` owners: a longer list runs out of its bounds, and the
-- entries behind a shorter one stay zero.
def getOwnersLoop (owners : Address → Address) : Nat → Address → Result (List Address)
  | 0, currentOwner => do
      requirePanic (currentOwner = SENTINEL_OWNERS) 0x32
      pure []
  | room + 1, currentOwner =>
      if currentOwner = SENTINEL_OWNERS then pure (List.replicate (room + 1) 0)
      else do
        let rest ← getOwnersLoop owners room (owners currentOwner)
        pure (currentOwner :: rest)

def OwnerManager.getOwners (state : State) (_wallet : Address) : Result (List Address) :=
  let wallet := state.wallets _wallet
  getOwnersLoop wallet.owners wallet.ownerCount.toNat (wallet.owners SENTINEL_OWNERS)

def walletExists (state : State) (_walletAddress : Address) : Prop :=
  (state.luws _walletAddress).originalName ≠ []

instance (state : State) (_walletAddress : Address) :
    Decidable (walletExists state _walletAddress) :=
  inferInstanceAs (Decidable (_ ≠ _))

def isSingleOwner (state : State) (_walletAddress : Address) : Prop :=
  (state.luws _walletAddress).owner ≠ 0

instance (state : State) (_walletAddress : Address) :
    Decidable (isSingleOwner state _walletAddress) :=
  inferInstanceAs (Decidable (_ ≠ _))

def isActiveWallet (state : State) (_walletAddress : Address) : Bool :=
  (state.luws _walletAddress).active

def onlyActiveWallet (state : State) (_wallet : Address) : Result Unit :=
  require (isActiveWallet state _wallet = true) "Wallet is inactive or does not exist"

def getThreshold (state : State) (_walletAddress : Address) : Uint8 :=
  if isSingleOwner state _walletAddress then 1 else OwnerManager.getThreshold state _walletAddress

def getOwners (state : State) (_walletAddress : Address) : Result (List Address) :=
  if isSingleOwner state _walletAddress then pure [(state.luws _walletAddress).owner]
  else OwnerManager.getOwners state _walletAddress

def isOwner (state : State) (_walletAddress _owner : Address) : Prop :=
  if isSingleOwner state _walletAddress then (state.luws _walletAddress).owner = _owner
  else OwnerManager.isOwner state _walletAddress _owner

def isValidCreateWalletRequest (state : State) (_details : LicensedUserDto)
    (_walletAddress : Address) : Result Unit := do
  require (¬walletExists state _walletAddress) "A wallet already exists for this address"
  requirePanic (_details.owners ≠ []) 0x32
  require (_details.owners.head? ≠ some 0) "Invalid owner address"
  require (_details.englishName ≠ []) "englishName must not be empty"
  require (_details.originalName ≠ []) "originalName must not be empty"

def emitCreateLicensedUserWallet (state : State) (_walletAddress : Address) (_salt : Bytes32) :
    Result State := do
  let luw := state.luws _walletAddress
  let owners ← getOwners state _walletAddress
  pure (state.emit (.CreateLicensedUserWallet _walletAddress owners
    (getThreshold state _walletAddress) luw.englishName luw.originalName luw.userType _salt))

def createWalletInternal (state : State) (_details : LicensedUserDto) (_walletAddress : Address)
    (_salt : Bytes32) : Result State := do
  isValidCreateWalletRequest state _details _walletAddress
  let singleOwner := _details.owners.length = 1
  let owner := if singleOwner then _details.owners.headD 0 else 0
  let state := state.setUser _walletAddress
    ⟨owner, true, _details.userType, _details.englishName, _details.originalName⟩
  let state ← (if ¬singleOwner then
      setupOwners state _walletAddress _details.owners _details.threshold
    else pure state)
  emitCreateLicensedUserWallet state _walletAddress _salt

/-- The contract's own address and code it embeds: `type(BeaconProxy).creationCode`. -/
structure Deployment where
  evm : Evm
  this : Address
  beaconProxyCreationCode : Bytes

def abiEncodeInitialize (owner : Address) : Bytes :=
  packWord (0xc4d66de8 : Bytes4) ++ encodeAddress owner

-- `abi.encode(upgradeableBeacon, initialize(owner))`: the second argument is 36 bytes long.
def abiEncodeBeaconArguments (upgradeableBeacon owner : Address) : Bytes :=
  encodeAddress upgradeableBeacon ++ encodeBE 32 0x40 ++ encodeBE 32 36 ++
    abiEncodeInitialize owner ++ List.replicate 28 0

def computeAddress (deployment : Deployment) (salt bytecodeHash : Bytes32) : Address :=
  (deployment.evm.keccak256 ([0xff] ++ packWord deployment.this ++ packWord salt ++
    packWord bytecodeHash)).setWidth 160

def createWallet (deployment : Deployment) (world : World) (msg : Msg) (state : State)
    (_details : LicensedUserDto) (_salt : Bytes32) : Result State := do
  onlyAdministrator world msg state
  match _details.owners with
  | [] => .error (.panic 0x32)
  | owner :: _ =>
      let bytecode := deployment.beaconProxyCreationCode ++
        abiEncodeBeaconArguments state.upgradeableBeacon owner
      let walletAddress := computeAddress deployment _salt (deployment.evm.keccak256 bytecode)
      createWalletInternal state _details walletAddress _salt

def createWalletFromMigration (world : World) (msg : Msg) (state : State)
    (_details : LicensedUserDto) (_walletAddress : Address) (_originChain : Bytes)
    (_originTimestamp : Uint256) : Result State := do
  onlyAdministrator world msg state
  let state ← createWalletInternal state _details _walletAddress 0
  pure (state.emit (.MigrateLicensedUserWallet _walletAddress _originChain _originTimestamp))

def singleToMulti (state : State) (_walletAddress : Address) (_owners : List Address)
    (_threshold : Uint8) : Result State := do
  let luw := state.luws _walletAddress
  let state := state.setUser _walletAddress { luw with owner := 0 }
  let state ← setupOwners state _walletAddress _owners _threshold
  pure (state.emit (.UpgradeLicensedUserWalletToMulti _walletAddress _owners _threshold))

def addOwner (world : World) (msg : Msg) (state : State) (_walletAddress _owner : Address)
    (_threshold : Uint8) : Result State := do
  onlyActiveWallet state _walletAddress
  onlyWalletOrAdministrator world msg state _walletAddress
  if isSingleOwner state _walletAddress then
    singleToMulti state _walletAddress [(state.luws _walletAddress).owner, _owner] _threshold
  else OwnerManager.addOwner world msg state _walletAddress _owner _threshold

def setOriginalName (world : World) (msg : Msg) (state : State) (_walletAddress : Address)
    (_name : Bytes) : Result State := do
  onlyWalletOrAdministrator world msg state _walletAddress
  onlyActiveWallet state _walletAddress
  require (_name ≠ []) "originalName must not be empty"
  pure ((state.setUser _walletAddress { state.luws _walletAddress with originalName := _name }).emit
    (.UpdateLicensedUserDetail _walletAddress "originalName" _name))

def setEnglishName (world : World) (msg : Msg) (state : State) (_walletAddress : Address)
    (_name : Bytes) : Result State := do
  onlyWalletOrAdministrator world msg state _walletAddress
  onlyActiveWallet state _walletAddress
  require (_name ≠ []) "englishName must not be empty"
  pure ((state.setUser _walletAddress { state.luws _walletAddress with englishName := _name }).emit
    (.UpdateLicensedUserDetail _walletAddress "englishName" _name))

def checkSignaturesLoop (evm : Evm) (behind : Nat → UInt8) (_owners : Address → Address)
    (_dataHash : Bytes32) (_signatures : Bytes) : Nat → Nat → Address → Result Unit
  | 0, _, _ => pure ()
  | remaining + 1, i, lastOwner => do
      let (v, r, s) := signatureSplit behind _signatures i
      let currentOwner := evm.ecrecover _dataHash v r s
      require (lastOwner < currentOwner ∧ _owners currentOwner ≠ 0 ∧
          currentOwner ≠ SENTINEL_OWNERS)
        "Signer in signatures is not an owner of this wallet"
      checkSignaturesLoop evm behind _owners _dataHash _signatures remaining (i + 1) currentOwner

def checkSignatures (evm : Evm) (behind : Nat → UInt8) (_owners : Address → Address)
    (_threshold : Uint8) (_dataHash : Bytes32) (_signatures : Bytes) : Result Unit := do
  require (0 < _threshold) "Threshold needs to be defined!"
  require (_threshold.toNat * 65 ≤ _signatures.length) "Signatures data too short"
  checkSignaturesLoop evm behind _owners _dataHash _signatures _threshold.toNat 0 0

def isValidSignatureSet (evm : Evm) (behind : Nat → UInt8) (state : State)
    (_walletAddress : Address) (_hash : Bytes32) (_signatures : Bytes) : Result Bytes4 := do
  onlyActiveWallet state _walletAddress
  if isSingleOwner state _walletAddress then
    let (v, r, s) := signatureSplit behind _signatures 0
    require (evm.ecrecover _hash v r s = (state.luws _walletAddress).owner)
      "Signer in signatures is not an owner of this wallet"
  else
    let wallet := state.wallets _walletAddress
    checkSignatures evm behind wallet.owners wallet.threshold _hash _signatures
  pure IS_VALID_SIG_SUCCESS

inductive Call where
  | initializeV1 (_nameRegistryAddress _trustedForwarder : Address)
  | initializeV2 (_upgradeableBeacon : Address)
  | createWallet (_details : LicensedUserDto) (_salt : Bytes32)
  | createWalletFromMigration (_details : LicensedUserDto) (_walletAddress : Address)
      (_originChain : Bytes) (_originTimestamp : Uint256)
  | addOwner (_walletAddress _owner : Address) (_threshold : Uint8)
  | removeOwner (_wallet _prevOwner _owner : Address) (_threshold : Uint8)
  | swapOwner (_wallet _prevOwner _oldOwner _newOwner : Address)
  | changeThreshold (_wallet : Address) (_threshold : Uint8)
  | setOriginalName (_walletAddress : Address) (_name : Bytes)
  | setEnglishName (_walletAddress : Address) (_name : Bytes)

structure Transaction where
  world : World
  msg : Msg
  call : Call

def execute (deployment : Deployment) (transaction : Transaction) (state : State) : Result State :=
  let ⟨world, msg, call⟩ := transaction
  match call with
  | .initializeV1 _nameRegistryAddress _trustedForwarder =>
      initializeV1 true state _nameRegistryAddress _trustedForwarder
  | .initializeV2 _upgradeableBeacon => initializeV2 state _upgradeableBeacon
  | .createWallet _details _salt => createWallet deployment world msg state _details _salt
  | .createWalletFromMigration _details _walletAddress _originChain _originTimestamp =>
      createWalletFromMigration world msg state _details _walletAddress _originChain
        _originTimestamp
  | .addOwner _walletAddress _owner _threshold =>
      addOwner world msg state _walletAddress _owner _threshold
  | .removeOwner _wallet _prevOwner _owner _threshold =>
      removeOwner world msg state _wallet _prevOwner _owner _threshold
  | .swapOwner _wallet _prevOwner _oldOwner _newOwner =>
      swapOwner world msg state _wallet _prevOwner _oldOwner _newOwner
  | .changeThreshold _wallet _threshold => changeThreshold world msg state _wallet _threshold
  | .setOriginalName _walletAddress _name => setOriginalName world msg state _walletAddress _name
  | .setEnglishName _walletAddress _name => setEnglishName world msg state _walletAddress _name

-- The contract calls no unknown code.
def entry (deployment : Deployment) (transaction : Transaction) (state : State) :
    Outcome Revert State Empty Empty State :=
  liftM (execute deployment transaction state)

end Startrail.LicensedUserManager
