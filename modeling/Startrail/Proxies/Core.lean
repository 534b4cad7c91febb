import Startrail.Evm
import Startrail.Library.Abi
import Startrail.Library.Linking

/-!
The upgradeable proxies of `proxyAdmin/` and `licensedUser/proxy/`: any number of
`StartrailProxy` and `StartrailProxyLUM` contracts, and the `StartrailProxyAdmin`
that administers them. A proxy runs the code of its implementation on its own
storage, of which it keeps two words for itself. That code is unknown; it may call
anyone, and who is called may come back to any contract here.
-/

namespace Startrail.Proxies

abbrev Storage := Bytes32 → Bytes32

structure Message where
  sender : Address
  value : Uint256
  data : Bytes

structure Query where
  target : Address
  value : Uint256
  data : Bytes

abbrev Execution (S A : Type) := Outcome Revert S Query Reply A

/-- Code that is run on a storage, with what it returns. -/
abbrev Logic := Message → Storage → Execution Storage (Storage × Bytes)

abbrev Code := Address → Option Logic

def IMPLEMENTATION_SLOT : Bytes32 :=
  0x360894a13ba1a3210667c828492db98dca3e2076cc3735a920a3ca505d382bbc

def ADMIN_SLOT : Bytes32 :=
  0xb53127684a568b3173ae13b9f8a6016e243e63b6e8ee1178d6a717850b5d6103

inductive Kind where
  | startrailProxy
  | startrailProxyLUM
deriving DecidableEq

/-- The external functions of the proxies themselves. -/
inductive Function where
  | admin
  | implementation
  | changeAdmin (newAdmin : Address)
  | upgradeTo (newImplementation : Address)
  | upgradeToAndCall (newImplementation : Address) (data : Bytes)
  | initializeAdmin (_proxyAdmin : Address)

namespace Selector

def admin : Bytes4 := 0xf851a440
def implementation : Bytes4 := 0x5c60da1b
def changeAdmin : Bytes4 := 0x8f283970
def upgradeTo : Bytes4 := 0x3659cfe6
def upgradeToAndCall : Bytes4 := 0x4f1ef286
def initializeAdmin : Bytes4 := 0x7553ee32

end Selector

section Decoding

def selectorOf (data : Bytes) : Bytes4 := BitVec.ofNat 32 (decodeBE (data.take 4))

def nonPayable (value : Uint256) : Result Unit :=
  if value = 0 then .ok () else .error .empty

def argument {α : Type} (decoded : Option α) : Result α := decoded.elim (.error .empty) .ok

def addressAt (arguments : Bytes) (position : Nat) : Option Address :=
  (Abi.atomicAt arguments .address position).map fun word => word.val.setWidth 160

-- `bytes calldata`: what is behind the bytes is not looked at.
def calldataAt (arguments : Bytes) (position : Nat) : Option Bytes := do
  let offset ← Abi.wordAt arguments position
  let length ← Abi.wordAt arguments offset
  if offset + 32 + length ≤ arguments.length then
    some ((arguments.drop (offset + 32)).take length)
  else none

-- `none` where the calldata names no function of the proxy.
def decode (kind : Kind) (value : Uint256) (data : Bytes) : Result (Option Function) :=
  let selector := selectorOf data
  let arguments := data.drop 4
  if data.length < 4 then pure none
  else if selector = Selector.admin then do
    nonPayable value
    pure (some .admin)
  else if selector = Selector.implementation then do
    nonPayable value
    pure (some .implementation)
  else if selector = Selector.changeAdmin then do
    nonPayable value
    let newAdmin ← argument (addressAt arguments 0)
    pure (some (.changeAdmin newAdmin))
  else if selector = Selector.upgradeTo then do
    nonPayable value
    let newImplementation ← argument (addressAt arguments 0)
    pure (some (.upgradeTo newImplementation))
  else if selector = Selector.upgradeToAndCall then do
    let newImplementation ← argument (addressAt arguments 0)
    let data ← argument (calldataAt arguments 32)
    pure (some (.upgradeToAndCall newImplementation data))
  else if kind = .startrailProxyLUM ∧ selector = Selector.initializeAdmin then do
    nonPayable value
    let _proxyAdmin ← argument (addressAt arguments 0)
    pure (some (.initializeAdmin _proxyAdmin))
  else pure none

end Decoding

section Proxy

variable (code : Code) (message : Message) (storage : Storage)

def _implementation : Address := (storage IMPLEMENTATION_SLOT).setWidth 160

def _admin : Address := (storage ADMIN_SLOT).setWidth 160

def _setImplementation (newImplementation : Address) : Result Storage := do
  require ((code newImplementation).isSome = true)
    "Cannot set a proxy implementation to a non-contract address"
  pure (Function.update storage IMPLEMENTATION_SLOT (newImplementation.setWidth 256))

def _setAdmin (newAdmin : Address) : Storage :=
  Function.update storage ADMIN_SLOT (newAdmin.setWidth 256)

-- Where there is no code nothing happens.
def delegatecall (target : Address) : Execution Storage (Storage × Bytes) :=
  (code target).elim (pure (storage, [])) fun logic => logic message storage

-- `_willFallback` and `_delegate` in one.
def _fallback : Execution Storage (Storage × Bytes) := do
  require (message.sender ≠ _admin storage) "Cannot call fallback function from the proxy admin"
  delegatecall code message storage (_implementation storage)

def changeAdmin (newAdmin : Address) : Result Storage := do
  require (newAdmin ≠ 0) "Cannot change the admin of a proxy to the zero address"
  pure (_setAdmin storage newAdmin)

def upgradeToAndCall (newImplementation : Address) (data : Bytes) : Execution Storage Storage := do
  let storage ← _setImplementation code storage newImplementation
  let (storage, _) ← (delegatecall code { message with data } storage newImplementation).failWith
    .empty
  pure storage

def initializeAdmin (_proxyAdmin : Address) : Result Storage := do
  require (_admin storage = 0) "admin already initialized"
  pure (_setAdmin storage _proxyAdmin)

def ifAdmin (function : Execution Storage (Storage × Bytes)) :
    Execution Storage (Storage × Bytes) :=
  if message.sender = _admin storage then function else _fallback code message storage

def perform : Function → Execution Storage (Storage × Bytes)
  | .admin => ifAdmin code message storage (pure (storage, encodeAddress (_admin storage)))
  | .implementation =>
      ifAdmin code message storage (pure (storage, encodeAddress (_implementation storage)))
  | .changeAdmin newAdmin => ifAdmin code message storage do
      let storage ← changeAdmin storage newAdmin
      pure (storage, [])
  | .upgradeTo newImplementation => ifAdmin code message storage do
      let storage ← _setImplementation code storage newImplementation
      pure (storage, [])
  | .upgradeToAndCall newImplementation data => ifAdmin code message storage do
      let storage ← upgradeToAndCall code message storage newImplementation data
      pure (storage, [])
  | .initializeAdmin _proxyAdmin => do
      let storage ← initializeAdmin storage _proxyAdmin
      pure (storage, [])

def call (kind : Kind) : Execution Storage (Storage × Bytes) := do
  let function ← decode kind message.value message.data
  function.elim (_fallback code message storage) (perform code message storage)

end Proxy

/-- The constructors. -/
inductive Creation where
  | startrailProxy (_logic _admin : Address) (_data : Bytes)
  | startrailProxyLUM (_logic : Address) (_data : Bytes)

namespace Creation

def kind : Creation → Kind
  | .startrailProxy _ _ _ => .startrailProxy
  | .startrailProxyLUM _ _ => .startrailProxyLUM

def logic : Creation → Address
  | .startrailProxy _logic _ _ => _logic
  | .startrailProxyLUM _logic _ => _logic

def data : Creation → Bytes
  | .startrailProxy _ _ _data => _data
  | .startrailProxyLUM _ _data => _data

-- A `StartrailProxyLUM` gets its admin later.
def admin : Creation → Option Address
  | .startrailProxy _ _admin _ => some _admin
  | .startrailProxyLUM _ _ => none

section Constructor

variable (code : Code) (sender : Address) (value : Uint256) (storage : Storage)
  (creation : Creation)

def callLogic : Execution Storage Storage :=
  if creation.data.length > 0 then do
    let (storage, _) ← (delegatecall code ⟨sender, value, creation.data⟩ storage
      creation.logic).failWith .empty
    pure storage
  else pure storage

-- The source's `constructor`.
def construct : Execution Storage Storage := do
  let storage ← _setImplementation code storage creation.logic
  let storage ← callLogic code sender value storage creation
  pure (creation.admin.elim storage (_setAdmin storage))

end Constructor

end Creation

/-- The functions of `ProxyAdmin` that change anything. -/
inductive AdminCall where
  | renounceOwnership
  | transferOwnership (newOwner : Address)
  | changeProxyAdmin (proxy newAdmin : Address)
  | upgrade (proxy implementation : Address)
  | upgradeAndCall (proxy implementation : Address) (data : Bytes)

inductive Target where
  | create (address : Address) (creation : Creation)
  | proxyAdmin (call : AdminCall)
  | proxy (address : Address) (data : Bytes)

/-- A call from elsewhere, with the code that there is at that moment. -/
structure Transaction where
  code : Code
  sender : Address
  value : Uint256
  target : Target

/-- The owner of the `ProxyAdmin`, and the proxies by their addresses. An address is taken once the
creation of a contract there has begun. -/
structure State where
  _owner : Address
  kinds : Address → Option Kind
  taken : Address → Bool
  storage : Address → Storage

theorem get_put_storage (address : Address) (whole : State) (storage : Storage) :
    Function.update whole.storage address storage address = storage :=
  Function.update_self _ _ _

def proxyPart (address : Address) : Component State Storage where
  get whole := whole.storage address
  put whole storage := { whole with storage := Function.update whole.storage address storage }
  get_put := get_put_storage address

def serve (query : Query) (whole : State) : Execution State (State × Reply) :=
  Outcome.external whole query

section System

variable (proxyAdmin : Address) (code : Code) (sender : Address) (value : Uint256)

def callProxy (kind : Kind) (address : Address) (data : Bytes) (whole : State) :
    Execution State State := do
  let (whole, storage, _) ← (call code ⟨sender, value, data⟩ (whole.storage address) kind).plug
    (proxyPart address) serve whole
  pure ((proxyPart address).put whole storage)

-- A call of a contract with whatever code it has.
def callOther (target : Address) (data : Bytes) (whole : State) : Execution State State :=
  if target = proxyAdmin ∨ (code target).isNone = true then .revert .empty
  else do
    let (whole, reply) ← serve ⟨target, value, data⟩ whole
    if reply.success then pure whole else .revert (.bubbled reply.returndata)

def onlyOwner (whole : State) : Result Unit :=
  require (sender = whole._owner) "msg.sender is not the owner"

theorem holds_address (account : Address) :
    Abi.AtomicType.address.Holds (account.setWidth 256) := by
  have small : account.toNat < 256 ^ 20 := account.isLt
  simp only [Abi.AtomicType.Holds, BitVec.toNat_setWidth]
  exact lt_of_le_of_lt (Nat.mod_le _ _) small

def encodedAddress (account : Address) : Abi.Argument :=
  ⟨.atomic .address, account.setWidth 256, holds_address account⟩

def encodedBytes (data : Bytes) : Abi.Argument := ⟨.bytes, data⟩

/-- What a function of the `ProxyAdmin` asks of a proxy. -/
def AdminCall.asks : AdminCall → Option (Address × Function)
  | .changeProxyAdmin proxy newAdmin => some (proxy, .changeAdmin newAdmin)
  | .upgrade proxy implementation => some (proxy, .upgradeTo implementation)
  | .upgradeAndCall proxy implementation data =>
      some (proxy, .upgradeToAndCall implementation data)
  | _ => none

-- The high-level call of `AdminUpgradeabilityProxy`.
def ask (proxy : Address) (data : Bytes) (whole : State) : Execution State State :=
  (whole.kinds proxy).elim (callOther proxyAdmin code value proxy data whole)
    fun kind => callProxy code proxyAdmin value kind proxy data whole

def administer (whole : State) : AdminCall → Execution State State
  | .renounceOwnership => do
      nonPayable value
      onlyOwner sender whole
      pure { whole with _owner := 0 }
  | .transferOwnership newOwner => do
      nonPayable value
      onlyOwner sender whole
      require (newOwner ≠ 0) "Reject transferOwnership to zero address"
      pure { whole with _owner := newOwner }
  | .changeProxyAdmin proxy newAdmin => do
      nonPayable value
      onlyOwner sender whole
      ask proxyAdmin code 0 proxy
        (packWord Selector.changeAdmin ++ Abi.encode [encodedAddress newAdmin]) whole
  | .upgrade proxy implementation => do
      nonPayable value
      onlyOwner sender whole
      ask proxyAdmin code 0 proxy
        (packWord Selector.upgradeTo ++ Abi.encode [encodedAddress implementation]) whole
  | .upgradeAndCall proxy implementation data => do
      onlyOwner sender whole
      ask proxyAdmin code value proxy (packWord Selector.upgradeToAndCall ++
        Abi.encode [encodedAddress implementation, encodedBytes data]) whole

def State.begun (whole : State) (address : Address) : State :=
  { whole with taken := Function.update whole.taken address true }

def State.created (whole : State) (address : Address) (kind : Kind) (storage : Storage) : State :=
  { (proxyPart address).put whole storage with
    kinds := Function.update whole.kinds address (some kind) }

-- There is no code at the address before the constructor has ended.
def create (address : Address) (creation : Creation) (whole : State) : Execution State State :=
  if whole.taken address then .revert .empty
  else do
    let (whole, storage) ← (Creation.construct code sender value (fun _ => 0) creation).aside serve
      (whole.begun address)
    pure (whole.created address creation.kind storage)

end System

def entry (proxyAdmin : Address) (transaction : Transaction) (whole : State) :
    Execution State State :=
  match transaction.target with
  | .create address creation =>
      create transaction.code transaction.sender transaction.value address creation whole
  | .proxyAdmin call =>
      administer proxyAdmin transaction.code transaction.sender transaction.value whole call
  | .proxy address data =>
      (whole.kinds address).elim (pure whole) fun kind =>
        callProxy transaction.code transaction.sender transaction.value kind address data whole

/-- The `ProxyAdmin` has just been created, by its owner. -/
def State.deployed (proxyAdmin owner : Address) : State :=
  ⟨owner, fun _ => none, fun address => decide (address = proxyAdmin), fun _ _ => 0⟩

end Startrail.Proxies
