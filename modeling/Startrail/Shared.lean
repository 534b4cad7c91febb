import Startrail.Evm
import Startrail.Library.CommitReveal

/-!
Code that several contracts share: the keys of the name registry
(`name/Contracts.sol`, `name/NameRegistry.sol`), the sender of a forwarded call
(`metaTx/eip2771/EIP2771BaseRecipient.sol`) and the reader of concatenated
signatures (`common/SignatureDecoder.sol`). A `World` holds what static calls to
other contracts answer while a contract runs.
-/

namespace Startrail

def ADMINISTRATOR : Uint8 := 1
def LICENSED_USER_MANAGER : Uint8 := 3
def STARTRAIL_REGISTRY : Uint8 := 4
def BULK_ISSUE : Uint8 := 5
def BULK_TRANSFER : Uint8 := 7
def BULK : Uint8 := 8

-- The storage and the modifiers of `Initializable` (OpenZeppelin 4.9.6).
structure Initializable where
  _initialized : Uint8
  _initializing : Bool

def Initializable.initializer (isContract : Bool) (storage : Initializable) :
    Result Initializable := do
  require ((storage._initializing = false ∧ storage._initialized < 1) ∨
      (isContract = false ∧ storage._initialized = 1))
    "Initializable: contract is already initialized"
  pure ⟨1, true⟩

def Initializable.reinitializer (version : Uint8) (storage : Initializable) :
    Result Initializable := do
  require (storage._initializing = false ∧ storage._initialized < version)
    "Initializable: contract is already initialized"
  pure ⟨version, true⟩

def Initializable.finish (storage : Initializable) : Initializable :=
  { storage with _initializing := false }

structure NameRegistry where
  _addressStorage : Uint8 → Address

def NameRegistry.get (registry : NameRegistry) (key : Uint8) : Address :=
  registry._addressStorage key

def NameRegistry.administrator (registry : NameRegistry) : Address :=
  registry.get ADMINISTRATOR

structure FeatureRegistry where
  getNameRegistry : Address
  getEIP2771TrustedForwarder : Address

-- The part of the registry that the collection features read (IStartrailRegistrySubset).
structure StartrailRegistrySubset where
  getCustomHistoryNameById : Uint256 → Bytes
  maxCombinedHistoryRecords : Uint256

structure World where
  nameRegistry : Address → NameRegistry
  featureRegistry : Address → FeatureRegistry
  startrailRegistry : Address → StartrailRegistrySubset
  isActiveWallet : Address → Address → Bool
  collectionRegistry : Address → Address → Bool
  codeLength : Address → Nat

/-- A world where one name registry knows some contracts and nothing else is there. -/
def World.named (_addressStorage : List (Uint8 × Address)) : World where
  nameRegistry _ := ⟨fun key => (_addressStorage.lookup key).getD 0⟩
  featureRegistry _ := ⟨0, 0⟩
  startrailRegistry _ := ⟨fun _ => [], 0⟩
  isActiveWallet _ _ := false
  collectionRegistry _ _ := false
  codeLength _ := 0

/-- What `getSRRCommitment` answers, the struct of `LibApproveTransferStorage`. -/
structure Approval where
  commitment : Bytes32
  historyMetadataHash : Bytes
  customHistoryId : Uint256
deriving DecidableEq

def Approval.none : Approval := ⟨0, [], 0⟩

def tokenScheme : Scheme Address Approval Bytes32 := ⟨0, Approval.none, Approval.commitment⟩

-- `IDGeneratorV3.generate` for a CID.
def generate (evm : Evm) (metadataCID : Bytes) (artistAddress : Address) : Uint256 :=
  BitVec.ofNat 256 ((evm.keccak256 (metadataCID ++ packWord artistAddress)).toNat % 10 ^ 12)

/-- `EIP2771BaseRecipient.msgSender`. -/
def msgSender (trustedForwarder : Address) (msg : Msg) : Address :=
  if 24 ≤ msg.data.length ∧ msg.sender = trustedForwarder then
    addressOf (lastBytes 20 msg.data)
  else msg.sender

theorem msgSender_forwarded {trustedForwarder : Address} {calldata : Bytes} (sender : Address)
    (long : 4 ≤ calldata.length) :
    msgSender trustedForwarder ⟨trustedForwarder, calldata ++ packWord sender⟩ = sender := by
  have size : 24 ≤ (calldata ++ packWord sender).length := by
    simp only [List.length_append, length_packWord]
    omega
  unfold msgSender
  rw [if_pos ⟨size, rfl⟩, lastBytes_append _ _ (by simp), addressOf_packWord]

/-- `SignatureDecoder.signatureSplit`: the words `r` and `s` and the byte `v` of the 65-byte
group at a position, read from memory without a bounds check. -/
def signatureSplit (behind : Nat → UInt8) (signatures : Bytes) (pos : Nat) :
    Uint8 × Bytes32 × Bytes32 :=
  let signaturePos := 0x41 * pos
  let r := memoryWord behind signatures signaturePos
  let s := memoryWord behind signatures (signaturePos + 0x20)
  let v := (memoryWord behind signatures (signaturePos + 0x21)).setWidth 8
  (v, r, s)

end Startrail
