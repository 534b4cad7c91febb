import Startrail.Collection.Core
import Startrail.Library.Hex
import Startrail.LicensedUser.Core
import Startrail.MetaTx.Authority
import Startrail.Registry.Core

/-!
The two ends of a forwarded call. The forwarder appends the sender of a request to the call data;
`EIP2771BaseRecipient.msgSender`, `LibEIP2771.msgSender` and `OwnerManager.isFromWallet` each read
it back with `shr(96, calldataload(sub(calldatasize(), 20)))`. A collection gets the call through
the fallback of `collection/CollectionProxy.sol`, which hands all of it on.
-/

namespace Startrail

section Calldata

-- Behind the call data there are zeros.
def calldataload (calldata : Bytes) (offset : Nat) : Uint256 :=
  wordOf ((calldata.drop offset ++ List.replicate 32 0).take 32)

-- `shr(96, calldataload(sub(calldatasize(), 20)))`: its users check the size first.
def appendedSender (calldata : Bytes) : Address :=
  (calldataload calldata (calldata.length - 20) >>> 96).setWidth 160

def selectorOf (calldata : Bytes) : Bytes4 :=
  (calldataload calldata 0 >>> 224).setWidth 32

theorem decodeBE_replicate_zero (count : Nat) : decodeBE (List.replicate count 0) = 0 := by
  induction count with
  | zero => rfl
  | succ count ih =>
      rw [List.replicate_succ, decodeBE, ih]
      simp

theorem appendedSender_eq {calldata : Bytes} (long : 20 ≤ calldata.length) :
    appendedSender calldata = addressOf (lastBytes 20 calldata) := by
  have size : (lastBytes 20 calldata).length = 20 := by
    rw [lastBytes, List.length_drop]
    omega
  have word : calldataload calldata (calldata.length - 20) =
      wordOf (lastBytes 20 calldata ++ List.replicate 12 0) := by
    unfold calldataload
    rw [← lastBytes, List.take_append, size, List.take_of_length_le (by omega),
      List.take_replicate]
    rfl
  have bound := decodeBE_lt (lastBytes 20 calldata)
  rw [size] at bound
  have fits : decodeBE (lastBytes 20 calldata) * 256 ^ 12 < 2 ^ 256 := by omega
  apply BitVec.eq_of_toNat_eq
  rw [appendedSender, word, wordOf, decodeBE_append, List.length_replicate, decodeBE_replicate_zero,
    addressOf, BitVec.toNat_setWidth, BitVec.toNat_ushiftRight, BitVec.toNat_ofNat,
    BitVec.toNat_ofNat, Nat.add_zero, Nat.shiftRight_eq_div_pow, Nat.mod_eq_of_lt fits]
  congr 1
  exact Nat.mul_div_cancel _ (by norm_num)

end Calldata

def EIP2771BaseRecipient.msgSender (trustedForwarder : Address) (msg : Msg) : Address :=
  if msg.data.length ≥ 24 ∧ msg.sender = trustedForwarder then appendedSender msg.data
  else msg.sender

theorem EIP2771BaseRecipient.msgSender_eq (trustedForwarder : Address) (msg : Msg) :
    EIP2771BaseRecipient.msgSender trustedForwarder msg =
      Startrail.msgSender trustedForwarder msg := by
  unfold EIP2771BaseRecipient.msgSender Startrail.msgSender
  by_cases forwarded : 24 ≤ msg.data.length ∧ msg.sender = trustedForwarder
  · have long : 20 ≤ msg.data.length := by omega
    rw [if_pos forwarded, if_pos forwarded, appendedSender_eq long]
  · rw [if_neg forwarded, if_neg forwarded]

def LibEIP2771.msgSender (world : World) (featureRegistryAddress : Address) (msg : Msg) : Address :=
  if msg.data.length ≥ 24 ∧
      msg.sender = (world.featureRegistry featureRegistryAddress).getEIP2771TrustedForwarder then
    appendedSender msg.data
  else msg.sender

theorem LibEIP2771.msgSender_eq (world : World) (msg : Msg) (state : Collection.State) :
    LibEIP2771.msgSender world state.featureRegistry msg = Collection.sender world msg state :=
  EIP2771BaseRecipient.msgSender_eq _ msg

def OwnerManager.isFromWallet (msg : Msg) (state : LicensedUserManager.State)
    (_wallet : Address) : String :=
  if ¬LicensedUserManager.isTrustedForwarder state msg.sender then
    "Wallet function can only be called from the trusted forwarder"
  else if msg.data.length < 24 then
    "Wallet address must be appended to calldata (EIP2771 forward)"
  else if appendedSender msg.data ≠ _wallet then
    "Sending wallet attempted to modify a different wallet"
  else ""

theorem OwnerManager.isFromWallet_eq (msg : Msg) (state : LicensedUserManager.State)
    (_wallet : Address) : OwnerManager.isFromWallet msg state _wallet =
      LicensedUserManager.isFromWallet msg state _wallet := by
  unfold OwnerManager.isFromWallet LicensedUserManager.isFromWallet
  by_cases short : msg.data.length < 24
  · rw [if_pos short, if_pos short]
  · have long : 20 ≤ msg.data.length := by omega
    rw [appendedSender_eq long]

theorem OwnerManager.isFromWallet_accepts {msg : Msg} {state : LicensedUserManager.State}
    {_wallet : Address} : OwnerManager.isFromWallet msg state _wallet = "" ↔
      msg.sender = state.trustedForwarder ∧ 24 ≤ msg.data.length ∧
        appendedSender msg.data = _wallet := by
  unfold OwnerManager.isFromWallet LicensedUserManager.isTrustedForwarder
  split
  · rename_i other
    simp [other]
  · rename_i forwarder
    split
    · rename_i short
      simp [show ¬24 ≤ msg.data.length by omega]
    · rename_i long
      rw [not_not] at forwarder
      split <;> rename_i wallet
      · simp [wallet]
      · simp [forwarder, not_not.mp wallet, Nat.le_of_not_lt long]

namespace CollectionProxy

def SELECTOR_SUPPORTS_INTERFACE : Bytes4 := 0x01ffc9a7

/-- What the fallback makes of a call: a question to the feature registry, or the code of an
implementation run on a message. -/
inductive Handling where
  | getSupportedInterface (interfaceId : Bytes4)
  | delegatecall (implementation : Address) (msg : Msg)
deriving DecidableEq

-- `abi.decode(msg.data[4:], (bytes4))`: one word with nothing behind the first four bytes.
def staticcallSupportsInterfaceOnFeatureRegistry (msg : Msg) : Result Handling :=
  let word := wordOf (msg.data.extract 4 36)
  if msg.data.length < 36 ∨ word.setWidth 224 ≠ 0 then .error .empty
  else .ok (.getSupportedInterface ((word >>> 224).setWidth 32))

/-- `facetAddress` is what the feature registry answers for a selector, if the call succeeds. -/
def _getImplementation (facetAddress : Bytes4 → Option Address) (msg : Msg) : Result Address :=
  match facetAddress (selectorOf msg.data) with
  | some implementationAddress => .ok implementationAddress
  | none => .error (.custom "ImplementationAddressNotFound")

def handleFallback (world : World) (facetAddress : Bytes4 → Option Address) (msg : Msg) :
    Result Handling := do
  let implementation ← _getImplementation facetAddress msg
  require (world.codeLength implementation > 0) "Proxy: implementation must be contract"
  pure (.delegatecall implementation msg)

def fallback (world : World) (facetAddress : Bytes4 → Option Address) (msg : Msg) :
    Result Handling :=
  if selectorOf msg.data = SELECTOR_SUPPORTS_INTERFACE then
    staticcallSupportsInterfaceOnFeatureRegistry msg
  else handleFallback world facetAddress msg

theorem fallback_delegates {world : World} {facetAddress : Bytes4 → Option Address}
    {msg inner : Msg} {implementation : Address}
    (handled : fallback world facetAddress msg = .ok (.delegatecall implementation inner)) :
    inner = msg := by
  unfold fallback at handled
  split at handled
  · simp only [staticcallSupportsInterfaceOnFeatureRegistry] at handled
    split at handled <;> cases handled
  · simp only [handleFallback, bind_eq_ok, pure_eq_ok, Handling.delegatecall.injEq] at handled
    obtain ⟨_, _, _, _, _, same⟩ := handled
    exact same.symm

theorem fallback_known {world : World} {facetAddress : Bytes4 → Option Address} {msg : Msg}
    {implementation : Address} (ours : selectorOf msg.data ≠ SELECTOR_SUPPORTS_INTERFACE)
    (known : facetAddress (selectorOf msg.data) = some implementation)
    (deployed : world.codeLength implementation > 0) :
    fallback world facetAddress msg = .ok (.delegatecall implementation msg) := by
  have found : _getImplementation facetAddress msg = .ok implementation := by
    rw [_getImplementation, known]
  rw [fallback, if_neg ours]
  simp only [handleFallback, bind_eq_ok, pure_eq_ok, require_eq_ok]
  exact ⟨implementation, found, (), deployed, rfl⟩

end CollectionProxy

/-- All three readers find this sender behind the call data of the forwarder. -/
structure Recovered (forwarder sender : Address) (calldata : Bytes) : Prop where
  recipient : EIP2771BaseRecipient.msgSender forwarder ⟨forwarder, calldata⟩ = sender
  collection : ∀ (world : World) (facetAddress : Bytes4 → Option Address)
    (featureRegistry implementation : Address) (msg : Msg),
    (world.featureRegistry featureRegistry).getEIP2771TrustedForwarder = forwarder →
    CollectionProxy.fallback world facetAddress ⟨forwarder, calldata⟩ =
      .ok (.delegatecall implementation msg) →
    LibEIP2771.msgSender world featureRegistry msg = sender
  wallet : ∀ (state : LicensedUserManager.State) (_wallet : Address),
    state.trustedForwarder = forwarder →
    (OwnerManager.isFromWallet ⟨forwarder, calldata⟩ state _wallet = "" ↔ _wallet = sender)

structure Unforwarded (forwarder : Address) (msg : Msg) : Prop where
  recipient : EIP2771BaseRecipient.msgSender forwarder msg = msg.sender
  collection : ∀ (world : World) (facetAddress : Bytes4 → Option Address)
    (featureRegistry implementation : Address) (inner : Msg),
    (world.featureRegistry featureRegistry).getEIP2771TrustedForwarder = forwarder →
    CollectionProxy.fallback world facetAddress msg = .ok (.delegatecall implementation inner) →
    LibEIP2771.msgSender world featureRegistry inner = msg.sender
  wallet : ∀ (state : LicensedUserManager.State) (_wallet : Address),
    state.trustedForwarder = forwarder → OwnerManager.isFromWallet msg state _wallet ≠ ""

theorem Recovered.of_append (forwarder sender : Address) {calldata : Bytes}
    (long : 4 ≤ calldata.length) : Recovered forwarder sender (calldata ++ packWord sender) := by
  have size : 24 ≤ (calldata ++ packWord sender).length := by
    rw [List.length_append, length_packWord]
    omega
  have read : appendedSender (calldata ++ packWord sender) = sender := by
    rw [appendedSender_eq (by omega), lastBytes_append _ _ (by simp), addressOf_packWord]
  constructor
  · rw [EIP2771BaseRecipient.msgSender, if_pos ⟨size, rfl⟩, read]
  · intro world facetAddress featureRegistry implementation msg trusted handled
    rw [CollectionProxy.fallback_delegates handled, LibEIP2771.msgSender,
      if_pos ⟨size, trusted.symm⟩, read]
  · intro state _wallet trusted
    rw [OwnerManager.isFromWallet_accepts, trusted, read]
    exact ⟨fun accepted => accepted.2.2.symm, fun same => ⟨rfl, size, same.symm⟩⟩

theorem Unforwarded.of_caller {forwarder : Address} {msg : Msg} (other : msg.sender ≠ forwarder) :
    Unforwarded forwarder msg := by
  constructor
  · rw [EIP2771BaseRecipient.msgSender, if_neg (fun forwarded => other forwarded.2)]
  · intro world facetAddress featureRegistry implementation inner trusted handled
    rw [CollectionProxy.fallback_delegates handled, LibEIP2771.msgSender, trusted,
      if_neg (fun forwarded => other forwarded.2)]
  · intro state _wallet trusted accepted
    exact other ((OwnerManager.isFromWallet_accepts.mp accepted).1.trans trusted)

namespace MetaTxForwarder

theorem callDataOf_eq {state : State} {_request : ExecutionRequest}
    (supplied : _request.callData = [] ∨ 4 ≤ _request.callData.length) :
    ∃ calldata, 4 ≤ calldata.length ∧
      callDataOf state _request = calldata ++ packWord _request.from_ := by
  refine ⟨_, ?_, rfl⟩
  rcases supplied with absent | long
  · rw [absent, List.length_nil, if_neg (lt_irrefl 0), List.length_append, length_packWord]
    omega
  · rw [if_pos (by omega)]
    exact long

/-- Every reader finds the sender of an accepted request behind the call that the forwarder makes
for it, and no other caller can name a sender. -/
theorem sender_recovered :
    (∀ (deployment : Deployment) (world : World) (behind : Nat → UInt8) (state later : State)
      (_request : ExecutionRequest) (_signatures : Bytes) (isEOASignature : Bool)
      (_to : Address) (_data : Bytes),
      (executeTransactionInternal deployment world behind state _request _signatures
        isEOASignature).Issues later (.call _to _data) →
      (_request.callData = [] ∨ 4 ≤ _request.callData.length) →
      Recovered deployment.this _request.from_ _data) ∧
    ∀ (forwarder : Address) (msg : Msg), msg.sender ≠ forwarder → Unforwarded forwarder msg := by
  refine ⟨?_, fun forwarder msg => Unforwarded.of_caller⟩
  intro deployment world behind state later _request _signatures isEOASignature _to _data
    forwards supplied
  obtain ⟨_, _, _, _, _, rfl⟩ := executeTransactionInternal_forwards forwards
  obtain ⟨calldata, long, shape⟩ := @callDataOf_eq later _request supplied
  rw [shape]
  exact Recovered.of_append deployment.this _request.from_ long

-- A world whose feature registry trusts the forwarder, with code at every address.
def facetWorld : World :=
  { World.named [] with
    featureRegistry := fun _ => ⟨0xfac, forwarderAddress⟩
    codeLength := fun _ => 1 }

set_option maxRecDepth 8000 in
theorem sender_recovered_rename :
    Recovered forwarderAddress renameRequest.from_
        (renameRequest.callData ++ packWord renameRequest.from_) ∧
      (∃ msg, CollectionProxy.fallback facetWorld (fun _ => some 0xfacade)
          ⟨forwarderAddress, renameRequest.callData ++ packWord renameRequest.from_⟩ =
            .ok (.delegatecall 0xfacade msg) ∧
        LibEIP2771.msgSender facetWorld 0xfea msg = renameRequest.from_) ∧
      Unforwarded forwarderAddress ⟨administratorAddress, packWord renameRequest.from_⟩ := by
  obtain ⟨later, issues⟩ := renameRequest_issues
  obtain ⟨_, _, forwards⟩ := Outcome.Issues.of_lift_bind issues
  have recovered : Recovered forwarderAddress renameRequest.from_
      (renameRequest.callData ++ packWord renameRequest.from_) :=
    sender_recovered.1 requestDeployment requestWorld (fun _ => 0)
      registeredConfig.now.state later renameRequest renameSignature true _ _ forwards
      (Or.inr (by decide))
  have delegated := @CollectionProxy.fallback_known facetWorld (fun _ => some 0xfacade)
    ⟨forwarderAddress, renameRequest.callData ++ packWord renameRequest.from_⟩ 0xfacade
    (by decide) rfl (Nat.one_pos)
  refine ⟨recovered, ⟨_, delegated, ?_⟩, sender_recovered.2 forwarderAddress _ (by decide)⟩
  exact recovered.collection facetWorld _ 0xfea 0xfacade _ rfl delegated

end MetaTxForwarder

end Startrail
