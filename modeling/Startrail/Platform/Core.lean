import Startrail.Bulk.Core
import Startrail.Library.Linking
import Startrail.LicensedUser.Core
import Startrail.MetaTx.Core
import Startrail.Registry.Core

/-!
The contracts as one system: `name/NameRegistry.sol`, the forwarder, the licensed
user manager, the registry and the bulk contract, each at its address. What one of
them asks another runs the code of the other; what they ask anyone else leaves the
system. Everybody else may call any of them with any calldata, also while such a
call waits, and `elsewhere` is what the rest of the chain answers.
-/

namespace Startrail.Names

structure State where
  initializable : Initializable
  registry : NameRegistry

inductive Call where
  | initializeV1 (_administrator : Address)
  | set (key : Uint8) (value : Address)

def onlyAdministrator (msg : Msg) (state : State) : Result Unit :=
  require (state.registry.administrator = msg.sender) "The sender is not the Administrator"

def State.store (state : State) (key : Uint8) (value : Address) : State :=
  { state with registry := ⟨Function.update state.registry._addressStorage key value⟩ }

-- The source's `initialize`, a reserved word here.
def initializeV1 (isContract : Bool) (state : State) (_administrator : Address) :
    Result State := do
  let storage ← state.initializable.initializer isContract
  pure { state.store ADMINISTRATOR _administrator with initializable := storage.finish }

def set (msg : Msg) (state : State) (key : Uint8) (value : Address) : Result State := do
  onlyAdministrator msg state
  pure (state.store key value)

def execute (msg : Msg) (call : Call) (state : State) : Result State :=
  match call with
  | .initializeV1 _administrator => initializeV1 true state _administrator
  | .set key value => set msg state key value

end Startrail.Names

namespace Startrail.Platform

inductive Call where
  | names (call : Names.Call)
  | forwarder (call : MetaTxForwarder.Call)
  | manager (call : LicensedUserManager.Call)
  | registry (call : Registry.Call)
  | bulk (call : Bulk.Call)
  | elsewhere (world : World)

/-- Where the contracts are, what code decodes the calldata of each, how the bulk contract encodes
its calls and how a revert is encoded. -/
structure Deployment where
  evm : Evm
  nameRegistry : Address
  forwarder : Address
  manager : Address
  registry : Address
  bulk : Address
  beaconProxyCreationCode : Bytes
  namesDispatch : Bytes → Option Names.Call
  forwarderDispatch : Bytes → Option MetaTxForwarder.Call
  managerDispatch : Bytes → Option LicensedUserManager.Call
  registryDispatch : Bytes → Option Registry.Call
  bulkDispatch : Bytes → Option Bulk.Call
  bulkCalldata : Bulk.Query → Bytes
  returndataOf : Revert → Bytes

structure State where
  names : Names.State
  forwarder : MetaTxForwarder.State
  manager : LicensedUserManager.State
  registry : Registry.State
  bulk : Bulk.State
  elsewhere : World

/-- The calls that leave the system. -/
inductive Query where
  | forwarder (query : MetaTxForwarder.Query)
  | registry (query : Registry.Query)
  | bulk (query : Bulk.Query)

abbrev Execution (α : Type) := Outcome Revert State Query Reply α

def forwarderPart : Component State MetaTxForwarder.State :=
  ⟨State.forwarder, fun whole forwarder => { whole with forwarder }, fun _ _ => rfl⟩

def registryPart : Component State Registry.State :=
  ⟨State.registry, fun whole registry => { whole with registry }, fun _ _ => rfl⟩

def bulkPart : Component State Bulk.State :=
  ⟨State.bulk, fun whole bulk => { whole with bulk }, fun _ _ => rfl⟩

section Deployments

variable (deployment : Deployment)

def Deployment.contracts : List Address :=
  [deployment.nameRegistry, deployment.forwarder, deployment.manager, deployment.registry,
    deployment.bulk]

def forwarderDeployment : MetaTxForwarder.Deployment := ⟨deployment.evm, deployment.forwarder⟩

def managerDeployment : LicensedUserManager.Deployment :=
  ⟨deployment.evm, deployment.manager, deployment.beaconProxyCreationCode⟩

def registryDeployment : Registry.Deployment :=
  ⟨deployment.evm, deployment.registry, deployment.registryDispatch⟩

def dispatch (to_ : Address) (data : Bytes) : Option Call :=
  if to_ = deployment.nameRegistry then (deployment.namesDispatch data).map .names
  else if to_ = deployment.forwarder then (deployment.forwarderDispatch data).map .forwarder
  else if to_ = deployment.manager then (deployment.managerDispatch data).map .manager
  else if to_ = deployment.registry then (deployment.registryDispatch data).map .registry
  else if to_ = deployment.bulk then (deployment.bulkDispatch data).map .bulk
  else none

/-- What static calls answer. -/
def worldOf (whole : State) : World where
  nameRegistry address :=
    if address = deployment.nameRegistry then whole.names.registry
    else whole.elsewhere.nameRegistry address
  featureRegistry := whole.elsewhere.featureRegistry
  startrailRegistry address :=
    if address = deployment.registry then
      ⟨Registry.getCustomHistoryNameById whole.registry, whole.registry.maxCombinedHistoryRecords⟩
    else whole.elsewhere.startrailRegistry address
  isActiveWallet address wallet :=
    if address = deployment.manager then LicensedUserManager.isActiveWallet whole.manager wallet
    else whole.elsewhere.isActiveWallet address wallet
  collectionRegistry := whole.elsewhere.collectionRegistry
  codeLength address :=
    whole.elsewhere.codeLength address + if deployment.contracts.contains address then 1 else 0

-- A call of a function that a contract of the system does not have, or that failed.
def refused : Reply := ⟨false, []⟩

-- None of the contracts receives tokens.
def serveRegistry (query : Registry.Query) (whole : State) : Execution (State × Reply) :=
  if deployment.contracts.contains query.target then pure (whole, refused)
  else Outcome.external whole (.registry query)

def bulkMsg (query : Bulk.Query) : Msg := ⟨deployment.bulk, deployment.bulkCalldata query⟩

/-- The functions of the registry for the bulk contract. -/
def registryFromBulk (query : Bulk.Query) (whole : State) : Execution (State × Reply) :=
  let world := worldOf deployment whole
  let msg := bulkMsg deployment query
  match query with
  | .createSRRFromBulk _ isPrimaryIssuer artistAddress metadataCID issuerAddress
      lockExternalTransfer to_ royaltyReceiver royaltyBasisPoints => do
      let (registry, tokenId) ← Registry.createSRRFromBulk (registryDeployment deployment) world msg
        whole.registry isPrimaryIssuer artistAddress metadataCID issuerAddress lockExternalTransfer
        to_ royaltyReceiver royaltyBasisPoints
      pure ({ whole with registry }, ⟨true, packWord tokenId⟩)
  | .approveSRRByCommitmentFromBulk _ signer tokenId commitment historyMetadataHash
      customHistoryId => do
      let registry ← Registry.approveSRRByCommitmentFromBulk world msg whole.registry signer tokenId
        commitment historyMetadataHash customHistoryId
      pure ({ whole with registry }, ⟨true, []⟩)
  | .transferFromWithProvenanceFromBulk _ signer to_ tokenId historyMetadataHash customHistoryId
      isIntermediary => do
      let (whole, registry) ← (Registry.transferFromWithProvenanceFromBulk
        (registryDeployment deployment) world msg whole.registry signer to_ tokenId
        historyMetadataHash customHistoryId isIntermediary).plug registryPart
          (serveRegistry deployment) whole
      pure ({ whole with registry }, ⟨true, []⟩)

def targetOfQuery : Bulk.Query → Address
  | .createSRRFromBulk target _ _ _ _ _ _ _ _ => target
  | .approveSRRByCommitmentFromBulk target _ _ _ _ _ => target
  | .transferFromWithProvenanceFromBulk target _ _ _ _ _ _ => target

def replyToBulk (query : Bulk.Query) (whole : State) : Execution (State × Reply) :=
  if targetOfQuery query = deployment.registry then
    (registryFromBulk deployment query whole).attempt whole fun reason =>
      ⟨false, deployment.returndataOf reason⟩
  else if deployment.contracts.contains (targetOfQuery query) then pure (whole, refused)
  else Outcome.external whole (.bulk query)

def serveBulk (query : Bulk.Query) (whole : State) : Execution (State × Bulk.Answer) := do
  let (whole, reply) ← replyToBulk deployment query whole
  pure (whole, ⟨reply, worldOf deployment whole⟩)

def signatureSetReply (behind : Nat → UInt8) (whole : State) (_walletAddress : Address)
    (_hash : Bytes32) (_signatures : Bytes) : Reply :=
  match LicensedUserManager.isValidSignatureSet deployment.evm behind whole.manager _walletAddress
      _hash _signatures with
  | .ok magic => ⟨true, packWord magic ++ List.replicate 28 0⟩
  | .error reason => ⟨false, deployment.returndataOf reason⟩

-- `deliver` runs a call of a contract of the system; what it returns is not looked at.
def delivered (deliver : Msg → Call → State → Execution State) (_to : Address) (_data : Bytes)
    (whole : State) : Execution (State × Reply) :=
  if deployment.contracts.contains _to then
    match dispatch deployment _to _data with
    | none => pure (whole, refused)
    | some call =>
        Outcome.attempt whole (fun reason => ⟨false, deployment.returndataOf reason⟩) (do
          let whole ← deliver ⟨deployment.forwarder, _data⟩ call whole
          pure (whole, ⟨true, []⟩))
  else Outcome.external whole (.forwarder (.call _to _data))

def replyToForwarder (behind : Nat → UInt8) (deliver : Msg → Call → State → Execution State)
    (query : MetaTxForwarder.Query) (whole : State) : Execution (State × Reply) :=
  match query with
  | .isValidSignatureSet manager _walletAddress _hash _signatures =>
      if manager = deployment.manager then
        pure (whole, signatureSetReply deployment behind whole _walletAddress _hash _signatures)
      else if deployment.contracts.contains manager then pure (whole, refused)
      else Outcome.external whole (.forwarder query)
  | .call _to _data => delivered deployment deliver _to _data whole

def serveForwarder (behind : Nat → UInt8) (deliver : Msg → Call → State → Execution State)
    (query : MetaTxForwarder.Query) (whole : State) :
    Execution (State × MetaTxForwarder.Answer) := do
  let (whole, reply) ← replyToForwarder deployment behind deliver query whole
  pure (whole, ⟨reply, worldOf deployment whole⟩)

def run (behind : Nat → UInt8) (depth : Nat) (deliver : Msg → Call → State → Execution State)
    (msg : Msg) (call : Call) (whole : State) : Execution State :=
  let world := worldOf deployment whole
  match call with
  | .names call => do
      let names ← Names.execute msg call whole.names
      pure { whole with names }
  | .forwarder call => do
      let (whole, forwarder) ← (MetaTxForwarder.entry (forwarderDeployment deployment)
        ⟨world, msg, behind, call⟩ whole.forwarder).plug forwarderPart
          (serveForwarder deployment behind deliver) whole
      pure { whole with forwarder }
  | .manager call => do
      let manager ← LicensedUserManager.execute (managerDeployment deployment) ⟨world, msg, call⟩
        whole.manager
      pure { whole with manager }
  | .registry call => do
      let (whole, registry) ← (Registry.perform (registryDeployment deployment) world depth msg call
        whole.registry).plug registryPart (serveRegistry deployment) whole
      pure { whole with registry }
  | .bulk call => do
      let (whole, bulk) ← (Bulk.entry deployment.evm ⟨world, msg, call⟩ whole.bulk).plug bulkPart
        (serveBulk deployment) whole
      pure { whole with bulk }
  | .elsewhere world => pure { whole with elsewhere := world }

-- A call with room for that many nested calls; `memory` lies behind the signatures in each of them.
def perform (memory : Nat → Nat → UInt8) : Nat → Msg → Call → State → Execution State
  | 0 => run deployment (memory 0) 0 fun _ _ _ => .revert .empty
  | depth + 1 =>
      run deployment (memory (depth + 1)) (depth + 1) (perform memory depth)

end Deployments

structure Transaction where
  memory : Nat → Nat → UInt8
  depth : Nat
  msg : Msg
  call : Call

def entry (deployment : Deployment) (transaction : Transaction) (whole : State) :
    Execution State :=
  perform deployment transaction.memory transaction.depth transaction.msg transaction.call whole

/-- What the administrator is relied on for: the contracts keep their names, the administrator is
not one of them, and the bulk contract keeps its forwarder. -/
def KeepsWiring (deployment : Deployment) : Call → Prop
  | .names (.set key value) =>
      (key = ADMINISTRATOR → value ∉ deployment.contracts) ∧
        (key = LICENSED_USER_MANAGER → value = deployment.manager) ∧
        (key = STARTRAIL_REGISTRY → value = deployment.registry)
  | .bulk (.setTrustedForwarder forwarder) => forwarder = deployment.forwarder
  | _ => True

/-- Nobody else calls in the name of a contract of the system. -/
def Legal (deployment : Deployment) (transaction : Transaction) (_ : State) : Prop :=
  transaction.msg.sender ∉ deployment.contracts ∧ KeepsWiring deployment transaction.call

end Startrail.Platform
