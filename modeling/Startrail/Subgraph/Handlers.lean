import Startrail.Collection.Core
import Startrail.Registry.Core

/-!
The subgraph: `subgraph/src/lib/srr-handlers.ts`, on which the data sources of the registry
(`subgraph/src/srr-mapping.ts`) and of a collection (`subgraph/src/collection-mapping.ts`) build.
A handler loads and saves entities of two kinds by the id of the record that its event names.
-/

namespace Startrail.Subgraph

inductive TransferCommitLastAction where
  | approve
  | cancel
  | transfer

structure SRR where
  collection : Option Address
  tokenId : Uint256
  isPrimaryIssuer : Option Bool
  artist : Option Address
  artistAddress : Option Address
  issuer : Option Address
  ownerAddress : Option Address
  metadataDigest : Option Bytes
  transferCommitment : Option Bytes32
  lockExternalTransfer : Bool
  royaltyReceiver : Option Address
  royaltyBasisPoints : Option Uint16
  createdAt : Option Nat
  updatedAt : Option Nat

structure SRRTransferCommit where
  commitment : Option Bytes32
  customHistory : Option Uint256
  lastAction : TransferCommitLastAction
  sender : Option Address
  createdAt : Nat
  updatedAt : Nat

/-- The tables of the entities. A licensed user's wallet is only looked up here. -/
structure Store where
  licensedUserWallet : Address → Bool
  srr : Bytes32 → Option SRR
  srrTransferCommit : Bytes32 → Option SRRTransferCommit

def Store.blank (licensedUserWallet : Address → Bool) : Store :=
  ⟨licensedUserWallet, fun _ => none, fun _ => none⟩

namespace Store

variable (store : Store) (id : Bytes32)

def saveSRR (srr : SRR) : Store :=
  { store with srr := Function.update store.srr id (some srr) }

def saveSRRTransferCommit (srrCommit : SRRTransferCommit) : Store :=
  { store with
    srrTransferCommit := Function.update store.srrTransferCommit id (some srrCommit) }

end Store

section Utils

-- `Bytes.fromBigInt`: two's complement with the lowest byte first.
def fromBigInt : Nat → Nat → Bytes
  | 0, _ => []
  | fuel + 1, value =>
      if value < 128 then [UInt8.ofNat value]
      else UInt8.ofNat (value % 256) :: fromBigInt fuel (value / 256)

-- A `uint256` and its sign fill 33 bytes at most.
def srrEntityId (evm : Evm) (collectionAddress : Address) (tokenId : Uint256) : Bytes32 :=
  evm.keccak256 (packWord collectionAddress ++ fromBigInt 33 tokenId.toNat)

def secondsToMillis (timestampSeconds : Nat) : Nat := timestampSeconds * 1000

-- The setter of a text that may be null unsets it when it is given an empty one.
def nullable (text : Bytes) : Option Bytes := if text = [] then none else some text

end Utils

section Handlers

variable (store : Store) (timestampMillis : Nat) (srrId : Bytes32)

def getLicensedUserIdFromAddress (address : Address) : Option Address :=
  if store.licensedUserWallet address then some address else none

def handleSRRProvenanceInternal (to_ : Address) : Store :=
  match store.srr srrId with
  | none => store
  | some srr =>
      store.saveSRR srrId { srr with ownerAddress := some to_, updatedAt := some timestampMillis }

def checkAndClearCommitOnTransfer (srr : SRR) : Store × SRR :=
  let store := match store.srrTransferCommit srrId with
    | none => store
    | some srrCommit => store.saveSRRTransferCommit srrId { srrCommit with
        commitment := none, lastAction := .transfer, updatedAt := timestampMillis }
  (store, { srr with transferCommitment := none })

-- The record that a transfer of a token finds, or a new one.
def loadOrCreate (tokenId : Uint256) (isMint : Bool) : SRR :=
  match store.srr srrId with
  | some srr => srr
  | none =>
      { collection := none, tokenId := tokenId, isPrimaryIssuer := none, artist := none,
        artistAddress := none, issuer := none, ownerAddress := none, metadataDigest := none,
        transferCommitment := none, lockExternalTransfer := false, royaltyReceiver := none,
        royaltyBasisPoints := none, createdAt := if isMint then some timestampMillis else none,
        updatedAt := none }

def handleTransfer (from_ to_ : Address) (tokenId : Uint256) : Store :=
  let isMint := from_ == 0
  let srr := { loadOrCreate store timestampMillis srrId tokenId isMint with
    ownerAddress := some to_
    updatedAt := some timestampMillis }
  let store := store.saveSRR srrId srr
  if isMint = true then store
  else
    let store := handleSRRProvenanceInternal store timestampMillis srrId to_
    let (store, srr) := checkAndClearCommitOnTransfer store timestampMillis srrId srr
    store.saveSRR srrId srr

def handleLockExternalTransfer (flag : Bool) : Store :=
  match store.srr srrId with
  | none => store
  | some srr => store.saveSRR srrId { srr with lockExternalTransfer := flag }

def handleRoyaltiesSet (receiver : Address) (basisPoints : Uint16) : Store :=
  match store.srr srrId with
  | none => store
  | some srr => store.saveSRR srrId { srr with
      updatedAt := some timestampMillis
      royaltyBasisPoints := some basisPoints
      royaltyReceiver := some receiver }

/-- Without a `customHistoryId` or a `sender` the commitment keeps the one that it has. -/
def handleSRRCommitmentInternal (commitment : Bytes32) (customHistoryId : Option Uint256)
    (sender : Option Address) : Store :=
  match store.srr srrId with
  | none => store
  | some srr =>
      let store := store.saveSRR srrId { srr with
        transferCommitment := some commitment
        updatedAt := some timestampMillis }
      let srrCommit := (store.srrTransferCommit srrId).getD
        ⟨none, none, .approve, none, timestampMillis, timestampMillis⟩
      store.saveSRRTransferCommit srrId { srrCommit with
        commitment := some commitment
        lastAction := .approve
        customHistory := customHistoryId <|> srrCommit.customHistory
        sender := sender <|> srrCommit.sender
        updatedAt := timestampMillis }

def handleSRRCommitmentCancelledInternal (sender : Option Address) : Store :=
  match store.srr srrId with
  | none => store
  | some srr =>
      let store := store.saveSRR srrId { srr with
        transferCommitment := none
        updatedAt := some timestampMillis }
      match store.srrTransferCommit srrId with
      | none => store
      | some srrCommit => store.saveSRRTransferCommit srrId { srrCommit with
          sender := sender <|> srrCommit.sender
          lastAction := .cancel
          commitment := none
          updatedAt := timestampMillis }

def handleUpdateSRRInternal (isPrimaryIssuer : Bool) (artistAddress : Address) : Store :=
  match store.srr srrId, getLicensedUserIdFromAddress store artistAddress with
  | some srr, some artist => store.saveSRR srrId { srr with
      isPrimaryIssuer := some isPrimaryIssuer
      artistAddress := some artistAddress
      artist := some artist
      updatedAt := some timestampMillis }
  | _, _ => store

/-- The entity of the history is left out. Its id and its digest are read off the record, which
fails for a record without a digest. -/
def saveSRRMetadataHistory (srr : SRR) : Option Store :=
  srr.metadataDigest.map fun _ => store

def handleUpdateSRRMetadataHashInternal (metadataDigest : Bytes) : Option Store :=
  match store.srr srrId with
  | none => some store
  | some srr =>
      let srr := { srr with
        updatedAt := some timestampMillis
        metadataDigest := nullable metadataDigest }
      saveSRRMetadataHistory (store.saveSRR srrId srr) srr

def saveCreateSRRInternal (srr : SRR) (isPrimaryIssuer : Bool) (artist issuer : Address)
    (metadataDigest : Bytes) (lockExternalTransfer : Bool) : Option Store :=
  let srr := { srr with
    isPrimaryIssuer := some isPrimaryIssuer
    metadataDigest := nullable metadataDigest
    lockExternalTransfer := lockExternalTransfer
    artistAddress := some artist
    artist := getLicensedUserIdFromAddress store artist
    issuer := getLicensedUserIdFromAddress store issuer
    updatedAt := some timestampMillis }
  saveSRRMetadataHistory (store.saveSRR srrId srr) srr

end Handlers

section Digests

variable {store store' : Store} {time : Nat} {srrId : Bytes32} {metadataDigest : Bytes} {srr : SRR}

theorem nullable_isSome : (nullable metadataDigest).isSome = true ↔ metadataDigest ≠ [] := by
  unfold nullable
  split
  · rename_i empty
    exact iff_of_false nofun fun given => given empty
  · rename_i given
    exact iff_of_true rfl given

theorem nullable_given (given : (nullable metadataDigest).isSome = true) :
    nullable metadataDigest = some metadataDigest := if_neg (nullable_isSome.mp given)

/-- A record with a digest gets an entry in its history, and the entities here stay as they are. -/
theorem saveSRRMetadataHistory_eq_some :
    saveSRRMetadataHistory store srr = some store' ↔
      srr.metadataDigest.isSome = true ∧ store' = store := by
  unfold saveSRRMetadataHistory
  cases srr.metadataDigest with
  | none => simp
  | some digest => simp [eq_comm]

theorem saveCreateSRRInternal_some {isPrimaryIssuer lockExternalTransfer : Bool}
    {artist issuer : Address} :
    (∃ store', saveCreateSRRInternal store time srrId srr isPrimaryIssuer artist issuer
      metadataDigest lockExternalTransfer = some store') ↔ metadataDigest ≠ [] := by
  unfold saveCreateSRRInternal
  simp only [saveSRRMetadataHistory_eq_some, exists_and_left, exists_eq, and_true]
  exact nullable_isSome

/-- An empty digest is unset, and then missed. -/
theorem handleUpdateSRRMetadataHashInternal_some (found : store.srr srrId = some srr) :
    (∃ store', handleUpdateSRRMetadataHashInternal store time srrId metadataDigest =
      some store') ↔ metadataDigest ≠ [] := by
  unfold handleUpdateSRRMetadataHashInternal
  simp only [found, saveSRRMetadataHistory_eq_some, exists_and_left, exists_eq, and_true]
  exact nullable_isSome

theorem handleUpdateSRRMetadataHashInternal_given (given : metadataDigest ≠ []) :
    ∃ store', handleUpdateSRRMetadataHashInternal store time srrId metadataDigest =
      some store' := by
  cases found : store.srr srrId with
  | none =>
      refine ⟨store, ?_⟩
      unfold handleUpdateSRRMetadataHashInternal
      rw [found]
  | some srr => exact (handleUpdateSRRMetadataHashInternal_some found).mpr given

end Digests

/-- An event with the time of its block. -/
structure Emitted (E : Type) where
  timestamp : Nat
  event : E

def Emitted.eventUTCMillis {E : Type} (emitted : Emitted E) : Nat :=
  secondsToMillis emitted.timestamp

section Mappings

variable (evm : Evm) (address : Address)

/-- The CID that an event of the registry gives a record. -/
def registryDigest : Registry.Event → Option Bytes
  | .CreateSRR _ _ _ _ metadataCID _ | .UpdateSRRMetadataCID _ metadataCID => some metadataCID
  | _ => none

def collectionDigest : Collection.Event → Option Bytes
  | .CreateSRR _ _ metadataCID _ | .UpdateSRRMetadataDigest _ metadataCID => some metadataCID
  | _ => none

-- `srr-mapping.ts`. A creation takes it for granted that the record is there, and fails otherwise.
def handleRegistryEvent (emitted : Emitted Registry.Event) (store : Store) : Option Store :=
  let time := emitted.eventUTCMillis
  let srrId := srrEntityId evm address
  match emitted.event with
  | .Transfer from_ to_ tokenId =>
      some (handleTransfer store time (srrId tokenId) from_ to_ tokenId)
  | .CreateSRR tokenId isPrimaryIssuer artistAddress issuer metadataCID lockExternalTransfer =>
      (store.srr (srrId tokenId)).bind fun srr =>
        saveCreateSRRInternal store time (srrId tokenId) srr isPrimaryIssuer artistAddress issuer
          metadataCID lockExternalTransfer
  | .UpdateSRR tokenId isPrimaryIssuer artistAddress _ =>
      some (handleUpdateSRRInternal store time (srrId tokenId) isPrimaryIssuer artistAddress)
  | .UpdateSRRMetadataCID tokenId metadataCID =>
      handleUpdateSRRMetadataHashInternal store time (srrId tokenId) metadataCID
  | .Provenance tokenId _ to_ _ _ _ _ =>
      some (handleSRRProvenanceInternal store time (srrId tokenId) to_)
  | .SRRCommitment tokenId _ commitment customHistoryId =>
      some (handleSRRCommitmentInternal store time (srrId tokenId) commitment customHistoryId none)
  | .SRRCommitmentCancelled tokenId =>
      some (handleSRRCommitmentCancelledInternal store time (srrId tokenId) none)
  | .LockExternalTransfer tokenId flag =>
      some (handleLockExternalTransfer store (srrId tokenId) flag)
  | .RoyaltiesSet tokenId royalty =>
      some (handleRoyaltiesSet store time (srrId tokenId) royalty.receiver royalty.basisPoints)
  | .Approval .. | .ApprovalForAll .. | .History .. | .CreateCustomHistoryType ..
  | .CreateCustomHistory .. | .UpdateCustomHistory .. | .OwnershipTransferred ..
  | .MetaTransactionExecuted .. => some store

def handleCreateSRR (store : Store) (time : Nat) (srrId : Bytes32) (record : Collection.SRR)
    (metadataCID : Bytes) (lockExternalTransfer : Bool) : Option Store :=
  match store.srr srrId with
  | none => some store
  | some srr =>
      saveCreateSRRInternal store time srrId { srr with collection := some address }
        record.isPrimaryIssuer record.artist record.issuer metadataCID lockExternalTransfer

-- `collection-mapping.ts`. Of the two events of a commitment only the one without a custom history
-- hands its sender on.
def handleCollectionEvent (emitted : Emitted Collection.Event) (store : Store) : Option Store :=
  let time := emitted.eventUTCMillis
  let srrId := srrEntityId evm address
  match emitted.event with
  | .Transfer from_ to_ tokenId =>
      some (handleTransfer store time (srrId tokenId) from_ to_ tokenId)
  | .CreateSRR tokenId registryRecord metadataCID lockExternalTransfer =>
      handleCreateSRR address store time (srrId tokenId) registryRecord metadataCID
        lockExternalTransfer
  | .UpdateSRR tokenId isPrimaryIssuer artistAddress _ =>
      some (handleUpdateSRRInternal store time (srrId tokenId) isPrimaryIssuer artistAddress)
  | .UpdateSRRMetadataDigest tokenId metadataCID =>
      handleUpdateSRRMetadataHashInternal store time (srrId tokenId) metadataCID
  | .Provenance tokenId _ to_ _ _ _ _ _ =>
      some (handleSRRProvenanceInternal store time (srrId tokenId) to_)
  | .SRRCommitment tokenId commitment none sender =>
      some (handleSRRCommitmentInternal store time (srrId tokenId) commitment none (some sender))
  | .SRRCommitment tokenId commitment (some customHistoryId) _ =>
      some (handleSRRCommitmentInternal store time (srrId tokenId) commitment
        (some customHistoryId) none)
  | .SRRCommitmentCancelled tokenId sender =>
      some (handleSRRCommitmentCancelledInternal store time (srrId tokenId) (some sender))
  | .LockExternalTransferSetLock tokenId flag =>
      some (handleLockExternalTransfer store (srrId tokenId) flag)
  | .RoyaltiesSet tokenId royalty =>
      some (handleRoyaltiesSet store time (srrId tokenId) royalty.receiver royalty.basisPoints)
  | .Approval .. | .ApprovalForAll .. | .History .. | .OwnershipTransferred .. => some store

end Mappings

/-- The store after a log, whose latest event comes first, or none if a handler has failed. -/
def index {E S : Type} (handle : Emitted E → S → Option S) (store : S) :
    List (Emitted E) → Option S
  | [] => some store
  | emitted :: earlier => (index handle store earlier).bind (handle emitted)

end Startrail.Subgraph
