import Startrail.Library.Projections
import Startrail.Subgraph.Handlers

/-!
What the subgraph shows of a record of the registry. Each handler writes some of the fields of the
one entity and leaves the others; an update of the artist is dropped if the artist has no
`LicensedUserWallet`. The wallets may be others for each event, as their own events come between.
-/

namespace Startrail.Subgraph

structure Record where
  ownerAddress : Option Address
  isPrimaryIssuer : Option Bool
  artistAddress : Option Address
  metadataDigest : Option Bytes
  lockExternalTransfer : Bool
  royaltyReceiver : Option Address
  royaltyBasisPoints : Option Uint16
deriving DecidableEq

def Record.blank : Record := ⟨none, none, none, none, false, none, none⟩

def SRR.record (srr : SRR) : Record :=
  ⟨srr.ownerAddress, srr.isPrimaryIssuer, srr.artistAddress, srr.metadataDigest,
    srr.lockExternalTransfer, srr.royaltyReceiver, srr.royaltyBasisPoints⟩

/-- What an event says of a record. -/
inductive Amendment where
  | owned (to_ : Address)
  | passed (to_ : Address)
  | created (isPrimaryIssuer : Bool) (artistAddress : Address) (metadataCID : Bytes)
      (lockExternalTransfer : Bool)
  | attributed (isPrimaryIssuer : Bool) (artistAddress : Address) (heard : Bool)
  | described (metadataCID : Bytes)
  | locked (flag : Bool)
  | settled (receiver : Address) (basisPoints : Uint16)

namespace Amendment

/-- What the handlers make of it. Only a transfer brings a record into being. -/
def after : Amendment → Option Record → Option Record
  | .owned to_, shown => some { shown.getD Record.blank with ownerAddress := some to_ }
  | .passed to_, shown => shown.map fun record => { record with ownerAddress := some to_ }
  | .created isPrimaryIssuer artistAddress metadataCID lockExternalTransfer, shown =>
      shown.map fun record => { record with
        isPrimaryIssuer := some isPrimaryIssuer
        artistAddress := some artistAddress
        metadataDigest := some metadataCID
        lockExternalTransfer := lockExternalTransfer }
  | .attributed isPrimaryIssuer artistAddress heard, shown =>
      if heard = true then
        shown.map fun record => { record with
          isPrimaryIssuer := some isPrimaryIssuer
          artistAddress := some artistAddress }
      else shown
  | .described metadataCID, shown =>
      shown.map fun record => { record with metadataDigest := some metadataCID }
  | .locked flag, shown => shown.map fun record => { record with lockExternalTransfer := flag }
  | .settled receiver basisPoints, shown => shown.map fun record => { record with
      royaltyReceiver := some receiver
      royaltyBasisPoints := some basisPoints }

def heeded : Amendment → Amendment
  | .attributed isPrimaryIssuer artistAddress _ => .attributed isPrimaryIssuer artistAddress true
  | amendment => amendment

/-- The flag and the artist that the event gives the record, if it is not dropped. -/
def attribution : Amendment → Option (Bool × Address)
  | .created isPrimaryIssuer artistAddress _ _ => some (isPrimaryIssuer, artistAddress)
  | .attributed isPrimaryIssuer artistAddress heard =>
      if heard = true then some (isPrimaryIssuer, artistAddress) else none
  | _ => none

def about : Amendment → Bool
  | .owned _ => false
  | _ => true

end Amendment

section Lists

variable {shown : Option Record} {late early earlier amendments : List Amendment}

def replayed (shown : Option Record) (amendments : List Amendment) : Option Record :=
  amendments.foldr Amendment.after shown

/-- Nothing is said of a record before it is there. -/
def Timely (shown : Option Record) : List Amendment → Prop
  | [] => True
  | amendment :: earlier => Timely shown earlier ∧
      (amendment.about = true → (replayed shown earlier).isSome = true)

theorem replayed_cons {amendment : Amendment} : replayed shown (amendment :: earlier) =
    amendment.after (replayed shown earlier) := rfl

theorem replayed_append :
    replayed shown (late ++ early) = replayed (replayed shown early) late := List.foldr_append

theorem timely_append : Timely shown (late ++ early) ↔
    Timely shown early ∧ Timely (replayed shown early) late := by
  induction late with
  | nil => simp [Timely]
  | cons amendment late ih =>
      simp only [List.cons_append, Timely, ih, replayed_append]
      tauto

theorem after_isSome {amendment : Amendment} (present : shown.isSome = true) :
    (amendment.after shown).isSome = true := by
  obtain ⟨record, rfl⟩ := Option.isSome_iff_exists.mp present
  cases amendment with
  | attributed isPrimaryIssuer artistAddress heard => cases heard <;> rfl
  | _ => rfl

theorem replayed_isSome (mentioned : ∃ to_, Amendment.owned to_ ∈ amendments) :
    (replayed shown amendments).isSome = true := by
  induction amendments with
  | nil => simp at mentioned
  | cons amendment earlier ih =>
      obtain ⟨to_, member⟩ := mentioned
      rcases List.mem_cons.mp member with rfl | before
      · rfl
      · exact after_isSome (ih ⟨to_, before⟩)

theorem mentioned_of_replayed (present : (replayed none amendments).isSome = true) :
    ∃ to_, Amendment.owned to_ ∈ amendments := by
  induction amendments with
  | nil => cases present
  | cons amendment earlier ih =>
      cases amendment with
      | owned to_ => exact ⟨to_, List.mem_cons_self⟩
      | attributed isPrimaryIssuer artistAddress heard =>
          have before : (replayed none earlier).isSome = true := by
            cases heard with
            | false => exact present
            | true => simpa [replayed, Amendment.after] using present
          obtain ⟨to_, member⟩ := ih before
          exact ⟨to_, List.mem_cons_of_mem _ member⟩
      | _ =>
          obtain ⟨to_, member⟩ := ih (by simpa [replayed, Amendment.after] using present)
          exact ⟨to_, List.mem_cons_of_mem _ member⟩

/-- The latest flag and artist that were not dropped. -/
def lastAttribution (amendments : List Amendment) : Option (Bool × Address) :=
  amendments.findSome? Amendment.attribution

def Record.attributedTo (record : Record) (attribution : Option (Bool × Address)) : Record :=
  { record with
    isPrimaryIssuer := attribution.map Prod.fst
    artistAddress := attribution.map Prod.snd }

theorem about_heeded (amendment : Amendment) : amendment.heeded.about = amendment.about := by
  cases amendment <;> rfl

theorem lastAttribution_absent (timely : Timely none (amendments.map Amendment.heeded))
    (absent : replayed none (amendments.map Amendment.heeded) = none) :
    lastAttribution amendments = none := by
  cases amendments with
  | nil => rfl
  | cons amendment earlier =>
      exfalso
      cases about : amendment.about with
      | false =>
          cases amendment with
          | owned to_ => cases absent
          | _ => cases about
      | true =>
          have present := timely.2 ((about_heeded amendment).trans about)
          have later := @after_isSome _ amendment.heeded present
          exact absurd absent (Option.isSome_iff_ne_none.mp later)

/-- Dropping some updates of the artist changes nothing but the flag and the artist. -/
theorem replayed_heeded (timely : Timely none (amendments.map Amendment.heeded)) :
    replayed none amendments =
      (replayed none (amendments.map Amendment.heeded)).map fun record =>
        record.attributedTo (lastAttribution amendments) := by
  induction amendments with
  | nil => rfl
  | cons amendment earlier ih =>
      have before := ih timely.1
      change amendment.after (replayed none earlier) =
        (amendment.heeded.after (replayed none (earlier.map Amendment.heeded))).map _
      rw [before]
      cases shown : replayed none (earlier.map Amendment.heeded) with
      | none =>
          have unattributed := lastAttribution_absent timely.1 shown
          cases amendment with
          | owned to_ =>
              change _ = some (Record.attributedTo _ (lastAttribution earlier))
              rw [unattributed]
              rfl
          | attributed isPrimaryIssuer artistAddress heard => cases heard <;> rfl
          | _ => rfl
      | some record =>
          cases amendment with
          | attributed isPrimaryIssuer artistAddress heard =>
              cases heard with
              | false => rfl
              | true => rfl
          | _ => rfl

theorem lastAttribution_heeded (timely : Timely none (amendments.map Amendment.heeded))
    {record : Record} (shown : replayed none (amendments.map Amendment.heeded) = some record) :
    record = record.attributedTo (lastAttribution (amendments.map Amendment.heeded)) := by
  have twice : (amendments.map Amendment.heeded).map Amendment.heeded =
      amendments.map Amendment.heeded := by
    rw [List.map_map]
    exact List.map_congr_left fun amendment _ => by cases amendment <;> rfl
  have again := @replayed_heeded (amendments.map Amendment.heeded) (by rwa [twice])
  rw [twice, shown] at again
  exact Option.some.inj again

end Lists

def recordAt (store : Store) (id : Bytes32) : Option Record := (store.srr id).map SRR.record

/-- What a handler does to the records of all entities. -/
def Amends (before after : Store) (srrId : Bytes32) (amendment : Amendment) : Prop :=
  ∀ id, recordAt after id =
    if id = srrId then amendment.after (recordAt before srrId) else recordAt before id

section Handlers

variable {store : Store} {time : Nat} {srrId : Bytes32} {amendment : Amendment}

theorem saveSRR_record (store : Store) (srrId : Bytes32) (srr : SRR) (id : Bytes32) :
    recordAt (store.saveSRR srrId srr) id =
      if id = srrId then some srr.record else recordAt store id := by
  by_cases same : id = srrId
  · subst same
    simp [recordAt, Store.saveSRR]
  · simp [recordAt, Store.saveSRR, same]

theorem amends_found {srr saved : SRR} (found : store.srr srrId = some srr)
    (written : amendment.after (some srr.record) = some saved.record) :
    Amends store (store.saveSRR srrId saved) srrId amendment := by
  intro id
  have before : recordAt store srrId = some srr.record := by simp [recordAt, found]
  rw [saveSRR_record, before, written]

theorem amends_unknown (found : store.srr srrId = none) (silent : amendment.after none = none) :
    Amends store store srrId amendment := by
  intro id
  have before : recordAt store srrId = none := by simp [recordAt, found]
  split
  · rename_i here
    rw [here, before, silent]
  · rfl

theorem handleSRRProvenanceInternal_amends (to_ : Address) :
    Amends store (handleSRRProvenanceInternal store time srrId to_) srrId (.passed to_) := by
  unfold handleSRRProvenanceInternal
  split
  · rename_i absent
    exact amends_unknown absent rfl
  · rename_i srr found
    exact amends_found found rfl

theorem loadOrCreate_record (tokenId : Uint256) (isMint : Bool) :
    (loadOrCreate store time srrId tokenId isMint).record =
      (recordAt store srrId).getD .blank := by
  unfold loadOrCreate recordAt
  cases store.srr srrId with
  | none => rfl
  | some srr => rfl

theorem checkAndClearCommitOnTransfer_record (srr : SRR) (id : Bytes32) :
    recordAt (checkAndClearCommitOnTransfer store time srrId srr).1 id = recordAt store id := by
  unfold checkAndClearCommitOnTransfer
  cases store.srrTransferCommit srrId with
  | none => rfl
  | some srrCommit => rfl

theorem handleTransfer_amends (from_ to_ : Address) (tokenId : Uint256) :
    Amends store (handleTransfer store time srrId from_ to_ tokenId) srrId (.owned to_) := by
  intro id
  have written : ∀ isMint,
      some { (loadOrCreate store time srrId tokenId isMint).record with ownerAddress := some to_ } =
        Amendment.after (.owned to_) (recordAt store srrId) := by
    intro isMint
    rw [loadOrCreate_record]
    rfl
  unfold handleTransfer
  cases from_ == 0 with
  | true =>
      simp only [if_true]
      rw [saveSRR_record, ← written true]
      rfl
  | false =>
      simp only [Bool.false_eq_true, if_false]
      rw [saveSRR_record, checkAndClearCommitOnTransfer_record,
        handleSRRProvenanceInternal_amends, ← written false]
      split
      · rfl
      · rename_i other
        rw [saveSRR_record, if_neg other]

theorem handleLockExternalTransfer_amends (flag : Bool) :
    Amends store (handleLockExternalTransfer store srrId flag) srrId (.locked flag) := by
  unfold handleLockExternalTransfer
  split
  · rename_i absent
    exact amends_unknown absent rfl
  · rename_i srr found
    exact amends_found found rfl

theorem handleRoyaltiesSet_amends (receiver : Address) (basisPoints : Uint16) :
    Amends store (handleRoyaltiesSet store time srrId receiver basisPoints) srrId
      (.settled receiver basisPoints) := by
  unfold handleRoyaltiesSet
  split
  · rename_i absent
    exact amends_unknown absent rfl
  · rename_i srr found
    exact amends_found found rfl

theorem handleUpdateSRRMetadataHashInternal_amends {metadataDigest : Bytes} {store' : Store}
    (handled : handleUpdateSRRMetadataHashInternal store time srrId metadataDigest =
      some store') : Amends store store' srrId (.described metadataDigest) := by
  unfold handleUpdateSRRMetadataHashInternal at handled
  split at handled
  · rename_i absent
    cases handled
    exact amends_unknown absent rfl
  · rename_i srr found
    obtain ⟨given, rfl⟩ := saveSRRMetadataHistory_eq_some.mp handled
    refine amends_found found ?_
    simp [Amendment.after, SRR.record, nullable_given given]

/-- The early return for an artist without a wallet. -/
theorem handleUpdateSRRInternal_dropped {isPrimaryIssuer : Bool} {artistAddress : Address}
    (unknown : store.licensedUserWallet artistAddress = false) :
    handleUpdateSRRInternal store time srrId isPrimaryIssuer artistAddress = store := by
  unfold handleUpdateSRRInternal getLicensedUserIdFromAddress
  rw [unknown]
  cases store.srr srrId with
  | none => rfl
  | some srr => rfl

theorem handleUpdateSRRInternal_amends (isPrimaryIssuer : Bool) (artistAddress : Address) :
    Amends store (handleUpdateSRRInternal store time srrId isPrimaryIssuer artistAddress) srrId
      (.attributed isPrimaryIssuer artistAddress (store.licensedUserWallet artistAddress)) := by
  cases known : store.licensedUserWallet artistAddress with
  | false =>
      rw [handleUpdateSRRInternal_dropped known]
      intro id
      split
      · rename_i here
        rw [here]
        rfl
      · rfl
  | true =>
      unfold handleUpdateSRRInternal getLicensedUserIdFromAddress
      rw [known]
      cases found : store.srr srrId with
      | none => exact amends_unknown found rfl
      | some srr => exact amends_found found rfl

theorem saveCreateSRRInternal_amends {srr : SRR} {store' : Store}
    {isPrimaryIssuer lockExternalTransfer : Bool} {artist issuer : Address}
    {metadataDigest : Bytes} (found : store.srr srrId = some srr)
    (handled : saveCreateSRRInternal store time srrId srr isPrimaryIssuer artist issuer
      metadataDigest lockExternalTransfer = some store') :
    Amends store store' srrId
      (.created isPrimaryIssuer artist metadataDigest lockExternalTransfer) := by
  obtain ⟨given, rfl⟩ := saveSRRMetadataHistory_eq_some.mp handled
  refine amends_found found ?_
  simp [Amendment.after, SRR.record, nullable_given given]

theorem handleSRRCommitmentInternal_record (commitment : Bytes32)
    (customHistoryId : Option Uint256) (sender : Option Address) (id : Bytes32) :
    recordAt (handleSRRCommitmentInternal store time srrId commitment customHistoryId sender) id =
      recordAt store id := by
  unfold handleSRRCommitmentInternal
  split
  · rfl
  · rename_i srr found
    refine (saveSRR_record store srrId _ id).trans ?_
    split
    · rename_i here
      rw [here]
      simp [recordAt, found, SRR.record]
    · rfl

theorem handleSRRCommitmentCancelledInternal_record (sender : Option Address) (id : Bytes32) :
    recordAt (handleSRRCommitmentCancelledInternal store time srrId sender) id =
      recordAt store id := by
  unfold handleSRRCommitmentCancelledInternal
  cases found : store.srr srrId with
  | none => rfl
  | some srr =>
      have saved : recordAt (store.saveSRR srrId { srr with
          transferCommitment := none, updatedAt := some time }) id = recordAt store id := by
        rw [saveSRR_record]
        split
        · rename_i here
          rw [here]
          simp [recordAt, found, SRR.record]
        · rfl
      simp only
      split
      · exact saved
      · exact saved

end Handlers

section Deliveries

/-- An event as it reaches the subgraph, with the wallets of licensed users known by then. -/
structure Delivery where
  event : Registry.Event
  licensedUserWallet : Address → Bool

variable (evm : Evm) (address : Address)

def handleDelivery (emitted : Emitted Delivery) (store : Store) : Option Store :=
  handleRegistryEvent evm address ⟨emitted.timestamp, emitted.event.event⟩
    { store with licensedUserWallet := emitted.event.licensedUserWallet }

def amendment (licensedUserWallet : Address → Bool) : Registry.Event → Option (Uint256 × Amendment)
  | .Transfer _ to_ tokenId => some (tokenId, .owned to_)
  | .Provenance tokenId _ to_ _ _ _ _ => some (tokenId, .passed to_)
  | .CreateSRR tokenId isPrimaryIssuer artistAddress _ metadataCID lockExternalTransfer =>
      some (tokenId, .created isPrimaryIssuer artistAddress metadataCID lockExternalTransfer)
  | .UpdateSRR tokenId isPrimaryIssuer artistAddress _ =>
      some (tokenId, .attributed isPrimaryIssuer artistAddress (licensedUserWallet artistAddress))
  | .UpdateSRRMetadataCID tokenId metadataCID => some (tokenId, .described metadataCID)
  | .LockExternalTransfer tokenId flag => some (tokenId, .locked flag)
  | .RoyaltiesSet tokenId royalty => some (tokenId, .settled royalty.receiver royalty.basisPoints)
  | _ => none

def recordProjection :
    Projection (Emitted Delivery) Store Bytes32 (Option Record) Amendment where
  handle := handleDelivery evm address
  view := recordAt
  note emitted := (amendment emitted.event.licensedUserWallet emitted.event.event).map
    fun (tokenId, amendment) => (srrEntityId evm address tokenId, amendment)
  after := Amendment.after

theorem handleDelivery_amends {emitted : Emitted Delivery} {store store' : Store}
    {tokenId : Uint256} {said : Amendment}
    (handled : handleDelivery evm address emitted store = some store')
    (named : amendment emitted.event.licensedUserWallet emitted.event.event =
      some (tokenId, said)) :
    Amends store store' (srrEntityId evm address tokenId) said := by
  obtain ⟨time, event, licensedUserWallet⟩ := emitted
  have same : ∀ {after said}, Amends { store with licensedUserWallet := licensedUserWallet } after
      (srrEntityId evm address tokenId) said →
      Amends store after (srrEntityId evm address tokenId) said := id
  cases event with
  | Transfer from_ to_ =>
      cases handled
      cases named
      exact same (handleTransfer_amends from_ to_ tokenId)
  | Provenance _ from_ to_ =>
      cases handled
      cases named
      exact same (handleSRRProvenanceInternal_amends to_)
  | CreateSRR _ isPrimaryIssuer artistAddress issuer metadataCID lockExternalTransfer =>
      obtain ⟨srr, found, saved⟩ := Option.bind_eq_some_iff.mp handled
      cases named
      exact same (saveCreateSRRInternal_amends found saved)
  | UpdateSRR _ isPrimaryIssuer artistAddress =>
      cases handled
      cases named
      exact same (handleUpdateSRRInternal_amends isPrimaryIssuer artistAddress)
  | UpdateSRRMetadataCID _ metadataCID =>
      cases named
      exact same (handleUpdateSRRMetadataHashInternal_amends handled)
  | LockExternalTransfer _ flag =>
      cases handled
      cases named
      exact same (handleLockExternalTransfer_amends flag)
  | RoyaltiesSet _ royalty =>
      cases handled
      cases named
      exact same (handleRoyaltiesSet_amends royalty.receiver royalty.basisPoints)
  | _ => cases named

theorem handleDelivery_spares {emitted : Emitted Delivery} {store store' : Store}
    (handled : handleDelivery evm address emitted store = some store')
    (silent : amendment emitted.event.licensedUserWallet emitted.event.event = none)
    (id : Bytes32) : recordAt store' id = recordAt store id := by
  obtain ⟨time, event, licensedUserWallet⟩ := emitted
  cases event with
  | SRRCommitment tokenId owner commitment customHistoryId =>
      cases handled
      exact handleSRRCommitmentInternal_record commitment customHistoryId none id
  | SRRCommitmentCancelled tokenId =>
      cases handled
      exact handleSRRCommitmentCancelledInternal_record none id
  | Transfer | Provenance | CreateSRR | UpdateSRR | UpdateSRRMetadataCID | LockExternalTransfer
  | RoyaltiesSet => cases silent
  | _ =>
      cases handled
      rfl

theorem recordProjection_lawful : (recordProjection evm address).Lawful where
  tells handled named := by
    obtain ⟨⟨tokenId, said⟩, told, same⟩ := Option.map_eq_some_iff.mp named
    obtain ⟨rfl, rfl⟩ := Prod.mk.inj same
    exact handleDelivery_amends evm address handled told
  spares handled silent :=
    handleDelivery_spares evm address handled (Option.map_eq_none_iff.mp silent)

/-- The record that an event is about is there. -/
def Permits (emitted : Emitted Delivery) (shown : Bytes32 → Option Record) : Prop :=
  ∀ tokenId said, amendment emitted.event.licensedUserWallet emitted.event.event =
    some (tokenId, said) → said.about = true →
      (shown (srrEntityId evm address tokenId)).isSome = true

theorem recordAt_found {store : Store} {id : Bytes32}
    (present : (recordAt store id).isSome = true) :
    ∃ srr, store.srr id = some srr :=
  Option.isSome_iff_exists.mp ((Option.isSome_map ..).symm.trans present)

/-- Its handler fails on nothing but an empty CID. -/
theorem handleDelivery_some (emitted : Emitted Delivery) (store : Store)
    (permitted : Permits evm address emitted (recordAt store)) :
    (∃ store', handleDelivery evm address emitted store = some store') ↔
      registryDigest emitted.event.event ≠ some [] := by
  obtain ⟨time, event, licensedUserWallet⟩ := emitted
  cases event with
  | CreateSRR tokenId isPrimaryIssuer artistAddress issuer metadataCID lockExternalTransfer =>
      obtain ⟨srr, found⟩ := recordAt_found (permitted tokenId _ rfl rfl)
      have handles : handleDelivery evm address ⟨time, .CreateSRR tokenId isPrimaryIssuer
          artistAddress issuer metadataCID lockExternalTransfer, licensedUserWallet⟩ store =
          (some srr).bind fun srr => saveCreateSRRInternal
            { store with licensedUserWallet := licensedUserWallet } (secondsToMillis time)
            (srrEntityId evm address tokenId) srr isPrimaryIssuer artistAddress issuer metadataCID
            lockExternalTransfer := by
        rw [← found]
        rfl
      rw [handles, Option.bind_some, saveCreateSRRInternal_some, registryDigest]
      simp
  | UpdateSRRMetadataCID tokenId metadataCID =>
      obtain ⟨srr, found⟩ := recordAt_found (permitted tokenId _ rfl rfl)
      have known : ({ store with licensedUserWallet := licensedUserWallet } : Store).srr
          (srrEntityId evm address tokenId) = some srr := found
      refine (handleUpdateSRRMetadataHashInternal_some known).trans ?_
      rw [registryDigest]
      simp
  | _ => exact iff_of_true ⟨_, rfl⟩ nofun

end Deliveries

end Startrail.Subgraph
