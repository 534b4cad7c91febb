import Startrail.Subgraph.Indexing

/-!
The data sources of the two contracts, and what it takes for a contract to be followed. A call
does an `Act` to one token and leaves the others alone; `Does.kept` takes the invariant of all
tokens over it, and `Does.shown_iff` says when the store still shows what the contract has stored.
-/

namespace Startrail.Subgraph

section Ids

variable {evm : Evm} {address : Address}

def littleEndian : Bytes → Nat
  | [] => 0
  | byte :: bytes => byte.toNat + 256 * littleEndian bytes

theorem littleEndian_fromBigInt {fuel value : Nat} (fits : value < 128 * 256 ^ fuel) :
    littleEndian (fromBigInt (fuel + 1) value) = value := by
  induction fuel generalizing value with
  | zero =>
      have small : value < 128 := by simpa using fits
      rw [fromBigInt, if_pos small]
      simp [littleEndian]
      omega
  | succ fuel ih =>
      rw [fromBigInt]
      split
      · rename_i small
        simp [littleEndian]
        omega
      · have rest : value / 256 < 128 * 256 ^ fuel := by
          apply Nat.div_lt_of_lt_mul
          rw [pow_succ] at fits
          omega
        rw [littleEndian, ih rest]
        simp
        omega

def entityInput (address : Address) (tokenId : Uint256) : Bytes :=
  packWord address ++ fromBigInt 33 tokenId.toNat

theorem entityInput_inj {tokenId other : Uint256}
    (same : entityInput address other = entityInput address tokenId) : other = tokenId := by
  have numbers := congrArg littleEndian (List.append_cancel_left same)
  have bounded : ∀ value : Uint256, value.toNat < 128 * 256 ^ 32 := by
    intro value
    have small := value.isLt
    omega
  rw [littleEndian_fromBigInt (bounded other), littleEndian_fromBigInt (bounded tokenId)] at numbers
  exact BitVec.eq_of_toNat_eq numbers

/-- What is hashed for the ids of a token and of all tokens that the log tells something of. -/
def DataSource.entityInputs {E : Type} (source : DataSource E) (address : Address)
    (tokenId : Uint256) (logs : List E) : List Bytes :=
  entityInput address tokenId ::
    (logs.filterMap source.note).map fun (other, _) => entityInput address other

theorem DataSource.alone {E : Type} {source : DataSource E} {tokenId : Uint256} {logs : List E}
    (ids : source.entityId = srrEntityId evm address)
    (free : evm.CollisionFree (source.entityInputs address tokenId logs)) :
    source.Alone tokenId logs := by
  intro event belongs other note named shared
  rw [ids] at shared
  apply @entityInput_inj address
  refine free _ (List.mem_cons_of_mem _ ?_) _ List.mem_cons_self shared
  exact List.mem_map.mpr ⟨(other, note), List.mem_filterMap.mpr ⟨event, belongs, named⟩, rfl⟩

end Ids

section Sources

variable (evm : Evm) (address : Address)

def registryNote : Registry.Event → Option (Uint256 × Note)
  | .Transfer from_ _ tokenId => some (tokenId, if from_ = 0 then .minted else .handed)
  | .SRRCommitment tokenId _ commitment customHistoryId =>
      some (tokenId, .committed commitment customHistoryId none)
  | .SRRCommitmentCancelled tokenId => some (tokenId, .cancelled none)
  | _ => none

def registrySource : DataSource Registry.Event where
  handle := handleRegistryEvent evm address
  entityId := srrEntityId evm address
  note := registryNote
  requires
    | .CreateSRR tokenId .. => some tokenId
    | _ => none
  digest := registryDigest

theorem registrySource_touches {emitted : Emitted Registry.Event} {store store' : Store}
    {tokenId : Uint256} {note : Note}
    (handled : (registrySource evm address).handle emitted store = some store')
    (named : (registrySource evm address).note emitted.event = some (tokenId, note)) :
    Touches store store' (srrEntityId evm address tokenId) note := by
  obtain ⟨time, event⟩ := emitted
  cases event with
  | Transfer from_ to_ =>
      cases handled
      cases named
      exact handleTransfer_touches from_ to_ tokenId
  | SRRCommitment _ owner commitment customHistoryId =>
      cases handled
      cases named
      exact handleSRRCommitmentInternal_touches commitment customHistoryId none (ite_self _)
  | SRRCommitmentCancelled =>
      cases handled
      cases named
      exact handleSRRCommitmentCancelledInternal_touches none
  | _ => cases named

theorem registrySource_spares {emitted : Emitted Registry.Event} {store store' : Store}
    (handled : (registrySource evm address).handle emitted store = some store')
    (silent : (registrySource evm address).note emitted.event = none) : Spares store store' := by
  obtain ⟨time, event⟩ := emitted
  cases event with
  | Transfer | SRRCommitment | SRRCommitmentCancelled => cases silent
  | CreateSRR tokenId isPrimaryIssuer artistAddress issuer metadataCID lockExternalTransfer =>
      obtain ⟨srr, found, saved⟩ := Option.bind_eq_some_iff.mp handled
      exact saveCreateSRRInternal_spares found rfl saved
  | UpdateSRR tokenId isPrimaryIssuer artistAddress =>
      cases handled
      exact handleUpdateSRRInternal_spares isPrimaryIssuer artistAddress
  | UpdateSRRMetadataCID tokenId metadataCID =>
      exact handleUpdateSRRMetadataHashInternal_spares handled
  | Provenance tokenId from_ to_ =>
      cases handled
      exact handleSRRProvenanceInternal_spares to_
  | LockExternalTransfer tokenId flag =>
      cases handled
      exact handleLockExternalTransfer_spares flag
  | RoyaltiesSet tokenId royalty =>
      cases handled
      exact handleRoyaltiesSet_spares royalty.receiver royalty.basisPoints
  | _ =>
      cases handled
      exact .refl store

theorem registrySource_total (emitted : Emitted Registry.Event) (store : Store)
    (described : (registrySource evm address).digest emitted.event ≠ some [])
    (known : ∀ tokenId, (registrySource evm address).requires emitted.event = some tokenId →
      (viewOf store (srrEntityId evm address tokenId)).srr.isSome = true) :
    ∃ store', (registrySource evm address).handle emitted store = some store' := by
  obtain ⟨time, event⟩ := emitted
  cases event with
  | CreateSRR tokenId isPrimaryIssuer artistAddress issuer metadataCID lockExternalTransfer =>
      have present := known tokenId rfl
      change ((store.srr _).map SRR.transferCommitment).isSome = true at present
      rw [Option.isSome_map] at present
      obtain ⟨srr, found⟩ := Option.isSome_iff_exists.mp present
      have given : metadataCID ≠ [] := fun empty => described (congrArg some empty)
      obtain ⟨store', saved⟩ := saveCreateSRRInternal_some.mpr given
      exact ⟨store', Option.bind_eq_some_iff.mpr ⟨srr, found, saved⟩⟩
  | UpdateSRRMetadataCID tokenId metadataCID =>
      have given : metadataCID ≠ [] := fun empty => described (congrArg some empty)
      exact handleUpdateSRRMetadataHashInternal_given given
  | _ => exact ⟨_, rfl⟩

theorem registrySource_lawful : (registrySource evm address).Lawful where
  touches := registrySource_touches evm address
  spares := registrySource_spares evm address
  total := registrySource_total evm address

def collectionNote : Collection.Event → Option (Uint256 × Note)
  | .Transfer from_ _ tokenId => some (tokenId, if from_ = 0 then .minted else .handed)
  | .SRRCommitment tokenId commitment customHistoryId sender =>
      some (tokenId, .committed commitment customHistoryId (some sender))
  | .SRRCommitmentCancelled tokenId sender => some (tokenId, .cancelled (some sender))
  | _ => none

def collectionSource : DataSource Collection.Event where
  handle := handleCollectionEvent evm address
  entityId := srrEntityId evm address
  note := collectionNote
  requires _ := none
  digest := collectionDigest

theorem collectionSource_touches {emitted : Emitted Collection.Event} {store store' : Store}
    {tokenId : Uint256} {note : Note}
    (handled : (collectionSource evm address).handle emitted store = some store')
    (named : (collectionSource evm address).note emitted.event = some (tokenId, note)) :
    Touches store store' (srrEntityId evm address tokenId) note := by
  obtain ⟨time, event⟩ := emitted
  cases event with
  | Transfer from_ to_ =>
      cases handled
      cases named
      exact handleTransfer_touches from_ to_ tokenId
  | SRRCommitment _ commitment customHistoryId sender =>
      cases named
      cases customHistoryId with
      | none =>
          cases handled
          exact handleSRRCommitmentInternal_touches commitment none (some sender) rfl
      | some customHistoryId =>
          cases handled
          exact handleSRRCommitmentInternal_touches commitment (some customHistoryId) none rfl
  | SRRCommitmentCancelled _ sender =>
      cases handled
      cases named
      exact handleSRRCommitmentCancelledInternal_touches (some sender)
  | _ => cases named

theorem collectionSource_spares {emitted : Emitted Collection.Event} {store store' : Store}
    (handled : (collectionSource evm address).handle emitted store = some store')
    (silent : (collectionSource evm address).note emitted.event = none) : Spares store store' := by
  obtain ⟨time, event⟩ := emitted
  cases event with
  | Transfer | SRRCommitment | SRRCommitmentCancelled => cases silent
  | CreateSRR tokenId registryRecord metadataCID lockExternalTransfer =>
      exact handleCreateSRR_spares handled
  | UpdateSRR tokenId isPrimaryIssuer artistAddress =>
      cases handled
      exact handleUpdateSRRInternal_spares isPrimaryIssuer artistAddress
  | UpdateSRRMetadataDigest tokenId metadataCID =>
      exact handleUpdateSRRMetadataHashInternal_spares handled
  | Provenance tokenId from_ to_ =>
      cases handled
      exact handleSRRProvenanceInternal_spares to_
  | LockExternalTransferSetLock tokenId flag =>
      cases handled
      exact handleLockExternalTransfer_spares flag
  | RoyaltiesSet tokenId royalty =>
      cases handled
      exact handleRoyaltiesSet_spares royalty.receiver royalty.basisPoints
  | _ =>
      cases handled
      exact .refl store

theorem collectionSource_total (emitted : Emitted Collection.Event) (store : Store)
    (described : (collectionSource evm address).digest emitted.event ≠ some [])
    (known : ∀ tokenId, (collectionSource evm address).requires emitted.event = some tokenId →
      (viewOf store (srrEntityId evm address tokenId)).srr.isSome = true) :
    ∃ store', (collectionSource evm address).handle emitted store = some store' := by
  obtain ⟨time, event⟩ := emitted
  cases event with
  | SRRCommitment tokenId commitment customHistoryId sender =>
      cases customHistoryId with
      | none => exact ⟨_, rfl⟩
      | some customHistoryId => exact ⟨_, rfl⟩
  | CreateSRR tokenId registryRecord metadataCID lockExternalTransfer =>
      have given : metadataCID ≠ [] := fun empty => described (congrArg some empty)
      change ∃ store', handleCreateSRR address store _ _ _ _ _ = some store'
      unfold handleCreateSRR
      split
      · exact ⟨_, rfl⟩
      · exact saveCreateSRRInternal_some.mpr given
  | UpdateSRRMetadataDigest tokenId metadataCID =>
      have given : metadataCID ≠ [] := fun empty => described (congrArg some empty)
      exact handleUpdateSRRMetadataHashInternal_given given
  | _ => exact ⟨_, rfl⟩

theorem collectionSource_lawful : (collectionSource evm address).Lawful where
  touches := collectionSource_touches evm address
  spares := collectionSource_spares evm address
  total := collectionSource_total evm address

end Sources

/-- A call does this to one token, or nothing to any. -/
def Act.on (did : Option (Uint256 × Act)) (tokenId : Uint256) : Act :=
  match did with
  | none => .nothing
  | some (named, act) => if tokenId = named then act else .nothing

theorem Act.on_fits {stored : Uint256 → Approval} {notes : Uint256 → List Note} {named : Uint256}
    {act : Act} (fits : act.Fits (stored named) (notes named)) (tokenId : Uint256) :
    (Act.on (some (named, act)) tokenId).Fits (stored tokenId) (notes tokenId) := by
  by_cases here : tokenId = named
  · subst here
    rw [Act.on, if_pos rfl]
    exact fits
  · rw [Act.on, if_neg here]
    trivial

theorem Act.moved_owner {owner owner' : Uint256 → Address} {named tokenId : Uint256}
    {to_ : Address} {act : Act} (moved : owner' = Function.update owner named to_)
    (moves : act.moves = true) (owned : owner' tokenId ≠ 0) :
    owner tokenId ≠ 0 ∨ tokenId = named ∧ act.moves = true := by
  by_cases here : tokenId = named
  · exact Or.inr ⟨here, moves⟩
  · rw [moved, Function.update_of_ne here] at owned
    exact Or.inl owned

structure Contract (S E : Type) where
  source : DataSource E
  logs : S → List E
  Owned : S → Uint256 → Prop
  stored : S → Uint256 → Approval

namespace Contract

variable {S E : Type} (contract : Contract S E)

def notes (state : S) (tokenId : Uint256) : List Note :=
  contract.source.notes tokenId (contract.logs state)

/-- Whenever the blocks of the events were, their handlers succeed, and the subgraph shows what is
stored of the token. -/
def Shows (state : S) (tokenId : Uint256) : Prop :=
  ∀ licensedUserWallet feed, feed.map Emitted.event = contract.logs state →
    ∃ store, index contract.source.handle (.blank licensedUserWallet) feed = some store ∧
      Mirrors (viewOf store (contract.source.entityId tokenId)) (contract.stored state tokenId)
        (lastSender (contract.notes state tokenId))

/-- No other token of the log shares the id of the token's records. -/
def Apart (evm : Evm) (address : Address) (state : S) (tokenId : Uint256) : Prop :=
  evm.CollisionFree (contract.source.entityInputs address tokenId (contract.logs state))

instance (evm : Evm) (address : Address) (state : S) (tokenId : Uint256) :
    Decidable (contract.Apart evm address state tokenId) :=
  inferInstanceAs (Decidable (evm.CollisionFree _))

structure Kept (state : S) : Prop where
  fed : contract.source.Fed (contract.logs state)
  followed : ∀ tokenId, Followed (contract.Owned state tokenId) (contract.stored state tokenId)
    (contract.notes state tokenId)

structure Does (did : Option (Uint256 × Act)) (before after : S) : Prop where
  fed : contract.source.Fed (contract.logs before) → contract.source.Fed (contract.logs after)
  notes : ∀ tokenId, contract.notes after tokenId =
    (Act.on did tokenId).notes (contract.stored before tokenId) ++ contract.notes before tokenId
  stores : ∀ tokenId, contract.stored after tokenId =
    (Act.on did tokenId).stores (contract.stored before tokenId)
  exists_ : ∀ tokenId, (Act.on did tokenId).exists_ = true → contract.Owned before tokenId
  owner : ∀ tokenId, contract.Owned after tokenId →
    contract.Owned before tokenId ∨ (Act.on did tokenId).moves = true

variable {contract} {did : Option (Uint256 × Act)} {before middle after state : S}
  {named tokenId : Uint256} {act : Act} {fresh : List E}

theorem Apart.alone {evm : Evm} {address : Address}
    (apart : contract.Apart evm address state tokenId)
    (ids : contract.source.entityId = srrEntityId evm address) :
    contract.source.Alone tokenId (contract.logs state) :=
  DataSource.alone ids apart

theorem index_view (lawful : contract.source.Lawful)
    (alone : contract.source.Alone tokenId (contract.logs state)) {licensedUserWallet feed store}
    (logged : feed.map Emitted.event = contract.logs state)
    (indexed : index contract.source.handle (.blank licensedUserWallet) feed = some store) :
    viewOf store (contract.source.entityId tokenId) = View.of (contract.notes state tokenId) := by
  rw [lawful.index_view licensedUserWallet indexed, logged, alone.notes]
  rfl

theorem Shows.mirrors (shows : contract.Shows state tokenId) (lawful : contract.source.Lawful)
    (alone : contract.source.Alone tokenId (contract.logs state)) :
    Mirrors (View.of (contract.notes state tokenId)) (contract.stored state tokenId)
      (lastSender (contract.notes state tokenId)) := by
  have logged : ((contract.logs state).map (Emitted.mk 0)).map Emitted.event =
      contract.logs state := by
    rw [List.map_map]
    exact List.map_id _
  obtain ⟨store, indexed, mirrors⟩ := shows (fun _ => false) _ logged
  rwa [index_view lawful alone logged indexed] at mirrors

theorem shows_iff (lawful : contract.source.Lawful)
    (fed : contract.source.Fed (contract.logs state))
    (alone : contract.source.Alone tokenId (contract.logs state)) :
    contract.Shows state tokenId ↔
      Mirrors (View.of (contract.notes state tokenId)) (contract.stored state tokenId)
        (lastSender (contract.notes state tokenId)) := by
  refine ⟨fun shows => shows.mirrors lawful alone, ?_⟩
  intro mirrors licensedUserWallet feed logged
  rw [← logged] at fed
  obtain ⟨store, indexed⟩ := lawful.index_some licensedUserWallet fed
  refine ⟨store, indexed, ?_⟩
  rwa [index_view lawful alone logged indexed]

theorem Kept.shows (kept : contract.Kept state) (lawful : contract.source.Lawful)
    (alone : contract.source.Alone tokenId (contract.logs state)) :
    contract.Shows state tokenId :=
  (shows_iff lawful kept.fed alone).mpr (kept.followed tokenId).mirrors

theorem Does.kept (does : contract.Does did before after) (kept : contract.Kept before)
    (fits : ∀ tokenId, (Act.on did tokenId).Fits (contract.stored before tokenId)
      (contract.notes before tokenId)) : contract.Kept after where
  fed := does.fed kept.fed
  followed tokenId := by
    rw [does.stores, does.notes]
    exact Act.followed (kept.followed tokenId) (does.exists_ tokenId) (fits tokenId)
      (does.owner tokenId)

/-- After a call the subgraph shows what is stored of a token exactly if the call fits. -/
theorem Does.shows_iff (does : contract.Does did before after) (kept : contract.Kept before)
    (lawful : contract.source.Lawful)
    (alone : contract.source.Alone tokenId (contract.logs after)) :
    contract.Shows after tokenId ↔
      (Act.on did tokenId).Fits (contract.stored before tokenId)
        (contract.notes before tokenId) := by
  rw [Contract.shows_iff lawful (does.fed kept.fed) alone, does.stores, does.notes]
  exact (Act.on did tokenId).mirrors_iff (kept.followed tokenId) (does.exists_ tokenId)

theorem Does.since (first : contract.Does none before middle)
    (does : contract.Does did middle after) : contract.Does did before after where
  fed fed := does.fed (first.fed fed)
  notes tokenId := by
    rw [does.notes, first.notes, first.stores]
    rfl
  stores tokenId := by
    rw [does.stores, first.stores]
    rfl
  exists_ tokenId acted := (first.owner tokenId (does.exists_ tokenId acted)).resolve_right nofun
  owner tokenId owned := by
    rcases does.owner tokenId owned with owned | moves
    · exact Or.inl ((first.owner tokenId owned).resolve_right nofun)
    · exact Or.inr moves

theorem notes_named {said : List Note}
    (noted : fresh.filterMap contract.source.note = said.map (Prod.mk named)) (tokenId : Uint256) :
    contract.source.notes tokenId fresh = if tokenId = named then said else [] := by
  have split : contract.source.notes tokenId fresh =
      (fresh.filterMap contract.source.note).filterMap fun (other, note) =>
        if other = tokenId then some note else none := by
    rw [List.filterMap_filterMap]
    simp [DataSource.notes, DataSource.notesOf]
  rw [split, noted, List.filterMap_map]
  by_cases here : tokenId = named
  · subst here
    simp
  · simp [here, Ne.symm here]

theorem Does.on (grown : contract.logs after = fresh ++ contract.logs before)
    (fed : contract.source.Fed (contract.logs before) →
      contract.source.Fed (fresh ++ contract.logs before))
    (noted : fresh.filterMap contract.source.note =
      (act.notes (contract.stored before named)).map (Prod.mk named))
    (stores : contract.stored after = Function.update (contract.stored before) named
      (act.stores (contract.stored before named)))
    (exists_ : act.exists_ = true → contract.Owned before named)
    (owner : ∀ tokenId, contract.Owned after tokenId →
      contract.Owned before tokenId ∨ tokenId = named ∧ act.moves = true) :
    contract.Does (some (named, act)) before after := by
  refine ⟨?_, ?_, ?_, ?_, ?_⟩
  · rwa [grown]
  · intro tokenId
    unfold Contract.notes
    rw [grown, DataSource.notes, DataSource.notesOf_append]
    refine congrArg (· ++ _) ((notes_named noted tokenId).trans ?_)
    by_cases here : tokenId = named
    · subst here
      simp [Act.on]
    · simp [Act.on, here, Act.notes]
  · intro tokenId
    rw [stores]
    by_cases here : tokenId = named
    · subst here
      simp [Act.on]
    · simp [Act.on, here, Act.stores]
  · intro tokenId acted
    by_cases here : tokenId = named
    · subst here
      exact exists_ (by simpa [Act.on] using acted)
    · simp [Act.on, here, Act.exists_] at acted
  · intro tokenId owned
    rcases owner tokenId owned with before_ | ⟨rfl, moves⟩
    · exact Or.inl before_
    · exact Or.inr (by simpa [Act.on] using moves)

theorem Does.quiet (grown : contract.logs after = fresh ++ contract.logs before)
    (fed : contract.source.Fed (contract.logs before) →
      contract.source.Fed (fresh ++ contract.logs before))
    (noted : fresh.filterMap contract.source.note = [])
    (stores : contract.stored after = contract.stored before)
    (owner : ∀ tokenId, contract.Owned after tokenId → contract.Owned before tokenId) :
    contract.Does none before after := by
  refine ⟨?_, ?_, fun _ => congrFun stores _, nofun, fun tokenId owned => Or.inl (owner _ owned)⟩
  · rwa [grown]
  · intro tokenId
    unfold Contract.notes
    rw [grown, DataSource.notes, DataSource.notesOf_append]
    have silent : contract.source.notes tokenId fresh = [] := by
      rw [@notes_named _ _ contract tokenId fresh [] noted]
      exact ite_self _
    exact congrArg (· ++ _) silent

end Contract

end Startrail.Subgraph
