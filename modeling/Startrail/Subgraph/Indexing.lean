import Startrail.Subgraph.Views

/-!
From a log to a view. Whatever else a handler saves, what it does to the commitments of a token is
`View.after` of what its event says of the token, and nothing happens to a token with another id.
So the store shows of an entity what all the events that share its id come to.
-/

namespace Startrail.Subgraph

def viewOf (store : Store) (id : Bytes32) : View :=
  ⟨(store.srr id).map SRR.transferCommitment,
    (store.srrTransferCommit id).map fun srrCommit =>
      ⟨srrCommit.commitment, srrCommit.customHistory, srrCommit.sender⟩⟩

/-- What a handler does to the views of all entities. -/
def Touches (before after : Store) (srrId : Bytes32) (note : Note) : Prop :=
  ∀ id, viewOf after id =
    if id = srrId then (viewOf before srrId).after note else viewOf before id

def Spares (before after : Store) : Prop := ∀ id, viewOf after id = viewOf before id

section Handlers

variable {store : Store} {time : Nat} {srrId : Bytes32}

theorem saveSRR_view (store : Store) (srrId : Bytes32) (srr : SRR) (id : Bytes32) :
    viewOf (store.saveSRR srrId srr) id =
      if id = srrId then ⟨some srr.transferCommitment, (viewOf store id).commit⟩
      else viewOf store id := by
  by_cases same : id = srrId
  · subst same
    simp [viewOf, Store.saveSRR]
  · simp [viewOf, Store.saveSRR, same]

theorem saveSRRTransferCommit_view (store : Store) (srrId : Bytes32)
    (srrCommit : SRRTransferCommit) (id : Bytes32) :
    viewOf (store.saveSRRTransferCommit srrId srrCommit) id =
      if id = srrId then ⟨(viewOf store id).srr,
        some ⟨srrCommit.commitment, srrCommit.customHistory, srrCommit.sender⟩⟩
      else viewOf store id := by
  by_cases same : id = srrId
  · subst same
    simp [viewOf, Store.saveSRRTransferCommit]
  · simp [viewOf, Store.saveSRRTransferCommit, same]

theorem Spares.refl (store : Store) : Spares store store := fun _ => rfl

theorem Touches.after {middle after : Store} {note : Note} (spares : Spares store middle)
    (touches : Touches middle after srrId note) : Touches store after srrId note := by
  intro id
  rw [touches id, spares srrId, spares id]

theorem saveSRR_spares {srr saved : SRR} (found : store.srr srrId = some srr)
    (same : saved.transferCommitment = srr.transferCommitment) :
    Spares store (store.saveSRR srrId saved) := by
  intro id
  rw [saveSRR_view]
  split
  · rename_i here
    subst here
    simp [viewOf, found, same]
  · rfl

theorem handleSRRProvenanceInternal_spares (to_ : Address) :
    Spares store (handleSRRProvenanceInternal store time srrId to_) := by
  unfold handleSRRProvenanceInternal
  split
  · exact .refl _
  · rename_i srr found
    exact saveSRR_spares found rfl

theorem handleLockExternalTransfer_spares (flag : Bool) :
    Spares store (handleLockExternalTransfer store srrId flag) := by
  unfold handleLockExternalTransfer
  split
  · exact .refl _
  · rename_i srr found
    exact saveSRR_spares found rfl

theorem handleRoyaltiesSet_spares (receiver : Address) (basisPoints : Uint16) :
    Spares store (handleRoyaltiesSet store time srrId receiver basisPoints) := by
  unfold handleRoyaltiesSet
  split
  · exact .refl _
  · rename_i srr found
    exact saveSRR_spares found rfl

theorem handleUpdateSRRInternal_spares (isPrimaryIssuer : Bool) (artistAddress : Address) :
    Spares store (handleUpdateSRRInternal store time srrId isPrimaryIssuer artistAddress) := by
  unfold handleUpdateSRRInternal
  split
  · rename_i srr artist found _
    exact saveSRR_spares found rfl
  · exact .refl _

theorem handleUpdateSRRMetadataHashInternal_spares {metadataDigest : Bytes} {store' : Store}
    (handled : handleUpdateSRRMetadataHashInternal store time srrId metadataDigest =
      some store') : Spares store store' := by
  unfold handleUpdateSRRMetadataHashInternal at handled
  split at handled
  · cases handled
    exact .refl _
  · rename_i srr found
    obtain ⟨_, rfl⟩ := saveSRRMetadataHistory_eq_some.mp handled
    exact saveSRR_spares found rfl

theorem saveCreateSRRInternal_spares {srr saved : SRR} {store' : Store}
    {isPrimaryIssuer lockExternalTransfer : Bool} {artist issuer : Address}
    {metadataDigest : Bytes} (found : store.srr srrId = some srr)
    (same : saved.transferCommitment = srr.transferCommitment)
    (handled : saveCreateSRRInternal store time srrId saved isPrimaryIssuer artist issuer
      metadataDigest lockExternalTransfer = some store') : Spares store store' := by
  obtain ⟨_, rfl⟩ := saveSRRMetadataHistory_eq_some.mp handled
  exact saveSRR_spares found same

theorem handleCreateSRR_spares {address : Address} {record : Collection.SRR} {metadataCID : Bytes}
    {lockExternalTransfer : Bool} {store' : Store}
    (handled : handleCreateSRR address store time srrId record metadataCID lockExternalTransfer =
      some store') : Spares store store' := by
  unfold handleCreateSRR at handled
  split at handled
  · cases handled
    exact .refl _
  · rename_i srr found
    refine saveCreateSRRInternal_spares found ?_ handled
    rfl

theorem loadOrCreate_view (tokenId : Uint256) (isMint : Bool) :
    (loadOrCreate store time srrId tokenId isMint).transferCommitment =
      (viewOf store srrId).transferCommitment := by
  unfold loadOrCreate View.transferCommitment viewOf
  cases store.srr srrId with
  | none => rfl
  | some srr => rfl

theorem checkAndClearCommitOnTransfer_view (srr : SRR) (id : Bytes32) :
    viewOf (checkAndClearCommitOnTransfer store time srrId srr).1 id =
      if id = srrId then ⟨(viewOf store id).srr, (viewOf store id).commit.map fun commit =>
        { commit with commitment := none }⟩
      else viewOf store id := by
  unfold checkAndClearCommitOnTransfer
  cases found : store.srrTransferCommit srrId with
  | none =>
      by_cases here : id = srrId
      · subst here
        simp [viewOf, found]
      · rw [if_neg here]
  | some srrCommit =>
      simp only
      rw [saveSRRTransferCommit_view]
      by_cases here : id = srrId
      · subst here
        simp [viewOf, found]
      · rw [if_neg here, if_neg here]

theorem handleTransfer_touches (from_ to_ : Address) (tokenId : Uint256) :
    Touches store (handleTransfer store time srrId from_ to_ tokenId) srrId
      (if from_ = 0 then .minted else .handed) := by
  intro id
  by_cases mint : from_ = 0
  · subst mint
    simp only [handleTransfer, BEq.rfl, if_true]
    rw [saveSRR_view]
    split
    · rename_i here
      subst here
      rw [loadOrCreate_view]
      rfl
    · rfl
  · have other : (from_ == 0) = false := beq_eq_false_iff_ne.mpr mint
    simp only [handleTransfer, other, Bool.false_eq_true, if_false, if_neg mint]
    rw [saveSRR_view, checkAndClearCommitOnTransfer_view, handleSRRProvenanceInternal_spares,
      saveSRR_view]
    split
    · rename_i here
      subst here
      rfl
    · rfl

theorem touches_unknown {note : Note} (found : store.srr srrId = none)
    (silent : ∀ view : View, view.srr = none → view.after note = view) :
    Touches store store srrId note := by
  intro id
  by_cases here : id = srrId
  · subst here
    rw [if_pos rfl, silent]
    simp [viewOf, found]
  · rw [if_neg here]

theorem handleSRRCommitmentInternal_touches (commitment : Bytes32)
    (customHistoryId : Option Uint256) (sender : Option Address) {told : Option Address}
    (passed : (if customHistoryId.isSome then none else told) = sender) :
    Touches store (handleSRRCommitmentInternal store time srrId commitment customHistoryId sender)
      srrId (.committed commitment customHistoryId told) := by
  subst passed
  unfold handleSRRCommitmentInternal
  cases found : store.srr srrId with
  | none =>
      refine touches_unknown found fun view none_ => ?_
      unfold View.after
      rw [none_]
  | some srr =>
      intro id
      have known : (viewOf store srrId).srr.isSome = true := by
        simp [viewOf, found]
      rw [View.after_committed known]
      simp only
      rw [saveSRRTransferCommit_view, saveSRR_view]
      by_cases here : id = srrId
      · subst here
        cases opened : store.srrTransferCommit id with
        | none => simp [Store.saveSRR, viewOf, View.customHistory, View.sender, opened]
        | some srrCommit => simp [Store.saveSRR, viewOf, View.customHistory, View.sender, opened]
      · rw [if_neg here, if_neg here, if_neg here]

theorem handleSRRCommitmentCancelledInternal_touches (sender : Option Address) :
    Touches store (handleSRRCommitmentCancelledInternal store time srrId sender) srrId
      (.cancelled sender) := by
  unfold handleSRRCommitmentCancelledInternal
  cases found : store.srr srrId with
  | none =>
      refine touches_unknown found fun view none_ => ?_
      unfold View.after
      rw [none_]
  | some srr =>
      intro id
      have known : (viewOf store srrId).srr.isSome = true := by
        simp [viewOf, found]
      rw [View.after_cancelled known]
      simp only
      cases opened : (store.saveSRR srrId { srr with
          transferCommitment := none, updatedAt := some time }).srrTransferCommit srrId with
      | none =>
          have closed : store.srrTransferCommit srrId = none := opened
          rw [saveSRR_view]
          by_cases here : id = srrId
          · subst here
            simp [viewOf, closed]
          · rw [if_neg here, if_neg here]
      | some srrCommit =>
          have kept : store.srrTransferCommit srrId = some srrCommit := opened
          simp only
          rw [saveSRRTransferCommit_view, saveSRR_view]
          by_cases here : id = srrId
          · subst here
            simp [viewOf, kept]
          · rw [if_neg here, if_neg here, if_neg here]

end Handlers

/-- The handlers of one contract's events, with what an event says of which token, the token whose
record it takes for granted and the digest that it gives a record. -/
structure DataSource (E : Type) where
  handle : Emitted E → Store → Option Store
  entityId : Uint256 → Bytes32
  note : E → Option (Uint256 × Note)
  requires : E → Option Uint256
  digest : E → Option Bytes

namespace DataSource

variable {E : Type} (source : DataSource E)

-- What the events of a log say of the tokens that are meant, the latest first.
def notesOf (meant : Uint256 → Bool) (logs : List E) : List Note :=
  logs.filterMap fun event => (source.note event).bind fun (tokenId, note) =>
    if meant tokenId then some note else none

def notes (tokenId : Uint256) (logs : List E) : List Note :=
  source.notesOf (fun other => other = tokenId) logs

/-- No other token in the log has the id of the token's record. -/
def Alone (tokenId : Uint256) (logs : List E) : Prop :=
  ∀ event ∈ logs, ∀ other note, source.note event = some (other, note) →
    source.entityId other = source.entityId tokenId → other = tokenId

def records : Note → Bool
  | .minted | .handed => true
  | _ => false

/-- The records that events take for granted are there before them, and no digest is empty. -/
def Fed : List E → Prop
  | [] => True
  | event :: earlier => Fed earlier ∧ source.digest event ≠ some [] ∧
      ∀ tokenId, source.requires event = some tokenId →
        (source.notes tokenId earlier).any records = true

structure Lawful : Prop where
  touches : ∀ {emitted store store' tokenId note}, source.handle emitted store = some store' →
    source.note emitted.event = some (tokenId, note) →
    Touches store store' (source.entityId tokenId) note
  spares : ∀ {emitted store store'}, source.handle emitted store = some store' →
    source.note emitted.event = none → Spares store store'
  total : ∀ emitted store, source.digest emitted.event ≠ some [] →
    (∀ tokenId, source.requires emitted.event = some tokenId →
      (viewOf store (source.entityId tokenId)).srr.isSome = true) →
    ∃ store', source.handle emitted store = some store'

variable {source} {meant : Uint256 → Bool} {logs earlier : List E} {event : E}
  {tokenId other : Uint256} {note : Note}

theorem notesOf_cons_some (named : source.note event = some (tokenId, note)) :
    source.notesOf meant (event :: logs) =
      if meant tokenId then note :: source.notesOf meant logs else source.notesOf meant logs := by
  unfold notesOf
  rw [List.filterMap_cons, named]
  simp only [Option.bind_some]
  cases meant tokenId with
  | false => rfl
  | true => rfl

theorem notesOf_cons_none (silent : source.note event = none) :
    source.notesOf meant (event :: logs) = source.notesOf meant logs := by
  unfold notesOf
  rw [List.filterMap_cons, silent]
  rfl

theorem notesOf_append (fresh logs : List E) :
    source.notesOf meant (fresh ++ logs) =
      source.notesOf meant fresh ++ source.notesOf meant logs :=
  List.filterMap_append

theorem notes_sublist (tokenId : Uint256) (logs : List E) :
    (source.notes tokenId logs).Sublist
      (source.notesOf (fun other => source.entityId other = source.entityId tokenId) logs) := by
  induction logs with
  | nil => exact .refl _
  | cons event logs ih =>
      unfold notes at ih ⊢
      cases named : source.note event with
      | none =>
          rw [notesOf_cons_none named, notesOf_cons_none named]
          exact ih
      | some said =>
          obtain ⟨other, note⟩ := said
          rw [notesOf_cons_some named, notesOf_cons_some named]
          by_cases same : other = tokenId
          · subst same
            simpa using ih
          · rw [if_neg (by simpa using same)]
            split
            · exact ih.cons _
            · exact ih

theorem Alone.notes (alone : source.Alone tokenId logs) :
    source.notesOf (fun other => source.entityId other = source.entityId tokenId) logs =
      source.notes tokenId logs := by
  unfold DataSource.notes DataSource.notesOf
  refine List.filterMap_congr fun event belongs => ?_
  cases named : source.note event with
  | none => rfl
  | some said =>
      obtain ⟨other, note⟩ := said
      by_cases same : other = tokenId
      · simp [same]
      · have apart : source.entityId other ≠ source.entityId tokenId :=
          fun shared => same (alone event belongs other note named shared)
        simp [same, apart]

theorem view_records {notes : List Note} (recorded : notes.any records = true) :
    (View.of notes).srr.isSome = true := by
  induction notes with
  | nil => cases recorded
  | cons note notes ih =>
      rw [List.any_cons, Bool.or_eq_true] at recorded
      rcases recorded with now | before
      · cases note with
        | minted => rfl
        | handed => rfl
        | committed => cases now
        | cancelled => cases now
      · exact View.after_known (ih before) note

theorem records_of_view {notes : List Note} (known : (View.of notes).srr.isSome = true) :
    notes.any records = true := by
  induction notes with
  | nil => cases known
  | cons note notes ih =>
      rw [List.any_cons, Bool.or_eq_true]
      have before : ∀ note : Note, records note = false →
          ((View.of notes).after note).srr.isSome = true → (View.of notes).srr.isSome = true := by
        intro note silent later
        cases note with
        | minted => cases silent
        | handed => cases silent
        | _ =>
            unfold View.after at later
            cases shown : (View.of notes).srr with
            | none =>
                simp only [shown] at later
                cases later
            | some srr => rfl
      cases records_ : records note with
      | true => exact Or.inl rfl
      | false => exact Or.inr (ih (before note records_ known))

/-- The store shows of an entity what the events that share its id come to. -/
theorem Lawful.index_view (lawful : source.Lawful) (licensedUserWallet : Address → Bool)
    {feed : List (Emitted E)} {store : Store}
    (indexed : index source.handle (.blank licensedUserWallet) feed = some store) (id : Bytes32) :
    viewOf store id =
      View.of (source.notesOf (fun tokenId => source.entityId tokenId = id)
        (feed.map Emitted.event)) := by
  induction feed generalizing store with
  | nil =>
      cases indexed
      rfl
  | cons emitted feed ih =>
      obtain ⟨before, earlier, handled⟩ := Option.bind_eq_some_iff.mp indexed
      rw [List.map_cons]
      cases named : source.note emitted.event with
      | none =>
          rw [notesOf_cons_none named, lawful.spares handled named, ih earlier]
      | some said =>
          obtain ⟨tokenId, note⟩ := said
          rw [notesOf_cons_some named, lawful.touches handled named]
          by_cases same : source.entityId tokenId = id
          · subst same
            rw [if_pos rfl, if_pos (by simp), ih earlier]
            rfl
          · rw [if_neg (Ne.symm same), if_neg (by simpa using same), ih earlier]

/-- The record of a token that was minted or handed over is there. -/
theorem Lawful.index_known (lawful : source.Lawful) (licensedUserWallet : Address → Bool)
    {feed : List (Emitted E)} {store : Store}
    (indexed : index source.handle (.blank licensedUserWallet) feed = some store)
    (recorded : (source.notes tokenId (feed.map Emitted.event)).any records = true) :
    (viewOf store (source.entityId tokenId)).srr.isSome = true := by
  rw [lawful.index_view licensedUserWallet indexed]
  obtain ⟨note, noted, records⟩ := List.any_eq_true.mp recorded
  exact view_records (List.any_eq_true.mpr ⟨note, (notes_sublist tokenId _).subset noted, records⟩)

/-- No handler fails. -/
theorem Lawful.index_some (lawful : source.Lawful) (licensedUserWallet : Address → Bool)
    {feed : List (Emitted E)} (fed : source.Fed (feed.map Emitted.event)) :
    ∃ store, index source.handle (.blank licensedUserWallet) feed = some store := by
  induction feed with
  | nil => exact ⟨_, rfl⟩
  | cons emitted feed ih =>
      rw [List.map_cons] at fed
      obtain ⟨before, earlier⟩ := ih fed.1
      obtain ⟨after, handled⟩ := lawful.total emitted before fed.2.1 fun tokenId required =>
        lawful.index_known licensedUserWallet earlier (fed.2.2 tokenId required)
      exact ⟨after, Option.bind_eq_some_iff.mpr ⟨before, earlier, handled⟩⟩

end DataSource

end Startrail.Subgraph
