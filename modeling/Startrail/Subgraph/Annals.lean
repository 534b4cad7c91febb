import Mathlib.Data.List.Nodup
import Startrail.Subgraph.Handovers

/-!
The histories that the subgraph keeps of a log. Every event that says something of an owner enters
one entity, so what the subgraph has at the end is the register of these, and for one token the
register of what was said of it. Then the changes of its owner have an entity each just when no two
of them are in one block.
-/

namespace Startrail.Subgraph

section Handlers

variable {evm : Evm} {hexForm : Bytes → Bytes} {archive : Archive} {time : Nat} {srrId : Bytes32}
  {from_ to_ : Address}

theorem provenanceInternal_store {customHistoryId : Option Uint256} {isIntermediary : Bool}
    {historyMetadataHash historyMetadataURI : Option Bytes} {sender : Option Address} :
    (archive.handleSRRProvenanceInternal evm hexForm time srrId from_ to_ customHistoryId
      historyMetadataHash historyMetadataURI isIntermediary sender).store =
        handleSRRProvenanceInternal archive.store time srrId to_ := by
  unfold Archive.handleSRRProvenanceInternal handleSRRProvenanceInternal
  cases archive.store.srr srrId with
  | none => rfl
  | some srr =>
      dsimp only
      split
      · rfl
      · rfl

theorem provenanceInternal_table {customHistoryId : Option Uint256} {isIntermediary : Bool}
    {historyMetadataHash historyMetadataURI : Option Bytes} {sender : Option Address}
    (known : (archive.store.srr srrId).isSome = true) :
    (archive.handleSRRProvenanceInternal evm hexForm time srrId from_ to_ customHistoryId
      historyMetadataHash historyMetadataURI isIntermediary sender).srrProvenance =
        enter archive.srrProvenance (provenanceId evm srrId time)
          ⟨srrId, from_, to_, sender, metadataDigestOf hexForm historyMetadataHash,
            historyMetadataURI.getD [], customHistoryId, isIntermediary, time, time⟩ := by
  obtain ⟨srr, found⟩ := Option.isSome_iff_exists.mp known
  unfold Archive.handleSRRProvenanceInternal
  rw [found]
  cases used : archive.srrProvenance (provenanceId evm srrId time) with
  | none =>
      rw [enter_unused used]
      simp only [Archive.saveSRR, Archive.saveSRRProvenance, used]
  | some kept =>
      rw [enter_used used]
      simp only [Archive.saveSRR, used]

theorem transfer_store {tokenId : Uint256} :
    (archive.handleTransfer evm hexForm time srrId from_ to_ tokenId).store =
      handleTransfer archive.store time srrId from_ to_ tokenId := by
  unfold Archive.handleTransfer handleTransfer
  dsimp only
  split
  · rfl
  · rw [provenanceInternal_store]
    rfl

theorem transfer_table {tokenId : Uint256} :
    (archive.handleTransfer evm hexForm time srrId from_ to_ tokenId).srrProvenance =
      if from_ = 0 then archive.srrProvenance
      else enter archive.srrProvenance (provenanceId evm srrId time)
        ⟨srrId, from_, to_, none, [], [], none, false, time, time⟩ := by
  unfold Archive.handleTransfer
  dsimp only
  by_cases mint : from_ = 0
  · rw [if_pos mint, if_pos (beq_iff_eq.mpr mint)]
    rfl
  · rw [if_neg mint, if_neg (mint ∘ beq_iff_eq.mp)]
    refine provenanceInternal_table ?_
    simp only [Archive.saveSRR, Store.saveSRR, Function.update_self, Option.isSome_some]

/-- The handler of an event that says something of an owner. -/
def Deed.handle (evm : Evm) (hexForm : Bytes → Bytes) (archive : Archive) (time : Nat)
    (srrId : Bytes32) (tokenId : Uint256) : Deed → Archive
  | .minted to_ => archive.handleTransfer evm hexForm time srrId 0 to_ tokenId
  | .passed from_ to_ => archive.handleTransfer evm hexForm time srrId from_ to_ tokenId
  | .told from_ to_ provenance => archive.handleSRRProvenanceInternal evm hexForm time srrId from_
      to_ provenance.customHistoryId (some provenance.historyMetadataHash)
      (some provenance.historyMetadataURI) provenance.isIntermediary provenance.sender

def Deed.handleStore (store : Store) (time : Nat) (srrId : Bytes32) (tokenId : Uint256) :
    Deed → Store
  | .minted to_ => handleTransfer store time srrId 0 to_ tokenId
  | .passed from_ to_ => handleTransfer store time srrId from_ to_ tokenId
  | .told _ to_ _ => handleSRRProvenanceInternal store time srrId to_

theorem Deed.handle_store {deed : Deed} {tokenId : Uint256} :
    (deed.handle evm hexForm archive time srrId tokenId).store =
      deed.handleStore archive.store time srrId tokenId := by
  cases deed with
  | minted to_ => exact transfer_store
  | passed from_ to_ => exact transfer_store
  | told from_ to_ provenance => exact provenanceInternal_store

-- Only what is no mint is passed on.
def Deed.Proper : Deed → Prop
  | .passed from_ _ => from_ ≠ 0
  | _ => True

theorem Deed.handle_table {deed : Deed} {tokenId : Uint256} (proper : deed.Proper)
    (known : deed.moves = false → (archive.store.srr srrId).isSome = true) {seconds : Nat}
    (times : time = secondsToMillis seconds) :
    (deed.handle evm hexForm archive time srrId tokenId).srrProvenance =
      enters archive.srrProvenance (deed.entry evm hexForm srrId seconds) := by
  subst times
  cases deed with
  | minted to_ => exact transfer_table.trans (if_pos rfl)
  | passed from_ to_ => exact transfer_table.trans (if_neg proper)
  | told from_ to_ provenance => exact provenanceInternal_table (known rfl)

end Handlers

/-- A contract whose events the subgraph indexes, and what they say of the owners. -/
structure Annals (E : Type) where
  source : DataSource E
  handle : Emitted E → Archive → Option Archive
  deed : E → Option (Uint256 × Deed)

namespace Annals

variable {E : Type} (annals : Annals E) (evm : Evm) (hexForm : Bytes → Bytes)

def entry (logged : Nat × E) : Option (Bytes32 × SRRProvenance) :=
  (annals.deed logged.2).bind fun (tokenId, deed) =>
    deed.entry evm hexForm (annals.source.entityId tokenId) logged.1

structure Lawful : Prop where
  source : annals.source.Lawful
  base : ∀ emitted archive, (annals.handle emitted archive).map Archive.store =
    annals.source.handle emitted archive.store
  moves : ∀ {event tokenId deed}, annals.deed event = some (tokenId, deed) → deed.moves = true →
    ∃ note, annals.source.note event = some (tokenId, note) ∧ DataSource.records note = true
  enters : ∀ {time event archive archive'}, annals.handle ⟨time, event⟩ archive = some archive' →
    (∀ tokenId deed, annals.deed event = some (tokenId, deed) → deed.moves = false →
      (archive.store.srr (annals.source.entityId tokenId)).isSome = true) →
    archive'.srrProvenance =
      Startrail.enters archive.srrProvenance (annals.entry evm hexForm (time, event))

/-- The handlers do what their events say, and the others leave the histories alone. -/
structure Follows : Prop where
  source : annals.source.Lawful
  moves : ∀ {event tokenId deed}, annals.deed event = some (tokenId, deed) → deed.moves = true →
    ∃ note, annals.source.note event = some (tokenId, note) ∧ DataSource.records note = true
  told : ∀ {event tokenId deed}, annals.deed event = some (tokenId, deed) → deed.Proper ∧
    ∀ time, (∀ archive, annals.handle ⟨time, event⟩ archive = some (deed.handle evm hexForm archive
        (secondsToMillis time) (annals.source.entityId tokenId) tokenId)) ∧
      ∀ store, annals.source.handle ⟨time, event⟩ store = some (deed.handleStore store
        (secondsToMillis time) (annals.source.entityId tokenId) tokenId)
  untold : ∀ {event}, annals.deed event = none → ∀ time archive,
    annals.handle ⟨time, event⟩ archive = (annals.source.handle ⟨time, event⟩ archive.store).map
      fun store => { archive with store := store }

variable {annals evm hexForm} {licensedUserWallet : Address → Bool} {feed : List (Nat × E)}
  {archive : Archive}

theorem Follows.lawful (follows : annals.Follows evm hexForm) : annals.Lawful evm hexForm where
  source := follows.source
  moves := follows.moves
  base := by
    rintro ⟨time, event⟩ archive
    cases named : annals.deed event with
    | none =>
        rw [follows.untold named]
        cases annals.source.handle ⟨time, event⟩ archive.store with
        | none => rfl
        | some store => rfl
    | some said =>
        obtain ⟨handled, stored⟩ := (follows.told named).2 time
        rw [handled, stored, Option.map_some, Deed.handle_store]
  enters := by
    intro time event archive archive' handled known
    cases named : annals.deed event with
    | none =>
        rw [follows.untold named] at handled
        obtain ⟨store, _, rfl⟩ := Option.map_eq_some_iff.mp handled
        rw [entry, named]
        rfl
    | some said =>
        obtain ⟨tokenId, deed⟩ := said
        obtain ⟨proper, handles⟩ := follows.told named
        rw [(handles time).1] at handled
        cases handled
        rw [entry, named]
        exact Deed.handle_table proper (known tokenId deed named) rfl

def emitted (logged : Nat × E) : Emitted E := ⟨logged.1, logged.2⟩

theorem Lawful.index_store (lawful : annals.Lawful evm hexForm) :
    (Archive.index annals.handle (.blank licensedUserWallet) feed).map Archive.store =
      index annals.source.handle (.blank licensedUserWallet) (feed.map emitted) := by
  induction feed with
  | nil => rfl
  | cons logged feed ih =>
      obtain ⟨time, event⟩ := logged
      rw [List.map_cons, index, ← ih, Archive.index]
      cases Archive.index annals.handle (.blank licensedUserWallet) feed with
      | none => rfl
      | some archive => exact lawful.base ⟨time, event⟩ archive

theorem Lawful.present (lawful : annals.Lawful evm hexForm) {tokenId : Uint256}
    (indexed : Archive.index annals.handle (.blank licensedUserWallet) feed = some archive)
    (heralded : Heralded (deedsOf annals.deed tokenId feed))
    (spoken : deedsOf annals.deed tokenId feed ≠ []) :
    (archive.store.srr (annals.source.entityId tokenId)).isSome = true := by
  obtain ⟨time, deed, member, moves⟩ := heralded.moved spoken
  obtain ⟨event, belongs, named⟩ := deedsOf_mem member
  obtain ⟨note, noted, records⟩ := lawful.moves named moves
  have stored : index annals.source.handle (.blank licensedUserWallet) (feed.map emitted) =
      some archive.store := by
    rw [← lawful.index_store, indexed]
    rfl
  have view := lawful.source.index_view licensedUserWallet stored
    (annals.source.entityId tokenId)
  have known := @DataSource.view_records (annals.source.notesOf
      (fun other => annals.source.entityId other = annals.source.entityId tokenId)
      ((feed.map emitted).map Emitted.event)) (List.any_eq_true.mpr ⟨note, ?_, records⟩)
  · rw [← view] at known
    rwa [viewOf, Option.isSome_map] at known
  · refine List.mem_filterMap.mpr ⟨event, ?_, ?_⟩
    · exact List.mem_map_of_mem (List.mem_map_of_mem belongs)
    · simp [noted]

theorem Lawful.index_table (lawful : annals.Lawful evm hexForm)
    (indexed : Archive.index annals.handle (.blank licensedUserWallet) feed = some archive)
    (heralded : ∀ tokenId, Heralded (deedsOf annals.deed tokenId feed)) :
    archive.srrProvenance = register (feed.filterMap (annals.entry evm hexForm)) := by
  induction feed generalizing archive with
  | nil =>
      cases indexed
      rfl
  | cons logged earlier ih =>
      obtain ⟨time, event⟩ := logged
      obtain ⟨before, past, handled⟩ := Option.bind_eq_some_iff.mp indexed
      have tails : ∀ tokenId, Heralded (deedsOf annals.deed tokenId earlier) := by
        intro tokenId
        have whole := heralded tokenId
        cases named : annals.deed event with
        | none => rwa [deedsOf_silent named] at whole
        | some told =>
            obtain ⟨other, said⟩ := told
            rw [deedsOf_cons named] at whole
            split at whole
            · cases said with
              | minted to_ => exact whole
              | passed from_ to_ => exact whole
              | told from_ to_ provenance => exact whole.2
            · exact whole
      rw [register_cons, ← ih past tails]
      refine lawful.enters handled fun tokenId deed named still => ?_
      refine lawful.present past (tails tokenId) ?_
      have whole := heralded tokenId
      rw [deedsOf_cons named, if_pos rfl] at whole
      cases deed with
      | minted to_ => cases still
      | passed from_ to_ => cases still
      | told from_ to_ provenance => exact whole.1

section Apart

variable (annals evm hexForm) (address : Address)

/-- All that is hashed for the ids of the records and the entities of a feed. -/
def inputs (feed : List (Nat × E)) : List Bytes :=
  feed.flatMap fun (time, event) => match annals.deed event with
    | none => []
    | some (tokenId, _) => [entityInput address tokenId,
        provenanceInput (srrEntityId evm address tokenId) (secondsToMillis time)]

/-- No two of the ids of a feed, and of the token, are the same by accident. -/
def Apart (tokenId : Uint256) (feed : List (Nat × E)) : Prop :=
  evm.CollisionFree (entityInput address tokenId :: annals.inputs evm address feed)

instance (tokenId : Uint256) (feed : List (Nat × E)) :
    Decidable (annals.Apart evm address tokenId feed) :=
  inferInstanceAs (Decidable (evm.CollisionFree _))

def entryOf (tokenId : Uint256) (logged : Nat × E) : Option (Bytes32 × SRRProvenance) :=
  (annals.deed logged.2).bind fun (other, deed) =>
    if other = tokenId then deed.entry evm hexForm (annals.source.entityId tokenId) logged.1
    else none

variable {annals evm hexForm address} {tokenId other : Uint256} {time : Nat} {deed : Deed}
  {event : E} {id : Bytes32} {value : SRRProvenance}

theorem inputs_told (belongs : (time, event) ∈ feed)
    (named : annals.deed event = some (other, deed)) :
    entityInput address other ∈ annals.inputs evm address feed ∧
      provenanceInput (srrEntityId evm address other) (secondsToMillis time) ∈
        annals.inputs evm address feed := by
  constructor
  · refine List.mem_flatMap.mpr ⟨(time, event), belongs, ?_⟩
    simp only [named, List.mem_cons, true_or]
  · refine List.mem_flatMap.mpr ⟨(time, event), belongs, ?_⟩
    simp only [named, List.mem_cons, true_or, or_true]

theorem entries_deedsOf : entries evm hexForm (annals.source.entityId tokenId)
    (deedsOf annals.deed tokenId feed) = feed.filterMap (annals.entryOf evm hexForm tokenId) := by
  unfold entries deedsOf
  rw [List.filterMap_filterMap]
  apply List.filterMap_congr
  rintro ⟨time, event⟩ _
  unfold entryOf
  cases named : annals.deed event with
  | none => simp only [named, Option.bind_none]
  | some told =>
      simp only [named, Option.bind_some]
      split
      · rfl
      · rfl

theorem entry_some (entered : annals.entry evm hexForm (time, event) = some (id, value)) :
    ∃ other deed, annals.deed event = some (other, deed) ∧
      deed.entry evm hexForm (annals.source.entityId other) time = some (id, value) ∧
      id = provenanceId evm (annals.source.entityId other) (secondsToMillis time) ∧
      value.srr = annals.source.entityId other ∧
      ∃ told, value.metadataDigest = metadataDigestOf hexForm told := by
  obtain ⟨⟨other, deed⟩, named, told⟩ := Option.bind_eq_some_iff.mp entered
  refine ⟨other, deed, named, told, ?_⟩
  obtain ⟨handover, made, same⟩ := Option.map_eq_some_iff.mp told
  cases same
  refine ⟨?_, rfl, _, rfl⟩
  rw [Handover.id, deed.handover_time made]

theorem entryOf_entry
    (entered : annals.entryOf evm hexForm tokenId (time, event) = some (id, value)) :
    annals.entry evm hexForm (time, event) = some (id, value) := by
  obtain ⟨⟨other, deed⟩, named, told⟩ := Option.bind_eq_some_iff.mp entered
  by_cases same : other = tokenId
  · subst same
    simp only [if_pos] at told
    exact Option.bind_eq_some_iff.mpr ⟨_, named, told⟩
  · simp only [if_neg same, reduceCtorEq] at told

theorem entry_entryOf (named : annals.deed event = some (tokenId, deed))
    (told : deed.entry evm hexForm (annals.source.entityId tokenId) time = some (id, value)) :
    annals.entryOf evm hexForm tokenId (time, event) = some (id, value) := by
  refine Option.bind_eq_some_iff.mpr ⟨_, named, ?_⟩
  simpa only [if_pos] using told

theorem entry_of_srr (ids : annals.source.entityId = srrEntityId evm address)
    (apart : annals.Apart evm address tokenId feed) (belongs : (time, event) ∈ feed)
    (entered : annals.entry evm hexForm (time, event) = some (id, value))
    (mine : value.srr = srrEntityId evm address tokenId) :
    annals.entryOf evm hexForm tokenId (time, event) = some (id, value) := by
  obtain ⟨other, deed, named, told, _, srr, _⟩ := entry_some entered
  rw [mine, ids] at srr
  have hashed : entityInput address other ∈ annals.inputs evm address feed :=
    (inputs_told belongs named).1
  have same := entityInput_inj (apart _ List.mem_cons_self _ (List.mem_cons_of_mem _ hashed) srr)
  subst same
  exact entry_entryOf named told

theorem entry_of_id (ids : annals.source.entityId = srrEntityId evm address)
    (apart : annals.Apart evm address tokenId feed) (belongs : (time, event) ∈ feed)
    (entered : annals.entry evm hexForm (time, event) = some (id, value)) {handover : Handover}
    (member : handover ∈ handovers (deedsOf annals.deed tokenId feed))
    (here : id = handover.id evm (srrEntityId evm address tokenId)) :
    annals.entryOf evm hexForm tokenId (time, event) = some (id, value) := by
  obtain ⟨other, deed, named, told, known, srr, _⟩ := entry_some entered
  refine entry_of_srr ids apart belongs entered ?_
  rw [here, ids] at known
  obtain ⟨said, logged⟩ := handovers_logged member
  obtain ⟨event', belongs', named'⟩ := deedsOf_mem logged
  have hashed : provenanceInput (srrEntityId evm address other) (secondsToMillis time) ∈
      annals.inputs evm address feed := (inputs_told belongs named).2
  have hashed' : provenanceInput (srrEntityId evm address tokenId)
      (secondsToMillis handover.time) ∈ annals.inputs evm address feed :=
    (inputs_told belongs' named').2
  have inputs := apart _ (List.mem_cons_of_mem _ hashed') _ (List.mem_cons_of_mem _ hashed) known
  rw [srr, ids, (provenanceInput_inj inputs).1]

theorem register_entries (ids : annals.source.entityId = srrEntityId evm address)
    (apart : annals.Apart evm address tokenId feed) {handover : Handover}
    (member : handover ∈ handovers (deedsOf annals.deed tokenId feed)) :
    register (feed.filterMap (annals.entry evm hexForm))
        (handover.id evm (srrEntityId evm address tokenId)) =
      register (entries evm hexForm (srrEntityId evm address tokenId)
          (deedsOf annals.deed tokenId feed))
        (handover.id evm (srrEntityId evm address tokenId)) := by
  rw [← ids, entries_deedsOf]
  apply register_agree
  rintro ⟨time, event⟩ belongs value
  constructor
  · intro entered
    exact entry_of_id ids apart belongs entered member (by rw [ids])
  · exact entryOf_entry

theorem nodup_ids (apart : annals.Apart evm address tokenId feed) :
    ((handovers (deedsOf annals.deed tokenId feed)).map
      (Handover.id evm (srrEntityId evm address tokenId))).Nodup ↔
    ((handovers (deedsOf annals.deed tokenId feed)).map Handover.time).Nodup := by
  have split : (handovers (deedsOf annals.deed tokenId feed)).map
      (Handover.id evm (srrEntityId evm address tokenId)) =
      ((handovers (deedsOf annals.deed tokenId feed)).map Handover.time).map fun time =>
        provenanceId evm (srrEntityId evm address tokenId) (secondsToMillis time) :=
    by rw [List.map_map]; rfl
  rw [split]
  constructor
  · exact List.Nodup.of_map _
  · intro distinct
    refine distinct.map_on ?_
    intro left leftMember right rightMember same
    obtain ⟨first, firstMember, rfl⟩ := List.mem_map.mp leftMember
    obtain ⟨second, secondMember, rfl⟩ := List.mem_map.mp rightMember
    have hashed : ∀ {handover : Handover},
        handover ∈ handovers (deedsOf annals.deed tokenId feed) →
        provenanceInput (srrEntityId evm address tokenId) (secondsToMillis handover.time) ∈
          entityInput address tokenId :: annals.inputs evm address feed := by
      intro handover member
      obtain ⟨said, logged⟩ := handovers_logged member
      obtain ⟨event, belongs, named⟩ := deedsOf_mem logged
      exact List.mem_cons_of_mem _ (inputs_told belongs named).2
    have times := (provenanceInput_inj (apart _ (hashed firstMember) _ (hashed secondMember)
      same)).2
    unfold secondsToMillis at times
    omega

/-- The changes of a token's owner have an entity each just when no two are in one block, and the
hashes that were told of them can be shown. -/
theorem Lawful.keeps_iff (lawful : annals.Lawful evm hexForm) (forms : HexForm hexForm)
    (ids : annals.source.entityId = srrEntityId evm address)
    (apart : annals.Apart evm address tokenId feed) {licensedUserWallet : Address → Bool}
    {archive : Archive}
    (indexed : Archive.index annals.handle (.blank licensedUserWallet) feed = some archive)
    {owner : Uint256 → Address}
    (courses : ∀ tokenId, Course 0 (deedsOf annals.deed tokenId feed) (owner tokenId)) :
    Keeps archive (srrEntityId evm address tokenId)
        (handovers (deedsOf annals.deed tokenId feed)) ↔
      Separate (handovers (deedsOf annals.deed tokenId feed)) := by
  rw [separate_iff, ← nodup_ids apart, Keeps,
    lawful.index_table indexed fun tokenId => (courses tokenId).heralded]
  apply oneEach_iff
  · exact Records.srr
  · intro id value found mine
    obtain ⟨⟨time, event⟩, belongs, entered⟩ := List.mem_filterMap.mp (register_mem found)
    have told := entry_of_srr ids apart belongs entered mine
    have listed : (id, value) ∈ entries evm hexForm (srrEntityId evm address tokenId)
        (deedsOf annals.deed tokenId feed) := by
      rw [← ids, entries_deedsOf]
      exact List.mem_filterMap.mpr ⟨_, belongs, told⟩
    exact ((courses tokenId).entry_mem listed).1
  · intro id value handover found records provenance accompanied
    obtain ⟨⟨time, event⟩, _, entered⟩ := List.mem_filterMap.mp (register_mem found)
    obtain ⟨_, _, _, _, _, _, told, digest⟩ := entry_some entered
    obtain ⟨same, _⟩ := records.provenance provenance accompanied
    rw [digest] at same
    exact legible_of_sameHash forms same
  · intro distinct handover member legible
    rw [register_entries ids apart member]
    exact ⟨_, (courses tokenId).entity_found distinct handover member,
      Handover.records forms legible _⟩

end Apart

end Annals

section Contracts

/-- What a `Transfer` event says of the owner. -/
def transferDeed (from_ to_ : Address) : Deed :=
  if from_ = 0 then .minted to_ else .passed from_ to_

theorem transferDeed_told (from_ to_ : Address) : (transferDeed from_ to_).Proper ∧
    ∀ evm hexForm time srrId tokenId, (∀ archive : Archive,
        archive.handleTransfer evm hexForm time srrId from_ to_ tokenId =
          (transferDeed from_ to_).handle evm hexForm archive time srrId tokenId) ∧
      ∀ store, handleTransfer store time srrId from_ to_ tokenId =
        (transferDeed from_ to_).handleStore store time srrId tokenId := by
  unfold transferDeed
  by_cases mint : from_ = 0
  · subst mint
    exact ⟨trivial, fun _ _ _ _ _ => ⟨fun _ => rfl, fun _ => rfl⟩⟩
  · rw [if_neg mint]
    exact ⟨mint, fun _ _ _ _ _ => ⟨fun _ => rfl, fun _ => rfl⟩⟩

theorem transferNote_records (from_ : Address) :
    DataSource.records (if from_ = 0 then .minted else .handed) = true := by
  split
  · rfl
  · rfl

variable (evm : Evm) (hexForm : Bytes → Bytes) (address : Address)

def registryDeed : Registry.Event → Option (Uint256 × Deed)
  | .Transfer from_ to_ tokenId => some (tokenId, transferDeed from_ to_)
  | .Provenance tokenId from_ to_ customHistoryId historyMetadataHash historyMetadataURI
      isIntermediary =>
      some (tokenId, .told from_ to_
        ⟨historyMetadataHash, historyMetadataURI, customHistoryId, isIntermediary, none⟩)
  | _ => none

def registryAnnals : Annals Registry.Event where
  source := registrySource evm address
  handle := Archive.handleRegistryEvent evm hexForm address
  deed := registryDeed

theorem registryAnnals_follows : (registryAnnals evm hexForm address).Follows evm hexForm where
  source := registrySource_lawful evm address
  moves := by
    intro event tokenId deed named moves
    cases event with
    | Transfer from_ to_ =>
        cases named
        exact ⟨_, rfl, transferNote_records from_⟩
    | Provenance =>
        cases named
        cases moves
    | _ => cases named
  told := by
    intro event tokenId deed named
    cases event with
    | Transfer from_ to_ =>
        cases named
        obtain ⟨proper, handles⟩ := transferDeed_told from_ to_
        refine ⟨proper, fun time => ⟨fun archive => ?_, fun store => ?_⟩⟩
        · exact congrArg some ((handles evm hexForm _ _ _).1 archive)
        · exact congrArg some ((handles evm hexForm _ _ _).2 store)
    | Provenance =>
        cases named
        exact ⟨trivial, fun time => ⟨fun archive => rfl, fun store => rfl⟩⟩
    | _ => cases named
  untold := by
    intro event untold time archive
    cases event <;> first | rfl | cases untold

def collectionDeed : Collection.Event → Option (Uint256 × Deed)
  | .Transfer from_ to_ tokenId => some (tokenId, transferDeed from_ to_)
  | .Provenance tokenId from_ to_ customHistoryId historyMetadataHash historyMetadataURI
      isIntermediary sender =>
      some (tokenId, .told from_ to_
        ⟨historyMetadataHash, historyMetadataURI, customHistoryId, isIntermediary, sender⟩)
  | _ => none

def collectionAnnals : Annals Collection.Event where
  source := collectionSource evm address
  handle := Archive.handleCollectionEvent evm hexForm address
  deed := collectionDeed

theorem collectionAnnals_follows : (collectionAnnals evm hexForm address).Follows evm hexForm where
  source := collectionSource_lawful evm address
  moves := by
    intro event tokenId deed named moves
    cases event with
    | Transfer from_ to_ =>
        cases named
        exact ⟨_, rfl, transferNote_records from_⟩
    | Provenance =>
        cases named
        cases moves
    | _ => cases named
  told := by
    intro event tokenId deed named
    cases event with
    | Transfer from_ to_ =>
        cases named
        obtain ⟨proper, handles⟩ := transferDeed_told from_ to_
        refine ⟨proper, fun time => ⟨fun archive => ?_, fun store => ?_⟩⟩
        · exact congrArg some ((handles evm hexForm _ _ _).1 archive)
        · exact congrArg some ((handles evm hexForm _ _ _).2 store)
    | Provenance =>
        cases named
        exact ⟨trivial, fun time => ⟨fun archive => rfl, fun store => rfl⟩⟩
    | _ => cases named
  untold := by
    intro event untold time archive
    cases event <;> first | rfl | cases untold

end Contracts

end Startrail.Subgraph
