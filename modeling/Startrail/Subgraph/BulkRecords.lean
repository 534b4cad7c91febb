import Startrail.Bulk.Batches
import Startrail.Subgraph.Handlers

/-!
The leaves of the batches that the subgraph shows. The contract keeps the processed leaves of each
batch, but a leaf has one entity, whichever batch it was processed in.
-/

namespace Startrail

namespace Subgraph

section Handlers

structure Bulk where
  merkleRoot : Bytes32
  sender : Address
  createdAt : Nat
  updatedAt : Nat

structure BulkSRR where
  bulk : Bytes32
  contractAddress : Option Address
  hash : Bytes32
  tokenId : Uint256
  createdAt : Nat

/-- The entities of the batches, by their roots, and of the leaves, by their hashes. -/
structure Depot where
  bulk : Bytes32 → Option Bulk
  bulkSRR : Bytes32 → Option BulkSRR

def Depot.blank : Depot := ⟨fun _ => none, fun _ => none⟩

variable (depot : Depot)

def handleBatchPrepared (eventTimestampMillis : Nat) (merkleRoot : Bytes32) (sender : Address) :
    Depot :=
  match depot.bulk merkleRoot with
  | some _ => depot
  | none => { depot with
      bulk := Function.update depot.bulk merkleRoot (some
        { merkleRoot := merkleRoot
          sender := sender
          createdAt := eventTimestampMillis
          updatedAt := eventTimestampMillis }) }

-- A field that is not set keeps what an entity saved under the same id had.
def savedContractAddress (contractAddress : Option Address) (leafHash : Bytes32) :
    Option Address :=
  (contractAddress.filter (· ≠ 0)).or ((depot.bulkSRR leafHash).bind BulkSRR.contractAddress)

def updateBulkInternal (timestampMillis : Nat) (merkleRoot : Bytes32)
    (contractAddress : Option Address) (tokenId : Uint256) (leafHash : Bytes32) : Depot :=
  match depot.bulk merkleRoot with
  | none => depot
  | some batch =>
      { bulkSRR := Function.update depot.bulkSRR leafHash (some
          { bulk := merkleRoot
            contractAddress := savedContractAddress depot contractAddress leafHash
            hash := leafHash
            tokenId := tokenId
            createdAt := timestampMillis })
        bulk := Function.update depot.bulk merkleRoot (some
          { batch with updatedAt := timestampMillis }) }

def handleCreateSRRWithProof (timestampMillis : Nat) (merkleRoot : Bytes32)
    (contractAddress : Address) (tokenId : Uint256) (leafHash : Bytes32) : Depot :=
  updateBulkInternal depot timestampMillis merkleRoot (some contractAddress) tokenId leafHash

def handleApproveSRRByCommitmentWithProof (timestampMillis : Nat) (merkleRoot : Bytes32)
    (contractAddress : Address) (tokenId : Uint256) (leafHash : Bytes32) : Depot :=
  updateBulkInternal depot timestampMillis merkleRoot (some contractAddress) tokenId leafHash

def handleTransferFromWithProvenanceWithProof (timestampMillis : Nat) (merkleRoot : Bytes32)
    (contractAddress : Address) (tokenId : Uint256) (leafHash : Bytes32) : Depot :=
  updateBulkInternal depot timestampMillis merkleRoot (some contractAddress) tokenId leafHash

def handleBulkEvent (emitted : Emitted Bulk.Event) : Depot :=
  match emitted.event with
  | .Initialized _ => depot
  | .BatchPrepared merkleRoot sender =>
      handleBatchPrepared depot emitted.eventUTCMillis merkleRoot sender
  | .CreateSRRWithProof merkleRoot contractAddress tokenId leafHash =>
      handleCreateSRRWithProof depot emitted.eventUTCMillis merkleRoot contractAddress tokenId
        leafHash
  | .ApproveSRRByCommitmentWithProof merkleRoot contractAddress tokenId leafHash =>
      handleApproveSRRByCommitmentWithProof depot emitted.eventUTCMillis merkleRoot contractAddress
        tokenId leafHash
  | .TransferFromWithProvenanceWithProof merkleRoot contractAddress tokenId leafHash =>
      handleTransferFromWithProvenanceWithProof depot emitted.eventUTCMillis merkleRoot
        contractAddress tokenId leafHash

/-- The depot after a log with times, whose latest event comes first. -/
def Depot.index : List (Nat × Bulk.Event) → Depot
  | [] => .blank
  | (timestamp, event) :: earlier => handleBulkEvent (Depot.index earlier) ⟨timestamp, event⟩

end Handlers

end Subgraph

open Subgraph

namespace Bulk

section Logs

structure Processing where
  merkleRoot : Bytes32
  contractAddress : Address
  tokenId : Uint256
  leafHash : Bytes32
deriving DecidableEq

def processingOf : Event → Option Processing
  | .CreateSRRWithProof merkleRoot contractAddress tokenId leafHash =>
      some ⟨merkleRoot, contractAddress, tokenId, leafHash⟩
  | .ApproveSRRByCommitmentWithProof merkleRoot contractAddress tokenId leafHash =>
      some ⟨merkleRoot, contractAddress, tokenId, leafHash⟩
  | .TransferFromWithProvenanceWithProof merkleRoot contractAddress tokenId leafHash =>
      some ⟨merkleRoot, contractAddress, tokenId, leafHash⟩
  | _ => none

def preparedRoot : Event → Option Bytes32
  | .BatchPrepared merkleRoot _ => some merkleRoot
  | _ => none

/-- A leaf is processed after its batch was prepared. -/
def Ordered : List Event → Prop
  | [] => True
  | event :: earlier =>
      (∀ processing, processingOf event = some processing →
        processing.merkleRoot ∈ earlier.filterMap preparedRoot) ∧ Ordered earlier

/-- The entity belongs to the batch in which the leaf was processed, and has what its event had. -/
structure Reports (record : BulkSRR) (processing : Processing) : Prop where
  bulk : record.bulk = processing.merkleRoot
  hash : record.hash = processing.leafHash
  tokenId : record.tokenId = processing.tokenId
  contractAddress : record.contractAddress =
    if processing.contractAddress = 0 then none else some processing.contractAddress

/-- The entity of a leaf reports its processing if it has been processed in one way only. -/
structure Filed (depot : Depot) (log : List Event) : Prop where
  known : ∀ root ∈ log.filterMap preparedRoot, ∃ batch, depot.bulk root = some batch
  hashes : ∀ leaf record, depot.bulkSRR leaf = some record → record.hash = leaf
  absent : ∀ leaf, (∀ processing ∈ log.filterMap processingOf, processing.leafHash ≠ leaf) →
    depot.bulkSRR leaf = none
  shown : ∀ processing ∈ log.filterMap processingOf,
    (∀ other ∈ log.filterMap processingOf, other.leafHash = processing.leafHash →
      other = processing) →
        ∃ record, depot.bulkSRR processing.leafHash = some record ∧ Reports record processing

variable {depot : Depot} {log : List Event} {event : Event} {processing : Processing}
  {feed : List (Nat × Event)}

theorem processing_not_prepared (processes : processingOf event = some processing) :
    preparedRoot event = none := by
  cases event with
  | BatchPrepared merkleRoot sender => cases processes
  | _ => rfl

theorem Filed.prepare (filed : Filed depot log) (time : Nat) (merkleRoot : Bytes32)
    (sender : Address) :
    Filed (handleBatchPrepared depot time merkleRoot sender)
      (.BatchPrepared merkleRoot sender :: log) := by
  have leaves : (handleBatchPrepared depot time merkleRoot sender).bulkSRR = depot.bulkSRR := by
    unfold handleBatchPrepared
    split
    · rfl
    · rfl
  refine ⟨?_, ?_, ?_, ?_⟩
  · intro root listed
    unfold handleBatchPrepared
    by_cases own : root = merkleRoot
    · subst root
      split
      · rename_i batch found
        exact ⟨batch, found⟩
      · exact ⟨_, Function.update_self ..⟩
    · have earlier : root ∈ log.filterMap preparedRoot :=
        (List.mem_cons.mp listed).resolve_left own
      obtain ⟨batch, found⟩ := filed.known root earlier
      split
      · exact ⟨batch, found⟩
      · exact ⟨batch, (Function.update_of_ne own ..).trans found⟩
  · rw [leaves]
    exact filed.hashes
  · rw [leaves]
    exact filed.absent
  · rw [leaves]
    exact filed.shown

section Updates

variable {batch : Subgraph.Bulk} {time : Nat} {merkleRoot leafHash : Bytes32}
  {contractAddress : Option Address} {tokenId : Uint256}

theorem updateBulk_bulk (found : depot.bulk merkleRoot = some batch) :
    (updateBulkInternal depot time merkleRoot contractAddress tokenId leafHash).bulk =
      Function.update depot.bulk merkleRoot (some { batch with updatedAt := time }) := by
  rw [updateBulkInternal, found]

theorem updateBulk_bulkSRR (found : depot.bulk merkleRoot = some batch) :
    (updateBulkInternal depot time merkleRoot contractAddress tokenId leafHash).bulkSRR =
      Function.update depot.bulkSRR leafHash (some
        { bulk := merkleRoot
          contractAddress := savedContractAddress depot contractAddress leafHash
          hash := leafHash
          tokenId := tokenId
          createdAt := time }) := by
  rw [updateBulkInternal, found]

theorem set_address {address : Address} {kept : Option Address}
    (same : kept = none ∨ kept = if address = 0 then none else some address) :
    ((some address).filter (· ≠ 0)).or kept = if address = 0 then none else some address := by
  by_cases zero : address = 0
  · subst zero
    rcases same with rfl | rfl
    · rfl
    · rfl
  · have given : (some address).filter (· ≠ 0) = some address := if_pos (decide_eq_true zero)
    rw [given, if_neg zero]
    rfl

theorem Filed.saved (filed : Filed depot log)
    (alone : ∀ other ∈ log.filterMap processingOf, other.leafHash = processing.leafHash →
      other = processing) :
    savedContractAddress depot (some processing.contractAddress) processing.leafHash =
      if processing.contractAddress = 0 then none else some processing.contractAddress := by
  refine set_address ?_
  by_cases again : processing ∈ log.filterMap processingOf
  · obtain ⟨record, kept, reports⟩ := filed.shown processing again alone
    rw [kept]
    exact Or.inr reports.contractAddress
  · refine Or.inl ?_
    rw [filed.absent processing.leafHash]
    · rfl
    · intro other listed same
      rw [alone other listed same] at listed
      exact again listed

theorem Filed.update (filed : Filed depot log) (time : Nat)
    (processes : processingOf event = some processing)
    (prepared : processing.merkleRoot ∈ log.filterMap preparedRoot) :
    Filed (updateBulkInternal depot time processing.merkleRoot (some processing.contractAddress)
      processing.tokenId processing.leafHash) (event :: log) := by
  obtain ⟨batch, found⟩ := filed.known _ prepared
  have listing : (event :: log).filterMap processingOf =
      processing :: log.filterMap processingOf := List.filterMap_cons_some processes
  refine ⟨?_, ?_, ?_, ?_⟩
  · intro root listed
    rw [List.filterMap_cons_none (processing_not_prepared processes)] at listed
    rw [updateBulk_bulk found]
    by_cases own : root = processing.merkleRoot
    · rw [own, Function.update_self]
      exact ⟨_, rfl⟩
    · rw [Function.update_of_ne own]
      exact filed.known root listed
  · intro leaf record shown
    rw [updateBulk_bulkSRR found] at shown
    by_cases own : leaf = processing.leafHash
    · rw [own, Function.update_self] at shown
      cases shown
      exact own.symm
    · rw [Function.update_of_ne own] at shown
      exact filed.hashes leaf record shown
  · intro leaf missing
    rw [listing, List.forall_mem_cons] at missing
    rw [updateBulk_bulkSRR found, Function.update_of_ne (Ne.symm missing.1)]
    exact filed.absent leaf missing.2
  · intro other listed alone
    rw [listing] at listed
    rw [listing, List.forall_mem_cons] at alone
    rw [updateBulk_bulkSRR found]
    by_cases own : other.leafHash = processing.leafHash
    · obtain rfl : processing = other := alone.1 own.symm
      rw [Function.update_self]
      exact ⟨_, rfl, rfl, rfl, rfl, filed.saved alone.2⟩
    · rw [Function.update_of_ne own]
      refine filed.shown other ((List.mem_cons.mp listed).resolve_left fun same => own ?_) alone.2
      rw [same]

end Updates

theorem index_filed (ordered : Ordered (feed.map Prod.snd)) :
    Filed (Depot.index feed) (feed.map Prod.snd) := by
  induction feed with
  | nil => exact ⟨nofun, nofun, fun _ _ => rfl, nofun⟩
  | cons logged earlier ih =>
      obtain ⟨timestamp, event⟩ := logged
      obtain ⟨prepared, before⟩ := ordered
      have filed := ih before
      cases event with
      | Initialized version => exact ⟨filed.known, filed.hashes, filed.absent, filed.shown⟩
      | BatchPrepared merkleRoot sender => exact filed.prepare _ merkleRoot sender
      | CreateSRRWithProof merkleRoot contractAddress tokenId leafHash =>
          exact filed.update _ rfl (prepared _ rfl)
      | ApproveSRRByCommitmentWithProof merkleRoot contractAddress tokenId leafHash =>
          exact filed.update _ rfl (prepared _ rfl)
      | TransferFromWithProvenanceWithProof merkleRoot contractAddress tokenId leafHash =>
          exact filed.update _ rfl (prepared _ rfl)

end Logs

section Runs

variable {evm : Evm} {before middle after state state' marked later : State}
  {merkleRoot leafHash : Bytes32} {event : Event} {processing : Processing}

/-- What was prepared was announced, and what was processed was prepared before. -/
structure Traced (state : State) : Prop where
  announced : ∀ root, Prepared state root → root ∈ state.logs.filterMap preparedRoot
  ordered : Ordered state.logs

/-- The leaf is marked, and the event of its processing is still to come. -/
def Owed (state : State) (merkleRoot leafHash : Bytes32) : Prop :=
  Processed state merkleRoot leafHash ∧ processings merkleRoot leafHash state.logs = 0

/-- A call logs the events of the leaves that it marks. -/
structure Pays (before after : State) : Prop where
  settled : Settled before after
  owed : ∀ root leaf, Owed after root leaf → Owed before root leaf

theorem processing_named (processes : processingOf event = some processing) :
    isProcessing processing.merkleRoot processing.leafHash event = true := by
  cases event with
  | Initialized version => cases processes
  | BatchPrepared merkleRoot sender => cases processes
  | _ =>
      cases processes
      exact Bool.and_eq_true_iff.mpr ⟨beq_self_eq_true _, beq_self_eq_true _⟩

theorem mem_prepared_cons {logs : List Event} {root : Bytes32}
    (listed : root ∈ logs.filterMap preparedRoot) :
    root ∈ (event :: logs).filterMap preparedRoot := by
  obtain ⟨announced, logged, names⟩ := List.mem_filterMap.mp listed
  exact List.mem_filterMap.mpr ⟨announced, List.mem_cons_of_mem _ logged, names⟩

theorem Traced.quiet (traced : Traced state) (batches : state'.batches = state.batches)
    (logged : state'.logs = state.logs ∨ state'.logs = .Initialized 1 :: state.logs) :
    Traced state' := by
  have prepared : ∀ root, Prepared state' root → Prepared state root := by
    intro root
    rw [Prepared, batches]
    exact id
  rcases logged with same | announced
  · refine ⟨fun root prepared' => ?_, ?_⟩
    · rw [same]
      exact traced.announced root (prepared root prepared')
    · rw [same]
      exact traced.ordered
  · refine ⟨fun root prepared' => ?_, ?_⟩
    · rw [announced]
      exact mem_prepared_cons (traced.announced root (prepared root prepared'))
    · rw [announced]
      refine ⟨?_, traced.ordered⟩
      intro _ absent
      cases absent

theorem Traced.prepare (traced : Traced state) (msg : Msg) (merkleRoot : Bytes32) :
    Traced (_prepareBatch msg state merkleRoot) := by
  refine ⟨fun root prepared => ?_, nofun, traced.ordered⟩
  by_cases own : root = merkleRoot
  · subst root
    exact List.mem_cons_self
  · refine mem_prepared_cons (traced.announced root ?_)
    simpa [Prepared, _prepareBatch, State.setBatch, State.emit, own] using prepared

theorem Traced.mark (traced : Traced state)
    (made : markProcessed state merkleRoot leafHash = .ok marked) : Traced marked := by
  have logs : marked.logs = state.logs := by
    obtain ⟨_, rfl⟩ := markProcessed_effect made
    rfl
  refine ⟨fun root prepared => ?_, ?_⟩
  · rw [logs]
    refine traced.announced root ?_
    rw [Prepared, ← (markProcessed_batch made root).1]
    exact prepared
  · rw [logs]
    exact traced.ordered

theorem Traced.finish (traced : Traced later) (prepared : Prepared later merkleRoot)
    (names : ∀ root leaf, isProcessing root leaf event = (merkleRoot == root && leafHash == leaf)) :
    Traced (later.emit event) := by
  refine ⟨fun root prepared' => mem_prepared_cons (traced.announced root prepared'), ?_,
    traced.ordered⟩
  intro processing processes
  have named := processing_named processes
  rw [names, Bool.and_eq_true_iff, beq_iff_eq] at named
  rw [← named.1]
  exact traced.announced merkleRoot prepared

theorem Pays.trans (first : Pays before middle) (second : Pays middle after) : Pays before after :=
  ⟨first.settled.trans second.settled,
    fun root leaf owed => first.owed root leaf (second.owed root leaf owed)⟩

theorem owed_of (processed : ∀ root leaf, Processed after root leaf → Processed before root leaf)
    (counts : ∀ root leaf, processings root leaf after.logs = processings root leaf before.logs)
    (root leaf : Bytes32) (owed : Owed after root leaf) : Owed before root leaf :=
  ⟨processed root leaf owed.1, (counts root leaf).symm.trans owed.2⟩

theorem Pays.finish (unprocessed : ¬Processed state merkleRoot leafHash)
    (made : markProcessed state merkleRoot leafHash = .ok marked) (pays : Pays marked later)
    (settled : Settled state (later.emit event))
    (names : ∀ root leaf, isProcessing root leaf event = (merkleRoot == root && leafHash == leaf)) :
    Pays state (later.emit event) := by
  refine ⟨settled, fun root leaf owed => ?_⟩
  obtain ⟨processed, silent⟩ := owed
  rw [processings_emit names] at silent
  by_cases own : merkleRoot = root ∧ leafHash = leaf
  · rw [if_pos own] at silent
    omega
  · rw [if_neg own, Nat.add_zero] at silent
    obtain ⟨before, count⟩ := pays.owed root leaf ⟨processed, silent⟩
    have logs : marked.logs = state.logs := by
      obtain ⟨_, rfl⟩ := markProcessed_effect made
      rfl
    rw [logs] at count
    rcases (markProcessed_processed made root leaf).mp before with ⟨rfl, rfl⟩ | earlier
    · exact absurd ⟨rfl, rfl⟩ own
    · exact ⟨earlier, count⟩

theorem paying_rule :
    Rule evm (fun snapshot => Tracked evm snapshot ∧ Traced snapshot.state) Pays where
  refl := fun state => ⟨.refl state, fun _ _ => id⟩
  trans := Pays.trans
  prepared := fun pays prepared => (pays.settled.prepared _ prepared).1
  enter := fun ⟨tracked, traced⟩ transaction other => ⟨tracked.enter transaction other, traced⟩
  quiet := by
    rintro state state' trace ⟨tracked, traced⟩ batches logged
    obtain ⟨tracked', settled⟩ := tracked_rule.quiet tracked batches logged
    refine ⟨⟨tracked', traced.quiet batches logged⟩, settled, owed_of ?_ ?_⟩
    · intro root leaf
      rw [Processed, batches]
      exact id
    · intro root leaf
      rcases logged with same | announced
      · rw [same]
      · rw [announced]
        rfl
  prepare := by
    rintro state trace root world msg ⟨tracked, traced⟩ new forwarded
    obtain ⟨tracked', settled⟩ := @Tracked.prepare _ _ _ _ world msg tracked new forwarded
    refine ⟨⟨tracked', traced.prepare msg root⟩, settled, owed_of ?_ ?_⟩
    · exact fun root' leaf => (prepareBatch_processed msg state root root' leaf).mp
    · exact prepareBatch_processings msg state root
  mark := fun ⟨tracked, traced⟩ prepared unprocessed verified made =>
    ⟨tracked.mark prepared unprocessed verified made, traced.mark made⟩
  finish := by
    rintro state marked later trace trace' root leaf event unprocessed prepared ⟨tracked, _⟩ made
      ⟨tracked', traced'⟩ pays names
    obtain ⟨final, settled⟩ := tracked.finish unprocessed made tracked' pays.settled names
    have still := (pays.settled.prepared root ((markProcessed_batch made root).1.trans prepared)).1
    exact ⟨⟨final, traced'.finish still names⟩, pays.finish unprocessed made settled names⟩

section Counts

variable {logs : List Event}

theorem isProcessing_names (processes : isProcessing merkleRoot leafHash event = true) :
    ∃ processing, processingOf event = some processing ∧ processing.merkleRoot = merkleRoot ∧
      processing.leafHash = leafHash := by
  cases event with
  | Initialized version => cases processes
  | BatchPrepared merkleRoot sender => cases processes
  | _ =>
      obtain ⟨root, leaf⟩ := Bool.and_eq_true_iff.mp processes
      exact ⟨_, rfl, eq_of_beq root, eq_of_beq leaf⟩

theorem processing_logged (once : processings merkleRoot leafHash logs = 1) :
    ∃ processing ∈ logs.filterMap processingOf, processing.merkleRoot = merkleRoot ∧
      processing.leafHash = leafHash := by
  have some_ : 0 < logs.countP (isProcessing merkleRoot leafHash) :=
    Nat.lt_of_lt_of_eq Nat.one_pos once.symm
  obtain ⟨event, logged, processes⟩ := List.countP_pos_iff.mp some_
  obtain ⟨processing, told, names⟩ := isProcessing_names processes
  exact ⟨processing, List.mem_filterMap.mpr ⟨event, logged, told⟩, names⟩

theorem processing_counted (listed : processing ∈ logs.filterMap processingOf) :
    0 < processings processing.merkleRoot processing.leafHash logs := by
  obtain ⟨event, logged, told⟩ := List.mem_filterMap.mp listed
  exact List.countP_pos_iff.mpr ⟨event, logged, processing_named told⟩

theorem processing_unique {other : Processing}
    (once : processings processing.merkleRoot processing.leafHash logs ≤ 1)
    (listed : processing ∈ logs.filterMap processingOf)
    (listed' : other ∈ logs.filterMap processingOf)
    (root : other.merkleRoot = processing.merkleRoot)
    (leaf : other.leafHash = processing.leafHash) : other = processing := by
  obtain ⟨event, logged, told⟩ := List.mem_filterMap.mp listed
  obtain ⟨event', logged', told'⟩ := List.mem_filterMap.mp listed'
  have named' := processing_named told'
  rw [root, leaf] at named'
  rw [processings, List.countP_eq_length_filter] at once
  have here := List.mem_filter.mpr ⟨logged, processing_named told⟩
  have here' := List.mem_filter.mpr ⟨logged', named'⟩
  obtain ⟨only, shape⟩ := List.length_eq_one_iff.mp
    (Nat.le_antisymm once (List.length_pos_of_mem here))
  rw [shape, List.mem_singleton] at here here'
  rw [here', ← here, told] at told'
  exact (Option.some.inj told').symm

end Counts

/-- There is an entity that belongs to the batch and reports how the leaf was processed in it. -/
def Recorded (depot : Depot) (logs : List Event) (merkleRoot leafHash : Bytes32) : Prop :=
  ∃ processing ∈ logs.filterMap processingOf, processing.merkleRoot = merkleRoot ∧
    processing.leafHash = leafHash ∧
    ∃ id record, depot.bulkSRR id = some record ∧ Reports record processing

/-- No leaf was processed in two batches. -/
def Unshared (state : State) : Prop :=
  ∀ root root' leaf, Processed state root leaf → Processed state root' leaf → root = root'

theorem Filed.unshared {depot : Depot} {logs : List Event} (filed : Filed depot logs)
    {root root' leaf : Bytes32} (recorded : Recorded depot logs root leaf)
    (recorded' : Recorded depot logs root' leaf) : root = root' := by
  obtain ⟨processing, _, rfl, rfl, id, record, shown, reports⟩ := recorded
  obtain ⟨other, _, rfl, same, id', record', shown', reports'⟩ := recorded'
  -- The id of an entity is the hash of its leaf, so the two are one.
  have here : id = processing.leafHash := (filed.hashes id record shown).symm.trans reports.hash
  have here' : id' = other.leafHash := (filed.hashes id' record' shown').symm.trans reports'.hash
  rw [here', same, ← here, shown] at shown'
  obtain rfl := Option.some.inj shown'
  exact reports.bulk.symm.trans reports'.bulk

theorem Filed.recorded {depot : Depot} {logs : List Event} (filed : Filed depot logs)
    (once : ∀ root leaf, processings root leaf logs ≤ 1) {root leaf : Bytes32}
    (logged : processings root leaf logs = 1)
    (alone : ∀ root', 0 < processings root' leaf logs → root' = root) :
    Recorded depot logs root leaf := by
  obtain ⟨processing, listed, rfl, rfl⟩ := processing_logged logged
  obtain ⟨record, shown, reports⟩ := filed.shown processing listed fun other listed' same => by
    have counted := processing_counted listed'
    rw [same] at counted
    exact processing_unique (once _ _) listed listed' (alone _ counted) same
  exact ⟨processing, listed, rfl, rfl, _, record, shown, reports⟩

theorem reach_filed {config : Config Revert State Query Answer Transaction}
    (reach : Reach (entry evm) (fun _ _ => True) State.blank config)
    (complete : config.frames = []) :
    Tracked evm config.now ∧ Traced config.now.state ∧
      ∀ root leaf, Processed config.now.state root leaf →
        processings root leaf config.now.state.logs = 1 := by
  obtain ⟨⟨tracked, traced⟩, pays⟩ :=
    paying_rule.reach ⟨tracked_blank, nofun, trivial⟩ reach
  refine ⟨tracked, traced, fun root leaf processed => ?_⟩
  have most := tracked.once root leaf
  have least : processings root leaf config.now.state.logs ≠ 0 := by
    intro silent
    have owed := (pays complete).owed root leaf ⟨processed, silent⟩
    cases owed.1
  omega

theorem leaves_recorded {config : Config Revert State Query Answer Transaction}
    (reach : Reach (entry evm) (fun _ _ => True) State.blank config)
    (complete : config.frames = []) {feed : List (Nat × Event)}
    (fed : feed.map Prod.snd = config.now.state.logs) :
    (∀ root leaf, Processed config.now.state root leaf →
        Recorded (Depot.index feed) config.now.state.logs root leaf) ↔
      Unshared config.now.state := by
  obtain ⟨tracked, traced, logged⟩ := reach_filed reach complete
  have filed : Filed (Depot.index feed) config.now.state.logs := by
    rw [← fed]
    refine index_filed ?_
    rw [fed]
    exact traced.ordered
  constructor
  · intro recorded root root' leaf processed processed'
    exact filed.unshared (recorded root leaf processed) (recorded root' leaf processed')
  · intro unshared root leaf processed
    refine filed.recorded tracked.once (logged root leaf processed) fun root' counted => ?_
    refine unshared root' root leaf ?_ processed
    by_contra absent
    have silent := tracked.fresh root' leaf absent
    omega

/-- Where no call is pending, each leaf that is processed has one event, and all of them are shown
in their batches just when no leaf was processed in two. -/
theorem bulk_records (evm : Evm) (config : Config Revert State Query Answer Transaction)
    (reach : Reach (entry evm) (fun _ _ => True) State.blank config)
    (complete : config.frames = []) (feed : List (Nat × Event))
    (fed : feed.map Prod.snd = config.now.state.logs) :
    (∀ root leaf, Processed config.now.state root leaf →
        processings root leaf config.now.state.logs = 1) ∧
      ((∀ root leaf, Processed config.now.state root leaf →
          Recorded (Depot.index feed) config.now.state.logs root leaf) ↔
        Unshared config.now.state) :=
  ⟨(reach_filed reach complete).2.2, leaves_recorded reach complete fed⟩

end Runs

section Samples

def approvedLeaf : Bytes32 := 0x91614602457a5fae12458872617e78a3cb8662655927d30e4426e7f2edc5c6d1

def otherLeaf : Bytes32 := 0xf379131f604777dc4fe8e1a0a76592151bdd7eb1e7bf795ef66d718f4b1e44e7

def pairRoot : Bytes32 := 0xc4ca1d597469e46472a72cd952be0e96e12249ac774b415eaa678e24cf060327

def depotEvm : Evm :=
  Evm.ofTables [(approveHashInputs 7 0x5ec (ascii "Qm") 0 0xc011, approvedLeaf),
    (approveHashInputs 8 0x5ec (ascii "Qm") 0 0xc011, otherLeaf),
    (packWord approvedLeaf ++ packWord otherLeaf, pairRoot)] []

def prepareSample (merkleRoot : Bytes32) : Transaction :=
  ⟨World.named [], ⟨0xf04, List.replicate 36 0 ++ packWord (0x115e4 : Address)⟩,
    .prepareBatchFromLicensedUser merkleRoot⟩

def approveSample (merkleProof : List Bytes32) (merkleRoot leafHash : Bytes32) (tokenId : Uint256) :
    Transaction :=
  ⟨World.named [], ⟨0xe0a, []⟩, .approveSRRByCommitmentWithProof merkleProof merkleRoot leafHash
    tokenId 0x5ec (ascii "Qm") 0 0xc011⟩

/-- A batch of one leaf is worked through, and then one of the two leaves of another batch. -/
def depotRun (last : Transaction) : Config Revert State Query Answer Transaction :=
  let enter := Config.enter (entry depotEvm)
  let answer : Answer := ⟨⟨true, []⟩, World.named []⟩
  (enter last ((enter (approveSample [] approvedLeaf approvedLeaf 7)
    (enter (prepareSample pairRoot) (enter (prepareSample approvedLeaf)
      (enter ⟨World.named [], ⟨0xad317, []⟩, .initializeV1 0x4a3e 0xf04⟩
        (.start State.blank))))).reply answer)).reply answer

theorem depotRun_reach (last : Transaction) :
    Reach (entry depotEvm) (fun _ _ => True) State.blank (depotRun last) :=
  .reply _ (.enter _ (.reply _ (.enter _ (.enter _ (.enter _ (.enter _ .start trivial) trivial)
    trivial) trivial)) trivial)

def sharedSample : Transaction := approveSample [otherLeaf] pairRoot approvedLeaf 7

def separateSample : Transaction := approveSample [approvedLeaf] pairRoot otherLeaf 8

def stampSample (logs : List Event) : List (Nat × Event) := logs.map (1700000000, ·)

theorem stampSample_logs (logs : List Event) : (stampSample logs).map Prod.snd = logs := by
  rw [stampSample, List.map_map]
  exact List.map_id logs

set_option maxRecDepth 8000 in
theorem separateSample_logs :
    (depotRun separateSample).frames.length = 0 ∧
      (depotRun separateSample).now.state.logs.filterMap processingOf =
        [⟨pairRoot, 0xc011, 8, otherLeaf⟩, ⟨approvedLeaf, 0xc011, 7, approvedLeaf⟩] := by decide

set_option maxRecDepth 8000 in
theorem sharedSample_twice :
    (depotRun sharedSample).frames.length = 0 ∧
      ((depotRun sharedSample).now.state.batches approvedLeaf).processedLeaves approvedLeaf = true ∧
      ((depotRun sharedSample).now.state.batches pairRoot).processedLeaves approvedLeaf = true := by
  decide

theorem separateSample_unshared : Unshared (depotRun separateSample).now.state := by
  obtain ⟨complete, told⟩ := separateSample_logs
  obtain ⟨_, _, logged⟩ :=
    reach_filed (depotRun_reach separateSample) (List.eq_nil_of_length_eq_zero complete)
  have named : ∀ root leaf, Processed (depotRun separateSample).now.state root leaf →
      (root = pairRoot ∧ leaf = otherLeaf) ∨ root = approvedLeaf ∧ leaf = approvedLeaf := by
    intro root leaf processed
    obtain ⟨processing, listed, rfl, rfl⟩ := processing_logged (logged root leaf processed)
    rw [told] at listed
    rcases List.mem_cons.mp listed with rfl | last
    · exact Or.inl ⟨rfl, rfl⟩
    · rw [List.mem_singleton.mp last]
      exact Or.inr ⟨rfl, rfl⟩
  have apart : otherLeaf ≠ approvedLeaf := by decide
  intro root root' leaf processed processed'
  rcases named root leaf processed with ⟨rfl, rfl⟩ | ⟨rfl, rfl⟩
  · rcases named root' _ processed' with ⟨rfl, _⟩ | ⟨_, same⟩
    · rfl
    · exact absurd same apart
  · rcases named root' _ processed' with ⟨_, same⟩ | ⟨rfl, _⟩
    · exact absurd same.symm apart
    · rfl

set_option maxRecDepth 8000 in
theorem bulk_records_separate :
    let state := (depotRun separateSample).now.state
    Recorded (Depot.index (stampSample state.logs)) state.logs approvedLeaf approvedLeaf ∧
      Recorded (Depot.index (stampSample state.logs)) state.logs pairRoot otherLeaf := by
  intro state
  obtain ⟨_, shown⟩ := bulk_records depotEvm _ (depotRun_reach separateSample)
    (List.eq_nil_of_length_eq_zero separateSample_logs.1) _ (stampSample_logs state.logs)
  have recorded := shown.mpr separateSample_unshared
  have first : (state.batches approvedLeaf).processedLeaves approvedLeaf = true := by decide
  have second : (state.batches pairRoot).processedLeaves otherLeaf = true := by decide
  exact ⟨recorded _ _ first, recorded _ _ second⟩

theorem sharedRun_overwritten :
    ¬∀ config, Reach (entry depotEvm) (fun _ _ => True) State.blank config → config.frames = [] →
      ∀ feed, feed.map Prod.snd = config.now.state.logs →
        ∀ root leaf, Processed config.now.state root leaf →
          Recorded (Depot.index feed) config.now.state.logs root leaf := by
  intro complete
  obtain ⟨ended, first, second⟩ := sharedSample_twice
  have ended := List.eq_nil_of_length_eq_zero ended
  have fed := stampSample_logs (depotRun sharedSample).now.state.logs
  have recorded := complete _ (depotRun_reach sharedSample) ended _ fed
  have unshared := (leaves_recorded (depotRun_reach sharedSample) ended fed).mp recorded
  have different : approvedLeaf ≠ pairRoot := by decide
  exact different (unshared _ _ _ first second)

end Samples

end Bulk

end Startrail
