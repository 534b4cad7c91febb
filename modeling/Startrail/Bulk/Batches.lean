import Mathlib.Data.List.Nodup
import Startrail.Bulk.Core

/-!
Batches over all runs of the bulk contract. A leaf is marked before the contract
that it concerns is called, so a call that comes back finds it processed; the
event of its processing is logged after the call. The invariant counts both: a
leaf that is not marked has no event, and while its call is pending a marked leaf
gets none from anyone else.
-/

namespace Startrail.Bulk

def isProcessing (merkleRoot leafHash : Bytes32) : Event → Bool
  | .CreateSRRWithProof root _ _ leaf => root == merkleRoot && leaf == leafHash
  | .ApproveSRRByCommitmentWithProof root _ _ leaf => root == merkleRoot && leaf == leafHash
  | .TransferFromWithProvenanceWithProof root _ _ leaf => root == merkleRoot && leaf == leafHash
  | _ => false

/-- How often a leaf was successfully processed. -/
def processings (merkleRoot leafHash : Bytes32) (logs : List Event) : Nat :=
  logs.countP (isProcessing merkleRoot leafHash)

def Processed (state : State) (merkleRoot leafHash : Bytes32) : Prop :=
  (state.batches merkleRoot).processedLeaves leafHash = true

def Prepared (state : State) (merkleRoot : Bytes32) : Prop :=
  (state.batches merkleRoot).prepared = true

def prepares (merkleRoot : Bytes32) (trace : List Transaction) : List Transaction :=
  trace.filter fun transaction => match transaction.call with
    | .prepareBatchFromLicensedUser root => root == merkleRoot
    | _ => false

/-- The signer is the sender that the one call which prepared the batch was forwarded for. -/
def SignedOnce (batch : Batch) (prepares : List Transaction) : Prop :=
  if batch.prepared then
    ∃ transaction, prepares = [transaction] ∧
      batch.signer = msgSender transaction.msg.sender transaction.msg
  else prepares = []

def Counts (batch : Batch) (leaves : List Bytes32) : Prop :=
  leaves.Nodup ∧ (∀ leafHash, leafHash ∈ leaves ↔ batch.processedLeaves leafHash = true) ∧
    leaves.length = batch.processedCount.toNat

structure Tracked (evm : Evm) (snapshot : Snapshot State Transaction) : Prop where
  once : ∀ merkleRoot leafHash, processings merkleRoot leafHash snapshot.state.logs ≤ 1
  fresh : ∀ merkleRoot leafHash, ¬Processed snapshot.state merkleRoot leafHash →
    processings merkleRoot leafHash snapshot.state.logs = 0
  proved : ∀ merkleRoot leafHash, Processed snapshot.state merkleRoot leafHash →
    Prepared snapshot.state merkleRoot ∧
      ∃ merkleProof, MerkleProof.verify evm merkleProof merkleRoot leafHash = true
  counted : ∀ merkleRoot, ∃ leaves, Counts (snapshot.state.batches merkleRoot) leaves
  signed : ∀ merkleRoot,
    SignedOnce (snapshot.state.batches merkleRoot) (prepares merkleRoot snapshot.trace)

/-- What others may do meanwhile: nothing to a batch or a leaf that is taken. -/
structure Settled (before after : State) : Prop where
  processed : ∀ merkleRoot leafHash, Processed before merkleRoot leafHash →
    Processed after merkleRoot leafHash ∧
      processings merkleRoot leafHash after.logs = processings merkleRoot leafHash before.logs
  prepared : ∀ merkleRoot, Prepared before merkleRoot →
    Prepared after merkleRoot ∧
      (after.batches merkleRoot).signer = (before.batches merkleRoot).signer

def Meanwhile (Rel : State → State → Prop) (before after : Snapshot State Transaction) : Prop :=
  Rel before.state after.state

variable {evm : Evm} {state state' later : State} {trace trace' : List Transaction}
  {merkleRoot leafHash : Bytes32}

theorem Settled.refl (state : State) : Settled state state :=
  ⟨fun _ _ processed => ⟨processed, rfl⟩, fun _ prepared => ⟨prepared, rfl⟩⟩

theorem Settled.trans {first middle last : State} (before : Settled first middle)
    (after : Settled middle last) : Settled first last := by
  constructor
  · intro merkleRoot leafHash processed
    obtain ⟨still, same⟩ := before.processed merkleRoot leafHash processed
    obtain ⟨still', same'⟩ := after.processed merkleRoot leafHash still
    exact ⟨still', same'.trans same⟩
  · intro merkleRoot prepared
    obtain ⟨still, same⟩ := before.prepared merkleRoot prepared
    obtain ⟨still', same'⟩ := after.prepared merkleRoot still
    exact ⟨still', same'.trans same⟩

theorem tracked_blank : Tracked evm ⟨State.blank, []⟩ := by
  refine ⟨fun _ _ => Nat.zero_le 1, fun _ _ _ => rfl, ?_, ?_, ?_⟩
  · intro merkleRoot leafHash processed
    cases processed
  · intro merkleRoot
    exact ⟨[], List.nodup_nil, by simp [State.blank], rfl⟩
  · intro merkleRoot
    simp [SignedOnce, State.blank, prepares]

theorem markProcessed_effect (marked : markProcessed state merkleRoot leafHash = .ok state') :
    (state.batches merkleRoot).processedCount.toNat + 1 < 2 ^ 8 ∧
      state' = state.setBatch merkleRoot { state.batches merkleRoot with
        processedLeaves :=
          Function.update (state.batches merkleRoot).processedLeaves leafHash true
        processedCount := (state.batches merkleRoot).processedCount + 1 } := by
  simp only [markProcessed, bind_eq_ok, requirePanic_eq_ok, pure_eq_ok] at marked
  obtain ⟨_, room, rfl⟩ := marked
  exact ⟨room, rfl⟩

theorem markProcessed_processed (marked : markProcessed state merkleRoot leafHash = .ok state')
    (root leaf : Bytes32) :
    Processed state' root leaf ↔
      (root = merkleRoot ∧ leaf = leafHash) ∨ Processed state root leaf := by
  obtain ⟨_, rfl⟩ := markProcessed_effect marked
  unfold Processed State.setBatch
  by_cases sameRoot : root = merkleRoot
  · subst root
    by_cases sameLeaf : leaf = leafHash
    · simp [sameLeaf]
    · simp [sameLeaf]
  · simp [sameRoot]

theorem markProcessed_batch (marked : markProcessed state merkleRoot leafHash = .ok state')
    (root : Bytes32) : (state'.batches root).prepared = (state.batches root).prepared ∧
      (state'.batches root).signer = (state.batches root).signer := by
  obtain ⟨_, rfl⟩ := markProcessed_effect marked
  by_cases same : root = merkleRoot
  · subst root
    simp [State.setBatch]
  · simp [State.setBatch, same]

theorem Tracked.mark (tracked : Tracked evm ⟨state, trace⟩) (prepared : Prepared state merkleRoot)
    (unprocessed : ¬Processed state merkleRoot leafHash) {merkleProof : List Bytes32}
    (verified : MerkleProof.verify evm merkleProof merkleRoot leafHash = true)
    (marked : markProcessed state merkleRoot leafHash = .ok state') :
    Tracked evm ⟨state', trace⟩ := by
  have logs : state'.logs = state.logs := by
    obtain ⟨_, rfl⟩ := markProcessed_effect marked
    rfl
  refine ⟨?_, ?_, ?_, ?_, ?_⟩
  · intro root leaf
    simpa only [logs] using tracked.once root leaf
  · intro root leaf absent
    simp only [logs]
    apply tracked.fresh root leaf
    intro processed
    exact absent ((markProcessed_processed marked root leaf).mpr (Or.inr processed))
  · intro root leaf processed
    have kept : ∀ root, Prepared state root → Prepared state' root := by
      intro root
      unfold Prepared
      rw [(markProcessed_batch marked root).1]
      exact id
    rcases (markProcessed_processed marked root leaf).mp processed with ⟨rfl, rfl⟩ | before
    · exact ⟨kept root prepared, merkleProof, verified⟩
    · obtain ⟨wasPrepared, proof⟩ := tracked.proved root leaf before
      exact ⟨kept root wasPrepared, proof⟩
  · intro root
    obtain ⟨leaves, distinct, members, size⟩ := tracked.counted root
    obtain ⟨room, rfl⟩ := markProcessed_effect marked
    by_cases same : root = merkleRoot
    · subst root
      refine ⟨leafHash :: leaves, ?_, ?_, ?_⟩
      · refine List.nodup_cons.mpr ⟨?_, distinct⟩
        rw [members]
        exact unprocessed
      · intro leaf
        by_cases own : leaf = leafHash
        · simp [State.setBatch, own]
        · simpa [State.setBatch, own] using members leaf
      · have one : (1 : Uint8).toNat = 1 := rfl
        simp only [State.setBatch, Function.update_self, List.length_cons, size, BitVec.toNat_add,
          one]
        omega
    · refine ⟨leaves, distinct, ?_, ?_⟩
      · simpa [State.setBatch, same] using members
      · simpa [State.setBatch, same] using size
  · intro root
    have signed := tracked.signed root
    obtain ⟨prepared', signer⟩ := markProcessed_batch marked root
    simp only [SignedOnce] at signed ⊢
    rw [prepared', signer]
    exact signed

theorem markProcessed_settled (marked : markProcessed state merkleRoot leafHash = .ok state') :
    Settled state state' := by
  have logs : state'.logs = state.logs := by
    obtain ⟨_, rfl⟩ := markProcessed_effect marked
    rfl
  constructor
  · intro root leaf processed
    exact ⟨(markProcessed_processed marked root leaf).mpr (Or.inr processed), by rw [logs]⟩
  · intro root prepared
    obtain ⟨prepared', signer⟩ := markProcessed_batch marked root
    exact ⟨prepared'.trans prepared, signer⟩

theorem processings_emit {event : Event}
    (names : ∀ root leaf, isProcessing root leaf event = (merkleRoot == root && leafHash == leaf))
    (root leaf : Bytes32) :
    processings root leaf (state.emit event).logs =
      processings root leaf state.logs + if merkleRoot = root ∧ leafHash = leaf then 1 else 0 := by
  simp [processings, State.emit, List.countP_cons, names]

/-- The end of a processing: the leaf was marked in `state'` and its event is logged later. -/
theorem Tracked.finish {event : Event} (unprocessed : ¬Processed state merkleRoot leafHash)
    (before : Tracked evm ⟨state, trace⟩)
    (marked : markProcessed state merkleRoot leafHash = .ok state')
    (tracked : Tracked evm ⟨later, trace'⟩) (settled : Settled state' later)
    (names : ∀ root leaf, isProcessing root leaf event = (merkleRoot == root && leafHash == leaf)) :
    Tracked evm ⟨later.emit event, trace'⟩ ∧ Settled state (later.emit event) := by
  have processed : Processed state' merkleRoot leafHash :=
    (markProcessed_processed marked merkleRoot leafHash).mpr (Or.inl ⟨rfl, rfl⟩)
  obtain ⟨still, same⟩ := settled.processed merkleRoot leafHash processed
  have logs : state'.logs = state.logs := by
    obtain ⟨_, rfl⟩ := markProcessed_effect marked
    rfl
  have none : processings merkleRoot leafHash later.logs = 0 := by
    rw [same, logs]
    exact before.fresh merkleRoot leafHash unprocessed
  have whole := (markProcessed_settled marked).trans settled
  constructor
  · refine ⟨?_, ?_, tracked.proved, tracked.counted, tracked.signed⟩
    · intro root leaf
      have once := tracked.once root leaf
      simp only [processings_emit names] at once ⊢
      split
      · rename_i own
        rw [← own.1, ← own.2, none]
      · omega
    · intro root leaf absent
      simp only [processings_emit names]
      rw [if_neg, Nat.add_zero]
      · exact tracked.fresh root leaf absent
      · rintro ⟨rfl, rfl⟩
        exact absent still
  · constructor
    · intro root leaf wasProcessed
      obtain ⟨kept, count⟩ := whole.processed root leaf wasProcessed
      refine ⟨kept, ?_⟩
      rw [processings_emit names, if_neg, Nat.add_zero, count]
      rintro ⟨rfl, rfl⟩
      exact unprocessed wasProcessed
    · exact whole.prepared

theorem Tracked.enter (tracked : Tracked evm ⟨state, trace⟩) (transaction : Transaction)
    (other : ∀ merkleRoot, transaction.call ≠ .prepareBatchFromLicensedUser merkleRoot) :
    Tracked evm ⟨state, transaction :: trace⟩ := by
  refine ⟨tracked.once, tracked.fresh, tracked.proved, tracked.counted, ?_⟩
  intro root
  have same : prepares root (transaction :: trace) = prepares root trace := by
    unfold prepares
    rw [List.filter_cons_of_neg]
    obtain ⟨world, msg, call⟩ := transaction
    cases call with
    | prepareBatchFromLicensedUser merkleRoot => exact absurd rfl (other merkleRoot)
    | _ => simp
  rw [same]
  exact tracked.signed root

theorem Tracked.quiet (tracked : Tracked evm ⟨state, trace⟩)
    (batches : state'.batches = state.batches)
    (events : ∀ root leaf,
      processings root leaf state'.logs = processings root leaf state.logs) :
    Tracked evm ⟨state', trace⟩ ∧ Settled state state' := by
  have processed : ∀ root leaf, Processed state' root leaf ↔ Processed state root leaf := by
    intro root leaf
    rw [Processed, batches, Processed]
  have prepared : ∀ root, Prepared state' root ↔ Prepared state root := by
    intro root
    rw [Prepared, batches, Prepared]
  constructor
  · refine ⟨?_, ?_, ?_, ?_, ?_⟩
    · intro root leaf
      rw [events]
      exact tracked.once root leaf
    · intro root leaf absent
      rw [events]
      exact tracked.fresh root leaf fun before => absent ((processed root leaf).mpr before)
    · intro root leaf
      rw [processed, prepared]
      exact tracked.proved root leaf
    · simpa only [batches] using tracked.counted
    · simpa only [batches] using tracked.signed
  · constructor
    · intro root leaf before
      exact ⟨(processed root leaf).mpr before, events root leaf⟩
    · intro root before
      exact ⟨(prepared root).mpr before, by rw [batches]⟩

theorem prepareBatch_processed (msg : Msg) (state : State) (merkleRoot root leaf : Bytes32) :
    Processed (_prepareBatch msg state merkleRoot) root leaf ↔ Processed state root leaf := by
  by_cases same : root = merkleRoot
  · subst root
    simp [Processed, _prepareBatch, State.setBatch, State.emit]
  · simp [Processed, _prepareBatch, State.setBatch, State.emit, same]

theorem prepareBatch_processings (msg : Msg) (state : State) (merkleRoot root leaf : Bytes32) :
    processings root leaf (_prepareBatch msg state merkleRoot).logs =
      processings root leaf state.logs := by
  simp [processings, _prepareBatch, State.setBatch, State.emit, isProcessing]

/-- A new batch has no processed leaves, so its count starts at zero. -/
theorem Tracked.prepare {world : World} {msg : Msg} (tracked : Tracked evm ⟨state, trace⟩)
    (new : ¬Prepared state merkleRoot) (forwarded : msg.sender = state.trustedForwarder) :
    Tracked evm ⟨_prepareBatch msg state merkleRoot,
        ⟨world, msg, .prepareBatchFromLicensedUser merkleRoot⟩ :: trace⟩ ∧
      Settled state (_prepareBatch msg state merkleRoot) := by
  have unprocessed : ∀ leaf, ¬Processed state merkleRoot leaf := by
    intro leaf processed
    exact new (tracked.proved merkleRoot leaf processed).1
  have leaves := prepareBatch_processed msg state merkleRoot
  have events := prepareBatch_processings msg state merkleRoot
  have kept : ∀ root, Prepared state root →
      Prepared (_prepareBatch msg state merkleRoot) root ∧
        ((_prepareBatch msg state merkleRoot).batches root).signer =
          (state.batches root).signer := by
    intro root prepared
    have different : root ≠ merkleRoot := by
      rintro rfl
      exact new prepared
    simpa [Prepared, _prepareBatch, State.setBatch, State.emit, different] using prepared
  constructor
  · refine ⟨?_, ?_, ?_, ?_, ?_⟩
    · intro root leaf
      rw [events]
      exact tracked.once root leaf
    · intro root leaf absent
      rw [events]
      exact tracked.fresh root leaf fun processed => absent ((leaves root leaf).mpr processed)
    · intro root leaf processed
      obtain ⟨prepared, proof⟩ := tracked.proved root leaf ((leaves root leaf).mp processed)
      exact ⟨(kept root prepared).1, proof⟩
    · intro root
      by_cases same : root = merkleRoot
      · subst root
        refine ⟨[], List.nodup_nil, ?_, ?_⟩
        · intro leaf
          have none := (leaves merkleRoot leaf).not.mpr (unprocessed leaf)
          simpa [Processed] using none
        · simp [_prepareBatch, State.setBatch, State.emit]
      · have counted := tracked.counted root
        simpa [_prepareBatch, State.setBatch, State.emit, same] using counted
    · intro root
      have signed := tracked.signed root
      by_cases same : root = merkleRoot
      · subst root
        have notPrepared : (state.batches merkleRoot).prepared = false := by
          simpa [Prepared] using new
        simp only [SignedOnce, notPrepared, Bool.false_eq_true, if_false] at signed
        simp [SignedOnce, prepares, _prepareBatch, State.setBatch, State.emit, ← forwarded]
          at signed ⊢
        exact signed
      · have others : prepares root
            (⟨world, msg, .prepareBatchFromLicensedUser merkleRoot⟩ :: trace) =
              prepares root trace := by
          simp [prepares, Ne.symm same]
        rw [others]
        simpa [_prepareBatch, State.setBatch, State.emit, same] using signed
  · exact ⟨fun root leaf processed => ⟨(leaves root leaf).mpr processed, events root leaf⟩, kept⟩

/-- What the operations do to the batches and to the log keeps `Inv` and, from the start of a call
to its end, `Rel`, provided that what others do meanwhile does so too. -/
structure Rule (evm : Evm) (Inv : Snapshot State Transaction → Prop)
    (Rel : State → State → Prop) : Prop where
  refl : ∀ state, Rel state state
  trans : ∀ {first middle last}, Rel first middle → Rel middle last → Rel first last
  prepared : ∀ {before after root}, Rel before after → Prepared before root → Prepared after root
  enter : ∀ {state trace}, Inv ⟨state, trace⟩ → ∀ transaction : Transaction,
    (∀ root, transaction.call ≠ .prepareBatchFromLicensedUser root) →
      Inv ⟨state, transaction :: trace⟩
  quiet : ∀ {state state' trace}, Inv ⟨state, trace⟩ → state'.batches = state.batches →
    state'.logs = state.logs ∨ state'.logs = .Initialized 1 :: state.logs →
      Inv ⟨state', trace⟩ ∧ Rel state state'
  prepare : ∀ {state trace root world} {msg : Msg}, Inv ⟨state, trace⟩ → ¬Prepared state root →
    msg.sender = state.trustedForwarder →
      Inv ⟨_prepareBatch msg state root,
          ⟨world, msg, .prepareBatchFromLicensedUser root⟩ :: trace⟩ ∧
        Rel state (_prepareBatch msg state root)
  mark : ∀ {state state' trace root leaf merkleProof}, Inv ⟨state, trace⟩ → Prepared state root →
    ¬Processed state root leaf → MerkleProof.verify evm merkleProof root leaf = true →
      markProcessed state root leaf = .ok state' → Inv ⟨state', trace⟩
  finish : ∀ {state marked later trace trace' root leaf event}, ¬Processed state root leaf →
    Prepared state root → Inv ⟨state, trace⟩ → markProcessed state root leaf = .ok marked →
      Inv ⟨later, trace'⟩ → Rel marked later →
        (∀ root' leaf', isProcessing root' leaf' event = (root == root' && leaf == leaf')) →
          Inv ⟨later.emit event, trace'⟩ ∧ Rel state (later.emit event)

section Calls

variable {world : World} {query : Query} {Inv : Snapshot State Transaction → Prop}
  {Rel : State → State → Prop}

theorem externalCall_meets (kept : Inv ⟨state, trace⟩) :
    (externalCall state query).Meets Inv (Meanwhile Rel)
      (fun value trace' => Inv ⟨value.2.1, trace'⟩ ∧ Rel state value.2.1) trace := by
  apply Outcome.Meets.bind (Outcome.Meets.external kept)
  rintro ⟨later, answer⟩ trace' ⟨kept', related⟩
  dsimp only
  split
  · exact ⟨kept', related⟩
  · trivial

theorem Rule.transferFromWithProvenanceWithProof (rule : Rule evm Inv Rel)
    (kept : Inv ⟨state, trace⟩) {merkleProof : List Bytes32} {to_ : Address}
    {tokenId customHistoryId : Uint256} {historyMetadataHash : Bytes} {isIntermediary : Bool}
    {contractAddress : Address} :
    (transferFromWithProvenanceWithProof evm world state merkleProof merkleRoot leafHash to_ tokenId
      historyMetadataHash customHistoryId isIntermediary contractAddress).Meets Inv
      (Meanwhile Rel) (fun later trace' => Inv ⟨later, trace'⟩ ∧ Rel state later) trace := by
  apply Outcome.Meets.lift_bind
  intro _ prepared
  apply Outcome.Meets.lift_bind
  intro _ unprocessed
  apply Outcome.Meets.lift_bind
  intro _ _
  apply Outcome.Meets.lift_bind
  intro _ verified
  apply Outcome.Meets.lift_bind
  intro marked made
  simp only [batchExists, srrNotAlreadyProcessed, require_eq_ok] at prepared unprocessed verified
  have fresh : ¬Processed state merkleRoot leafHash := by simp [Processed, unprocessed]
  apply Outcome.Meets.bind (externalCall_meets (rule.mark kept prepared fresh verified made))
  rintro ⟨_, later, _⟩ trace' ⟨kept', related⟩
  exact rule.finish fresh prepared kept made kept' related fun _ _ => rfl

theorem Rule.approveSRRByCommitmentWithProof (rule : Rule evm Inv Rel)
    (kept : Inv ⟨state, trace⟩) {merkleProof : List Bytes32} {tokenId customHistoryId : Uint256}
    {commitment : Bytes32} {historyMetadataHash : Bytes} {contractAddress : Address} :
    (approveSRRByCommitmentWithProof evm world state merkleProof merkleRoot leafHash tokenId
      commitment historyMetadataHash customHistoryId contractAddress).Meets Inv
      (Meanwhile Rel) (fun later trace' => Inv ⟨later, trace'⟩ ∧ Rel state later) trace := by
  apply Outcome.Meets.lift_bind
  intro _ prepared
  apply Outcome.Meets.lift_bind
  intro _ unprocessed
  apply Outcome.Meets.lift_bind
  intro _ _
  apply Outcome.Meets.lift_bind
  intro _ verified
  apply Outcome.Meets.lift_bind
  intro marked made
  simp only [batchExists, srrNotAlreadyProcessed, require_eq_ok] at prepared unprocessed verified
  have fresh : ¬Processed state merkleRoot leafHash := by simp [Processed, unprocessed]
  apply Outcome.Meets.bind (externalCall_meets (rule.mark kept prepared fresh verified made))
  rintro ⟨_, later, _⟩ trace' ⟨kept', related⟩
  exact rule.finish fresh prepared kept made kept' related fun _ _ => rfl

theorem Rule.createSRRWithProof (rule : Rule evm Inv Rel) (kept : Inv ⟨state, trace⟩)
    (prepared : Prepared state merkleRoot) (unprocessed : ¬Processed state merkleRoot leafHash)
    {merkleProof : List Bytes32} {inputs : CreateSRRInputs} :
    (_createSRRWithProof evm world state merkleProof merkleRoot leafHash inputs).Meets Inv
      (Meanwhile Rel) (fun value trace' => Inv ⟨value.2.1, trace'⟩ ∧ Rel state value.2.1)
      trace := by
  apply Outcome.Meets.lift_bind
  intro _ verified
  simp only [require_eq_ok] at verified
  apply Outcome.Meets.lift_bind
  intro marked made
  apply Outcome.Meets.bind (externalCall_meets (rule.mark kept prepared unprocessed verified made))
  rintro ⟨_, later, _⟩ trace' ⟨kept', related⟩
  dsimp only
  split
  · trivial
  · exact rule.finish unprocessed prepared kept made kept' related fun _ _ => rfl

theorem Rule.createLoop (rule : Rule evm Inv Rel) {merkleProofs : List (List Bytes32)}
    {arrays : CreateSRRArrays} {leafHashes : List Bytes32} {i : Nat} (kept : Inv ⟨state, trace⟩)
    (prepared : Prepared state merkleRoot) :
    (createLoop evm merkleProofs merkleRoot arrays leafHashes i world state).Meets Inv
      (Meanwhile Rel) (fun value trace' => Inv ⟨value.1, trace'⟩ ∧ Rel state value.1) trace := by
  induction leafHashes generalizing i world state trace with
  | nil => exact ⟨kept, rule.refl state⟩
  | cons leaf leafHashes ih =>
      apply Outcome.Meets.lift_bind
      intro _ unprocessed
      simp only [srrNotAlreadyProcessed, require_eq_ok] at unprocessed
      have fresh : ¬Processed state merkleRoot leaf := by simp [Processed, unprocessed]
      apply Outcome.Meets.lift_bind
      intro inputs _
      apply Outcome.Meets.lift_bind
      intro _ _
      apply Outcome.Meets.lift_bind
      intro merkleProof _
      apply Outcome.Meets.bind (rule.createSRRWithProof kept prepared fresh)
      rintro ⟨world', later, tokenId⟩ trace' ⟨kept', related⟩
      apply Outcome.Meets.bind (ih kept' (rule.prepared related prepared))
      rintro ⟨last, tokenIds⟩ trace'' ⟨kept'', related'⟩
      exact ⟨kept'', rule.trans related related'⟩

theorem Rule.entry (rule : Rule evm Inv Rel) (transaction : Transaction)
    (kept : Inv ⟨state, trace⟩) :
    Completes Inv (Meanwhile Rel) ⟨state, trace⟩ (transaction :: trace)
      (Bulk.entry evm transaction state) := by
  obtain ⟨world, msg, call⟩ := transaction
  cases call with
  | initializeV1 _nameRegistry _trustedForwarder =>
      apply Outcome.Meets.lift
      intro state' accepted
      simp only [initializeV1, _setTrustedForwarder, bind_eq_ok, pure_eq_ok] at accepted
      obtain ⟨_, _, _, accepted, rfl⟩ := accepted
      split at accepted
      · cases accepted
      · cases accepted
        have entered := rule.enter kept
          ⟨world, msg, .initializeV1 _nameRegistry _trustedForwarder⟩ (by simp)
        exact rule.quiet entered rfl (Or.inr rfl)
  | setTrustedForwarder forwarder =>
      apply Outcome.Meets.lift
      intro state' accepted
      simp only [setTrustedForwarder, _setTrustedForwarder, bind_eq_ok] at accepted
      obtain ⟨_, _, accepted⟩ := accepted
      split at accepted
      · cases accepted
      · cases accepted
        have entered := rule.enter kept ⟨world, msg, .setTrustedForwarder forwarder⟩ (by simp)
        exact rule.quiet entered rfl (Or.inl rfl)
  | prepareBatchFromLicensedUser merkleRoot =>
      apply Outcome.Meets.lift
      intro state' accepted
      simp only [prepareBatchFromLicensedUser, isNewBatch, trustedForwarderOnly, bind_eq_ok,
        require_eq_ok, pure_eq_ok] at accepted
      obtain ⟨_, new, _, forwarded, rfl⟩ := accepted
      exact rule.prepare kept (by simp [Prepared, new]) forwarded
  | createSRRWithProofMulti merkleProofs merkleRoot leafHashes arrays =>
      have entered := rule.enter kept
        ⟨world, msg, .createSRRWithProofMulti merkleProofs merkleRoot leafHashes arrays⟩ (by simp)
      have loop : (createSRRWithProofMulti evm world state merkleProofs merkleRoot leafHashes
          arrays).Meets Inv (Meanwhile Rel)
          (fun value trace' => Inv ⟨value.1, trace'⟩ ∧ Rel state value.1)
          (⟨world, msg, .createSRRWithProofMulti merkleProofs merkleRoot leafHashes arrays⟩ ::
            trace) := by
        apply Outcome.Meets.lift_bind
        intro _ prepared
        simp only [batchExists, require_eq_ok] at prepared
        exact rule.createLoop entered prepared
      apply Outcome.Meets.bind loop
      rintro ⟨later, tokenIds⟩ trace' kept'
      exact kept'
  | approveSRRByCommitmentWithProof merkleProof merkleRoot leafHash tokenId commitment
      historyMetadataHash customHistoryId contractAddress =>
      exact rule.approveSRRByCommitmentWithProof (rule.enter kept _ (by simp))
  | transferFromWithProvenanceWithProof merkleProof merkleRoot leafHash to_ tokenId
      historyMetadataHash customHistoryId isIntermediary contractAddress =>
      exact rule.transferFromWithProvenanceWithProof (rule.enter kept _ (by simp))

/-- A run keeps what its calls keep, and so it does from its start to where no call is pending. -/
theorem Rule.reach (rule : Rule evm Inv Rel) (initial : Inv ⟨State.blank, []⟩)
    {config : Config Revert State Query Answer Transaction}
    (reach : Reach (Bulk.entry evm) (fun _ _ => True) State.blank config) :
    Inv config.now ∧ (config.frames = [] → Rel State.blank config.now.state) := by
  obtain ⟨kept, stacked⟩ := reach.sound Inv (Meanwhile Rel)
    (fun _ => rule.refl _) rule.trans (fun transaction _ _ kept => rule.entry transaction kept)
    initial
  refine ⟨kept, fun none => ?_⟩
  rw [none] at stacked
  exact stacked

end Calls

theorem tracked_rule : Rule evm (Tracked evm) Settled where
  refl := Settled.refl
  trans := Settled.trans
  prepared := fun settled prepared => (settled.prepared _ prepared).1
  enter := fun tracked => tracked.enter
  quiet := by
    intro state state' trace tracked batches logged
    refine tracked.quiet batches fun root leaf => ?_
    rcases logged with same | announced
    · rw [same]
    · rw [announced]
      rfl
  prepare := Tracked.prepare
  mark := fun tracked prepared unprocessed => tracked.mark prepared unprocessed
  finish := fun unprocessed _ before => before.finish unprocessed

theorem reach_tracked {config : Config Revert State Query Answer Transaction}
    (reach : Reach (entry evm) (fun _ _ => True) State.blank config) : Tracked evm config.now :=
  (tracked_rule.reach tracked_blank reach).1

/-- Once a batch is prepared, nothing the contract does itself changes its signer. -/
def SignerFixed (before after : State) : Prop :=
  ∀ merkleRoot, Prepared before merkleRoot →
    Prepared after merkleRoot ∧
      (after.batches merkleRoot).signer = (before.batches merkleRoot).signer

section Signers

variable {world : World} {query : Query} {before : State}

theorem SignerFixed.refl (state : State) : SignerFixed state state :=
  fun _ prepared => ⟨prepared, rfl⟩

theorem SignerFixed.trans {first middle last : State} (before : SignerFixed first middle)
    (after : SignerFixed middle last) : SignerFixed first last := by
  intro merkleRoot prepared
  obtain ⟨still, same⟩ := before merkleRoot prepared
  obtain ⟨still', same'⟩ := after merkleRoot still
  exact ⟨still', same'.trans same⟩

theorem SignerFixed.mark (fixed : SignerFixed before state)
    (marked : markProcessed state merkleRoot leafHash = .ok state') : SignerFixed before state' :=
  fixed.trans (markProcessed_settled marked).prepared

theorem externalCall_signers (fixed : SignerFixed before state) :
    (externalCall state query).Segments SignerFixed
      (fun resumed value => value.2.1 = resumed) before := by
  apply Outcome.Segments.bind (Outcome.Segments.external fixed)
  rintro resumed ⟨later, answer⟩ rfl
  dsimp only
  split
  · rfl
  · trivial

theorem createLoop_signers {merkleProofs : List (List Bytes32)} {arrays : CreateSRRArrays}
    {leafHashes : List Bytes32} {i : Nat} (fixed : SignerFixed before state) :
    (createLoop evm merkleProofs merkleRoot arrays leafHashes i world state).Segments SignerFixed
      (fun before value => SignerFixed before value.1) before := by
  induction leafHashes generalizing i world state before with
  | nil => exact fixed
  | cons leaf leafHashes ih =>
      apply Outcome.Segments.lift_bind
      intro _ _
      apply Outcome.Segments.lift_bind
      intro inputs _
      apply Outcome.Segments.lift_bind
      intro _ _
      apply Outcome.Segments.lift_bind
      intro merkleProof _
      unfold _createSRRWithProof
      rw [bind_assoc]
      apply Outcome.Segments.lift_bind
      intro _ _
      rw [bind_assoc]
      apply Outcome.Segments.lift_bind
      intro marked made
      rw [bind_assoc]
      apply Outcome.Segments.bind (externalCall_signers (fixed.mark made))
      rintro resumed ⟨world', later, returndata⟩ rfl
      dsimp only
      split
      · trivial
      · rw [pure_bind]
        have logged : SignerFixed later (later.emit (.CreateSRRWithProof merkleRoot
            inputs.contractAddress (wordOf (returndata.take 32)) leaf)) := SignerFixed.refl later
        apply Outcome.Segments.bind (ih logged)
        rintro resumed ⟨last, tokenIds⟩ fixed
        exact fixed

theorem entry_signers (transaction : Transaction) (state : State) :
    (entry evm transaction state).Segments SignerFixed SignerFixed state := by
  obtain ⟨world, msg, call⟩ := transaction
  cases call with
  | initializeV1 _nameRegistry _trustedForwarder =>
      apply Outcome.Segments.lift
      intro state' accepted
      simp only [initializeV1, _setTrustedForwarder, bind_eq_ok, pure_eq_ok] at accepted
      obtain ⟨_, _, _, accepted, rfl⟩ := accepted
      split at accepted
      · cases accepted
      · cases accepted
        exact SignerFixed.refl state
  | setTrustedForwarder forwarder =>
      apply Outcome.Segments.lift
      intro state' accepted
      simp only [setTrustedForwarder, _setTrustedForwarder, bind_eq_ok] at accepted
      obtain ⟨_, _, accepted⟩ := accepted
      split at accepted
      · cases accepted
      · cases accepted
        exact SignerFixed.refl state
  | prepareBatchFromLicensedUser merkleRoot =>
      apply Outcome.Segments.lift
      intro state' accepted
      simp only [prepareBatchFromLicensedUser, isNewBatch, bind_eq_ok, require_eq_ok,
        pure_eq_ok] at accepted
      obtain ⟨_, new, _, _, rfl⟩ := accepted
      intro root prepared
      have different : root ≠ merkleRoot := by
        rintro rfl
        simp [Prepared, new] at prepared
      simpa [Prepared, _prepareBatch, State.setBatch, State.emit, different] using prepared
  | createSRRWithProofMulti merkleProofs merkleRoot leafHashes arrays =>
      have loop : (createSRRWithProofMulti evm world state merkleProofs merkleRoot leafHashes
          arrays).Segments SignerFixed (fun before value => SignerFixed before value.1) state := by
        apply Outcome.Segments.lift_bind
        intro _ _
        exact createLoop_signers (SignerFixed.refl state)
      apply Outcome.Segments.bind loop
      rintro before ⟨later, tokenIds⟩ fixed
      exact fixed
  | approveSRRByCommitmentWithProof merkleProof merkleRoot leafHash tokenId commitment
      historyMetadataHash customHistoryId contractAddress =>
      apply Outcome.Segments.lift_bind
      intro _ _
      apply Outcome.Segments.lift_bind
      intro _ _
      apply Outcome.Segments.lift_bind
      intro _ _
      apply Outcome.Segments.lift_bind
      intro _ _
      apply Outcome.Segments.lift_bind
      intro marked made
      apply Outcome.Segments.bind (externalCall_signers ((SignerFixed.refl state).mark made))
      rintro resumed ⟨_, later, _⟩ rfl
      exact SignerFixed.refl later
  | transferFromWithProvenanceWithProof merkleProof merkleRoot leafHash to_ tokenId
      historyMetadataHash customHistoryId isIntermediary contractAddress =>
      apply Outcome.Segments.lift_bind
      intro _ _
      apply Outcome.Segments.lift_bind
      intro _ _
      apply Outcome.Segments.lift_bind
      intro _ _
      apply Outcome.Segments.lift_bind
      intro _ _
      apply Outcome.Segments.lift_bind
      intro marked made
      apply Outcome.Segments.bind (externalCall_signers ((SignerFixed.refl state).mark made))
      rintro resumed ⟨_, later, _⟩ rfl
      exact SignerFixed.refl later

end Signers

theorem batches_sound (evm : Evm) (config : Config Revert State Query Answer Transaction)
    (reach : Reach (entry evm) (fun _ _ => True) State.blank config) :
    (∀ merkleRoot leafHash, processings merkleRoot leafHash config.now.state.logs ≤ 1) ∧
      (∀ merkleRoot leafHash, Processed config.now.state merkleRoot leafHash →
        Prepared config.now.state merkleRoot ∧
          ∃ merkleProof, MerkleProof.verify evm merkleProof merkleRoot leafHash = true) ∧
      (∀ merkleRoot, ∃ leaves, Counts (config.now.state.batches merkleRoot) leaves) ∧
      (∀ merkleRoot, SignedOnce (config.now.state.batches merkleRoot)
        (prepares merkleRoot config.now.trace)) ∧
      (∀ transaction, (entry evm transaction config.now.state).Segments SignerFixed SignerFixed
        config.now.state) ∧
      Reverting (entry evm) (fun _ _ => True) config := by
  have tracked := reach_tracked reach
  exact ⟨tracked.once, tracked.proved, tracked.counted, tracked.signed,
    fun transaction => entry_signers transaction _, reverting _ _ _⟩

section Runs

def onlyLeaf : Bytes32 :=
  0x4e6c829315e67672e670e220b7caac6581e2ba35c9cc66cffac92906c31b32b7

def onlyLeafInputs : Bytes := packBool true ++ packWord (0xa11ce : Address) ++ ascii "Qm" ++
  packBool false ++ packWord (0xb0b : Address) ++ packWord (500 : Uint16) ++
  packWord (0xc0117 : Address)

def onlyLeafEvm : Evm := Evm.ofTables [(onlyLeafInputs, onlyLeaf)] []

def submitOnlyLeaf : Transaction :=
  ⟨World.named [], ⟨0xe0a, []⟩, .createSRRWithProofMulti [[]] onlyLeaf [onlyLeaf]
    ⟨[true], [0xa11ce], [ascii "Qm"], [false], none, [0xb0b], [500], [0xc0117]⟩⟩

-- A batch of one leaf, which is submitted again while the contract it concerns runs.
def resubmittedRun : Config Revert State Query Answer Transaction :=
  let initialized := Config.enter (entry onlyLeafEvm)
    ⟨World.named [], ⟨0xad317, []⟩, .initializeV1 0x4a3e 0xf04⟩ (.start State.blank)
  let prepared := initialized.enter (entry onlyLeafEvm)
    ⟨World.named [], ⟨0xf04, List.replicate 36 0 ++ packWord (0x115e4 : Address)⟩,
      .prepareBatchFromLicensedUser onlyLeaf⟩
  ((prepared.enter (entry onlyLeafEvm) submitOnlyLeaf).enter (entry onlyLeafEvm)
    submitOnlyLeaf).reply ⟨⟨true, packWord (7 : Uint256)⟩, World.named []⟩

set_option maxRecDepth 8000 in
theorem resubmittedRun_once :
    resubmittedRun.frames.length = 0 ∧
      processings onlyLeaf onlyLeaf resubmittedRun.now.state.logs = 1 ∧
      Prepared resubmittedRun.now.state onlyLeaf ∧
      (resubmittedRun.now.state.batches onlyLeaf).signer = 0x115e4 := by
  have reach : Reach (entry onlyLeafEvm) (fun _ _ => True) State.blank resubmittedRun := by
    unfold resubmittedRun
    exact .reply _
      (.enter _ (.enter _ (.enter _ (.enter _ .start trivial) trivial) trivial) trivial)
  obtain ⟨once, proved, _⟩ := batches_sound onlyLeafEvm resubmittedRun reach
  have most := once onlyLeaf onlyLeaf
  have least : 1 ≤ processings onlyLeaf onlyLeaf resubmittedRun.now.state.logs := by decide
  have processed : Processed resubmittedRun.now.state onlyLeaf onlyLeaf := by
    unfold Processed
    decide
  exact ⟨by decide, Nat.le_antisymm most least, (proved onlyLeaf onlyLeaf processed).1, by decide⟩

end Runs

end Startrail.Bulk
