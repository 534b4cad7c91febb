import Mathlib.Data.List.Nodup
import Startrail.Bulk.Batches

/-!
How far a batch can be worked through. Every leaf that is processed adds one to
`processedCount`, a checked eight-bit counter that nothing else reads. `Proceeds`
says what the four operations do with the leaves they are given, whatever others
do while the calls wait, and the run lemmas count the leaves over a whole order of
submissions.
-/

namespace Startrail.Bulk

/-- The answers with which the contract called has done its part. -/
def Accepts (query : Query) (answer : Answer) : Prop :=
  answer.reply.success = true ∧ match query with
    | .createSRRFromBulk .. => 32 ≤ answer.reply.returndata.length
    | _ => True

def CreatesAt (evm : Evm) (merkleRoot : Bytes32) (merkleProofs : List (List Bytes32))
    (arrays : CreateSRRArrays) (i : Nat) (leafHash : Bytes32) : Prop :=
  ∃ inputs merkleProof, arrays.inputsAt i = .ok inputs ∧ merkleProofs[i]? = some merkleProof ∧
    verifyLeafHash evm leafHash inputs arrays.tos.isSome = true ∧
    MerkleProof.verify evm merkleProof merkleRoot leafHash = true

/-- A call that submits these leaves, with the parameters and the proof of each. -/
inductive Submits (evm : Evm) (merkleRoot : Bytes32) : Call → List Bytes32 → Prop
  | create {merkleProofs leafHashes arrays}
      (matching : ∀ i leafHash, leafHashes[i]? = some leafHash →
        CreatesAt evm merkleRoot merkleProofs arrays i leafHash) :
      Submits evm merkleRoot
        (.createSRRWithProofMulti merkleProofs merkleRoot leafHashes arrays) leafHashes
  | approve {merkleProof leafHash tokenId commitment historyMetadataHash customHistoryId
      contractAddress}
      (matching : verifyApproveSRRByCommitmentHash evm leafHash tokenId commitment
        historyMetadataHash customHistoryId contractAddress = true)
      (verified : MerkleProof.verify evm merkleProof merkleRoot leafHash = true) :
      Submits evm merkleRoot (.approveSRRByCommitmentWithProof merkleProof merkleRoot leafHash
        tokenId commitment historyMetadataHash customHistoryId contractAddress) [leafHash]
  | transfer {merkleProof leafHash to_ tokenId historyMetadataHash customHistoryId isIntermediary
      contractAddress}
      (matching : verifyTransferFromWithProvenanceHash evm leafHash to_ tokenId
        historyMetadataHash customHistoryId isIntermediary contractAddress = true)
      (verified : MerkleProof.verify evm merkleProof merkleRoot leafHash = true) :
      Submits evm merkleRoot (.transferFromWithProvenanceWithProof merkleProof merkleRoot leafHash
        to_ tokenId historyMetadataHash customHistoryId isIntermediary contractAddress) [leafHash]

/-- The leaves were processed, and only they. -/
structure Took (merkleRoot : Bytes32) (leaves : List Bytes32) (before after : State) : Prop where
  prepared : (after.batches merkleRoot).prepared = (before.batches merkleRoot).prepared
  processed : ∀ leafHash, Processed after merkleRoot leafHash ↔
    leafHash ∈ leaves ∨ Processed before merkleRoot leafHash
  counted : (after.batches merkleRoot).processedCount.toNat =
    (before.batches merkleRoot).processedCount.toNat + leaves.length

/-- What becomes of the leaves in the code: each in turn, if nobody has processed it by then, is
marked and its call is made while the count has room, and otherwise the code panics. Others may do
anything while a call waits. -/
def Proceeds (merkleRoot : Bytes32) : List Bytes32 → State → Execution State → Prop
  | [], resumed, code => ∃ final, code = .done final ∧ Took merkleRoot [] resumed final
  | leafHash :: leaves, resumed, code => ¬Processed resumed merkleRoot leafHash →
      if (resumed.batches merkleRoot).processedCount.toNat < 255 then
        ∃ marked query resume, code = .call marked query resume ∧
          Took merkleRoot [leafHash] resumed marked ∧
          ∀ later answer, Accepts query answer →
            Proceeds merkleRoot leaves later (resume later answer)
      else code = .revert (.panic 0x11)

variable {evm : Evm} {merkleRoot leafHash : Bytes32} {leaves : List Bytes32}
  {state state' before middle after : State}

theorem markProcessed_room (room : (state.batches merkleRoot).processedCount.toNat < 255) :
    ∃ marked, markProcessed state merkleRoot leafHash = .ok marked := by
  have fits : (state.batches merkleRoot).processedCount.toNat + 1 < 2 ^ 8 := by omega
  simp only [markProcessed, requirePanic, if_pos fits]
  exact ⟨_, rfl⟩

theorem markProcessed_full (full : ¬(state.batches merkleRoot).processedCount.toNat < 255) :
    markProcessed state merkleRoot leafHash = .error (.panic 0x11) := by
  have beyond : ¬(state.batches merkleRoot).processedCount.toNat + 1 < 2 ^ 8 := by omega
  simp only [markProcessed, requirePanic, if_neg beyond]
  rfl

theorem Took.of_batch (same : after.batches merkleRoot = before.batches merkleRoot) :
    Took merkleRoot [] before after := by
  refine ⟨by rw [same], ?_, by rw [same]; rfl⟩
  intro leafHash
  simp [Processed, same]

theorem Took.trans {first second : List Bytes32} (took : Took merkleRoot first before middle)
    (took' : Took merkleRoot second middle after) :
    Took merkleRoot (first ++ second) before after := by
  refine ⟨took'.prepared.trans took.prepared, ?_, ?_⟩
  · intro leafHash
    rw [took'.processed, took.processed, List.mem_append]
    tauto
  · rw [took'.counted, took.counted, List.length_append, Nat.add_assoc]

theorem Took.mark (marked : markProcessed state merkleRoot leafHash = .ok state') :
    Took merkleRoot [leafHash] state state' := by
  refine ⟨(markProcessed_batch marked merkleRoot).1, ?_, ?_⟩
  · intro leaf
    rw [markProcessed_processed marked]
    simp
  · obtain ⟨room, rfl⟩ := markProcessed_effect marked
    have one : (1 : Uint8).toNat = 1 := rfl
    simp only [State.setBatch, Function.update_self, BitVec.toNat_add, one, List.length_singleton]
    omega

theorem Proceeds.congr {code : Execution State}
    (same : after.batches merkleRoot = before.batches merkleRoot)
    (proceeds : Proceeds merkleRoot leaves after code) :
    Proceeds merkleRoot leaves before code := by
  cases leaves with
  | nil =>
      obtain ⟨final, finished, took⟩ := proceeds
      exact ⟨final, finished, (Took.of_batch same).trans took⟩
  | cons leafHash leaves =>
      intro unprocessed
      have fresh : ¬Processed after merkleRoot leafHash := by
        rwa [Processed, same]
      have taken := proceeds fresh
      rw [same] at taken
      split
      · rename_i room
        rw [if_pos room] at taken
        obtain ⟨marked, query, resume, called, took, rest⟩ := taken
        exact ⟨marked, query, resume, called, (Took.of_batch same).trans took, rest⟩
      · rename_i full
        rwa [if_neg full] at taken

/-- The part that the operations have in common: the mark, then the call. -/
theorem Proceeds.mark {next : State → Execution State}
    (calls : ∀ marked, ∃ query resume, next marked = .call marked query resume ∧
      ∀ later answer, Accepts query answer →
        Proceeds merkleRoot leaves later (resume later answer)) :
    Proceeds merkleRoot (leafHash :: leaves) state
      ((liftM (markProcessed state merkleRoot leafHash) : Execution State) >>= next) := by
  intro _
  split
  · rename_i room
    obtain ⟨marked, made⟩ := @markProcessed_room merkleRoot leafHash state room
    obtain ⟨query, resume, called, rest⟩ := calls marked
    refine ⟨marked, query, resume, ?_, Took.mark made, rest⟩
    rw [made, Outcome.liftM_ok, Outcome.done_bind, called]
  · rename_i full
    rw [markProcessed_full full, Outcome.liftM_error, Outcome.revert_bind]

theorem externalCall_bind (query : Query) (next : World × State × Bytes → Execution State) :
    (externalCall state query >>= next) = .call state query fun later answer =>
      if answer.reply.success = true then next (answer.world, later, answer.reply.returndata)
      else .revert (.bubbled answer.reply.returndata) := by
  unfold externalCall Outcome.external
  simp only [Outcome.call_bind, Outcome.done_bind]
  congr
  funext later answer
  split
  · rfl
  · rfl

section Operations

variable {world : World} {merkleProof : List Bytes32} {tokenId customHistoryId : Uint256}
  {historyMetadataHash : Bytes} {contractAddress : Address}

theorem transferFromWithProvenanceWithProof_proceeds {to_ : Address} {isIntermediary : Bool}
    (prepared : Prepared state merkleRoot)
    (matching : verifyTransferFromWithProvenanceHash evm leafHash to_ tokenId historyMetadataHash
      customHistoryId isIntermediary contractAddress = true)
    (verified : MerkleProof.verify evm merkleProof merkleRoot leafHash = true) :
    Proceeds merkleRoot [leafHash] state
      (transferFromWithProvenanceWithProof evm world state merkleProof merkleRoot leafHash to_
        tokenId historyMetadataHash customHistoryId isIntermediary contractAddress) := by
  intro unprocessed
  have exists_ : batchExists state merkleRoot = .ok () := require_eq_ok.mpr prepared
  have fresh : srrNotAlreadyProcessed state merkleRoot leafHash = .ok () :=
    require_eq_ok.mpr (by simpa [Processed] using unprocessed)
  simp only [transferFromWithProvenanceWithProof, exists_, fresh, require, if_pos matching,
    if_pos verified, Outcome.liftM_ok, Outcome.done_bind]
  refine @Proceeds.mark _ _ [] _ _ ?_ unprocessed
  intro marked
  refine ⟨_, _, externalCall_bind _ _, ?_⟩
  rintro later answer ⟨success, _⟩
  rw [if_pos success]
  exact ⟨_, rfl, Took.of_batch rfl⟩

theorem approveSRRByCommitmentWithProof_proceeds {commitment : Bytes32}
    (prepared : Prepared state merkleRoot)
    (matching : verifyApproveSRRByCommitmentHash evm leafHash tokenId commitment
      historyMetadataHash customHistoryId contractAddress = true)
    (verified : MerkleProof.verify evm merkleProof merkleRoot leafHash = true) :
    Proceeds merkleRoot [leafHash] state
      (approveSRRByCommitmentWithProof evm world state merkleProof merkleRoot leafHash tokenId
        commitment historyMetadataHash customHistoryId contractAddress) := by
  intro unprocessed
  have exists_ : batchExists state merkleRoot = .ok () := require_eq_ok.mpr prepared
  have fresh : srrNotAlreadyProcessed state merkleRoot leafHash = .ok () :=
    require_eq_ok.mpr (by simpa [Processed] using unprocessed)
  simp only [approveSRRByCommitmentWithProof, exists_, fresh, require, if_pos matching,
    if_pos verified, Outcome.liftM_ok, Outcome.done_bind]
  refine @Proceeds.mark _ _ [] _ _ ?_ unprocessed
  intro marked
  refine ⟨_, _, externalCall_bind _ _, ?_⟩
  rintro later answer ⟨success, _⟩
  rw [if_pos success]
  exact ⟨_, rfl, Took.of_batch rfl⟩

theorem createLoop_proceeds {merkleProofs : List (List Bytes32)} {arrays : CreateSRRArrays}
    {i : Nat} {next : State × List Uint256 → Execution State}
    (matching : ∀ j leafHash, leaves[j]? = some leafHash →
      CreatesAt evm merkleRoot merkleProofs arrays (i + j) leafHash)
    (ends : ∀ final tokenIds, next (final, tokenIds) = .done final) :
    Proceeds merkleRoot leaves state
      (createLoop evm merkleProofs merkleRoot arrays leaves i world state >>= next) := by
  induction leaves generalizing i world state next with
  | nil => exact ⟨state, ends state [], Took.of_batch rfl⟩
  | cons leafHash leaves ih =>
      intro unprocessed
      obtain ⟨inputs, merkleProof, read, proof, matches_, verified⟩ :=
        matching 0 leafHash List.getElem?_cons_zero
      have fresh : srrNotAlreadyProcessed state merkleRoot leafHash = .ok () :=
        require_eq_ok.mpr (by simpa [Processed] using unprocessed)
      have found : index merkleProofs i = .ok merkleProof := by
        simp only [Nat.add_zero] at proof
        simp only [index, proof]
        rfl
      simp only [Nat.add_zero] at read
      simp only [createLoop, _createSRRWithProof, fresh, read, found, require, if_pos matches_,
        if_pos verified, Outcome.liftM_ok, Outcome.done_bind, bind_assoc]
      refine Proceeds.mark ?_ unprocessed
      intro marked
      refine ⟨_, _, externalCall_bind _ _, ?_⟩
      rintro later answer ⟨success, long⟩
      have short : ¬answer.reply.returndata.length < 32 := Nat.not_lt.mpr long
      rw [if_pos success, if_neg short, pure_bind]
      refine Proceeds.congr ?_ (ih ?_ ?_)
      · rfl
      · intro j leaf at_
        have later := matching (j + 1) leaf (by simpa using at_)
        rwa [← Nat.add_assoc, Nat.add_right_comm] at later
      · intro final tokenIds
        exact ends final _

theorem entry_proceeds {transaction : Transaction} (prepared : Prepared state merkleRoot)
    (submits : Submits evm merkleRoot transaction.call leaves) :
    Proceeds merkleRoot leaves state (entry evm transaction state) := by
  obtain ⟨world, msg, call⟩ := transaction
  cases submits with
  | create matching =>
      have exists_ : batchExists state merkleRoot = .ok () := require_eq_ok.mpr prepared
      simp only [entry, createSRRWithProofMulti, exists_, Outcome.liftM_ok, Outcome.done_bind]
      refine createLoop_proceeds ?_ fun _ _ => rfl
      simpa only [Nat.zero_add] using matching
  | approve matching verified =>
      exact approveSRRByCommitmentWithProof_proceeds prepared matching verified
  | transfer matching verified =>
      exact transferFromWithProvenanceWithProof_proceeds prepared matching verified

end Operations

/-- What answers the calls of a submission; it may do anything except to this batch. -/
abbrev Environment := State → Query → State × Answer

def Friendly (merkleRoot : Bytes32) (environment : Environment) : Prop :=
  ∀ state query, (environment state query).1.batches merkleRoot = state.batches merkleRoot ∧
    Accepts query (environment state query).2

theorem Took.others {first rest : List Bytes32} (took : Took merkleRoot first before after)
    (distinct : (first ++ rest).Nodup)
    (unprocessed : ∀ leaf ∈ first ++ rest, ¬Processed before merkleRoot leaf) :
    ∀ leaf ∈ rest, ¬Processed after merkleRoot leaf := by
  intro leaf member processed
  rcases (took.processed leaf).mp processed with own | already
  · exact (List.nodup_append.mp distinct).2.2 leaf own leaf member rfl
  · exact unprocessed leaf (List.mem_append_right _ member) already

section Answers

variable {environment : Environment} {code : Execution State}

theorem Proceeds.step (friendly : Friendly merkleRoot environment)
    (distinct : (leafHash :: leaves).Nodup)
    (unprocessed : ∀ leaf ∈ leafHash :: leaves, ¬Processed state merkleRoot leaf)
    (room : (state.batches merkleRoot).processedCount.toNat < 255)
    (proceeds : Proceeds merkleRoot (leafHash :: leaves) state code) :
    ∃ later rest, code.against environment = rest.against environment ∧
      Took merkleRoot [leafHash] state later ∧
      (∀ leaf ∈ leaves, ¬Processed later merkleRoot leaf) ∧
      Proceeds merkleRoot leaves later rest := by
  have taken := proceeds (unprocessed leafHash List.mem_cons_self)
  rw [if_pos room] at taken
  obtain ⟨marked, query, resume, rfl, took, rest⟩ := taken
  obtain ⟨same, accepts⟩ := friendly marked query
  have answered : Took merkleRoot [leafHash] state (environment marked query).1 :=
    took.trans (Took.of_batch same)
  exact ⟨_, resume _ (environment marked query).2, rfl, answered,
    answered.others distinct unprocessed, rest _ _ accepts⟩

theorem Proceeds.finishes (friendly : Friendly merkleRoot environment) (distinct : leaves.Nodup)
    (unprocessed : ∀ leaf ∈ leaves, ¬Processed state merkleRoot leaf)
    (room : (state.batches merkleRoot).processedCount.toNat + leaves.length ≤ 255)
    (proceeds : Proceeds merkleRoot leaves state code) :
    ∃ final, code.against environment = .ok final ∧ Took merkleRoot leaves state final := by
  induction leaves generalizing state code with
  | nil =>
      obtain ⟨final, rfl, took⟩ := proceeds
      exact ⟨final, rfl, took⟩
  | cons leafHash leaves ih =>
      rw [List.length_cons] at room
      obtain ⟨later, rest, same, took, fresh, proceeds⟩ :=
        proceeds.step friendly distinct unprocessed (by omega)
      have roomRest : (later.batches merkleRoot).processedCount.toNat + leaves.length ≤ 255 := by
        rw [took.counted, List.length_singleton]
        omega
      obtain ⟨final, finished, tookRest⟩ :=
        ih (List.nodup_cons.mp distinct).2 fresh roomRest proceeds
      exact ⟨final, same.trans finished, took.trans tookRest⟩

theorem Proceeds.panics (friendly : Friendly merkleRoot environment) (distinct : leaves.Nodup)
    (unprocessed : ∀ leaf ∈ leaves, ¬Processed state merkleRoot leaf)
    (full : 255 < (state.batches merkleRoot).processedCount.toNat + leaves.length)
    (proceeds : Proceeds merkleRoot leaves state code) :
    code.against environment = .error (.panic 0x11) := by
  induction leaves generalizing state code with
  | nil =>
      have bound := (state.batches merkleRoot).processedCount.isLt
      rw [List.length_nil] at full
      omega
  | cons leafHash leaves ih =>
      rw [List.length_cons] at full
      by_cases room : (state.batches merkleRoot).processedCount.toNat < 255
      · obtain ⟨later, rest, same, took, fresh, proceeds⟩ :=
          proceeds.step friendly distinct unprocessed room
        have fullRest : 255 < (later.batches merkleRoot).processedCount.toNat + leaves.length := by
          rw [took.counted, List.length_singleton]
          omega
        exact same.trans (ih (List.nodup_cons.mp distinct).2 fresh fullRest proceeds)
      · have stuck := proceeds (unprocessed leafHash List.mem_cons_self)
        rw [if_neg room] at stuck
        rw [stuck]
        rfl

end Answers

/-- A call together with what happens before it and while its own calls wait. -/
structure Submission where
  since : State → State
  transaction : Transaction
  environment : Environment

def submit (evm : Evm) (state : State) (submission : Submission) : Result State :=
  (entry evm submission.transaction (submission.since state)).against submission.environment

def submitAll (evm : Evm) (submissions : List Submission) (state : State) : Result State :=
  submissions.foldlM (submit evm) state

/-- Submissions, in this order, of these leaves, which nobody else touches meanwhile. -/
inductive Submitted (evm : Evm) (merkleRoot : Bytes32) : List Submission → List Bytes32 → Prop
  | nil : Submitted evm merkleRoot [] []
  | cons {submission submissions first rest}
      (since : ∀ state, (submission.since state).batches merkleRoot = state.batches merkleRoot)
      (submits : Submits evm merkleRoot submission.transaction.call first)
      (friendly : Friendly merkleRoot submission.environment)
      (others : Submitted evm merkleRoot submissions rest) :
      Submitted evm merkleRoot (submission :: submissions) (first ++ rest)

section Orders

variable {submission : Submission} {submissions : List Submission}

theorem submit_proceeds
    (since : ∀ state, (submission.since state).batches merkleRoot = state.batches merkleRoot)
    (submits : Submits evm merkleRoot submission.transaction.call leaves)
    (prepared : Prepared state merkleRoot) :
    Proceeds merkleRoot leaves state
      (entry evm submission.transaction (submission.since state)) := by
  have waited : Prepared (submission.since state) merkleRoot := by
    rwa [Prepared, since]
  exact Proceeds.congr (since state) (entry_proceeds waited submits)

theorem submitAll_finishes (submitted : Submitted evm merkleRoot submissions leaves)
    (prepared : Prepared state merkleRoot) (distinct : leaves.Nodup)
    (unprocessed : ∀ leaf ∈ leaves, ¬Processed state merkleRoot leaf)
    (room : (state.batches merkleRoot).processedCount.toNat + leaves.length ≤ 255) :
    ∃ final, submitAll evm submissions state = .ok final ∧ Took merkleRoot leaves state final := by
  induction submitted generalizing state with
  | nil => exact ⟨state, rfl, Took.of_batch rfl⟩
  | @cons submission submissions first rest since submits friendly _ ih =>
      rw [List.length_append] at room
      obtain ⟨later, submitted, took⟩ := (submit_proceeds since submits prepared).finishes friendly
        (List.nodup_append.mp distinct).1
        (fun leaf member => unprocessed leaf (List.mem_append_left _ member)) (by omega)
      have roomRest : (later.batches merkleRoot).processedCount.toNat + rest.length ≤ 255 := by
        rw [took.counted]
        omega
      obtain ⟨final, completed, tookRest⟩ := ih (took.prepared.trans prepared)
        (List.nodup_append.mp distinct).2.1 (took.others distinct unprocessed) roomRest
      refine ⟨final, ?_, took.trans tookRest⟩
      simp only [submitAll, List.foldlM_cons, bind_eq_ok]
      exact ⟨later, submitted, completed⟩

theorem submitAll_panics (submitted : Submitted evm merkleRoot submissions leaves)
    (prepared : Prepared state merkleRoot) (distinct : leaves.Nodup)
    (unprocessed : ∀ leaf ∈ leaves, ¬Processed state merkleRoot leaf)
    (full : 255 < (state.batches merkleRoot).processedCount.toNat + leaves.length) :
    submitAll evm submissions state = .error (.panic 0x11) := by
  induction submitted generalizing state with
  | nil =>
      have bound := (state.batches merkleRoot).processedCount.isLt
      rw [List.length_nil] at full
      omega
  | @cons submission submissions first rest since submits friendly _ ih =>
      rw [List.length_append] at full
      have proceeds := submit_proceeds since submits prepared
      have distinctFirst := (List.nodup_append.mp distinct).1
      have fresh : ∀ leaf ∈ first, ¬Processed state merkleRoot leaf :=
        fun leaf member => unprocessed leaf (List.mem_append_left _ member)
      rw [submitAll, List.foldlM_cons]
      by_cases room : (state.batches merkleRoot).processedCount.toNat + first.length ≤ 255
      · obtain ⟨later, submitted, took⟩ := proceeds.finishes friendly distinctFirst fresh room
        have fullRest : 255 < (later.batches merkleRoot).processedCount.toNat + rest.length := by
          rw [took.counted]
          omega
        rw [submit, submitted]
        exact ih (took.prepared.trans prepared) (List.nodup_append.mp distinct).2.1
          (took.others distinct unprocessed) fullRest
      · rw [submit, proceeds.panics friendly distinctFirst fresh (by omega)]
        rfl

theorem submitAll_iff (submitted : Submitted evm merkleRoot submissions leaves)
    (prepared : Prepared state merkleRoot) (distinct : leaves.Nodup)
    (unprocessed : ∀ leaf ∈ leaves, ¬Processed state merkleRoot leaf) :
    (∃ final, submitAll evm submissions state = .ok final ∧
      ∀ leaf ∈ leaves, Processed final merkleRoot leaf) ↔
      (state.batches merkleRoot).processedCount.toNat + leaves.length ≤ 255 := by
  constructor
  · rintro ⟨final, completed, _⟩
    by_contra full
    rw [submitAll_panics submitted prepared distinct unprocessed (by omega)] at completed
    cases completed
  · intro room
    obtain ⟨final, completed, took⟩ :=
      submitAll_finishes submitted prepared distinct unprocessed room
    exact ⟨final, completed, fun leaf member => (took.processed leaf).mpr (Or.inl member)⟩

/-- A batch can be finished exactly when it has at most 255 leaves: from any state of any run, a
prepared batch takes further leaves, in any order of submission, as long as those processed and
those to come are no more than that. -/
theorem batch_completion (evm : Evm) (config : Config Revert State Query Answer Transaction)
    (reach : Reach (entry evm) (fun _ _ => True) State.blank config) (merkleRoot : Bytes32)
    (prepared : Prepared config.now.state merkleRoot) :
    ∃ taken, Counts (config.now.state.batches merkleRoot) taken ∧
      (∀ transaction leaves, Submits evm merkleRoot transaction.call leaves →
        Proceeds merkleRoot leaves config.now.state (entry evm transaction config.now.state)) ∧
      ∀ submissions leaves, Submitted evm merkleRoot submissions leaves → leaves.Nodup →
        (∀ leaf ∈ leaves, ¬Processed config.now.state merkleRoot leaf) →
        ((∃ final, submitAll evm submissions config.now.state = .ok final ∧
          ∀ leaf ∈ leaves, Processed final merkleRoot leaf) ↔
          taken.length + leaves.length ≤ 255) := by
  obtain ⟨taken, counts⟩ := (reach_tracked reach).counted merkleRoot
  refine ⟨taken, counts, ?_, ?_⟩
  · intro transaction leaves submits
    exact entry_proceeds prepared submits
  · intro submissions leaves submitted distinct unprocessed
    rw [counts.2.2]
    exact submitAll_iff submitted prepared distinct unprocessed

end Orders

section Runs

def preparedBatch (evm : Evm) (merkleRoot : Bytes32) :
    Config Revert State Query Answer Transaction :=
  let initialized := Config.enter (entry evm)
    ⟨World.named [], ⟨0xad317, []⟩, .initializeV1 0x4a3e 0xf04⟩ (.start State.blank)
  initialized.enter (entry evm)
    ⟨World.named [], ⟨0xf04, List.replicate 36 0 ++ packWord (0x115e4 : Address)⟩,
      .prepareBatchFromLicensedUser merkleRoot⟩

theorem preparedBatch_reach (evm : Evm) (merkleRoot : Bytes32) :
    Reach (entry evm) (fun _ _ => True) State.blank (preparedBatch evm merkleRoot) :=
  .enter _ (.enter _ .start trivial) trivial

set_option maxRecDepth 8000 in
theorem preparedBatch_batch (evm : Evm) (merkleRoot : Bytes32) :
    (preparedBatch evm merkleRoot).now.state.batches merkleRoot =
      ⟨true, 0x115e4, 0, fun _ => false⟩ := by
  have prepared : (preparedBatch evm merkleRoot).now.state.batches =
      Function.update State.blank.batches merkleRoot ⟨true, 0x115e4, 0, fun _ => false⟩ := rfl
  rw [prepared, Function.update_self]

def accepting : Environment := fun state _ =>
  (state, ⟨⟨true, packWord (7 : Uint256)⟩, World.named []⟩)

theorem accepting_friendly (merkleRoot : Bytes32) : Friendly merkleRoot accepting := by
  intro state query
  refine ⟨rfl, rfl, ?_⟩
  cases query with
  | createSRRFromBulk => exact Nat.le_of_eq (length_packWord (7 : Uint256)).symm
  | approveSRRByCommitmentFromBulk => trivial
  | transferFromWithProvenanceFromBulk => trivial

theorem preparedBatch_prepared (evm : Evm) (merkleRoot : Bytes32) :
    Prepared (preparedBatch evm merkleRoot).now.state merkleRoot := by
  rw [Prepared, preparedBatch_batch]

theorem preparedBatch_unprocessed (evm : Evm) (merkleRoot leafHash : Bytes32) :
    ¬Processed (preparedBatch evm merkleRoot).now.state merkleRoot leafHash := by
  rw [Processed, preparedBatch_batch]
  exact Bool.false_ne_true

-- Hashes of a batch of transfers: a pair hashes to the root, a leaf to its token id.
def transfersRoot : Bytes32 := 0xf011

def transfersEvm : Evm where
  keccak256 bytes := if bytes.length = 64 then transfersRoot else wordOf ((bytes.drop 20).take 32)
  recover _ _ _ _ := none
  chainid := 1

def submitTransfer (tokenId : Uint256) : Submission :=
  ⟨id, ⟨World.named [], ⟨0xe0a, []⟩, .transferFromWithProvenanceWithProof [0] transfersRoot tokenId
    0xc0ffee tokenId [] 0 false 0⟩, accepting⟩

theorem submitTransfer_submits (tokenId : Uint256) :
    Submits transfersEvm transfersRoot (submitTransfer tokenId).transaction.call [tokenId] := by
  refine .transfer ?_ ?_
  · simp [verifyTransferFromWithProvenanceHash, transferHashInputs, transfersEvm]
  · have pairs : ∀ a b : Bytes32, transfersEvm.keccak256 (packWord a ++ packWord b) =
        transfersRoot := by
      intro a b
      simp [transfersEvm]
    simp [MerkleProof.verify, processProof, hashPair, pairs]

theorem submitTransfers_submitted (tokenIds : List Uint256) :
    Submitted transfersEvm transfersRoot (tokenIds.map submitTransfer) tokenIds := by
  induction tokenIds with
  | nil => exact .nil
  | cons tokenId tokenIds ih =>
      exact .cons (fun _ => rfl) (submitTransfer_submits tokenId) (accepting_friendly _) ih

def transfers : List Uint256 := (List.range 256).map (BitVec.ofNat 256)

theorem transfers_nodup : transfers.Nodup := by
  refine List.Nodup.map_on ?_ List.nodup_range
  intro left small right small' same
  rw [List.mem_range] at small small'
  have numbers := congrArg BitVec.toNat same
  simp only [BitVec.toNat_ofNat] at numbers
  omega

/-- The last of 256 transfers of one batch cannot be made. -/
theorem transfers_stuck :
    Reach (entry transfersEvm) (fun _ _ => True) State.blank
        (preparedBatch transfersEvm transfersRoot) ∧
      Prepared (preparedBatch transfersEvm transfersRoot).now.state transfersRoot ∧
      Submitted transfersEvm transfersRoot (transfers.map submitTransfer) transfers ∧
      transfers.Nodup ∧
      (∀ leaf ∈ transfers,
        ¬Processed (preparedBatch transfersEvm transfersRoot).now.state transfersRoot leaf) ∧
      submitAll transfersEvm (transfers.map submitTransfer)
        (preparedBatch transfersEvm transfersRoot).now.state = .error (.panic 0x11) := by
  have fresh : ∀ leaf ∈ transfers,
      ¬Processed (preparedBatch transfersEvm transfersRoot).now.state transfersRoot leaf :=
    fun leaf _ => preparedBatch_unprocessed _ _ leaf
  refine ⟨preparedBatch_reach _ _, preparedBatch_prepared _ _, submitTransfers_submitted _,
    transfers_nodup, fresh, ?_⟩
  refine submitAll_panics (submitTransfers_submitted _) (preparedBatch_prepared _ _)
    transfers_nodup fresh ?_
  rw [preparedBatch_batch, transfers, List.length_map, List.length_range]
  decide

/-- The other 255 can, in any order: here from the last one to the first. -/
theorem transfers_completed :
    ∃ final, submitAll transfersEvm ((transfers.take 255).reverse.map submitTransfer)
        (preparedBatch transfersEvm transfersRoot).now.state = .ok final ∧
      ∀ leaf ∈ (transfers.take 255).reverse, Processed final transfersRoot leaf := by
  obtain ⟨taken, ⟨_, _, size⟩, _, completes⟩ := batch_completion transfersEvm _
    (preparedBatch_reach transfersEvm transfersRoot) transfersRoot (preparedBatch_prepared _ _)
  have distinct : (transfers.take 255).reverse.Nodup :=
    List.nodup_reverse.mpr (transfers_nodup.sublist (List.take_sublist _ _))
  refine (completes _ _ (submitTransfers_submitted _) distinct ?_).mpr ?_
  · exact fun leaf _ => preparedBatch_unprocessed _ _ leaf
  · rw [size, preparedBatch_batch, List.length_reverse, List.length_take, transfers,
      List.length_map, List.length_range]
    decide

end Runs

end Startrail.Bulk
