import Startrail.Bulk.Trees

/-!
What a prepared root commits to. Each leaf that the contract has processed was
offered by a call of the run as what some operation hashes to, with a proof. Under
the root of a tree that operation is one of those the tree was built from, up to
hash collisions and to operations that are packed into as many bytes as two hashes.
-/

namespace Startrail.Bulk

/-- The call offers this operation, with this proof, as this leaf. -/
inductive Offers : Call → Operation → List Bytes32 → Bytes32 → Bytes32 → Prop
  | create {merkleProofs merkleRoot leafHashes arrays i leafHash merkleProof inputs}
      (listed : leafHashes[i]? = some leafHash) (proof : merkleProofs[i]? = some merkleProof)
      (read : CreateSRRArrays.inputsAt arrays i = .ok inputs) :
      Offers (.createSRRWithProofMulti merkleProofs merkleRoot leafHashes arrays)
        (created arrays.tos.isSome inputs) merkleProof merkleRoot leafHash
  | approve (merkleProof merkleRoot leafHash tokenId commitment historyMetadataHash
      customHistoryId contractAddress) :
      Offers (.approveSRRByCommitmentWithProof merkleProof merkleRoot leafHash tokenId commitment
          historyMetadataHash customHistoryId contractAddress)
        (.approve tokenId commitment historyMetadataHash customHistoryId contractAddress)
        merkleProof merkleRoot leafHash
  | transfer (merkleProof merkleRoot leafHash to_ tokenId historyMetadataHash customHistoryId
      isIntermediary contractAddress) :
      Offers (.transferFromWithProvenanceWithProof merkleProof merkleRoot leafHash to_ tokenId
          historyMetadataHash customHistoryId isIntermediary contractAddress)
        (.transfer to_ tokenId historyMetadataHash customHistoryId isIntermediary contractAddress)
        merkleProof merkleRoot leafHash

/-- One of these calls offered the leaf as what it is the hash of, with a proof of it. -/
def Offered (evm : Evm) (merkleRoot leafHash : Bytes32) (trace : List Transaction) : Prop :=
  ∃ transaction ∈ trace, ∃ operation merkleProof,
    Offers transaction.call operation merkleProof merkleRoot leafHash ∧
      leafHash = leafHashOf evm operation ∧
      MerkleProof.verify evm merkleProof merkleRoot leafHash = true

def Sourced (evm : Evm) (snapshot : Snapshot State Transaction) : Prop :=
  ∀ merkleRoot leafHash, Processed snapshot.state merkleRoot leafHash →
    Offered evm merkleRoot leafHash snapshot.trace

def Lengthens (before after : Snapshot State Transaction) : Prop :=
  ∀ transaction ∈ before.trace, transaction ∈ after.trace

section Traces

variable {evm : Evm} {state state' later : State} {trace trace' : List Transaction}
  {merkleRoot leafHash : Bytes32} {transaction : Transaction} {world : World} {query : Query}

theorem Offered.mono (submitted : Offered evm merkleRoot leafHash trace)
    (longer : ∀ transaction ∈ trace, transaction ∈ trace') :
    Offered evm merkleRoot leafHash trace' := by
  obtain ⟨transaction, belongs, offered⟩ := submitted
  exact ⟨transaction, longer transaction belongs, offered⟩

theorem Sourced.mark (sourced : Sourced evm ⟨state, trace⟩)
    (marked : markProcessed state merkleRoot leafHash = .ok state')
    (submitted : Offered evm merkleRoot leafHash trace) : Sourced evm ⟨state', trace⟩ := by
  intro root leaf processed
  rcases (markProcessed_processed marked root leaf).mp processed with ⟨rfl, rfl⟩ | before
  · exact submitted
  · exact sourced root leaf before

theorem Sourced.same (sourced : Sourced evm ⟨state, trace⟩)
    (processed : ∀ root leaf, Processed state' root leaf → Processed state root leaf) :
    Sourced evm ⟨state', trace⟩ :=
  fun root leaf inside => sourced root leaf (processed root leaf inside)

theorem Sourced.enter (sourced : Sourced evm ⟨state, trace⟩) (transaction : Transaction) :
    Sourced evm ⟨state, transaction :: trace⟩ :=
  fun root leaf inside => (sourced root leaf inside).mono fun _ => List.mem_cons_of_mem _

theorem externalCall_sourced (sourced : Sourced evm ⟨state, trace⟩) :
    (externalCall state query).Meets (Sourced evm) Lengthens
      (fun value trace' => Sourced evm ⟨value.2.1, trace'⟩ ∧
        ∀ transaction ∈ trace, transaction ∈ trace') trace := by
  apply Outcome.Meets.bind (Outcome.Meets.external sourced)
  rintro ⟨later, answer⟩ trace' ⟨sourced', longer⟩
  dsimp only
  split
  · exact ⟨sourced', longer⟩
  · trivial

theorem createLoop_sourced {merkleProofs : List (List Bytes32)} {arrays : CreateSRRArrays}
    {leafHashes rest : List Bytes32} {i : Nat} (msg : Msg) (world₀ : World)
    (sourced : Sourced evm ⟨state, trace⟩)
    (entered : ⟨world₀, msg, .createSRRWithProofMulti merkleProofs merkleRoot leafHashes arrays⟩ ∈
      trace)
    (remain : ∀ j leaf, rest[j]? = some leaf → leafHashes[i + j]? = some leaf) :
    (createLoop evm merkleProofs merkleRoot arrays rest i world state).Meets (Sourced evm)
      Lengthens (fun value trace' => Sourced evm ⟨value.1, trace'⟩ ∧
        ∀ transaction ∈ trace, transaction ∈ trace') trace := by
  induction rest generalizing i world state trace with
  | nil => exact ⟨sourced, fun _ => id⟩
  | cons leaf rest ih =>
      apply Outcome.Meets.lift_bind
      intro _ _
      apply Outcome.Meets.lift_bind
      intro inputs read
      apply Outcome.Meets.lift_bind
      intro _ matches_
      apply Outcome.Meets.lift_bind
      intro merkleProof found
      unfold _createSRRWithProof
      rw [bind_assoc]
      apply Outcome.Meets.lift_bind
      intro _ verified
      rw [bind_assoc]
      apply Outcome.Meets.lift_bind
      intro marked made
      simp only [require_eq_ok, verifyLeafHash, beq_iff_eq] at matches_ verified
      have proof : merkleProofs[i]? = some merkleProof := by
        unfold index at found
        split at found
        · cases found
          assumption
        · cases found
      have submitted : Offered evm merkleRoot leaf trace := by
        refine ⟨_, entered, _, merkleProof,
          .create (remain 0 leaf List.getElem?_cons_zero) proof read, ?_, verified⟩
        rw [leafHashOf, hashInputs_created]
        exact matches_
      rw [bind_assoc]
      apply Outcome.Meets.bind (externalCall_sourced (sourced.mark made submitted))
      rintro ⟨world', later, returndata⟩ trace' ⟨sourced', longer⟩
      dsimp only
      split
      · trivial
      · rw [pure_bind]
        have next : Sourced evm ⟨later.emit (.CreateSRRWithProof merkleRoot inputs.contractAddress
            (wordOf (returndata.take 32)) leaf), trace'⟩ := sourced'.same fun _ _ => id
        apply Outcome.Meets.bind (ih next (longer _ entered) ?_)
        · rintro ⟨last, tokenIds⟩ trace'' ⟨sourced'', longer'⟩
          exact ⟨sourced'', fun transaction belongs => longer' _ (longer _ belongs)⟩
        · intro j leaf' at_
          have shifted := remain (j + 1) leaf' (by simpa using at_)
          rwa [← Nat.add_assoc, Nat.add_right_comm] at shifted

theorem entry_sourced (transaction : Transaction) (sourced : Sourced evm ⟨state, trace⟩) :
    Completes (Sourced evm) Lengthens ⟨state, trace⟩ (transaction :: trace)
      (entry evm transaction state) := by
  obtain ⟨world, msg, call⟩ := transaction
  have longer : ∀ transaction : Transaction, ∀ other ∈ trace, other ∈ transaction :: trace :=
    fun _ _ => List.mem_cons_of_mem _
  cases call with
  | initializeV1 _nameRegistry _trustedForwarder =>
      apply Outcome.Meets.lift
      intro state' accepted
      simp only [initializeV1, _setTrustedForwarder, bind_eq_ok, pure_eq_ok] at accepted
      obtain ⟨_, _, _, accepted, rfl⟩ := accepted
      split at accepted
      · cases accepted
      · cases accepted
        exact ⟨(sourced.enter _).same fun _ _ => id, longer _⟩
  | setTrustedForwarder forwarder =>
      apply Outcome.Meets.lift
      intro state' accepted
      simp only [setTrustedForwarder, _setTrustedForwarder, bind_eq_ok] at accepted
      obtain ⟨_, _, accepted⟩ := accepted
      split at accepted
      · cases accepted
      · cases accepted
        exact ⟨(sourced.enter _).same fun _ _ => id, longer _⟩
  | prepareBatchFromLicensedUser merkleRoot =>
      apply Outcome.Meets.lift
      intro state' accepted
      simp only [prepareBatchFromLicensedUser, bind_eq_ok, pure_eq_ok] at accepted
      obtain ⟨_, _, _, _, rfl⟩ := accepted
      refine ⟨(sourced.enter _).same ?_, longer _⟩
      exact fun root leaf => (prepareBatch_processed msg state merkleRoot root leaf).mp
  | createSRRWithProofMulti merkleProofs merkleRoot leafHashes arrays =>
      have loop : (createSRRWithProofMulti evm world state merkleProofs merkleRoot leafHashes
          arrays).Meets (Sourced evm) Lengthens
          (fun value trace' => Sourced evm ⟨value.1, trace'⟩ ∧ ∀ other ∈
            ⟨world, msg, .createSRRWithProofMulti merkleProofs merkleRoot leafHashes arrays⟩ ::
              trace, other ∈ trace')
          (⟨world, msg, .createSRRWithProofMulti merkleProofs merkleRoot leafHashes arrays⟩ ::
            trace) := by
        apply Outcome.Meets.lift_bind
        intro _ _
        exact createLoop_sourced msg world (sourced.enter _) List.mem_cons_self (by simp)
      apply Outcome.Meets.bind loop
      rintro ⟨later, tokenIds⟩ trace' ⟨sourced', longer'⟩
      exact ⟨sourced', fun other belongs => longer' _ (longer _ _ belongs)⟩
  | approveSRRByCommitmentWithProof merkleProof merkleRoot leafHash tokenId commitment
      historyMetadataHash customHistoryId contractAddress =>
      apply Outcome.Meets.lift_bind
      intro _ _
      apply Outcome.Meets.lift_bind
      intro _ _
      apply Outcome.Meets.lift_bind
      intro _ matches_
      apply Outcome.Meets.lift_bind
      intro _ verified
      apply Outcome.Meets.lift_bind
      intro marked made
      simp only [require_eq_ok, verifyApproveSRRByCommitmentHash, beq_iff_eq] at matches_ verified
      have submitted : Offered evm merkleRoot leafHash (⟨world, msg,
          .approveSRRByCommitmentWithProof merkleProof merkleRoot leafHash tokenId commitment
            historyMetadataHash customHistoryId contractAddress⟩ :: trace) :=
        ⟨_, List.mem_cons_self, _, _, .approve _ _ _ _ _ _ _ _, matches_, verified⟩
      apply Outcome.Meets.bind (externalCall_sourced ((sourced.enter _).mark made submitted))
      rintro ⟨_, later, _⟩ trace' ⟨sourced', longer'⟩
      exact ⟨sourced'.same fun _ _ => id, fun other belongs => longer' _ (longer _ _ belongs)⟩
  | transferFromWithProvenanceWithProof merkleProof merkleRoot leafHash to_ tokenId
      historyMetadataHash customHistoryId isIntermediary contractAddress =>
      apply Outcome.Meets.lift_bind
      intro _ _
      apply Outcome.Meets.lift_bind
      intro _ _
      apply Outcome.Meets.lift_bind
      intro _ matches_
      apply Outcome.Meets.lift_bind
      intro _ verified
      apply Outcome.Meets.lift_bind
      intro marked made
      simp only [require_eq_ok, verifyTransferFromWithProvenanceHash, beq_iff_eq]
        at matches_ verified
      have submitted : Offered evm merkleRoot leafHash (⟨world, msg,
          .transferFromWithProvenanceWithProof merkleProof merkleRoot leafHash to_ tokenId
            historyMetadataHash customHistoryId isIntermediary contractAddress⟩ :: trace) :=
        ⟨_, List.mem_cons_self, _, _, .transfer _ _ _ _ _ _ _ _ _, matches_, verified⟩
      apply Outcome.Meets.bind (externalCall_sourced ((sourced.enter _).mark made submitted))
      rintro ⟨_, later, _⟩ trace' ⟨sourced', longer'⟩
      exact ⟨sourced'.same fun _ _ => id, fun other belongs => longer' _ (longer _ _ belongs)⟩

theorem reach_sourced {config : Config Revert State Query Answer Transaction}
    (reach : Reach (entry evm) (fun _ _ => True) State.blank config) : Sourced evm config.now := by
  refine (reach.sound (Sourced evm) Lengthens (fun _ _ => id) ?_ ?_ ?_).1
  · exact fun first second transaction belongs => second transaction (first transaction belongs)
  · exact fun transaction snapshot _ sourced => entry_sourced transaction sourced
  · intro root leaf processed
    cases processed

end Traces

section Integrity

variable {evm : Evm} {tree : MerkleTree} {merkleProof : List Bytes32}
  {merkleRoot leafHash : Bytes32} {operation : Operation} {committed : List Operation}

/-- What is hashed while the layers are made. -/
def MerkleTree.concatenations (evm : Evm) (tree : MerkleTree) : List Bytes :=
  (tree.layers evm).flatMap (pairs sortAndConcat)

/-- What is hashed while a proof is followed. -/
def followed (evm : Evm) (merkleProof : List Bytes32) (leafHash : Bytes32) : List Bytes :=
  HashTree.climbed evm.keccak256 sortAndConcat merkleProof leafHash

theorem sortAndConcat_parts {a b c d : Bytes32} (same : sortAndConcat a b = sortAndConcat c d) :
    a = c ∨ a = d := by
  have packs : ∀ {a b c d : Bytes32}, packWord a ++ packWord b = packWord c ++ packWord d →
      a = c ∧ b = d := by
    intro a b c d equal
    obtain ⟨first, second⟩ := List.append_inj equal (by simp)
    exact ⟨(packWord_inj ⟨32, rfl⟩).mp first, (packWord_inj ⟨32, rfl⟩).mp second⟩
  unfold sortAndConcat at same
  split at same
  · split at same
    · exact Or.inl (packs same).2
    · exact Or.inr (packs same).2
  · split at same
    · exact Or.inr (packs same).1
    · exact Or.inl (packs same).1

theorem sortAndConcat_length (first second : Bytes32) :
    (sortAndConcat first second).length = 64 := by
  unfold sortAndConcat
  split <;> simp

theorem followed_length {string : Bytes} (made : string ∈ followed evm merkleProof leafHash) :
    string.length = 64 := by
  unfold followed at made
  induction merkleProof generalizing leafHash with
  | nil => cases made
  | cons sibling merkleProof ih =>
      rcases List.mem_cons.mp made with rfl | later
      · exact sortAndConcat_length leafHash sibling
      · exact ih later

/-- A proof that is accepted starts at a leaf of the tree, or some operation has the bytes of a
pair. -/
theorem verify_sound
    (built : (MerkleTree.ofElements (committed.map (leafHashOf evm))).getRoot evm =
      some merkleRoot)
    (verified : MerkleProof.verify evm merkleProof merkleRoot (leafHashOf evm operation) = true)
    (free : evm.CollisionFree
      ((MerkleTree.ofElements (committed.map (leafHashOf evm))).concatenations evm ++
        followed evm merkleProof (leafHashOf evm operation) ++
        (operation :: committed).map hashInputs)) :
    (∃ other ∈ committed, hashInputs other = hashInputs operation) ∨
      ∃ other ∈ operation :: committed, (hashInputs other).length = 64 := by
  have some_ := MerkleTree.getRoot_isSome.mp (Option.isSome_iff_exists.mpr ⟨_, built⟩)
  obtain ⟨tree, leaves, root, strings⟩ := @MerkleTree.getRoot_hashTree evm _ some_
  have climbs : HashTree.climb evm.keccak256 sortAndConcat merkleProof (leafHashOf evm operation) =
      tree.root evm.keccak256 sortAndConcat := by
    have reached := beq_iff_eq.mp verified
    rw [processProof, ← combinedHash_hashPair] at reached
    exact reached.trans (Option.some.inj (built.symm.trans root))
  have belongs : ∀ leaf ∈ tree.leaves, ∃ other ∈ committed, leaf = leafHashOf evm other := by
    intro leaf inside
    rw [leaves, MerkleTree.mem_ofElements, List.mem_map] at inside
    obtain ⟨other, member, rfl⟩ := inside
    exact ⟨other, member, rfl⟩
  have listed : ∀ string ∈ tree.joined evm.keccak256 sortAndConcat ++
      followed evm merkleProof (leafHashOf evm operation),
        string ∈ (MerkleTree.ofElements (committed.map (leafHashOf evm))).concatenations evm ++
          followed evm merkleProof (leafHashOf evm operation) ++
          (operation :: committed).map hashInputs := by
    intro string made
    refine List.mem_append_left _ ?_
    rcases List.mem_append.mp made with inner | later
    · exact List.mem_append_left _ (strings string inner)
    · exact List.mem_append_right _ later
  have packed : ∀ other ∈ operation :: committed, hashInputs other ∈
      (MerkleTree.ofElements (committed.map (leafHashOf evm))).concatenations evm ++
        followed evm merkleProof (leafHashOf evm operation) ++
        (operation :: committed).map hashInputs := fun other member =>
    List.mem_append_right _ (List.mem_map_of_mem member)
  have sound := HashTree.climb_sound sortAndConcat_parts
    (fun first firstIn second secondIn => free first (listed first firstIn) second
      (listed second secondIn))
    (climbs ▸ HashTree.root_mem_digests)
  rcases sound with inside | ⟨string, made, final⟩
  · rcases HashTree.mem_digests inside with final | ⟨left, _, right, _, same, string⟩
    · obtain ⟨other, member, same⟩ := belongs _ final
      exact Or.inl ⟨other, member, (free _ (packed operation List.mem_cons_self) _
        (packed other (List.mem_cons_of_mem _ member)) same).symm⟩
    · refine Or.inr ⟨operation, List.mem_cons_self, ?_⟩
      have pair := free _ (packed operation List.mem_cons_self) _
        (listed _ (List.mem_append_left _ string)) same
      rw [pair]
      exact sortAndConcat_length left right
  · obtain ⟨other, member, same⟩ := belongs _ final
    refine Or.inr ⟨other, List.mem_cons_of_mem _ member, ?_⟩
    have pair := free _ (listed string (List.mem_append_right _ made)) _
      (packed other (List.mem_cons_of_mem _ member)) same
    rw [← pair]
    exact followed_length made

/-- Under the root of a tree only operations that the tree was built from are processed, each at
most once, unless hashes collide or an operation has the length of a pair of hashes. -/
theorem processed_committed (evm : Evm) (config : Config Revert State Query Answer Transaction)
    (reach : Reach (entry evm) (fun _ _ => True) State.blank config) (committed : List Operation)
    (merkleRoot : Bytes32)
    (built : (MerkleTree.ofElements (committed.map (leafHashOf evm))).getRoot evm =
      some merkleRoot) :
    ∀ leafHash, Processed config.now.state merkleRoot leafHash →
      processings merkleRoot leafHash config.now.state.logs ≤ 1 ∧
      ∃ transaction ∈ config.now.trace, ∃ operation merkleProof,
        Offers transaction.call operation merkleProof merkleRoot leafHash ∧
        leafHash = leafHashOf evm operation ∧
        (evm.CollisionFree
            ((MerkleTree.ofElements (committed.map (leafHashOf evm))).concatenations evm ++
              followed evm merkleProof leafHash ++ (operation :: committed).map hashInputs) →
          (∃ other ∈ committed, hashInputs other = hashInputs operation ∧
            (layoutOf other = layoutOf operation → other = operation)) ∨
          ∃ other ∈ operation :: committed, (hashInputs other).length = 64) := by
  intro leafHash processed
  obtain ⟨transaction, entered, operation, merkleProof, offers, rfl, verified⟩ :=
    reach_sourced reach merkleRoot leafHash processed
  refine ⟨(reach_tracked reach).once _ _, transaction, entered, operation, merkleProof, offers,
    rfl, ?_⟩
  intro free
  rcases verify_sound built verified free with ⟨other, member, same⟩ | ⟨other, member, size⟩
  · exact Or.inl ⟨other, member, same, fun layout => hashInputs_inj layout same⟩
  · exact Or.inr ⟨other, member, size⟩

end Integrity

section Runs

def soldRun : Config Revert State Query Answer Transaction :=
  ((preparedBatch twoLeavesEvm twoLeavesRoot).enter (entry twoLeavesEvm) sellRecord).reply
    ⟨⟨true, []⟩, World.named []⟩

theorem soldRun_reach : Reach (entry twoLeavesEvm) (fun _ _ => True) State.blank soldRun :=
  .reply _ (.enter _ (preparedBatch_reach _ _) trivial)

set_option maxRecDepth 8000 in
theorem soldRun_processed : Processed soldRun.now.state twoLeavesRoot soldLeaf := by
  unfold Processed
  decide

theorem soldRun_offers {transaction : Transaction} {operation : Operation}
    {merkleProof : List Bytes32} (entered : transaction ∈ soldRun.now.trace)
    (offers : Offers transaction.call operation merkleProof twoLeavesRoot soldLeaf) :
    operation = soldRecord ∧ merkleProof = [recordLeaf] := by
  simp only [soldRun, preparedBatch, Config.start, Config.enter, Config.reply] at entered
  change transaction ∈ [_, _, _] at entered
  simp only [List.mem_cons, List.not_mem_nil, or_false] at entered
  rcases entered with rfl | rfl | rfl
  · cases offers
    exact ⟨rfl, rfl⟩
  · cases offers
  · cases offers

set_option maxRecDepth 8000 in
theorem soldRun_free : twoLeavesEvm.CollisionFree
    ([packWord recordLeaf ++ packWord soldLeaf] ++ followed twoLeavesEvm [recordLeaf] soldLeaf ++
      [soldRecord, recordWithTo, soldRecord].map hashInputs) := by
  decide

set_option maxRecDepth 8000 in
theorem soldRun_committed :
    processings twoLeavesRoot soldLeaf soldRun.now.state.logs ≤ 1 ∧
      ∃ transaction ∈ soldRun.now.trace,
        Offers transaction.call soldRecord [recordLeaf] twoLeavesRoot soldLeaf ∧
        ∃ other ∈ [recordWithTo, soldRecord], hashInputs other = hashInputs soldRecord ∧
          (layoutOf other = layoutOf soldRecord → other = soldRecord) := by
  obtain ⟨once, transaction, entered, operation, merkleProof, offers, leaf, committed⟩ :=
    processed_committed twoLeavesEvm soldRun soldRun_reach [recordWithTo, soldRecord] twoLeavesRoot
      twoLeaves_root soldLeaf soldRun_processed
  obtain ⟨rfl, rfl⟩ := soldRun_offers entered offers
  refine ⟨once, transaction, entered, offers, (committed ?_).resolve_right ?_⟩
  · rw [twoLeaves_hashes.1, MerkleTree.concatenations, twoLeaves_layers]
    exact soldRun_free
  · have lengths : ∀ other ∈ [soldRecord, recordWithTo, soldRecord],
        (hashInputs other).length ≠ 64 := by decide
    rintro ⟨other, member, size⟩
    exact lengths other member size

end Runs

end Startrail.Bulk
