import Mathlib.Data.List.Sort
import Startrail.Bulk.Completion
import Startrail.Bulk.LeafEncoding
import Startrail.Library.Merkle

/-!
The trees whose roots are prepared: `MerkleTree` of
`test/helpers/merkletree-oz-helper.js`. A tree sorts its leaves and drops repeated
ones, so it depends on which leaves there are and on nothing else; every leaf has a
proof, which the contract accepts, so a batch can be worked through with the
proofs that its tree has.
-/

namespace Startrail.Bulk

-- `previous` is the element in front, if there is one.
def bufDedup : Option Bytes32 → List Bytes32 → List Bytes32
  | _, [] => []
  | previous, el :: elements =>
      if previous = some el then bufDedup (some el) elements
      else el :: bufDedup (some el) elements

-- `Buffer.compare` orders buffers of 32 bytes as the words they are.
def sortAndConcat (first second : Bytes32) : Bytes :=
  if second < first then packWord second ++ packWord first else packWord first ++ packWord second

def combinedHash (evm : Evm) (first second : Bytes32) : Bytes32 :=
  evm.keccak256 (sortAndConcat first second)

theorem lt_trichotomy (first second : Bytes32) :
    first < second ∨ first = second ∨ second < first := by
  rcases Nat.lt_trichotomy first.toNat second.toNat with below | same | above
  · exact Or.inl below
  · exact Or.inr (Or.inl (BitVec.eq_of_toNat_eq same))
  · exact Or.inr (Or.inr above)

theorem combinedHash_hashPair (evm : Evm) : combinedHash evm = hashPair evm := by
  funext first second
  unfold combinedHash sortAndConcat hashPair
  rcases lt_trichotomy first second with below | same | above
  · rw [if_neg (BitVec.lt_asymm below), if_pos below]
  · rw [same, ite_self, ite_self]
  · rw [if_pos above, if_neg (BitVec.lt_asymm above)]

theorem sortAndConcat_comm (first second : Bytes32) :
    sortAndConcat first second = sortAndConcat second first := by
  unfold sortAndConcat
  rcases lt_trichotomy first second with below | same | above
  · rw [if_neg (BitVec.lt_asymm below), if_pos below]
  · rw [same]
  · rw [if_pos above, if_neg (BitVec.lt_asymm above)]

theorem bufDedup_subset {leaf : Bytes32} (previous : Option Bytes32) (elements : List Bytes32)
    (belongs : leaf ∈ bufDedup previous elements) : leaf ∈ elements := by
  induction elements generalizing previous with
  | nil => exact belongs
  | cons el elements ih =>
      rw [bufDedup] at belongs
      split at belongs
      · exact List.mem_cons_of_mem _ (ih _ belongs)
      · rcases List.mem_cons.mp belongs with rfl | later
        · exact List.mem_cons_self
        · exact List.mem_cons_of_mem _ (ih _ later)

theorem bufDedup_mem {leaf : Bytes32} (previous : Option Bytes32) (elements : List Bytes32)
    (belongs : leaf ∈ elements) : previous = some leaf ∨ leaf ∈ bufDedup previous elements := by
  induction elements generalizing previous with
  | nil => cases belongs
  | cons el elements ih =>
      rw [bufDedup]
      rcases List.mem_cons.mp belongs with rfl | later
      · split
        · exact Or.inl ‹_›
        · exact Or.inr List.mem_cons_self
      · split
        · rename_i same
          rw [same]
          exact ih (some el) later
        · rcases ih (some el) later with same | inside
          · cases same
            exact Or.inr List.mem_cons_self
          · exact Or.inr (List.mem_cons_of_mem _ inside)

theorem bufDedup_increasing (previous : Option Bytes32) (elements : List Bytes32)
    (sorted : elements.Pairwise (· ≤ ·)) (above : ∀ el ∈ previous, ∀ leaf ∈ elements, el ≤ leaf) :
    (bufDedup previous elements).Pairwise (· < ·) ∧
      ∀ el ∈ previous, ∀ leaf ∈ bufDedup previous elements, el < leaf := by
  induction elements generalizing previous with
  | nil =>
      refine ⟨List.Pairwise.nil, ?_⟩
      intro el _ leaf belongs
      cases belongs
  | cons first elements ih =>
      obtain ⟨least, rest⟩ := List.pairwise_cons.mp sorted
      have next := ih (some first) rest (by simpa using least)
      rw [bufDedup]
      split
      · rename_i same
        rwa [same]
      · rename_i different
        refine ⟨List.pairwise_cons.mpr ⟨next.2 first rfl, next.1⟩, ?_⟩
        intro el known leaf belongs
        have below : el < first := by
          have distinct : el ≠ first := by
            rintro rfl
            exact different known
          have atMost := above el known first List.mem_cons_self
          exact BitVec.lt_of_le_ne atMost distinct
        rcases List.mem_cons.mp belongs with rfl | later
        · exact below
        · exact BitVec.lt_trans below (next.2 first rfl leaf later)

structure MerkleTree where
  elements : List Bytes32
  increasing : elements.Pairwise (· < ·)

namespace MerkleTree

variable {evm : Evm} {tree : MerkleTree} {leaf merkleRoot : Bytes32}

instance : IsTrans Bytes32 (· ≤ ·) := ⟨fun _ _ _ => BitVec.le_trans⟩

instance : @Std.Total Bytes32 (· ≤ ·) := ⟨BitVec.le_total⟩

theorem sorted_increasing (elements : List Bytes32) :
    (bufDedup none (elements.insertionSort (· ≤ ·))).Pairwise (· < ·) :=
  (bufDedup_increasing none _ (List.pairwise_insertionSort _ _)
    fun _ absurd_ => absurd absurd_ (Option.not_mem_none _)).1

def ofElements (elements : List Bytes32) : MerkleTree where
  elements := bufDedup none (elements.insertionSort (· ≤ ·))
  increasing := sorted_increasing elements

-- An element without a pair is its own hash.
def getNextLayer (evm : Evm) (elements : List Bytes32) : List Bytes32 :=
  pairUp (combinedHash evm) elements

def getLayers (evm : Evm) (elements : List Bytes32) : List (List Bytes32) :=
  if 1 < elements.length then elements :: getLayers evm (getNextLayer evm elements)
  else [elements]
termination_by elements.length
decreasing_by
  rw [getNextLayer, length_pairUp]
  omega

def layers (evm : Evm) (tree : MerkleTree) : List (List Bytes32) := getLayers evm tree.elements

-- The source has an empty string for the root of no elements.
def getRoot (evm : Evm) (tree : MerkleTree) : Option Bytes32 :=
  (tree.layers evm).getLast?.bind List.head?

def bufIndexOf (evm : Evm) (el : Bytes) (arr : List Bytes32) : Option Nat :=
  arr.idxOf? (if el.length ≠ 32 then evm.keccak256 el else wordOf el)

def getProof (evm : Evm) (tree : MerkleTree) (el : Bytes) : Except String (List Bytes32) :=
  match bufIndexOf evm el tree.elements with
  | none => .error "Element does not exist in Merkle tree"
  | some idx => .ok (siblingsOf (tree.layers evm) idx)

theorem getLayers_levels (elements : List Bytes32) :
    getLayers evm elements = levels (combinedHash evm) elements := by
  induction elements using levels.induct (combinedHash evm) with
  | case1 elements large ih => rw [getLayers, levels, if_pos large, if_pos large, getNextLayer, ih]
  | case2 elements small => rw [getLayers, levels, if_neg small, if_neg small]

theorem layers_levels : tree.layers evm = levels (combinedHash evm) tree.elements :=
  getLayers_levels tree.elements

theorem getRoot_top : tree.getRoot evm = top (combinedHash evm) tree.elements := by
  rw [getRoot, layers_levels]
  rfl

theorem mem_ofElements {elements : List Bytes32} :
    leaf ∈ (ofElements elements).elements ↔ leaf ∈ elements := by
  have sorted : leaf ∈ elements.insertionSort (· ≤ ·) ↔ leaf ∈ elements :=
    List.mem_insertionSort _
  rw [← sorted]
  constructor
  · exact bufDedup_subset none _
  · intro belongs
    rcases bufDedup_mem none _ belongs with same | inside
    · cases same
    · exact inside

instance : @Std.Antisymm Bytes32 (· < ·) :=
  ⟨fun _ _ below above => absurd above (BitVec.lt_asymm below)⟩

instance : @Std.Irrefl Bytes32 (· < ·) := ⟨BitVec.lt_irrefl⟩

theorem ofElements_eq_iff {first second : List Bytes32} :
    ofElements first = ofElements second ↔ ∀ leaf, leaf ∈ first ↔ leaf ∈ second := by
  constructor
  · intro same leaf
    rw [← mem_ofElements, same, mem_ofElements]
  · intro alike
    have elements : (ofElements first).elements = (ofElements second).elements := by
      refine List.Subset.antisymm_of_pairwise (ofElements first).increasing
        (ofElements second).increasing ?_ ?_
      · intro leaf belongs
        exact mem_ofElements.mpr ((alike leaf).mp (mem_ofElements.mp belongs))
      · intro leaf belongs
        exact mem_ofElements.mpr ((alike leaf).mpr (mem_ofElements.mp belongs))
    cases h : ofElements first
    cases h' : ofElements second
    rw [h, h'] at elements
    cases elements
    rfl

/-- Every element has a proof, and the contract accepts it. -/
theorem getProof_verifies (root : tree.getRoot evm = some merkleRoot)
    (belongs : leaf ∈ tree.elements) :
    ∃ proof, tree.getProof evm (packWord leaf) = .ok proof ∧
      MerkleProof.verify evm proof merkleRoot leaf = true := by
  obtain ⟨idx, found⟩ := Option.isSome_iff_exists.mp (List.isSome_idxOf?.mpr belongs)
  have here : tree.elements[idx]? = some leaf := by
    obtain ⟨bound, same, _⟩ := List.idxOf?_eq_some_iff.mp found
    exact List.getElem?_eq_some_iff.mpr ⟨bound, same⟩
  refine ⟨siblingsOf (tree.layers evm) idx, ?_, ?_⟩
  · have word : bufIndexOf evm (packWord leaf) tree.elements = some idx := by
      simpa [bufIndexOf] using found
    rw [getProof, word]
  · have opened := @siblings_open _ (combinedHash evm) _ _ _
      (fun first second => congrArg evm.keccak256 (sortAndConcat_comm first second)) here
    rw [← getRoot_top, root, ← layers_levels] at opened
    rw [MerkleProof.verify, processProof, ← combinedHash_hashPair]
    exact beq_iff_eq.mpr (Option.some.inj opened).symm

theorem getProof_mem {proof : List Bytes32}
    (found : tree.getProof evm (packWord leaf) = .ok proof) : leaf ∈ tree.elements := by
  by_contra absent
  have missing : bufIndexOf evm (packWord leaf) tree.elements = none := by
    simpa [bufIndexOf] using absent
  rw [getProof, missing] at found
  cases found

theorem getProof_accepted {proof : List Bytes32} (root : tree.getRoot evm = some merkleRoot)
    (found : tree.getProof evm (packWord leaf) = .ok proof) :
    MerkleProof.verify evm proof merkleRoot leaf = true := by
  obtain ⟨proof', found', verified⟩ := getProof_verifies root (getProof_mem found)
  cases found.symm.trans found'
  exact verified

/-- The root is that of a tree whose leaves are the elements. -/
theorem getRoot_hashTree (some_ : tree.elements ≠ []) :
    ∃ hashTree : HashTree Bytes32, hashTree.leaves = tree.elements ∧
      tree.getRoot evm = some (hashTree.root evm.keccak256 sortAndConcat) ∧
      ∀ string ∈ hashTree.joined evm.keccak256 sortAndConcat,
        string ∈ (tree.layers evm).flatMap (pairs sortAndConcat) := by
  rw [getRoot_top, layers_levels]
  exact HashTree.top_root evm.keccak256 sortAndConcat some_

theorem getRoot_isSome : (tree.getRoot evm).isSome = true ↔ tree.elements ≠ [] := by
  constructor
  · intro built none_
    rw [getRoot_top, none_, top_of_small (by simp)] at built
    cases built
  · intro some_
    obtain ⟨_, _, root, _⟩ := @getRoot_hashTree evm tree some_
    exact Option.isSome_iff_exists.mpr ⟨_, root⟩

theorem ofElements_ne_nil {leaves : List Bytes32} :
    (ofElements leaves).elements ≠ [] ↔ leaves ≠ [] := by
  simp only [ne_eq, List.eq_nil_iff_forall_not_mem, mem_ofElements]

/-- A tree depends on which leaves there are, not on their order or on how often they are given. It
is a binary tree of hashes over exactly these, each once and in order; exactly they have proofs, and
the contract accepts these. -/
theorem tree_of_leaves (evm : Evm) (leaves : List Bytes32) :
    (∀ others, ofElements others = ofElements leaves ↔ ∀ leaf, leaf ∈ others ↔ leaf ∈ leaves) ∧
      (leaves ≠ [] ↔ ∃ hashTree : HashTree Bytes32,
        hashTree.leaves.Pairwise (· < ·) ∧ (∀ leaf, leaf ∈ hashTree.leaves ↔ leaf ∈ leaves) ∧
        (ofElements leaves).getRoot evm =
          some (hashTree.root evm.keccak256 sortAndConcat)) ∧
      ∀ leaf, ((∃ proof, (ofElements leaves).getProof evm (packWord leaf) = .ok proof) ↔
          leaf ∈ leaves) ∧
        ∀ proof, (ofElements leaves).getProof evm (packWord leaf) = .ok proof →
          ∀ merkleRoot, (ofElements leaves).getRoot evm = some merkleRoot →
            MerkleProof.verify evm proof merkleRoot leaf = true := by
  refine ⟨fun others => ofElements_eq_iff, ⟨?_, ?_⟩, fun leaf => ⟨⟨?_, ?_⟩, ?_⟩⟩
  · intro some_
    obtain ⟨hashTree, same, root, _⟩ := @getRoot_hashTree evm _ (ofElements_ne_nil.mpr some_)
    refine ⟨hashTree, ?_, fun leaf => ?_, root⟩
    · rw [same]
      exact (ofElements leaves).increasing
    · rw [same]
      exact mem_ofElements
  · rintro ⟨_, _, _, root⟩
    exact ofElements_ne_nil.mp (getRoot_isSome.mp (Option.isSome_iff_exists.mpr ⟨_, root⟩))
  · rintro ⟨proof, found⟩
    exact mem_ofElements.mp (getProof_mem found)
  · intro belongs
    have inside := mem_ofElements.mpr belongs
    have some_ : (ofElements leaves).elements ≠ [] := List.ne_nil_of_mem inside
    obtain ⟨merkleRoot, root⟩ := Option.isSome_iff_exists.mp (@getRoot_isSome evm _ |>.mpr some_)
    obtain ⟨proof, found, _⟩ := getProof_verifies root inside
    exact ⟨proof, found⟩
  · intro proof found merkleRoot root
    exact getProof_accepted root found

end MerkleTree

def leafHashOf (evm : Evm) (operation : Operation) : Bytes32 :=
  evm.keccak256 (hashInputs operation)

def created (isToInLeafHash : Bool) (inputs : CreateSRRInputs) : Operation :=
  if isToInLeafHash then
    .createWithTo inputs.isPrimaryIssuer inputs.artistAddress inputs.metadataCID
      inputs.lockExternalTransfer inputs.to_ inputs.royaltyReceiver inputs.royaltyBasisPoints
      inputs.contractAddress
  else
    .createWithoutTo inputs.isPrimaryIssuer inputs.artistAddress inputs.metadataCID
      inputs.lockExternalTransfer inputs.royaltyReceiver inputs.royaltyBasisPoints
      inputs.contractAddress

theorem hashInputs_created (isToInLeafHash : Bool) (inputs : CreateSRRInputs) :
    hashInputs (created isToInLeafHash inputs) = leafHashInputs inputs isToInLeafHash := by
  cases isToInLeafHash <;> rfl

section Completeness

variable {evm : Evm} {merkleProof : List Bytes32} {merkleRoot : Bytes32} {operation : Operation}

def callFor (merkleProof : List Bytes32) (merkleRoot leafHash : Bytes32) : Operation → Call
  | .createWithoutTo isPrimaryIssuer artistAddress metadataCID lockExternalTransfer royaltyReceiver
      royaltyBasisPoints contractAddress =>
      .createSRRWithProofMulti [merkleProof] merkleRoot [leafHash] ⟨[isPrimaryIssuer],
        [artistAddress], [metadataCID], [lockExternalTransfer], none, [royaltyReceiver],
        [royaltyBasisPoints], [contractAddress]⟩
  | .createWithTo isPrimaryIssuer artistAddress metadataCID lockExternalTransfer to_
      royaltyReceiver royaltyBasisPoints contractAddress =>
      .createSRRWithProofMulti [merkleProof] merkleRoot [leafHash] ⟨[isPrimaryIssuer],
        [artistAddress], [metadataCID], [lockExternalTransfer], some [to_], [royaltyReceiver],
        [royaltyBasisPoints], [contractAddress]⟩
  | .approve tokenId commitment historyMetadataHash customHistoryId contractAddress =>
      .approveSRRByCommitmentWithProof merkleProof merkleRoot leafHash tokenId commitment
        historyMetadataHash customHistoryId contractAddress
  | .transfer to_ tokenId historyMetadataHash customHistoryId isIntermediary contractAddress =>
      .transferFromWithProvenanceWithProof merkleProof merkleRoot leafHash to_ tokenId
        historyMetadataHash customHistoryId isIntermediary contractAddress

/-- A submission of the operation with the proof that the tree has for it, while nobody else
touches the batch. -/
structure SubmittedFor (evm : Evm) (tree : MerkleTree) (merkleRoot : Bytes32)
    (submission : Submission) (operation : Operation) : Prop where
  since : ∀ state, (submission.since state).batches merkleRoot = state.batches merkleRoot
  call : ∃ proof, tree.getProof evm (packWord (leafHashOf evm operation)) = .ok proof ∧
    submission.transaction.call = callFor proof merkleRoot (leafHashOf evm operation) operation
  friendly : Friendly merkleRoot submission.environment

theorem createOne_submits (inputs : CreateSRRInputs) (arrays : CreateSRRArrays)
    (read : arrays.inputsAt 0 = .ok inputs)
    (verified : MerkleProof.verify evm merkleProof merkleRoot
      (leafHashOf evm (created arrays.tos.isSome inputs)) = true) :
    Submits evm merkleRoot (.createSRRWithProofMulti [merkleProof] merkleRoot
        [leafHashOf evm (created arrays.tos.isSome inputs)] arrays)
      [leafHashOf evm (created arrays.tos.isSome inputs)] := by
  refine .create ?_
  intro i leafHash at_
  obtain ⟨rfl, rfl⟩ : i = 0 ∧ leafHashOf evm (created arrays.tos.isSome inputs) = leafHash := by
    simpa [List.getElem?_singleton] using at_
  refine ⟨inputs, merkleProof, read, rfl, ?_, verified⟩
  rw [verifyLeafHash, leafHashOf, hashInputs_created]
  exact beq_self_eq_true _

theorem callFor_submits
    (verified : MerkleProof.verify evm merkleProof merkleRoot (leafHashOf evm operation) = true) :
    Submits evm merkleRoot (callFor merkleProof merkleRoot (leafHashOf evm operation) operation)
      [leafHashOf evm operation] := by
  cases operation with
  | createWithoutTo a b c d e f g =>
      exact createOne_submits ⟨a, b, c, d, 0, e, f, g⟩ ⟨[a], [b], [c], [d], none, [e], [f], [g]⟩
        rfl verified
  | createWithTo a b c d t e f g =>
      exact createOne_submits ⟨a, b, c, d, t, e, f, g⟩
        ⟨[a], [b], [c], [d], some [t], [e], [f], [g]⟩ rfl verified
  | approve => exact .approve (beq_self_eq_true _) verified
  | transfer => exact .transfer (beq_self_eq_true _) verified

theorem submittedFor_submitted {operations chosen : List Operation} {submissions : List Submission}
    (built : (MerkleTree.ofElements (operations.map (leafHashOf evm))).getRoot evm =
      some merkleRoot)
    (each : List.Forall₂ (SubmittedFor evm
      (MerkleTree.ofElements (operations.map (leafHashOf evm))) merkleRoot) submissions chosen) :
    Submitted evm merkleRoot submissions (chosen.map (leafHashOf evm)) := by
  induction each with
  | nil => exact .nil
  | @cons submission operation submissions chosen one _ ih =>
      obtain ⟨proof, found, called⟩ := one.call
      refine @Submitted.cons _ _ _ _ [leafHashOf evm operation] _ one.since ?_ one.friendly ih
      rw [called]
      exact callFor_submits (MerkleTree.getProof_accepted built found)

/-- Whatever was done to a prepared batch whose root is that of a tree, the remaining operations
can be submitted in any order with the proofs that the tree has, up to 255 in all. -/
theorem tree_completes (evm : Evm) (operations : List Operation) (merkleRoot : Bytes32)
    (built : (MerkleTree.ofElements (operations.map (leafHashOf evm))).getRoot evm =
      some merkleRoot)
    (config : Config Revert State Query Answer Transaction)
    (reach : Reach (entry evm) (fun _ _ => True) State.blank config)
    (prepared : Prepared config.now.state merkleRoot) :
    ∃ taken, Counts (config.now.state.batches merkleRoot) taken ∧
      ∀ submissions chosen,
        List.Forall₂ (SubmittedFor evm (MerkleTree.ofElements (operations.map (leafHashOf evm)))
          merkleRoot) submissions chosen →
        (chosen.map (leafHashOf evm)).Nodup →
        (∀ operation ∈ chosen,
          ¬Processed config.now.state merkleRoot (leafHashOf evm operation)) →
        ((∃ final, submitAll evm submissions config.now.state = .ok final ∧
          ∀ operation ∈ chosen, Processed final merkleRoot (leafHashOf evm operation)) ↔
          taken.length + chosen.length ≤ 255) := by
  obtain ⟨taken, counts⟩ := (reach_tracked reach).counted merkleRoot
  refine ⟨taken, counts, ?_⟩
  intro submissions chosen each distinct unprocessed
  have whole := submitAll_iff (submittedFor_submitted built each) prepared distinct
    (by simpa using unprocessed)
  rw [List.length_map] at whole
  rw [counts.2.2, ← whole]
  simp

end Completeness

section Runs

def soldRecord : Operation := .transfer 0xb0b 7 (ascii "Qm") 1 false 0

def recordLeaf : Bytes32 := 0x141fc72c2f38d7816ea720fe3dd81683e2cb1d2af600fae2e1bb3a43ebbe2a92

def soldLeaf : Bytes32 := 0xa0aefeace197e81bc75b9cd319a76e45ef1351af222d582e2cf2f662c16c8e1f

def twoLeavesRoot : Bytes32 := 0x450426411e01a6833e575a4843f733d82c32715394747931a7585d9bfa614793

def twoLeavesEvm : Evm := Evm.ofTables
  [(hashInputs recordWithTo, recordLeaf), (hashInputs soldRecord, soldLeaf),
    (packWord recordLeaf ++ packWord soldLeaf, twoLeavesRoot)] []

set_option maxRecDepth 8000 in
theorem twoLeaves_hashes :
    [recordWithTo, soldRecord].map (leafHashOf twoLeavesEvm) = [recordLeaf, soldLeaf] ∧
      combinedHash twoLeavesEvm recordLeaf soldLeaf = twoLeavesRoot := by
  decide

theorem twoLeaves_layers : (MerkleTree.ofElements [recordLeaf, soldLeaf]).layers twoLeavesEvm =
    [[recordLeaf, soldLeaf], [twoLeavesRoot]] := by
  have elements : (MerkleTree.ofElements [recordLeaf, soldLeaf]).elements =
      [recordLeaf, soldLeaf] := by decide
  rw [MerkleTree.layers_levels, elements, levels, if_pos (by decide), pairUp, pairUp,
    twoLeaves_hashes.2, levels, if_neg (by decide)]

theorem twoLeaves_root :
    (MerkleTree.ofElements ([recordWithTo, soldRecord].map (leafHashOf twoLeavesEvm))).getRoot
      twoLeavesEvm = some twoLeavesRoot := by
  rw [twoLeaves_hashes.1, MerkleTree.getRoot, twoLeaves_layers]
  rfl

def sellRecord : Transaction :=
  ⟨World.named [], ⟨0xe0a, []⟩, callFor [recordLeaf] twoLeavesRoot soldLeaf soldRecord⟩

set_option maxRecDepth 8000 in
theorem twoLeaves_proofs :
    (MerkleTree.ofElements [recordLeaf, soldLeaf]).getProof twoLeavesEvm (packWord recordLeaf) =
        .ok [soldLeaf] ∧
      (MerkleTree.ofElements [recordLeaf, soldLeaf]).getProof twoLeavesEvm (packWord soldLeaf) =
        .ok [recordLeaf] := by
  have first : MerkleTree.bufIndexOf twoLeavesEvm (packWord recordLeaf)
      (MerkleTree.ofElements [recordLeaf, soldLeaf]).elements = some 0 := by decide
  have second : MerkleTree.bufIndexOf twoLeavesEvm (packWord soldLeaf)
      (MerkleTree.ofElements [recordLeaf, soldLeaf]).elements = some 1 := by decide
  simp only [MerkleTree.getProof, first, second, twoLeaves_layers]
  exact ⟨rfl, rfl⟩

theorem twoLeaves_completes :
    ∃ final, submitAll twoLeavesEvm
        [⟨id, ⟨World.named [], ⟨0xe0a, []⟩,
            callFor [soldLeaf] twoLeavesRoot recordLeaf recordWithTo⟩, accepting⟩,
          ⟨id, sellRecord, accepting⟩]
        (preparedBatch twoLeavesEvm twoLeavesRoot).now.state = .ok final ∧
      ∀ operation ∈ [recordWithTo, soldRecord],
        Processed final twoLeavesRoot (leafHashOf twoLeavesEvm operation) := by
  obtain ⟨taken, counts, completes⟩ := tree_completes twoLeavesEvm [recordWithTo, soldRecord]
    twoLeavesRoot twoLeaves_root (preparedBatch twoLeavesEvm twoLeavesRoot)
    (preparedBatch_reach _ _) (preparedBatch_prepared _ _)
  have leaves := twoLeaves_hashes.1
  simp only [List.map_cons, List.map_nil, List.cons.injEq, and_true] at leaves
  refine (completes _ _ (.cons ?_ (.cons ?_ .nil)) ?_ ?_).mpr ?_
  · refine ⟨fun _ => rfl, ⟨[soldLeaf], ?_, ?_⟩, accepting_friendly _⟩
    · rw [twoLeaves_hashes.1, leaves.1]
      exact twoLeaves_proofs.1
    · rw [leaves.1]
  · refine ⟨fun _ => rfl, ⟨[recordLeaf], ?_, ?_⟩, accepting_friendly _⟩
    · rw [twoLeaves_hashes.1, leaves.2]
      exact twoLeaves_proofs.2
    · rw [leaves.2]
      rfl
  · rw [twoLeaves_hashes.1]
    decide
  · exact fun operation _ => preparedBatch_unprocessed _ _ _
  · rw [counts.2.2, preparedBatch_batch]
    decide

end Runs

end Startrail.Bulk
