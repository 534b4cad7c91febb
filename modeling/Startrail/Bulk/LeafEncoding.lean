import Startrail.Bulk.Core

/-!
The bytes a leaf is the hash of. Four kinds of operation, each with or without a
contract address at the end, give eight layouts of packed fields around one
string. Within a layout the fields can be read back; the string of one layout can
absorb fields of another, so between any two different layouts there are
operations with the same bytes.
-/

namespace Startrail.Bulk

inductive Operation where
  | createWithoutTo (isPrimaryIssuer : Bool) (artistAddress : Address) (metadataCID : Bytes)
      (lockExternalTransfer : Bool) (royaltyReceiver : Address) (royaltyBasisPoints : Uint16)
      (contractAddress : Address)
  | createWithTo (isPrimaryIssuer : Bool) (artistAddress : Address) (metadataCID : Bytes)
      (lockExternalTransfer : Bool) (to_ royaltyReceiver : Address) (royaltyBasisPoints : Uint16)
      (contractAddress : Address)
  | approve (tokenId : Uint256) (commitment : Bytes32) (historyMetadataHash : Bytes)
      (customHistoryId : Uint256) (contractAddress : Address)
  | transfer (to_ : Address) (tokenId : Uint256) (historyMetadataHash : Bytes)
      (customHistoryId : Uint256) (isIntermediary : Bool) (contractAddress : Address)
deriving DecidableEq

def hashInputs : Operation → Bytes
  | .createWithoutTo isPrimaryIssuer artistAddress metadataCID lockExternalTransfer royaltyReceiver
      royaltyBasisPoints contractAddress =>
      leafHashInputs ⟨isPrimaryIssuer, artistAddress, metadataCID, lockExternalTransfer, 0,
        royaltyReceiver, royaltyBasisPoints, contractAddress⟩ false
  | .createWithTo isPrimaryIssuer artistAddress metadataCID lockExternalTransfer to_
      royaltyReceiver royaltyBasisPoints contractAddress =>
      leafHashInputs ⟨isPrimaryIssuer, artistAddress, metadataCID, lockExternalTransfer, to_,
        royaltyReceiver, royaltyBasisPoints, contractAddress⟩ true
  | .approve tokenId commitment historyMetadataHash customHistoryId contractAddress =>
      approveHashInputs tokenId commitment historyMetadataHash customHistoryId contractAddress
  | .transfer to_ tokenId historyMetadataHash customHistoryId isIntermediary contractAddress =>
      transferHashInputs to_ tokenId historyMetadataHash customHistoryId isIntermediary
        contractAddress

inductive Kind where
  | createWithoutTo
  | createWithTo
  | approve
  | transfer
deriving DecidableEq

structure Layout where
  kind : Kind
  named : Bool
deriving DecidableEq

def layoutOf : Operation → Layout
  | .createWithoutTo _ _ _ _ _ _ contractAddress => ⟨.createWithoutTo, contractAddress != 0⟩
  | .createWithTo _ _ _ _ _ _ _ contractAddress => ⟨.createWithTo, contractAddress != 0⟩
  | .approve _ _ _ _ contractAddress => ⟨.approve, contractAddress != 0⟩
  | .transfer _ _ _ _ _ contractAddress => ⟨.transfer, contractAddress != 0⟩

section Injectivity

variable {front front' middle middle' back back' : Bytes}

theorem appendContract_inj {contract contract' : Address}
    (alike : (contract != 0) = (contract' != 0))
    (same : (if contract ≠ 0 then front ++ packWord contract else front) =
      (if contract' ≠ 0 then front' ++ packWord contract' else front')) :
    front = front' ∧ contract = contract' := by
  by_cases absent : contract = 0
  · have absent' : contract' = 0 := by simpa [absent] using alike
    simpa [absent, absent'] using same
  · have named : contract' ≠ 0 := by
      intro absent'
      exact absent (by simpa [absent'] using alike)
    rw [if_pos absent, if_pos named] at same
    obtain ⟨fronts, contracts⟩ := List.append_inj' same (by simp)
    exact ⟨fronts, (packWord_inj ⟨20, rfl⟩).mp contracts⟩

theorem leafHashInputs_inj {left right : CreateSRRInputs} {isToInLeafHash : Bool}
    (same : leafHashInputs left isToInLeafHash = leafHashInputs right isToInLeafHash)
    (alike : (left.contractAddress != 0) = (right.contractAddress != 0))
    (to_ : isToInLeafHash = false → left.to_ = right.to_) :
    left = right := by
  obtain ⟨same, contractAddress⟩ := appendContract_inj alike same
  obtain ⟨same, royaltyBasisPoints⟩ := List.append_inj' same (by simp)
  obtain ⟨same, royaltyReceiver⟩ := List.append_inj' same (by simp)
  have fields : packBool left.isPrimaryIssuer ++ packWord left.artistAddress ++ left.metadataCID ++
        packBool left.lockExternalTransfer =
      packBool right.isPrimaryIssuer ++ packWord right.artistAddress ++ right.metadataCID ++
        packBool right.lockExternalTransfer ∧ left.to_ = right.to_ := by
    cases isToInLeafHash with
    | false => exact ⟨by simpa using same, to_ rfl⟩
    | true =>
        rw [if_pos rfl, if_pos rfl] at same
        obtain ⟨fields, recipients⟩ := List.append_inj' same (by simp)
        exact ⟨fields, (packWord_inj ⟨20, rfl⟩).mp recipients⟩
  obtain ⟨same, lockExternalTransfer⟩ := List.append_inj' fields.1 (by simp)
  obtain ⟨same, metadataCID⟩ := List.append_inj same (by simp)
  obtain ⟨isPrimaryIssuer, artistAddress⟩ := List.append_inj same (by simp)
  cases left
  cases right
  simp only [CreateSRRInputs.mk.injEq]
  exact ⟨packBool_inj.mp isPrimaryIssuer, (packWord_inj ⟨20, rfl⟩).mp artistAddress, metadataCID,
    packBool_inj.mp lockExternalTransfer, fields.2, (packWord_inj ⟨20, rfl⟩).mp royaltyReceiver,
    (packWord_inj ⟨2, rfl⟩).mp royaltyBasisPoints, contractAddress⟩

theorem hashInputs_inj {p q : Operation} (layout : layoutOf p = layoutOf q)
    (same : hashInputs p = hashInputs q) : p = q := by
  cases p <;> cases q <;> simp only [layoutOf, Layout.mk.injEq, reduceCtorEq, false_and] at layout
  case createWithoutTo.createWithoutTo =>
    have inputs := leafHashInputs_inj same layout.2 (fun _ => rfl)
    simpa using inputs
  case createWithTo.createWithTo =>
    have inputs := leafHashInputs_inj same layout.2 (by simp)
    simpa using inputs
  case approve.approve =>
    obtain ⟨same, contractAddress⟩ := appendContract_inj layout.2 same
    obtain ⟨same, customHistoryId⟩ := List.append_inj' same (by simp)
    obtain ⟨same, historyMetadataHash⟩ := List.append_inj same (by simp)
    obtain ⟨tokenId, commitment⟩ := List.append_inj same (by simp)
    simp only [Operation.approve.injEq]
    exact ⟨(packWord_inj ⟨32, rfl⟩).mp tokenId, (packWord_inj ⟨32, rfl⟩).mp commitment,
      historyMetadataHash, (packWord_inj ⟨32, rfl⟩).mp customHistoryId, contractAddress⟩
  case transfer.transfer =>
    obtain ⟨same, contractAddress⟩ := appendContract_inj layout.2 same
    obtain ⟨same, isIntermediary⟩ := List.append_inj' same (by simp)
    obtain ⟨same, customHistoryId⟩ := List.append_inj' same (by simp)
    obtain ⟨same, historyMetadataHash⟩ := List.append_inj same (by simp)
    obtain ⟨to_, tokenId⟩ := List.append_inj same (by simp)
    simp only [Operation.transfer.injEq]
    exact ⟨(packWord_inj ⟨20, rfl⟩).mp to_, (packWord_inj ⟨32, rfl⟩).mp tokenId,
      historyMetadataHash, (packWord_inj ⟨32, rfl⟩).mp customHistoryId,
      packBool_inj.mp isIntermediary, contractAddress⟩

end Injectivity

section Collisions

def ones (width : Nat) : BitVec width :=
  BitVec.ofNat width (decodeBE (List.replicate (width / 8) 1))

-- The operation of each layout whose bytes are two hundred ones.
def uniform (layout : Layout) : Operation :=
  let contractAddress := if layout.named then ones 160 else 0
  let fill (fixed : Nat) : Bytes :=
    List.replicate (200 - fixed - (if layout.named then 20 else 0)) 1
  match layout.kind with
  | .createWithoutTo =>
      .createWithoutTo true (ones 160) (fill 44) true (ones 160) (ones 16) contractAddress
  | .createWithTo =>
      .createWithTo true (ones 160) (fill 64) true (ones 160) (ones 160) (ones 16) contractAddress
  | .approve => .approve (ones 256) (ones 256) (fill 96) (ones 256) contractAddress
  | .transfer => .transfer (ones 160) (ones 256) (fill 85) (ones 256) true contractAddress

theorem layoutOf_uniform (layout : Layout) : layoutOf (uniform layout) = layout := by
  obtain ⟨kind, named⟩ := layout
  cases kind <;> cases named <;> decide

set_option maxRecDepth 4000 in
theorem hashInputs_uniform (layout : Layout) :
    hashInputs (uniform layout) = List.replicate 200 1 := by
  obtain ⟨kind, named⟩ := layout
  cases kind <;> cases named <;> decide

/-- Equal leaf bytes stand for equal operations exactly within a layout. -/
theorem hashInputs_layouts (first second : Layout) :
    (∀ p q, layoutOf p = first → layoutOf q = second → hashInputs p = hashInputs q → p = q) ↔
      first = second := by
  constructor
  · intro injective
    have same : hashInputs (uniform first) = hashInputs (uniform second) := by
      rw [hashInputs_uniform, hashInputs_uniform]
    have equal := injective (uniform first) (uniform second) (layoutOf_uniform first)
      (layoutOf_uniform second) same
    rw [← layoutOf_uniform first, ← layoutOf_uniform second, equal]
  · rintro rfl p q left right same
    exact hashInputs_inj (left.trans right.symm) same

-- A record for the registry that is to be created for `to_` is also one without `to_` for a
-- contract whose address the royalty fields spell.
def recordWithTo : Operation :=
  .createWithTo true 0x00000000000000000000000000000000000a11ce
    (ascii "bafkreigh2akiscaildcqabsyg3dfr6chu3fgpregiymsck7e7aqa4s52zy") false
    0x0000000000000000000000000000000000000b0b 0x1111222233334444555566667777888899990000 500 0

def recordWithoutTo : Operation :=
  .createWithoutTo true 0x00000000000000000000000000000000000a11ce
    (ascii "bafkreigh2akiscaildcqabsyg3dfr6chu3fgpregiymsck7e7aqa4s52zy") false
    0x0000000000000000000000000000000000000b0b 0x1111 0x22223333444455556666777788889999000001f4

set_option maxRecDepth 4000 in
theorem recordWithTo_collision :
    ¬∀ p q : Operation, hashInputs p = hashInputs q → p = q := by
  intro injective
  have equal := injective recordWithTo recordWithoutTo (by decide)
  cases equal

end Collisions

end Startrail.Bulk
