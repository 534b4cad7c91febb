import Startrail.LicensedUser.Owners

/-!
What an accepted signature set proves about a wallet. The loop over the
signatures keeps its signers in strictly ascending order, starting above the zero
address: they are distinct, none of them is zero, and each has a link in the
owner list and is not the sentinel.
-/

namespace Startrail.LicensedUserManager

def groupSigner (evm : Evm) (behind : Nat → UInt8) (_hash : Bytes32) (_signatures : Bytes)
    (group : Nat) : Address :=
  let (v, r, s) := signatureSplit behind _signatures group
  evm.ecrecover _hash v r s

variable {evm : Evm} {behind : Nat → UInt8} {_hash : Bytes32} {_signatures : Bytes}

theorem checkSignaturesLoop_signers {_owners : Address → Address} {remaining i : Nat}
    {lastOwner : Address} {u : Unit}
    (accepted : checkSignaturesLoop evm behind _owners _hash _signatures remaining i lastOwner =
      .ok u) :
    ∃ signers : List Address, signers.length = remaining ∧
      (lastOwner :: signers).Pairwise (· < ·) ∧
      ∀ signer ∈ signers, _owners signer ≠ 0 ∧ signer ≠ SENTINEL_OWNERS ∧
        ∃ group, group < i + remaining ∧
          groupSigner evm behind _hash _signatures group = signer := by
  induction remaining generalizing i lastOwner with
  | zero => exact ⟨[], rfl, by simp, by simp⟩
  | succ remaining ih =>
      simp only [checkSignaturesLoop, bind_eq_ok, require_eq_ok] at accepted
      obtain ⟨_, ⟨above, linked, notSentinel⟩, accepted⟩ := accepted
      obtain ⟨signers, size, ascending, signed⟩ := ih accepted
      refine ⟨groupSigner evm behind _hash _signatures i :: signers, by simp [size], ?_, ?_⟩
      · refine List.pairwise_cons.mpr ⟨?_, ascending⟩
        intro signer belongs
        rcases List.mem_cons.mp belongs with first | later
        · subst signer
          exact above
        · exact BitVec.lt_trans above ((List.pairwise_cons.mp ascending).1 signer later)
      · intro signer belongs
        rcases List.mem_cons.mp belongs with first | later
        · subst signer
          exact ⟨linked, notSentinel, i, by omega, rfl⟩
        · obtain ⟨link, proper, group, bound, recovered⟩ := signed signer later
          exact ⟨link, proper, group, by omega, recovered⟩

theorem isValidSignatureSet_sound (evm : Evm) (behind : Nat → UInt8) (state : State)
    (_walletAddress : Address) (_hash : Bytes32) (_signatures : Bytes)
    (accepted : isValidSignatureSet evm behind state _walletAddress _hash _signatures =
      .ok IS_VALID_SIG_SUCCESS) :
    isActiveWallet state _walletAddress = true ∧
      ∃ signers : List Address, signers.Nodup ∧
        (getThreshold state _walletAddress).toNat ≤ signers.length ∧
        ∀ signer ∈ signers, signer ≠ 0 ∧ isOwner state _walletAddress signer ∧
          ∃ group, groupSigner evm behind _hash _signatures group = signer ∧
            if isSingleOwner state _walletAddress then
              group = 0 ∧ signer = (state.luws _walletAddress).owner
            else 65 * (group + 1) ≤ _signatures.length := by
  simp only [isValidSignatureSet, onlyActiveWallet, bind_eq_ok, require_eq_ok] at accepted
  obtain ⟨_, active, checked⟩ := accepted
  refine ⟨active, ?_⟩
  by_cases single : isSingleOwner state _walletAddress
  · simp only [single, if_true, bind_eq_ok, require_eq_ok] at checked
    obtain ⟨_, recovered, _⟩ := checked
    refine ⟨[(state.luws _walletAddress).owner], by simp, ?_, ?_⟩
    · simp only [getThreshold, single, if_true, List.length_singleton]
      decide
    · intro signer belongs
      have owner : signer = (state.luws _walletAddress).owner := by simpa using belongs
      subst signer
      refine ⟨single, ?_, 0, recovered, ?_⟩
      · simp [isOwner, single]
      · simp [single]
  · simp only [single, if_false, checkSignatures, bind_eq_ok, require_eq_ok] at checked
    obtain ⟨_, ⟨_, _, _, long, accepted⟩, _⟩ := checked
    obtain ⟨signers, size, ascending, signed⟩ := checkSignaturesLoop_signers accepted
    obtain ⟨positive, ascending⟩ := List.pairwise_cons.mp ascending
    refine ⟨signers, ?_, ?_, ?_⟩
    · apply ascending.imp
      rintro left right below rfl
      exact BitVec.lt_irrefl left below
    · simp [getThreshold, single, OwnerManager.getThreshold, size]
    · intro signer belongs
      obtain ⟨link, proper, group, bound, recovered⟩ := signed signer belongs
      refine ⟨?_, ?_, group, recovered, ?_⟩
      · rintro rfl
        exact BitVec.lt_irrefl 0 (positive 0 belongs)
      · simp only [isOwner, single, if_false, OwnerManager.isOwner]
        exact ⟨proper, link⟩
      · rw [if_neg single]
        omega

section Accepted

def lowerOwner : Address := 0x2b5ad5c4795c026514f8317c7a215e218dccd6cf

def upperOwner : Address := 0x7e5f4552091a69125d5dfcb7b8c2659029395bdf

def signedHash : Bytes32 := 0xc5d2460186f7233c927e7db2dcc703c0e500b653ca82273b7bfad8045d85a470

def lowerSignature : Uint8 × Bytes32 × Bytes32 :=
  (27, 0xf01d6b9018ab421dd410404cb869072065522bf85734008f105cf385a023a80f,
    0x7f7a7e441e680d7c7efd4fe12dad797967a55c80cf6c0eaa5098daf4e69012b8)

def upperSignature : Uint8 × Bytes32 × Bytes32 :=
  (27, 0x54006a630e70fca8d45a696d7dba3a1cb7d81cc830cfce3be0f634373aac3f0a,
    0x6834e37ecc70b12b02693b366cad0b4ebabff36daa0b6bec06c93904f8a89a66)

def packSignature (signature : Uint8 × Bytes32 × Bytes32) : Bytes :=
  packWord signature.2.1 ++ packWord signature.2.2 ++ packWord signature.1

def signingEvm : Evm :=
  Evm.ofTables [([], signedHash)]
    [((signedHash, lowerSignature), ⟨lowerOwner, by decide⟩),
      ((signedHash, upperSignature), ⟨upperOwner, by decide⟩)]

set_option maxRecDepth 8000 in
theorem isValidSignatureSet_sound_two :
    ∃ signers : List Address, signers.Nodup ∧ 2 ≤ signers.length ∧
      ∀ signer ∈ signers,
        isOwner (sampleRun upperOwner lowerOwner).now.state sampleWallet signer := by
  obtain ⟨_, signers, distinct, enough, owners⟩ := isValidSignatureSet_sound signingEvm (fun _ => 0)
    (sampleRun upperOwner lowerOwner).now.state sampleWallet signedHash
    (packSignature lowerSignature ++ packSignature upperSignature) (by rfl)
  exact ⟨signers, distinct, enough, fun signer belongs => (owners signer belongs).2.1⟩

end Accepted

end Startrail.LicensedUserManager
