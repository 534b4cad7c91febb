import Startrail.Client.Signing

/-!
Token ids before there are tokens: `startrail-common-js/srr/srr-id-compute.ts` against
`lib/IDGeneratorV3.sol`. One function packs a CID and an address by their types, the other joins two
hexadecimal texts and decodes them, where what is no hexadecimal would be dropped.
-/

namespace Startrail.Client.TokenIds

section Contract

-- The overload for a digest; `Startrail.generate` is the one for a CID.
def IDGeneratorV3.generate (evm : Evm) (metadataDigest : Bytes32) (artistAddress : Address) :
    Uint256 :=
  BitVec.ofNat 256 ((evm.keccak256 (packWord metadataDigest ++ packWord artistAddress)).toNat %
    10 ^ 12)

end Contract

section Compute

def ID_CAP : Nat := 10 ^ 8

def ID_CAP_V2 : Nat := 10 ^ 12

-- `BigNumber.toNumber` refuses what a double does not hold exactly.
def toNumber (value : Nat) : Option Nat := if value < 2 ^ 53 then some value else none

def srrIdComputeInternal (evm : Evm) (artistAddress metadataDigest : Text) (modulus : Nat) :
    Option Nat :=
  let encodedInput := stripHexPrefix metadataDigest ++ stripHexPrefix artistAddress
  let idHash := evm.keccak256 (leadingBytes encodedInput)
  toNumber (idHash.toNat % modulus)

def solidityKeccak256 (evm : Evm) (metadataCID artistAddress : Text) : Option Bytes32 := do
  let artist ← arrayify artistAddress
  some (evm.keccak256 (toUtf8Bytes metadataCID ++ artist))

def srrIdComputeInternalWithCID (evm : Evm) (artistAddress metadataCID : Text) (modulus : Nat) :
    Option Nat := do
  let idHash ← solidityKeccak256 evm metadataCID artistAddress
  toNumber (idHash.toNat % modulus)

def srrIdCompute (evm : Evm) (artistAddress metadataDigest : Text) : Option Nat :=
  srrIdComputeInternal evm artistAddress metadataDigest ID_CAP

def srrIdV2Compute (evm : Evm) (artistAddress metadataDigest : Text) : Option Nat :=
  srrIdComputeInternal evm artistAddress metadataDigest ID_CAP_V2

def srrIdV3Compute (evm : Evm) (artistAddress metadataCID : Text) : Option Nat :=
  srrIdComputeInternalWithCID evm artistAddress metadataCID ID_CAP_V2

end Compute

section Agreement

variable {evm : Evm} {artistAddress metadataCID metadataDigest : Text} {artist : Address}
  {digest : Bytes32} {modulus : Nat}

/-- The text spells the address, in whatever letter case. -/
def Spells (artistAddress : Text) (artist : Address) : Prop :=
  arrayify artistAddress = some (packWord artist)

theorem toNumber_mod (positive : 0 < modulus) (narrow : modulus ≤ 2 ^ 53) (value : Nat) :
    toNumber (value % modulus) = some (value % modulus) :=
  if_pos (Nat.lt_of_lt_of_le (Nat.mod_lt value positive) narrow)

theorem capped_toNat (value : Nat) :
    (BitVec.ofNat 256 (value % ID_CAP_V2)).toNat = value % ID_CAP_V2 := by
  rw [BitVec.toNat_ofNat]
  exact Nat.mod_eq_of_lt (Nat.lt_trans (Nat.mod_lt value (by decide)) (by decide))

theorem decoded_pair (digits : bytesOf (stripHexPrefix metadataDigest) = some (packWord digest))
    (spelled : Spells artistAddress artist) :
    leadingBytes (stripHexPrefix metadataDigest ++ stripHexPrefix artistAddress) =
      packWord digest ++ packWord artist := by
  apply leadingBytes_eq
  rw [bytesOf_append digits, bytesOf_stripHexPrefix spelled]
  rfl

theorem srrIdComputeInternal_eq
    (digits : bytesOf (stripHexPrefix metadataDigest) = some (packWord digest))
    (spelled : Spells artistAddress artist) (positive : 0 < modulus) (narrow : modulus ≤ 2 ^ 53) :
    srrIdComputeInternal evm artistAddress metadataDigest modulus =
      some ((evm.keccak256 (packWord digest ++ packWord artist)).toNat % modulus) := by
  rw [srrIdComputeInternal, decoded_pair digits spelled]
  exact toNumber_mod positive narrow _

theorem srrIdComputeInternalWithCID_eq (spelled : Spells artistAddress artist)
    (positive : 0 < modulus) (narrow : modulus ≤ 2 ^ 53) :
    srrIdComputeInternalWithCID evm artistAddress metadataCID modulus =
      some ((evm.keccak256 (toUtf8Bytes metadataCID ++ packWord artist)).toNat % modulus) := by
  rw [srrIdComputeInternalWithCID, solidityKeccak256, spelled]
  exact toNumber_mod positive narrow _

theorem toNumber_narrow {value number : Nat} (divides : modulus ∣ ID_CAP_V2)
    (computed : toNumber (value % ID_CAP_V2) = some number) :
    toNumber (value % modulus) = some (number % modulus) := by
  have positive : 0 < modulus := Nat.pos_of_dvd_of_pos divides (by decide)
  have narrow : modulus ≤ 2 ^ 53 :=
    Nat.le_trans (Nat.le_of_dvd (by decide) divides) (by decide)
  rw [toNumber_mod (by decide) (by decide)] at computed
  rw [toNumber_mod positive narrow, ← Option.some.inj computed, Nat.mod_mod_of_dvd _ divides]

/-- An id of the first version is the lower end of one of the second. -/
theorem srrIdCompute_lower {number : Nat}
    (computed : srrIdV2Compute evm artistAddress metadataDigest = some number) :
    srrIdCompute evm artistAddress metadataDigest = some (number % ID_CAP) :=
  toNumber_narrow (by decide) computed

/-- What the client computes is what the contract generates. -/
theorem token_ids (evm : Evm) (artistAddress : Text) (artist : Address)
    (spelled : Spells artistAddress artist) :
    (∀ metadataCID : Text,
      srrIdV3Compute evm artistAddress metadataCID =
          some (generate evm (toUtf8Bytes metadataCID) artist).toNat ∧
        (generate evm (toUtf8Bytes metadataCID) artist).toNat < 10 ^ 12) ∧
    ∀ (metadataDigest : Text) (digest : Bytes32),
      bytesOf (stripHexPrefix metadataDigest) = some (packWord digest) →
        srrIdV2Compute evm artistAddress metadataDigest =
            some (IDGeneratorV3.generate evm digest artist).toNat ∧
          (IDGeneratorV3.generate evm digest artist).toNat < 10 ^ 12 := by
  have below : ∀ value, value % ID_CAP_V2 < 10 ^ 12 := fun value => Nat.mod_lt value (by decide)
  constructor
  · intro metadataCID
    have whole := capped_toNat (evm.keccak256 (toUtf8Bytes metadataCID ++ packWord artist)).toNat
    change (generate evm (toUtf8Bytes metadataCID) artist).toNat = _ at whole
    rw [whole]
    exact ⟨srrIdComputeInternalWithCID_eq spelled (by decide) (by decide), below _⟩
  · intro metadataDigest digest digits
    have whole := capped_toNat (evm.keccak256 (packWord digest ++ packWord artist)).toNat
    change (IDGeneratorV3.generate evm digest artist).toNat = _ at whole
    rw [whole]
    exact ⟨srrIdComputeInternal_eq digits spelled (by decide) (by decide), below _⟩

-- A checksummed address, a CID beyond the ASCII characters and a digest in hex.
def sampleArtist : Text := "0x5aAeb6053F3E94C9b9A09f33669435E7Ef1BeAed".toList

def sampleDigest : Text :=
  "0xab0cab0cab0cab0cab0cab0cab0cab0cab0cab0cab0cab0cab0cab0cab0cab0c".toList

def sampleDigestWord : Bytes32 := 0xab0cab0cab0cab0cab0cab0cab0cab0cab0cab0cab0cab0cab0cab0cab0cab0c

def sampleEvm : Evm := Evm.ofTables
  [(toUtf8Bytes "QmÜ".toList ++ packWord (0x5aaeb6053f3e94c9b9a09f33669435e7ef1beaed : Address),
      0xd3c25c86f0d25521c29c1cd3b1aca56422de1490c40fb69ce447ff0bc672eb0a),
    (packWord sampleDigestWord ++ packWord (0x5aaeb6053f3e94c9b9a09f33669435e7ef1beaed : Address),
      0x7110adfdbc0d61f14cec834ef779c48c81eba16b632001cbeeff8643cac0248d)] []

theorem token_ids_checksummed :
    srrIdV3Compute sampleEvm sampleArtist "QmÜ".toList = some 301172235018 ∧
      srrIdV2Compute sampleEvm sampleArtist sampleDigest = some 29088220301 := by
  obtain ⟨byCID, byDigest⟩ := token_ids sampleEvm sampleArtist
    0x5aaeb6053f3e94c9b9a09f33669435e7ef1beaed (by unfold Spells; decide +kernel)
  rw [(byCID _).1, (byDigest _ sampleDigestWord (by decide +kernel)).1]
  exact ⟨by decide +kernel, by decide +kernel⟩

end Agreement

end Startrail.Client.TokenIds
