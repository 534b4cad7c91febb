import Startrail.Library.Hex
import Startrail.Registry.MetadataURIs

/-!
The URIs of records from before there were CIDs, `tokenURIFromBytes32` of
`startrailregistry/StartrailRegistryLibraryV1.sol`. Its loop writes the digits of the digest into
memory, two a byte; they are the hex text of the digest, and the URI has no other digest.
-/

namespace Startrail.Registry

section Loop

-- `mstore8`: the lowest byte of the word, at a place in the buffer.
def mstore8 (buffer : Bytes) (offset : Nat) (word : Uint256) : Bytes :=
  buffer.set offset (UInt8.ofNat word.toNat)

def charOf (hex : UInt8) : Uint256 :=
  let hex : Uint256 := BitVec.ofNat 256 hex.toNat
  hex + if hex < 10 then 48 else 87

def writeHex (_b32 : Bytes32) (res : Bytes) (i : Uint8) : Bytes :=
  let byte : UInt8 := (packWord _b32).getD i.toNat 0
  let char1 := charOf (byte >>> 4)
  let char2 := charOf ((byte <<< 4) >>> 4)
  let chPtr := i.toNat * 2
  mstore8 (mstore8 res chPtr char1) (chPtr + 1) char2

-- The counter of eight bits is checked.
def hexLoop (_b32 : Bytes32) : Nat → Uint8 → Bytes → Result Bytes
  | 0, _, _ => .error .empty
  | fuel + 1, i, res =>
      if i < 32 then do
        requirePanic (i.toNat + 1 < 2 ^ 8) 0x11
        hexLoop _b32 fuel (i + 1) (writeHex _b32 res i)
      else pure res

end Loop

section Digits

def hexPair (byte : UInt8) : Bytes := [hexChar (byte >>> 4), hexChar ((byte <<< 4) >>> 4)]

theorem bytes32ToString_eq (digest : Bytes32) :
    bytes32ToString digest = (packWord digest).flatMap hexPair := rfl

theorem forall_byte {P : UInt8 → Prop} (all : ∀ value : Fin 256, P (UInt8.ofNat value.val))
    (byte : UInt8) : P byte := by
  have here := all ⟨byte.toNat, byte.toNat_lt⟩
  rwa [UInt8.ofNat_toNat] at here

theorem lowByte_charOf : ∀ hex, UInt8.ofNat (charOf hex).toNat = hexChar hex :=
  forall_byte (by decide +kernel)

def charAt (byte : UInt8) : Char := Char.ofNat byte.toNat

theorem hexPair_text : ∀ byte, (hexPair byte).map charAt = hexByte byte :=
  forall_byte (by decide +kernel)

def LowerHex (c : UInt8) : Prop := 48 ≤ c ∧ c ≤ 57 ∨ 97 ≤ c ∧ c ≤ 102

instance : DecidablePred LowerHex := fun _ => inferInstanceAs (Decidable (_ ∨ _))

theorem hexChar_lower : ∀ byte : UInt8,
    LowerHex (hexChar (byte >>> 4)) ∧ LowerHex (hexChar ((byte <<< 4) >>> 4)) :=
  forall_byte (by decide +kernel)

theorem hexPair_lower (byte : UInt8) : ∀ c ∈ hexPair byte, LowerHex c := by
  intro c listed
  obtain ⟨high, low⟩ := hexChar_lower byte
  rcases List.mem_cons.mp listed with rfl | last
  · exact high
  · rw [List.mem_singleton.mp last]
    exact low

theorem length_hexPairs (bytes : Bytes) : (bytes.flatMap hexPair).length = 2 * bytes.length := by
  induction bytes with
  | nil => rfl
  | cons byte bytes ih =>
      rw [List.flatMap_cons, List.length_append, ih, List.length_cons]
      change 2 + _ = _
      omega

theorem hexPairs_text (bytes : Bytes) : (bytes.flatMap hexPair).map charAt = hexText bytes := by
  induction bytes with
  | nil => rfl
  | cons byte bytes ih =>
      rw [List.flatMap_cons, List.map_append, hexPair_text, ih]
      rfl

end Digits

section Correctness

variable {_b32 : Bytes32} {front back : Bytes} {byte : UInt8}

theorem set_pair (done rest : Bytes) (old old' new new' : UInt8) :
    ((done ++ old :: old' :: rest).set done.length new).set (done.length + 1) new' =
      done ++ new :: new' :: rest := by
  have second : done.length + 1 - done.length = 1 := by omega
  rw [List.set_append_right _ _ (Nat.le_refl _), List.set_append_right _ _ (Nat.le_succ _),
    Nat.sub_self, second]
  rfl

theorem counter_toNat {n : Nat} (small : n < 256) : (BitVec.ofNat 8 n).toNat = n := by
  rw [BitVec.toNat_ofNat]
  exact Nat.mod_eq_of_lt small

theorem split_length (whole : packWord _b32 = front ++ back) : front.length + back.length = 32 := by
  rw [← List.length_append, ← whole, length_packWord]

theorem writeHex_eq (whole : packWord _b32 = front ++ byte :: back) :
    writeHex _b32 (front.flatMap hexPair ++ List.replicate (2 * (back.length + 1)) 0)
        (BitVec.ofNat 8 front.length) =
      (front ++ [byte]).flatMap hexPair ++ List.replicate (2 * back.length) 0 := by
  have size := split_length whole
  have counter : (BitVec.ofNat 8 front.length).toNat = front.length :=
    counter_toNat (by rw [List.length_cons] at size; omega)
  have read : (packWord _b32).getD front.length 0 = byte := by
    rw [whole, List.getD_eq_getElem?_getD, List.getElem?_append_right (Nat.le_refl _), Nat.sub_self]
    rfl
  have offset : front.length * 2 = (front.flatMap hexPair).length := by
    rw [length_hexPairs]
    omega
  have room : List.replicate (2 * (back.length + 1)) (0 : UInt8) =
      0 :: 0 :: List.replicate (2 * back.length) 0 := rfl
  unfold writeHex mstore8
  rw [counter, read, offset, room, set_pair, lowByte_charOf, lowByte_charOf, List.flatMap_append,
    List.append_assoc]
  rfl

/-- What is written stays, and the loop ends where the digest does. -/
theorem hexLoop_eq (whole : packWord _b32 = front ++ back) {fuel : Nat}
    (enough : back.length < fuel) :
    hexLoop _b32 fuel (BitVec.ofNat 8 front.length)
        (front.flatMap hexPair ++ List.replicate (2 * back.length) 0) =
      .ok (bytes32ToString _b32) := by
  induction back generalizing front fuel with
  | nil =>
      obtain ⟨fuel, rfl⟩ := Nat.exists_eq_succ_of_ne_zero (Nat.ne_of_gt enough)
      rw [List.append_nil] at whole
      have ended : front.length = 32 := by rw [← whole, length_packWord]
      rw [bytes32ToString_eq, whole, hexLoop, ended, if_neg (by decide)]
      exact congrArg Except.ok (List.append_nil _)
  | cons byte back ih =>
      obtain ⟨fuel, rfl⟩ := Nat.exists_eq_succ_of_ne_zero (Nat.ne_of_gt (Nat.zero_lt_of_lt enough))
      have size := split_length whole
      rw [List.length_cons] at size enough
      have small : front.length < 32 := by omega
      have counter := counter_toNat (Nat.lt_trans small (by decide))
      have inside : BitVec.ofNat 8 front.length < 32 := by
        rw [BitVec.lt_def, counter]
        exact small
      have next : BitVec.ofNat 8 front.length + 1 = BitVec.ofNat 8 (front ++ [byte]).length := by
        rw [List.length_append, BitVec.ofNat_add]
        rfl
      have rest : packWord _b32 = (front ++ [byte]) ++ back := by
        rw [whole, List.append_assoc]
        rfl
      rw [hexLoop, if_pos inside, List.length_cons, writeHex_eq whole, counter, next]
      have room : requirePanic (front.length + 1 < 2 ^ 8) 0x11 = .ok () :=
        requirePanic_eq_ok.mpr (by omega)
      rw [room]
      exact ih rest (by omega)

theorem hexLoop_digits (_b32 : Bytes32) {fuel : Nat} (enough : 32 < fuel) :
    hexLoop _b32 fuel 0 (List.replicate 64 0) = .ok (bytes32ToString _b32) := by
  have ends := @hexLoop_eq _b32 [] (packWord _b32) rfl fuel
  rw [length_packWord] at ends
  exact ends enough

theorem length_bytes32ToString (_b32 : Bytes32) : (bytes32ToString _b32).length = 64 := by
  rw [bytes32ToString_eq, length_hexPairs, length_packWord]

theorem bytes32ToString_decodes (_b32 : Bytes32) :
    bytesOf ((bytes32ToString _b32).map charAt) = some (packWord _b32) := by
  rw [bytes32ToString_eq, hexPairs_text, bytesOf_hexText]

theorem bytes32ToString_inj {digest other : Bytes32}
    (same : bytes32ToString digest = bytes32ToString other) : digest = other := by
  have decoded := bytes32ToString_decodes digest
  rw [same, bytes32ToString_decodes] at decoded
  exact ((packWord_inj ⟨32, rfl⟩).mp (Option.some.inj decoded)).symm

theorem bytes32ToString_lower (_b32 : Bytes32) : ∀ c ∈ bytes32ToString _b32, LowerHex c := by
  intro c member
  rw [bytes32ToString_eq] at member
  obtain ⟨byte, _, written⟩ := List.mem_flatMap.mp member
  exact hexPair_lower byte c written

theorem tokenURIFromBytes32_inj {digest other : Bytes32} {_uriPrefix _uriPostfix : Bytes}
    (same : tokenURIFromBytes32 digest _uriPrefix _uriPostfix =
      tokenURIFromBytes32 other _uriPrefix _uriPostfix) : digest = other := by
  unfold tokenURIFromBytes32 at same
  exact bytes32ToString_inj (List.append_cancel_left (List.append_cancel_right same))

end Correctness

section Legacy

variable {state : State} {tokenId : Uint256}

def digestOf (state : State) (tokenId : Uint256) : Bytes32 :=
  state._bytes32Storage tokenId ._SRR ._METADATA_HASH

/-- The digits in the URI of a record without a CID. -/
structure LegacyURI (state : State) (tokenId : Uint256) (digits : Bytes) : Prop where
  looped : ∀ fuel, 32 < fuel →
    hexLoop (digestOf state tokenId) fuel 0 (List.replicate 64 0) = .ok digits
  length : digits.length = 64
  lower : ∀ c ∈ digits, LowerHex c
  decodes : bytesOf (digits.map charAt) = some (packWord (digestOf state tokenId))
  uri : tokenURIOf state tokenId =
    URI_PREFIX state ++ ascii "0x" ++ digits ++ URI_POSTFIX state
  same : tokenURI state (ascii "0x" ++ digits) = tokenURIOf state tokenId
  faithful : ∀ digest, tokenURIFromBytes32 digest (URI_PREFIX state) (URI_POSTFIX state) =
    tokenURIOf state tokenId → digest = digestOf state tokenId

theorem tokenURIOf_legacy (legacy : metadataOf state tokenId = []) :
    tokenURIOf state tokenId =
      tokenURIFromBytes32 (digestOf state tokenId) (URI_PREFIX state) (URI_POSTFIX state) := by
  have empty : ¬0 < (state._stringStorage tokenId ._SRR ._METADATA_HASH).length := by
    rw [show state._stringStorage tokenId ._SRR ._METADATA_HASH = [] from legacy]
    exact Nat.lt_irrefl 0
  exact if_neg empty

/-- In every state, whatever the digest and the parts of the URI are. -/
theorem digest_uris (state : State) (tokenId : Uint256)
    (legacy : metadataOf state tokenId = []) : ∃ digits, LegacyURI state tokenId digits := by
  have uri := tokenURIOf_legacy legacy
  refine ⟨bytes32ToString (digestOf state tokenId), fun fuel => hexLoop_digits _,
    length_bytes32ToString _, bytes32ToString_lower _, bytes32ToString_decodes _, uri, ?_, ?_⟩
  · have long : (ascii "0x" ++ bytes32ToString (digestOf state tokenId)).length = 66 := by
      rw [List.length_append, length_bytes32ToString]
      rfl
    rw [tokenURI, if_pos long, uri]
    unfold tokenURIFromBytes32 URI_PREFIX URI_POSTFIX
    simp only [List.append_assoc]
  · intro digest same
    rw [uri] at same
    exact tokenURIFromBytes32_inj same

-- A record of an earlier version, under the parts of a URI.
def legacyState : State :=
  { State.blank with
    _bytes32Storage := Storage.set (fun _ _ _ => 0) recordId ._SRR ._METADATA_HASH 0xab0c
    _stringStorage := Storage.set (fun _ _ _ => []) SRR_GLOBAL_SLOT ._SRR ._URI_PREFIX
      (ascii "https://")}

set_option maxRecDepth 8000 in
theorem digest_uris_legacy : ∃ digits, LegacyURI legacyState recordId digits ∧
    tokenURIOf legacyState recordId =
      ascii "https://0x" ++ List.replicate 60 48 ++ ascii "ab0c" := by
  obtain ⟨digits, uri⟩ := digest_uris legacyState recordId (by decide)
  exact ⟨digits, uri, by decide⟩

end Legacy

end Startrail.Registry
