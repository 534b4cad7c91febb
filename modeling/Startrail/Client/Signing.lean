import Startrail.Client.TypedData
import Startrail.LicensedUser.Signatures

/-!
Signing with several wallets (`meta-tx/sign.ts`). The wallets sign in the alphabetical
order of their addresses, which is the order of the addresses as numbers; so the joined
signatures are what the licensed user manager reads group by group.
-/

namespace Startrail.Client

open LicensedUserManager

structure Wallet where
  address : Text
  _signTypedData : Option (TypedDataDomain → Record Text (List TypedDataField) → JsObject → Text)

def compareWalletByAddressString (a b : Wallet) : Int :=
  let aAddr := a.address.map Char.toLower
  let bAddr := b.address.map Char.toLower
  if aAddr < bAddr then -1 else if bAddr < aAddr then 1 else 0

def typesMutable (typedData : EIP712TypedData) : Record Text (List TypedDataField) :=
  match typedData.types.get? typedData.primaryType with
  | some fields => Record.empty.set typedData.primaryType fields
  | none => Record.empty

def Wallet.sign (typedData : EIP712TypedData) (signer : Wallet) : Option Text :=
  signer._signTypedData.map fun sign =>
    sign typedData.domain (typesMutable typedData) typedData.message

def precedes (a b : Wallet) : Bool := compareWalletByAddressString a b ≤ 0

def signTypedData (typedData : EIP712TypedData) (signers : List Wallet) :
    Except String (List Text) :=
  if signers.any fun signer => signer._signTypedData.isNone then
    .error "Signer._signTypedData not available. Upgrade to ethers >= v5.0.18."
  else
    .ok ((signers.mergeSort precedes).filterMap (Wallet.sign typedData))

def signatureBytes (signature : Uint8 × Bytes32 × Bytes32) : Bytes :=
  packWord signature.2.1 ++ packWord signature.2.2 ++ packWord signature.1

/-- The wallet is that of the account, and its signature of the data is one of the hash. -/
structure Wallet.Signs (evm : Evm) (hash : Bytes32) (typedData : EIP712TypedData) (signer : Wallet)
    (account : Address) : Prop where
  spelled : signer.address.map Char.toLower = hexlify (packWord account)
  signs : ∃ text v r s, signer.sign typedData = some text ∧
    arrayify text = some (signatureBytes (v, r, s)) ∧ evm.ecrecover hash v r s = account

theorem decodeBE_packWord (account : Address) : decodeBE (packWord account) = account.toNat := by
  rw [packWord, decodeBE_encodeBE]
  exact Nat.mod_eq_of_lt (toNat_lt_pow ⟨20, rfl⟩ account)

theorem hexlify_lt {left right : Address} :
    hexlify (packWord left) < hexlify (packWord right) ↔ left < right := by
  have same : (packWord left).length = (packWord right).length := by simp
  simp only [hexlify, List.cons_lt_cons_iff, Char.lt_irrefl, true_and, false_or]
  rw [hexText_lt same, decodeBE_packWord, decodeBE_packWord, BitVec.lt_def]

theorem precedes_iff (a b : Wallet) : precedes a b = true ↔
    ¬b.address.map Char.toLower < a.address.map Char.toLower := by
  unfold precedes compareWalletByAddressString
  rw [decide_eq_true_eq]
  by_cases below : a.address.map Char.toLower < b.address.map Char.toLower
  · have notAbove := List.lt_asymm below
    simp [below, notAbove]
  · by_cases above : b.address.map Char.toLower < a.address.map Char.toLower
    · simp [below, above]
    · simp [below, above]

theorem precedes_pairwise (signers : List Wallet) :
    (signers.mergeSort precedes).Pairwise fun a b => precedes a b = true := by
  apply List.pairwise_mergeSort
  · intro a b c first second
    rw [precedes_iff] at first second ⊢
    exact List.not_lt.mpr (List.le_trans (List.not_lt.mp first) (List.not_lt.mp second))
  · intro a b
    rw [Bool.or_eq_true, precedes_iff, precedes_iff]
    exact (List.le_total _ _).imp List.not_lt.mpr List.not_lt.mpr

section Signers

variable {evm : Evm} {behind : Nat → UInt8} {hash : Bytes32} {typedData : EIP712TypedData}
  {signers : List Wallet} {account : Wallet → Address}

/-- The signers in the order in which they sign have ascending accounts. -/
theorem sorted_ascending
    (signs : ∀ signer ∈ signers, signer.Signs evm hash typedData (account signer))
    (distinct : (signers.map account).Nodup) :
    ((signers.mergeSort precedes).map account).Pairwise (· < ·) := by
  have perm := List.mergeSort_perm signers precedes
  have apart := (perm.map account).nodup_iff.mpr distinct
  rw [List.Nodup, List.pairwise_map] at apart
  rw [List.pairwise_map]
  refine ((precedes_pairwise signers).and apart).imp_of_mem ?_
  rintro a b first second ⟨before, different⟩
  have left := signs a (perm.mem_iff.mp first)
  have right := signs b (perm.mem_iff.mp second)
  rw [precedes_iff, left.spelled, right.spelled, hexlify_lt, BitVec.lt_def] at before
  rw [BitVec.lt_def]
  have unequal : (account a).toNat ≠ (account b).toNat := fun same =>
    different (BitVec.eq_of_toNat_eq same)
  omega

theorem bytesOf_stripHexPrefix {text : Text} {bytes : Bytes} (read : arrayify text = some bytes) :
    bytesOf (stripHexPrefix text) = some bytes := by
  unfold arrayify at read
  split at read
  · exact read
  · cases read

/-- The joined signatures are the groups of the signers, one behind the other. -/
theorem joined_groups
    (signs : ∀ signer ∈ signers, signer.Signs evm hash typedData (account signer)) :
    ∃ groups : List (Uint8 × Bytes32 × Bytes32),
      arrayify (joinSignatures (signers.filterMap (Wallet.sign typedData))) =
          some (groups.flatMap signatureBytes) ∧
        groups.map (fun group => evm.ecrecover hash group.1 group.2.1 group.2.2) =
          signers.map account := by
  change ∃ groups : List (Uint8 × Bytes32 × Bytes32),
    bytesOf ((signers.filterMap (Wallet.sign typedData)).flatMap stripHexPrefix) = _ ∧ _
  induction signers with
  | nil => exact ⟨[], rfl, rfl⟩
  | cons signer signers ih =>
      obtain ⟨text, v, r, s, signed, read, recovered⟩ := (signs signer (by simp)).signs
      obtain ⟨groups, bytes, accounts⟩ := ih fun other later => signs other (by simp [later])
      refine ⟨(v, r, s) :: groups, ?_, ?_⟩
      · rw [List.filterMap_cons_some signed, List.flatMap_cons,
          bytesOf_append (bytesOf_stripHexPrefix read), bytes]
        rfl
      · rw [List.map_cons, List.map_cons, accounts, recovered]

theorem memoryWord_part (behind : Nat → UInt8) {bytes front word rest : Bytes} {offset : Nat}
    (parts : bytes = front ++ (word ++ rest)) (start : offset = front.length)
    (size : word.length = 32) : memoryWord behind bytes offset = wordOf word := by
  subst parts start
  unfold memoryWord
  congr 1
  apply List.ext_getElem
  · simp [size]
  · intro index _ second
    simp [memoryByte, List.getElem?_append_right, List.getElem?_append_left second,
      List.getElem?_eq_getElem second]

@[simp] theorem length_signatures (groups : List (Uint8 × Bytes32 × Bytes32)) :
    (groups.flatMap signatureBytes).length = 65 * groups.length := by
  induction groups with
  | nil => rfl
  | cons group groups ih =>
      simp only [List.flatMap_cons, List.length_append, ih, List.length_cons, signatureBytes,
        length_packWord]
      omega

theorem signatureSplit_group (front back : List (Uint8 × Bytes32 × Bytes32))
    (group : Uint8 × Bytes32 × Bytes32) :
    signatureSplit behind ((front ++ group :: back).flatMap signatureBytes) front.length =
      group := by
  obtain ⟨v, r, s⟩ := group
  have start := length_signatures front
  have groups : (front ++ (v, r, s) :: back).flatMap signatureBytes =
      front.flatMap signatureBytes ++ (packWord r ++ (packWord s ++ packWord v ++
        back.flatMap signatureBytes)) := by
    rw [List.flatMap_append, List.flatMap_cons, signatureBytes]
    simp only [List.append_assoc]
  have groups' : (front ++ (v, r, s) :: back).flatMap signatureBytes =
      front.flatMap signatureBytes ++ packWord r ++ (packWord s ++ (packWord v ++
        back.flatMap signatureBytes)) := by
    rw [groups]
    simp only [List.append_assoc]
  -- The word of `v` begins with the second byte of `s`.
  have groups'' : (front ++ (v, r, s) :: back).flatMap signatureBytes =
      front.flatMap signatureBytes ++ packWord r ++ (packWord s).take 1 ++
        ((packWord s).drop 1 ++ packWord v ++ back.flatMap signatureBytes) := by
    rw [groups']
    simp only [List.append_assoc]
    rw [← List.append_assoc ((packWord s).take 1), List.take_append_drop]
  have first := memoryWord_part behind groups start.symm (length_packWord r)
  have second := memoryWord_part behind groups'
    (show 0x41 * front.length + 0x20 = _ by simp only [List.length_append, start, length_packWord])
    (length_packWord s)
  have third := memoryWord_part behind groups''
    (show 0x41 * front.length + 0x21 = _ by
      simp only [List.length_append, start, length_packWord, List.length_take]
      omega)
    (by simp only [List.length_append, List.length_drop, length_packWord])
  unfold signatureSplit
  simp only [first, second, third, wordOf_packWord, wordOf_low ⟨1, rfl⟩ (by decide : 8 ≤ 256)]

/-- The loop accepts signers that go up and are owners. -/
theorem checkSignaturesLoop_ascending {_owners : Address → Address} {_signatures : Bytes}
    {accounts : List Address} {i : Nat} {lastOwner : Address}
    (recovered : ∀ index (inside : index < accounts.length),
      groupSigner evm behind hash _signatures (i + index) = accounts[index])
    (ascending : (lastOwner :: accounts).Pairwise (· < ·))
    (owners : ∀ owner ∈ accounts, _owners owner ≠ 0 ∧ owner ≠ SENTINEL_OWNERS) :
    checkSignaturesLoop evm behind _owners hash _signatures accounts.length i lastOwner =
      .ok () := by
  induction accounts generalizing i lastOwner with
  | nil => rfl
  | cons owner accounts ih =>
      have signer : groupSigner evm behind hash _signatures i = owner :=
        recovered 0 (Nat.succ_pos _)
      obtain ⟨below, ascending⟩ := List.pairwise_cons.mp ascending
      have above := below owner (by simp)
      have rest : checkSignaturesLoop evm behind _owners hash _signatures accounts.length (i + 1)
          owner = .ok () := by
        refine ih ?_ ascending fun other later => owners other (by simp [later])
        intro index inside
        have later := recovered (index + 1) (by simpa using inside)
        rw [Nat.add_assoc, Nat.add_comm 1]
        exact later
      change (do
        require (lastOwner < groupSigner evm behind hash _signatures i ∧
          _owners (groupSigner evm behind hash _signatures i) ≠ 0 ∧
          groupSigner evm behind hash _signatures i ≠ SENTINEL_OWNERS) _
        checkSignaturesLoop evm behind _owners hash _signatures accounts.length (i + 1)
          (groupSigner evm behind hash _signatures i)) = _
      rw [signer, bind_eq_ok]
      exact ⟨(), require_eq_ok.mpr ⟨above, owners owner (by simp)⟩, rest⟩

theorem groups_signer {groups : List (Uint8 × Bytes32 × Bytes32)} {accounts : List Address}
    (recovered :
      groups.map (fun group => evm.ecrecover hash group.1 group.2.1 group.2.2) = accounts)
    {index : Nat} (inside : index < accounts.length) :
    groupSigner evm behind hash (groups.flatMap signatureBytes) index = accounts[index] := by
  subst recovered
  rw [List.length_map] at inside
  have split : groups = groups.take index ++ groups[index] :: groups.drop (index + 1) := by simp
  have group : signatureSplit behind _ (groups.take index).length = _ :=
    signatureSplit_group (groups.take index) (groups.drop (index + 1)) groups[index]
  rw [← split, List.length_take_of_le (Nat.le_of_lt inside)] at group
  unfold groupSigner
  rw [group, List.getElem_map]

theorem signTypedData_sorted
    (signs : ∀ signer ∈ signers, signer.Signs evm hash typedData (account signer)) :
    signTypedData typedData signers =
      .ok ((signers.mergeSort precedes).filterMap (Wallet.sign typedData)) := by
  unfold signTypedData
  rw [if_neg]
  intro missing
  obtain ⟨signer, belongs, none_⟩ := List.any_eq_true.mp missing
  obtain ⟨text, v, r, s, signed, _⟩ := (signs signer belongs).signs
  rw [Wallet.sign, Option.isNone_iff_eq_none.mp none_] at signed
  cases signed

/-- As many signatures as the threshold asks for are enough, and more do no harm. -/
theorem checkSignatures_ascending {groups : List (Uint8 × Bytes32 × Bytes32)}
    {accounts : List Address} {_owners : Address → Address} {_threshold : Uint8}
    (recovered :
      groups.map (fun group => evm.ecrecover hash group.1 group.2.1 group.2.2) = accounts)
    (ascending : accounts.Pairwise (· < ·)) (proper : ∀ owner ∈ accounts, owner ≠ 0)
    (owners : ∀ owner ∈ accounts, _owners owner ≠ 0 ∧ owner ≠ SENTINEL_OWNERS)
    (positive : 1 ≤ _threshold.toNat) (enough : _threshold.toNat ≤ accounts.length) :
    checkSignatures evm behind _owners _threshold hash (groups.flatMap signatureBytes) =
      .ok () := by
  have inside : ∀ owner ∈ accounts.take _threshold.toNat, owner ∈ accounts :=
    fun _ => List.mem_of_mem_take
  have size : (accounts.take _threshold.toNat).length = _threshold.toNat :=
    List.length_take_of_le enough
  have groupCount : groups.length = accounts.length := by
    rw [← recovered, List.length_map]
  have loop : checkSignaturesLoop evm behind _owners hash (groups.flatMap signatureBytes)
      (accounts.take _threshold.toNat).length 0 0 = .ok () := by
    apply checkSignaturesLoop_ascending
    · intro index within
      rw [Nat.zero_add, List.getElem_take]
      exact groups_signer recovered (by omega)
    · refine List.pairwise_cons.mpr ⟨?_, ascending.sublist (List.take_sublist _ _)⟩
      intro owner belongs
      rw [BitVec.lt_def]
      have nonzero := proper owner (inside owner belongs)
      exact Nat.pos_of_ne_zero fun zero => nonzero (BitVec.eq_of_toNat_eq zero)
    · exact fun owner belongs => owners owner (inside owner belongs)
  rw [size] at loop
  simp only [checkSignatures, bind_eq_ok, require_eq_ok]
  refine ⟨(), ?_, (), ?_, loop⟩
  · rw [BitVec.lt_def]
    exact positive
  · rw [length_signatures, groupCount]
    omega

/-- The signatures of distinct owners of a wallet, in the order in which they sign. -/
theorem checkSignatures_owners {state : State} {wallet : Address} {visited : List Address}
    {groups : List (Uint8 × Bytes32 × Bytes32)}
    (recovered : groups.map (fun group => evm.ecrecover hash group.1 group.2.1 group.2.2) =
      (signers.mergeSort precedes).map account)
    (signs : ∀ signer ∈ signers, signer.Signs evm hash typedData (account signer))
    (distinct : (signers.map account).Nodup) (multi : IsMultiOwner state wallet)
    (formed : WellFormed state wallet visited)
    (owners : ∀ signer ∈ signers, isOwner state wallet (account signer))
    (enough : (getThreshold state wallet).toNat ≤ signers.length) :
    checkSignatures evm behind (state.wallets wallet).owners (state.wallets wallet).threshold hash
      (groups.flatMap signatureBytes) = .ok () := by
  have perm := List.mergeSort_perm signers precedes
  have threshold : getThreshold state wallet = (state.wallets wallet).threshold := by
    simp only [getThreshold, multi.2, if_false, OwnerManager.getThreshold]
  obtain ⟨positive, _⟩ := formed.threshold
  rw [threshold] at enough positive
  have member : ∀ owner ∈ (signers.mergeSort precedes).map account,
      isOwner state wallet owner := by
    intro owner belongs
    obtain ⟨signer, sorted, rfl⟩ := List.mem_map.mp belongs
    exact owners signer (perm.mem_iff.mp sorted)
  have size : ((signers.mergeSort precedes).map account).length = signers.length := by
    rw [List.length_map, perm.length_eq]
  have proper : ∀ owner ∈ (signers.mergeSort precedes).map account, owner ≠ 0 :=
    fun owner belongs =>
      (formed.proper owner ((formed.isOwner owner).mp (member owner belongs))).1
  have linked : ∀ owner ∈ (signers.mergeSort precedes).map account,
      (state.wallets wallet).owners owner ≠ 0 ∧ owner ≠ SENTINEL_OWNERS := by
    intro owner belongs
    have linked := member owner belongs
    simp only [isOwner, multi.2, if_false, OwnerManager.isOwner] at linked
    exact linked.symm
  exact checkSignatures_ascending recovered (sorted_ascending signs distinct) proper linked
    positive (size ▸ enough)

/-- The signature of the one owner. -/
theorem groupSigner_owner {owner : Address} {groups : List (Uint8 × Bytes32 × Bytes32)}
    (recovered : groups.map (fun group => evm.ecrecover hash group.1 group.2.1 group.2.2) =
      (signers.mergeSort precedes).map account) (only : signers.map account = [owner]) :
    groupSigner evm behind hash (groups.flatMap signatureBytes) 0 = owner := by
  have sorted : (signers.mergeSort precedes).map account = [owner] := by
    have same := (List.mergeSort_perm signers precedes).map account
    rw [only] at same
    exact List.perm_singleton.mp same
  rw [sorted] at recovered
  exact groups_signer recovered Nat.one_pos

end Signers

theorem joined_signatures_accepted (evm : Evm) (behind : Nat → UInt8) (state : State)
    (wallet : Address) (hash : Bytes32) (typedData : EIP712TypedData) (signers : List Wallet)
    (account : Wallet → Address)
    (signs : ∀ signer ∈ signers, signer.Signs evm hash typedData (account signer))
    (distinct : (signers.map account).Nodup) :
    ∃ signatures _signatures, signTypedData typedData signers = .ok signatures ∧
      arrayify (joinSignatures signatures) = some _signatures ∧
      (∀ visited, IsMultiOwner state wallet → WellFormed state wallet visited →
        (∀ signer ∈ signers, isOwner state wallet (account signer)) →
        (getThreshold state wallet).toNat ≤ signers.length →
        checkSignatures evm behind (state.wallets wallet).owners (state.wallets wallet).threshold
            hash _signatures = .ok () ∧
          (isActiveWallet state wallet = true →
            isValidSignatureSet evm behind state wallet hash _signatures =
              .ok IS_VALID_SIG_SUCCESS)) ∧
      (isSingleOwner state wallet → signers.map account = [(state.luws wallet).owner] →
        isActiveWallet state wallet = true →
          isValidSignatureSet evm behind state wallet hash _signatures =
            .ok IS_VALID_SIG_SUCCESS) := by
  have perm := List.mergeSort_perm signers precedes
  obtain ⟨groups, joined, recovered⟩ := joined_groups fun signer belongs =>
    signs signer (perm.mem_iff.mp belongs)
  refine ⟨_, _, signTypedData_sorted signs, joined, ?_, ?_⟩
  · intro visited multi formed owners enough
    have accepted : checkSignatures evm behind (state.wallets wallet).owners
        (state.wallets wallet).threshold hash (groups.flatMap signatureBytes) = .ok () :=
      checkSignatures_owners recovered signs distinct multi formed owners enough
    refine ⟨accepted, fun active => ?_⟩
    simp only [isValidSignatureSet, onlyActiveWallet, bind_eq_ok, require_eq_ok, active,
      multi.2, if_false]
    exact ⟨(), trivial, (), accepted, rfl⟩
  · intro single only active
    have signer : groupSigner evm behind hash (groups.flatMap signatureBytes) 0 =
        (state.luws wallet).owner := groupSigner_owner recovered only
    simp only [isValidSignatureSet, onlyActiveWallet, bind_eq_ok, require_eq_ok, active, single,
      if_true]
    exact ⟨(), trivial, (), signer, rfl⟩

section Signed

def signedData : EIP712TypedData := ⟨Record.empty, [], ⟨[], [], 0, 0⟩, Record.empty⟩

def constantWallet (address : Text) (signature : Uint8 × Bytes32 × Bytes32) : Wallet :=
  ⟨address, some fun _ _ _ => hexlify (signatureBytes signature)⟩

def lowerSigner : Wallet :=
  constantWallet "0x2B5AD5c4795c026514f8317c7a215E218DcCD6cF".toList lowerSignature

def upperSigner : Wallet :=
  constantWallet "0x7E5F4552091A69125d5DfCb7b8C2659029395Bdf".toList upperSignature

def signerAccount (signer : Wallet) : Address :=
  if signer.address = lowerSigner.address then lowerOwner else upperOwner

theorem constantWallet_signs {address : Text} {signature : Uint8 × Bytes32 × Bytes32}
    {account : Address} (spelled : address.map Char.toLower = hexlify (packWord account))
    (recovered : signingEvm.ecrecover signedHash signature.1 signature.2.1 signature.2.2 =
      account) :
    (constantWallet address signature).Signs signingEvm signedHash signedData account :=
  ⟨spelled, _, _, _, _, rfl, arrayify_hexlify _, recovered⟩

set_option maxRecDepth 8000 in
theorem signers_sign : ∀ signer ∈ [upperSigner, lowerSigner],
    signer.Signs signingEvm signedHash signedData (signerAccount signer) := by
  have upper : signerAccount upperSigner = upperOwner := if_neg (by decide)
  have lower : signerAccount lowerSigner = lowerOwner := if_pos rfl
  simp only [List.forall_mem_cons, upper, lower]
  refine ⟨constantWallet_signs (by decide) (by decide),
    constantWallet_signs (by decide) (by decide), ?_⟩
  simp

set_option maxRecDepth 8000 in
theorem joined_signatures_accepted_two :
    ∃ signatures _signatures, signTypedData signedData [upperSigner, lowerSigner] = .ok signatures ∧
      arrayify (joinSignatures signatures) = some _signatures ∧
      isValidSignatureSet signingEvm (fun _ => 0) (sampleRun upperOwner lowerOwner).now.state
        sampleWallet signedHash _signatures = .ok IS_VALID_SIG_SUCCESS := by
  have reach : Reach (entry sampleDeployment) NoRepeatedOwner State.blank
      (sampleRun upperOwner lowerOwner) := by
    refine Reach.enter _ (Reach.enter _ Reach.start trivial) ?_
    simp only [NoRepeatedOwner, sampleCall]
    decide
  have multi : IsMultiOwner (sampleRun upperOwner lowerOwner).now.state sampleWallet := by decide
  obtain ⟨members, owned⟩ := (reach_kept reach).owned sampleWallet multi
  obtain ⟨signatures, _signatures, signed, joined, several, _⟩ :=
    joined_signatures_accepted signingEvm (fun _ => 0) (sampleRun upperOwner lowerOwner).now.state
      sampleWallet signedHash signedData [upperSigner, lowerSigner] signerAccount signers_sign
      (by decide)
  refine ⟨signatures, _signatures, signed, joined, ?_⟩
  refine (several members multi (owned.wellFormed multi.2) ?_ (by decide)).2 (by decide)
  have upper : signerAccount upperSigner = upperOwner := if_neg (by decide)
  have lower : signerAccount lowerSigner = lowerOwner := if_pos rfl
  simp only [List.forall_mem_cons, upper, lower, isOwner, if_neg multi.2, OwnerManager.isOwner]
  exact ⟨by decide, by decide, by simp⟩

end Signed

end Startrail.Client
