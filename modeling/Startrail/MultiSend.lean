import Startrail.Client.TypedData
import Startrail.Library.Memory
import Startrail.Library.Reentrancy

/-!
Batches of transactions: `encodeMultiSendTransactions` of
`startrail-common-js/contracts/administrator/multi-send.ts` packs them into one byte string, and
the loop of `lib/MultiSend.sol` runs what it reads there, with a cursor that starts behind the
length word but is compared with the length.
-/

namespace Startrail.MultiSend

/-- What the loop asks of the EVM; the answer is whether it succeeded. -/
inductive Query where
  | call (target : Address) (value : Uint256) (calldata : Bytes)
  | delegatecall (target : Address) (calldata : Bytes)
deriving DecidableEq

open Client (stripHexPrefix)

variable {S : Type}

/-- The queries one after the other, up to the first that fails, which reverts them all. -/
def inOrder : List Query → S → Outcome Revert S Query Bool S
  | [], state => .done state
  | query :: rest, state => .call state query fun later success =>
      if success then inOrder rest later else .revert .empty

section Contract

def GUARD_VALUE (evm : Evm) : Bytes32 := evm.keccak256 (ascii "multisend.guard.bytes32")

def mload (memory : Memory 256) (offset : Uint256) : Uint256 := wordOf (memory.read offset 32)

-- The two cases of the switch. Without one `success` stays 0.
def operate (memory : Memory 256) (operation to_ value data dataLength : Uint256) : Option Query :=
  if operation = 0 then
    some (.call (to_.setWidth 160) value (memory.read data dataLength.toNat))
  else if operation = 1 then
    some (.delegatecall (to_.setWidth 160) (memory.read data dataLength.toNat))
  else none

def entryAt (memory : Memory 256) (transactions i : Uint256) : Option Query :=
  let operation := mload memory (transactions + i) >>> (0xf8 : Nat)
  let to_ := mload memory (transactions + (i + 0x01)) >>> (0x60 : Nat)
  let value := mload memory (transactions + (i + 0x15))
  let dataLength := mload memory (transactions + (i + 0x35))
  let data := transactions + (i + 0x55)
  operate memory operation to_ value data dataLength

def nextEntry (memory : Memory 256) (transactions i : Uint256) : Uint256 :=
  let dataLength := mload memory (transactions + (i + 0x35))
  i + (0x55 + dataLength)

-- The calls return nothing into memory, so that it stays as it is.
def attempt (state : S) (next : S → Outcome Revert S Query Bool S) :
    Option Query → Outcome Revert S Query Bool S
  | none => .revert .empty
  | some query => do
      let (later, success) ← Outcome.external state query
      if success then next later else .revert .empty

def sendLoop (memory : Memory 256) (transactions length : Uint256) :
    Nat → Uint256 → S → Outcome Revert S Query Bool S
  | 0, _, _ => .revert (.reason "out of gas")
  | fuel + 1, i, state =>
      if i < length then
        let i' := nextEntry memory transactions i
        attempt state (sendLoop memory transactions length fuel i') (entryAt memory transactions i)
      else .done state

/-- `guard` is the first storage slot of the contract in whose context the code runs. -/
def multiSend (evm : Evm) (guard : S → Bytes32) (memory : Memory 256) (transactions : Uint256)
    (fuel : Nat) (state : S) : Outcome Revert S Query Bool S := do
  require (guard state ≠ GUARD_VALUE evm) "MultiSend should only be called via delegatecall"
  sendLoop memory transactions (mload memory transactions) fuel 0x20 state

end Contract

section Client

inductive Operation where
  | CALL
  | DELEGATECALL

def Operation.code : Operation → Uint8
  | .CALL => 0
  | .DELEGATECALL => 1

structure MultiSendTxRequest where
  operation : Operation
  to_ : Text
  data : Text

def encodeMultiSendTransaction (request : MultiSendTxRequest) : Option Text := do
  let dataBuffer := leadingBytes (stripHexPrefix request.data)
  let to_ ← arrayify request.to_
  some (hexlify (packWord request.operation.code ++ (to_ ++ (packWord (0 : Uint256) ++
    (packWord (BitVec.ofNat 256 dataBuffer.length) ++ dataBuffer)))))

def encodeMultiSendTransactions (transactions : List MultiSendTxRequest) : Option Text := do
  let encoded ← transactions.mapM encodeMultiSendTransaction
  some ("0x".toList ++ encoded.flatMap stripHexPrefix)

end Client

section Entries

variable {memory : Memory 256} {transactions offset i : Uint256} {front rest : Bytes}
  {query : Query}

/-- The query that a request stands for. -/
inductive Requests : MultiSendTxRequest → Query → Prop
  | call {to_ data : Text} {target : Address} {calldata : Bytes} :
      arrayify to_ = some (packWord target) → bytesOf (stripHexPrefix data) = some calldata →
        Requests ⟨.CALL, to_, data⟩ (.call target 0 calldata)
  | delegatecall {to_ data : Text} {target : Address} {calldata : Bytes} :
      arrayify to_ = some (packWord target) → bytesOf (stripHexPrefix data) = some calldata →
        Requests ⟨.DELEGATECALL, to_, data⟩ (.delegatecall target calldata)

def entry (operation : Uint8) (target : Address) (value : Uint256) (calldata : Bytes) : Bytes :=
  packWord operation ++ (packWord target ++ (packWord value ++
    (packWord (BitVec.ofNat 256 calldata.length) ++ calldata)))

def Query.entry : Query → Bytes
  | .call target value calldata => MultiSend.entry 0 target value calldata
  | .delegatecall target calldata => MultiSend.entry 1 target 0 calldata

theorem Requests.encoded {request : MultiSendTxRequest} (requests : Requests request query) :
    encodeMultiSendTransaction request = some (hexlify query.entry) := by
  cases requests with
  | call target data =>
      unfold encodeMultiSendTransaction
      rw [target, leadingBytes_eq data]
      rfl
  | delegatecall target data =>
      unfold encodeMultiSendTransaction
      rw [target, leadingBytes_eq data]
      rfl

theorem stripped_entries (queries : List Query) :
    (queries.map fun query => hexlify query.entry).flatMap stripHexPrefix =
      hexText (queries.flatMap Query.entry) := by
  induction queries with
  | nil => rfl
  | cons query queries ih =>
      rw [List.map_cons, List.flatMap_cons, ih, List.flatMap_cons, hexText_append]
      rfl

theorem encode_requests {requests : List MultiSendTxRequest} {queries : List Query}
    (meant : List.Forall₂ Requests requests queries) :
    encodeMultiSendTransactions requests = some (hexlify (queries.flatMap Query.entry)) := by
  have each : requests.mapM encodeMultiSendTransaction =
      some (queries.map fun query => hexlify query.entry) := by
    induction meant with
    | nil => rfl
    | cons first _ ih =>
        rw [List.mapM_cons, first.encoded, ih]
        rfl
  unfold encodeMultiSendTransactions
  rw [each]
  exact congrArg (fun digits => some ('0' :: 'x' :: digits)) (stripped_entries queries)

/-- The leading bytes of the word at an offset. -/
theorem mload_high (holds : memory.Holds offset (front ++ rest)) (narrow : front.length ≤ 32)
    (room : 32 ≤ (front ++ rest).length) :
    mload memory offset >>> (256 - 8 * front.length) = BitVec.ofNat 256 (decodeBE front) := by
  obtain ⟨tail, size, word⟩ : ∃ tail, tail.length = 32 - front.length ∧
      memory.read offset 32 = front ++ tail := by
    refine ⟨rest.take (32 - front.length), ?_, ?_⟩
    · rw [List.length_append] at room
      rw [List.length_take]
      omega
    · rw [holds.take room, List.take_append, List.take_of_length_le narrow]
  have whole := decodeBE_lt (front ++ tail)
  have low := decodeBE_lt tail
  have high := decodeBE_lt front
  have total : (front ++ tail).length = 32 := by
    rw [List.length_append]
    omega
  have shift : 2 ^ (256 - 8 * front.length) = 256 ^ tail.length := by
    have base : 256 ^ tail.length = (2 ^ 8) ^ tail.length := rfl
    rw [base, ← pow_mul, size, Nat.mul_sub]
  have bound : decodeBE front < 2 ^ 256 :=
    Nat.lt_of_lt_of_le high (Nat.pow_le_pow_right (by decide : 0 < 256) narrow)
  rw [total, show (256 : Nat) ^ 32 = 2 ^ 256 from rfl] at whole
  apply BitVec.eq_of_toNat_eq
  rw [mload, word, wordOf, BitVec.toNat_ushiftRight, BitVec.toNat_ofNat, BitVec.toNat_ofNat,
    Nat.mod_eq_of_lt whole, Nat.mod_eq_of_lt bound, Nat.shiftRight_eq_div_pow, shift,
    decodeBE_append, Nat.mul_comm, Nat.mul_add_div (Nat.lt_of_le_of_lt (Nat.zero_le _) low),
    Nat.div_eq_of_lt low, Nat.add_zero]

theorem mload_word {word : Uint256} (holds : memory.Holds offset (packWord word ++ rest)) :
    mload memory offset = word := by
  have held := (Memory.holds_append.mp holds).1
  unfold Memory.Holds at held
  rw [length_packWord] at held
  rw [mload, held, wordOf_packWord]

theorem decodeBE_packWord {width : Nat} (whole : 8 ∣ width) (word : BitVec width) :
    BitVec.ofNat 256 (decodeBE (packWord word)) = word.setWidth 256 := by
  rw [packWord, decodeBE_encodeBE, Nat.mod_eq_of_lt (toNat_lt_pow whole word), BitVec.ofNat_toNat]

/-- What the loop reads of an entry. -/
structure Fields (memory : Memory 256) (transactions i : Uint256) (operation : Uint8)
    (target : Address) (value : Uint256) (calldata : Bytes) : Prop where
  operation : mload memory (transactions + i) >>> (0xf8 : Nat) = operation.setWidth 256
  target : (mload memory (transactions + (i + 0x01)) >>> (0x60 : Nat)).setWidth 160 = target
  value : mload memory (transactions + (i + 0x15)) = value
  dataLength : mload memory (transactions + (i + 0x35)) = BitVec.ofNat 256 calldata.length
  data : memory.Holds (transactions + (i + 0x55)) calldata

theorem entry_fields {operation : Uint8} {target : Address} {value : Uint256} {calldata : Bytes}
    (holds : memory.Holds (transactions + i) (entry operation target value calldata ++ rest)) :
    Fields memory transactions i operation target value calldata := by
  unfold entry at holds
  simp only [List.append_assoc] at holds
  have atTarget := holds.behind 0x01 rfl
  have atValue := atTarget.behind 0x14 rfl
  have atLength := atValue.behind 0x20 rfl
  have atData := atLength.behind 0x20 rfl
  simp only [BitVec.add_assoc] at atTarget atValue atLength atData
  change memory.Holds (transactions + (i + 0x15)) _ at atValue
  change memory.Holds (transactions + (i + 0x35)) _ at atLength
  change memory.Holds (transactions + (i + 0x55)) _ at atData
  refine ⟨?_, ?_, mload_word atValue, mload_word atLength, (Memory.holds_append.mp atData).1⟩
  · have high := mload_high holds (by simp) (by simp; omega)
    rw [decodeBE_packWord ⟨1, rfl⟩, length_packWord] at high
    exact high
  · have high := mload_high atTarget (by simp) (by simp; omega)
    rw [decodeBE_packWord ⟨20, rfl⟩, length_packWord] at high
    have shift : 256 - 8 * (160 / 8) = 0x60 := rfl
    rw [shift] at high
    rw [high, BitVec.setWidth_setWidth_of_le _ (by decide), BitVec.setWidth_eq]

def Query.calldata : Query → Bytes
  | .call _ _ calldata => calldata
  | .delegatecall _ calldata => calldata

theorem length_entry (query : Query) : query.entry.length = 0x55 + query.calldata.length := by
  cases query with
  | call target value calldata => simp [Query.entry, MultiSend.entry, Query.calldata]; omega
  | delegatecall target calldata => simp [Query.entry, MultiSend.entry, Query.calldata]; omega

/-- The case of the switch that an entry is for. -/
theorem entryAt_eq (holds : memory.Holds (transactions + i) (query.entry ++ rest))
    (short : query.calldata.length < 2 ^ 256) :
    entryAt memory transactions i = some query := by
  have size := Nat.mod_eq_of_lt short
  cases query with
  | call target value calldata =>
      obtain ⟨operation, target_, value_, dataLength, data⟩ := entry_fields holds
      simp only [Query.calldata] at size
      rw [entryAt, operation, value_, dataLength, operate, if_pos (by rfl), target_,
        BitVec.toNat_ofNat, size, data]
  | delegatecall target calldata =>
      obtain ⟨operation, target_, _, dataLength, data⟩ := entry_fields holds
      simp only [Query.calldata] at size
      rw [entryAt, operation, dataLength, operate, if_neg (by decide), if_pos (by rfl), target_,
        BitVec.toNat_ofNat, size, data]

theorem nextEntry_eq (holds : memory.Holds (transactions + i) (query.entry ++ rest)) :
    nextEntry memory transactions i = i + BitVec.ofNat 256 query.entry.length := by
  have dataLength : mload memory (transactions + (i + 0x35)) =
      BitVec.ofNat 256 query.calldata.length := by
    cases query with
    | call target value calldata => exact (entry_fields holds).dataLength
    | delegatecall target calldata => exact (entry_fields holds).dataLength
  rw [nextEntry, dataLength, length_entry, BitVec.ofNat_add]
  rfl

end Entries

section Execution

variable {memory : Memory 256} {transactions : Uint256} {bytes front : Bytes}
  {queries : List Query} {guard : S → Bytes32}

/-- A byte string where the decoded argument points. -/
structure Argument (memory : Memory 256) (transactions : Uint256) (bytes : Bytes) : Prop where
  length : mload memory transactions = BitVec.ofNat 256 bytes.length
  content : memory.Holds (transactions + 0x20) bytes
  inside : transactions.toNat + 0x20 + bytes.length < 2 ^ 256

theorem Argument.cursor (argument : Argument memory transactions bytes) {place : Nat}
    (bound : place ≤ bytes.length) :
    (BitVec.ofNat 256 (0x20 + place)).toNat = 0x20 + place := by
  have inside := argument.inside
  rw [BitVec.toNat_ofNat]
  exact Nat.mod_eq_of_lt (by omega)

theorem Argument.size (argument : Argument memory transactions bytes) :
    (BitVec.ofNat 256 bytes.length).toNat = bytes.length := by
  have inside := argument.inside
  rw [BitVec.toNat_ofNat]
  exact Nat.mod_eq_of_lt (by omega)

/-- Where the cursor stands, the queries of the entries from there on are made. -/
theorem sendLoop_eq (argument : Argument memory transactions bytes)
    (whole : bytes = front ++ queries.flatMap Query.entry) {fuel : Nat}
    (enough : queries.length < fuel) (state : S) :
    sendLoop memory transactions (BitVec.ofNat 256 bytes.length) fuel
        (BitVec.ofNat 256 (0x20 + front.length)) state =
      inOrder queries state := by
  induction queries generalizing front fuel state with
  | nil =>
      obtain ⟨fuel, rfl⟩ := Nat.exists_eq_succ_of_ne_zero (Nat.ne_of_gt enough)
      rw [List.flatMap_nil, List.append_nil] at whole
      have ended : ¬BitVec.ofNat 256 (0x20 + front.length) < BitVec.ofNat 256 bytes.length := by
        rw [BitVec.lt_def, argument.size, argument.cursor (Nat.le_of_eq (congrArg _ whole).symm),
          whole]
        omega
      rw [sendLoop, if_neg ended]
      rfl
  | cons query queries ih =>
      obtain ⟨fuel, rfl⟩ := Nat.exists_eq_succ_of_ne_zero (Nat.ne_of_gt (Nat.zero_lt_of_lt enough))
      have holds : memory.Holds (transactions + BitVec.ofNat 256 (0x20 + front.length))
          (query.entry ++ queries.flatMap Query.entry) := by
        have content := argument.content
        rw [whole] at content
        rw [BitVec.ofNat_add, ← BitVec.add_assoc]
        exact (Memory.holds_append.mp content).2
      rw [List.flatMap_cons, ← List.append_assoc] at whole
      have size : front.length + query.entry.length ≤ bytes.length := by
        rw [whole, List.length_append, List.length_append]
        exact Nat.le_add_right _ _
      have long := length_entry query
      have inside := argument.inside
      have running : BitVec.ofNat 256 (0x20 + front.length) < BitVec.ofNat 256 bytes.length := by
        rw [BitVec.lt_def, argument.size, argument.cursor (by omega)]
        omega
      have next : BitVec.ofNat 256 (0x20 + front.length) + BitVec.ofNat 256 query.entry.length =
          BitVec.ofNat 256 (0x20 + (front ++ query.entry).length) := by
        rw [← BitVec.ofNat_add, List.length_append, Nat.add_assoc]
      rw [sendLoop, if_pos running, entryAt_eq holds (by omega), nextEntry_eq holds, next]
      change Outcome.call state query _ = Outcome.call state query _
      congr 1
      funext later success
      cases success with
      | false => rfl
      | true => exact ih whole (Nat.lt_of_succ_lt_succ enough) later

/-- The loop makes the calls that were encoded, and no others. -/
theorem multiSend_encoded (evm : Evm) (guard : S → Bytes32) (requests : List MultiSendTxRequest)
    (queries : List Query) (meant : List.Forall₂ Requests requests queries) :
    ∃ bytes, (encodeMultiSendTransactions requests).bind arrayify = some bytes ∧
      ∀ memory transactions, Argument memory transactions bytes →
        ∀ state, guard state ≠ GUARD_VALUE evm → ∀ fuel, requests.length < fuel →
          multiSend evm guard memory transactions fuel state = inOrder queries state := by
  refine ⟨queries.flatMap Query.entry, ?_, ?_⟩
  · rw [encode_requests meant]
    exact arrayify_hexlify _
  · intro memory transactions argument state delegated fuel enough
    have allowed : require (guard state ≠ GUARD_VALUE evm)
        "MultiSend should only be called via delegatecall" = .ok () := require_eq_ok.mpr delegated
    have whole : queries.flatMap Query.entry = [] ++ queries.flatMap Query.entry := rfl
    rw [meant.length_eq] at enough
    rw [multiSend, allowed, argument.length]
    exact sendLoop_eq argument whole enough state

end Execution

section Samples

def sampleEvm : Evm := Evm.ofTables [(ascii "multisend.guard.bytes32",
  0x89232e6dba5a1949e493f5034fcd46db3c1ee01386363067973d7739bc50b63e)] []

def sampleRequests : List MultiSendTxRequest :=
  [⟨.CALL, "0x0000000000000000000000000000000000000B0b".toList, "0x01fF".toList⟩,
    ⟨.DELEGATECALL, "0x00000000000000000000000000000000000a11ce".toList, []⟩]

def sampleQueries : List Query := [.call 0xb0b 0 [0x01, 0xff], .delegatecall 0xa11ce []]

def sampleBytes : Bytes := sampleQueries.flatMap Query.entry

def sampleMemory : Memory 256 := fun offset =>
  (List.replicate 0x80 0 ++ packWord (BitVec.ofNat 256 sampleBytes.length) ++ sampleBytes).getD
    offset.toNat 0

theorem sampleRequests_meant : List.Forall₂ Requests sampleRequests sampleQueries :=
  .cons (.call (by decide +kernel) (by decide +kernel))
    (.cons (.delegatecall (by decide +kernel) (by decide +kernel)) .nil)

theorem sampleMemory_argument : Argument sampleMemory 0x80 sampleBytes :=
  ⟨by decide +kernel, by unfold Memory.Holds; decide +kernel, by decide +kernel⟩

theorem multiSend_encoded_two : multiSend sampleEvm (fun _ : Unit => 0) sampleMemory 0x80 3 () =
    inOrder sampleQueries () := by
  obtain ⟨bytes, encoded, runs⟩ :=
    multiSend_encoded sampleEvm (fun _ : Unit => 0) _ _ sampleRequests_meant
  have read : (encodeMultiSendTransactions sampleRequests).bind arrayify = some sampleBytes := by
    decide +kernel
  obtain rfl := Option.some.inj (read.symm.trans encoded)
  exact runs sampleMemory 0x80 sampleMemory_argument () (by decide +kernel) 3 (by decide)

end Samples

end Startrail.MultiSend
