import Mathlib.Logic.Function.Basic
import Startrail.Library.Bytes

/-!
What the contracts take from the EVM and from Solidity: fixed-width words and
their packed encoding, the hash opcode and the signature precompile, the message
of a call, reverts, and the answers of static calls to other contracts.
-/

namespace Startrail

abbrev Address := BitVec 160
abbrev Uint8 := BitVec 8
abbrev Uint16 := BitVec 16
abbrev Uint128 := BitVec 128
abbrev Uint256 := BitVec 256
abbrev Bytes4 := BitVec 32
abbrev Bytes32 := BitVec 256

def packWord {width : Nat} (word : BitVec width) : Bytes := encodeBE (width / 8) word.toNat

def packBool (flag : Bool) : Bytes := [if flag then 1 else 0]

def ascii (text : String) : Bytes := text.toList.map fun c => UInt8.ofNat c.toNat

def encodeAddress (account : Address) : Bytes := encodeBE 32 account.toNat

def wordOf (bytes : Bytes) : Bytes32 := BitVec.ofNat 256 (decodeBE bytes)

def addressOf (bytes : Bytes) : Address := BitVec.ofNat 160 (decodeBE bytes)

@[simp] theorem length_packWord {width : Nat} (word : BitVec width) :
    (packWord word).length = width / 8 := by
  simp [packWord]

@[simp] theorem length_packBool (flag : Bool) : (packBool flag).length = 1 := rfl

theorem packBool_inj {left right : Bool} : packBool left = packBool right ↔ left = right := by
  cases left <;> cases right <;> simp [packBool]

theorem toNat_lt_pow {width : Nat} (whole : 8 ∣ width) (word : BitVec width) :
    word.toNat < 256 ^ (width / 8) := by
  have bound := word.isLt
  have base : 256 ^ (width / 8) = 2 ^ width := by
    rw [show 256 = 2 ^ 8 from rfl, ← pow_mul, Nat.mul_div_cancel' whole]
  rwa [base]

theorem packWord_inj {width : Nat} (whole : 8 ∣ width) {left right : BitVec width} :
    packWord left = packWord right ↔ left = right := by
  constructor
  · intro same
    exact BitVec.eq_of_toNat_eq
      (encodeBE_inj (toNat_lt_pow whole left) (toNat_lt_pow whole right) same)
  · rintro rfl
    rfl

@[simp] theorem addressOf_packWord (account : Address) :
    addressOf (packWord account) = account := by
  rw [addressOf, packWord, decodeBE_encodeBE, Nat.mod_eq_of_lt (toNat_lt_pow ⟨20, rfl⟩ account)]
  simp

@[simp] theorem wordOf_packWord (word : Bytes32) : wordOf (packWord word) = word := by
  rw [wordOf, packWord, decodeBE_encodeBE, Nat.mod_eq_of_lt (toNat_lt_pow ⟨32, rfl⟩ word)]
  simp

/-- The hash opcode and the signature precompile. A recovered signer is never the zero
address: zero is what the precompile answers for an invalid signature. -/
structure Evm where
  keccak256 : Bytes → Bytes32
  recover : Bytes32 → Uint8 → Bytes32 → Bytes32 → Option { signer : Address // signer ≠ 0 }
  chainid : Uint256

def Evm.ecrecover (evm : Evm) (hash : Bytes32) (v : Uint8) (r s : Bytes32) : Address :=
  match evm.recover hash v r s with
  | some signer => signer.val
  | none => 0

def Evm.Signed (evm : Evm) (hash : Bytes32) (v : Uint8) (r s : Bytes32) (account : Address) :
    Prop :=
  ∃ signer, evm.recover hash v r s = some signer ∧ signer.val = account

theorem Evm.signed_iff (evm : Evm) (hash : Bytes32) (v : Uint8) (r s : Bytes32)
    (account : Address) :
    evm.Signed hash v r s account ↔ evm.ecrecover hash v r s = account ∧ account ≠ 0 := by
  unfold Evm.Signed Evm.ecrecover
  cases evm.recover hash v r s with
  | none =>
      simp only [reduceCtorEq, false_and, exists_false, false_iff, not_and, not_not]
      exact Eq.symm
  | some signer =>
      simp only [Option.some.injEq, exists_eq_left']
      constructor
      · rintro rfl
        exact ⟨rfl, signer.property⟩
      · exact And.left

def Evm.CollisionFree (evm : Evm) (inputs : List Bytes) : Prop :=
  ∀ left ∈ inputs, ∀ right ∈ inputs, evm.keccak256 left = evm.keccak256 right → left = right

instance (evm : Evm) (inputs : List Bytes) : Decidable (evm.CollisionFree inputs) :=
  inferInstanceAs (Decidable (∀ left ∈ inputs, ∀ right ∈ inputs, _ → _))

/-- The hashes and signatures of one example, all other inputs being unknown. -/
def Evm.ofTables (hashes : List (Bytes × Bytes32))
    (signers : List ((Bytes32 × Uint8 × Bytes32 × Bytes32) × { signer : Address // signer ≠ 0 })) :
    Evm where
  keccak256 bytes := (hashes.lookup bytes).getD 0
  recover hash v r s := signers.lookup (hash, v, r, s)
  chainid := 1

structure Msg where
  sender : Address
  data : Bytes
deriving DecidableEq

inductive Revert where
  | reason (text : String)
  | custom (name : String)
  | panic (code : Nat)
  | bubbled (returndata : Bytes)
  | empty
deriving DecidableEq, Repr

abbrev Result := Except Revert

def require (condition : Prop) [Decidable condition] (text : String) : Result Unit :=
  if condition then .ok () else .error (.reason text)

def requireCustom (condition : Prop) [Decidable condition] (name : String) : Result Unit :=
  if condition then .ok () else .error (.custom name)

-- Panic 0x11 is checked arithmetic that overflows, 0x32 an index out of bounds.
def requirePanic (condition : Prop) [Decidable condition] (code : Nat) : Result Unit :=
  if condition then .ok () else .error (.panic code)

@[simp] theorem bind_eq_ok {α β : Type} {first : Result α} {next : α → Result β} {value : β} :
    (first >>= next) = .ok value ↔ ∃ middle, first = .ok middle ∧ next middle = .ok value := by
  cases first with
  | error reason => simp [bind, Except.bind]
  | ok middle => simp [bind, Except.bind]

@[simp] theorem pure_eq_ok {α : Type} {value result : α} :
    (pure value : Result α) = .ok result ↔ value = result := by
  simp [pure, Except.pure]

@[simp] theorem require_eq_ok {condition : Prop} [Decidable condition] {text : String} {u : Unit} :
    require condition text = .ok u ↔ condition := by
  unfold require
  split <;> simp_all

@[simp] theorem requireCustom_eq_ok {condition : Prop} [Decidable condition] {name : String}
    {u : Unit} : requireCustom condition name = .ok u ↔ condition := by
  unfold requireCustom
  split <;> simp_all

@[simp] theorem requirePanic_eq_ok {condition : Prop} [Decidable condition] {code : Nat}
    {u : Unit} :
    requirePanic condition code = .ok u ↔ condition := by
  unfold requirePanic
  split <;> simp_all

structure Reply where
  success : Bool
  returndata : Bytes

-- The bytes of the string are run through, not all the bytes that there are.
instance (priority := high) (bytes : Bytes) (holds : UInt8 → Prop) [DecidablePred holds] :
    Decidable (∀ byte ∈ bytes, holds byte) :=
  List.decidableBAll holds bytes

def decodeBytes4 (returndata : Bytes) : Option Bytes4 :=
  if 32 ≤ returndata.length ∧ ∀ byte ∈ (returndata.take 32).drop 4, byte = 0 then
    some (BitVec.ofNat 32 (decodeBE (returndata.take 4)))
  else none

def update₂ {K₁ K₂ V : Type} [DecidableEq K₁] [DecidableEq K₂] (mapping : K₁ → K₂ → V)
    (key₁ : K₁) (key₂ : K₂) (value : V) : K₁ → K₂ → V :=
  Function.update mapping key₁ (Function.update (mapping key₁) key₂ value)

theorem update₂_apply {K₁ K₂ V : Type} [DecidableEq K₁] [DecidableEq K₂] (mapping : K₁ → K₂ → V)
    (key₁ : K₁) (key₂ : K₂) (value : V) (at₁ : K₁) (at₂ : K₂) :
    update₂ mapping key₁ key₂ value at₁ at₂ =
      if at₁ = key₁ ∧ at₂ = key₂ then value else mapping at₁ at₂ := by
  unfold update₂
  by_cases first : at₁ = key₁
  · subst at₁
    by_cases second : at₂ = key₂ <;> simp [second]
  · simp [first]

-- A memory pointer reads a byte string and then whatever memory holds behind it.
def memoryByte (behind : Nat → UInt8) (bytes : Bytes) (offset : Nat) : UInt8 :=
  bytes.getD offset (behind (offset - bytes.length))

def memoryWord (behind : Nat → UInt8) (bytes : Bytes) (offset : Nat) : Bytes32 :=
  wordOf ((List.range 32).map fun index => memoryByte behind bytes (offset + index))

theorem memoryWord_last (behind : Nat → UInt8) {bytes : Bytes} {offset : Nat}
    (ends : bytes.length = offset + 32) :
    memoryWord behind bytes offset = wordOf (lastBytes 32 bytes) := by
  have start : bytes.length - 32 = offset := by omega
  unfold memoryWord lastBytes
  rw [start]
  congr 1
  apply List.ext_getElem
  · simp [ends]
  · intro index first _
    have inside : offset + index < bytes.length := by
      rw [List.length_map, List.length_range] at first
      omega
    simp [memoryByte, inside]

/-- The lower bytes of a word. -/
theorem wordOf_low {width : Nat} (whole : 8 ∣ width) (narrow : width ≤ 256) (front : Bytes)
    (word : BitVec width) : (wordOf (front ++ packWord word)).setWidth width = word := by
  have split : (2 : Nat) ^ 256 = 2 ^ width * 2 ^ (256 - width) := by
    rw [← pow_add, Nat.add_sub_cancel' narrow]
  have base : 256 ^ (width / 8) = 2 ^ width := by
    rw [show 256 = 2 ^ 8 from rfl, ← pow_mul, Nat.mul_div_cancel' whole]
  apply BitVec.eq_of_toNat_eq
  rw [wordOf, decodeBE_append, length_packWord, packWord, decodeBE_encodeBE,
    Nat.mod_eq_of_lt (toNat_lt_pow whole word), BitVec.toNat_setWidth, BitVec.toNat_ofNat,
    split, Nat.mod_mul_right_mod, base, Nat.mul_add_mod_self_right, Nat.mod_eq_of_lt word.isLt]

/-- The address in the lower 20 bytes of a word. -/
theorem wordOf_address (front : Bytes) (account : Address) :
    (wordOf (front ++ packWord account)).setWidth 160 = account :=
  wordOf_low ⟨20, rfl⟩ (by decide) front account

end Startrail
