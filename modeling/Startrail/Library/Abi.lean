import Mathlib.Data.List.Basic
import Mathlib.Tactic.Ring
import Startrail.Library.Bytes

/-!
The ABI encoding of arguments of atomic types, byte strings and dynamic arrays of atomic
types. An atomic value is the word that encodes it. The head of the encoding has one
word for each argument, which is the argument itself or where its tail begins. The data
of a typed struct has one word for each member too, but no tails: it hashes them.
-/

namespace Startrail.Abi

/-- The sizes are one byte up to 32 bytes, counted from zero. -/
inductive AtomicType where
  | uint (size : Fin 32)
  | int (size : Fin 32)
  | address
  | bool
  | bytesN (size : Fin 32)
deriving DecidableEq

inductive AbiType where
  | atomic (type : AtomicType)
  | string
  | bytes
  | array (type : AtomicType)
deriving DecidableEq

/-- The word encodes a value of the type. -/
def AtomicType.Holds : AtomicType → BitVec 256 → Prop
  | .uint size, word => word.toNat < 256 ^ (size.val + 1)
  | .int size, word => (word.setWidth (8 * (size.val + 1))).signExtend 256 = word
  | .address, word => word.toNat < 256 ^ 20
  | .bool, word => word.toNat < 2
  | .bytesN size, word => word.toNat % 256 ^ (31 - size.val) = 0

instance (type : AtomicType) (word : BitVec 256) : Decidable (type.Holds word) :=
  match type with
  | .uint _ => inferInstanceAs (Decidable (_ < _))
  | .int _ => inferInstanceAs (Decidable (_ = _))
  | .address => inferInstanceAs (Decidable (_ < _))
  | .bool => inferInstanceAs (Decidable (_ < _))
  | .bytesN _ => inferInstanceAs (Decidable (_ = _))

def AtomicType.Value (type : AtomicType) : Type := { word : BitVec 256 // type.Holds word }

def AbiType.Value : AbiType → Type
  | .atomic type => type.Value
  | .string => Bytes
  | .bytes => Bytes
  | .array type => List type.Value

abbrev Argument := (type : AbiType) × type.Value

def wordBytes (word : BitVec 256) : Bytes := encodeBE 32 word.toNat

def padding (size : Nat) : Nat := (32 - size % 32) % 32

def encodeBytes (bytes : Bytes) : Bytes :=
  encodeBE 32 bytes.length ++ (bytes ++ List.replicate (padding bytes.length) 0)

def encodeWords {type : AtomicType} (words : List type.Value) : Bytes :=
  words.flatMap fun word => wordBytes word.val

def tail : (type : AbiType) → type.Value → Bytes
  | .atomic _, _ => []
  | .string, bytes => encodeBytes bytes
  | .bytes, bytes => encodeBytes bytes
  | .array _, words => encodeBE 32 words.length ++ encodeWords words

def head (offset : Nat) : (type : AbiType) → type.Value → Bytes
  | .atomic _, word => wordBytes word.val
  | _, _ => encodeBE 32 offset

def heads : List Argument → Nat → Bytes
  | [], _ => []
  | ⟨type, value⟩ :: arguments, offset =>
      head offset type value ++ heads arguments (offset + (tail type value).length)

def tails (arguments : List Argument) : Bytes :=
  arguments.flatMap fun argument => tail argument.1 argument.2

def encode (arguments : List Argument) : Bytes :=
  heads arguments (32 * arguments.length) ++ tails arguments

/-- Every offset and every length of the encoding is a word. -/
def Encodable (arguments : List Argument) : Prop :=
  32 * arguments.length + (tails arguments).length < 2 ^ 256

instance (arguments : List Argument) : Decidable (Encodable arguments) :=
  inferInstanceAs (Decidable (_ < _))

section Struct

variable (hash : Bytes → BitVec 256)

def encodeMember : (type : AbiType) → type.Value → Bytes
  | .atomic _, word => wordBytes word.val
  | .string, bytes => wordBytes (hash bytes)
  | .bytes, bytes => wordBytes (hash bytes)
  | .array _, words => wordBytes (hash (encodeWords words))

def encodeMembers (members : List Argument) : Bytes :=
  members.flatMap fun member => encodeMember hash member.1 member.2

end Struct

def wordAt (data : Bytes) (position : Nat) : Option Nat :=
  if position + 32 ≤ data.length then some (decodeBE ((data.drop position).take 32)) else none

def bytesAt (data : Bytes) (offset : Nat) : Option Bytes := do
  let size ← wordAt data offset
  if offset + 32 + (size + padding size) ≤ data.length then
    some ((data.drop (offset + 32)).take size)
  else none

def atomicAt (data : Bytes) (type : AtomicType) (position : Nat) : Option type.Value := do
  let word ← wordAt data position
  if holds : type.Holds (BitVec.ofNat 256 word) then some ⟨BitVec.ofNat 256 word, holds⟩ else none

def wordsAt (data : Bytes) (type : AtomicType) : Nat → Nat → Option (List type.Value)
  | 0, _ => some []
  | count + 1, position => do
      let word ← atomicAt data type position
      let words ← wordsAt data type count (position + 32)
      some (word :: words)

def valueAt (data : Bytes) (position : Nat) : (type : AbiType) → Option type.Value
  | .atomic type => atomicAt data type position
  | .string => do bytesAt data (← wordAt data position)
  | .bytes => do bytesAt data (← wordAt data position)
  | .array type => do
      let offset ← wordAt data position
      let count ← wordAt data offset
      wordsAt data type count (offset + 32)

def decodeFrom (data : Bytes) : List AbiType → Nat → Option (List Argument)
  | [], _ => some []
  | type :: types, position => do
      let value ← valueAt data position type
      let arguments ← decodeFrom data types (position + 32)
      some (⟨type, value⟩ :: arguments)

def decode (types : List AbiType) (data : Bytes) : Option (List Argument) := decodeFrom data types 0

@[simp] theorem length_wordBytes (word : BitVec 256) : (wordBytes word).length = 32 := by
  simp [wordBytes]

@[simp] theorem length_head (offset : Nat) (type : AbiType) (value : type.Value) :
    (head offset type value).length = 32 := by
  cases type <;> simp [head]

theorem length_heads (arguments : List Argument) (offset : Nat) :
    (heads arguments offset).length = 32 * arguments.length := by
  induction arguments generalizing offset with
  | nil => rfl
  | cons argument arguments ih =>
      simp only [heads, List.length_append, length_head, ih, List.length_cons]
      omega

theorem drop_part {data part rest : Bytes} {position : Nat}
    (here : data.drop position = part ++ rest) : data.drop (position + part.length) = rest := by
  rw [← List.drop_drop, here, List.drop_left]

theorem part_fits {data part rest : Bytes} {position : Nat}
    (here : data.drop position = part ++ rest) (some_ : part ≠ []) :
    position + part.length ≤ data.length := by
  have size := congrArg List.length here
  rw [List.length_drop, List.length_append] at size
  have positive := List.length_pos_of_ne_nil some_
  omega

theorem wordAt_encodeBE {data rest : Bytes} {position value : Nat} (fits : value < 2 ^ 256)
    (here : data.drop position = encodeBE 32 value ++ rest) :
    wordAt data position = some value := by
  have inside := part_fits here (by
    intro none_
    have size := length_encodeBE 32 value
    rw [none_] at size
    cases size)
  rw [length_encodeBE] at inside
  have word : (data.drop position).take 32 = encodeBE 32 value := by
    rw [here, List.take_left' (length_encodeBE 32 value)]
  rw [wordAt, if_pos inside, word, decodeBE_encodeBE, Nat.mod_eq_of_lt]
  exact fits

theorem bytesAt_encodeBytes {data rest bytes : Bytes} {offset : Nat} (fits : bytes.length < 2 ^ 256)
    (here : data.drop offset = encodeBytes bytes ++ rest) : bytesAt data offset = some bytes := by
  have first : data.drop offset = encodeBE 32 bytes.length ++
      (bytes ++ List.replicate (padding bytes.length) 0 ++ rest) := by
    rw [here, encodeBytes, List.append_assoc]
  have inside := part_fits here (by
    intro none_
    have size := congrArg List.length none_
    simp [encodeBytes] at size)
  have second := drop_part first
  rw [length_encodeBE] at second
  simp only [encodeBytes, List.length_append, length_encodeBE, List.length_replicate] at inside
  simp only [bytesAt, wordAt_encodeBE fits first, Option.bind_eq_bind, Option.bind_some]
  rw [if_pos (by omega), second, List.append_assoc, List.take_left]

theorem atomicAt_wordBytes {data rest : Bytes} {type : AtomicType} {position : Nat}
    (value : type.Value) (here : data.drop position = wordBytes value.val ++ rest) :
    atomicAt data type position = some value := by
  have word : BitVec.ofNat 256 value.val.toNat = value.val := by simp
  simp only [atomicAt, wordAt_encodeBE value.val.isLt here, Option.bind_eq_bind, Option.bind_some,
    word, value.property, dif_pos]
  rfl

theorem wordsAt_encodeWords {data rest : Bytes} {type : AtomicType} {position : Nat}
    (words : List type.Value) (here : data.drop position = encodeWords words ++ rest) :
    wordsAt data type words.length position = some words := by
  induction words generalizing position with
  | nil => rfl
  | cons word words ih =>
      have first : data.drop position = wordBytes word.val ++ (encodeWords words ++ rest) := by
        rw [here, encodeWords, List.flatMap_cons, List.append_assoc]
        rfl
      have second := drop_part first
      rw [length_wordBytes] at second
      simp only [List.length_cons, wordsAt, atomicAt_wordBytes word first, ih second,
        Option.bind_eq_bind, Option.bind_some]

theorem length_encodeBytes (bytes : Bytes) : bytes.length ≤ (encodeBytes bytes).length := by
  simp only [encodeBytes, List.length_append]
  omega

theorem length_encodeWords {type : AtomicType} (words : List type.Value) :
    (encodeWords words).length = 32 * words.length := by
  induction words with
  | nil => rfl
  | cons word words ih =>
      simp only [encodeWords, List.flatMap_cons, List.length_append, length_wordBytes,
        List.length_cons] at ih ⊢
      omega

theorem valueAt_parts {data front behind : Bytes} {position offset : Nat} {type : AbiType}
    (value : type.Value) (here : data.drop position = head offset type value ++ front)
    (there : data.drop offset = tail type value ++ behind)
    (fits : offset + (tail type value).length < 2 ^ 256) :
    valueAt data position type = some value := by
  cases type with
  | atomic type => exact atomicAt_wordBytes value here
  | string =>
      have size := length_encodeBytes value
      change offset + (encodeBytes value).length < 2 ^ 256 at fits
      rw [valueAt, wordAt_encodeBE (by omega) here]
      exact bytesAt_encodeBytes (Nat.lt_of_le_of_lt (size.trans (Nat.le_add_left _ _)) fits) there
  | bytes =>
      have size := length_encodeBytes value
      change offset + (encodeBytes value).length < 2 ^ 256 at fits
      rw [valueAt, wordAt_encodeBE (by omega) here]
      exact bytesAt_encodeBytes (Nat.lt_of_le_of_lt (size.trans (Nat.le_add_left _ _)) fits) there
  | array type =>
      have size := length_encodeWords value
      change data.drop offset = encodeBE 32 (List.length value) ++ encodeWords value ++ behind
        at there
      change offset + (encodeBE 32 (List.length value) ++ encodeWords value).length < 2 ^ 256
        at fits
      rw [List.length_append, length_encodeBE, size] at fits
      rw [List.append_assoc] at there
      have second := drop_part there
      rw [length_encodeBE] at second
      simp only [valueAt, wordAt_encodeBE (by omega) here, wordAt_encodeBE (by omega) there,
        Option.bind_eq_bind, Option.bind_some]
      exact wordsAt_encodeWords value second

/-- What is left of the heads and of the tails is still in the data. -/
theorem decodeFrom_parts {data front behind : Bytes} {position offset : Nat}
    {arguments : List Argument} (here : data.drop position = heads arguments offset ++ front)
    (there : data.drop offset = tails arguments ++ behind)
    (fits : offset + (tails arguments).length < 2 ^ 256) :
    decodeFrom data (arguments.map Sigma.fst) position = some arguments := by
  induction arguments generalizing position offset with
  | nil => rfl
  | cons argument arguments ih =>
      obtain ⟨type, value⟩ := argument
      have split : tails (⟨type, value⟩ :: arguments) = tail type value ++ tails arguments := rfl
      rw [split, List.append_assoc] at there
      rw [split, List.length_append] at fits
      rw [heads, List.append_assoc] at here
      have read := valueAt_parts value here there (by omega)
      have later := drop_part here
      rw [length_head] at later
      have rest := ih later (drop_part there) (by omega)
      simp only [List.map_cons, decodeFrom, read, rest, Option.bind_eq_bind, Option.bind_some]

theorem decode_encode {arguments : List Argument} (fits : Encodable arguments) :
    decode (arguments.map Sigma.fst) (encode arguments) = some arguments := by
  have heads_ := length_heads arguments (32 * arguments.length)
  have behind : (encode arguments).drop (32 * arguments.length) = tails arguments ++ [] := by
    rw [encode, List.drop_left' heads_, List.append_nil]
  exact decodeFrom_parts rfl behind fits

section Struct

variable {hash : Bytes → BitVec 256}

@[simp] theorem length_encodeMember (type : AbiType) (value : type.Value) :
    (encodeMember hash type value).length = 32 := by
  cases type <;> simp [encodeMember]

@[simp] theorem length_encodeMembers (members : List Argument) :
    (encodeMembers hash members).length = 32 * members.length := by
  induction members with
  | nil => rfl
  | cons member members ih =>
      simp only [encodeMembers, List.flatMap_cons, List.length_append, length_encodeMember,
        List.length_cons] at ih ⊢
      omega

def AbiType.isAtomic : AbiType → Bool
  | .atomic _ => true
  | _ => false

/-- Without tails both encodings are the words of the values. -/
theorem encodeMembers_atomic {arguments : List Argument}
    (atomic : ∀ argument ∈ arguments, argument.1.isAtomic = true) :
    encodeMembers hash arguments = encode arguments := by
  have parts : ∀ offset, encodeMembers hash arguments = heads arguments offset ∧
      tails arguments = [] := by
    induction arguments with
    | nil => exact fun _ => ⟨rfl, rfl⟩
    | cons argument arguments ih =>
        intro offset
        obtain ⟨type, value⟩ := argument
        have here := atomic ⟨type, value⟩ (by simp)
        cases type with
        | atomic type =>
            obtain ⟨members, none_⟩ := ih (fun other later => atomic other (by simp [later])) offset
            refine ⟨?_, none_⟩
            change wordBytes value.val ++ encodeMembers hash arguments =
              wordBytes value.val ++ heads arguments offset
            rw [members]
        | _ => cases here
  obtain ⟨members, none_⟩ := parts (32 * arguments.length)
  rw [encode, none_, List.append_nil, members]

end Struct

end Startrail.Abi
