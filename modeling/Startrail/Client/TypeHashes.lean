import Startrail.Client.TypedData
import Startrail.MetaTx.RequestTypes

/-!
The hashes of request types on both sides: `buildTypeHash` and `buildSuffixTypeString` of
`meta-tx/meta-tx-request-registry.ts`, which leave out the generic parameters and join the rest,
against the string that the contract puts together. What hashes a type for the client follows the
standard of typed data and is a parameter.
-/

namespace Startrail.Client.TypeHashes

open Abi MetaTxForwarder

structure MessageTypeProperty where
  name : Text
  type : Text
deriving DecidableEq

abbrev MessageTypes := Record Text (List MessageTypeProperty)

def WordCharacter (c : Char) : Prop := c.isAlphanum = true ∨ c = '_'

instance : DecidablePred WordCharacter := fun _ => inferInstanceAs (Decidable (_ ∨ _))

def memberTexts (fields : List MessageTypeProperty) : List Text :=
  fields.map fun field => field.type ++ ' ' :: field.name

def structText (name : Text) (fields : List MessageTypeProperty) : Text :=
  name ++ "(".toList ++ List.intercalate ",".toList (memberTexts fields) ++ ")".toList

/-- The types of members that are no structs. -/
inductive Plain : Text → Prop
  | atomic (type : AtomicType) : Plain (atomicText type)
  | string : Plain "string".toList
  | bytes : Plain "bytes".toList
  | array {type : Text} : Plain type → Plain (type ++ "[]".toList)
  | sized {type : Text} (size : Nat) : Plain type →
      Plain (type ++ '[' :: decimal size ++ "]".toList)

-- The type in front of the brackets of an array.
def elementType (type : Text) : Text := type.takeWhile (· ≠ '[')

structure WellFormed (types : MessageTypes) : Prop where
  words : ∀ name ∈ types.keys, ∀ c ∈ name, WordCharacter c
  members : ∀ fields ∈ types.values, ∀ field ∈ fields,
    Plain field.type ∨ elementType field.type ∈ types.keys

/-- What hashes the types. Of the standard no more is taken than what it says of a struct that
refers to no other one. -/
structure TypedDataUtils (evm : Evm) where
  hashType : Text → MessageTypes → Option Bytes32
  hashType_standard : ∀ {types : MessageTypes} {name : Text} {fields : List MessageTypeProperty},
    WellFormed types → types.get? name = some fields →
      (∀ field ∈ fields, elementType field.type ≠ name →
        types.get? (elementType field.type) = none) →
        hashType name types = some (evm.keccak256 (toUtf8Bytes (structText name fields)))

def property (field : TypedDataField) : MessageTypeProperty := ⟨field.name, typeText field.type⟩

def GenericParams : List MessageTypeProperty := GenericParamTypes.map property

def buildTypeHash {evm : Evm} (utils : TypedDataUtils evm) (name : Text)
    (types : List MessageTypeProperty) : Option Text :=
  (utils.hashType name (Record.empty.set name types)).map fun hash => hexlify (packWord hash)

def buildSuffixTypeString (types : List MessageTypeProperty) : Text :=
  List.intercalate ",".toList (memberTexts (types.drop GenericParams.length))

section Hashes

variable {deployment : Deployment} {evm : Evm} {name : Text} {rest : List MessageTypeProperty}

theorem single_get (name other : Text) (fields : List MessageTypeProperty) :
    (Record.empty.set name fields : MessageTypes).get? other =
      if other = name then some fields else none := by
  rw [Record.get?_set]
  rfl

theorem single_wellFormed {fields : List MessageTypeProperty}
    (words : ∀ c ∈ name, WordCharacter c) (plain : ∀ field ∈ fields, Plain field.type) :
    WellFormed (Record.empty.set name fields) := by
  constructor
  · intro other known
    rw [List.mem_singleton.mp known]
    exact words
  · intro other known field belongs
    rw [List.mem_singleton.mp known] at belongs
    exact Or.inl (plain field belongs)

theorem toUtf8Bytes_append (front back : Text) :
    toUtf8Bytes (front ++ back) = toUtf8Bytes front ++ toUtf8Bytes back := List.flatMap_append

theorem structText_bytes (name : Text) (further : rest ≠ []) :
    toUtf8Bytes (structText name (GenericParams ++ rest)) =
      typeString (toUtf8Bytes name)
        (toUtf8Bytes (buildSuffixTypeString (GenericParams ++ rest))) := by
  have members : memberTexts (GenericParams ++ rest) =
      "address from".toList :: "uint256 nonce".toList :: memberTexts rest := by
    rw [memberTexts, List.map_append]
    rfl
  have more : memberTexts rest ≠ [] := fun none_ => further (List.map_eq_nil_iff.mp none_)
  have suffix : buildSuffixTypeString (GenericParams ++ rest) =
      List.intercalate ",".toList (memberTexts rest) := by
    rw [buildSuffixTypeString, List.drop_left]
  rw [structText, members, List.intercalate_cons_cons, List.intercalate_cons_of_ne_nil more, suffix,
    typeString]
  simp only [toUtf8Bytes_append, List.append_assoc]
  rfl

/-- What the client hashes is what the contract registers. -/
theorem buildTypeHash_standard (utils : TypedDataUtils evm) (words : ∀ c ∈ name, WordCharacter c)
    (plain : ∀ field ∈ rest, Plain field.type) (further : rest ≠ []) :
    buildTypeHash utils name (GenericParams ++ rest) =
      some (hexlify (packWord (typeHash evm (toUtf8Bytes name,
        toUtf8Bytes (buildSuffixTypeString (GenericParams ++ rest)))))) := by
  have all : ∀ field ∈ GenericParams ++ rest, Plain field.type := by
    intro field belongs
    rcases List.mem_append.mp belongs with generic | other
    · rcases List.mem_cons.mp generic with rfl | last
      · exact .atomic .address
      · rw [List.mem_singleton.mp last]
        exact .atomic (.uint 31)
    · exact plain field other
  have hashed : utils.hashType name (Record.empty.set name (GenericParams ++ rest)) =
      some (evm.keccak256 (toUtf8Bytes (structText name (GenericParams ++ rest)))) := by
    refine utils.hashType_standard (single_wellFormed words all) ?_ ?_
    · rw [single_get, if_pos rfl]
    · intro field _ other
      rw [single_get, if_neg other]
  rw [buildTypeHash, hashed, structText_bytes name further]
  rfl

end Hashes

section Types

/-- A call of the contract, in whatever state, registers this type. -/
def Accepts (deployment : Deployment) (type : TypeName) : Prop :=
  ∃ world msg state _destinationContract _functionSignature state',
    registerRequestType deployment world msg state type.1 type.2 _destinationContract
      _functionSignature = .ok state'

/-- Request types are known by their strings and hashes. -/
structure Identified (deployment : Deployment) (utils : TypedDataUtils deployment.evm) : Prop where
  strings : ∀ type other, Accepts deployment type → Accepts deployment other →
    typeString type.1 type.2 = typeString other.1 other.2 → type = other
  register : ∀ (Legal : Transaction → State → Prop) (origin : State)
    (config : Config Revert State Query Answer Transaction), Deployed deployment origin →
      Reach (entry deployment) Legal origin config →
        deployment.evm.CollisionFree (typeStrings config.now.trace) →
          Identifies deployment config.now
  client : ∀ (name : Text) (rest : List MessageTypeProperty), (∀ c ∈ name, WordCharacter c) →
    (∀ field ∈ rest, Plain field.type) → rest ≠ [] →
      buildTypeHash utils name (GenericParams ++ rest) =
        some (hexlify (packWord (typeHash deployment.evm (toUtf8Bytes name,
          toUtf8Bytes (buildSuffixTypeString (GenericParams ++ rest))))))

theorem request_types (deployment : Deployment) (utils : TypedDataUtils deployment.evm) :
    Identified deployment utils := by
  refine ⟨?_, ?_, ?_⟩
  · rintro type other ⟨_, _, _, _, _, _, accepted⟩ ⟨_, _, _, _, _, _, accepted'⟩ same
    exact typeString_inj (registerRequestType_accepted accepted).1
      (registerRequestType_accepted accepted').1 same
  · intro Legal origin config deployed reach free
    exact (reach_kept deployed reach).identifies free
  · intro name rest words plain further
    exact buildTypeHash_standard utils words plain further

end Types

section Samples

def plainUtils (evm : Evm) : TypedDataUtils evm where
  hashType name types := (types.get? name).map fun fields =>
    evm.keccak256 (toUtf8Bytes (structText name fields))
  hashType_standard := by
    intro types name fields _ found _
    rw [found]
    rfl

def renameTypes : List MessageTypeProperty :=
  [⟨DATA, "bytes".toList⟩, ⟨"wallet".toList, "address".toList⟩, ⟨"name".toList, "string".toList⟩]

theorem renameTypes_plain : ∀ field ∈ renameTypes, Plain field.type := by
  intro field belongs
  simp only [renameTypes, List.mem_cons, List.not_mem_nil, or_false] at belongs
  rcases belongs with rfl | rfl | rfl
  · exact .bytes
  · exact .atomic .address
  · exact .string

set_option maxRecDepth 8000 in
theorem renameTypes_suffix :
    toUtf8Bytes (buildSuffixTypeString (GenericParams ++ renameTypes)) =
      ascii "bytes data,address wallet,string name" := by rfl

theorem registeredConfig_free :
    requestDeployment.evm.CollisionFree (typeStrings registeredConfig.now.trace) := by
  decide +kernel

theorem request_types_registered : Identifies requestDeployment registeredConfig.now ∧
    buildTypeHash (plainUtils requestDeployment.evm) "WalletSetOriginalName".toList
        (GenericParams ++ renameTypes) =
      some (hexlify (packWord (typeHash requestDeployment.evm (ascii "WalletSetOriginalName",
        ascii "bytes data,address wallet,string name")))) := by
  have identified := request_types requestDeployment (plainUtils requestDeployment.evm)
  constructor
  · exact identified.register _ _ _ deployedState_deployed registeredConfig_reach
      registeredConfig_free
  · have name : toUtf8Bytes "WalletSetOriginalName".toList = ascii "WalletSetOriginalName" := by
      decide +kernel
    have client := identified.client "WalletSetOriginalName".toList renameTypes
      (by simp [WordCharacter]) renameTypes_plain (by decide)
    rw [name, renameTypes_suffix] at client
    exact client

end Samples

end Startrail.Client.TypeHashes
