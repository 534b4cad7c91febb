import Startrail.Library.Abi
import Startrail.Library.Hex
import Startrail.Library.Records
import Startrail.MetaTx.Core

/-!
The client's side of a meta transaction in `startrail-common-js`: the field lists of
`meta-tx/eip712-message-types`, `meta-tx/meta-tx-request-registry.ts`,
`meta-tx/eip712-typed-data-builder.ts`, `encodeContractFunctionCalldata` of
`contracts/utils.ts` and `encodeExecuteTransactionProps` of
`contracts/meta-tx-forwarder/index.ts`. A function that throws answers `none`. How ethers
reads the values of a request is a parameter; its encoders follow their specifications.
-/

namespace Startrail.Client

open Abi

inductive JsValue where
  | bigNumber (value : Int)
  | number (value : Int)
  | string (text : Text)
  | boolean (value : Bool)
  | bytes (value : Bytes)
  | array (values : List JsValue)

abbrev JsObject := Record Text JsValue

structure TypedDataField where
  name : Text
  type : AbiType
deriving DecidableEq

def address : AbiType := .atomic .address

def uint256 : AbiType := .atomic (.uint 31)

def bytes32 : AbiType := .atomic (.bytesN 31)

def decimal (value : Nat) : Text := (toString value).toList

def atomicText : AtomicType → Text
  | .uint size => "uint".toList ++ decimal (8 * (size.val + 1))
  | .int size => "int".toList ++ decimal (8 * (size.val + 1))
  | .address => "address".toList
  | .bool => "bool".toList
  | .bytesN size => "bytes".toList ++ decimal (size.val + 1)

def typeText : AbiType → Text
  | .atomic type => atomicText type
  | .string => "string".toList
  | .bytes => "bytes".toList
  | .array type => atomicText type ++ "[]".toList

def toUtf8Bytes (text : Text) : Bytes := text.flatMap String.utf8EncodeChar

def zeroAddress : { word : BitVec 256 // AtomicType.address.Holds word } := ⟨0, by decide⟩

structure FunctionFragment where
  selector : Bytes4
  inputs : List AbiType

def SameKind : AbiType → AbiType → Prop
  | .atomic (.uint _), .atomic (.uint _) => True
  | .atomic (.int _), .atomic (.int _) => True
  | type, other => type = other

/-- The values that ethers reads as one of a type are those that its documentation names: a
`BigNumber` is a number only, and so is its decimal text. A number is the same one in every
width that has room for it. -/
structure Ethers where
  read : (type : AbiType) → JsValue → Option type.Value
  getFunction : Text → Text → Option FunctionFragment
  read_width : ∀ {type other : AtomicType} {value : JsValue} {wide : type.Value}
    {narrow : other.Value}, SameKind (.atomic type) (.atomic other) →
      read (.atomic type) value = some wide → read (.atomic other) value = some narrow →
        wide.val = narrow.val
  read_bigNumber : ∀ {type : AbiType} {number : Int} {value : type.Value},
    read type (.bigNumber number) = some value →
      read type (.string (toString number).toList) = some value
  read_bytes : ∀ bytes, read .bytes (.string (hexlify bytes)) = some bytes
  read_zeroAddress :
    read address (.string (hexlify (List.replicate 20 0))) = some zeroAddress
  read_one : read uint256 (.number 1) = some ⟨1, by decide⟩

def encodeType (name : Text) (fields : List TypedDataField) : Text :=
  name ++ "(".toList ++
    List.intercalate ",".toList
      (fields.map fun field => typeText field.type ++ ' ' :: field.name) ++
    ")".toList

def typeHashOf (evm : Evm) (name : Text) (fields : List TypedDataField) : Bytes32 :=
  evm.keccak256 (toUtf8Bytes (encodeType name fields))

namespace Ethers

variable (ethers : Ethers)

def readMembers (message : JsObject) : List TypedDataField → Option (List Argument)
  | [] => some []
  | field :: fields => do
      let value ← message.get? field.name
      let member ← ethers.read field.type value
      let members ← readMembers message fields
      some (⟨field.type, member⟩ :: members)

def readArguments : List AbiType → List JsValue → Option (List Argument)
  | [], [] => some []
  | type :: types, value :: values => do
      let argument ← ethers.read type value
      let arguments ← readArguments types values
      some (⟨type, argument⟩ :: arguments)
  | _, _ => none

/-- `TypedDataEncoder.encodeData`: a field list with a name given twice is refused. -/
def encodeData (evm : Evm) (primaryType : Text) (fields : List TypedDataField)
    (message : JsObject) : Option Bytes := do
  if ¬(fields.map TypedDataField.name).Nodup then none
  else
    let members ← ethers.readMembers message fields
    some (wordBytes (typeHashOf evm primaryType fields) ++ encodeMembers evm.keccak256 members)

def encodeFunctionData (fragment : FunctionFragment) (values : List JsValue) : Option Text := do
  let arguments ← ethers.readArguments fragment.inputs values
  if Encodable arguments then some (hexlify (packWord fragment.selector ++ encode arguments))
  else none

end Ethers

def FROM : Text := "from".toList

def NONCE : Text := "nonce".toList

def DATA : Text := "data".toList

def DESTINATION : Text := "destination".toList

def EIP712DomainTypes : List TypedDataField :=
  [⟨"name".toList, .string⟩, ⟨"version".toList, .string⟩, ⟨"chainId".toList, uint256⟩,
    ⟨"verifyingContract".toList, address⟩]

def GenericParamTypes : List TypedDataField := [⟨FROM, address⟩, ⟨NONCE, uint256⟩]

def isDynamicArrayType : AbiType → Bool
  | .atomic _ => false
  | .string => true
  | .bytes => true
  | .array _ => true

def buildTypeList (fields : Record Text AbiType) : List TypedDataField :=
  GenericParamTypes ++
    (if fields.values.any isDynamicArrayType then [⟨DATA, .bytes⟩] else []) ++
    fields.entries.map fun field => ⟨field.1, field.2⟩

-- It reads the name of the third field: a list without one is an error.
def addDestinationField (fields : List TypedDataField) : Option (List TypedDataField) := do
  let third ← fields[2]?
  let insertPosition := if third.name = DATA then 3 else 2
  some (fields.take insertPosition ++ [⟨DESTINATION, address⟩] ++ fields.drop insertPosition)

structure MetaTxRequest where
  eip712TypeHash : Bytes32
  eip712Types : List TypedDataField
  destinationContract : Text
  destinationAddressProvided : Bool
  functionSelector : Bytes4
  functionSignature : Text
  suffixTypeString : Text
  requiresDataField : Bool
  adminCanCall : Bool

def getFunctionSelector (evm : Evm) (functionSignature : Text) : Bytes4 :=
  (evm.keccak256 (toUtf8Bytes functionSignature)).extractLsb' 224 32

def buildSuffixTypeString (types : List TypedDataField) : Text :=
  List.intercalate ",".toList
    ((types.drop GenericParamTypes.length).map fun field =>
      typeText field.type ++ ' ' :: field.name)

def buildMetaTxRequest (evm : Evm) (metaTxRequestType : Text) (types : List TypedDataField)
    (contractName functionSignature : Text) (adminCanCall destinationAddressProvided : Bool) :
    MetaTxRequest where
  eip712TypeHash := typeHashOf evm metaTxRequestType types
  eip712Types := types
  destinationContract := contractName
  destinationAddressProvided := destinationAddressProvided
  functionSelector := getFunctionSelector evm functionSignature
  functionSignature := functionSignature
  suffixTypeString := buildSuffixTypeString types
  requiresDataField := types.any fun field => field.name = DATA
  adminCanCall := adminCanCall

def encodeContractFunctionCalldata (ethers : Ethers) (contractName fnName : Text)
    (requestObject : JsObject) : Option Text := do
  let fnFragment ← ethers.getFunction contractName fnName
  ethers.encodeFunctionData fnFragment (requestObject.omitKeys [DESTINATION]).values

structure TypedDataDomain where
  name : Text
  version : Text
  chainId : Uint256
  verifyingContract : Address

structure EIP712TypedData where
  types : Record Text (List TypedDataField)
  primaryType : Text
  domain : TypedDataDomain
  message : JsObject

structure EIP712TypedDataBuilder where
  domainData : TypedDataDomain

def EIP712TypedDataBuilder.new (chainId : Uint256) (metaTxForwarderAddress : Address) :
    EIP712TypedDataBuilder :=
  ⟨⟨"Startrail".toList, "1".toList, chainId, metaTxForwarderAddress⟩⟩

def JsValue.convertBigNumber : JsValue → JsValue
  | .bigNumber value => .string (toString value).toList
  | value => value

def stripUnderscore : Text → Text
  | '_' :: name => name
  | name => name

def _removeUnderscoreFromKeys (request : JsObject) : JsObject :=
  Record.empty.assign (request.entries.map fun entry => (stripUnderscore entry.1, entry.2))

def _convertBigNumberValuesToString (request : JsObject) : JsObject :=
  request.mapValues JsValue.convertBigNumber

def _requestParamsToTypedParams (request : JsObject) : JsObject :=
  _convertBigNumberValuesToString (_removeUnderscoreFromKeys request)

/-- The request type key stands for its entry in `metaTxRequests`, which is given with it. -/
def EIP712TypedDataBuilder.build (builder : EIP712TypedDataBuilder) (ethers : Ethers)
    (requestTypeKey : Text) (metaTxRequest : MetaTxRequest) (from_ nonce : JsValue)
    (requestData : JsObject) : Option EIP712TypedData := do
  let messageData := _requestParamsToTypedParams requestData
  let messageData ← (if metaTxRequest.requiresDataField = true then do
      let data ← encodeContractFunctionCalldata ethers metaTxRequest.destinationContract
        metaTxRequest.functionSignature messageData
      some (messageData.set DATA (.string data))
    else some messageData)
  some {
    types := (Record.empty.set "EIP712Domain".toList EIP712DomainTypes).set requestTypeKey
      metaTxRequest.eip712Types
    domain := builder.domainData
    primaryType := requestTypeKey
    message := ((Record.empty.set FROM from_).set NONCE nonce.convertBigNumber).assign
      messageData.entries }

def encodeSuffixData (evm : Evm) (ethers : Ethers) (metaTxRequestType : Text)
    (metaTxRequest : MetaTxRequest) (requestData : JsObject) : Option Text := do
  let messageData := _requestParamsToTypedParams requestData
  let requestDataProps :=
    ((Record.empty.set FROM (.string (hexlify (List.replicate 20 0)))).set NONCE
      (.number 1)).assign messageData.entries
  let requestDataProps := if metaTxRequest.requiresDataField = true then
      requestDataProps.set DATA (.string "0x00".toList)
    else requestDataProps
  let encodedData ← ethers.encodeData evm metaTxRequestType metaTxRequest.eip712Types
    requestDataProps
  let skipHexDigits := 194
  let skipHexDigits :=
    if metaTxRequest.requiresDataField = true then skipHexDigits + 64 else skipHexDigits
  some ("0x".toList ++ (hexlify encodedData).drop skipHexDigits)

structure ExecutionRequest where
  typeHash : Bytes32
  from_ : JsValue
  nonce : JsValue
  suffixData : Text
  callData : Text

inductive EncodeType where
  | SingleSig
  | MultiSig

structure ExecuteTransactionProps where
  _request : ExecutionRequest
  _signature : Option Text
  _signatures : Option Text

def stripHexPrefix (text : Text) : Text :=
  if text.take 2 = "0x".toList then text.drop 2 else text

def joinSignatures (signatures : List Text) : Text :=
  "0x".toList ++ signatures.flatMap stripHexPrefix

def encodeExecuteTransactionProps (evm : Evm) (ethers : Ethers) (requestTypeKey : Text)
    (metaTxRequest : MetaTxRequest) (fromAddress nonce : JsValue) (requestData : JsObject)
    (signatures : List Text) (encodeType : EncodeType) : Option ExecuteTransactionProps := do
  let suffixData ← encodeSuffixData evm ethers requestTypeKey metaTxRequest requestData
  let callData ← (if metaTxRequest.requiresDataField = true then
      encodeContractFunctionCalldata ethers metaTxRequest.destinationContract
        metaTxRequest.functionSignature requestData
    else some "0x".toList)
  let executionRequest : ExecutionRequest :=
    ⟨metaTxRequest.eip712TypeHash, fromAddress, nonce, suffixData, callData⟩
  let joinedSignatures := joinSignatures signatures
  match encodeType with
  | .SingleSig => some ⟨executionRequest, some joinedSignatures, none⟩
  | .MultiSig => some ⟨executionRequest, none, some joinedSignatures⟩

/-- The request as the contract gets it. -/
def ExecutionRequest.sent (request : ExecutionRequest) (ethers : Ethers) :
    Option MetaTxForwarder.ExecutionRequest := do
  let from_ ← ethers.read address request.from_
  let nonce ← ethers.read uint256 request.nonce
  let suffixData ← ethers.read .bytes (.string request.suffixData)
  let callData ← ethers.read .bytes (.string request.callData)
  some ⟨request.typeHash, from_.val.setWidth 160, nonce.val, suffixData, callData⟩

/-- What `_signTypedData` hashes for the primary type of the data. -/
def EIP712TypedData.digest (evm : Evm) (ethers : Ethers) (typedData : EIP712TypedData) :
    Option Bytes32 := do
  let fields ← typedData.types.get? typedData.primaryType
  let data ← ethers.encodeData evm typedData.primaryType fields typedData.message
  let domain := typedData.domain
  let separator := evm.keccak256 (
    packWord (typeHashOf evm "EIP712Domain".toList EIP712DomainTypes) ++
    packWord (evm.keccak256 (toUtf8Bytes domain.name)) ++
    packWord (evm.keccak256 (toUtf8Bytes domain.version)) ++
    packWord domain.chainId ++ encodeAddress domain.verifyingContract)
  some (evm.keccak256 ([0x19, 0x01] ++ packWord separator ++ packWord (evm.keccak256 data)))

end Startrail.Client
