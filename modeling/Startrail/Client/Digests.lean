import Startrail.Client.TypedData
import Startrail.MetaTx.Replay

/-!
The digest that a client signs and the one that the forwarder checks. The client hashes the
message field by field; the forwarder puts the same bytes together from the type hash, the
generic fields, the hash of the call data and the suffix data, which the client has cut out of
the hexadecimal text of the fields.
-/

namespace Startrail.Client

open Abi MetaTxForwarder

def typeList (fields : Record Text AbiType) (destined : Bool) : Option (List TypedDataField) :=
  if destined then addDestinationField (buildTypeList fields) else some (buildTypeList fields)

def dataField (fields : Record Text AbiType) : List TypedDataField :=
  if fields.values.any isDynamicArrayType then [⟨DATA, .bytes⟩] else []

def requestFields (fields : Record Text AbiType) (destined : Bool) : List TypedDataField :=
  (if destined then [⟨DESTINATION, address⟩] else []) ++
    fields.entries.map fun field => ⟨field.1, field.2⟩

def messageFields (fields : Record Text AbiType) (destined : Bool) : List TypedDataField :=
  GenericParamTypes ++ dataField fields ++ requestFields fields destined

def reservedNames : List Text := [FROM, NONCE, DATA, DESTINATION]

/-- The request data has a valid value for each of the fields and no others. -/
structure Valid (ethers : Ethers) (fields : List TypedDataField) (requestData : JsObject) :
    Prop where
  plain : ∀ key ∈ requestData.keys, key.head? ≠ some '_'
  known : ∀ key ∈ requestData.keys, key ∈ fields.map TypedDataField.name
  read : ∀ field ∈ fields, ∃ value member, requestData.get? field.name = some value ∧
    ethers.read field.type value = some member

theorem typeList_eq {fields : Record Text AbiType} {destined : Bool} {types : List TypedDataField}
    (unreserved : ∀ name ∈ fields.keys, name ∉ reservedNames)
    (listed : typeList fields destined = some types) :
    types = messageFields fields destined := by
  cases destined with
  | false =>
      cases listed
      rfl
  | true =>
      simp only [typeList, if_true, addDestinationField, Option.bind_eq_bind,
        Option.bind_eq_some_iff, Option.some.injEq] at listed
      obtain ⟨third, here, rfl⟩ := listed
      unfold messageFields buildTypeList dataField requestFields at *
      by_cases dynamic : fields.values.any isDynamicArrayType = true
      · simp only [dynamic, if_true] at here ⊢
        cases here
        rfl
      · simp only [dynamic, Bool.false_eq_true, if_false, List.append_nil] at here ⊢
        have other : third.name ≠ DATA := by
          intro same
          obtain ⟨entry, belongs, rfl⟩ := List.mem_map.mp (List.mem_of_getElem? (show
            (fields.entries.map fun field => (⟨field.1, field.2⟩ : TypedDataField))[0]? = _
            from here))
          apply unreserved entry.1 (List.mem_map_of_mem belongs)
          simp only at same
          simp [reservedNames, same]
        rw [if_neg other]
        rfl

theorem requestFields_names (fields : Record Text AbiType) (destined : Bool) :
    (requestFields fields destined).map TypedDataField.name =
      (if destined then [DESTINATION] else []) ++ fields.keys := by
  cases destined <;> simp [requestFields, Record.keys]

/-- The names of the other fields are none of those that every request has. -/
theorem requestFields_apart {fields : Record Text AbiType} {destined : Bool}
    (unreserved : ∀ name ∈ fields.keys, name ∉ reservedNames) :
    ∀ name ∈ (requestFields fields destined).map TypedDataField.name,
      name ≠ FROM ∧ name ≠ NONCE ∧ name ≠ DATA := by
  rw [requestFields_names]
  intro name belongs
  rcases List.mem_append.mp belongs with added | listed
  · cases destined with
    | false => cases added
    | true =>
        rw [List.mem_singleton.mp added]
        decide
  · have apart := unreserved name listed
    simp only [reservedNames, List.mem_cons, not_or] at apart
    exact ⟨apart.1, apart.2.1, apart.2.2.1⟩

theorem types_distinct {fields : Record Text AbiType} {destined : Bool}
    (unreserved : ∀ name ∈ fields.keys, name ∉ reservedNames) :
    ((messageFields fields destined).map TypedDataField.name).Nodup := by
  have front : ((GenericParamTypes ++ dataField fields).map TypedDataField.name).Nodup ∧
      ∀ name ∈ (GenericParamTypes ++ dataField fields).map TypedDataField.name,
        name = FROM ∨ name = NONCE ∨ name = DATA := by
    unfold dataField
    split <;> decide
  have rest : ((requestFields fields destined).map TypedDataField.name).Nodup := by
    rw [requestFields_names]
    cases destined with
    | false => exact fields.distinct
    | true =>
        refine List.nodup_cons.mpr ⟨fun listed => ?_, fields.distinct⟩
        exact unreserved DESTINATION listed (by decide)
  rw [messageFields, List.map_append]
  refine List.nodup_append.mpr ⟨front.1, rest, ?_⟩
  rintro name first _ second rfl
  obtain ⟨notFrom, notNonce, notData⟩ := requestFields_apart unreserved name second
  rcases front.2 name first with same | same | same
  · exact notFrom same
  · exact notNonce same
  · exact notData same

theorem requiresDataField_eq {fields : Record Text AbiType} {destined : Bool}
    (unreserved : ∀ name ∈ fields.keys, name ∉ reservedNames) :
    ((messageFields fields destined).any fun field => field.name = DATA) =
      fields.values.any isDynamicArrayType := by
  have others : ((requestFields fields destined).any fun field => field.name = DATA) = false := by
    rw [List.any_eq_false]
    intro field belongs
    have apart := requestFields_apart unreserved field.name (List.mem_map_of_mem belongs)
    simpa using apart.2.2
  rw [messageFields, List.any_append, others, Bool.or_false, dataField]
  cases fields.values.any isDynamicArrayType <;> decide

section Messages

variable {ethers : Ethers} {requestData : JsObject}

theorem stripUnderscore_plain {key : Text} (plain : key.head? ≠ some '_') :
    stripUnderscore key = key := by
  cases key with
  | nil => rfl
  | cons first rest =>
      have other : first ≠ '_' := by simpa using plain
      rw [stripUnderscore]
      rintro name ⟨⟩
      exact other rfl

theorem _removeUnderscoreFromKeys_plain
    (plain : ∀ key ∈ requestData.keys, key.head? ≠ some '_') :
    _removeUnderscoreFromKeys requestData = requestData := by
  have same : (requestData.entries.map fun entry => (stripUnderscore entry.1, entry.2)) =
      requestData.entries := by
    conv_rhs => rw [← List.map_id requestData.entries]
    apply List.map_congr_left
    intro entry belongs
    rw [stripUnderscore_plain (plain entry.1 (List.mem_map_of_mem belongs))]
    rfl
  rw [_removeUnderscoreFromKeys, same, Record.empty_assign requestData.distinct]

/-- The value that a typed message shows instead is read as the same one. -/
theorem read_convertBigNumber {type : AbiType} {value : JsValue} {member : type.Value}
    (read : ethers.read type value = some member) :
    ethers.read type value.convertBigNumber = some member := by
  cases value with
  | bigNumber number => exact ethers.read_bigNumber read
  | _ => exact read

theorem readMembers_append (message : JsObject) (first second : List TypedDataField) :
    ethers.readMembers message (first ++ second) = (do
      let front ← ethers.readMembers message first
      let rest ← ethers.readMembers message second
      some (front ++ rest)) := by
  induction first with
  | nil =>
      cases rest : ethers.readMembers message second <;> simp [Ethers.readMembers, rest]
  | cons field first ih =>
      simp only [List.cons_append, Ethers.readMembers, ih, Option.bind_eq_bind, Option.bind_assoc,
        Option.bind_some]

theorem readMembers_isSome {fields : List TypedDataField} {message : JsObject}
    (read : ∀ field ∈ fields, ∃ value member, message.get? field.name = some value ∧
      ethers.read field.type value = some member) :
    ∃ members, ethers.readMembers message fields = some members := by
  induction fields with
  | nil => exact ⟨[], rfl⟩
  | cons field fields ih =>
      obtain ⟨value, member, held, valid⟩ := read field (by simp)
      obtain ⟨members, rest⟩ := ih fun other later => read other (by simp [later])
      exact ⟨⟨field.type, member⟩ :: members, by
        simp only [Ethers.readMembers, held, valid, rest, Option.bind_eq_bind, Option.bind_some]⟩

/-- A message with the same values for some fields, BigNumbers as text, has the same members. -/
theorem readMembers_converted {fields : List TypedDataField} {message : JsObject}
    {members : List Argument}
    (held : ∀ field ∈ fields, message.get? field.name =
      (requestData.get? field.name).map JsValue.convertBigNumber)
    (read : ethers.readMembers requestData fields = some members) :
    ethers.readMembers message fields = some members := by
  induction fields generalizing members with
  | nil => exact read
  | cons field fields ih =>
      simp only [Ethers.readMembers, Option.bind_eq_bind, Option.bind_eq_some_iff,
        Option.some.injEq] at read
      obtain ⟨value, here, member, valid, rest, later, rfl⟩ := read
      have first := held field (by simp)
      rw [here, Option.map_some] at first
      simp only [Ethers.readMembers, first, read_convertBigNumber valid,
        ih (fun other belongs => held other (by simp [belongs])) later, Option.bind_eq_bind,
        Option.bind_some]

theorem readArguments_converted {types : List AbiType} {values : List JsValue}
    {arguments : List Argument} (read : ethers.readArguments types values = some arguments) :
    ethers.readArguments types (values.map JsValue.convertBigNumber) = some arguments := by
  induction types generalizing values arguments with
  | nil =>
      cases values with
      | nil => exact read
      | cons value values => cases read
  | cons type types ih =>
      cases values with
      | nil => cases read
      | cons value values =>
          simp only [Ethers.readArguments, Option.bind_eq_bind, Option.bind_eq_some_iff,
            Option.some.injEq] at read
          obtain ⟨argument, here, rest, later, rfl⟩ := read
          simp only [List.map_cons, Ethers.readArguments, read_convertBigNumber here, ih later,
            Option.bind_eq_bind, Option.bind_some]

theorem encodeContractFunctionCalldata_converted {contractName functionSignature : Text}
    {callData : Text}
    (encoded : encodeContractFunctionCalldata ethers contractName functionSignature requestData =
      some callData) :
    encodeContractFunctionCalldata ethers contractName functionSignature
      (_convertBigNumberValuesToString requestData) = some callData := by
  have values : ((_convertBigNumberValuesToString requestData).omitKeys [DESTINATION]).values =
      (requestData.omitKeys [DESTINATION]).values.map JsValue.convertBigNumber := by
    simp only [Record.values, Record.omitKeys, _convertBigNumberValuesToString, Record.mapValues,
      List.filter_map, List.map_map]
    rfl
  simp only [encodeContractFunctionCalldata, Ethers.encodeFunctionData, Option.bind_eq_bind,
    Option.bind_eq_some_iff, values] at encoded ⊢
  obtain ⟨fragment, found, arguments, read, accepted⟩ := encoded
  exact ⟨fragment, found, arguments, readArguments_converted read, accepted⟩

def messageOf (from_ nonce : JsValue) (data : JsObject) : JsObject :=
  ((Record.empty.set FROM from_).set NONCE nonce).assign data.entries

theorem get?_messageOf (from_ nonce : JsValue) (data : JsObject) (name : Text) :
    (messageOf from_ nonce data).get? name = (data.get? name).or
      (if name = NONCE then some nonce else if name = FROM then some from_ else none) := by
  rw [messageOf, Record.get?_assign, Record.get?_set, Record.get?_set]
  rfl

end Messages

section Digests

variable {evm : Evm} {ethers : Ethers} {requestTypeKey : Text} {fields : Record Text AbiType}
  {destined : Bool} {requestData message : JsObject} {members : List Argument}
  {account : address.Value} {number : uint256.Value} {data : Bytes}

def frontMembers (fields : Record Text AbiType) (account : address.Value)
    (number : uint256.Value) (data : Bytes) : List Argument :=
  [⟨address, account⟩, ⟨uint256, number⟩] ++
    if fields.values.any isDynamicArrayType then [⟨.bytes, data⟩] else []

structure ShowsRequest (ethers : Ethers) (fields : Record Text AbiType) (destined : Bool)
    (requestData : JsObject) (account : address.Value) (number : uint256.Value)
    (message : JsObject) : Prop where
  sender : (message.get? FROM).bind (ethers.read address) = some account
  nonce : (message.get? NONCE).bind (ethers.read uint256) = some number
  request : ∀ field ∈ requestFields fields destined, message.get? field.name =
    (requestData.get? field.name).map JsValue.convertBigNumber

/-- The message shows the call data too if there are to be any. -/
structure Shows (ethers : Ethers) (fields : Record Text AbiType) (destined : Bool)
    (requestData : JsObject) (account : address.Value) (number : uint256.Value) (data : Bytes)
    (message : JsObject) : Prop
    extends ShowsRequest ethers fields destined requestData account number message where
  data : fields.values.any isDynamicArrayType = true →
    (message.get? DATA).bind (ethers.read .bytes) = some data

theorem Shows.readMembers
    (shows_ : Shows ethers fields destined requestData account number data message)
    (read : ethers.readMembers requestData (requestFields fields destined) = some members) :
    ethers.readMembers message (messageFields fields destined) =
      some (frontMembers fields account number data ++ members) := by
  have generic : ethers.readMembers message GenericParamTypes =
      some [⟨address, account⟩, ⟨uint256, number⟩] := by
    obtain ⟨from_, shown, sender⟩ := Option.bind_eq_some_iff.mp shows_.sender
    obtain ⟨nonce, shown', counted⟩ := Option.bind_eq_some_iff.mp shows_.nonce
    simp only [GenericParamTypes, Ethers.readMembers, shown, shown', sender, counted,
      Option.bind_eq_bind, Option.bind_some]
  have called : ethers.readMembers message (dataField fields) =
      some (if fields.values.any isDynamicArrayType then [⟨.bytes, data⟩] else []) := by
    unfold dataField
    by_cases dynamic : fields.values.any isDynamicArrayType = true
    · obtain ⟨callData, shown, bytes⟩ := Option.bind_eq_some_iff.mp (shows_.data dynamic)
      simp only [dynamic, if_true, Ethers.readMembers, shown, bytes, Option.bind_eq_bind,
        Option.bind_some]
      rfl
    · simp only [dynamic, Bool.false_eq_true, if_false, Ethers.readMembers]
  simp only [messageFields, readMembers_append, generic, called,
    readMembers_converted shows_.request read, Option.bind_eq_bind, Option.bind_some, frontMembers]

theorem Shows.encodeData (evm : Evm) (requestTypeKey : Text)
    (shows_ : Shows ethers fields destined requestData account number data message)
    (unreserved : ∀ name ∈ fields.keys, name ∉ reservedNames)
    (read : ethers.readMembers requestData (requestFields fields destined) = some members) :
    ethers.encodeData evm requestTypeKey (messageFields fields destined) message =
      some (wordBytes (typeHashOf evm requestTypeKey (messageFields fields destined)) ++
        encodeMembers evm.keccak256 (frontMembers fields account number data) ++
        encodeMembers evm.keccak256 members) := by
  have distinct : ((messageFields fields destined).map TypedDataField.name).Nodup :=
    types_distinct unreserved
  rw [Ethers.encodeData, if_neg (not_not_intro distinct), shows_.readMembers read]
  simp only [Option.bind_eq_bind, Option.bind_some, encodeMembers, List.flatMap_append,
    List.append_assoc]

/-- The requests of a list of fields, whose own names are none of those all requests have. -/
structure Requested (ethers : Ethers) (fields : Record Text AbiType) (destined : Bool)
    (requestData : JsObject) : Prop where
  unreserved : ∀ name ∈ fields.keys, name ∉ reservedNames
  valid : Valid ethers (requestFields fields destined) requestData

theorem Requested.absent (requested : Requested ethers fields destined requestData) {name : Text}
    (generic : name = FROM ∨ name = NONCE ∨ name = DATA) : requestData.get? name = none := by
  rw [Record.get?_eq_none_iff]
  intro listed
  obtain ⟨notFrom, notNonce, notData⟩ :=
    requestFields_apart requested.unreserved name (requested.valid.known name listed)
  rcases generic with same | same | same
  · exact notFrom same
  · exact notNonce same
  · exact notData same

theorem Requested.typedParams (requested : Requested ethers fields destined requestData) :
    _requestParamsToTypedParams requestData = requestData.mapValues JsValue.convertBigNumber := by
  rw [_requestParamsToTypedParams, _removeUnderscoreFromKeys_plain requested.valid.plain]
  rfl

theorem Requested.apart (requested : Requested ethers fields destined requestData)
    {field : TypedDataField} (listed : field ∈ requestFields fields destined) :
    field.name ≠ FROM ∧ field.name ≠ NONCE ∧ field.name ≠ DATA :=
  requestFields_apart requested.unreserved field.name (List.mem_map_of_mem listed)

theorem Requested.typedParams_get? (requested : Requested ethers fields destined requestData)
    (name : Text) : (_requestParamsToTypedParams requestData).get? name =
      (requestData.get? name).map JsValue.convertBigNumber := by
  rw [requested.typedParams, Record.get?_mapValues]

theorem Requested.showsRequest (requested : Requested ethers fields destined requestData)
    {from_ nonce : JsValue} {shown : JsObject}
    (same : ∀ name, name ≠ DATA →
      shown.get? name = (requestData.get? name).map JsValue.convertBigNumber)
    (sender : ethers.read address from_ = some account)
    (counted : ethers.read uint256 nonce = some number) :
    ShowsRequest ethers fields destined requestData account number
      (messageOf from_ nonce shown) := by
  have none_ : ∀ name, name = FROM ∨ name = NONCE → shown.get? name = none := by
    rintro name (rfl | rfl)
    · rw [same FROM (by decide), requested.absent (Or.inl rfl), Option.map_none]
    · rw [same NONCE (by decide), requested.absent (Or.inr (Or.inl rfl)), Option.map_none]
  refine ⟨?_, ?_, ?_⟩
  · rw [get?_messageOf, none_ FROM (Or.inl rfl), if_neg (by decide), if_pos rfl, Option.none_or,
      Option.bind_some]
    exact sender
  · rw [get?_messageOf, none_ NONCE (Or.inr rfl), if_pos rfl, Option.none_or, Option.bind_some]
    exact counted
  · intro field listed
    obtain ⟨notFrom, notNonce, notData⟩ := requested.apart listed
    rw [get?_messageOf, if_neg notNonce, if_neg notFrom, Option.or_none, same _ notData]

theorem ShowsRequest.set (requested : Requested ethers fields destined requestData)
    (shows_ : ShowsRequest ethers fields destined requestData account number message)
    {value : JsValue} (read : ethers.read .bytes value = some data) :
    Shows ethers fields destined requestData account number data (message.set DATA value) := by
  refine ⟨⟨?_, ?_, ?_⟩, fun _ => ?_⟩
  · rw [Record.get?_set, if_neg (by decide)]
    exact shows_.sender
  · rw [Record.get?_set, if_neg (by decide)]
    exact shows_.nonce
  · intro field listed
    rw [Record.get?_set, if_neg (requested.apart listed).2.2]
    exact shows_.request field listed
  · rw [Record.get?_set, if_pos rfl, Option.bind_some]
    exact read

@[simp] theorem length_frontMembers (hash : Bytes → BitVec 256) :
    (encodeMembers hash (frontMembers fields account number data)).length =
      64 + if fields.values.any isDynamicArrayType then 32 else 0 := by
  rw [length_encodeMembers, frontMembers]
  split <;> rfl

/-- The type hash, the generic fields and the dummy call data are what is cut off. -/
theorem ShowsRequest.cut (evm : Evm) (requestTypeKey : Text)
    (requested : Requested ethers fields destined requestData)
    (shows_ : ShowsRequest ethers fields destined requestData account number message)
    (read : ethers.readMembers requestData (requestFields fields destined) = some members) :
    (do
      let encodedData ← ethers.encodeData evm requestTypeKey (messageFields fields destined)
        (if fields.values.any isDynamicArrayType = true then
          message.set DATA (.string "0x00".toList)
        else message)
      some ("0x".toList ++ (hexlify encodedData).drop
        (if fields.values.any isDynamicArrayType = true then 194 + 64 else 194))) =
      some (hexlify (encodeMembers evm.keccak256 members)) := by
  have dummy : ethers.read .bytes (.string "0x00".toList) = some [0] := ethers.read_bytes [0]
  have shown : ∃ data, Shows ethers fields destined requestData account number data
      (if fields.values.any isDynamicArrayType = true then
        message.set DATA (.string "0x00".toList) else message) := by
    by_cases dynamic : fields.values.any isDynamicArrayType = true
    · rw [if_pos dynamic]
      exact ⟨[0], shows_.set requested dummy⟩
    · rw [if_neg dynamic]
      exact ⟨[], shows_, fun some_ => absurd some_ dynamic⟩
  obtain ⟨data, shown⟩ := shown
  have encoded := shown.encodeData evm requestTypeKey requested.unreserved read
  rw [encoded, Option.bind_eq_bind, Option.bind_some]
  generalize parts : wordBytes (typeHashOf evm requestTypeKey (messageFields fields destined)) ++
    encodeMembers evm.keccak256 (frontMembers fields account number data) = front
  have size : (if fields.values.any isDynamicArrayType = true then 194 + 64 else 194) =
      2 + 2 * front.length := by
    rw [← parts, List.length_append, length_frontMembers, wordBytes, length_encodeBE]
    split <;> rfl
  rw [size, drop_hexlify]
  rfl

/-- The suffix data are the request's own members. -/
theorem Requested.encodeSuffixData (requested : Requested ethers fields destined requestData)
    {metaTxRequest : MetaTxRequest}
    (types : metaTxRequest.eip712Types = messageFields fields destined)
    (required : metaTxRequest.requiresDataField = fields.values.any isDynamicArrayType)
    (read : ethers.readMembers requestData (requestFields fields destined) = some members) :
    encodeSuffixData evm ethers requestTypeKey metaTxRequest requestData =
      some (hexlify (encodeMembers evm.keccak256 members)) := by
  have generic := requested.showsRequest (fun name _ => requested.typedParams_get? name)
    ethers.read_zeroAddress ethers.read_one
  have cut := generic.cut evm requestTypeKey requested read
  rw [← required, ← types] at cut
  exact cut

theorem encodeAddress_word (account : address.Value) :
    encodeAddress (account.val.setWidth 160) = wordBytes account.val := by
  have bound : account.val.toNat < 256 ^ 20 := account.property
  rw [encodeAddress, wordBytes, BitVec.toNat_setWidth, Nat.mod_eq_of_lt (by omega)]

/-- The forwarder puts together the bytes that the client hashes. -/
theorem encodedStruct_members {typeHash : Bytes32} {callData : Bytes}
    (filled : 0 < callData.length ↔ fields.values.any isDynamicArrayType = true) :
    encodedStruct evm ⟨typeHash, account.val.setWidth 160, number.val,
        encodeMembers evm.keccak256 members, callData⟩ =
      wordBytes typeHash ++
        encodeMembers evm.keccak256 (frontMembers fields account number callData) ++
        encodeMembers evm.keccak256 members := by
  simp only [encodedStruct, encodeAddress_word, frontMembers, filled]
  split
  · simp only [encodeMembers, List.flatMap_append, List.flatMap_cons, List.flatMap_nil,
      List.append_assoc, List.append_nil]
    rfl
  · simp only [encodeMembers, List.flatMap_cons, List.flatMap_nil, List.append_assoc,
      List.append_nil]
    rfl

set_option maxRecDepth 4000 in
theorem domainType_text : toUtf8Bytes (encodeType "EIP712Domain".toList EIP712DomainTypes) =
    ascii "EIP712Domain(string name,string version,uint256 chainId,address verifyingContract)" := by
  decide

theorem domain_texts : toUtf8Bytes "Startrail".toList = DOMAIN_NAME ∧
    toUtf8Bytes "1".toList = DOMAIN_VERSION := by
  decide

theorem domainSeparatorOf_eq (deployment : Deployment) : domainSeparatorOf deployment =
    deployment.evm.keccak256 (
      packWord (typeHashOf deployment.evm "EIP712Domain".toList EIP712DomainTypes) ++
      packWord (deployment.evm.keccak256 (toUtf8Bytes "Startrail".toList)) ++
      packWord (deployment.evm.keccak256 (toUtf8Bytes "1".toList)) ++
      packWord deployment.evm.chainid ++ encodeAddress deployment.this) := by
  rw [typeHashOf, domainType_text, domain_texts.1, domain_texts.2, domainSeparatorOf]

theorem digest_eq {deployment : Deployment} {typedData : EIP712TypedData}
    {types : List TypedDataField} {encodedData : Bytes}
    (domain : typedData.domain =
      (EIP712TypedDataBuilder.new deployment.evm.chainid deployment.this).domainData)
    (primary : typedData.types.get? typedData.primaryType = some types)
    (encoded : ethers.encodeData deployment.evm typedData.primaryType types typedData.message =
      some encodedData) :
    typedData.digest deployment.evm ethers = some (deployment.evm.keccak256 ([0x19, 0x01] ++
      packWord (domainSeparatorOf deployment) ++
        packWord (deployment.evm.keccak256 encodedData))) := by
  rw [EIP712TypedData.digest, primary, Option.bind_eq_bind, Option.bind_some, encoded,
    Option.bind_eq_bind, Option.bind_some, domain, domainSeparatorOf_eq]
  rfl

theorem SameKind.atomic {type : AtomicType} {other : AbiType}
    (kind : SameKind (.atomic type) other) :
    ∃ other', other = .atomic other' := by
  cases other with
  | atomic other' => exact ⟨other', rfl⟩
  | _ => cases type <;> cases kind

theorem readArguments_word (evm : Evm) {entries : List (Text × AbiType)} {inputs : List AbiType}
    {arguments : List Argument}
    (atomic : ∀ entry ∈ entries, isDynamicArrayType entry.2 = false)
    (kinds : List.Forall₂ SameKind (entries.map Prod.snd) inputs)
    (read : ethers.readMembers requestData (entries.map fun entry => ⟨entry.1, entry.2⟩) =
      some members)
    (called : ethers.readArguments inputs
      ((entries.map Prod.fst).filterMap requestData.get?) = some arguments) :
    encodeMembers evm.keccak256 members = encodeMembers evm.keccak256 arguments ∧
      ∀ argument ∈ arguments, argument.1.isAtomic = true := by
  induction entries generalizing inputs members arguments with
  | nil =>
      cases kinds
      cases read
      cases called
      simp
  | cons entry entries ih =>
      obtain ⟨name, type⟩ := entry
      cases kinds with
      | cons kind kinds =>
          rename_i input inputs
          simp only [List.map_cons, Ethers.readMembers, Option.bind_eq_bind,
            Option.bind_eq_some_iff, Option.some.injEq] at read
          obtain ⟨value, held, member, here, rest, later, rfl⟩ := read
          simp only [List.map_cons, List.filterMap_cons_some held, Ethers.readArguments,
            Option.bind_eq_bind, Option.bind_eq_some_iff, Option.some.injEq] at called
          obtain ⟨argument, passed, others, after, rfl⟩ := called
          obtain ⟨same, words⟩ :=
            ih (fun other belongs => atomic other (by simp [belongs])) kinds later after
          have flat : isDynamicArrayType type = false := atomic (name, type) (by simp)
          cases type with
          | atomic type =>
              obtain ⟨input, rfl⟩ := kind.atomic
              have word : member.val = argument.val := ethers.read_width kind here passed
              refine ⟨?_, ?_⟩
              · change wordBytes member.val ++ encodeMembers evm.keccak256 rest =
                  wordBytes argument.val ++ encodeMembers evm.keccak256 others
                rw [word, same]
              · exact List.forall_mem_cons.mpr ⟨rfl, words⟩
          | _ => cases flat

theorem requestFields_members (evm : Evm)
    (read : ethers.readMembers requestData (requestFields fields destined) = some members) :
    ∃ rest, ethers.readMembers requestData
        (fields.entries.map fun field => ⟨field.1, field.2⟩) = some rest ∧
      encodeMembers evm.keccak256 rest =
        if destined then (encodeMembers evm.keccak256 members).drop 32
        else encodeMembers evm.keccak256 members := by
  cases destined with
  | false => exact ⟨members, read, rfl⟩
  | true =>
      simp only [requestFields, if_true, List.singleton_append, Ethers.readMembers,
        Option.bind_eq_bind, Option.bind_eq_some_iff, Option.some.injEq] at read
      obtain ⟨_, _, destination, _, rest, later, rfl⟩ := read
      exact ⟨rest, later, rfl⟩

end Digests

/-- What a request type is made of and what a client asks for with it. -/
structure RequestInput where
  requestTypeKey : Text
  fields : Record Text AbiType
  destined : Bool
  contractName : Text
  functionSignature : Text
  adminCanCall : Bool
  destinationAddressProvided : Bool
  from_ : JsValue
  nonce : JsValue
  requestData : JsObject

namespace RequestInput

def metaTxRequest (evm : Evm) (input : RequestInput) : Option MetaTxRequest :=
  (typeList input.fields input.destined).map fun types =>
    buildMetaTxRequest evm input.requestTypeKey types input.contractName input.functionSignature
      input.adminCanCall input.destinationAddressProvided

def dynamic (input : RequestInput) : Bool := input.fields.values.any isDynamicArrayType

def values (input : RequestInput) : List JsValue :=
  input.fields.keys.filterMap input.requestData.get?

structure Legal (ethers : Ethers) (input : RequestInput) : Prop where
  sender : ∃ account, ethers.read address input.from_ = some account
  counted : ∃ number, ethers.read uint256 input.nonce = some number
  valid : Valid ethers (requestFields input.fields input.destined) input.requestData
  callable : input.dynamic = true → ∃ fragment arguments,
    ethers.getFunction input.contractName input.functionSignature = some fragment ∧
      ethers.readArguments fragment.inputs (input.requestData.omitKeys [DESTINATION]).values =
        some arguments ∧ Encodable arguments

/-- The client signs what the forwarder checks, sends call data exactly if a field is dynamic, and
otherwise the forwarder itself calls the function with the values of the fields. -/
def Agrees (deployment : Deployment) (state : State) (ethers : Ethers) (input : RequestInput)
    (signatures : List Text) (encodeType : EncodeType) : Prop :=
  ∃ metaTxRequest typedData props _request digest,
    input.metaTxRequest deployment.evm = some metaTxRequest ∧
    (EIP712TypedDataBuilder.new deployment.evm.chainid deployment.this).build ethers
        input.requestTypeKey metaTxRequest input.from_ input.nonce input.requestData =
      some typedData ∧
    encodeExecuteTransactionProps deployment.evm ethers input.requestTypeKey metaTxRequest
        input.from_ input.nonce input.requestData signatures encodeType = some props ∧
    props._request.sent ethers = some _request ∧
    typedData.digest deployment.evm ethers = some digest ∧
    (state.typeHashes _request.typeHash = true → ∃ encoded,
      encodeRequest deployment.evm state _request = .ok encoded ∧
        digest = deployment.evm.keccak256 encoded) ∧
    (_request.callData = [] ↔ input.dynamic = false) ∧
    (input.dynamic = false → ∀ (fragment : FunctionFragment) (arguments : List Argument)
        (destination : Address),
      List.Forall₂ SameKind input.fields.values fragment.inputs →
      ethers.readArguments fragment.inputs input.values = some arguments →
      state.requestTypes _request.typeHash = ⟨destination, fragment.selector⟩ →
      (destination = 0 ↔ input.destined = true) →
        callDataOf state _request =
          packWord fragment.selector ++ encode arguments ++ packWord _request.from_)

end RequestInput

theorem encodeContractFunctionCalldata_eq {ethers : Ethers} {contractName functionSignature : Text}
    {requestData : JsObject} {fragment : FunctionFragment} {arguments : List Argument}
    (found : ethers.getFunction contractName functionSignature = some fragment)
    (read : ethers.readArguments fragment.inputs (requestData.omitKeys [DESTINATION]).values =
      some arguments) (encodable : Encodable arguments) :
    encodeContractFunctionCalldata ethers contractName functionSignature requestData =
      some (hexlify (packWord fragment.selector ++ encode arguments)) := by
  simp only [encodeContractFunctionCalldata, found, Ethers.encodeFunctionData, read, encodable,
    if_true, Option.bind_eq_bind, Option.bind_some]

/-- The call data of a request whose fields are not all atomic, and none otherwise. -/
structure Called (ethers : Ethers) (input : RequestInput) (callData : Bytes) : Prop where
  filled : 0 < callData.length ↔ input.dynamic = true
  encoded : input.dynamic = true → encodeContractFunctionCalldata ethers input.contractName
    input.functionSignature input.requestData = some (hexlify callData)

theorem RequestInput.Legal.called {ethers : Ethers} {input : RequestInput}
    (legal : input.Legal ethers) : ∃ callData, Called ethers input callData := by
  cases dynamic : input.dynamic with
  | false => exact ⟨[], by simp [dynamic], by simp [dynamic]⟩
  | true =>
      obtain ⟨fragment, arguments, found, read, encodable⟩ := legal.callable dynamic
      refine ⟨_, ?_, fun _ => encodeContractFunctionCalldata_eq found read encodable⟩
      simp [dynamic]

theorem Called.none {ethers : Ethers} {input : RequestInput} {callData : Bytes}
    (called : Called ethers input callData) (static : input.dynamic = false) : callData = [] := by
  apply List.eq_nil_of_length_eq_zero
  apply Nat.eq_zero_of_not_pos
  intro filled
  rw [called.filled, static] at filled
  cases filled

/-- The request type that the registry builds from the list of fields. -/
structure Describes (evm : Evm) (input : RequestInput) (metaTxRequest : MetaTxRequest) :
    Prop where
  types : metaTxRequest.eip712Types = messageFields input.fields input.destined
  typeHash : metaTxRequest.eip712TypeHash =
    typeHashOf evm input.requestTypeKey (messageFields input.fields input.destined)
  contract : metaTxRequest.destinationContract = input.contractName
  signature : metaTxRequest.functionSignature = input.functionSignature
  required : metaTxRequest.requiresDataField = input.dynamic

section Request

variable {evm : Evm} {ethers : Ethers} {input : RequestInput} {metaTxRequest : MetaTxRequest}
  {account : address.Value} {number : uint256.Value} {callData : Bytes} {members : List Argument}

theorem RequestInput.describes (registered : input.metaTxRequest evm = some metaTxRequest)
    (unreserved : ∀ name ∈ input.fields.keys, name ∉ reservedNames) :
    Describes evm input metaTxRequest := by
  obtain ⟨types, listed, rfl⟩ := Option.map_eq_some_iff.mp registered
  rw [typeList_eq unreserved listed]
  exact ⟨rfl, rfl, rfl, rfl, requiresDataField_eq unreserved⟩

theorem build_shows (builder : EIP712TypedDataBuilder)
    (describes : Describes evm input metaTxRequest)
    (requested : Requested ethers input.fields input.destined input.requestData)
    (called : Called ethers input callData)
    (sender : ethers.read address input.from_ = some account)
    (counted : ethers.read uint256 input.nonce = some number) :
    ∃ typedData, builder.build ethers input.requestTypeKey metaTxRequest input.from_ input.nonce
        input.requestData = some typedData ∧
      typedData.domain = builder.domainData ∧ typedData.primaryType = input.requestTypeKey ∧
      typedData.types.get? input.requestTypeKey =
        some (messageFields input.fields input.destined) ∧
      Shows ethers input.fields input.destined input.requestData account number callData
        typedData.message := by
  have counted' := read_convertBigNumber counted
  unfold EIP712TypedDataBuilder.build
  rw [describes.required, describes.contract, describes.signature, describes.types]
  cases dynamic : input.dynamic with
  | false =>
      refine ⟨_, rfl, rfl, rfl, by rw [Record.get?_set, if_pos rfl], ?_, ?_⟩
      · exact requested.showsRequest (fun name _ => requested.typedParams_get? name) sender counted'
      · intro some_
        rw [RequestInput.dynamic, some_] at dynamic
        cases dynamic
  | true =>
      have encoded := encodeContractFunctionCalldata_converted (called.encoded dynamic)
      have params : _requestParamsToTypedParams input.requestData =
          _convertBigNumberValuesToString input.requestData := requested.typedParams
      rw [← params] at encoded
      simp only [if_true, encoded, Option.bind_eq_bind, Option.bind_some]
      refine ⟨_, rfl, rfl, rfl, by rw [Record.get?_set, if_pos rfl], ?_, fun _ => ?_⟩
      · refine requested.showsRequest (fun name other => ?_) sender counted'
        rw [Record.get?_set, if_neg other, requested.typedParams_get?]
      · change ((messageOf _ _ _).get? DATA).bind _ = _
        rw [get?_messageOf, Record.get?_set, if_pos rfl, Option.some_or, Option.bind_some]
        exact ethers.read_bytes callData

theorem encodeExecuteTransactionProps_sent (describes : Describes evm input metaTxRequest)
    (requested : Requested ethers input.fields input.destined input.requestData)
    (called : Called ethers input callData)
    (sender : ethers.read address input.from_ = some account)
    (counted : ethers.read uint256 input.nonce = some number)
    (read : ethers.readMembers input.requestData (requestFields input.fields input.destined) =
      some members) (signatures : List Text) (encodeType : EncodeType) :
    ∃ props, encodeExecuteTransactionProps evm ethers input.requestTypeKey metaTxRequest
        input.from_ input.nonce input.requestData signatures encodeType = some props ∧
      props._request.sent ethers = some ⟨metaTxRequest.eip712TypeHash, account.val.setWidth 160,
        number.val, encodeMembers evm.keccak256 members, callData⟩ := by
  have suffix : encodeSuffixData evm ethers input.requestTypeKey metaTxRequest
      input.requestData = _ :=
    requested.encodeSuffixData describes.types describes.required read
  have text : (if metaTxRequest.requiresDataField = true then
      encodeContractFunctionCalldata ethers metaTxRequest.destinationContract
        metaTxRequest.functionSignature input.requestData
      else some "0x".toList) = some (hexlify callData) := by
    rw [describes.required, describes.contract, describes.signature]
    cases dynamic : input.dynamic with
    | false =>
        rw [called.none dynamic]
        rfl
    | true => exact called.encoded dynamic
  have sent : ExecutionRequest.sent ⟨metaTxRequest.eip712TypeHash, input.from_, input.nonce,
      hexlify (encodeMembers evm.keccak256 members), hexlify callData⟩ ethers =
        some ⟨metaTxRequest.eip712TypeHash, account.val.setWidth 160, number.val,
          encodeMembers evm.keccak256 members, callData⟩ := by
    simp only [ExecutionRequest.sent, sender, counted, ethers.read_bytes, Option.bind_eq_bind,
      Option.bind_some]
    rfl
  unfold encodeExecuteTransactionProps
  rw [suffix, text]
  cases encodeType with
  | SingleSig => exact ⟨_, rfl, sent⟩
  | MultiSig => exact ⟨_, rfl, sent⟩

end Request

theorem encodeRequest_ok {evm : Evm} {state : State} {_request : MetaTxForwarder.ExecutionRequest}
    (known : state.typeHashes _request.typeHash = true) :
    encodeRequest evm state _request = .ok ([0x19] ++ [0x01] ++ packWord state.domainSeparator ++
      packWord (evm.keccak256 (encodedStruct evm _request))) := by
  simp only [encodeRequest, requestTypeRegistered, bind_eq_ok, require_eq_ok]
  exact ⟨(), known, rfl⟩

/-- With a data field the call data are those of the destination's function. -/
theorem encodeExecuteTransactionProps_called {evm : Evm} {ethers : Ethers} {requestTypeKey : Text}
    {metaTxRequest : MetaTxRequest} {from_ nonce : JsValue} {requestData : JsObject}
    {signatures : List Text} {encodeType : EncodeType} {props : ExecuteTransactionProps}
    (required : metaTxRequest.requiresDataField = true)
    (encoded : encodeExecuteTransactionProps evm ethers requestTypeKey metaTxRequest from_ nonce
      requestData signatures encodeType = some props) :
    encodeContractFunctionCalldata ethers metaTxRequest.destinationContract
      metaTxRequest.functionSignature requestData = some props._request.callData := by
  simp only [encodeExecuteTransactionProps, required, if_true, Option.bind_eq_bind,
    Option.bind_eq_some_iff] at encoded
  obtain ⟨_, _, callData, called, made⟩ := encoded
  cases encodeType with
  | SingleSig =>
      cases made
      exact called
  | MultiSig =>
      cases made
      exact called

theorem sent_callData {ethers : Ethers} {request : ExecutionRequest}
    {_request : MetaTxForwarder.ExecutionRequest} {callData : Bytes}
    (text : request.callData = hexlify callData) (sent : request.sent ethers = some _request) :
    _request.callData = callData := by
  simp only [ExecutionRequest.sent, text, ethers.read_bytes, Option.bind_eq_bind,
    Option.bind_eq_some_iff] at sent
  obtain ⟨_, _, _, _, _, _, made⟩ := sent
  cases made
  rfl

/-- What the client makes of a request, and what the forwarder gets of it. -/
theorem pipeline (deployment : Deployment) {ethers : Ethers} {input : RequestInput}
    {metaTxRequest : MetaTxRequest}
    (registered : input.metaTxRequest deployment.evm = some metaTxRequest)
    (unreserved : ∀ name ∈ input.fields.keys, name ∉ reservedNames) (legal : input.Legal ethers)
    (signatures : List Text) (encodeType : EncodeType) :
    ∃ (typedData : EIP712TypedData) (props : ExecuteTransactionProps) (account : address.Value)
      (number : uint256.Value) (callData : Bytes) (members : List Argument),
      (EIP712TypedDataBuilder.new deployment.evm.chainid deployment.this).build ethers
          input.requestTypeKey metaTxRequest input.from_ input.nonce input.requestData =
        some typedData ∧
      encodeExecuteTransactionProps deployment.evm ethers input.requestTypeKey metaTxRequest
          input.from_ input.nonce input.requestData signatures encodeType = some props ∧
      Called ethers input callData ∧
      ethers.readMembers input.requestData (requestFields input.fields input.destined) =
        some members ∧
      props._request.sent ethers = some ⟨metaTxRequest.eip712TypeHash, account.val.setWidth 160,
        number.val, encodeMembers deployment.evm.keccak256 members, callData⟩ ∧
      typedData.digest deployment.evm ethers = some (deployment.evm.keccak256 ([0x19, 0x01] ++
        packWord (domainSeparatorOf deployment) ++
          packWord (deployment.evm.keccak256 (encodedStruct deployment.evm
            ⟨metaTxRequest.eip712TypeHash, account.val.setWidth 160, number.val,
              encodeMembers deployment.evm.keccak256 members, callData⟩)))) := by
  have describes := RequestInput.describes registered unreserved
  have requested : Requested ethers input.fields input.destined input.requestData :=
    ⟨unreserved, legal.valid⟩
  obtain ⟨account, sender⟩ := legal.sender
  obtain ⟨number, counted⟩ := legal.counted
  obtain ⟨callData, called⟩ := legal.called
  obtain ⟨members, read⟩ := readMembers_isSome legal.valid.read
  obtain ⟨typedData, built, domain, primary, types, shows_⟩ :=
    build_shows (EIP712TypedDataBuilder.new deployment.evm.chainid deployment.this) describes
      requested called sender counted
  obtain ⟨props, encoded, sent⟩ := encodeExecuteTransactionProps_sent describes requested called
    sender counted read signatures encodeType
  have hashed := shows_.encodeData deployment.evm input.requestTypeKey unreserved read
  rw [← primary] at types hashed
  refine ⟨typedData, props, account, number, callData, members, built, encoded, called, read,
    sent, ?_⟩
  rw [encodedStruct_members called.filled, describes.typeHash, ← primary]
  exact digest_eq domain types hashed

theorem client_digest (deployment : Deployment) (origin : State)
    (config : Config Revert State Query Answer Transaction) (deployed : Deployed deployment origin)
    (reach : Reach (entry deployment) (fun _ _ => True) origin config) (ethers : Ethers)
    (input : RequestInput) (metaTxRequest : MetaTxRequest)
    (registered : input.metaTxRequest deployment.evm = some metaTxRequest)
    (unreserved : ∀ name ∈ input.fields.keys, name ∉ reservedNames)
    (legal : input.Legal ethers) (signatures : List Text) (encodeType : EncodeType) :
    input.Agrees deployment config.now.state ethers signatures encodeType := by
  obtain ⟨typedData, props, account, number, callData, members, built, encoded, called, read, sent,
    signed⟩ := pipeline deployment registered unreserved legal signatures encodeType
  have separator : config.now.state.domainSeparator = domainSeparatorOf deployment := by
    rw [(reach_safe deployed reach).logged.domain]
    obtain ⟨_nameRegistry, made⟩ := deployed
    simp only [initializeV1, bind_eq_ok, pure_eq_ok] at made
    obtain ⟨_, _, _, _, _, _, rfl⟩ := made
    rfl
  refine ⟨metaTxRequest, typedData, props, _, _, registered, built, encoded, sent, signed, ?_, ?_,
    ?_⟩
  · intro known
    refine ⟨_, encodeRequest_ok known, ?_⟩
    rw [separator]
    rfl
  · constructor
    · intro empty
      cases dynamic : input.dynamic with
      | false => rfl
      | true =>
          have filled := called.filled.mpr dynamic
          rw [show callData = [] from empty] at filled
          cases filled
    · exact called.none
  · intro static fragment arguments destination kinds passed known destined
    obtain ⟨rest, later, words⟩ := requestFields_members deployment.evm read
    have atomic : ∀ entry ∈ input.fields.entries, isDynamicArrayType entry.2 = false := by
      intro entry belongs
      have none_ := List.any_eq_false.mp static entry.2 (List.mem_map_of_mem belongs)
      exact Bool.eq_false_of_not_eq_true none_
    obtain ⟨same, atomic⟩ := readArguments_word deployment.evm atomic kinds later passed
    rw [encodeMembers_atomic atomic] at same
    rw [callDataOf, known, called.none static, ← same, words]
    change (packWord fragment.selector ++ (if destination = 0 then _ else _)) ++ _ = _
    simp only [destined]

section Plain

def wordFor : AtomicType → JsValue → Option (BitVec 256)
  | .uint _, .number value =>
      if 0 ≤ value ∧ value < 2 ^ 256 then some (BitVec.ofInt 256 value) else none
  | .int _, .number value =>
      if -2 ^ 255 ≤ value ∧ value < 2 ^ 255 then some (BitVec.ofInt 256 value) else none
  | .address, .string text => do
      let bytes ← arrayify text
      if bytes.length = 20 then some (wordOf bytes) else none
  | .bool, .boolean value => some (if value then 1 else 0)
  | .bool, .string text => some (if text = [] then 0 else 1)
  | .bytesN size, .string text => do
      let bytes ← arrayify text
      if bytes.length = size.val + 1 then
        some (wordOf (bytes ++ List.replicate (31 - size.val) 0))
      else none
  | _, _ => none

def plainWord (type : AtomicType) (value : JsValue) : Option type.Value := do
  let word ← wordFor type value
  if holds : type.Holds word then some ⟨word, holds⟩ else none

def plainRead : (type : AbiType) → JsValue → Option type.Value
  | .atomic type, value => plainWord type value
  | .string, .string text => some (toUtf8Bytes text)
  | .bytes, .string text => arrayify text
  | .bytes, .bytes value => some value
  | .array type, .array values => values.mapM (plainWord type)
  | _, _ => none

theorem plainWord_word {type : AtomicType} {value : JsValue} {word : type.Value}
    (read : plainWord type value = some word) : wordFor type value = some word.val := by
  simp only [plainWord, Option.bind_eq_bind, Option.bind_eq_some_iff] at read
  obtain ⟨bits, found, read⟩ := read
  split at read
  · cases read
    exact found
  · cases read

theorem wordFor_width {type other : AtomicType} (kind : SameKind (.atomic type) (.atomic other))
    (value : JsValue) : wordFor type value = wordFor other value := by
  cases type with
  | uint _ =>
      cases other with
      | uint _ => cases value <;> rfl
      | _ => cases kind
  | int _ =>
      cases other with
      | int _ => cases value <;> rfl
      | _ => cases kind
  | _ =>
      cases kind
      rfl

theorem plainWord_of {type : AtomicType} {value : JsValue} {word : BitVec 256}
    (found : wordFor type value = some word) (holds : type.Holds word) :
    plainWord type value = some ⟨word, holds⟩ := by
  simp only [plainWord, found, Option.bind_eq_bind, Option.bind_some, dif_pos holds]

theorem plainRead_zeroAddress :
    plainRead address (.string (hexlify (List.replicate 20 0))) = some zeroAddress :=
  plainWord_of (by decide) (by decide)

theorem plainRead_one : plainRead uint256 (.number 1) = some ⟨1, by decide⟩ :=
  plainWord_of (by decide) (by decide)

/-- Ethers for requests whose numbers are numbers. -/
def plainEthers (functions : List ((Text × Text) × FunctionFragment)) : Ethers where
  read := plainRead
  getFunction contractName functionSignature := functions.lookup (contractName, functionSignature)
  read_width := by
    intro type other value wide narrow kind first second
    have same := wordFor_width kind value
    rw [plainWord_word first, plainWord_word second] at same
    exact Option.some.inj same
  read_bigNumber := by
    intro type number value read
    cases type with
    | atomic type =>
        have word := plainWord_word read
        cases type <;> cases word
    | _ => cases read
  read_bytes := arrayify_hexlify
  read_zeroAddress := plainRead_zeroAddress
  read_one := plainRead_one

end Plain

section Requests

def renameEthers : Ethers :=
  plainEthers [(("LicensedUserManager".toList, "setOriginalName(address,string)".toList),
    ⟨0x5624edde, [address, .string]⟩)]

def renameInput : RequestInput where
  requestTypeKey := "WalletSetOriginalName".toList
  fields := ⟨[("wallet".toList, address), ("name".toList, .string)], by decide⟩
  destined := false
  contractName := "LicensedUserManager".toList
  functionSignature := "setOriginalName(address,string)".toList
  adminCanCall := true
  destinationAddressProvided := false
  from_ := .string (hexlify (packWord renameRequest.from_))
  nonce := .number 0
  requestData := ⟨[("wallet".toList, .string (hexlify (encodeBE 20 0x3a11))),
    ("name".toList, .string "Startbahn".toList)], by decide⟩

set_option maxRecDepth 2000 in
theorem renameInput_wallet : plainRead address (.string (hexlify (encodeBE 20 0x3a11))) =
    some ⟨0x3a11, by decide⟩ :=
  plainWord_of (by decide) (by decide)

theorem renameInput_valid : Valid renameEthers
    (requestFields renameInput.fields renameInput.destined) renameInput.requestData := by
  have fields : requestFields renameInput.fields renameInput.destined =
      [⟨"wallet".toList, address⟩, ⟨"name".toList, .string⟩] := rfl
  refine ⟨by decide, by decide, ?_⟩
  rw [fields, List.forall_mem_cons, List.forall_mem_singleton]
  exact ⟨⟨_, _, rfl, renameInput_wallet⟩, ⟨_, _, rfl, rfl⟩⟩

set_option maxRecDepth 2000 in
theorem renameInput_legal : renameInput.Legal renameEthers where
  sender := ⟨⟨0x7e5f4552091a69125d5dfcb7b8c2659029395bdf, by decide⟩,
    plainWord_of (by decide) (by decide)⟩
  counted := ⟨⟨0, by decide⟩, plainWord_of (by decide) (by decide)⟩
  valid := renameInput_valid
  callable := by
    intro _
    have arguments : renameEthers.readArguments [address, .string]
        (renameInput.requestData.omitKeys [DESTINATION]).values =
          some [⟨address, ⟨0x3a11, by decide⟩⟩, ⟨.string, toUtf8Bytes "Startbahn".toList⟩] := by
      change (do
        let wallet ← plainRead address (.string (hexlify (encodeBE 20 0x3a11)))
        some [(⟨address, wallet⟩ : Argument), ⟨.string, toUtf8Bytes "Startbahn".toList⟩]) = _
      rw [renameInput_wallet]
      rfl
    exact ⟨⟨0x5624edde, [address, .string]⟩, _, rfl, arguments, by decide⟩

def cancelEthers : Ethers :=
  plainEthers [(("StartrailRegistry".toList, "cancelSRRCommitment(uint256)".toList),
    ⟨0x4247794c, [uint256]⟩)]

def cancelInput : RequestInput where
  requestTypeKey := "StartrailRegistryCancelSRRCommitment".toList
  fields := ⟨[("tokenId".toList, uint256)], by decide⟩
  destined := false
  contractName := "StartrailRegistry".toList
  functionSignature := "cancelSRRCommitment(uint256)".toList
  adminCanCall := true
  destinationAddressProvided := false
  from_ := .string (hexlify (packWord renameRequest.from_))
  nonce := .number 0
  requestData := ⟨[("tokenId".toList, .number 1)], by decide⟩

set_option maxRecDepth 2000 in
theorem cancelInput_legal : cancelInput.Legal cancelEthers where
  sender := ⟨⟨0x7e5f4552091a69125d5dfcb7b8c2659029395bdf, by decide⟩,
    plainWord_of (by decide) (by decide)⟩
  counted := ⟨⟨0, by decide⟩, plainWord_of (by decide) (by decide)⟩
  valid := by
    have fields : requestFields cancelInput.fields cancelInput.destined =
        [⟨"tokenId".toList, uint256⟩] := rfl
    refine ⟨by decide, by decide, ?_⟩
    rw [fields, List.forall_mem_singleton]
    exact ⟨_, ⟨1, by decide⟩, rfl, plainWord_of (by decide) (by decide)⟩
  callable := fun dynamic => absurd dynamic (by decide)

theorem client_digest_rename :
    renameInput.Agrees requestDeployment registeredConfig.now.state renameEthers [] .MultiSig ∧
      cancelInput.Agrees requestDeployment registeredConfig.now.state cancelEthers [] .SingleSig := by
  constructor
  · exact client_digest requestDeployment deployedState registeredConfig deployedState_deployed
      registeredConfig_reach renameEthers renameInput _ rfl (by decide) renameInput_legal []
      .MultiSig
  · exact client_digest requestDeployment deployedState registeredConfig deployedState_deployed
      registeredConfig_reach cancelEthers cancelInput _ rfl (by decide) cancelInput_legal []
      .SingleSig

def flagEthers : Ethers :=
  plainEthers [(("StartrailRegistry".toList, "setData(bool)".toList),
    ⟨0xc0056c9a, [.atomic .bool]⟩)]

-- The name of the only field makes the registry ask for call data.
def flagInput : RequestInput where
  requestTypeKey := "StartrailRegistrySetData".toList
  fields := ⟨[(DATA, .atomic .bool)], by decide⟩
  destined := false
  contractName := "StartrailRegistry".toList
  functionSignature := "setData(bool)".toList
  adminCanCall := true
  destinationAddressProvided := false
  from_ := .string (hexlify (packWord renameRequest.from_))
  nonce := .number 0
  requestData := ⟨[(DATA, .boolean true)], by decide⟩

set_option maxRecDepth 2000 in
theorem flagInput_legal : flagInput.Legal flagEthers where
  sender := ⟨⟨0x7e5f4552091a69125d5dfcb7b8c2659029395bdf, by decide⟩,
    plainWord_of (by decide) (by decide)⟩
  counted := ⟨⟨0, by decide⟩, plainWord_of (by decide) (by decide)⟩
  valid := by
    have fields : requestFields flagInput.fields flagInput.destined =
        [⟨DATA, .atomic .bool⟩] := rfl
    refine ⟨by decide, by decide, ?_⟩
    rw [fields, List.forall_mem_singleton]
    exact ⟨_, ⟨1, by decide⟩, rfl, plainWord_of (by decide) (by decide)⟩
  callable := fun dynamic => absurd dynamic (by decide)

theorem flagInput_called : encodeContractFunctionCalldata flagEthers "StartrailRegistry".toList
    "setData(bool)".toList flagInput.requestData =
      some (hexlify (packWord (0xc0056c9a : Bytes4) ++
        encode [⟨.atomic .bool, ⟨1, by decide⟩⟩])) := by
  have argument : plainRead (.atomic .bool) (.boolean true) = some ⟨1, by decide⟩ :=
    plainWord_of (by decide) (by decide)
  have arguments : flagEthers.readArguments [.atomic .bool]
      (flagInput.requestData.omitKeys [DESTINATION]).values =
        some [⟨.atomic .bool, ⟨1, by decide⟩⟩] := by
    change (do
      let argument ← plainRead (.atomic .bool) (.boolean true)
      some [(⟨.atomic .bool, argument⟩ : Argument)]) = _
    rw [argument]
    rfl
  have found : flagEthers.getFunction "StartrailRegistry".toList "setData(bool)".toList =
      some ⟨0xc0056c9a, [.atomic .bool]⟩ := rfl
  have called := encodeContractFunctionCalldata_eq found arguments (by decide)
  exact called

theorem client_digest_data_field :
    ¬∀ (deployment : Deployment) (origin : State), Deployed deployment origin →
      ∀ config, Reach (entry deployment) (fun _ _ => True) origin config →
        ∀ (ethers : Ethers) (input : RequestInput) (metaTxRequest : MetaTxRequest),
          input.metaTxRequest deployment.evm = some metaTxRequest → input.Legal ethers →
            ∀ signatures encodeType,
              input.Agrees deployment config.now.state ethers signatures encodeType := by
  intro holds
  have agrees := holds requestDeployment deployedState deployedState_deployed _ Reach.start
    flagEthers flagInput _ rfl flagInput_legal [] .MultiSig
  obtain ⟨metaTxRequest, _, props, _request, _, registered, _, encoded, sent, _, _, empty, _⟩ :=
    agrees
  have required : metaTxRequest.requiresDataField = true ∧
      metaTxRequest.destinationContract = "StartrailRegistry".toList ∧
      metaTxRequest.functionSignature = "setData(bool)".toList := by
    obtain ⟨types, listed, rfl⟩ := Option.map_eq_some_iff.mp registered
    have same : [⟨FROM, address⟩, ⟨NONCE, uint256⟩, ⟨DATA, .atomic .bool⟩] = types :=
      Option.some.inj listed
    subst same
    exact ⟨by decide, rfl, rfl⟩
  have none_ : _request.callData = [] := empty.mpr (by decide)
  have called := flagInput_called
  rw [← required.2.1, ← required.2.2] at called
  have text := (encodeExecuteTransactionProps_called required.1 encoded).symm.trans called
  rw [sent_callData (Option.some.inj text) sent] at none_
  exact absurd none_ (by decide)

end Requests

end Startrail.Client
