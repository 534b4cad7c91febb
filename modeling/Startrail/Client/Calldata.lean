import Startrail.Client.Digests

/-!
The call data of a request and the message that its signer is shown. The message goes by the names
of the fields; the call data take the values of the request data in the order in which the object
got them, so both say the same only as long as that order makes no difference.
-/

namespace Startrail.Client

open Abi MetaTxForwarder

def genericNames : List Text := [FROM, NONCE, DATA]

/-- The fields of a request itself. -/
def ownNames (types : List TypedDataField) : List Text :=
  (types.map TypedDataField.name).filter fun name => name ∉ genericNames

/-- The fields that the parameters of the destination's function stand for, in order. -/
def parameterNames (types : List TypedDataField) : List Text :=
  (types.map TypedDataField.name).filter fun name => name ∉ reservedNames

def byName (object : JsObject) (names : List Text) : List JsValue := names.filterMap object.get?

/-- The arguments that the call data decode to are the values that the message shows. -/
def ShowsCall (ethers : Ethers) (fragment : FunctionFragment) (types : List TypedDataField)
    (message : JsObject) (callData : Text) : Prop :=
  ∃ bytes arguments, arrayify callData = some bytes ∧
    decode fragment.inputs (bytes.drop 4) = some arguments ∧
    ethers.readArguments fragment.inputs (byName message (parameterNames types)) = some arguments

theorem lengths_bounded (names : List Text) : ∃ bound, ∀ name ∈ names, name.length ≤ bound := by
  induction names with
  | nil => exact ⟨0, by simp⟩
  | cons name names ih =>
      obtain ⟨bound, below⟩ := ih
      refine ⟨max name.length bound, List.forall_mem_cons.mpr ⟨Nat.le_max_left _ _, ?_⟩⟩
      exact fun other belongs => Nat.le_trans (below other belongs) (Nat.le_max_right _ _)

/-- Names of which each comes from one by stripping do not begin with an underscore: there would
be one with an underscore more each time. -/
theorem names_plain {names : List Text} (stripped : ∀ name ∈ names, ∃ key ∈ names,
    stripUnderscore key = name) : ∀ name ∈ names, name.head? ≠ some '_' := by
  intro name belongs underscored
  have longer : ∀ count, ∃ key ∈ names, key.head? = some '_' ∧ count ≤ key.length := by
    intro count
    induction count with
    | zero => exact ⟨name, belongs, underscored, Nat.zero_le _⟩
    | succ count ih =>
        obtain ⟨key, there, first, long⟩ := ih
        obtain ⟨source, known, strip⟩ := stripped key there
        have underscored : source.head? = some '_' := by
          by_contra plain
          rw [stripUnderscore_plain plain] at strip
          exact plain (strip ▸ first)
        obtain ⟨rest, rfl⟩ := List.head?_eq_some_iff.mp underscored
        obtain rfl : rest = key := strip
        exact ⟨_, known, rfl, Nat.succ_le_succ long⟩
  obtain ⟨bound, below⟩ := lengths_bounded names
  obtain ⟨key, there, _, long⟩ := longer (bound + 1)
  exact absurd (below key there) (Nat.not_le_of_gt long)

section Values

variable {ethers : Ethers}

theorem readArguments_types {types : List AbiType} {values : List JsValue}
    {arguments : List Argument} (read : ethers.readArguments types values = some arguments) :
    arguments.map Sigma.fst = types := by
  induction types generalizing values arguments with
  | nil =>
      cases values with
      | nil =>
          cases read
          rfl
      | cons value values => cases read
  | cons type types ih =>
      cases values with
      | nil => cases read
      | cons value values =>
          simp only [Ethers.readArguments, Option.bind_eq_bind, Option.bind_eq_some_iff,
            Option.some.injEq] at read
          obtain ⟨argument, _, rest, later, rfl⟩ := read
          rw [List.map_cons, ih later]

/-- The call data decode to the values of the object in its own order. -/
theorem encodeContractFunctionCalldata_decoded {contractName functionSignature callData : Text}
    {requestData : JsObject} {fragment : FunctionFragment}
    (found : ethers.getFunction contractName functionSignature = some fragment)
    (called : encodeContractFunctionCalldata ethers contractName functionSignature requestData =
      some callData) :
    ∃ bytes arguments, arrayify callData = some bytes ∧
      decode fragment.inputs (bytes.drop 4) = some arguments ∧
      ethers.readArguments fragment.inputs (requestData.omitKeys [DESTINATION]).values =
        some arguments := by
  simp only [encodeContractFunctionCalldata, found, Ethers.encodeFunctionData,
    Option.bind_eq_bind, Option.bind_some, Option.bind_eq_some_iff] at called
  obtain ⟨arguments, read, made⟩ := called
  split at made
  · rename_i encodable
    cases made
    refine ⟨_, arguments, arrayify_hexlify _, ?_, read⟩
    have start : (packWord fragment.selector).length = 4 := length_packWord _
    rw [List.drop_left' start, ← readArguments_types read]
    exact decode_encode encodable
  · cases made

theorem readMembers_held {fields : List TypedDataField} {message : JsObject}
    {members : List Argument} (read : ethers.readMembers message fields = some members) :
    ∀ name ∈ fields.map TypedDataField.name, ∃ value, message.get? name = some value := by
  induction fields generalizing members with
  | nil => simp
  | cons field fields ih =>
      simp only [Ethers.readMembers, Option.bind_eq_bind, Option.bind_eq_some_iff] at read
      obtain ⟨value, held, _, _, rest, later, _⟩ := read
      exact List.forall_mem_cons.mpr ⟨⟨value, held⟩, ih later⟩

end Values

section Messages

variable {evm : Evm} {ethers : Ethers} {builder : EIP712TypedDataBuilder} {requestTypeKey : Text}
  {metaTxRequest : MetaTxRequest} {from_ nonce : JsValue} {requestData : JsObject}
  {typedData : EIP712TypedData} {digest : Bytes32}

theorem build_message (required : metaTxRequest.requiresDataField = true)
    (built : builder.build ethers requestTypeKey metaTxRequest from_ nonce requestData =
      some typedData) :
    typedData.types.get? typedData.primaryType = some metaTxRequest.eip712Types ∧
      ∀ name, name ∉ genericNames → typedData.message.get? name =
        (_requestParamsToTypedParams requestData).get? name := by
  simp only [EIP712TypedDataBuilder.build, required, if_true, Option.bind_eq_bind,
    Option.bind_eq_some_iff, Option.some.injEq] at built
  obtain ⟨_, ⟨data, _, rfl⟩, rfl⟩ := built
  refine ⟨by rw [Record.get?_set, if_pos rfl], ?_⟩
  intro name other
  simp only [genericNames, List.mem_cons, List.not_mem_nil, or_false, not_or] at other
  obtain ⟨notFrom, notNonce, notData⟩ := other
  change (messageOf _ _ _).get? name = _
  rw [get?_messageOf, if_neg notNonce, if_neg notFrom, Option.or_none, Record.get?_set,
    if_neg notData]

/-- A message can be signed only if the keys of the request data begin with no underscore. -/
theorem signed_plain (required : metaTxRequest.requiresDataField = true)
    (exact_ : requestData.keys.Perm (ownNames metaTxRequest.eip712Types))
    (built : builder.build ethers requestTypeKey metaTxRequest from_ nonce requestData =
      some typedData) (signed : typedData.digest evm ethers = some digest) :
    ∀ key ∈ requestData.keys, key.head? ≠ some '_' := by
  obtain ⟨primary, shown⟩ := build_message required built
  simp only [EIP712TypedData.digest, primary, Ethers.encodeData, Option.bind_eq_bind,
    Option.bind_some, Option.bind_eq_some_iff] at signed
  obtain ⟨_, encoded, _⟩ := signed
  split at encoded
  · cases encoded
  · simp only [Option.bind_eq_some_iff] at encoded
    obtain ⟨members, read, _⟩ := encoded
    apply names_plain
    intro name belongs
    obtain ⟨listed, own⟩ := List.mem_filter.mp (exact_.mem_iff.mp belongs)
    obtain ⟨value, held⟩ := readMembers_held read name listed
    rw [shown name (by simpa using own), _requestParamsToTypedParams,
      _convertBigNumberValuesToString, Record.get?_mapValues] at held
    have known : name ∈ (_removeUnderscoreFromKeys requestData).keys := by
      by_contra absent
      rw [(Record.get?_eq_none_iff _ _).mpr absent] at held
      cases held
    rcases Record.mem_keys_assign known with stripped | before
    · rw [List.map_map] at stripped
      obtain ⟨entry, there, same⟩ := List.mem_map.mp stripped
      exact ⟨entry.1, List.mem_map_of_mem there, same⟩
    · cases before

theorem byName_message (required : metaTxRequest.requiresDataField = true)
    (plain : ∀ key ∈ requestData.keys, key.head? ≠ some '_')
    (built : builder.build ethers requestTypeKey metaTxRequest from_ nonce requestData =
      some typedData) :
    byName typedData.message (parameterNames metaTxRequest.eip712Types) =
      byName (_convertBigNumberValuesToString requestData)
        (parameterNames metaTxRequest.eip712Types) := by
  apply List.filterMap_congr
  intro name belongs
  have other : name ∉ genericNames := by
    have own := (List.mem_filter.mp belongs).2
    simp only [reservedNames, genericNames, List.mem_cons, List.not_mem_nil, decide_not,
      Bool.not_eq_true', decide_eq_false_iff_not] at own ⊢
    tauto
  rw [(build_message required built).2 name other, _requestParamsToTypedParams,
    _removeUnderscoreFromKeys_plain plain]

end Messages

theorem callData_shown (evm : Evm) (ethers : Ethers) (builder : EIP712TypedDataBuilder)
    (requestTypeKey : Text) (metaTxRequest : MetaTxRequest) (from_ nonce : JsValue)
    (requestData : JsObject) (signatures : List Text) (encodeType : EncodeType)
    (fragment : FunctionFragment) (typedData : EIP712TypedData) (digest : Bytes32)
    (props : ExecuteTransactionProps) (required : metaTxRequest.requiresDataField = true)
    (exact_ : requestData.keys.Perm (ownNames metaTxRequest.eip712Types))
    (found : ethers.getFunction metaTxRequest.destinationContract
      metaTxRequest.functionSignature = some fragment)
    (built : builder.build ethers requestTypeKey metaTxRequest from_ nonce requestData =
      some typedData)
    (signed : typedData.digest evm ethers = some digest)
    (encoded : encodeExecuteTransactionProps evm ethers requestTypeKey metaTxRequest from_ nonce
      requestData signatures encodeType = some props) :
    ShowsCall ethers fragment metaTxRequest.eip712Types typedData.message
        props._request.callData ↔
      ethers.readArguments fragment.inputs (byName (_convertBigNumberValuesToString requestData)
          (parameterNames metaTxRequest.eip712Types)) =
        ethers.readArguments fragment.inputs (requestData.omitKeys [DESTINATION]).values := by
  have plain := signed_plain required exact_ built signed
  have shown := byName_message required plain built
  obtain ⟨bytes, arguments, text, decoded, positional⟩ := encodeContractFunctionCalldata_decoded
    found (encodeExecuteTransactionProps_called required encoded)
  rw [positional, ← shown]
  constructor
  · rintro ⟨bytes', arguments', text', decoded', named⟩
    obtain rfl := Option.some.inj (text.symm.trans text')
    obtain rfl := Option.some.inj (decoded.symm.trans decoded')
    exact named
  · intro named
    exact ⟨bytes, arguments, text, decoded, named⟩

section Requests

def createFragment : FunctionFragment := ⟨0x5e6085e2, [.string, .string, bytes32]⟩

def createEthers : Ethers :=
  plainEthers [(("CollectionFactory".toList,
    "createCollectionContract(string,string,bytes32)".toList), createFragment)]

def namedFirst : JsObject :=
  ⟨[("name".toList, .string "Startbahn".toList), ("symbol".toList, .string "SBHN".toList),
    ("salt".toList, .string (hexlify (encodeBE 32 7)))], by decide⟩

def symbolFirst : JsObject :=
  ⟨[("symbol".toList, .string "SBHN".toList), ("name".toList, .string "Startbahn".toList),
    ("salt".toList, .string (hexlify (encodeBE 32 7)))], by decide⟩

def createInput (requestData : JsObject) : RequestInput where
  requestTypeKey := "CollectionFactoryCreateCollection".toList
  fields := ⟨[("name".toList, .string), ("symbol".toList, .string), ("salt".toList, bytes32)],
    by decide⟩
  destined := false
  contractName := "CollectionFactory".toList
  functionSignature := "createCollectionContract(string,string,bytes32)".toList
  adminCanCall := false
  destinationAddressProvided := false
  from_ := .string (hexlify (packWord renameRequest.from_))
  nonce := .number 0
  requestData := requestData

def createTypes : List TypedDataField := messageFields (createInput namedFirst).fields false

set_option maxRecDepth 4000 in
theorem salt_read : plainRead bytes32 (.string (hexlify (encodeBE 32 7))) =
    some ⟨7, by decide⟩ :=
  plainWord_of (by decide) (by decide)

theorem create_arguments (first second : Text) :
    createEthers.readArguments createFragment.inputs
        [.string first, .string second, .string (hexlify (encodeBE 32 7))] =
      some [⟨.string, toUtf8Bytes first⟩, ⟨.string, toUtf8Bytes second⟩,
        ⟨bytes32, ⟨7, by decide⟩⟩] := by
  change (do
    let salt ← plainRead bytes32 (.string (hexlify (encodeBE 32 7)))
    some [(⟨.string, toUtf8Bytes first⟩ : Argument), ⟨.string, toUtf8Bytes second⟩,
      ⟨bytes32, salt⟩]) = _
  rw [salt_read]
  rfl

theorem createInput_valid {requestData : JsObject}
    (plain : ∀ key ∈ requestData.keys, key.head? ≠ some '_')
    (known : ∀ key ∈ requestData.keys, key ∈ ["name".toList, "symbol".toList, "salt".toList])
    (name : ∃ text, requestData.get? "name".toList = some (.string text))
    (symbol : ∃ text, requestData.get? "symbol".toList = some (.string text))
    (salt : requestData.get? "salt".toList = some (.string (hexlify (encodeBE 32 7)))) :
    Valid createEthers (requestFields (createInput requestData).fields false) requestData := by
  have fields : requestFields (createInput requestData).fields false =
      [⟨"name".toList, .string⟩, ⟨"symbol".toList, .string⟩, ⟨"salt".toList, bytes32⟩] := rfl
  rw [fields]
  refine ⟨plain, known, ?_⟩
  obtain ⟨title, named⟩ := name
  obtain ⟨short, symbolised⟩ := symbol
  simp only [List.forall_mem_cons]
  exact ⟨⟨_, _, named, rfl⟩, ⟨_, _, symbolised, rfl⟩, ⟨_, _, salt, salt_read⟩, by simp⟩

theorem createInput_legal {requestData : JsObject} {first second : Text}
    (valid : Valid createEthers (requestFields (createInput requestData).fields false) requestData)
    (values : (requestData.omitKeys [DESTINATION]).values =
      [.string first, .string second, .string (hexlify (encodeBE 32 7))])
    (encodable : Encodable [⟨.string, toUtf8Bytes first⟩, ⟨.string, toUtf8Bytes second⟩,
      ⟨bytes32, ⟨7, by decide⟩⟩]) : (createInput requestData).Legal createEthers where
  sender := renameInput_legal.sender
  counted := renameInput_legal.counted
  valid := valid
  callable := by
    intro _
    have read := create_arguments first second
    rw [← values] at read
    exact ⟨createFragment, _, rfl, read, encodable⟩

def createRequest : MetaTxRequest :=
  buildMetaTxRequest requestEvm "CollectionFactoryCreateCollection".toList createTypes
    "CollectionFactory".toList "createCollectionContract(string,string,bytes32)".toList false false

set_option maxRecDepth 2000 in
theorem namedFirst_legal : (createInput namedFirst).Legal createEthers :=
  createInput_legal (createInput_valid (by decide) (by decide) ⟨_, rfl⟩ ⟨_, rfl⟩ rfl) rfl
    (by decide)

set_option maxRecDepth 2000 in
theorem symbolFirst_legal : (createInput symbolFirst).Legal createEthers :=
  createInput_legal (createInput_valid (by decide) (by decide) ⟨_, rfl⟩ ⟨_, rfl⟩ rfl) rfl
    (by decide)

theorem callData_shown_create : ∃ typedData props,
    (EIP712TypedDataBuilder.new 1 forwarderAddress).build createEthers
        "CollectionFactoryCreateCollection".toList createRequest (createInput namedFirst).from_
        (.number 0) namedFirst = some typedData ∧
      encodeExecuteTransactionProps requestEvm createEthers
        "CollectionFactoryCreateCollection".toList createRequest (createInput namedFirst).from_
        (.number 0) namedFirst [] .MultiSig = some props ∧
      ShowsCall createEthers createFragment createTypes typedData.message
        props._request.callData := by
  obtain ⟨typedData, props, _, _, _, _, built, encoded, _, _, _, signed⟩ :=
    @pipeline requestDeployment createEthers (createInput namedFirst) createRequest rfl (by decide)
      namedFirst_legal [] .MultiSig
  refine ⟨typedData, props, built, encoded, ?_⟩
  exact (callData_shown requestEvm createEthers _ _ createRequest _ _ namedFirst [] .MultiSig
    createFragment typedData _ props (by decide) (by decide) rfl built signed encoded).mpr rfl

theorem callData_shown_swapped :
    ¬∀ (evm : Evm) (ethers : Ethers) (builder : EIP712TypedDataBuilder) (requestTypeKey : Text)
      (metaTxRequest : MetaTxRequest) (from_ nonce : JsValue) (requestData : JsObject)
      (signatures : List Text) (encodeType : EncodeType) (fragment : FunctionFragment)
      (typedData : EIP712TypedData) (digest : Bytes32) (props : ExecuteTransactionProps),
      metaTxRequest.requiresDataField = true →
      requestData.keys.Perm (ownNames metaTxRequest.eip712Types) →
      ethers.getFunction metaTxRequest.destinationContract metaTxRequest.functionSignature =
        some fragment →
      builder.build ethers requestTypeKey metaTxRequest from_ nonce requestData =
        some typedData →
      typedData.digest evm ethers = some digest →
      encodeExecuteTransactionProps evm ethers requestTypeKey metaTxRequest from_ nonce
        requestData signatures encodeType = some props →
      ShowsCall ethers fragment metaTxRequest.eip712Types typedData.message
        props._request.callData := by
  intro holds
  obtain ⟨typedData, props, _, _, _, _, built, encoded, _, _, _, signed⟩ :=
    @pipeline requestDeployment createEthers (createInput symbolFirst) createRequest rfl
      (by decide) symbolFirst_legal [] .MultiSig
  obtain ⟨bytes, arguments, text, decoded, named⟩ := holds requestEvm createEthers _ _
    createRequest _ _ symbolFirst [] .MultiSig createFragment typedData _ props (by decide)
    (by decide) rfl built signed encoded
  rw [byName_message (by decide) (by decide) built] at named
  obtain ⟨_, _, text', decoded', positional⟩ := encodeContractFunctionCalldata_decoded rfl
    (encodeExecuteTransactionProps_called (by decide) encoded)
  obtain rfl := Option.some.inj (text.symm.trans text')
  obtain rfl := Option.some.inj (decoded.symm.trans decoded')
  have shown := create_arguments "Startbahn".toList "SBHN".toList
  have passed := create_arguments "SBHN".toList "Startbahn".toList
  have same := (shown.symm.trans named).trans (positional.symm.trans passed)
  have first := (List.cons.inj (Option.some.inj same)).1
  have titles : toUtf8Bytes "Startbahn".toList = toUtf8Bytes "SBHN".toList :=
    eq_of_heq (Sigma.mk.inj first).2
  exact absurd titles (by decide)

end Requests

end Startrail.Client
