import Startrail.MetaTx.Replay

/-!
What a request type stands for. A type is registered with a destination and a function;
a request of the type is forwarded to that destination, or to the collection its suffix
names. The function is the registered one when the forwarder builds the call data itself.
Call data that the request supplies is used as it is, whatever function it names.
-/

namespace Startrail.MetaTxForwarder

variable {deployment : Deployment} {world : World} {behind : Nat → UInt8} {state final : State}
  {_request : ExecutionRequest} {_signatures : Bytes} {_to : Address} {_data : Bytes}

def typeString (_typeName _typeSuffix : Bytes) : Bytes :=
  _typeName ++ ascii "(" ++ GENERIC_PARAMS ++ ascii "," ++ _typeSuffix ++ ascii ")"

/-- The call that registers this type. -/
def Registers (evm : Evm) (typeHash : Bytes32) (type : MetaTxRequestType)
    (transaction : Transaction) : Prop :=
  ∃ _typeName _typeSuffix, transaction.call = .registerRequestType _typeName _typeSuffix
      type.destination type.functionSignature ∧
    typeHash = evm.keccak256 (typeString _typeName _typeSuffix)

def Recorded (evm : Evm) (snapshot : Snapshot State Transaction) : Prop :=
  ∀ typeHash, snapshot.state.typeHashes typeHash = true →
    ∃ transaction ∈ snapshot.trace,
      Registers evm typeHash (snapshot.state.requestTypes typeHash) transaction

section Register

variable {evm : Evm} {later : State} {trace : List Transaction} {transaction : Transaction}

def Call.editsRegister : Call → Bool
  | .registerRequestType _ _ _ _ => true
  | .unregisterRequestType _ => true
  | _ => false

/-- What is said of the register and the trace, and kept by the calls that edit the register. -/
structure RegisterRule (deployment : Deployment) (Inv : Snapshot State Transaction → Prop) :
    Prop where
  quiet : ∀ {state later trace}, Inv ⟨state, trace⟩ → later.typeHashes = state.typeHashes →
    later.requestTypes = state.requestTypes → Inv ⟨later, trace⟩
  passed : ∀ {state trace} {transaction : Transaction}, Inv ⟨state, trace⟩ →
    transaction.call.editsRegister = false → Inv ⟨state, transaction :: trace⟩
  edited : ∀ {transaction state later trace}, Inv ⟨state, trace⟩ →
    transaction.call.editsRegister = true → entry deployment transaction state = .done later →
      Inv ⟨later, transaction :: trace⟩

structure SameRegister (before after : State) : Prop where
  typeHashes : after.typeHashes = before.typeHashes
  requestTypes : after.requestTypes = before.requestTypes

section Rule

variable {Inv : Snapshot State Transaction → Prop}

theorem RegisterRule.executeTransactionInternal_keeps (rule : RegisterRule deployment Inv)
    {isEOASignature : Bool} (inv : Inv ⟨state, trace⟩) :
    (executeTransactionInternal deployment world behind state _request _signatures
      isEOASignature).Meets Inv (fun _ _ => True)
      (fun state' trace' => Inv ⟨state', trace'⟩) trace := by
  have walked : (executeTransactionInternal deployment world behind state _request _signatures
      isEOASignature).Segments SameRegister SameRegister state :=
    executeTransactionInternal_segments ⟨rfl, rfl⟩ (fun _ => ⟨rfl, rfl⟩) fun _ _ => ⟨rfl, rfl⟩
  exact walked.meets inv fun inv' same => rule.quiet inv' same.typeHashes same.requestTypes

theorem RegisterRule.entry_keeps (rule : RegisterRule deployment Inv) (transaction : Transaction)
    (inv : Inv ⟨state, trace⟩) :
    (entry deployment transaction state).Meets Inv (fun _ _ => True)
      (fun state' trace' => Inv ⟨state', trace'⟩) (transaction :: trace) := by
  obtain ⟨world, msg, behind, call⟩ := transaction
  cases call with
  | initializeV1 _nameRegistry =>
      apply Outcome.Meets.lift
      intro state' accepted
      obtain ⟨_, rfl⟩ := initializeV1_written accepted
      exact rule.quiet (rule.passed inv rfl) rfl rfl
  | setCollectionRegistry _registry =>
      apply Outcome.Meets.lift
      intro state' accepted
      obtain rfl := setCollectionRegistry_written accepted
      exact rule.quiet (rule.passed inv rfl) rfl rfl
  | registerRequestType _typeName _typeSuffix _destinationContract _functionSignature =>
      apply Outcome.Meets.lift
      intro state' accepted
      exact rule.edited inv rfl (congrArg Outcome.ofExcept accepted)
  | unregisterRequestType _typeHash =>
      apply Outcome.Meets.lift
      intro state' accepted
      exact rule.edited inv rfl (congrArg Outcome.ofExcept accepted)
  | executeTransactionLUW _request _signatures =>
      apply Outcome.Meets.lift_bind
      intro _ _
      exact rule.executeTransactionInternal_keeps (rule.passed inv rfl)
  | executeTransactionEOA _request _signature =>
      apply Outcome.Meets.lift_bind
      intro _ _
      exact rule.executeTransactionInternal_keeps (rule.passed inv rfl)

theorem RegisterRule.reach (rule : RegisterRule deployment Inv) {origin : State}
    {Legal : Transaction → State → Prop} {config : Config Revert State Query Answer Transaction}
    (initial : Inv ⟨origin, []⟩) (reach : Reach (entry deployment) Legal origin config) :
    Inv config.now := by
  refine (reach.sound Inv (fun _ _ => True) (fun _ => trivial) (fun _ _ => trivial) ?_ initial).1
  intro transaction snapshot _ inv
  simpa [Completes] using rule.entry_keeps transaction inv

end Rule

theorem registerRequestType_effect {msg : Msg} {_typeName _typeSuffix : Bytes}
    {_destinationContract : Address} {_functionSignature : Bytes4}
    (accepted : registerRequestType deployment world msg state _typeName _typeSuffix
      _destinationContract _functionSignature = .ok later) :
    later.typeHashes = Function.update state.typeHashes
        (deployment.evm.keccak256 (typeString _typeName _typeSuffix)) true ∧
      later.requestTypes = Function.update state.requestTypes
        (deployment.evm.keccak256 (typeString _typeName _typeSuffix))
        ⟨_destinationContract, _functionSignature⟩ := by
  obtain ⟨_, _, rfl⟩ := registerRequestType_written rfl accepted
  exact ⟨rfl, rfl⟩

theorem unregisterRequestType_effect {msg : Msg} {_typeHash : Bytes32}
    (accepted : unregisterRequestType world msg state _typeHash = .ok later) :
    state.typeHashes _typeHash = true ∧
      later.typeHashes = Function.update state.typeHashes _typeHash false ∧
      later.requestTypes = Function.update state.requestTypes _typeHash ⟨0, 0⟩ := by
  obtain ⟨registered, rfl⟩ := unregisterRequestType_written accepted
  exact ⟨registered, rfl, rfl⟩

theorem registerRequestType_recorded {msg : Msg} {_typeName _typeSuffix : Bytes}
    {_destinationContract : Address} {_functionSignature : Bytes4}
    (recorded : Recorded deployment.evm ⟨state, trace⟩)
    (accepted : registerRequestType deployment world msg state _typeName _typeSuffix
      _destinationContract _functionSignature = .ok later) :
    Recorded deployment.evm ⟨later, ⟨world, msg, behind, .registerRequestType _typeName _typeSuffix
      _destinationContract _functionSignature⟩ :: trace⟩ := by
  obtain ⟨typeHashes, requestTypes⟩ := registerRequestType_effect accepted
  intro typeHash registered
  simp only [typeHashes, requestTypes, Function.update_apply] at registered ⊢
  by_cases own : typeHash = deployment.evm.keccak256 (typeString _typeName _typeSuffix)
  · refine ⟨_, List.mem_cons_self, _typeName, _typeSuffix, ?_, own⟩
    rw [if_pos own]
  · rw [if_neg own] at registered
    obtain ⟨registration, belongs, registers⟩ := recorded typeHash registered
    refine ⟨registration, List.mem_cons_of_mem _ belongs, ?_⟩
    rw [if_neg own]
    exact registers

theorem unregisterRequestType_recorded {msg : Msg} {_typeHash : Bytes32}
    (recorded : Recorded evm ⟨state, trace⟩)
    (accepted : unregisterRequestType world msg state _typeHash = .ok later) :
    Recorded evm ⟨later, transaction :: trace⟩ := by
  obtain ⟨_, typeHashes, requestTypes⟩ := unregisterRequestType_effect accepted
  intro typeHash registered
  simp only [typeHashes, requestTypes, Function.update_apply] at registered ⊢
  by_cases own : typeHash = _typeHash
  · rw [if_pos own] at registered
    cases registered
  · rw [if_neg own] at registered
    obtain ⟨registration, belongs, registers⟩ := recorded typeHash registered
    refine ⟨registration, List.mem_cons_of_mem _ belongs, ?_⟩
    rw [if_neg own]
    exact registers

theorem recorded_rule : RegisterRule deployment (Recorded deployment.evm) where
  quiet := by
    intro state later trace recorded typeHashes requestTypes typeHash registered
    simp only [typeHashes, requestTypes] at registered ⊢
    exact recorded typeHash registered
  passed := by
    intro state trace transaction recorded _ typeHash registered
    obtain ⟨registration, belongs, registers⟩ := recorded typeHash registered
    exact ⟨registration, List.mem_cons_of_mem _ belongs, registers⟩
  edited := by
    rintro ⟨world, msg, behind, call⟩ state later trace recorded edits ran
    cases call with
    | registerRequestType _typeName _typeSuffix _destinationContract _functionSignature =>
        exact registerRequestType_recorded recorded
          (Outcome.front_lift (congrArg Outcome.front ran))
    | unregisterRequestType _typeHash =>
        exact unregisterRequestType_recorded recorded
          (Outcome.front_lift (congrArg Outcome.front ran))
    | _ => cases edits

theorem deployed_typeHashes (deployed : Deployed deployment state) (typeHash : Bytes32) :
    state.typeHashes typeHash = false := by
  obtain ⟨_nameRegistry, made⟩ := deployed
  obtain ⟨_, rfl⟩ := initializeV1_written made
  rfl

/-- Whatever is registered, a call of the run has registered it as it is. -/
theorem reach_recorded {origin : State} {config : Config Revert State Query Answer Transaction}
    (deployed : Deployed deployment origin)
    (reach : Reach (entry deployment) (fun _ _ => True) origin config) :
    Recorded deployment.evm config.now := by
  refine recorded_rule.reach ?_ reach
  intro typeHash registered
  rw [deployed_typeHashes deployed] at registered
  cases registered

end Register

def Asks (_request : ExecutionRequest) (question : Talk) : Prop :=
  ∃ manager _hash _signatures,
    question.query = .isValidSignatureSet manager _request.from_ _hash _signatures

/-- The forwarded call goes where the registered type of the request says, and calls its
function. -/
def AsRegistered (world : World) (state : State) (_request : ExecutionRequest) (_to : Address)
    (_data : Bytes) : Prop :=
  let requestType := state.requestTypes _request.typeHash
  state.typeHashes _request.typeHash = true ∧
    (if requestType.destination = 0 then
      32 ≤ _request.suffixData.length ∧ _to = addressOf (_request.suffixData.take 32) ∧
        world.collectionRegistry state.collectionRegistry _to = true
    else _to = requestType.destination) ∧
    _data.take 4 = packWord requestType.functionSignature

/-- The request leaves the call data to the forwarder, or supplies call data of the registered
function. -/
def NamesFunction (state : State) (_request : ExecutionRequest) : Prop :=
  _request.callData = [] ∨
    (_request.callData ++ packWord _request.from_).take 4 =
      packWord (state.requestTypes _request.typeHash).functionSignature

instance (state : State) (_request : ExecutionRequest) : Decidable (NamesFunction state _request) :=
  inferInstanceAs (Decidable (_ ∨ _))

theorem destinationOf_target (found : destinationOf world state _request = .ok _to) :
    if (state.requestTypes _request.typeHash).destination = 0 then
      32 ≤ _request.suffixData.length ∧ _to = addressOf (_request.suffixData.take 32) ∧
        world.collectionRegistry state.collectionRegistry _to = true
    else _to = (state.requestTypes _request.typeHash).destination := by
  simp only [destinationOf] at found
  split at found
  · rename_i unnamed
    rw [if_pos unnamed]
    split at found
    · cases found
    · rename_i long
      simp only [bind_eq_ok, requireCustom_eq_ok, pure_eq_ok] at found
      obtain ⟨_, listed, rfl⟩ := found
      exact ⟨by omega, rfl, listed⟩
  · rename_i named
    rw [if_neg named]
    exact (pure_eq_ok.mp found).symm

theorem callDataOf_function :
    (callDataOf state _request).take 4 =
        packWord (state.requestTypes _request.typeHash).functionSignature ↔
      NamesFunction state _request := by
  unfold callDataOf NamesFunction
  by_cases supplied : 0 < _request.callData.length
  · have given : _request.callData ≠ [] := List.length_pos_iff.mp supplied
    simp only [if_pos supplied, given, false_or]
  · have absent : _request.callData = [] := List.length_eq_zero_iff.mp (by omega)
    have size : (packWord (state.requestTypes _request.typeHash).functionSignature).length = 4 := by
      simp
    simp only [absent, true_or, iff_true]
    rw [absent] at supplied
    rw [if_neg supplied, List.append_assoc]
    exact List.take_left' size

section Executions

variable {exchanges : List Talk} {isEOASignature : Bool}

theorem Verified.asks {questions : List Talk}
    (verified : Verified deployment world behind state _request _signatures isEOASignature
      questions) :
    questions.length ≤ 1 ∧ ∀ question ∈ questions, Asks _request question := by
  cases isEOASignature with
  | true =>
      obtain ⟨rfl, _⟩ := verified
      simp
  | false =>
      obtain ⟨question, rfl, query⟩ := verified
      refine ⟨by simp, ?_⟩
      intro other belongs
      rw [List.mem_singleton.mp belongs]
      exact ⟨_, _, _, query⟩

theorem standing_of_answers {Holds : Snapshot State Transaction → Prop}
    {moment : World × Snapshot State Transaction} (start : Holds moment.2)
    (answers : ∀ exchange ∈ exchanges, Holds exchange.answered) :
    Holds (standing moment exchanges).2 := by
  induction exchanges generalizing moment with
  | nil => exact start
  | cons exchange exchanges ih =>
      apply ih
      · exact answers exchange List.mem_cons_self
      · exact fun later belongs => answers later (List.mem_cons_of_mem _ belongs)

/-- An execution makes one call besides asking the licensed user manager. It is the call the
request was registered for exactly if the type is still registered and the request supplies no
call data of another function; and a registered type was registered by a call of the run. -/
theorem executions_as_registered (deployment : Deployment) (origin : State)
    (deployed : Deployed deployment origin)
    (base : Config Revert State Query Answer Transaction) (transaction : Transaction)
    (_request : ExecutionRequest) (requested : requestOf transaction = some _request)
    (exchanges : List Talk) (final : State)
    (completed : Completed (entry deployment) (fun _ _ => True) origin base transaction exchanges
      final) :
    ∃ questions forwarded _to _data, exchanges = questions ++ [forwarded] ∧
      questions.length ≤ 1 ∧ (∀ question ∈ questions, Asks _request question) ∧
      forwarded.query = .call _to _data ∧
      let moment := standing (transaction.world, base.now) questions
      (AsRegistered moment.1 forwarded.asked _request _to _data ↔
        moment.2.state.typeHashes _request.typeHash = true ∧
          NamesFunction moment.2.state _request) ∧
      ((∀ question ∈ questions, question.answered.state = question.asked) →
        moment.2.state.typeHashes _request.typeHash = true) ∧
      (moment.2.state.typeHashes _request.typeHash = true →
        ∃ registration ∈ moment.2.trace, Registers deployment.evm _request.typeHash
          (moment.2.state.requestTypes _request.typeHash) registration) := by
  obtain ⟨_signatures, isEOASignature, submitted⟩ := submits_of_requestOf requested
  have comes := entry_comes submitted completed.comes
  obtain ⟨questions, forwarded, _to, rfl, verified, kept, registered, _, called, found, typeHashes,
    requestTypes, collectionRegistry⟩ :=
    @executeTransactionInternal_comes deployment _ _ _ _ _ _ _ _ base.now.trace comes
  obtain ⟨few, asks⟩ := verified.asks
  refine ⟨questions, forwarded, _to, _, rfl, few, asks, called, ?_, ?_, ?_⟩
  · have target := destinationOf_target found
    simp only [AsRegistered, typeHashes, requestTypes, collectionRegistry, callDataOf_function]
    constructor
    · rintro ⟨held, _, names⟩
      exact ⟨held, names⟩
    · rintro ⟨held, names⟩
      exact ⟨held, target, names⟩
  · intro untouched
    apply @standing_of_answers _
      (fun snapshot => snapshot.state.typeHashes _request.typeHash = true) _ registered
    intro question belongs
    rw [untouched question belongs, kept question belongs]
    exact registered
  · apply @standing_of_answers _ (Recorded deployment.evm) _
      (reach_recorded deployed completed.reach)
    intro question belongs
    obtain ⟨config, reach, same⟩ :=
      completed.answered question (List.mem_append_left _ belongs)
    rw [← same]
    exact reach_recorded deployed reach

end Executions

theorem single_exchange {questions : List Talk} {exchange forwarded : Talk}
    (parts : [exchange] = questions ++ [forwarded]) : questions = [] ∧ forwarded = exchange := by
  have whole : [] ++ [exchange] = questions ++ [forwarded] := parts
  obtain ⟨absent, same⟩ := List.append_inj' whole rfl
  exact ⟨absent.symm, (List.cons.inj same).1.symm⟩

section Renamed

def renameCall : Transaction :=
  ⟨requestWorld, ⟨0xe0a, []⟩, fun _ => 0, .executeTransactionEOA renameRequest renameSignature⟩

set_option maxRecDepth 8000 in
theorem renameCall_completed : ∃ asked final, Completed (entry requestDeployment) (fun _ _ => True)
    deployedState registeredConfig renameCall
    [⟨asked, .call managerAddress (callDataOf registeredConfig.now.state renameRequest),
      registeredConfig.now, ⟨⟨true, []⟩, requestWorld⟩⟩] final := by
  refine ⟨_, _, registeredConfig_reach, trivial, ?_, .call _ _ (.here _)⟩
  intro exchange belongs
  rw [List.mem_singleton.mp belongs]
  exact ⟨registeredConfig, registeredConfig_reach, rfl⟩

set_option maxRecDepth 8000 in
theorem renameCall_as_registered : ∃ asked, AsRegistered requestWorld asked renameRequest
    managerAddress (callDataOf registeredConfig.now.state renameRequest) := by
  obtain ⟨asked, final, completed⟩ := renameCall_completed
  obtain ⟨questions, forwarded, _to, _data, parts, _, _, called, asRegistered, registered, _⟩ :=
    executions_as_registered requestDeployment deployedState deployedState_deployed registeredConfig
      renameCall renameRequest rfl _ final completed
  obtain ⟨rfl, rfl⟩ := single_exchange parts
  obtain ⟨rfl, rfl⟩ := Query.call.inj called
  exact ⟨asked, asRegistered.mpr ⟨registered (by simp), by decide⟩⟩

end Renamed

section Misnamed

def misnamedRequest : ExecutionRequest where
  typeHash := cancelTypeHash
  from_ := 0x7e5f4552091a69125d5dfcb7b8c2659029395bdf
  nonce := 0
  suffixData := encodeBE 32 1
  callData := encodeBE 4 0xfb897204 ++ encodeBE 32 0xb0b ++ encodeBE 32 1 ++ encodeBE 32 0xa0 ++
    encodeBE 32 0 ++ encodeBE 32 0 ++ encodeBE 32 0

def misnamedHash : Bytes32 := 0x10b72b2ad54e3157c7225f7f1be3836afac63b6c155cc7501062bc5fd8ea9197

def misnamedSignature : Bytes :=
  encodeBE 32 0x2cf6c77aa334e7f5ab15ef9be5af639f9ed725d32bfddcc1e63a3e04fd9ae1c6 ++
    encodeBE 32 0x470e2b8851976b25069fcad8371190c5df98da2449a3a737761f5b5605573edb ++ encodeBE 1 28

def misnamedEvm : Evm :=
  Evm.ofTables
    [(ascii "EIP712Domain(string name,string version,uint256 chainId,address verifyingContract)",
        0x8b73c3c69bb8fe3d512ecc4cf759cc79239f7b179b0ffacaa9a75d522b39400f),
      (ascii "Startrail", 0xf22048a501bf8025c8fa2565105dbf915ef99303bbba2c96f5fe86cd82404fd7),
      (ascii "1", 0xc89efdaa54c0f20c7adf612882df0950f5a951637e0307cdcb4c672f298b8bc6),
      (encodeBE 32 0x8b73c3c69bb8fe3d512ecc4cf759cc79239f7b179b0ffacaa9a75d522b39400f ++
        encodeBE 32 0xf22048a501bf8025c8fa2565105dbf915ef99303bbba2c96f5fe86cd82404fd7 ++
        encodeBE 32 0xc89efdaa54c0f20c7adf612882df0950f5a951637e0307cdcb4c672f298b8bc6 ++
        encodeBE 32 1 ++ encodeAddress forwarderAddress, domainHash),
      (ascii "StartrailRegistryCancelSRRCommitment(address from,uint256 nonce,uint256 tokenId)",
        cancelTypeHash),
      (misnamedRequest.callData,
        0xf631bf4b0bb93dd90493ee6036c9153108afef57893fcc4e641aa93890783293),
      (requestStruct misnamedRequest
        (encodeBE 32 0xf631bf4b0bb93dd90493ee6036c9153108afef57893fcc4e641aa93890783293),
        0x887d988f3a4249724db67b0e36274dab83a7d328478b3bebb1e64504e03c0984),
      (requestEncoding 0x887d988f3a4249724db67b0e36274dab83a7d328478b3bebb1e64504e03c0984,
        misnamedHash)]
    [((misnamedHash, 28, 0x2cf6c77aa334e7f5ab15ef9be5af639f9ed725d32bfddcc1e63a3e04fd9ae1c6,
        0x470e2b8851976b25069fcad8371190c5df98da2449a3a737761f5b5605573edb),
      ⟨misnamedRequest.from_, by decide⟩)]

def misnamedDeployment : Deployment := ⟨misnamedEvm, forwarderAddress⟩

def cancelConfig : Config Revert State Query Answer Transaction :=
  (Config.start deployedState).enter (entry misnamedDeployment)
    (administratorCall (.registerRequestType (ascii "StartrailRegistryCancelSRRCommitment")
      (ascii "uint256 tokenId") registryAddress 0x4247794c))

def misnamedCall : Transaction :=
  ⟨requestWorld, ⟨0xe0a, []⟩, fun _ => 0, .executeTransactionEOA misnamedRequest misnamedSignature⟩

set_option maxRecDepth 8000 in
theorem cancelConfig_reach :
    Reach (entry misnamedDeployment) (fun _ _ => True) deployedState cancelConfig :=
  Reach.enter _ Reach.start trivial

set_option maxRecDepth 8000 in
theorem misnamedDeployment_deployed : Deployed misnamedDeployment deployedState := by
  have domain : domainSeparatorOf misnamedDeployment = domainSeparatorOf requestDeployment := by
    decide
  refine ⟨0x4a3e, ?_⟩
  simp only [deployedState, ← domain]
  rfl

set_option maxRecDepth 8000 in
theorem misnamedCall_completed : ∃ asked final, Completed (entry misnamedDeployment)
    (fun _ _ => True) deployedState cancelConfig misnamedCall
    [⟨asked, .call registryAddress (callDataOf cancelConfig.now.state misnamedRequest),
      cancelConfig.now, ⟨⟨true, []⟩, requestWorld⟩⟩] final := by
  refine ⟨_, _, cancelConfig_reach, trivial, ?_, .call _ _ (.here _)⟩
  intro exchange belongs
  rw [List.mem_singleton.mp belongs]
  exact ⟨cancelConfig, cancelConfig_reach, rfl⟩

set_option maxRecDepth 8000 in
theorem misnamedCall_other_function :
    ¬∀ (deployment : Deployment) (origin : State), Deployed deployment origin →
      ∀ (base : Config Revert State Query Answer Transaction) (transaction : Transaction)
        (_request : ExecutionRequest) (exchanges : List Talk) (final : State),
        requestOf transaction = some _request →
        Completed (entry deployment) (fun _ _ => True) origin base transaction exchanges final →
        ∃ questions forwarded _to _data, exchanges = questions ++ [forwarded] ∧
          forwarded.query = .call _to _data ∧
          AsRegistered (standing (transaction.world, base.now) questions).1 forwarded.asked _request
            _to _data := by
  intro holds
  obtain ⟨asked, final, completed⟩ := misnamedCall_completed
  obtain ⟨questions, forwarded, _to, _data, parts, called, registered⟩ := holds misnamedDeployment
    deployedState misnamedDeployment_deployed cancelConfig misnamedCall misnamedRequest _ final rfl
    completed
  obtain ⟨rfl, rfl⟩ := single_exchange parts
  obtain ⟨rfl, rfl⟩ := Query.call.inj called
  obtain ⟨_, _, submitted⟩ := @submits_of_requestOf misnamedCall misnamedRequest rfl
  obtain ⟨questions, forwarded, _, parts, _, _, _, _, _, _, _, types, _⟩ :=
    @executeTransactionInternal_comes _ _ _ _ _ _ _ _ _ cancelConfig.now.trace
      (entry_comes submitted completed.comes)
  obtain ⟨rfl, rfl⟩ := single_exchange parts
  have named := registered.2.2
  rw [types] at named
  revert named
  decide

end Misnamed

end Startrail.MetaTxForwarder
