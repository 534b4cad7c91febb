import Startrail.Collection.Tokens
import Startrail.Library.Composition

/-!
Where collections come from: `collection/CollectionFactoryV01.sol` with its
`collection/CollectionRegistry.sol`. The three functions that set a new collection up are open to
everyone and each asks only whether its own field looks unset.
-/

namespace Startrail.Collection

/-- What a collection is set up with. -/
structure Identity where
  featureRegistry : Address
  owner : Address
  name : Bytes
  symbol : Bytes

def identity (state : State) : Identity :=
  ⟨state.featureRegistry, state.owner, state.erc721.name, state.erc721.symbol⟩

/-- No field looks unset. -/
structure Identity.Complete (identity : Identity) : Prop where
  featureRegistry : identity.featureRegistry ≠ 0
  owner : identity.owner ≠ 0
  name : identity.name ≠ []
  symbol : identity.symbol ≠ []

section Identities

variable {evm : Evm} {world : World} {msg : Msg} {state state' : State}

theorem upsertRoyalty_identity (state : State) (tokenId : Uint256) (royaltyReceiver : Address)
    (royaltyBasisPoints : Uint16) :
    identity (upsertRoyalty state tokenId royaltyReceiver royaltyBasisPoints) =
      identity state := by
  unfold upsertRoyalty
  split
  · rfl
  · rfl

theorem upsertReceivers_identity (state : State) (royaltyReceiver : Address)
    (tokenIds : List Uint256) :
    identity (upsertReceivers royaltyReceiver tokenIds state) = identity state := by
  induction tokenIds generalizing state with
  | nil => rfl
  | cons tokenId tokenIds ih => rw [upsertReceivers, ih, upsertRoyalty_identity]

theorem createRecord_identity {isPrimaryIssuer lockExternalTransfer fromBulk : Bool}
    {artistAddress issuerAddress royaltyReceiver : Address} {metadataCID : Bytes}
    {royaltyBasisPoints : Uint16} {tokenId : Uint256}
    (creates : createRecord evm world msg state isPrimaryIssuer artistAddress metadataCID
      issuerAddress lockExternalTransfer royaltyReceiver royaltyBasisPoints fromBulk =
        .ok (state', tokenId)) : identity state' = identity state := by
  obtain ⟨_, _, _, _, mints, rfl⟩ := createRecord_accepted creates
  obtain ⟨_, _, rfl⟩ := mint_accepted mints
  rw [upsertRoyalty_identity]
  unfold State.recorded lockIf
  split
  · rfl
  · rfl

theorem passOn_identity (issuerAddress to_ : Address) (tokenId : Uint256) :
    identity (passOn state issuerAddress to_ tokenId) = identity state := by
  unfold passOn
  split
  · rfl
  · rfl

theorem approveByCommitment_identity {tokenId customHistoryId : Uint256} {commitment : Bytes32}
    {historyMetadataHash : Bytes} {signer : Address}
    (approved : approveByCommitment world state tokenId commitment historyMetadataHash
      customHistoryId signer = .ok state') : identity state' = identity state := by
  have prior : identity (cancelPriorApproval state tokenId signer) = identity state := by
    unfold cancelPriorApproval
    split
    · rfl
    · rfl
  obtain ⟨_, _, rfl, ⟨_, rfl⟩ | ⟨_, rfl⟩⟩ := approveByCommitment_accepted approved
  · exact prior
  · exact prior

theorem Accepted.identity {call : Call} (accepted : Accepted evm world msg state call state')
    (inside : call.aside = false) : identity state' = identity state := by
  cases accepted with
  | aside aside _ => cases aside.symm.trans inside
  | createSRR creates => exact (passOn_identity _ _ _).trans (createRecord_identity creates)
  | createSRRFromBulk _ _ creates =>
      exact (passOn_identity _ _ _).trans (createRecord_identity creates)
  | transferFrom moved =>
      obtain ⟨_, _, _, _, rfl⟩ := transferFrom_accepted moved
      rfl
  | safeTransferFrom moved =>
      obtain ⟨_, _, _, _, rfl⟩ := transferFrom_accepted moved
      rfl
  | approveSRRByCommitment _ approved => exact approveByCommitment_identity approved
  | approveSRRByCommitmentFromBulk _ _ approved => exact approveByCommitment_identity approved
  | transferSRRByReveal reveals =>
      obtain ⟨_, _, rfl⟩ := transferSRRByReveal_accepted reveals
      rfl
  | _ => rfl

/-- The owner of the collection, through the forwarder, names the next one. -/
structure Succession (transaction : Transaction) (state : State) (newOwner : Address) : Prop where
  call : transaction.call = .transferOwnership newOwner
  forwarded : transaction.msg.sender = trustedForwarder transaction.world state
  sender : sender transaction.world transaction.msg state = state.owner
  newOwner : newOwner ≠ 0

theorem entry_identity {transaction : Transaction}
    (ran : (entry evm transaction state).front = some state')
    (complete : (identity state).Complete) :
    identity state' = identity state ∨
      ∃ newOwner, Succession transaction state newOwner ∧
        identity state' = { identity state with owner := newOwner } := by
  cases inside : transaction.call.aside with
  | false => exact Or.inl ((entry_accepted ran).identity inside)
  | true =>
      obtain ⟨world, msg, call⟩ := transaction
      cases call with
      | initializeCollectionProxy _featureRegistry =>
          have accepted := Outcome.front_lift ran
          simp only [initializeCollectionProxy, bind_eq_ok, requireCustom_eq_ok] at accepted
          obtain ⟨_, unset, _⟩ := accepted
          exact absurd unset complete.featureRegistry
      | initializeOwnableFeature initialOwner =>
          have accepted := Outcome.front_lift ran
          simp only [initializeOwnableFeature, bind_eq_ok, requireCustom_eq_ok] at accepted
          obtain ⟨_, unset, _⟩ := accepted
          exact absurd unset complete.owner
      | initializeERC721Feature name_ symbol_ =>
          have accepted := Outcome.front_lift ran
          simp only [initializeERC721Feature, bind_eq_ok, requireCustom_eq_ok] at accepted
          obtain ⟨_, unset, _⟩ := accepted
          refine absurd ⟨fun none_ => ?_, fun none_ => ?_⟩ unset
          · exact complete.name (List.length_eq_zero_iff.mp none_)
          · exact complete.symbol (List.length_eq_zero_iff.mp none_)
      | transferOwnership newOwner =>
          have accepted := Outcome.front_lift ran
          simp only [transferOwnership, onlyTrustedForwarder, onlyCollectionOwner, bind_eq_ok,
            requireCustom_eq_ok, pure_eq_ok] at accepted
          obtain ⟨_, forwarded, _, owner, _, given, rfl⟩ := accepted
          exact Or.inr ⟨newOwner, ⟨rfl, forwarded, owner, given⟩, rfl⟩
      | updateSRR tokenId isPrimaryIssuer artistAddress =>
          have accepted := Outcome.front_lift ran
          simp only [updateSRR, bind_eq_ok, pure_eq_ok] at accepted
          obtain ⟨_, _, _, _, _, _, _, _, rfl⟩ := accepted
          exact Or.inl rfl
      | updateSRRMetadata tokenId metadataCID =>
          have accepted := Outcome.front_lift ran
          simp only [updateSRRMetadata, bind_eq_ok, pure_eq_ok] at accepted
          obtain ⟨_, _, _, _, _, _, rfl⟩ := accepted
          exact Or.inl rfl
      | updateSRRRoyalty tokenId royaltyReceiver royaltyBasisPoints =>
          have accepted := Outcome.front_lift ran
          simp only [updateSRRRoyalty, bind_eq_ok, pure_eq_ok] at accepted
          obtain ⟨_, _, _, _, _, _, _, _, _, _, rfl⟩ := accepted
          exact Or.inl (upsertRoyalty_identity _ _ _ _)
      | updateSRRRoyaltyReceiverMulti tokenIds royaltyReceiver =>
          have accepted := Outcome.front_lift ran
          simp only [updateSRRRoyaltyReceiverMulti, bind_eq_ok, pure_eq_ok] at accepted
          obtain ⟨_, _, _, _, _, _, rfl⟩ := accepted
          exact Or.inl (upsertReceivers_identity _ _ _)
      | view calldata =>
          cases ran
          exact Or.inl rfl
      | _ => cases inside

end Identities

end Startrail.Collection

namespace Startrail.Factory

structure CollectionRegistry where
  registry : Address → Bool
  collectionFactory : Address

def CollectionRegistry.addCollection (registry : CollectionRegistry) (msg : Msg)
    (collectionAddress : Address) : Result CollectionRegistry := do
  requireCustom (msg.sender = registry.collectionFactory) "OnlyCollectionFactory"
  pure { registry with
    registry := Function.update registry.registry collectionAddress true }

inductive Event where
  | Initialized (version : Uint8)
  | OwnershipTransferred (previousOwner newOwner : Address)
  | CollectionCreated (collectionAddress ownerAddress : Address) (name symbol : Bytes)
      (salt : Bytes32)

-- `CollectionFactoryStorage.Layout` after the storage of the contracts that the factory extends.
structure State where
  initializable : Initializable
  _owner : Address
  _status : Uint256
  collectionRegistry : Address
  featureRegistry : Address
  collectionProxyImplementation : Address
  logs : List Event

def State.blank : State := ⟨⟨0, false⟩, 0, 0, 0, 0, 0, []⟩

def State.emit (state : State) (event : Event) : State := { state with logs := event :: state.logs }

/-- The factory, the registry that it creates, and the collections by their addresses. -/
structure System where
  factory : State
  registry : Option CollectionRegistry
  deployed : Address → Bool
  collections : Address → Collection.State

def System.blank : System := ⟨State.blank, none, fun _ => false, fun _ => Collection.State.blank⟩

/-- The factory's own address, the one that `new CollectionRegistry` comes to, and the code that
`MinimalProxyFactory` has for the creation of a clone. -/
structure Deployment where
  evm : Evm
  this : Address
  collectionRegistry : Address
  minimalProxyInitCode : Address → Bytes

section Creation

variable (deployment : Deployment) (world : World) (msg : Msg) (system : System)

def onlyTrustedForwarder (featureRegistry : Address) : Result Unit :=
  requireCustom (msg.sender = (world.featureRegistry featureRegistry).getEIP2771TrustedForwarder)
    "NotTrustedForwarder"

def sender (featureRegistry : Address) : Address :=
  msgSender (world.featureRegistry featureRegistry).getEIP2771TrustedForwarder msg

def onlyLicensedUser (featureRegistry : Address) : Result Unit :=
  requireCustom (world.isActiveWallet
      ((world.nameRegistry (world.featureRegistry featureRegistry).getNameRegistry).get
        LICENSED_USER_MANAGER)
      (sender world msg featureRegistry) = true)
    "NotLicensedUser"

-- The source's `initialize`, a reserved word here.
def initializeV1 (featureRegistry_ collectionProxyImplementation : Address) : Result System := do
  let storage ← system.factory.initializable.initializer true
  requireCustom (world.codeLength featureRegistry_ ≠ 0) "FeatureRegistryIsNotAContract"
  requireCustom (world.codeLength collectionProxyImplementation ≠ 0)
    "CollectionProxyImplementationIsNotAContract"
  let factory := { system.factory with
    initializable := storage.finish
    _owner := msg.sender
    collectionRegistry := deployment.collectionRegistry
    featureRegistry := featureRegistry_
    collectionProxyImplementation := collectionProxyImplementation }
  pure { system with
    factory := (factory.emit (.OwnershipTransferred system.factory._owner msg.sender)).emit
      (.Initialized 1)
    registry := some ⟨fun _ => false, deployment.this⟩ }

-- The address that `create2` gives to the clone.
def minimalProxyAddress (target : Address) (salt : Bytes32) : Address :=
  (deployment.evm.keccak256 ([0xff] ++ packWord deployment.this ++ packWord salt ++
    packWord (deployment.evm.keccak256 (deployment.minimalProxyInitCode target)))).setWidth 160

/-- A clone starts on empty storage. None is put where a contract already is. -/
def _deployMinimalProxy (target : Address) (salt : Bytes32) : Result (System × Address) := do
  let minimalProxy := minimalProxyAddress deployment target salt
  requireCustom (system.deployed minimalProxy = false ∧ world.codeLength minimalProxy = 0)
    "Factory__FailedDeployment"
  pure ({ system with
    deployed := Function.update system.deployed minimalProxy true
    collections := Function.update system.collections minimalProxy Collection.State.blank },
    minimalProxy)

def addCollection (collectionAddress : Address) : Result System := do
  match system.registry with
  | none => .error .empty
  | some registry =>
      let registry ← registry.addCollection msg collectionAddress
      pure { system with registry := some registry }

def createCollectionContract (name symbol : Bytes) (salt : Bytes32) : Result System := do
  require (system.factory._status ≠ 2) "ReentrancyGuard: reentrant call"
  let featureRegistry_ := system.factory.featureRegistry
  onlyTrustedForwarder world msg featureRegistry_
  onlyLicensedUser world msg featureRegistry_
  let (system, collectionAddress) ← _deployMinimalProxy deployment world system
    system.factory.collectionProxyImplementation salt
  let collection ← Collection.initializeCollectionProxy (system.collections collectionAddress)
    featureRegistry_
  let collectionCreatorLU := sender world msg featureRegistry_
  let collection ← Collection.initializeOwnableFeature collection collectionCreatorLU
  let collection ← Collection.initializeERC721Feature collection name symbol
  let system ← addCollection ⟨deployment.this, []⟩ { system with
    collections := Function.update system.collections collectionAddress collection }
    collectionAddress
  pure { system with
    factory := { system.factory with _status := 1 }.emit
      (.CollectionCreated collectionAddress collectionCreatorLU name symbol salt) }

end Creation

inductive Call where
  | initializeV1 (featureRegistry_ collectionProxyImplementation : Address)
  | createCollectionContract (name symbol : Bytes) (salt : Bytes32)

inductive Transaction where
  | factory (world : World) (msg : Msg) (call : Call)
  | addCollection (msg : Msg) (collectionAddress : Address)
  | collection (address : Address) (transaction : Collection.Transaction)

abbrev Query := Address × Collection.Query

def collectionPart (address : Address) : Part System Collection.State where
  get system := system.collections address
  put collection system :=
    { system with collections := Function.update system.collections address collection }
  get_put _ _ := Function.update_self _ _ _
  put_get system := by simp

-- A call to an address without a contract does nothing.
def entry (deployment : Deployment) (transaction : Transaction) (system : System) :
    Outcome Revert System Query Reply System :=
  match transaction with
  | .factory world msg (.initializeV1 featureRegistry_ collectionProxyImplementation) =>
      liftM (Factory.initializeV1 deployment world msg system featureRegistry_
        collectionProxyImplementation)
  | .factory world msg (.createCollectionContract name symbol salt) =>
      liftM (Factory.createCollectionContract deployment world msg system name symbol salt)
  | .addCollection msg collectionAddress =>
      if system.registry.isSome then liftM (Factory.addCollection msg system collectionAddress)
      else pure system
  | .collection address transaction =>
      if system.deployed address = true then
        (Collection.entry deployment.evm transaction (system.collections address)).within
          (collectionPart address) (Prod.mk address) system
      else pure system

/-- The zero address has no code, and only the factory's own calls come from the factory. -/
def Legal (deployment : Deployment) : Transaction → System → Prop
  | .factory world _ _, _ => world.codeLength 0 = 0
  | .addCollection msg _, _ => msg.sender ≠ deployment.this
  | .collection _ _, _ => True

/-- Nothing that a new collection is set up with looks unset. -/
def Given : Transaction → System → Prop
  | .factory world msg (.createCollectionContract name symbol _), system =>
      name ≠ [] ∧ symbol ≠ [] ∧ sender world msg system.factory.featureRegistry ≠ 0
  | _, _ => True

def Accepts (system : System) (address : Address) : Prop :=
  ∃ registry, system.registry = some registry ∧ registry.registry address = true

def Created (system : System) (address : Address) (name symbol : Bytes) : Prop :=
  ∃ ownerAddress salt, .CollectionCreated address ownerAddress name symbol salt ∈
    system.factory.logs

abbrev identityOf (system : System) (address : Address) : Collection.Identity :=
  Collection.identity (system.collections address)

/-- A collection as it was created, but for its owner. -/
structure AsCreated (system : System) (address : Address) (name symbol : Bytes) : Prop where
  deployed : system.deployed address = true
  name : (identityOf system address).name = name
  symbol : (identityOf system address).symbol = symbol
  featureRegistry : (identityOf system address).featureRegistry = system.factory.featureRegistry
  complete : (identityOf system address).Complete

structure Sound (deployment : Deployment) (system : System) : Prop where
  fresh : system.factory.initializable._initialized = 0 → system.registry = none
  unregistered : system.registry = none → ∀ address name symbol, ¬Created system address name symbol
  registered : ∀ registry, system.registry = some registry →
    registry.collectionFactory = deployment.this ∧ system.factory.featureRegistry ≠ 0
  accepted : ∀ address, Accepts system address ↔ ∃ name symbol, Created system address name symbol
  created : ∀ address name symbol, Created system address name symbol →
    AsCreated system address name symbol

/-- What a transaction may do to a collection that there is. -/
structure Kept (transaction : Transaction) (before after : System) (address : Address) : Prop where
  name : (identityOf after address).name = (identityOf before address).name
  symbol : (identityOf after address).symbol = (identityOf before address).symbol
  featureRegistry :
    (identityOf after address).featureRegistry = (identityOf before address).featureRegistry
  owner : (identityOf after address).owner = (identityOf before address).owner ∨
    ∃ call, transaction = .collection address call ∧
      Collection.Succession call (before.collections address) (identityOf after address).owner

variable {deployment : Deployment} {world : World} {msg : Msg} {transaction : Transaction}
  {system system' : System} {address : Address} {name symbol : Bytes} {salt : Bytes32}

theorem System.blank_sound (deployment : Deployment) : Sound deployment System.blank where
  fresh _ := rfl
  unregistered := by
    rintro _ address name symbol ⟨_, _, ⟨⟩⟩
  registered _ none_ := by cases none_
  accepted address := by
    constructor
    · rintro ⟨_, none_, _⟩
      cases none_
    · rintro ⟨_, _, _, _, ⟨⟩⟩
  created := by
    rintro address name symbol ⟨_, _, ⟨⟩⟩

theorem Kept.same (same : identityOf system' address = identityOf system address) :
    Kept transaction system system' address :=
  ⟨congrArg _ same, congrArg _ same, congrArg _ same, Or.inl (congrArg _ same)⟩

theorem initializer_initialized {storage started : Initializable}
    (starts : storage.initializer true = .ok started) : storage._initialized = 0 := by
  simp only [Initializable.initializer, bind_eq_ok, require_eq_ok] at starts
  obtain ⟨_, ⟨_, below⟩ | ⟨contract, _⟩, _⟩ := starts
  · exact BitVec.eq_of_toNat_eq (by simpa [BitVec.lt_def] using below)
  · cases contract

/-- The state that the creation of a collection comes to. -/
def System.create (system : System) (registry : CollectionRegistry)
    (address ownerAddress : Address) (name symbol : Bytes) (salt : Bytes32) : System where
  factory := { system.factory with _status := 1 }.emit
    (.CollectionCreated address ownerAddress name symbol salt)
  registry := some { registry with registry := Function.update registry.registry address true }
  deployed := Function.update system.deployed address true
  collections := Function.update system.collections address { Collection.State.blank with
    featureRegistry := system.factory.featureRegistry
    owner := ownerAddress
    erc721 := { Collection.State.blank.erc721 with name := name, symbol := symbol } }

theorem createCollectionContract_creates
    (creates : createCollectionContract deployment world msg system name symbol salt =
      .ok system') :
    ∃ registry address, system.registry = some registry ∧ system.deployed address = false ∧
      system' = system.create registry address
        (sender world msg system.factory.featureRegistry) name symbol salt := by
  simp only [createCollectionContract, _deployMinimalProxy, addCollection,
    Collection.initializeCollectionProxy, Collection.initializeOwnableFeature,
    Collection.initializeERC721Feature, bind_eq_ok, pure_eq_ok, requireCustom_eq_ok] at creates
  obtain ⟨_, _, _, _, _, _, ⟨deployed, address⟩, ⟨_, ⟨undeployed, _⟩, placed⟩, _, ⟨_, _, rfl⟩, _,
    ⟨_, _, rfl⟩, _, ⟨_, _, rfl⟩, middle, added, rfl⟩ := creates
  cases placed
  split at added
  · cases added
  · rename_i registry present
    simp only [CollectionRegistry.addCollection, bind_eq_ok, pure_eq_ok] at added
    obtain ⟨_, ⟨_, _, rfl⟩, rfl⟩ := added
    refine ⟨registry, _, present, undeployed, ?_⟩
    simp [System.create]

section Steps

theorem created_create {registry : CollectionRegistry} {ownerAddress : Address}
    {name' symbol' : Bytes} {other : Address} :
    Created (system.create registry address ownerAddress name symbol salt) other name' symbol' ↔
      (other = address ∧ name' = name ∧ symbol' = symbol) ∨ Created system other name' symbol' := by
  constructor
  · rintro ⟨owner, salt', named⟩
    rcases List.mem_cons.mp named with latest | earlier
    · cases latest
      exact Or.inl ⟨rfl, rfl, rfl⟩
    · exact Or.inr ⟨owner, salt', earlier⟩
  · rintro (⟨rfl, rfl, rfl⟩ | ⟨owner, salt', earlier⟩)
    · exact ⟨ownerAddress, salt, List.mem_cons_self⟩
    · exact ⟨owner, salt', List.mem_cons_of_mem _ earlier⟩

theorem AsCreated.congr (before : AsCreated system address name symbol)
    (factory : system'.factory.featureRegistry = system.factory.featureRegistry)
    (deployed : system'.deployed address = system.deployed address)
    (same : identityOf system' address = identityOf system address) :
    AsCreated system' address name symbol where
  deployed := deployed.trans before.deployed
  name := same ▸ before.name
  symbol := same ▸ before.symbol
  featureRegistry := by rw [same, factory, before.featureRegistry]
  complete := same ▸ before.complete

theorem AsCreated.succeed (before : AsCreated system address name symbol) {newOwner : Address}
    (factory : system'.factory = system.factory)
    (deployed : system'.deployed = system.deployed) (given : newOwner ≠ 0)
    (same : identityOf system' address = { identityOf system address with owner := newOwner }) :
    AsCreated system' address name symbol where
  deployed := deployed ▸ before.deployed
  name := same ▸ before.name
  symbol := same ▸ before.symbol
  featureRegistry := by rw [same, factory, before.featureRegistry]
  complete := by
    rw [same]
    exact ⟨before.complete.featureRegistry, given, before.complete.name, before.complete.symbol⟩

theorem create_apart {registry : CollectionRegistry} {ownerAddress other : Address}
    (different : other ≠ address) :
    identityOf (system.create registry address ownerAddress name symbol salt) other =
      identityOf system other :=
  congrArg Collection.identity (Function.update_of_ne different _ _)

theorem Sound.create {registry : CollectionRegistry} {ownerAddress : Address}
    (sound : Sound deployment system) (present : system.registry = some registry)
    (undeployed : system.deployed address = false) (owner : ownerAddress ≠ 0)
    (named : name ≠ []) (titled : symbol ≠ []) :
    Sound deployment (system.create registry address ownerAddress name symbol salt) where
  fresh uninitialized := by cases (sound.fresh uninitialized).symm.trans present
  unregistered none_ := by cases none_
  registered := by
    rintro _ ⟨⟩
    exact sound.registered registry present
  accepted other := by
    simp only [created_create]
    by_cases same : other = address
    · subst same
      refine iff_of_true ⟨_, rfl, Function.update_self _ _ _⟩ ⟨name, symbol, Or.inl ⟨rfl, rfl, rfl⟩⟩
    · constructor
      · rintro ⟨_, ⟨⟩, listed⟩
        simp only [Function.update_of_ne same] at listed
        obtain ⟨name', symbol', before⟩ := (sound.accepted other).mp ⟨registry, present, listed⟩
        exact ⟨name', symbol', Or.inr before⟩
      · rintro ⟨name', symbol', ⟨rfl, _⟩ | before⟩
        · exact absurd rfl same
        · obtain ⟨_, found, listed⟩ := (sound.accepted other).mpr ⟨name', symbol', before⟩
          cases present.symm.trans found
          refine ⟨_, rfl, ?_⟩
          simpa only [Function.update_of_ne same] using listed
  created other name' symbol' made := by
    rcases created_create.mp made with ⟨rfl, rfl, rfl⟩ | before
    · have set_ : identityOf (system.create registry other ownerAddress name' symbol' salt) other =
          ⟨system.factory.featureRegistry, ownerAddress, name', symbol'⟩ := by
        simp [System.create, Collection.identity]
      refine ⟨Function.update_self _ _ _, ?_, ?_, ?_, ?_⟩
      · rw [set_]
      · rw [set_]
      · rw [set_]
        rfl
      · rw [set_]
        exact ⟨(sound.registered registry present).2, owner, named, titled⟩
    · have old := sound.created other name' symbol' before
      have different : other ≠ address := by
        rintro rfl
        cases old.deployed.symm.trans undeployed
      exact old.congr rfl (Function.update_of_ne different _ _) (create_apart different)

theorem Sound.opened {registry : CollectionRegistry} {factory : State}
    (sound : Sound deployment system) (absent : system.registry = none)
    (initialized : factory.initializable._initialized ≠ 0)
    (quiet : ∀ collectionAddress ownerAddress name symbol salt,
      .CollectionCreated collectionAddress ownerAddress name symbol salt ∈ factory.logs →
        .CollectionCreated collectionAddress ownerAddress name symbol salt ∈ system.factory.logs)
    (made : registry = ⟨fun _ => false, deployment.this⟩) (given : factory.featureRegistry ≠ 0) :
    Sound deployment { system with factory := factory, registry := some registry } := by
  have none_ : ∀ address name symbol,
      ¬Created { system with factory := factory, registry := some registry } address name
        symbol := by
    rintro address name symbol ⟨ownerAddress, salt, named⟩
    exact sound.unregistered absent address name symbol
      ⟨ownerAddress, salt, quiet _ _ _ _ _ named⟩
  refine ⟨fun unset => absurd unset initialized, fun _ => none_, ?_, ?_, ?_⟩
  · rintro _ ⟨⟩
    exact ⟨congrArg CollectionRegistry.collectionFactory made, given⟩
  · intro address
    constructor
    · rintro ⟨_, ⟨⟩, listed⟩
      rw [made] at listed
      cases listed
    · rintro ⟨name, symbol, created⟩
      exact absurd created (none_ address name symbol)
  · intro address name symbol created
    exact absurd created (none_ address name symbol)

theorem initializeV1_sound {featureRegistry_ collectionProxyImplementation : Address}
    (ran : initializeV1 deployment world msg system featureRegistry_
      collectionProxyImplementation = .ok system')
    (codeless : world.codeLength 0 = 0) (sound : Sound deployment system) :
    Sound deployment system' ∧ system'.collections = system.collections := by
  simp only [initializeV1, bind_eq_ok, requireCustom_eq_ok, pure_eq_ok] at ran
  obtain ⟨started, starts, _, coded, _, _, rfl⟩ := ran
  refine ⟨sound.opened (sound.fresh (initializer_initialized starts)) ?_ ?_ rfl ?_, rfl⟩
  · simp only [Initializable.initializer, bind_eq_ok, pure_eq_ok] at starts
    obtain ⟨_, _, rfl⟩ := starts
    exact show (1 : Uint8) ≠ 0 by decide
  · intro collectionAddress ownerAddress name symbol salt named
    simpa [State.emit] using named
  · intro zero
    have unset : featureRegistry_ = 0 := zero
    exact coded (unset ▸ codeless)

theorem collection_sound {call : Collection.Transaction} {collection : Collection.State}
    (ran : (Collection.entry deployment.evm call (system.collections address)).front =
      some collection)
    (sound : Sound deployment system) (deployed : Created system address name symbol) :
    Kept (.collection address call) system ((collectionPart address).put collection system)
        address ∧
      AsCreated ((collectionPart address).put collection system) address name symbol := by
  have old := sound.created address name symbol deployed
  have here : identityOf ((collectionPart address).put collection system) address =
      Collection.identity collection :=
    congrArg Collection.identity (Function.update_self _ _ _)
  rcases Collection.entry_identity ran old.complete with same | ⟨newOwner, succession, changed⟩
  · exact ⟨.same (here.trans same), old.congr rfl rfl (here.trans same)⟩
  · have next := here.trans changed
    refine ⟨⟨?_, ?_, ?_, Or.inr ⟨call, rfl, ?_⟩⟩, old.succeed rfl rfl succession.newOwner next⟩
    · rw [next]
    · rw [next]
    · rw [next]
    · rw [next]
      exact succession

theorem entry_sound (sound : Sound deployment system)
    (legal : Legal deployment transaction system) (given : Given transaction system)
    (ran : (entry deployment transaction system).front = some system') :
    Sound deployment system' ∧
      ∀ address, Accepts system address → Kept transaction system system' address := by
  cases transaction with
  | factory world msg call =>
      cases call with
      | initializeV1 featureRegistry_ collectionProxyImplementation =>
          obtain ⟨after, same⟩ := initializeV1_sound (Outcome.front_lift ran) legal sound
          exact ⟨after, fun address _ =>
            .same (congrArg Collection.identity (congrFun same address))⟩
      | createCollectionContract name symbol salt =>
          obtain ⟨registry, created, present, undeployed, rfl⟩ :=
            createCollectionContract_creates (Outcome.front_lift ran)
          obtain ⟨named, titled, owner⟩ := given
          refine ⟨sound.create present undeployed owner named titled, fun address accepts => ?_⟩
          obtain ⟨name', symbol', before⟩ := (sound.accepted address).mp accepts
          refine .same (create_apart ?_)
          rintro rfl
          cases (sound.created _ _ _ before).deployed.symm.trans undeployed
  | addCollection msg collectionAddress =>
      simp only [entry] at ran
      split at ran
      · have added := Outcome.front_lift ran
        simp only [Factory.addCollection] at added
        split at added
        · cases added
        · rename_i registry present
          simp only [CollectionRegistry.addCollection, bind_eq_ok, requireCustom_eq_ok] at added
          obtain ⟨_, ⟨_, own, _⟩, _⟩ := added
          exact absurd (own.trans (sound.registered registry present).1) legal
      · cases ran
        exact ⟨sound, fun address _ => .same rfl⟩
  | collection address call =>
      simp only [entry] at ran
      split at ran
      · rw [Outcome.front_within] at ran
        obtain ⟨collection, executed, rfl⟩ := Option.map_eq_some_iff.mp ran
        have apart : ∀ other, other ≠ address →
            identityOf ((collectionPart address).put collection system) other =
              identityOf system other := by
          intro other different
          exact congrArg Collection.identity (Function.update_of_ne different _ _)
        refine ⟨⟨sound.fresh, sound.unregistered, sound.registered, sound.accepted, ?_⟩, ?_⟩
        · intro other name symbol created
          by_cases same : other = address
          · subst same
            exact (collection_sound executed sound created).2
          · exact (sound.created other name symbol created).congr rfl rfl (apart other same)
        · intro other accepts
          by_cases same : other = address
          · subst same
            obtain ⟨name, symbol, created⟩ := (sound.accepted other).mp accepts
            exact (collection_sound executed sound created).1
          · exact .same (apart other same)
      · cases ran
        exact ⟨sound, fun other _ => .same rfl⟩

theorem entry_trailing (deployment : Deployment) (transaction : Transaction) (system : System) :
    (entry deployment transaction system).Trailing := by
  cases transaction with
  | factory world msg call =>
      cases call with
      | initializeV1 => exact .lift _
      | createCollectionContract => exact .lift _
  | addCollection msg collectionAddress =>
      simp only [entry]
      split
      · exact .lift _
      · trivial
  | collection address call =>
      simp only [entry]
      split
      · exact (Collection.entry_trailing deployment.evm call _).within system
      · trivial

end Steps

theorem collections_settled (deployment : Deployment)
    (config : Config Revert System Query Reply Transaction)
    (reach : Reach (entry deployment) (fun transaction system =>
      Legal deployment transaction system ∧ Given transaction system) System.blank config) :
    (∀ address, Accepts config.now.state address →
      ∃ name symbol, Created config.now.state address name symbol) ∧
    (∀ address name symbol, Created config.now.state address name symbol →
      AsCreated config.now.state address name symbol) ∧
    ∀ transaction, Legal deployment transaction config.now.state →
      Given transaction config.now.state →
      (entry deployment transaction config.now.state).Trailing ∧
        ∀ system', (entry deployment transaction config.now.state).front = some system' →
          ∀ address, Accepts config.now.state address →
            Kept transaction config.now.state system' address := by
  have sound : Sound deployment config.now.state := by
    refine reach.invariant (Sound deployment) (System.blank_sound deployment) ?_
    rintro transaction system ⟨legal, given⟩ sound
    exact (entry_trailing deployment transaction system).keeps fun system' ran =>
      (entry_sound sound legal given ran).1
  refine ⟨fun address => (sound.accepted address).mp, sound.created, ?_⟩
  intro transaction legal given
  exact ⟨entry_trailing deployment transaction _,
    fun system' ran => (entry_sound sound legal given ran).2⟩

section Samples

def cloneInitCode (target : Address) : Bytes :=
  [0x3d, 0x60, 0x2d, 0x80, 0x60, 0x0a, 0x3d, 0x39, 0x81, 0xf3, 0x36, 0x3d, 0x3d, 0x37, 0x3d, 0x3d,
    0x3d, 0x36, 0x3d, 0x73] ++ packWord target ++
    [0x5a, 0xf4, 0x3d, 0x82, 0x80, 0x3e, 0x90, 0x3d, 0x91, 0x60, 0x2b, 0x57, 0xfd, 0x5b, 0xf3]

def cloneHash : Bytes32 := 0xc0d7cbf457075919642eb570d6d3707a9e086edfd14ed1e15dcca6673397f759

def sampleSalt : Bytes32 := 0x5a17

def sampleAddress : Address := 0x1f678bedbc27792e5d8cf98fe74cc20771976846

def sampleDeployment : Deployment where
  evm := Evm.ofTables [(cloneInitCode 0x1a9, cloneHash),
    ([0xff] ++ packWord (0xfac : Address) ++ packWord sampleSalt ++ packWord cloneHash,
      0x582218e2afa9164db6b782c21f678bedbc27792e5d8cf98fe74cc20771976846)] []
  this := 0xfac
  collectionRegistry := 0xc011
  minimalProxyInitCode := cloneInitCode

def sampleWorld : World :=
  { World.named [(LICENSED_USER_MANAGER, 0x10c)] with
    featureRegistry := fun _ => ⟨0x4a3e, 0xf04⟩
    isActiveWallet := fun _ wallet => wallet = 0xa11ce
    codeLength := fun account => if account = 0xfea ∨ account = 0x1a9 then 1 else 0 }

def openSample : Transaction :=
  .factory sampleWorld ⟨0xad317, []⟩ (.initializeV1 0xfea 0x1a9)

def forwarded (wallet : Address) : Msg := ⟨0xf04, [0, 0, 0, 0] ++ packWord wallet⟩

def createSample (symbol : Bytes) : Transaction :=
  .factory sampleWorld (forwarded 0xa11ce)
    (.createCollectionContract (ascii "Show") symbol sampleSalt)

def createdRun (symbol : Bytes) : Config Revert System Query Reply Transaction :=
  let enter := Config.enter (entry sampleDeployment)
  enter (createSample symbol) (enter openSample (.start System.blank))

def renameSample : Transaction :=
  .collection sampleAddress
    ⟨sampleWorld, ⟨0xe0a, []⟩, .initializeERC721Feature (ascii "Fake") (ascii "F")⟩

def succeedSample : Transaction :=
  .collection sampleAddress ⟨sampleWorld, forwarded 0xa11ce, .transferOwnership 0xb0b⟩

set_option maxRecDepth 8000 in
theorem createdRun_settled :
    (identityOf (createdRun (ascii "SH")).now.state sampleAddress).name = ascii "Show" ∧
      ∃ system', (entry sampleDeployment succeedSample
          (createdRun (ascii "SH")).now.state).front = some system' ∧
        Kept succeedSample (createdRun (ascii "SH")).now.state system' sampleAddress ∧
        (identityOf system' sampleAddress).owner = 0xb0b := by
  have opened : Reach (entry sampleDeployment) (fun transaction system =>
      Legal sampleDeployment transaction system ∧ Given transaction system) System.blank
      (Config.enter (entry sampleDeployment) openSample (.start System.blank)) :=
    .enter _ .start ⟨by unfold Legal openSample; decide, trivial⟩
  have reach := opened.enter (createSample (ascii "SH"))
    ⟨by unfold Legal createSample; decide, by unfold Given createSample; decide⟩
  obtain ⟨_, created, steps⟩ := collections_settled sampleDeployment _ reach
  have named : Created (createdRun (ascii "SH")).now.state sampleAddress (ascii "Show")
      (ascii "SH") := ⟨0xa11ce, sampleSalt, List.mem_cons_self⟩
  have accepted : Accepts (createdRun (ascii "SH")).now.state sampleAddress :=
    ⟨_, rfl, by decide⟩
  have succeeded : ((entry sampleDeployment succeedSample
      (createdRun (ascii "SH")).now.state).front.map fun system =>
        (identityOf system sampleAddress).owner) = some 0xb0b := by decide
  obtain ⟨system', ran, owner⟩ := Option.map_eq_some_iff.mp succeeded
  exact ⟨(created _ _ _ named).name, system', ran,
    (steps succeedSample trivial trivial).2 system' ran sampleAddress accepted, owner⟩

set_option maxRecDepth 8000 in
theorem createdRun_renamed :
    ¬∀ config, Reach (entry sampleDeployment) (Legal sampleDeployment) System.blank config →
      ∀ transaction system', Legal sampleDeployment transaction config.now.state →
        (entry sampleDeployment transaction config.now.state).front = some system' →
        ∀ address, Accepts config.now.state address →
          Kept transaction config.now.state system' address := by
  intro settled
  have opened : Reach (entry sampleDeployment) (Legal sampleDeployment) System.blank
      (Config.enter (entry sampleDeployment) openSample (.start System.blank)) :=
    .enter _ .start (by unfold Legal openSample; decide)
  have reach := opened.enter (createSample []) (by unfold Legal createSample; decide)
  have renamed : ((entry sampleDeployment renameSample (createdRun []).now.state).front.map
      fun system => (identityOf system sampleAddress).name) = some (ascii "Fake") := by decide
  obtain ⟨system', ran, name⟩ := Option.map_eq_some_iff.mp renamed
  have accepted : Accepts (createdRun []).now.state sampleAddress := ⟨_, rfl, by decide⟩
  have kept := (settled _ reach renameSample system' trivial ran sampleAddress accepted).name
  have before : (identityOf (createdRun []).now.state sampleAddress).name = ascii "Show" := by
    decide
  have different : ascii "Fake" ≠ ascii "Show" := by decide
  exact different (name.symm.trans (kept.trans before))

end Samples

end Startrail.Factory
