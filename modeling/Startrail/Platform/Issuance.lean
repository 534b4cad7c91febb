import Startrail.Bulk.LeafEncoding
import Startrail.Platform.Consent

/-!
Records from the bulk contract. What it logs as created in the registry is there,
each record once, with the signer of the batch as its issuer; and that signer has
signed a request to prepare this very root, which the forwarder accepted.
-/

namespace Startrail.Platform

open Startrail.Bulk (CreateSRRInputs CreateSRRArrays MerkleProof.verify leafHashInputs)

/-- A record that the bulk contract has created in the registry: root, token and leaf. -/
def createdRecord : Bulk.Event → Option (Bytes32 × Uint256 × Bytes32)
  | .CreateSRRWithProof merkleRoot contractAddress tokenId leafHash =>
      if contractAddress = 0 then some (merkleRoot, tokenId, leafHash) else none
  | _ => none

def createdRecords (state : Bulk.State) : List (Bytes32 × Uint256 × Bytes32) :=
  state.logs.filterMap createdRecord

/-- The leaf stands for a record of this token, and the root covers it. -/
def Covers (evm : Evm) (merkleRoot leafHash : Bytes32) (tokenId : Uint256) : Prop :=
  ∃ (inputs : CreateSRRInputs) (isToInLeafHash : Bool) (merkleProof : List Bytes32),
    inputs.contractAddress = 0 ∧
      leafHash = evm.keccak256 (leafHashInputs inputs isToInLeafHash) ∧
      MerkleProof.verify evm merkleProof merkleRoot leafHash = true ∧
      tokenId = generate evm inputs.metadataCID inputs.artistAddress

structure Issued (evm : Evm) (whole : State) (merkleRoot : Bytes32) (tokenId : Uint256)
    (leafHash : Bytes32) : Prop where
  prepared : (whole.bulk.batches merkleRoot).prepared = true
  covers : Covers evm merkleRoot leafHash tokenId
  owned : whole.registry._tokenOwner tokenId ≠ 0
  issuer : (Registry.details whole.registry tokenId).srr.issuer =
    (whole.bulk.batches merkleRoot).signer

structure Recorded (evm : Evm) (whole : State) : Prop where
  issued : ∀ merkleRoot tokenId leafHash,
    (merkleRoot, tokenId, leafHash) ∈ createdRecords whole.bulk →
      Issued evm whole merkleRoot tokenId leafHash
  distinct : ((createdRecords whole.bulk).map fun record => record.2.1).Nodup

/-- Batches stay prepared. -/
def StaysPrepared (before after : State) : Prop :=
  ∀ merkleRoot, (before.bulk.batches merkleRoot).prepared = true →
    (after.bulk.batches merkleRoot).prepared = true

/-- What the bulk contract does without creating a record. -/
structure Silent (deployment : Deployment) (before after : Bulk.State) : Prop where
  step : BulkStep deployment before after
  records : createdRecords after = createdRecords before

section Keeping

variable {deployment : Deployment} {evm : Evm} {whole : State}

theorem silent_closed :
    Closed (fun event => createdRecord event = none) (Silent deployment) where
  refl state := ⟨bulkStep_closed.refl state, rfl⟩
  trans first second :=
    ⟨bulkStep_closed.trans first.step second.step, second.records.trans first.records⟩
  mark := by
    intro state state' merkleRoot leafHash marked
    refine ⟨bulkStep_closed.mark marked, ?_⟩
    obtain ⟨_, rfl⟩ := Bulk.markProcessed_effect marked
    rfl
  emit state event quiet := ⟨bulkStep_closed.emit state event trivial,
    List.filterMap_cons_none quiet⟩

theorem Recorded.registry (recorded : Recorded evm whole) {registry : Registry.State}
    (kept : KeepsRecords whole.registry registry) : Recorded evm { whole with registry } where
  issued merkleRoot tokenId leafHash created := by
    obtain ⟨prepared, covers, owned, issuer⟩ := recorded.issued merkleRoot tokenId leafHash created
    obtain ⟨owned', issuer'⟩ := kept tokenId owned
    exact ⟨prepared, covers, owned', issuer'.trans issuer⟩
  distinct := recorded.distinct

theorem Recorded.silent (recorded : Recorded evm whole) {bulk : Bulk.State}
    (silent : Silent deployment whole.bulk bulk) : Recorded evm { whole with bulk } where
  issued merkleRoot tokenId leafHash created := by
    have created' : (merkleRoot, tokenId, leafHash) ∈ createdRecords whole.bulk :=
      silent.records ▸ created
    obtain ⟨prepared, covers, owned, issuer⟩ :=
      recorded.issued merkleRoot tokenId leafHash created'
    obtain ⟨prepared', signer⟩ := silent.step.2 merkleRoot
    exact ⟨prepared'.trans prepared, covers, owned, issuer.trans signer.symm⟩
  distinct := by
    show ((createdRecords bulk).map _).Nodup
    rw [silent.records]
    exact recorded.distinct

theorem Recorded.prepare (recorded : Recorded evm whole) {msg : Msg} {merkleRoot : Bytes32}
    (fresh : (whole.bulk.batches merkleRoot).prepared = false) :
    Recorded evm { whole with bulk := Bulk._prepareBatch msg whole.bulk merkleRoot } where
  issued root tokenId leafHash created := by
    have created' : (root, tokenId, leafHash) ∈ createdRecords whole.bulk := created
    obtain ⟨prepared, covers, owned, issuer⟩ := recorded.issued root tokenId leafHash created'
    have other : root ≠ merkleRoot := by
      rintro rfl
      exact absurd prepared (by simp [fresh])
    have same : (Bulk._prepareBatch msg whole.bulk merkleRoot).batches root =
        whole.bulk.batches root := by
      simp [Bulk._prepareBatch, Bulk.State.setBatch, Bulk.State.emit, other]
    refine ⟨?_, covers, owned, ?_⟩
    · rw [same]
      exact prepared
    · rw [same]
      exact issuer
  distinct := recorded.distinct

/-- A record that was not there before. -/
theorem Recorded.create (recorded : Recorded evm whole) {registry : Registry.State}
    {merkleRoot leafHash : Bytes32} {tokenId : Uint256}
    (kept : KeepsRecords whole.registry registry) (absent : whole.registry._tokenOwner tokenId = 0)
    (prepared : (whole.bulk.batches merkleRoot).prepared = true)
    (covers : Covers evm merkleRoot leafHash tokenId) (owned : registry._tokenOwner tokenId ≠ 0)
    (issuer : (Registry.details registry tokenId).srr.issuer =
      (whole.bulk.batches merkleRoot).signer) :
    Recorded evm { whole with
      registry
      bulk := whole.bulk.emit (.CreateSRRWithProof merkleRoot 0 tokenId leafHash) } := by
  have records : createdRecords (whole.bulk.emit (.CreateSRRWithProof merkleRoot 0 tokenId
      leafHash)) = (merkleRoot, tokenId, leafHash) :: createdRecords whole.bulk :=
    List.filterMap_cons_some (by simp [createdRecord])
  have recorded' := recorded.registry kept
  refine ⟨?_, ?_⟩
  · intro root token leaf created
    rw [records] at created
    rcases List.mem_cons.mp created with new | old
    · cases new
      exact ⟨prepared, covers, owned, issuer⟩
    · obtain ⟨prepared', covers', owned', issuer'⟩ := recorded'.issued root token leaf old
      exact ⟨prepared', covers', owned', issuer'⟩
  · show ((createdRecords (whole.bulk.emit _)).map _).Nodup
    rw [records, List.map_cons, List.nodup_cons]
    refine ⟨?_, recorded.distinct⟩
    intro listed
    obtain ⟨⟨root, token, leaf⟩, created, rfl⟩ := List.mem_map.mp listed
    exact (recorded.issued root _ leaf created).owned absent

end Keeping

section Creations

variable {deployment : Deployment} {whole : State}

theorem createSRRFromBulk_issues {world : World} {msg : Msg} {state state' : Registry.State}
    {isPrimaryIssuer lockExternalTransfer : Bool}
    {artistAddress issuerAddress to_ royaltyReceiver : Address} {metadataCID : Bytes}
    {royaltyBasisPoints : Uint16} {tokenId : Uint256}
    (created : Registry.createSRRFromBulk (registryDeployment deployment) world msg state
      isPrimaryIssuer artistAddress metadataCID issuerAddress lockExternalTransfer to_
      royaltyReceiver royaltyBasisPoints = .ok (state', tokenId)) :
    tokenId = generate deployment.evm metadataCID artistAddress ∧ state._tokenOwner tokenId = 0 ∧
      state'._tokenOwner tokenId ≠ 0 ∧
      (Registry.details state' tokenId).srr.issuer = issuerAddress := by
  simp only [Registry.createSRRFromBulk, bind_eq_ok] at created
  obtain ⟨_, _, created⟩ := created
  obtain ⟨rfl, absent, issuer, entered⟩ := Registry.createSRRFor_ledger created
  obtain ⟨_, _, written⟩ := @Registry.createSRRFor_details _ _ _ ⟨isPrimaryIssuer, artistAddress,
    metadataCID, issuerAddress, lockExternalTransfer, to_, royaltyReceiver, royaltyBasisPoints⟩ _
    created
  refine ⟨rfl, absent, ?_, ?_⟩
  · obtain ⟨owner, someone, owners⟩ := Registry.Birth.entered_owner
      ⟨_, issuerAddress, lockExternalTransfer, to_⟩ (Registry.ledger state) issuer
    have owners' : state'._tokenOwner = Function.update state._tokenOwner
        (generate deployment.evm metadataCID artistAddress) owner :=
      (congrArg Ledger.owner entered).trans owners
    rw [owners']
    exact ne_of_eq_of_ne (Function.update_self _ _ _) someone
  · exact congrArg (fun details => details.srr.issuer) ((written _).trans (if_pos rfl))

/-- The invariant and what stays while the contract waits. -/
abbrev Keeps (deployment : Deployment) {A : Type} (code : Execution A) (Post : A → Prop) : Prop :=
  code.Obeys (fun whole => Wired deployment whole ∧ Recorded deployment.evm whole) StaysPrepared
    Post

theorem serveBulk_create {isPrimaryIssuer lockExternalTransfer : Bool}
    {artistAddress issuerAddress to_ royaltyReceiver : Address} {metadataCID : Bytes}
    {royaltyBasisPoints : Uint16} {A : Type} {next : State × Bulk.Answer → Execution A}
    {Post : A → Prop}
    (created : ∀ msg registry tokenId, Registry.createSRRFromBulk (registryDeployment deployment)
      (worldOf deployment whole) msg whole.registry isPrimaryIssuer artistAddress metadataCID
      issuerAddress lockExternalTransfer to_ royaltyReceiver royaltyBasisPoints =
        .ok (registry, tokenId) →
      Keeps deployment (next ({ whole with registry },
        ⟨⟨true, packWord tokenId⟩, worldOf deployment { whole with registry }⟩)) Post)
    (failed : ∀ answer : Bulk.Answer, answer.reply.success = false →
      Keeps deployment (next (whole, answer)) Post) :
    Keeps deployment (serveBulk deployment (.createSRRFromBulk deployment.registry isPrimaryIssuer
      artistAddress metadataCID issuerAddress lockExternalTransfer to_ royaltyReceiver
      royaltyBasisPoints) whole >>= next) Post := by
  simp only [serveBulk, replyToBulk, targetOfQuery, if_true, registryFromBulk]
  cases made : Registry.createSRRFromBulk (registryDeployment deployment)
      (worldOf deployment whole) (bulkMsg deployment _) whole.registry isPrimaryIssuer
      artistAddress metadataCID issuerAddress lockExternalTransfer to_ royaltyReceiver
      royaltyBasisPoints with
  | error reason => exact failed _ rfl
  | ok value => exact created _ value.1 value.2 made

theorem StaysPrepared.refl (whole : State) : StaysPrepared whole whole := fun _ => id

theorem StaysPrepared.trans {first middle last : State} (before : StaysPrepared first middle)
    (after : StaysPrepared middle last) : StaysPrepared first last :=
  fun merkleRoot prepared => after merkleRoot (before merkleRoot prepared)

theorem registry_recorded {whole : State} (registry : Registry.State)
    (kept : KeepsRecords whole.registry registry) (recorded : Recorded deployment.evm whole) :
    Recorded deployment.evm { whole with registry } ∧ StaysPrepared whole { whole with registry } :=
  ⟨recorded.registry kept, .refl whole⟩

/-- What a loop over leaves knows before each of them. -/
structure Ongoing (deployment : Deployment) (first : State) (merkleRoot : Bytes32) (world : World)
    (whole : State) : Prop where
  since : StaysPrepared first whole
  wired : Wired deployment whole
  recorded : Recorded deployment.evm whole
  prepared : (whole.bulk.batches merkleRoot).prepared = true
  registry : (world.nameRegistry deployment.nameRegistry).get STARTRAIL_REGISTRY =
    deployment.registry

theorem worldOf_registry (wired : Wired deployment whole) :
    ((worldOf deployment whole).nameRegistry deployment.nameRegistry).get STARTRAIL_REGISTRY =
      deployment.registry := by
  rw [worldOf_nameRegistry, wired.names.registry]

theorem Silent.stays {bulk : Bulk.State} (silent : Silent deployment whole.bulk bulk) :
    StaysPrepared whole { whole with bulk } :=
  fun merkleRoot prepared => (silent.step.2 merkleRoot).1.trans prepared

theorem Ongoing.silent {first : State} {merkleRoot : Bytes32} {world : World}
    (ongoing : Ongoing deployment first merkleRoot world whole) {bulk : Bulk.State}
    (silent : Silent deployment whole.bulk bulk) :
    Ongoing deployment first merkleRoot world { whole with bulk } where
  since := ongoing.since.trans silent.stays
  wired := ⟨ongoing.wired.names, ongoing.wired.forwarder, ongoing.wired.manager,
    silent.step.1 ongoing.wired.bulk⟩
  recorded := ongoing.recorded.silent silent
  prepared := (silent.step.2 merkleRoot).1.trans ongoing.prepared
  registry := ongoing.registry

theorem createSRRWithProof_keeps {first : State} {world : World} {state : Bulk.State}
    {merkleProof : List Bytes32} {merkleRoot leafHash : Bytes32} {inputs : CreateSRRInputs}
    {isToInLeafHash : Bool}
    (ongoing : Ongoing deployment first merkleRoot world { whole with bulk := state })
    (leaf : leafHash = deployment.evm.keccak256 (leafHashInputs inputs isToInLeafHash)) :
    Keeps deployment ((Bulk._createSRRWithProof deployment.evm world state merkleProof merkleRoot
      leafHash inputs).plug bulkPart (serveBulk deployment) whole) fun value =>
        Ongoing deployment first merkleRoot value.2.1 { value.1 with bulk := value.2.2.1 } := by
  apply Outcome.Obeys.plug_lift_bind
  intro _ verified
  rw [require_eq_ok] at verified
  apply Outcome.Obeys.plug_lift_bind
  intro marked made
  have pending := ongoing.silent (silent_closed.mark made)
  simp only [Bulk.externalCall, bind_assoc, Outcome.plug_external_bind]
  by_cases own : inputs.contractAddress = 0
  · have target : Bulk.targetOf world marked inputs.contractAddress = deployment.registry := by
      rw [Bulk.targetOf, if_pos own, Bulk._startrailRegistry, pending.wired.bulk.2.1]
      exact pending.registry
    rw [target]
    apply serveBulk_create
    · intro msg registry tokenId created
      obtain ⟨generated, absent, owned, issuer⟩ := createSRRFromBulk_issues created
      have kept := createSRRFromBulk_keepsRecords created
      have covers : Covers deployment.evm merkleRoot leafHash tokenId :=
        ⟨inputs, isToInLeafHash, merkleProof, own, leaf, verified, generated⟩
      have recorded := pending.recorded.create kept absent pending.prepared covers owned issuer
      have short : ¬(packWord tokenId).length < 32 := by simp
      have read : wordOf ((packWord tokenId).take 32) = tokenId := by
        rw [List.take_of_length_le (by simp), wordOf_packWord]
      simp only [if_true, pure_bind, if_neg short, own, read]
      have wired := pending.wired.put_registry registry
      exact ⟨pending.since, ⟨wired.names, wired.forwarder, wired.manager, wired.bulk⟩, recorded,
        pending.prepared, worldOf_registry wired⟩
    · intro answer failed
      simp only [failed, Bool.false_eq_true, if_false]
      trivial
  · refine Outcome.Obeys.bind (serveBulk_frame StaysPrepared.refl StaysPrepared.trans
      registry_recorded _ pending.wired pending.recorded) ?_
    rintro ⟨later, answer⟩ ⟨⟨wired, recorded⟩, since, told⟩
    dsimp only
    split
    · simp only [pure_bind]
      split
      · trivial
      · have silent : Silent deployment later.bulk _ :=
          silent_closed.emit later.bulk (.CreateSRRWithProof merkleRoot inputs.contractAddress
            (wordOf (answer.reply.returndata.take 32)) leafHash) (if_neg own)
        have registry := worldOf_registry wired
        rw [← told] at registry
        exact Ongoing.silent ⟨pending.since.trans since, wired, recorded,
          since merkleRoot pending.prepared, registry⟩ silent
    · trivial

theorem createLoop_keeps {first : State} {world : World} {state : Bulk.State}
    {merkleProofs : List (List Bytes32)} {merkleRoot : Bytes32} {leafHashes : List Bytes32}
    {arrays : CreateSRRArrays} {i : Nat}
    (ongoing : Ongoing deployment first merkleRoot world { whole with bulk := state }) :
    Keeps deployment ((Bulk.createLoop deployment.evm merkleProofs merkleRoot arrays leafHashes i
      world state).plug bulkPart (serveBulk deployment) whole) fun value =>
        (Wired deployment { value.1 with bulk := value.2.1 } ∧
            Recorded deployment.evm { value.1 with bulk := value.2.1 }) ∧
          StaysPrepared first { value.1 with bulk := value.2.1 } := by
  induction leafHashes generalizing i world state whole with
  | nil => exact ⟨⟨ongoing.wired, ongoing.recorded⟩, ongoing.since⟩
  | cons leaf leafHashes ih =>
      apply Outcome.Obeys.plug_lift_bind
      intro _ _
      apply Outcome.Obeys.plug_lift_bind
      intro inputs _
      apply Outcome.Obeys.plug_lift_bind
      intro _ matches_
      simp only [require_eq_ok, Bulk.verifyLeafHash, beq_iff_eq] at matches_
      apply Outcome.Obeys.plug_lift_bind
      intro merkleProof _
      rw [Outcome.plug_bind]
      refine Outcome.Obeys.bind (createSRRWithProof_keeps ongoing matches_) ?_
      rintro ⟨later, world', state', tokenId⟩ ongoing'
      rw [Outcome.plug_bind]
      refine Outcome.Obeys.bind (ih ongoing') ?_
      rintro ⟨last, state'', tokenIds⟩ kept
      exact kept

end Creations

section Runs

variable {deployment : Deployment} {sent : List Transaction} {origin whole : State}

theorem silent_bulk {whole : State} {bulk : Bulk.State} (recorded : Recorded deployment.evm whole)
    (silent : Silent deployment whole.bulk bulk) :
    (BulkWired deployment whole.bulk → BulkWired deployment bulk) ∧
      Recorded deployment.evm { whole with bulk } ∧ StaysPrepared whole { whole with bulk } :=
  ⟨silent.step.1, recorded.silent silent, silent.stays⟩

theorem bulk_keeps {msg : Msg} {call : Bulk.Call} (wired : Wired deployment whole)
    (recorded : Recorded deployment.evm whole)
    (keeps : ((worldOf deployment whole).nameRegistry deployment.nameRegistry).administrator =
      msg.sender → KeepsWiring deployment (.bulk call)) :
    Keeps deployment ((Bulk.entry deployment.evm ⟨worldOf deployment whole, msg, call⟩
      whole.bulk).plug bulkPart (serveBulk deployment) whole) fun value =>
        (Wired deployment { value.1 with bulk := value.2 } ∧
            Recorded deployment.evm { value.1 with bulk := value.2 }) ∧
          StaysPrepared whole { value.1 with bulk := value.2 } := by
  have settled : ∀ bulk, Silent deployment whole.bulk bulk →
      (Wired deployment { whole with bulk } ∧ Recorded deployment.evm { whole with bulk }) ∧
        StaysPrepared whole { whole with bulk } := by
    intro bulk silent
    obtain ⟨kept, recorded', since⟩ := silent_bulk recorded silent
    exact ⟨⟨⟨wired.names, wired.forwarder, wired.manager, kept wired.bulk⟩, recorded'⟩, since⟩
  cases call with
  | initializeV1 _nameRegistry _trustedForwarder =>
      apply Outcome.Obeys.plug_lift
      intro bulk accepted
      simp only [Bulk.initializeV1, bind_eq_ok] at accepted
      obtain ⟨_, passed, _⟩ := accepted
      exact absurd wired.bulk.1 (initializer_unready passed)
  | setTrustedForwarder forwarder =>
      apply Outcome.Obeys.plug_lift
      intro bulk accepted
      simp only [Bulk.setTrustedForwarder, Bulk._setTrustedForwarder, Bulk.onlyAdministrator,
        bind_eq_ok, require_eq_ok, wired.bulk.2.1] at accepted
      obtain ⟨_, administrator, accepted⟩ := accepted
      split at accepted
      · cases accepted
      · cases accepted
        exact settled _ ⟨⟨fun _ => ⟨wired.bulk.1, rfl, keeps administrator⟩, fun _ => ⟨rfl, rfl⟩⟩,
          rfl⟩
  | prepareBatchFromLicensedUser merkleRoot =>
      apply Outcome.Obeys.plug_lift
      intro bulk accepted
      obtain ⟨wired', _, fresh, rfl⟩ := prepareBatch_effect wired.bulk accepted
      refine ⟨⟨⟨wired.names, wired.forwarder, wired.manager, wired'⟩, recorded.prepare fresh⟩, ?_⟩
      intro root prepared
      by_cases same : root = merkleRoot
      · subst same
        simp [Bulk._prepareBatch, Bulk.State.setBatch, Bulk.State.emit]
      · simpa [Bulk._prepareBatch, Bulk.State.setBatch, Bulk.State.emit, same] using prepared
  | createSRRWithProofMulti merkleProofs merkleRoot leafHashes arrays =>
      have loop : Keeps deployment ((Bulk.createSRRWithProofMulti deployment.evm
          (worldOf deployment whole) whole.bulk merkleProofs merkleRoot leafHashes arrays).plug
            bulkPart (serveBulk deployment) whole) fun value =>
          (Wired deployment { value.1 with bulk := value.2.1 } ∧
              Recorded deployment.evm { value.1 with bulk := value.2.1 }) ∧
            StaysPrepared whole { value.1 with bulk := value.2.1 } := by
        apply Outcome.Obeys.plug_lift_bind
        intro _ prepared
        simp only [Bulk.batchExists, require_eq_ok] at prepared
        exact createLoop_keeps ⟨.refl whole, wired, recorded, prepared, worldOf_registry wired⟩
      simp only [Bulk.entry, Outcome.plug_bind]
      apply Outcome.Obeys.bind loop
      rintro ⟨later, state, tokenIds⟩ kept
      exact kept
  | approveSRRByCommitmentWithProof =>
      exact bulk_frame StaysPrepared.refl StaysPrepared.trans registry_recorded silent_bulk wired
        recorded (silent_closed.approves rfl)
  | transferFromWithProvenanceWithProof =>
      exact bulk_frame StaysPrepared.refl StaysPrepared.trans registry_recorded silent_bulk wired
        recorded (silent_closed.transfers rfl)

/-- The records are in the bulk contract and the registry only. -/
theorem Recorded.same {later : State} (recorded : Recorded deployment.evm whole)
    (bulk : later.bulk = whole.bulk) (registry : later.registry = whole.registry) :
    Recorded deployment.evm later ∧ StaysPrepared whole later := by
  refine ⟨⟨?_, ?_⟩, ?_⟩
  · intro merkleRoot tokenId leafHash created
    rw [bulk] at created
    obtain ⟨prepared, covers, owned, issuer⟩ := recorded.issued merkleRoot tokenId leafHash created
    rw [← bulk] at prepared issuer
    rw [← registry] at owned issuer
    exact ⟨prepared, covers, owned, issuer⟩
  · rw [bulk]
    exact recorded.distinct
  · intro merkleRoot prepared
    rwa [bulk]

theorem issuance_rule : Rule deployment sent (Recorded deployment.evm) (fun _ _ => True)
    StaysPrepared where
  refl := .refl
  trans := .trans
  names := by
    intro whole names msg call _ recorded _ _
    exact recorded.same rfl rfl
  settles := by
    intro whole forwarder transaction call _ recorded _ _ _ _ _
    exact recorded.same rfl rfl
  forwarder := by
    intro whole forwarder _ _ recorded
    exact recorded.same rfl rfl
  accepts _ _ := trivial
  elsewhere := by
    intro whole elsewhere recorded
    exact recorded.same rfl rfl
  manager := by
    intro whole manager msg call _ recorded _ _
    exact recorded.same rfl rfl
  registry := by
    intro whole msg call depth wired recorded _
    exact registry_frame StaysPrepared.refl StaysPrepared.trans registry_recorded wired recorded
      (registry_keepsRecords depth call)
  bulk := by
    intro whole msg call wired recorded backed
    exact bulk_keeps wired recorded (backed.keeps wired)

/-- What the generated code makes sure of: a word of arguments follows the selector. -/
def DecodesRoots (deployment : Deployment) : Prop :=
  ∀ data merkleRoot, deployment.bulkDispatch data =
    some (.prepareBatchFromLicensedUser merkleRoot) → 36 ≤ data.length

theorem dispatch_bulk {_to : Address} {data : Bytes} {call : Bulk.Call}
    (named : dispatch deployment _to data = some (.bulk call)) :
    deployment.bulkDispatch data = some call := by
  unfold dispatch at named
  split at named
  · simp at named
  · split at named
    · simp at named
    · split at named
      · simp at named
      · split at named
        · simp at named
        · split at named
          · simpa using named
          · cases named

/-- The batch gets the sender of the request as its signer. -/
theorem prepared_signer {before : State} {_request : MetaTxForwarder.ExecutionRequest}
    {merkleRoot : Bytes32} (decodes : DecodesRoots deployment)
    (requested : Requested deployment sent before _request
      (.bulk (.prepareBatchFromLicensedUser merkleRoot)))
    (forwarder : before.bulk.trustedForwarder = deployment.forwarder) :
    ((Bulk._prepareBatch (requestMsg deployment before _request) before.bulk
      merkleRoot).batches merkleRoot).signer = _request.from_ := by
  obtain ⟨_to, _, named⟩ := requested.addressed
  have long := decodes _ merkleRoot (dispatch_bulk named)
  have signer : ((Bulk._prepareBatch (requestMsg deployment before _request) before.bulk
      merkleRoot).batches merkleRoot).signer =
        msgSender before.bulk.trustedForwarder (requestMsg deployment before _request) := by
    simp [Bulk._prepareBatch, Bulk.State.setBatch, Bulk.State.emit]
  rw [signer, forwarder]
  unfold MetaTxForwarder.callDataOf at long
  rw [List.length_append, length_packWord] at long
  exact msgSender_forwarded _ (by omega)

/-- A request of the run prepared the batch, and its sender is the signer to this day. -/
def PreparedBy (deployment : Deployment) (sent : List Transaction) (origin last : State)
    (merkleRoot : Bytes32) (_request : MetaTxForwarder.ExecutionRequest) : Prop :=
  ∃ before, Relation.ReflTransGen (Move deployment sent) origin before ∧
    Requested deployment sent before _request (.bulk (.prepareBatchFromLicensedUser merkleRoot)) ∧
    Relation.ReflTransGen (Move deployment sent)
      { before with
        forwarder := noted before.forwarder _request
        bulk := Bulk._prepareBatch (requestMsg deployment before _request) before.bulk merkleRoot }
      last

theorem moves_prepared (decodes : DecodesRoots deployment) {merkleRoot : Bytes32}
    (unprepared : (origin.bulk.batches merkleRoot).prepared = false) {last : State}
    (moves : Relation.ReflTransGen (Move deployment sent) origin last)
    (prepared : (last.bulk.batches merkleRoot).prepared = true) :
    ∃ _request, PreparedBy deployment sent origin last merkleRoot _request ∧
      (last.bulk.batches merkleRoot).signer = _request.from_ := by
  induction moves with
  | refl =>
      rw [unprepared] at prepared
      cases prepared
  | @tail before after past move ih =>
      have earlier : (after.bulk.batches merkleRoot).prepared =
          (before.bulk.batches merkleRoot).prepared →
          (after.bulk.batches merkleRoot).signer = (before.bulk.batches merkleRoot).signer →
          ∃ _request, PreparedBy deployment sent origin after merkleRoot _request ∧
            (after.bulk.batches merkleRoot).signer = _request.from_ := by
        intro same signer
        obtain ⟨_request, ⟨first, past', requested, since⟩, from_⟩ := ih (same.symm.trans prepared)
        exact ⟨_request, ⟨first, past', requested, since.tail move⟩, signer.trans from_⟩
      cases move with
      | renamed _ _ => exact earlier rfl rfl
      | settled _ _ _ => exact earlier rfl rfl
      | administered _ _ _ => exact earlier rfl rfl
      | requested _ _ _ => exact earlier rfl rfl
      | @prepared _request root requested forwarder fresh =>
          by_cases same : merkleRoot = root
          · subst same
            exact ⟨_request, ⟨before, past, requested, .refl⟩,
              prepared_signer decodes requested forwarder⟩
          · apply earlier
            · simp [Bulk._prepareBatch, Bulk.State.setBatch, Bulk.State.emit, same]
            · simp [Bulk._prepareBatch, Bulk.State.setBatch, Bulk.State.emit, same]
      | other _ _ _ _ signers => exact earlier (signers merkleRoot).1 (signers merkleRoot).2

/-- Every record that the bulk contract has logged is in the registry, and its issuer has signed
for the root that covers it. -/
theorem records_consented (deployment : Deployment) (decodes : DecodesRoots deployment)
    (origin : State) (config : Config Revert State Query Reply Transaction)
    (wired : Wired deployment origin)
    (unprepared : ∀ merkleRoot, (origin.bulk.batches merkleRoot).prepared = false)
    (unlogged : createdRecords origin.bulk = [])
    (reach : Reach (entry deployment) (Legal deployment) origin config) :
    ((createdRecords config.now.state.bulk).map fun record => record.2.1).Nodup ∧
      ∀ merkleRoot tokenId leafHash,
        (merkleRoot, tokenId, leafHash) ∈ createdRecords config.now.state.bulk →
        Covers deployment.evm merkleRoot leafHash tokenId ∧
        config.now.state.registry._tokenOwner tokenId ≠ 0 ∧
        ∃ _request,
          PreparedBy deployment config.now.trace origin config.now.state merkleRoot _request ∧
          (Registry.details config.now.state.registry tokenId).srr.issuer = _request.from_ := by
  have initial : Recorded deployment.evm origin := by
    refine ⟨?_, ?_⟩
    · intro merkleRoot tokenId leafHash created
      rw [unlogged] at created
      cases created
    · rw [unlogged]
      exact List.nodup_nil
  have recorded := (issuance_rule.reach wired initial reach).2
  have moves := (moves_rule.reach wired Relation.ReflTransGen.refl reach).2
  refine ⟨recorded.distinct, ?_⟩
  intro merkleRoot tokenId leafHash created
  obtain ⟨prepared, covers, owned, issuer⟩ := recorded.issued merkleRoot tokenId leafHash created
  obtain ⟨_request, preparedBy, signer⟩ :=
    moves_prepared decodes (unprepared merkleRoot) moves prepared
  exact ⟨covers, owned, _request, preparedBy, issuer.trans signer⟩

end Runs

section Samples

open LicensedUserManager (upperOwner)

open MetaTxForwarder (administratorAddress requestStruct requestEncoding)

def batchTypeHash : Bytes32 := 0x0172d8aef956076d95cd17382b234ebf2df603970f8b6389e750dc1473b7bf3a

/-- The root of a tree with one leaf is the leaf. -/
def issuedRoot : Bytes32 := 0x6fe9656d223df41e3cb9410a647b8aa39a9dbcbeb5c6756e500fd9010918aa10

def issuedToken : Uint256 := 860506940725

def issuedInputs : CreateSRRInputs := ⟨true, 0xa271, ascii "Qm", false, 0, 0x4a11, 500, 0⟩

def batchRequest : MetaTxForwarder.ExecutionRequest :=
  ⟨batchTypeHash, namedWallet, 0, packWord issuedRoot, []⟩

def batchHash : Bytes32 := 0x093448cad7e4106f46fcae3e05d6c4b3a9acfcbd4898e0ced308334ce9b935da

def batchSignature : Bytes :=
  encodeBE 32 0xb1e17aefa729599d55b348aa17bb93a1a39d21ab7ff19e968311840ada83a537 ++
    encodeBE 32 0x41911e968e13a02e6aa1d04cfb2fd9a0f70822d0ff461369733410ebe565a045 ++ encodeBE 1 28

def batchEvm : Evm :=
  Evm.ofTables
    [([], 0xc5d2460186f7233c927e7db2dcc703c0e500b653ca82273b7bfad8045d85a470),
      (ascii "BulkSendBatch(address from,uint256 nonce,bytes32 merkleRoot)", batchTypeHash),
      (leafHashInputs issuedInputs false, issuedRoot),
      (ascii "Qm" ++ encodeBE 20 0xa271,
        0xecec4fabaa1929b1d8116ac6e36e09ab5d40ad76d1a1fbd75cf249d2e2722535),
      (requestStruct batchRequest [],
        0x546c859088b97216de13e2773d60f3d618f91bbf3bf68b76dadad7e3e0138ce6),
      (requestEncoding 0x546c859088b97216de13e2773d60f3d618f91bbf3bf68b76dadad7e3e0138ce6,
        batchHash)]
    [((batchHash, 28, 0xb1e17aefa729599d55b348aa17bb93a1a39d21ab7ff19e968311840ada83a537,
        0x41911e968e13a02e6aa1d04cfb2fd9a0f70822d0ff461369733410ebe565a045),
      ⟨upperOwner, upperOwner_account⟩)]

def batchData : Bytes := encodeBE 4 0x837543c7 ++ packWord issuedRoot ++ packWord namedWallet

def batchDeployment : Deployment :=
  systemDeployment batchEvm (fun _ => none)
    (fun data => if data = batchData then some (.prepareBatchFromLicensedUser issuedRoot) else none)

theorem batchDeployment_decodes : DecodesRoots batchDeployment := by
  intro data merkleRoot decoded
  simp only [batchDeployment, systemDeployment] at decoded
  split at decoded
  · rename_i same
    rw [same]
    decide
  · cases decoded

/-- A wallet has a batch of one record prepared, and somebody submits the record. -/
def issuedRun : Config Revert State Query Reply Transaction :=
  ((((Config.start systemOrigin).enter (entry batchDeployment)
    (administratorSends (.manager (.createWalletFromMigration
      ⟨[upperOwner], 1, .HANDLER, ascii "E", ascii "O"⟩ namedWallet (ascii "eth")
        1600000000)))).enter
    (entry batchDeployment)
    (administratorSends (.forwarder (.registerRequestType (ascii "BulkSendBatch")
      (ascii "bytes32 merkleRoot") bulkAddress 0x837543c7)))).enter
    (entry batchDeployment)
    ⟨fun _ _ => 0, 1, ⟨0xe0a, []⟩, .forwarder (.executeTransactionLUW batchRequest
      batchSignature)⟩).enter
    (entry batchDeployment)
    ⟨fun _ _ => 0, 1, ⟨0xe0a, []⟩, .bulk (.createSRRWithProofMulti [[]] issuedRoot [issuedRoot]
      ⟨[true], [0xa271], [ascii "Qm"], [false], none, [0x4a11], [500], [0]⟩)⟩

theorem issuedRun_reach :
    Reach (entry batchDeployment) (Legal batchDeployment) systemOrigin issuedRun :=
  Reach.enter _ (Reach.enter _ (Reach.enter _ (Reach.enter _ Reach.start
    ⟨by decide +kernel, trivial⟩) ⟨by decide +kernel, trivial⟩) ⟨by decide +kernel, trivial⟩)
    ⟨by decide +kernel, trivial⟩

set_option maxRecDepth 8000 in
theorem issuedRun_created :
    (issuedRoot, issuedToken, issuedRoot) ∈ createdRecords issuedRun.now.state.bulk := by
  decide +kernel

set_option maxRecDepth 8000 in
theorem issuedRun_consented :
    issuedRun.now.state.registry._tokenOwner issuedToken = namedWallet ∧
      ∃ _request,
        PreparedBy batchDeployment issuedRun.now.trace systemOrigin issuedRun.now.state issuedRoot
          _request ∧
        (Registry.details issuedRun.now.state.registry issuedToken).srr.issuer =
          _request.from_ := by
  refine ⟨by decide +kernel, ?_⟩
  obtain ⟨_, consented⟩ := records_consented batchDeployment batchDeployment_decodes systemOrigin
    issuedRun (systemOrigin_wired batchEvm _ _) (fun _ => rfl) rfl issuedRun_reach
  exact (consented issuedRoot issuedToken issuedRoot issuedRun_created).2.2

end Samples

end Startrail.Platform
