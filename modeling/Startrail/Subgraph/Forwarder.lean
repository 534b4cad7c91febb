import Startrail.Library.Tables
import Startrail.MetaTx.RequestTypes
import Startrail.Subgraph.Handlers

/-!
The entities that `subgraph/src/mtf-mapping.ts` keeps of the forwarder. A request type has one from
its registration until it is taken back, and an executed request has one for ever.
-/

namespace Startrail

namespace Subgraph

section Handlers

structure MetaTxRequestType where
  typeHash : Bytes32
  typeString : Bytes
  createdAt : Nat
deriving DecidableEq

structure MetaTxExecution where
  txHash : Bytes32
  createdAt : Nat
deriving DecidableEq

/-- The entities of the forwarder, by their ids. -/
structure Relay where
  metaTxRequestType : Bytes32 → Option MetaTxRequestType
  metaTxExecution : Bytes32 → Option MetaTxExecution

def Relay.blank : Relay := ⟨fun _ => none, fun _ => none⟩

variable (relay : Relay)

def handleRequestTypeRegistered (eventTimestampMillis : Nat) (typeHash : Bytes32)
    (typeStr : Bytes) : Relay :=
  { relay with
    metaTxRequestType := Function.update relay.metaTxRequestType typeHash (some
      { typeHash := typeHash
        typeString := typeStr
        createdAt := eventTimestampMillis }) }

-- An unknown type is an error in the subgraph's own log, and nothing else.
def handleRequestTypeUnregistered (typeHash : Bytes32) : Relay :=
  match relay.metaTxRequestType typeHash with
  | none => relay
  | some _ =>
      { relay with
        metaTxRequestType := Function.update relay.metaTxRequestType typeHash none }

def handleExecutionSuccess (eventTimestampMillis : Nat) (txHash : Bytes32) : Relay :=
  { relay with
    metaTxExecution := Function.update relay.metaTxExecution txHash (some
      { txHash := txHash
        createdAt := eventTimestampMillis }) }

def handleForwarderEvent (emitted : Emitted MetaTxForwarder.Event) : Relay :=
  match emitted.event with
  | .RequestTypeRegistered typeHash typeStr =>
      handleRequestTypeRegistered relay emitted.eventUTCMillis typeHash typeStr
  | .RequestTypeUnregistered typeHash => handleRequestTypeUnregistered relay typeHash
  | .ExecutionSuccess txHash => handleExecutionSuccess relay emitted.eventUTCMillis txHash
  | .Initialized _ => relay

/-- The entities after a log with times, whose latest event comes first. -/
def Relay.index : List (Nat × MetaTxForwarder.Event) → Relay
  | [] => .blank
  | (timestamp, event) :: earlier => handleForwarderEvent (Relay.index earlier) ⟨timestamp, event⟩

end Handlers

section Entities

/-- The types of a log that have not been taken back. -/
def standingTypes : List (Nat × MetaTxForwarder.Event) → List MetaTxRequestType
  | [] => []
  | (timestamp, .RequestTypeRegistered typeHash typeStr) :: earlier =>
      ⟨typeHash, typeStr, secondsToMillis timestamp⟩ :: standingTypes earlier
  | (_, .RequestTypeUnregistered typeHash) :: earlier =>
      (standingTypes earlier).filter fun type => type.typeHash ≠ typeHash
  | (_, .ExecutionSuccess _) :: earlier => standingTypes earlier
  | (_, .Initialized _) :: earlier => standingTypes earlier

/-- What is told of a type. -/
def MetaTxRequestType.told (type : MetaTxRequestType) : Bytes32 × Bytes :=
  (type.typeHash, type.typeString)

def execution : Nat × MetaTxForwarder.Event → Option MetaTxExecution
  | (timestamp, .ExecutionSuccess txHash) => some ⟨txHash, secondsToMillis timestamp⟩
  | _ => none

/-- The executions of a log, the latest first. -/
def executions (feed : List (Nat × MetaTxForwarder.Event)) : List MetaTxExecution :=
  feed.filterMap execution

/-- Only a type that is known is taken back. -/
def Informed (feed : List (Nat × MetaTxForwarder.Event)) : Prop :=
  ∀ later timestamp typeHash earlier,
    feed = later ++ (timestamp, .RequestTypeUnregistered typeHash) :: earlier →
      ((Relay.index earlier).metaTxRequestType typeHash).isSome = true

variable {relay : Relay} {feed : List (Nat × MetaTxForwarder.Event)} {timestamp : Nat}
  {typeHash : Bytes32}

theorem unregistered_types : (handleRequestTypeUnregistered relay typeHash).metaTxRequestType =
    Function.update relay.metaTxRequestType typeHash none := by
  unfold handleRequestTypeUnregistered
  cases known : relay.metaTxRequestType typeHash with
  | none =>
      have same := Function.update_eq_self typeHash relay.metaTxRequestType
      rw [known] at same
      exact same.symm
  | some type => rfl

theorem unregistered_executions : (handleRequestTypeUnregistered relay typeHash).metaTxExecution =
    relay.metaTxExecution := by
  unfold handleRequestTypeUnregistered
  cases relay.metaTxRequestType typeHash with
  | none => rfl
  | some type => rfl

theorem index_types (feed : List (Nat × MetaTxForwarder.Event)) :
    (Relay.index feed).metaTxRequestType =
      listing MetaTxRequestType.typeHash id (standingTypes feed) := by
  induction feed with
  | nil => rfl
  | cons logged earlier ih =>
      obtain ⟨timestamp, event⟩ := logged
      cases event with
      | RequestTypeRegistered typeHash typeStr =>
          rw [standingTypes, listing_cons, ← ih]
          rfl
      | RequestTypeUnregistered typeHash =>
          rw [standingTypes, listing_filter, ← ih]
          exact unregistered_types
      | ExecutionSuccess txHash => exact ih
      | Initialized version => exact ih

theorem index_executions (feed : List (Nat × MetaTxForwarder.Event)) :
    (Relay.index feed).metaTxExecution =
      listing MetaTxExecution.txHash id (executions feed) := by
  induction feed with
  | nil => rfl
  | cons logged earlier ih =>
      obtain ⟨timestamp, event⟩ := logged
      cases event with
      | RequestTypeRegistered typeHash typeStr => exact ih
      | RequestTypeUnregistered typeHash => exact unregistered_executions.trans ih
      | ExecutionSuccess txHash =>
          have listed : executions ((timestamp, .ExecutionSuccess txHash) :: earlier) =
            ⟨txHash, secondsToMillis timestamp⟩ :: executions earlier := rfl
          rw [listed, listing_cons, ← ih]
          rfl
      | Initialized version => exact ih

theorem Informed.cons (informed : Informed feed) {event : MetaTxForwarder.Event}
    (known : ∀ typeHash, event = .RequestTypeUnregistered typeHash →
      ((Relay.index feed).metaTxRequestType typeHash).isSome = true) :
    Informed ((timestamp, event) :: feed) := by
  intro later timestamp' typeHash earlier same
  rcases List.cons_eq_append_iff.mp same with ⟨_, here⟩ | ⟨later', _, there⟩
  · obtain ⟨logged, rfl⟩ := List.cons.inj here
    exact known typeHash (congrArg Prod.snd logged).symm
  · exact informed later' timestamp' typeHash earlier there

theorem executions_hashes :
    (executions feed).map MetaTxExecution.txHash =
      MetaTxForwarder.successHashes (feed.map Prod.snd) := by
  induction feed with
  | nil => rfl
  | cons logged earlier ih =>
      obtain ⟨timestamp, event⟩ := logged
      cases event with
      | ExecutionSuccess txHash => exact congrArg (txHash :: ·) ih
      | _ => exact ih

end Entities

end Subgraph

open Subgraph

namespace MetaTxForwarder

section Runs

variable {deployment : Deployment} {world : World} {msg : Msg} {behind : Nat → UInt8}
  {state later : State} {trace trace' : List Transaction} {transaction : Transaction}
  {snapshot : Snapshot State Transaction} {feed : List (Nat × Event)}

def Event.editsRegister : Event → Bool
  | .RequestTypeRegistered _ _ => true
  | .RequestTypeUnregistered _ => true
  | _ => false

/-- The register stays, and the log gets one event that does not speak of it, or none. -/
structure Passes (before after : State) : Prop where
  typeHashes : after.typeHashes = before.typeHashes
  requestTypes : after.requestTypes = before.requestTypes
  logs : after.logs = before.logs ∨ ∃ event : Event, event.editsRegister = false ∧
    after.logs = event :: before.logs

theorem executeTransactionInternal_passes {_request : ExecutionRequest} {_signatures : Bytes}
    {isEOASignature : Bool} :
    (executeTransactionInternal deployment world behind state _request _signatures
      isEOASignature).Segments Passes Passes state := by
  apply executeTransactionInternal_segments
  · exact ⟨rfl, rfl, Or.inl rfl⟩
  · exact fun _ => ⟨rfl, rfl, Or.inl rfl⟩
  · exact fun _ _ => ⟨rfl, rfl, Or.inr ⟨_, rfl, rfl⟩⟩

/-- The hash and the string of a type. -/
def described (evm : Evm) (type : TypeName) : Bytes32 × Bytes :=
  (typeHash evm type, typeString type.1 type.2)

/-- However it is timed, the log tells of the types that are in force. -/
structure Told (evm : Evm) (snapshot : Snapshot State Transaction) : Prop where
  kept : Kept evm snapshot
  types : ∀ feed : List (Nat × Event), feed.map Prod.snd = snapshot.state.logs →
    (standingTypes feed).map MetaTxRequestType.told =
      (inForce evm snapshot.trace).map (described evm)
  informed : ∀ feed : List (Nat × Event), feed.map Prod.snd = snapshot.state.logs → Informed feed

theorem Told.hashes {evm : Evm} (told : Told evm snapshot)
    (fed : feed.map Prod.snd = snapshot.state.logs) :
    (standingTypes feed).map MetaTxRequestType.typeHash =
      (inForce evm snapshot.trace).map (typeHash evm) := by
  have same := congrArg (List.map Prod.fst) (told.types feed fed)
  rw [List.map_map, List.map_map] at same
  exact same

theorem Told.known {evm : Evm} (told : Told evm snapshot)
    (fed : feed.map Prod.snd = snapshot.state.logs) (hash : Bytes32) :
    ((Relay.index feed).metaTxRequestType hash).isSome = snapshot.state.typeHashes hash := by
  rw [Bool.eq_iff_iff, index_types, listing_isSome, told.hashes fed]
  exact (told.kept.known hash).symm

theorem Told.log {evm : Evm} (told : Told evm ⟨state, trace⟩) (kept : Kept evm ⟨later, trace'⟩)
    {event : Event} (logged : later.logs = event :: state.logs)
    (types : ∀ timestamp earlier,
      (standingTypes earlier).map MetaTxRequestType.told = (inForce evm trace).map (described evm) →
        (standingTypes ((timestamp, event) :: earlier)).map MetaTxRequestType.told =
          (inForce evm trace').map (described evm))
    (known : ∀ hash, event = .RequestTypeUnregistered hash → state.typeHashes hash = true) :
    Told evm ⟨later, trace'⟩ := by
  have split : ∀ feed : List (Nat × Event), feed.map Prod.snd = later.logs →
      ∃ timestamp earlier, feed = (timestamp, event) :: earlier ∧
        earlier.map Prod.snd = state.logs := by
    intro feed fed
    rw [logged] at fed
    obtain ⟨⟨timestamp, _⟩, earlier, rfl, rfl, before⟩ := List.map_eq_cons_iff.mp fed
    exact ⟨timestamp, earlier, rfl, before⟩
  refine ⟨kept, ?_, ?_⟩
  · intro feed fed
    obtain ⟨timestamp, earlier, rfl, before⟩ := split feed fed
    exact types timestamp earlier (told.types earlier before)
  · intro feed fed
    obtain ⟨timestamp, earlier, rfl, before⟩ := split feed fed
    refine (told.informed earlier before).cons fun hash unregistered => ?_
    rw [told.known before]
    exact known hash unregistered

theorem standingTypes_silent {event : Event} (silent : event.editsRegister = false)
    (timestamp : Nat) : standingTypes ((timestamp, event) :: feed) = standingTypes feed := by
  cases event <;> first | rfl | cases silent

theorem Told.quiet (told : Told deployment.evm ⟨state, trace⟩) (passes : Passes state later) :
    Told deployment.evm ⟨later, trace⟩ := by
  have kept := (@kept_rule deployment).quiet told.kept passes.typeHashes passes.requestTypes
  rcases passes.logs with same | ⟨event, silent, logged⟩
  · refine ⟨kept, ?_, ?_⟩
    · exact fun feed fed => told.types feed (fed.trans same)
    · exact fun feed fed => told.informed feed (fed.trans same)
  · refine told.log kept logged ?_ ?_
    · intro timestamp earlier before
      rw [standingTypes_silent silent]
      exact before
    · rintro hash rfl
      cases silent

theorem Told.passed (told : Told deployment.evm ⟨state, trace⟩)
    (passed : transaction.call.editsRegister = false) :
    Told deployment.evm ⟨state, transaction :: trace⟩ := by
  refine ⟨(@kept_rule deployment).passed told.kept passed, ?_, told.informed⟩
  intro feed fed
  have same := (@inForce_passed deployment.evm trace transaction passed).2
  exact (told.types feed fed).trans (congrArg (List.map (described deployment.evm)) same.symm)

theorem Told.register {_typeName _typeSuffix : Bytes} {_destinationContract : Address}
    {_functionSignature : Bytes4} (told : Told deployment.evm ⟨state, trace⟩)
    (accepted : registerRequestType deployment world msg state _typeName _typeSuffix
      _destinationContract _functionSignature = .ok later) :
    Told deployment.evm ⟨later, ⟨world, msg, behind, .registerRequestType _typeName _typeSuffix
      _destinationContract _functionSignature⟩ :: trace⟩ := by
  have logged : later.logs =
      .RequestTypeRegistered (typeHash deployment.evm (_typeName, _typeSuffix))
        (typeString _typeName _typeSuffix) :: state.logs := by
    obtain ⟨_, _, rfl⟩ := registerRequestType_written rfl accepted
    rfl
  refine told.log (told.kept.register accepted) logged ?_ ?_
  · intro timestamp earlier before
    exact congrArg (described deployment.evm (_typeName, _typeSuffix) :: ·) before
  · intro hash unregistered
    cases unregistered

theorem Told.unregister {_typeHash : Bytes32} (told : Told deployment.evm ⟨state, trace⟩)
    (accepted : unregisterRequestType world msg state _typeHash = .ok later) :
    Told deployment.evm
      ⟨later, ⟨world, msg, behind, .unregisterRequestType _typeHash⟩ :: trace⟩ := by
  have logged : state.typeHashes _typeHash = true ∧
      later.logs = .RequestTypeUnregistered _typeHash :: state.logs := by
    obtain ⟨registered, rfl⟩ := unregisterRequestType_written accepted
    exact ⟨registered, rfl⟩
  refine told.log (told.kept.unregister accepted) logged.2 ?_ ?_
  · intro timestamp earlier before
    have left := congrArg (List.filter fun type => decide (type.1 ≠ _typeHash)) before
    rw [List.filter_map, List.filter_map] at left
    exact left
  · intro hash unregistered
    cases unregistered
    exact logged.1

theorem entry_told (transaction : Transaction) (told : Told deployment.evm ⟨state, trace⟩) :
    (entry deployment transaction state).Meets (Told deployment.evm) (fun _ _ => True)
      (fun state' trace' => Told deployment.evm ⟨state', trace'⟩) (transaction :: trace) := by
  obtain ⟨world, msg, behind, call⟩ := transaction
  cases call with
  | initializeV1 _nameRegistry =>
      apply Outcome.Meets.lift
      intro state' accepted
      obtain ⟨_, rfl⟩ := initializeV1_written accepted
      exact (told.passed rfl).quiet ⟨rfl, rfl, Or.inr ⟨_, rfl, rfl⟩⟩
  | setCollectionRegistry _registry =>
      apply Outcome.Meets.lift
      intro state' accepted
      obtain rfl := setCollectionRegistry_written accepted
      exact (told.passed rfl).quiet ⟨rfl, rfl, Or.inl rfl⟩
  | registerRequestType _typeName _typeSuffix _destinationContract _functionSignature =>
      apply Outcome.Meets.lift
      intro state' accepted
      exact told.register accepted
  | unregisterRequestType _typeHash =>
      apply Outcome.Meets.lift
      intro state' accepted
      exact told.unregister accepted
  | executeTransactionLUW _request _signatures =>
      apply Outcome.Meets.lift_bind
      intro _ _
      exact executeTransactionInternal_passes.meets (told.passed rfl) Told.quiet
  | executeTransactionEOA _request _signature =>
      apply Outcome.Meets.lift_bind
      intro _ _
      exact executeTransactionInternal_passes.meets (told.passed rfl) Told.quiet

theorem deployed_told (deployed : Deployed deployment state) :
    Told deployment.evm ⟨state, []⟩ := by
  have blank : Told deployment.evm ⟨State.blank, []⟩ := by
    refine ⟨⟨?_, List.nodup_nil, ?_⟩, ?_, ?_⟩
    · intro type listed
      cases listed
    · intro hash
      simp [State.blank, inForce]
    · intro feed fed
      rw [List.map_eq_nil_iff.mp fed]
      rfl
    · intro feed fed later timestamp hash earlier same
      rw [List.map_eq_nil_iff.mp fed] at same
      exact absurd same.symm (List.append_ne_nil_of_right_ne_nil _ (List.cons_ne_nil _ _))
  obtain ⟨_nameRegistry, made⟩ := deployed
  obtain ⟨_, rfl⟩ := initializeV1_written made
  exact blank.quiet ⟨rfl, rfl, Or.inr ⟨_, rfl, rfl⟩⟩

/-- The entities of the types are those of the log that stand, which are the types in force; an
executed request has one, for an accepted request of its own. -/
structure Relayed (evm : Evm) (snapshot : Snapshot State Transaction)
    (feed : List (Nat × Event)) : Prop where
  known : ∀ hash, ((Relay.index feed).metaTxRequestType hash).isSome =
    snapshot.state.typeHashes hash
  standing : OneEach (Relay.index feed).metaTxRequestType (fun _ => True) Eq (standingTypes feed)
  types : (standingTypes feed).map MetaTxRequestType.told =
    (inForce evm snapshot.trace).map (described evm)
  informed : Informed feed
  accepted : ((executions feed).map MetaTxExecution.txHash).Subperm
    ((requests snapshot.trace).map (txHashOf evm snapshot.state.domainSeparator))
  executed : evm.CollisionFree ((requests snapshot.trace).flatMap
      (hashedStrings evm snapshot.state)) →
    OneEach (Relay.index feed).metaTxExecution (fun _ => True) Eq (executions feed)

theorem Safe.accepted_distinct {evm : Evm} {domainSeparator : Bytes32}
    (safe : Safe evm domainSeparator snapshot)
    (free : evm.CollisionFree ((requests snapshot.trace).flatMap
      (hashedStrings evm snapshot.state))) :
    ((requests snapshot.trace).map (txHashOf evm snapshot.state.domainSeparator)).Nodup := by
  refine txHashes_distinct (requests_distinct ?_) free
  intro wallet channel
  have counted := safe.counted.nonces wallet channel
  exact (List.reverse_perm _).nodup_iff.mp (counted ▸ List.nodup_range)

theorem entities_relayed (deployment : Deployment) (origin : State)
    (deployed : Deployed deployment origin)
    (config : Config Revert State Query Answer Transaction)
    (reach : Reach (entry deployment) (fun _ _ => True) origin config)
    (feed : List (Nat × Event)) (fed : feed.map Prod.snd = config.now.state.logs) :
    Relayed deployment.evm config.now feed := by
  have safe := reach_safe deployed reach
  have told : Told deployment.evm config.now := by
    refine (reach.sound (Told deployment.evm) (fun _ _ => True) (fun _ => trivial)
      (fun _ _ => trivial) ?_ (deployed_told deployed)).1
    intro transaction snapshot _ told
    simpa [Completes] using entry_told transaction told
  have accepted : ((executions feed).map MetaTxExecution.txHash).Subperm
      ((requests config.now.trace).map
        (txHashOf deployment.evm config.now.state.domainSeparator)) := by
    rw [executions_hashes, fed, safe.logged.domain]
    exact safe.logged.hashes
  refine ⟨told.known fed, ?_, told.types feed fed, told.informed feed fed, accepted, ?_⟩
  · rw [index_types]
    refine (oneEach_listing fun _ _ => rfl).mpr ?_
    rw [told.hashes fed]
    exact told.kept.once
  · intro free
    rw [index_executions]
    refine (oneEach_listing fun _ _ => rfl).mpr ?_
    obtain ⟨listed, permuted, among⟩ := accepted
    exact permuted.nodup_iff.mp ((safe.accepted_distinct free).sublist among)

-- After a wallet is renamed, one of the two types is taken back.
def retiredConfig : Config Revert State Query Answer Transaction :=
  renamedConfig.enter (entry requestDeployment)
    (administratorCall (.unregisterRequestType (typeHash requestEvm
      (ascii "StartrailRegistryCancelSRRCommitment", ascii "uint256 tokenId"))))

theorem retiredConfig_reach :
    Reach (entry requestDeployment) (fun _ _ => True) deployedState retiredConfig :=
  .enter _ (.reply _ (.enter _ registeredConfig_reach trivial)) trivial

def retiredFeed : List (Nat × Event) :=
  retiredConfig.now.state.logs.map fun event => (1700000000, event)

set_option maxRecDepth 8000 in
theorem retiredConfig_relayed :
    (standingTypes retiredFeed).length = 1 ∧ (executions retiredFeed).length = 1 ∧
      OneEach (Relay.index retiredFeed).metaTxRequestType (fun _ => True) Eq
        (standingTypes retiredFeed) ∧
      OneEach (Relay.index retiredFeed).metaTxExecution (fun _ => True) Eq
        (executions retiredFeed) := by
  have fed : retiredFeed.map Prod.snd = retiredConfig.now.state.logs := by
    unfold retiredFeed
    rw [List.map_map]
    exact List.map_id _
  have relayed := entities_relayed requestDeployment deployedState deployedState_deployed
    retiredConfig retiredConfig_reach retiredFeed fed
  exact ⟨by decide, by decide, relayed.standing, relayed.executed (by decide)⟩

end Runs

end MetaTxForwarder

end Startrail
