import Startrail.Library.Catalogues
import Startrail.CustomHistories
import Startrail.Duplicates

/-!
The custom histories of the registry and their types, which administrators enter under the next
number of a counter. An entry exists if its name is not empty. The functions that use or update an
entry look at that, and the functions that write one do not ask for a name.
-/

namespace Startrail.Registry

section Views

def Event.historyId : Event → Option Uint256
  | .CreateCustomHistory id _ _ _ => some id
  | _ => none

def Event.historyTypeId : Event → Option Uint256
  | .CreateCustomHistoryType id _ => some id
  | _ => none

/-- The ids of the custom histories that were announced, the latest first. -/
def announced (state : State) : List Uint256 := state.logs.filterMap Event.historyId

def announcedTypes (state : State) : List Uint256 := state.logs.filterMap Event.historyTypeId

@[ext]
structure Shelf where
  histories : List Uint256
  names : Uint256 → Bytes
  count : Uint256
  types : Catalogue Uint256 Bytes
  typeCount : Uint256

def shelf (state : State) : Shelf where
  histories := announced state
  names := getCustomHistoryNameById state
  count := state.customHistoryCount
  types := ⟨announcedTypes state, state.customHistoryTypeNameById,
    state.customHistoryTypeIdByName⟩
  typeCount := state.customHistoryTypeCount

/-- The call writes an entry and gives no name for it. -/
def Call.Nameless : Call → Prop
  | .writeCustomHistory name _ _ => name = []
  | .addCustomHistoryType historyTypeName => historyTypeName = []
  | _ => False

/-- What an accepted call makes of the catalogues. -/
inductive Shelf.Step (before : Shelf) : Call → Shelf → Prop
  | kept {call} (names : ¬call.Nameless) : Step before call before
  | writeCustomHistory {name customHistoryTypeId metadata}
      (room : before.count.toNat + 1 < 2 ^ 256) :
      Step before (.writeCustomHistory name customHistoryTypeId metadata) { before with
        histories := (before.count + 1) :: before.histories
        names := Function.update before.names (before.count + 1) name
        count := before.count + 1 }
  | updateCustomHistory {customHistoryId name metadata} (required : name ≠ []) :
      Step before (.updateCustomHistory customHistoryId name metadata) { before with
        names := Function.update before.names customHistoryId name }
  | addCustomHistoryType {historyTypeName} (unknown : before.types.idOf historyTypeName = 0)
      (room : before.typeCount.toNat + 1 < 2 ^ 256) :
      Step before (.addCustomHistoryType historyTypeName) { before with
        types := before.types.enter (before.typeCount + 1) historyTypeName
        typeCount := before.typeCount + 1 }

end Views

variable {deployment : Deployment} {world : World} {msg : Msg} {call : Call}
  {state state' : State} {tokenId : Uint256}

section Effects

theorem shelf_emit {event : Event} (history : event.historyId = none)
    (type : event.historyTypeId = none) : shelf (state.emit event) = shelf state := by
  have names : getCustomHistoryNameById (state.emit event) = getCustomHistoryNameById state := rfl
  unfold shelf
  rw [names]
  simp [State.emit, announced, announcedTypes, history, type]

theorem shelf_strings {strings : Storage Bytes}
    (same : ∀ id, strings id ._CUSTOM_HISTORY ._CUSTOM_HISTORY_NAME =
      state._stringStorage id ._CUSTOM_HISTORY ._CUSTOM_HISTORY_NAME) :
    shelf { state with _stringStorage := strings } = shelf state := by
  have names : getCustomHistoryNameById { state with _stringStorage := strings } =
      getCustomHistoryNameById state := funext same
  simp [shelf, names, announced, announcedTypes]

theorem shelf_stored {id : Uint256} {group key : StorageKey} {value : Bytes}
    (apart : group ≠ ._CUSTOM_HISTORY) :
    shelf { state with _stringStorage := state._stringStorage.set id group key value } =
      shelf state := by
  refine shelf_strings fun other => ?_
  rw [Storage.set_apply, if_neg]
  rintro ⟨_, same, _⟩
  exact apart same.symm

theorem shelf_overlooks : Overlooks shelf where
  transfer moved := by
    obtain ⟨_, _, _, _, _, rfl⟩ := transfer_accepted moved
    rfl
  mint minted := by
    obtain ⟨_, _, _, rfl⟩ := mint_accepted minted
    rfl
  saveRoyalties saved := by
    obtain ⟨_, _, _, rfl⟩ := saveRoyalties_accepted saved
    rfl
  royaltiesSet _ _ _ := shelf_emit rfl rfl
  recorded minted tokenId _ _ _ metadataCID _ := (shelf_emit rfl rfl).trans
    (@shelf_stored minted tokenId ._SRR ._METADATA_HASH metadataCID (by decide))
  cancelled state tokenId := by
    unfold cancelPriorApproval
    split
    · exact shelf_emit rfl rfl
    · rfl
  stored state tokenId _ historyMetadataHash :=
    @shelf_stored state tokenId ._HISTORY ._METADATA_HASH historyMetadataHash (by decide)
  storedHistory _ _ _ := rfl
  committed _ _ _ _ _ := shelf_emit rfl rfl

theorem clearSRRCommitment_shelf (state : State) (tokenId : Uint256) :
    shelf (_clearSRRCommitment state tokenId) = shelf state :=
  @shelf_stored state tokenId ._HISTORY ._METADATA_HASH [] (by decide)

theorem provenance_shelf {from_ to_ : Address} {historyMetadataHash : Bytes}
    {customHistoryId : Uint256} {isIntermediary : Bool} :
    shelf (_historyProvenance state tokenId from_ to_ historyMetadataHash customHistoryId
      isIntermediary) = shelf state := shelf_emit rfl rfl

theorem updateCustomHistory_step {customHistoryId : Uint256} {name : Bytes} {metadata : Metadata}
    {renamed : Prop} [Decidable renamed] (required : name ≠ []) :
    (shelf state).Step (.updateCustomHistory customHistoryId name metadata)
      (shelf ((if renamed then
          { state with
            _stringStorage := state._stringStorage.set customHistoryId ._CUSTOM_HISTORY
              ._CUSTOM_HISTORY_NAME name }
        else state).emit (.UpdateCustomHistory customHistoryId name metadata))) := by
  rw [shelf_emit rfl rfl]
  split
  · have names : getCustomHistoryNameById { state with
        _stringStorage := state._stringStorage.set customHistoryId ._CUSTOM_HISTORY
          ._CUSTOM_HISTORY_NAME name } =
        Function.update (getCustomHistoryNameById state) customHistoryId name := by
      funext other
      simp [getCustomHistoryNameById, Storage.set_apply, Function.update_apply]
    have step := @Shelf.Step.updateCustomHistory (shelf state) customHistoryId name metadata
      required
    unfold shelf at step ⊢
    rw [names]
    exact step
  · exact .kept id

theorem writeCustomHistory_step {name : Bytes} {customHistoryTypeId : Uint256}
    {metadata : Metadata} (room : state.customHistoryCount.toNat + 1 < 2 ^ 256) :
    (shelf state).Step (.writeCustomHistory name customHistoryTypeId metadata)
      (shelf ({ state with
        customHistoryCount := state.customHistoryCount + 1
        _stringStorage := state._stringStorage.set (state.customHistoryCount + 1) ._CUSTOM_HISTORY
          ._CUSTOM_HISTORY_NAME name }.emit
            (.CreateCustomHistory (state.customHistoryCount + 1) name customHistoryTypeId
              metadata))) := by
  have names : getCustomHistoryNameById ({ state with
        customHistoryCount := state.customHistoryCount + 1
        _stringStorage := state._stringStorage.set (state.customHistoryCount + 1) ._CUSTOM_HISTORY
          ._CUSTOM_HISTORY_NAME name }.emit
            (.CreateCustomHistory (state.customHistoryCount + 1) name customHistoryTypeId
              metadata)) =
      Function.update (getCustomHistoryNameById state) (state.customHistoryCount + 1) name := by
    funext other
    simp [getCustomHistoryNameById, State.emit, Storage.set_apply, Function.update_apply]
  have step := @Shelf.Step.writeCustomHistory (shelf state) name customHistoryTypeId metadata room
  unfold shelf at step ⊢
  rw [names]
  exact step

theorem addCustomHistoryType_shelf (state : State) (historyTypeName : Bytes) :
    shelf ({ state with
        customHistoryTypeCount := state.customHistoryTypeCount + 1
        customHistoryTypeNameById := Function.update state.customHistoryTypeNameById
          (state.customHistoryTypeCount + 1) historyTypeName
        customHistoryTypeIdByName := Function.update state.customHistoryTypeIdByName
          historyTypeName (state.customHistoryTypeCount + 1) }.emit
            (.CreateCustomHistoryType (state.customHistoryTypeCount + 1) historyTypeName)) =
      { shelf state with
        types := (shelf state).types.enter (state.customHistoryTypeCount + 1) historyTypeName
        typeCount := state.customHistoryTypeCount + 1 } := rfl

theorem Administered.shelf_step
    (administered : Administered deployment world msg state call state') :
    (shelf state).Step call (shelf state') := by
  -- What leaves the catalogues alone gives no empty name.
  have kept : ¬call.Nameless → shelf state' = shelf state →
      (shelf state).Step call (shelf state') :=
    fun names same => same ▸ .kept names
  cases administered with
  | setTrustedForwarder _ _ => exact kept id rfl
  | setMaxCombinedHistoryRecords _ => exact kept id rfl
  | updateSRR _ _ => exact kept id rfl
  | updateSRRMetadata _ _ =>
      refine kept id ((shelf_emit rfl rfl).trans (shelf_stored ?_))
      decide
  | updateSRRRoyalty _ _ replaced => exact kept id (shelf_overlooks.replaceRoyalty replaced)
  | updateSRRRoyaltyReceiverMulti _ updated =>
      exact kept id (shelf_overlooks.updateRoyaltyReceivers updated)
  | setNameRegistryAddress _ _ => exact kept id rfl
  | setTokenURIParts _ =>
      refine kept id (shelf_strings fun id => ?_)
      simp [Storage.set_apply]
  | addCustomHistoryType _ unknown room =>
      rw [addCustomHistoryType_shelf]
      exact .addCustomHistoryType unknown room
  | setApprovalForAll _ => exact kept id rfl
  | setContractURI _ =>
      refine kept id (shelf_stored ?_)
      decide
  | transferOwnership _ _ => exact kept id rfl
  | setOpenSeaApproveAllKillSwitch _ => exact kept id rfl
  | setOpenSeaMetaTxIntegration _ => exact kept id rfl
  | view => exact kept id rfl

theorem execute_shelf {selfCall : Msg → Call → State → Execution State}
    (ran : (execute deployment world selfCall msg call state).front = some state')
    (direct : ∀ userAddress callData sigR sigS sigV,
      call ≠ .executeMetaTransaction userAddress callData sigR sigS sigV) :
    (shelf state).Step call (shelf state') := by
  have kept : ¬call.Nameless → shelf state' = shelf state →
      (shelf state).Step call (shelf state') :=
    fun names same => same ▸ .kept names
  cases execute_accepted ran direct with
  | aside aside _ => exact (execute_administered ran aside).shelf_step
  | createSRRFromLicensedUser _ creates => exact kept id (shelf_overlooks.createSRRFor creates)
  | createSRRFromBulk _ creates => exact kept id (shelf_overlooks.createSRRFor creates)
  | approveSRRByCommitmentFromBulk _ _ approved =>
      exact kept id (shelf_overlooks.approveSRRByCommitment approved)
  | approveSRRByCommitment _ approved =>
      exact kept id (shelf_overlooks.approveSRRByCommitment approved)
  | approveSRRByCommitmentWithHistory _ _ approved =>
      exact kept id (shelf_overlooks.approveSRRByCommitment approved)
  | cancelSRRCommitment _ =>
      exact kept id ((shelf_emit rfl rfl).trans (clearSRRCommitment_shelf state _))
  | transferSRRByReveal revealed =>
      obtain ⟨_, _, moved⟩ := transferSRRByReveal_accepted revealed
      exact kept id ((shelf_overlooks.transfer moved).trans
        ((clearSRRCommitment_shelf _ _).trans provenance_shelf))
  | addHistory _ _ _ _ => exact kept id (shelf_emit rfl rfl)
  | writeCustomHistory _ _ room => exact writeCustomHistory_step room
  | updateCustomHistory _ _ required =>
      exact updateCustomHistory_step (List.ne_nil_of_length_pos (Nat.pos_of_ne_zero required))
  | transferFrom _ _ moved => exact kept id (shelf_overlooks.transfer moved)
  | safeTransferFrom _ _ moved => exact kept id (shelf_overlooks.transfer moved)
  | transferFromWithProvenance _ _ moved =>
      exact kept id ((shelf_overlooks.transfer moved).trans provenance_shelf)
  | transferFromWithProvenanceFromBulk _ _ _ moved =>
      exact kept id ((shelf_overlooks.transfer moved).trans provenance_shelf)
  | approve _ _ _ _ => exact kept id (shelf_emit rfl rfl)
  | setLockExternalTransfer _ _ => exact kept id (shelf_emit rfl rfl)

theorem Runs.shelf {middle : State} {msg' : Msg} {call' : Call}
    (runs : Runs deployment state msg call middle msg' call') : shelf middle = shelf state := by
  induction runs with
  | direct state msg call => rfl
  | wrapped accepted _ _ ih =>
      rw [ih]
      simp only [acceptMetaTransaction, bind_eq_ok, pure_eq_ok] at accepted
      obtain ⟨_, _, _, _, _, _, rfl⟩ := accepted
      exact shelf_emit rfl rfl

/-- No accepted call, also inside a meta transaction, writes an entry without a name. -/
def GivesNames (deployment : Deployment) (transaction : Transaction) (state : State) : Prop :=
  (entry deployment transaction state).front.isSome →
    ¬ComesTo deployment transaction state Call.Nameless

theorem entry_shelf {transaction : Transaction}
    (ran : (entry deployment transaction state).front = some state') :
    ∃ call', (call'.Nameless → ¬GivesNames deployment transaction state) ∧
      (shelf state).Step call' (shelf state') := by
  obtain ⟨middle, msg', call', selfCall, runs, direct, executed⟩ := perform_executes ran
  have step := execute_shelf executed direct
  rw [runs.shelf] at step
  refine ⟨call', fun nameless given => ?_, step⟩
  exact given (Option.isSome_of_eq_some ran) ⟨middle, msg', call', runs, nameless⟩

theorem nameless_shelf {transaction : Transaction}
    (ran : (entry deployment transaction state).front = some state')
    (comes : ComesTo deployment transaction state Call.Nameless) :
    ∃ call', call'.Nameless ∧ (shelf state).Step call' (shelf state') := by
  obtain ⟨middle, msg', call', runs, nameless⟩ := comes
  obtain ⟨_, performed⟩ := runs.performed ran
  obtain ⟨_, executed⟩ := perform_execute performed
  have step := execute_shelf executed (by
    rintro userAddress callData sigR sigS sigV rfl
    exact nameless)
  rw [runs.shelf] at step
  exact ⟨call', nameless, step⟩

end Effects

section Catalogues

variable {before after : Shelf}

/-- Each id was given out once, and the two maps of the types belong together. -/
structure Shelf.Orderly (shelf : Shelf) : Prop where
  histories : Counted BitVec.toNat shelf.histories shelf.count.toNat
  types : Counted BitVec.toNat shelf.types.ids shelf.typeCount.toNat
  mutual_ : shelf.types.Mutual

structure Shelf.Named (shelf : Shelf) : Prop where
  histories : ∀ id ∈ shelf.histories, shelf.names id ≠ []
  types : ∀ id ∈ shelf.types.ids, shelf.types.nameOf id ≠ []

theorem toNat_next {count : Uint256} (room : count.toNat + 1 < 2 ^ 256) :
    (count + 1).toNat = count.toNat + 1 := by
  rw [BitVec.toNat_add]
  exact Nat.mod_eq_of_lt room

theorem Shelf.Orderly.unused (orderly : before.Orderly) {name : Bytes}
    (unknown : before.types.idOf name = 0) : before.types.idOf name ∉ before.types.ids := by
  intro known
  have positive := (orderly.types.bounded _ known).1
  rw [unknown] at positive
  exact absurd positive (by decide)

theorem Shelf.Step.orderly (step : before.Step call after) (orderly : before.Orderly) :
    after.Orderly := by
  cases step with
  | kept _ => exact orderly
  | writeCustomHistory room =>
      have next := toNat_next room
      refine ⟨?_, orderly.types, orderly.mutual_⟩
      rw [next]
      exact orderly.histories.next next
  | updateCustomHistory _ => exact ⟨orderly.histories, orderly.types, orderly.mutual_⟩
  | addCustomHistoryType unknown room =>
      have next := toNat_next room
      refine ⟨orderly.histories, ?_, ?_⟩
      · rw [next]
        exact orderly.types.next next
      · exact orderly.mutual_.enter (orderly.types.fresh next) (orderly.unused unknown)

theorem updated_named {names : Uint256 → Bytes} {ids : List Uint256} {id : Uint256} {name : Bytes}
    (named : ∀ other ∈ ids, names other ≠ []) (given : name ≠ []) :
    ∀ other ∈ ids, Function.update names id name other ≠ [] := by
  intro other known
  by_cases same : other = id
  · rw [same, Function.update_self]
    exact given
  · rw [Function.update_of_ne same]
    exact named other known

theorem entered_named {names : Uint256 → Bytes} {ids : List Uint256} {id : Uint256} {name : Bytes}
    (named : ∀ other ∈ ids, names other ≠ []) :
    (∀ other ∈ id :: ids, Function.update names id name other ≠ []) ↔ name ≠ [] := by
  constructor
  · intro later
    have latest := later id List.mem_cons_self
    rwa [Function.update_self] at latest
  · intro given other known
    rcases List.mem_cons.mp known with rfl | earlier
    · rw [Function.update_self]
      exact given
    · exact updated_named named given other earlier

/-- An entry is as good as its first name; a name that is replaced is replaced by a name. -/
theorem Shelf.Step.named_iff (step : before.Step call after) (named : before.Named) :
    after.Named ↔ ¬call.Nameless := by
  cases step with
  | kept names => exact ⟨fun _ => names, fun _ => named⟩
  | @writeCustomHistory name _ _ room =>
      have entered := @entered_named _ _ (before.count + 1) name named.histories
      exact ⟨fun later => entered.mp later.histories, fun given => ⟨entered.mpr given, named.types⟩⟩
  | updateCustomHistory required =>
      exact ⟨fun _ => id, fun _ => ⟨updated_named named.histories required, named.types⟩⟩
  | @addCustomHistoryType historyTypeName unknown room =>
      have entered := @entered_named _ _ (before.typeCount + 1) historyTypeName named.types
      exact ⟨fun later => entered.mp later.types, fun given => ⟨named.histories, entered.mpr given⟩⟩

theorem entry_named {transaction : Transaction}
    (ran : (entry deployment transaction state).front = some state')
    (named : (shelf state).Named) :
    (shelf state').Named ↔ GivesNames deployment transaction state := by
  constructor
  · intro later _ comes
    obtain ⟨call', nameless, step⟩ := nameless_shelf ran comes
    exact (step.named_iff named).mp later nameless
  · intro given
    obtain ⟨call', nameless, step⟩ := entry_shelf ran
    exact (step.named_iff named).mpr fun empty => nameless empty given

end Catalogues

section Refusals

variable {A B : Type} {reason : Revert}

/-- Whatever the code fails for, it is something else. -/
def Avoids (reason : Revert) (code : Result A) : Prop := code ≠ .error reason

theorem Avoids.bind {first : Result A} {next : A → Result B} (avoids : Avoids reason first)
    (rest : ∀ value, first = .ok value → Avoids reason (next value)) :
    Avoids reason (first >>= next) := by
  intro erred
  rcases bind_eq_error.mp erred with failed | ⟨value, passed, failed⟩
  · exact avoids failed
  · exact rest value passed failed

theorem Avoids.require {condition : Prop} [Decidable condition] {text : String}
    (other : reason ≠ .reason text) : Avoids reason (require condition text) :=
  fun erred => other (require_eq_error.mp erred).2

theorem Avoids.passed {condition : Prop} [Decidable condition] {text : String}
    (holds : condition) : Avoids reason (Startrail.require condition text) :=
  fun erred => (require_eq_error.mp erred).1 holds

theorem Avoids.panic {condition : Prop} [Decidable condition] {text : String} {code : Nat} :
    Avoids (.reason text) (requirePanic condition code) :=
  fun erred => nomatch (requirePanic_eq_error.mp erred).2

theorem Avoids.pure (value : A) : Avoids reason (pure value) := nofun

theorem Avoids.forEach {check : Uint256 → Result Unit} {values : List Uint256} {i : Nat}
    {text : String} (avoids : ∀ value ∈ values, Avoids (.reason text) (check value)) :
    Avoids (.reason text) (forEach check values i) := by
  induction values generalizing i with
  | nil => exact .pure ()
  | cons value values ih =>
      refine Avoids.bind (avoids value List.mem_cons_self) fun _ _ => .bind .panic fun _ _ => ?_
      exact ih fun other member => avoids other (List.mem_cons_of_mem _ member)

def missingHistory : Revert := .reason "The custom history id does not exist"

def missingType : Revert := .reason "The custom history type id does not exist"

theorem ownerOf_avoids : Avoids missingHistory (ownerOf state tokenId) :=
  .bind (.require (by decide)) fun _ _ => .pure _

variable {id : Uint256}

theorem customHistoryIdExists_avoids (named : getCustomHistoryNameById state id ≠ []) :
    Avoids missingHistory (customHistoryIdExists state id) :=
  .passed fun empty => named (List.eq_nil_of_length_eq_zero empty)

theorem approveSRRByCommitment_avoids {commitment : Bytes32} {historyMetadataHash : Bytes}
    (named : getCustomHistoryNameById state id ≠ []) :
    Avoids missingHistory (approveSRRByCommitmentWithHistory world msg state tokenId commitment
      historyMetadataHash id) := by
  refine Avoids.bind (.bind ownerOf_avoids fun _ _ => .require (by decide)) fun _ _ => ?_
  refine Avoids.bind (customHistoryIdExists_avoids named) fun _ _ => ?_
  refine Avoids.bind ownerOf_avoids fun _ _ => ?_
  split
  · exact .pure _
  · exact .pure _

theorem updateCustomHistory_avoids {name : Bytes} {metadata : Metadata}
    (named : getCustomHistoryNameById state id ≠ []) :
    Avoids missingHistory (updateCustomHistory deployment world msg state id name metadata) := by
  refine Avoids.bind (.require (by decide)) fun _ _ => ?_
  refine Avoids.bind (customHistoryIdExists_avoids named) fun _ _ => ?_
  exact Avoids.bind (.require (by decide)) fun _ _ => .pure _

theorem addHistory_avoids {tokenIds customHistoryIds : List Uint256}
    (named : ∀ id ∈ customHistoryIds, getCustomHistoryNameById state id ≠ []) :
    Avoids missingHistory (addHistory world msg state tokenIds customHistoryIds) := by
  have licensed : Avoids missingHistory (onlyLicensedUserOrAdministrator world msg state) := by
    unfold onlyLicensedUserOrAdministrator
    split
    · exact .pure _
    · exact .require (by decide)
  have involved : ∀ tokenId, Avoids missingHistory
      (onlyIssuerOrArtistOrAdministrator world msg state tokenId) := by
    intro tokenId
    unfold onlyIssuerOrArtistOrAdministrator
    split
    · exact .pure _
    · split
      · exact .pure _
      · exact .require (by decide)
  refine Avoids.bind licensed fun _ _ => .bind .panic fun _ _ => ?_
  refine Avoids.bind (.require (by decide)) fun _ _ => ?_
  refine Avoids.bind (.forEach fun tokenId _ => ?_) fun _ _ => ?_
  · exact .bind (.require (by decide)) fun _ _ => involved tokenId
  · refine Avoids.bind (.forEach fun id member => ?_) fun _ _ => .pure _
    exact customHistoryIdExists_avoids (named id member)

theorem writeCustomHistory_avoids {name : Bytes} {metadata : Metadata}
    (named : state.customHistoryTypeNameById id ≠ []) :
    Avoids missingType (writeCustomHistory world msg state name id metadata) := by
  refine Avoids.bind (.require (by decide)) fun _ _ => ?_
  refine Avoids.bind (.passed fun empty => ?_) fun _ _ => .bind .panic fun _ _ => .pure _
  exact named (List.eq_nil_of_length_eq_zero empty)

theorem administrator_exists (msg : Msg) (state : State) :
    ∃ world, onlyAdministrator world msg state = .ok () := by
  let named := World.named [(ADMINISTRATOR, sender msg state)]
  refine ⟨named, require_eq_ok.mpr (beq_iff_eq.mpr ?_)⟩
  rfl

theorem updateCustomHistory_missing {name : Bytes} {metadata : Metadata}
    (allowed : onlyAdministrator world msg state = .ok ())
    (nameless : getCustomHistoryNameById state id = []) :
    updateCustomHistory deployment world msg state id name metadata = .error missingHistory := by
  rw [updateCustomHistory, passed_eq_error allowed, bind_eq_error]
  exact Or.inl (require_eq_error.mpr ⟨by simp [nameless], rfl⟩)

theorem writeCustomHistory_missing {name : Bytes} {metadata : Metadata}
    (allowed : onlyAdministrator world msg state = .ok ())
    (nameless : state.customHistoryTypeNameById id = []) :
    writeCustomHistory world msg state name id metadata = .error missingType := by
  rw [writeCustomHistory, passed_eq_error allowed, bind_eq_error]
  exact Or.inl (require_eq_error.mpr ⟨by simp [nameless], rfl⟩)

end Refusals

/-- All that was announced can be used, and the announced ids and the two maps of the types
identify what they should. -/
structure Usable (deployment : Deployment) (state : State) : Prop where
  approves : ∀ id ∈ announced state, ∀ world msg tokenId commitment historyMetadataHash,
    approveSRRByCommitmentWithHistory world msg state tokenId commitment historyMetadataHash id ≠
      .error missingHistory
  adds : ∀ world msg tokenIds customHistoryIds, (∀ id ∈ customHistoryIds, id ∈ announced state) →
    addHistory world msg state tokenIds customHistoryIds ≠ .error missingHistory
  updates : ∀ id ∈ announced state, ∀ world msg name metadata,
    updateCustomHistory deployment world msg state id name metadata ≠ .error missingHistory
  writes : ∀ id ∈ announcedTypes state, ∀ world msg name metadata,
    writeCustomHistory world msg state name id metadata ≠ .error missingType
  once : (announced state).Nodup
  typesOnce : (announcedTypes state).Nodup
  inverse : ∀ id ∈ announcedTypes state,
    state.customHistoryTypeIdByName (state.customHistoryTypeNameById id) = id
  distinct : ∀ first ∈ announcedTypes state, ∀ second ∈ announcedTypes state,
    state.customHistoryTypeNameById first = state.customHistoryTypeNameById second →
      first = second

theorem usable_iff (orderly : (shelf state).Orderly) :
    Usable deployment state ↔ (shelf state).Named := by
  constructor
  · intro usable
    obtain ⟨world, allowed⟩ := administrator_exists ⟨0, []⟩ state
    constructor
    · intro id known nameless
      have missing := @updateCustomHistory_missing deployment world ⟨0, []⟩ state id []
        (.metadataCID []) allowed nameless
      exact usable.updates id known _ _ _ _ missing
    · intro id known nameless
      have missing := @writeCustomHistory_missing world ⟨0, []⟩ state id [] (.metadataCID [])
        allowed nameless
      exact usable.writes id known _ _ _ _ missing
  · intro named
    constructor
    · exact fun id known _ _ _ _ _ => approveSRRByCommitment_avoids (named.histories id known)
    · exact fun _ _ _ _ known => addHistory_avoids fun id given =>
        named.histories id (known id given)
    · exact fun id known _ _ _ _ => updateCustomHistory_avoids (named.histories id known)
    · exact fun id known _ _ _ _ => writeCustomHistory_avoids (named.types id known)
    · exact orderly.histories.once
    · exact orderly.types.once
    · exact orderly.mutual_
    · exact fun _ known _ known' same => orderly.mutual_.distinct known known' same

theorem shelf_blank : (shelf State.blank).Orderly ∧ (shelf State.blank).Named :=
  ⟨⟨.nil _ _, .nil _ _, nofun⟩, nofun, nofun⟩

theorem run_catalogues (deployment : Deployment)
    {config : Config Revert State Query Reply Transaction}
    (reach : Reach (entry deployment) (GivesNames deployment) State.blank config) :
    (shelf config.now.state).Orderly ∧ (shelf config.now.state).Named := by
  refine reach.invariant (fun state => (shelf state).Orderly ∧ (shelf state).Named) shelf_blank
    fun transaction state given before => ?_
  obtain ⟨orderly, named⟩ := before
  refine (perform_trailing _ _ _ state).keeps fun state' ran => ?_
  obtain ⟨call', _, step⟩ := entry_shelf ran
  exact ⟨step.orderly orderly, (entry_named ran named).mpr given⟩

theorem announced_grow {transaction : Transaction}
    (ran : (entry deployment transaction state).front = some state') :
    (∃ fresh, announced state' = fresh ++ announced state) ∧
      ∃ fresh, announcedTypes state' = fresh ++ announcedTypes state := by
  obtain ⟨call', _, step⟩ := entry_shelf ran
  have grow : ∀ after, (shelf state).Step call' after →
      (∃ fresh, after.histories = fresh ++ announced state) ∧
        ∃ fresh, after.types.ids = fresh ++ announcedTypes state := by
    intro after step
    cases step with
    | kept _ => exact ⟨⟨[], rfl⟩, [], rfl⟩
    | writeCustomHistory _ => exact ⟨⟨[_], rfl⟩, [], rfl⟩
    | updateCustomHistory _ => exact ⟨⟨[], rfl⟩, [], rfl⟩
    | addCustomHistoryType _ _ => exact ⟨⟨[], rfl⟩, [_], rfl⟩
  exact grow (shelf state') step

/-- If no call writes an entry without a name, all that was announced stays usable; the first call
that does announces what nobody can use. -/
theorem histories_usable (deployment : Deployment)
    (config : Config Revert State Query Reply Transaction)
    (reach : Reach (entry deployment) (GivesNames deployment) State.blank config) :
    Usable deployment config.now.state ∧
      ∀ transaction state',
        (entry deployment transaction config.now.state).front = some state' →
        (Usable deployment state' ↔ GivesNames deployment transaction config.now.state) ∧
          (∃ fresh, announced state' = fresh ++ announced config.now.state) ∧
          ∃ fresh, announcedTypes state' = fresh ++ announcedTypes config.now.state := by
  obtain ⟨orderly, named⟩ := run_catalogues deployment reach
  refine ⟨(usable_iff orderly).mpr named, fun transaction state' ran => ⟨?_, announced_grow ran⟩⟩
  obtain ⟨call', _, step⟩ := entry_shelf ran
  rw [usable_iff (step.orderly orderly)]
  exact entry_named ran named

section Samples

def typedRun : Config Revert State Query Reply Transaction :=
  (Config.start State.blank).enter (entry sampleDeployment)
    (sampleCall 0xad317 (.addCustomHistoryType (ascii "exhibition")))

def showSample (name : Bytes) : Transaction :=
  sampleCall 0xad317 (.writeCustomHistory name 1 (.metadataDigest 0))

def shownRun (name : Bytes) : Config Revert State Query Reply Transaction :=
  typedRun.enter (entry sampleDeployment) (showSample name)

theorem givesNames_direct {transaction : Transaction}
    (direct : ∀ userAddress callData sigR sigS sigV,
      transaction.call ≠ .executeMetaTransaction userAddress callData sigR sigS sigV)
    (names : ¬transaction.call.Nameless) : GivesNames deployment transaction state := by
  obtain ⟨world, depth, msg, call⟩ := transaction
  rintro _ ⟨middle, msg', call', runs, nameless⟩
  cases runs with
  | direct => exact names nameless
  | wrapped => exact absurd rfl (direct _ _ _ _ _)

set_option maxRecDepth 8000 in
theorem histories_usable_shown :
    Usable sampleDeployment (shownRun (ascii "Show")).now.state ∧
      announced (shownRun (ascii "Show")).now.state = [1] ∧
      ∃ state', (entry sampleDeployment (sampleCall 0xad317
        (.updateCustomHistory 1 (ascii "Solo show") (.metadataDigest 0)))
          (shownRun (ascii "Show")).now.state).front = some state' ∧
        Usable sampleDeployment state' := by
  have reach : Reach (entry sampleDeployment) (GivesNames sampleDeployment) State.blank
      (shownRun (ascii "Show")) := by
    refine .enter _ (.enter _ .start (givesNames_direct ?_ ?_)) (givesNames_direct ?_ ?_)
    · simp [sampleCall]
    · change ascii "exhibition" ≠ []
      decide
    · simp [showSample, sampleCall]
    · change ascii "Show" ≠ []
      decide
  obtain ⟨usable, next⟩ := histories_usable sampleDeployment _ reach
  have ran : ∃ state', (entry sampleDeployment (sampleCall 0xad317
      (.updateCustomHistory 1 (ascii "Solo show") (.metadataDigest 0)))
        (shownRun (ascii "Show")).now.state).front = some state' := by
    rw [← Option.isSome_iff_exists]
    decide
  obtain ⟨state', ran⟩ := ran
  refine ⟨usable, by decide, state', ran, (next _ state' ran).1.mpr (givesNames_direct ?_ ?_)⟩
  · simp [sampleCall]
  · exact id

set_option maxRecDepth 8000 in
theorem nameless_unusable :
    ¬∀ config, Reach (entry sampleDeployment) (fun _ _ => True) State.blank config →
      Usable sampleDeployment config.now.state := by
  intro claimed
  have reach : Reach (entry sampleDeployment) (fun _ _ => True) State.blank (shownRun []) :=
    .enter _ (.enter _ .start trivial) trivial
  have usable := claimed (shownRun []) reach
  have known : (1 : Uint256) ∈ announced (shownRun []).now.state := by decide
  have allowed : onlyAdministrator sampleWorld ⟨0xad317, []⟩ (shownRun []).now.state = .ok () := by
    rfl
  exact usable.updates 1 known _ _ _ (.metadataDigest 0)
    (@updateCustomHistory_missing sampleDeployment sampleWorld ⟨0xad317, []⟩ _ 1 (ascii "Show") _
      allowed (by rfl))

end Samples

end Startrail.Registry
