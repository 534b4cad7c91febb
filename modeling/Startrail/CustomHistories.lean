import Startrail.Approvals
import Startrail.Library.Citations
import Startrail.Library.Composition

/-!
Custom histories that events name. The registry has the catalogue of them; the events
of the registry and of its collections carry their ids, at once or, with an approval,
again when the token is transferred. Not every entry point looks an id up in the
catalogue, so that the ids it takes unchecked decide whether all exist.
-/

namespace Startrail

/-- The custom history exists in a registry that answers like this. -/
def StartrailRegistrySubset.Names (registry : StartrailRegistrySubset) (id : Uint256) : Prop :=
  (registry.getCustomHistoryNameById id).length ≠ 0

instance (registry : StartrailRegistrySubset) (id : Uint256) : Decidable (registry.Names id) :=
  inferInstanceAs (Decidable (_ ≠ _))

theorem historyOf_absent {customHistoryId : Uint256} (absent : customHistoryId = 0) :
    historyOf customHistoryId = none := if_neg (not_not.mpr absent)

theorem historyOf_given {customHistoryId : Uint256} (given : customHistoryId ≠ 0) :
    historyOf customHistoryId = some customHistoryId := if_pos given

theorem historyOf_some {customHistoryId id : Uint256}
    (given : historyOf customHistoryId = some id) : customHistoryId = id := by
  unfold historyOf at given
  split at given
  · exact Option.some.inj given
  · cases given

theorem historyOf_known {Known : Uint256 → Prop} {customHistoryId : Uint256} :
    (∀ id ∈ (historyOf customHistoryId).toList, Known id) ↔
      ∀ id, historyOf customHistoryId = some id → Known id := by
  simp [Option.mem_toList]

namespace Registry

/-- What the collections ask the registry for. -/
def subset (state : State) : StartrailRegistrySubset :=
  ⟨getCustomHistoryNameById state, state.maxCombinedHistoryRecords⟩

def Named (state : State) (id : Uint256) : Prop := (subset state).Names id

instance (state : State) (id : Uint256) : Decidable (Named state id) :=
  inferInstanceAs (Decidable ((subset state).Names id))

/-- The ids that the registry has not given out yet name nothing. -/
def Catalogued (state : State) : Prop :=
  ∀ id, Named state id → id.toNat ≤ state.customHistoryCount.toNat

def Event.histories : Event → List Uint256
  | .History _ customHistoryIds => customHistoryIds
  | .Provenance _ _ _ customHistoryId _ _ _ => customHistoryId.toList
  | .SRRCommitment _ _ _ customHistoryId => customHistoryId.toList
  | _ => []

def references (state : State) : References Uint256 Uint256 where
  kept tokenId := historyOf (commitmentOf state tokenId).customHistoryId
  cited := state.logs.flatMap Event.histories

def Call.citation : Call → Citation Uint256 Uint256
  | .approveSRRByCommitment tokenId _ _ => .keep tokenId none
  | .approveSRRByCommitmentFromBulk _ tokenId _ _ customHistoryId =>
      .keep tokenId (historyOf customHistoryId)
  | .approveSRRByCommitmentWithHistory tokenId _ _ customHistoryId =>
      .keep tokenId (historyOf customHistoryId)
  | .transferFromWithProvenance _ _ _ customHistoryId _ => .cite (historyOf customHistoryId).toList
  | .transferFromWithProvenanceFromBulk _ _ _ _ customHistoryId _ =>
      .cite (historyOf customHistoryId).toList
  | .transferSRRByReveal _ _ tokenId _ => .redeem tokenId
  | .cancelSRRCommitment tokenId => .release tokenId
  | .addHistory _ customHistoryIds => .cite customHistoryIds
  | _ => .quiet

/-- The custom history that a call names without a check. -/
def Call.unchecked : Call → Option Uint256
  | .approveSRRByCommitmentFromBulk _ _ _ _ customHistoryId => historyOf customHistoryId
  | .transferFromWithProvenance _ _ _ customHistoryId _ => historyOf customHistoryId
  | .transferFromWithProvenanceFromBulk _ _ _ _ customHistoryId _ => historyOf customHistoryId
  | _ => none

/-- The catalogue and what refers to it are the same. -/
structure Quiet (before after : State) : Prop where
  names : ∀ id, getCustomHistoryNameById after id = getCustomHistoryNameById before id
  count : after.customHistoryCount = before.customHistoryCount
  references : references after = references before

/-- A custom history stays in the catalogue once it is there. -/
def Grows (before after : State) : Prop :=
  Catalogued before → Catalogued after ∧ ∀ id, Named before id → Named after id

structure Notes (citation : Citation Uint256 Uint256) (before after : State) : Prop where
  references : references after = (references before).note citation
  grows : Grows before after

variable {deployment : Deployment} {world : World} {msg : Msg} {call : Call}
  {state state' before middle after : State} {tokenId : Uint256}

theorem named_iff {id : Uint256} :
    Named state id ↔ (getCustomHistoryNameById state id).length ≠ 0 := Iff.rfl

theorem customHistoryIdExists_named {id : Uint256} :
    customHistoryIdExists state id = .ok () ↔ Named state id := by
  rw [customHistoryIdExists, require_eq_ok, named_iff]

theorem references_eq (uints : after._uintStorage = before._uintStorage)
    (cited : after.logs.flatMap Event.histories = before.logs.flatMap Event.histories) :
    references after = references before := by
  unfold references commitmentOf
  rw [uints, cited]

theorem Quiet.refl (state : State) : Quiet state state := ⟨fun _ => rfl, rfl, rfl⟩

theorem Quiet.trans (early : Quiet before middle) (late : Quiet middle after) :
    Quiet before after :=
  ⟨fun id => (late.names id).trans (early.names id), late.count.trans early.count,
    late.references.trans early.references⟩

theorem grows_of_same
    (names : ∀ id, getCustomHistoryNameById after id = getCustomHistoryNameById before id)
    (count : after.customHistoryCount = before.customHistoryCount) : Grows before after := by
  have same : ∀ id, Named after id ↔ Named before id := by
    intro id
    rw [named_iff, named_iff, names]
  intro catalogued
  refine ⟨?_, fun id => (same id).mpr⟩
  intro id named
  rw [count]
  exact catalogued id ((same id).mp named)

theorem Quiet.notes (quiet : Quiet before after) : Notes .quiet before after :=
  ⟨quiet.references, grows_of_same quiet.names quiet.count⟩

theorem Aside.cited (aside : Aside before after) :
    after.logs.flatMap Event.histories = before.logs.flatMap Event.histories := by
  obtain ⟨fresh, grown, quiet⟩ := aside.logs
  have nothing : fresh.flatMap Event.histories = [] := by
    apply List.flatMap_eq_nil_iff.mpr
    intro event belongs
    have silent := quiet event belongs
    cases event <;> first | rfl | cases silent
  rw [grown, List.flatMap_append, nothing, List.nil_append]

theorem Aside.quiet (aside : Aside before after) : Quiet before after :=
  ⟨fun id => aside.strings id _ _ (by decide), aside.customHistoryCount,
    references_eq aside.uints aside.cited⟩

theorem transfer_quiet {from_ to_ : Address}
    (moved : _transfer state from_ to_ tokenId = .ok state') : Quiet state state' := by
  obtain ⟨_, _, _, _, _, rfl⟩ := transfer_accepted moved
  exact ⟨fun _ => rfl, rfl, references_eq rfl rfl⟩

theorem mint_quiet {to_ : Address} (minted : _mint state to_ tokenId = .ok state') :
    Quiet state state' := by
  obtain ⟨_, _, _, rfl⟩ := mint_accepted minted
  exact ⟨fun _ => rfl, rfl, references_eq rfl rfl⟩

theorem createSRR_quiet {isPrimaryIssuer lockExternalTransfer_ : Bool}
    {artistAddress sender royaltyReceiver : Address} {metadataCID : Bytes}
    {royaltyBasisPoints : Uint16}
    (created : _createSRR deployment state isPrimaryIssuer artistAddress metadataCID sender
      lockExternalTransfer_ royaltyReceiver royaltyBasisPoints = .ok (state', tokenId)) :
    Quiet state state' := by
  obtain ⟨_, minted, mint, aside⟩ := createSRR_aside created
  have recorded : Quiet minted (minted.recorded tokenId isPrimaryIssuer artistAddress sender
      metadataCID lockExternalTransfer_) := by
    refine ⟨?_, rfl, references_eq rfl rfl⟩
    simp [getCustomHistoryNameById, State.recorded, _saveSRR, State.emit, Storage.set_apply]
  exact (mint_quiet mint).trans (recorded.trans aside.quiet)

theorem createSRRFor_quiet {isPrimaryIssuer lockExternalTransfer_ : Bool}
    {artistAddress issuerAddress to_ royaltyReceiver : Address} {metadataCID : Bytes}
    {royaltyBasisPoints : Uint16}
    (created : createSRRFor deployment state isPrimaryIssuer artistAddress metadataCID issuerAddress
      lockExternalTransfer_ to_ royaltyReceiver royaltyBasisPoints = .ok (state', tokenId)) :
    Quiet state state' := by
  obtain ⟨recorded, first, ⟨_, passed⟩ | ⟨_, rfl⟩⟩ := createSRRFor_accepted created
  · exact (createSRR_quiet first).trans (transfer_quiet passed)
  · exact createSRR_quiet first

theorem provenance_references (state : State) (from_ to_ : Address) (historyMetadataHash : Bytes)
    (customHistoryId : Uint256) (isIntermediary : Bool) :
    references (_historyProvenance state tokenId from_ to_ historyMetadataHash customHistoryId
      isIntermediary) = (references state).note (.cite (historyOf customHistoryId).toList) :=
  rfl

theorem approve_notes {customHistoryId : Uint256} {commitment : Bytes32}
    {historyMetadataHash : Bytes}
    (approved : _approveSRRByCommitment state tokenId commitment historyMetadataHash
      customHistoryId = .ok state') :
    Notes (.keep tokenId (historyOf customHistoryId)) state state' := by
  have prior : Quiet state (cancelPriorApproval state tokenId) := by
    unfold cancelPriorApproval
    split
    · exact ⟨fun _ => rfl, rfl, references_eq rfl rfl⟩
    · exact .refl state
  obtain ⟨_, _, rfl, stores⟩ := approveSRRByCommitment_accepted approved
  generalize cancelPriorApproval state tokenId = cancelled at prior stores
  rcases stores with ⟨absent, rfl⟩ | ⟨given, rfl⟩
  · refine ⟨?_, grows_of_same ?_ prior.count⟩
    · rw [historyOf_absent absent, ← prior.references]
      exact references_eq rfl rfl
    · intro id
      rw [← prior.names]
      simp [getCustomHistoryNameById, storeCommitment, State.emit, Storage.set_apply]
  · refine ⟨?_, grows_of_same ?_ prior.count⟩
    · rw [historyOf_given given, ← prior.references]
      ext1
      · funext other
        by_cases same : other = tokenId
        · subst other
          simp [references, commitmentOf, storeCommitment, storeCustomHistory, State.emit,
            Storage.set_apply, References.note, References.holds, historyOf_given given]
        · simp [references, commitmentOf, storeCommitment, storeCustomHistory, State.emit,
            Storage.set_apply, References.note, References.holds, same]
      · rfl
    · intro id
      rw [← prior.names]
      simp [getCustomHistoryNameById, storeCommitment, storeCustomHistory, State.emit,
        Storage.set_apply]

theorem clear_notes (state : State) (tokenId : Uint256) :
    Notes (.release tokenId) state (_clearSRRCommitment state tokenId) := by
  constructor
  · ext1
    · funext other
      by_cases same : other = tokenId
      · subst other
        simp [references, commitmentOf, _clearSRRCommitment, Storage.set_apply, References.note,
          References.holds, historyOf]
      · simp [references, commitmentOf, _clearSRRCommitment, Storage.set_apply, References.note,
          References.holds, same]
    · rfl
  · refine grows_of_same ?_ rfl
    simp [getCustomHistoryNameById, _clearSRRCommitment, Storage.set_apply]

theorem provenance_notes {from_ to_ : Address} {historyMetadataHash : Bytes}
    {customHistoryId : Uint256} {isIntermediary : Bool}
    (moved : _transfer (_historyProvenance state tokenId from_ to_ historyMetadataHash
      customHistoryId isIntermediary) from_ to_ tokenId = .ok state') :
    Notes (.cite (historyOf customHistoryId).toList) state state' := by
  have quiet := transfer_quiet moved
  refine ⟨?_, grows_of_same quiet.names quiet.count⟩
  rw [quiet.references]
  exact provenance_references state from_ to_ historyMetadataHash customHistoryId isIntermediary

theorem reveal_notes {to_ : Address} {reveal : Bytes32} {isIntermediary : Bool}
    (revealed : transferSRRByReveal deployment state to_ reveal tokenId isIntermediary =
      .ok state') : Notes (.redeem tokenId) state state' := by
  obtain ⟨_, _, moved⟩ := transferSRRByReveal_accepted revealed
  have quiet := transfer_quiet moved
  constructor
  · rw [quiet.references, (clear_notes _ tokenId).references]
    rfl
  · refine grows_of_same (fun id => (quiet.names id).trans ?_) quiet.count
    simp [getCustomHistoryNameById, _clearSRRCommitment, _historyProvenance, State.emit,
      Storage.set_apply]

theorem writeCustomHistory_grows {name : Bytes} {event : Event}
    (room : state.customHistoryCount.toNat + 1 < 2 ^ 256) :
    Grows state ({ state with
      customHistoryCount := state.customHistoryCount + 1
      _stringStorage := state._stringStorage.set (state.customHistoryCount + 1) ._CUSTOM_HISTORY
        ._CUSTOM_HISTORY_NAME name }.emit event) := by
  have next : (state.customHistoryCount + 1).toNat = state.customHistoryCount.toNat + 1 := by
    rw [BitVec.toNat_add]
    exact Nat.mod_eq_of_lt room
  intro catalogued
  have other : ∀ id, id ≠ state.customHistoryCount + 1 →
      getCustomHistoryNameById ({ state with
        customHistoryCount := state.customHistoryCount + 1
        _stringStorage := state._stringStorage.set (state.customHistoryCount + 1) ._CUSTOM_HISTORY
          ._CUSTOM_HISTORY_NAME name }.emit event) id = getCustomHistoryNameById state id := by
    intro id apart
    exact (Storage.set_apply _ _ _ _ _ _ _ _).trans (if_neg fun same => apart same.1)
  constructor
  · intro id named
    change id.toNat ≤ (state.customHistoryCount + 1).toNat
    by_cases latest : id = state.customHistoryCount + 1
    · rw [latest]
    · rw [named_iff, other id latest] at named
      have earlier := catalogued id named
      omega
  · intro id named
    have earlier := catalogued id named
    have apart : id ≠ state.customHistoryCount + 1 := by
      rintro rfl
      omega
    rw [named_iff, other id apart]
    exact named

theorem updateCustomHistory_notes {id : Uint256} {name : Bytes} {metadata : Metadata}
    {renamed : Prop} [Decidable renamed]
    (known : customHistoryIdExists state id = .ok ()) (required : name.length ≠ 0) :
    Notes .quiet state ((if renamed then
        { state with
          _stringStorage := state._stringStorage.set id ._CUSTOM_HISTORY ._CUSTOM_HISTORY_NAME
            name }
      else state).emit (.UpdateCustomHistory id name metadata)) := by
  split
  · refine ⟨references_eq rfl rfl, fun catalogued => ⟨?_, ?_⟩⟩
    · intro other named
      by_cases same : other = id
      · rw [same]
        exact catalogued id (customHistoryIdExists_named.mp known)
      · refine catalogued other ?_
        rw [named_iff] at named ⊢
        simpa [getCustomHistoryNameById, State.emit, Storage.set_apply, same] using named
    · intro other named
      rw [named_iff] at named ⊢
      by_cases same : other = id
      · simpa [getCustomHistoryNameById, State.emit, Storage.set_apply, same] using required
      · simpa [getCustomHistoryNameById, State.emit, Storage.set_apply, same] using named
  · exact ⟨references_eq rfl rfl, grows_of_same (fun _ => rfl) rfl⟩

theorem citation_aside (aside : call.aside = true) :
    call.citation = .quiet ∧ call.unchecked = none := by
  cases call <;> first | exact ⟨rfl, rfl⟩ | cases aside

theorem Accepted.notes (accepted : Accepted deployment world msg state call state') :
    Notes call.citation state state' := by
  cases accepted with
  | aside aside same =>
      rw [(citation_aside aside).1]
      exact same.quiet.notes
  | createSRRFromLicensedUser _ creates => exact (createSRRFor_quiet creates).notes
  | createSRRFromBulk _ creates => exact (createSRRFor_quiet creates).notes
  | approveSRRByCommitmentFromBulk _ _ approved => exact approve_notes approved
  | approveSRRByCommitment _ approved => exact approve_notes approved
  | approveSRRByCommitmentWithHistory _ _ approved => exact approve_notes approved
  | @cancelSRRCommitment tokenId _ =>
      have cleared := clear_notes state tokenId
      exact ⟨cleared.references, cleared.grows⟩
  | transferSRRByReveal revealed => exact reveal_notes revealed
  | addHistory _ _ _ _ => exact ⟨rfl, grows_of_same (fun _ => rfl) rfl⟩
  | writeCustomHistory _ _ room => exact ⟨references_eq rfl rfl, writeCustomHistory_grows room⟩
  | updateCustomHistory _ known required => exact updateCustomHistory_notes known required
  | transferFrom _ _ moved => exact (transfer_quiet moved).notes
  | safeTransferFrom _ _ moved => exact (transfer_quiet moved).notes
  | transferFromWithProvenance _ _ moved => exact provenance_notes moved
  | transferFromWithProvenanceFromBulk _ _ _ moved => exact provenance_notes moved
  | approve _ _ _ _ => exact Quiet.notes ⟨fun _ => rfl, rfl, references_eq rfl rfl⟩
  | setLockExternalTransfer _ _ => exact Quiet.notes ⟨fun _ => rfl, rfl, references_eq rfl rfl⟩

theorem Accepted.given (accepted : Accepted deployment world msg state call state') :
    (∀ id ∈ call.citation.given, Named state id) ↔
      ∀ id, call.unchecked = some id → Named state id := by
  cases accepted with
  | aside aside _ =>
      obtain ⟨silent, checked⟩ := citation_aside aside
      simp [silent, checked, Citation.given]
  | approveSRRByCommitmentFromBulk _ _ _ => exact historyOf_known
  | transferFromWithProvenanceFromBulk _ _ _ _ => exact historyOf_known
  | transferFromWithProvenance _ _ _ => exact historyOf_known
  | approveSRRByCommitmentWithHistory _ known _ =>
      refine ⟨fun _ _ absent => absurd absent (Option.not_mem_none _), fun _ => ?_⟩
      refine historyOf_known.mpr ?_
      intro id given
      rw [← historyOf_some given]
      exact customHistoryIdExists_named.mp known
  | addHistory _ _ _ known =>
      refine ⟨fun _ _ absent => absurd absent (Option.not_mem_none _), fun _ id cites => ?_⟩
      exact customHistoryIdExists_named.mp (forEach_all known id cites)
  | _ => simp [Call.citation, Call.unchecked, Citation.given]

theorem Runs.quiet {middle : State} {msg' : Msg} {call' : Call}
    (runs : Runs deployment state msg call middle msg' call') : Quiet state middle := by
  induction runs with
  | direct state msg call => exact .refl state
  | wrapped accepts _ _ ih =>
      simp only [acceptMetaTransaction, bind_eq_ok, pure_eq_ok] at accepts
      obtain ⟨_, _, _, _, _, _, rfl⟩ := accepts
      refine Quiet.trans ?_ ih
      exact ⟨fun _ => rfl, rfl, references_eq rfl rfl⟩

/-- Every custom history that a transaction names unchecked exists, also one that it names
inside a meta transaction. -/
def Vouched (deployment : Deployment) (transaction : Transaction) (state : State) : Prop :=
  ∀ id, ComesTo deployment transaction state (fun call => call.unchecked = some id) →
    Named state id

section Transactions

variable {middle : State} {msg' : Msg} {call' : Call} {transaction : Transaction}

theorem vouched_direct
    (direct : ∀ userAddress callData sigR sigS sigV,
      transaction.call ≠ .executeMetaTransaction userAddress callData sigR sigS sigV)
    (known : ∀ id, transaction.call.unchecked = some id → Named state id) :
    Vouched deployment transaction state := by
  obtain ⟨world, depth, msg, call⟩ := transaction
  rintro id ⟨middle, msg', call', runs, unchecked⟩
  cases runs with
  | direct => exact known id unchecked
  | wrapped => exact absurd rfl (direct _ _ _ _ _)

theorem Quiet.named (quiet : Quiet before after) {id : Uint256} :
    Named after id ↔ Named before id := by
  rw [named_iff, named_iff, quiet.names]

theorem Runs.notes (runs : Runs deployment state msg call middle msg' call')
    (accepted : Accepted deployment world msg' middle call' state') :
    Notes call'.citation state state' ∧ ((∀ id ∈ call'.citation.given, Named state id) ↔
      ∀ id, call'.unchecked = some id → Named state id) := by
  have quiet := runs.quiet
  have notes := accepted.notes
  have given := accepted.given
  simp only [quiet.named] at given
  refine ⟨⟨?_, ?_⟩, given⟩
  · rw [notes.references, quiet.references]
  · intro catalogued
    obtain ⟨catalogued', grows⟩ := grows_of_same quiet.names quiet.count catalogued
    obtain ⟨catalogued'', grows'⟩ := notes.grows catalogued'
    exact ⟨catalogued'', fun id named => grows' id (grows id named)⟩

theorem entry_within (ran : (entry deployment transaction state).front = some state')
    (vouched : Vouched deployment transaction state)
    (within : (references state).Within (Named state)) :
    Grows state state' ∧ (references state').Within (Named state) ∧
      References.Grounded (Named state) (references state) (references state') := by
  obtain ⟨middle, msg, call, runs, accepted⟩ := perform_accepted ran
  obtain ⟨notes, checked⟩ := runs.notes accepted
  have given := checked.mpr fun id unchecked => vouched id ⟨middle, msg, call, runs, unchecked⟩
  rw [notes.references]
  exact ⟨notes.grows, within.note given, (References.grounded_note_iff within).mpr given⟩

theorem entry_vouched (ran : (entry deployment transaction state).front = some state')
    (within : (references state).Within (Named state))
    (grounded : References.Grounded (Named state) (references state) (references state')) :
    Vouched deployment transaction state := by
  intro id comes
  obtain ⟨middle, msg, call, runs, unchecked, accepted⟩ := comes.accepted ran nofun
  obtain ⟨notes, checked⟩ := runs.notes accepted
  rw [notes.references] at grounded
  exact checked.mp ((References.grounded_note_iff within).mp grounded) id unchecked

end Transactions

end Registry

namespace Collection

def Event.histories : Event → List Uint256
  | .History _ customHistoryIds => customHistoryIds
  | .Provenance _ _ _ customHistoryId _ _ _ _ => customHistoryId.toList
  | .SRRCommitment _ _ customHistoryId _ => customHistoryId.toList
  | _ => []

def references (state : State) : References Uint256 Uint256 where
  kept tokenId := historyOf (getSRRCommitment state tokenId).customHistoryId
  cited := state.logs.flatMap Event.histories

def Call.citation : Call → Citation Uint256 Uint256
  | .approveSRRByCommitment tokenId _ _ customHistoryId => .keep tokenId (historyOf customHistoryId)
  | .approveSRRByCommitmentFromBulk _ tokenId _ _ customHistoryId =>
      .keep tokenId (historyOf customHistoryId)
  | .transferFromWithProvenance _ _ _ customHistoryId _ => .cite (historyOf customHistoryId).toList
  | .transferFromWithProvenanceFromBulk _ _ _ _ customHistoryId _ =>
      .cite (historyOf customHistoryId).toList
  | .transferSRRByReveal _ _ tokenId _ => .redeem tokenId
  | .cancelSRRCommitment tokenId => .release tokenId
  | .addHistory _ customHistoryIds => .cite customHistoryIds
  | _ => .quiet

/-- The custom history that a call names without a check. -/
def Call.unchecked : Call → Option Uint256
  | .transferFromWithProvenance _ _ _ customHistoryId _ => historyOf customHistoryId
  | .transferFromWithProvenanceFromBulk _ _ _ _ customHistoryId _ => historyOf customHistoryId
  | _ => none

variable {evm : Evm} {world : World} {msg : Msg} {state state' before after : State}
  {tokenId : Uint256}

theorem references_eq (approvals : after.approvals = before.approvals)
    (cited : after.logs.flatMap Event.histories = before.logs.flatMap Event.histories) :
    references after = references before := by
  unfold references getSRRCommitment
  rw [approvals, cited]

theorem Aside.references (aside : Aside before after) : references after = references before := by
  obtain ⟨fresh, grown, quiet⟩ := aside.logs
  have nothing : fresh.flatMap Event.histories = [] := by
    apply List.flatMap_eq_nil_iff.mpr
    intro event belongs
    have silent := quiet event belongs
    cases event <;> first | rfl | cases silent
  refine references_eq aside.approvals ?_
  rw [grown, List.flatMap_append, nothing, List.nil_append]

theorem createRecord_references {isPrimaryIssuer lockExternalTransfer fromBulk : Bool}
    {artistAddress issuerAddress royaltyReceiver : Address} {metadataCID : Bytes}
    {royaltyBasisPoints : Uint16}
    (creates : createRecord evm world msg state isPrimaryIssuer artistAddress metadataCID
      issuerAddress lockExternalTransfer royaltyReceiver royaltyBasisPoints fromBulk =
        .ok (state', tokenId)) : references state' = references state := by
  obtain ⟨_, _, _, minted, mints, rfl⟩ := createRecord_accepted creates
  obtain ⟨_, _, rfl⟩ := mint_accepted mints
  rw [(upsertRoyalty_aside _ _ royaltyReceiver royaltyBasisPoints).references]
  unfold State.recorded lockIf
  split
  · exact references_eq rfl rfl
  · exact references_eq rfl rfl

theorem passOn_references (state : State) (issuerAddress to_ : Address) (tokenId : Uint256) :
    references (passOn state issuerAddress to_ tokenId) = references state := by
  unfold passOn
  split
  · exact references_eq rfl rfl
  · rfl

theorem approveByCommitment_references {customHistoryId : Uint256} {commitment : Bytes32}
    {historyMetadataHash : Bytes} {signer : Address}
    (approved : approveByCommitment world state tokenId commitment historyMetadataHash
      customHistoryId signer = .ok state') :
    references state' = (references state).note (.keep tokenId (historyOf customHistoryId)) := by
  have prior : references (cancelPriorApproval state tokenId signer) = references state := by
    unfold cancelPriorApproval
    split
    · exact references_eq rfl rfl
    · rfl
  obtain ⟨_, _, rfl, stores⟩ := approveByCommitment_accepted approved
  rw [← prior]
  generalize cancelPriorApproval state tokenId signer = cancelled at stores ⊢
  rcases stores with ⟨absent, rfl⟩ | ⟨given, rfl⟩
  · rw [historyOf_absent absent]
    ext1
    · funext other
      by_cases same : other = tokenId
      · subst other
        simp [references, getSRRCommitment, setApproval, State.emit, References.note,
          References.holds]
      · simp [references, getSRRCommitment, setApproval, State.emit, References.note,
          References.holds, same]
    · rfl
  · rw [historyOf_given given]
    ext1
    · funext other
      by_cases same : other = tokenId
      · subst other
        simp [references, getSRRCommitment, setApproval, State.emit, References.note,
          References.holds, historyOf_given given]
      · simp [references, getSRRCommitment, setApproval, State.emit, References.note,
          References.holds, same]
    · rfl

theorem clear_references (state : State) (tokenId : Uint256) :
    references (_clearSRRCommitment state tokenId) =
      (references state).note (.release tokenId) := by
  ext1
  · funext other
    by_cases same : other = tokenId
    · subst other
      simp [references, getSRRCommitment, _clearSRRCommitment, setApproval, References.note,
        References.holds, Approval.none, historyOf]
    · simp [references, getSRRCommitment, _clearSRRCommitment, setApproval, References.note,
        References.holds, same]
  · rfl

theorem reveal_references {to_ : Address} {reveal : Bytes32} {isIntermediary : Bool}
    (revealed : transferSRRByReveal evm state to_ reveal tokenId isIntermediary = .ok state') :
    references state' = (references state).note (.redeem tokenId) := by
  obtain ⟨_, _, rfl⟩ := transferSRRByReveal_accepted revealed
  ext1
  · have kept := congrArg References.kept (clear_references state tokenId)
    exact kept
  · rfl

theorem transferFrom_references {from_ to_ : Address}
    (moved : transferFrom msg state from_ to_ tokenId = .ok state') :
    references state' = references state := by
  obtain ⟨_, _, _, _, rfl⟩ := transferFrom_accepted moved
  exact references_eq rfl rfl

theorem citation_aside {call : Call} (aside : call.aside = true) :
    call.citation = .quiet ∧ call.unchecked = none := by
  cases call <;> first | exact ⟨rfl, rfl⟩ | cases aside

theorem Accepted.notes {call : Call} (accepted : Accepted evm world msg state call state') :
    references state' = (references state).note call.citation := by
  cases accepted with
  | aside aside same => rw [(citation_aside aside).1, same.references, References.note_quiet]
  | createSRR creates =>
      exact (passOn_references _ _ _ _).trans (createRecord_references creates)
  | createSRRFromBulk _ _ creates =>
      exact (passOn_references _ _ _ _).trans (createRecord_references creates)
  | addHistory _ _ _ => rfl
  | setLockExternalTransfer _ _ _ => exact references_eq rfl rfl
  | transferFrom moved => exact transferFrom_references moved
  | safeTransferFrom moved => exact transferFrom_references moved
  | approve _ _ => exact references_eq rfl rfl
  | setApprovalForAll => exact references_eq rfl rfl
  | transferFromWithProvenance _ _ => rfl
  | transferFromWithProvenanceFromBulk _ _ => rfl
  | approveSRRByCommitment _ approved => exact approveByCommitment_references approved
  | approveSRRByCommitmentFromBulk _ _ approved => exact approveByCommitment_references approved
  | cancelSRRCommitment _ => exact clear_references state _
  | transferSRRByReveal revealed => exact reveal_references revealed

theorem approveByCommitment_named {customHistoryId : Uint256} {commitment : Bytes32}
    {historyMetadataHash : Bytes} {signer : Address}
    (approved : approveByCommitment world state tokenId commitment historyMetadataHash
      customHistoryId signer = .ok state') :
    ∀ id ∈ (historyOf customHistoryId).toList, (getStartrailRegistry world state).Names id := by
  obtain ⟨known, _⟩ := approveByCommitment_accepted approved
  by_cases absent : customHistoryId = 0
  · simp [historyOf_absent absent]
  · intro id given
    rw [historyOf_given absent] at given
    cases List.mem_singleton.mp given
    intro nameless
    exact known ⟨BitVec.toNat_pos_of_ne_zero absent, nameless⟩

theorem Accepted.given {call : Call} (accepted : Accepted evm world msg state call state') :
    (∀ id ∈ call.citation.given, (getStartrailRegistry world state).Names id) ↔
      ∀ id, call.unchecked = some id → (getStartrailRegistry world state).Names id := by
  cases accepted with
  | aside aside _ =>
      obtain ⟨silent, checked⟩ := citation_aside aside
      simp [silent, checked, Citation.given]
  | transferFromWithProvenance _ _ => exact historyOf_known
  | transferFromWithProvenanceFromBulk _ _ => exact historyOf_known
  | approveSRRByCommitment _ approved =>
      refine ⟨fun _ _ absent => absurd absent (Option.not_mem_none _), fun _ => ?_⟩
      exact approveByCommitment_named approved
  | approveSRRByCommitmentFromBulk _ _ approved =>
      refine ⟨fun _ _ absent => absurd absent (Option.not_mem_none _), fun _ => ?_⟩
      exact approveByCommitment_named approved
  | addHistory _ _ known =>
      refine ⟨fun _ _ absent => absurd absent (Option.not_mem_none _), fun _ id cites => ?_⟩
      exact requireCustom_eq_ok.mp (forEach_all known id cites)
  | _ => simp [Call.citation, Call.unchecked, Citation.given]

section Transactions

variable {transaction : Transaction} {Known : Uint256 → Prop}

theorem entry_within (ran : (entry evm transaction state).front = some state')
    (asks : (getStartrailRegistry transaction.world state).Names = Known)
    (vouched : ∀ id, transaction.call.unchecked = some id → Known id)
    (within : (references state).Within Known) :
    (references state').Within Known ∧
      References.Grounded Known (references state) (references state') := by
  subst asks
  have accepted := entry_accepted ran
  have given := accepted.given.mpr vouched
  rw [accepted.notes]
  exact ⟨within.note given, (References.grounded_note_iff within).mpr given⟩

theorem entry_vouched (ran : (entry evm transaction state).front = some state')
    (asks : (getStartrailRegistry transaction.world state).Names = Known)
    (within : (references state).Within Known)
    (grounded : References.Grounded Known (references state) (references state')) :
    ∀ id, transaction.call.unchecked = some id → Known id := by
  subst asks
  have accepted := entry_accepted ran
  rw [accepted.notes] at grounded
  exact accepted.given.mp ((References.grounded_note_iff within).mp grounded)

end Transactions

end Collection

/-- The registry and the collections, by their addresses. -/
structure System where
  registry : Registry.State
  collections : Address → Collection.State

namespace System

def blank : System := ⟨Registry.State.blank, fun _ => Collection.State.blank⟩

def registryPart : Part System Registry.State where
  get := System.registry
  put registry system := { system with registry := registry }
  get_put _ _ := rfl
  put_get _ := rfl

def collectionPart (address : Address) : Part System Collection.State where
  get system := system.collections address
  put collection system :=
    { system with collections := Function.update system.collections address collection }
  get_put _ _ := Function.update_self _ _ _
  put_get system := by simp

inductive Query where
  | registry (query : Registry.Query)
  | collection (address : Address) (query : Collection.Query)

inductive Transaction where
  | registry (transaction : Registry.Transaction)
  | collection (address : Address) (transaction : Collection.Transaction)

def entry (deployment : Registry.Deployment) (transaction : Transaction) (system : System) :
    Outcome Revert System Query Reply System :=
  match transaction with
  | .registry transaction =>
      (Registry.entry deployment transaction system.registry).within registryPart .registry system
  | .collection address transaction =>
      (Collection.entry deployment.evm transaction (system.collections address)).within
        (collectionPart address) (.collection address) system

/-- A collection asks this registry. -/
def Legal (deployment : Registry.Deployment) : Transaction → System → Prop
  | .registry transaction, system => Registry.Legal deployment transaction system.registry
  | .collection address transaction, system =>
      Collection.getStartrailRegistry transaction.world (system.collections address) =
        Registry.subset system.registry

def Named (system : System) : Uint256 → Prop := Registry.Named system.registry

/-- Every custom history that a transaction names unchecked exists. -/
def Vouched (deployment : Registry.Deployment) : Transaction → System → Prop
  | .registry transaction, system => Registry.Vouched deployment transaction system.registry
  | .collection _ transaction, system =>
      ∀ id, transaction.call.unchecked = some id → Named system id

/-- Every event and every approval so far has a custom history that exists, if it has one. -/
structure Sound (system : System) : Prop where
  catalogued : Registry.Catalogued system.registry
  registry : (Registry.references system.registry).Within (Named system)
  collections : ∀ address,
    (Collection.references (system.collections address)).Within (Named system)

/-- The events from one to the other name only custom histories that exist before. -/
structure Grounded (before after : System) : Prop where
  registry : References.Grounded (Named before) (Registry.references before.registry)
    (Registry.references after.registry)
  collections : ∀ address, References.Grounded (Named before)
    (Collection.references (before.collections address))
    (Collection.references (after.collections address))

variable {deployment : Registry.Deployment} {transaction : Transaction} {system system' : System}

theorem entry_trailing (deployment : Registry.Deployment) (transaction : Transaction)
    (system : System) : (entry deployment transaction system).Trailing := by
  cases transaction with
  | registry transaction => exact (Registry.perform_trailing _ _ _ _).within system
  | collection address transaction =>
      exact (Collection.entry_trailing deployment.evm transaction _).within system

theorem legal_registry {transaction : Registry.Transaction} :
    Legal deployment (.registry transaction) system ↔
      transaction.msg.sender ≠ deployment.self := Iff.rfl

theorem Legal.asks {address : Address} {transaction : Collection.Transaction}
    (legal : Legal deployment (.collection address transaction) system) :
    (Collection.getStartrailRegistry transaction.world (system.collections address)).Names =
      Named system :=
  congrArg StartrailRegistrySubset.Names legal

theorem entry_sound (sound : Sound system) (legal : Legal deployment transaction system)
    (vouched : Vouched deployment transaction system)
    (ran : (entry deployment transaction system).front = some system') :
    Sound system' ∧ Grounded system system' := by
  cases transaction with
  | registry transaction =>
      rw [entry, Outcome.front_within] at ran
      obtain ⟨state', executed, rfl⟩ := Option.map_eq_some_iff.mp ran
      obtain ⟨grows, within, grounded⟩ := Registry.entry_within executed vouched sound.registry
      obtain ⟨catalogued, kept⟩ := grows sound.catalogued
      exact ⟨⟨catalogued, within.mono kept, fun address => (sound.collections address).mono kept⟩,
        grounded, fun _ => .refl _⟩
  | collection address transaction =>
      rw [entry, Outcome.front_within] at ran
      obtain ⟨state', executed, rfl⟩ := Option.map_eq_some_iff.mp ran
      obtain ⟨within, grounded⟩ :=
        Collection.entry_within executed legal.asks vouched (sound.collections address)
      refine ⟨⟨sound.catalogued, sound.registry, fun other => ?_⟩, .refl _, fun other => ?_⟩
      · change (Collection.references (Function.update system.collections address state'
          other)).Within (Named system)
        by_cases same : other = address
        · subst other
          rwa [Function.update_self]
        · rw [Function.update_of_ne same]
          exact sound.collections other
      · by_cases same : other = address
        · subst other
          simpa [collectionPart] using grounded
        · simpa [collectionPart, same] using References.Grounded.refl _

theorem entry_vouched (sound : Sound system) (legal : Legal deployment transaction system)
    (ran : (entry deployment transaction system).front = some system')
    (grounded : Grounded system system') : Vouched deployment transaction system := by
  cases transaction with
  | registry transaction =>
      rw [entry, Outcome.front_within] at ran
      obtain ⟨state', executed, rfl⟩ := Option.map_eq_some_iff.mp ran
      exact Registry.entry_vouched executed sound.registry grounded.registry
  | collection address transaction =>
      rw [entry, Outcome.front_within] at ran
      obtain ⟨state', executed, rfl⟩ := Option.map_eq_some_iff.mp ran
      refine Collection.entry_vouched executed legal.asks (sound.collections address) ?_
      simpa [collectionPart] using grounded.collections address

theorem blank_sound : Sound blank := by
  have none_ : historyOf 0 = none := historyOf_absent rfl
  refine ⟨fun id named => absurd rfl named, ⟨?_, nofun⟩, fun address => ⟨?_, nofun⟩⟩
  · intro tokenId id kept
    cases none_.symm.trans kept
  · intro tokenId id kept
    cases none_.symm.trans kept

theorem histories_exist (deployment : Registry.Deployment) {origin : System}
    (sound : Sound origin) {config : Config Revert System Query Reply Transaction}
    (reach : Reach (entry deployment) (fun transaction system =>
      Legal deployment transaction system ∧ Vouched deployment transaction system) origin config) :
    Sound config.now.state ∧
      ∀ transaction, Legal deployment transaction config.now.state →
        (entry deployment transaction config.now.state).Trailing ∧
        ∀ system', (entry deployment transaction config.now.state).front = some system' →
          (Grounded config.now.state system' ↔
            Vouched deployment transaction config.now.state) := by
  have kept : Sound config.now.state := by
    refine Reach.invariant Sound sound ?_ reach
    rintro transaction system ⟨legal, vouched⟩ sound
    exact (entry_trailing deployment transaction system).keeps fun system' ran =>
      (entry_sound sound legal vouched ran).1
  refine ⟨kept, fun transaction legal => ⟨entry_trailing deployment transaction _, ?_⟩⟩
  intro system' ran
  exact ⟨entry_vouched kept legal ran, fun vouched => (entry_sound kept legal vouched ran).2⟩

section Samples

def registryCall (sender : Address) (call : Registry.Call) : Transaction :=
  .registry (Registry.sampleCall sender call)

def createdRun : Config Revert System Query Reply Transaction :=
  (Config.start blank).enter (entry Registry.sampleDeployment) (.registry Registry.createSample)

def cataloguedRun : Config Revert System Query Reply Transaction :=
  let enter := Config.enter (entry Registry.sampleDeployment)
  enter (registryCall 0xad317 (.writeCustomHistory (ascii "Show") 1 (.metadataDigest 0)))
    (enter (registryCall 0xad317 (.addCustomHistoryType (ascii "exhibition"))) createdRun)

def transferSample (customHistoryId : Uint256) : Transaction :=
  registryCall 0xa11ce
    (.transferFromWithProvenance 0xb0b Registry.recordId [] customHistoryId false)

theorem registryCall_vouched {sender : Address} {call : Registry.Call} (outside : sender ≠ 0x5e1f)
    (direct : ∀ userAddress callData sigR sigS sigV,
      call ≠ .executeMetaTransaction userAddress callData sigR sigS sigV)
    (checked : call.unchecked = none) (system : System) :
    Legal Registry.sampleDeployment (registryCall sender call) system ∧
      Vouched Registry.sampleDeployment (registryCall sender call) system := by
  refine ⟨outside, Registry.vouched_direct direct ?_⟩
  intro id unchecked
  cases checked.symm.trans unchecked

set_option maxRecDepth 8000 in
theorem cataloguedRun_exist :
    ∃ system', (entry Registry.sampleDeployment (transferSample 1) cataloguedRun.now.state).front =
        some system' ∧ Grounded cataloguedRun.now.state system' := by
  have reach : Reach (entry Registry.sampleDeployment) (fun transaction system =>
      Legal Registry.sampleDeployment transaction system ∧
        Vouched Registry.sampleDeployment transaction system) blank cataloguedRun :=
    .enter _ (.enter _ (.enter _ .start (registryCall_vouched (by decide) (by simp) rfl _))
      (registryCall_vouched (by decide) (by simp) rfl _))
      (registryCall_vouched (by decide) (by simp) rfl _)
  have ran : ∃ system', (entry Registry.sampleDeployment (transferSample 1)
      cataloguedRun.now.state).front = some system' := by
    rw [← Option.isSome_iff_exists]
    decide
  obtain ⟨system', ran⟩ := ran
  obtain ⟨_, exact_⟩ := histories_exist Registry.sampleDeployment blank_sound reach
  obtain ⟨_, grounded⟩ := exact_ (transferSample 1) (legal_registry.mpr (by decide))
  refine ⟨system', ran, (grounded system' ran).mpr (Registry.vouched_direct ?_ ?_)⟩
  · simp [Registry.sampleCall]
  · rintro id ⟨⟩
    decide

set_option maxRecDepth 8000 in
theorem createdRun_dangling :
    ¬∀ config, Reach (entry Registry.sampleDeployment) (Legal Registry.sampleDeployment) blank
        config →
      ∀ transaction system', Legal Registry.sampleDeployment transaction config.now.state →
        (entry Registry.sampleDeployment transaction config.now.state).front = some system' →
        Grounded config.now.state system' := by
  intro grounded
  have reach : Reach (entry Registry.sampleDeployment) (Legal Registry.sampleDeployment) blank
      createdRun := .enter _ .start (legal_registry.mpr (by decide))
  have cites : ((entry Registry.sampleDeployment (transferSample 7)
      createdRun.now.state).front.map fun system => (Registry.references system.registry).cited) =
        some [7] := by decide
  obtain ⟨system', ran, cited⟩ := Option.map_eq_some_iff.mp cites
  obtain ⟨fresh, grown, known⟩ := (grounded createdRun reach (transferSample 7) system'
    (legal_registry.mpr (by decide)) ran).registry
  have before : (Registry.references createdRun.now.state.registry).cited = [] := by decide
  rw [cited, before, List.append_nil] at grown
  have named := known 7 (grown ▸ List.mem_singleton.mpr rfl)
  exact absurd named (by unfold Named; decide)

end Samples

end System

end Startrail
