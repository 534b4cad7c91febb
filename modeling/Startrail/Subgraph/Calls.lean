import Startrail.Registry.MetaTransactions
import Startrail.Subgraph.Sources

/-!
What the calls of both contracts do to a token, as far as the subgraph is concerned. `Call.act`
reads it off the call, and `Accepted.does` says that an accepted call does this and logs what the
subgraph takes for it.
-/

namespace Startrail

open Subgraph

namespace Registry

/-- What a call does to which token. -/
def Call.act (evm : Evm) : Call → Option (Uint256 × Act)
  | .createSRRFromLicensedUser _ artistAddress metadataCID _ to_ _ _ =>
      some (generate evm metadataCID artistAddress, .create (to_ != 0))
  | .createSRRFromBulk _ artistAddress metadataCID _ _ to_ _ _ =>
      some (generate evm metadataCID artistAddress, .create (to_ != 0))
  | .cancelSRRCommitment tokenId => some (tokenId, .cancel none)
  | .transferSRRByReveal _ _ tokenId _ => some (tokenId, .reveal)
  | call => (call.handover.map fun (tokenId, _) => (tokenId, .hand true)) <|>
      call.approval.map fun (tokenId, approval) => (tokenId, .approve approval none)

def contract (evm : Evm) (address : Address) : Contract State Event where
  source := registrySource evm address
  logs := State.logs
  Owned state tokenId := state._tokenOwner tokenId ≠ 0
  stored := commitmentOf

variable {deployment : Deployment} {world : World} {msg msg' : Msg} {call call' : Call}
  {state state' middle : State} {evm : Evm} {address : Address} {tokenId : Uint256}
  {fresh logs : List Event}

/-- A call gives a record an empty CID. -/
def Call.blanks : Call → Bool
  | .updateSRRMetadata _ metadataCID => metadataCID == []
  | _ => false

/-- An event whose handler needs no record and no digest. -/
def Easy (event : Event) : Prop :=
  ∀ evm address, (registrySource evm address).requires event = none ∧
    (registrySource evm address).digest event ≠ some []

/-- Events that tell the subgraph nothing of a commitment, and are easy to handle. -/
def Unnoted (fresh : List Event) : Prop :=
  ∀ event ∈ fresh, registryNote event = none ∧ Easy event

theorem Unnoted.silent (unnoted : Unnoted fresh) : fresh.filterMap registryNote = [] :=
  List.filterMap_eq_nil_iff.mpr fun event belongs => (unnoted event belongs).1

theorem Unnoted.easy (unnoted : Unnoted fresh) : ∀ event ∈ fresh, Easy event :=
  fun event belongs => (unnoted event belongs).2

theorem fed_append (easy : ∀ event ∈ fresh, Easy event)
    (fed : (registrySource evm address).Fed logs) :
    (registrySource evm address).Fed (fresh ++ logs) := by
  induction fresh with
  | nil => exact fed
  | cons event fresh ih =>
      obtain ⟨unneeded, described⟩ := easy event List.mem_cons_self evm address
      refine ⟨ih fun other belongs => easy other (List.mem_cons_of_mem _ belongs), described, ?_⟩
      intro tokenId required
      rw [unneeded] at required
      cases required

theorem easy_of {event : Event}
    (unneeded : ∀ evm address, (registrySource evm address).requires event = none)
    (undescribed : ∀ evm address, (registrySource evm address).digest event = none) :
    Easy event := by
  intro evm address
  refine ⟨unneeded evm address, ?_⟩
  rw [undescribed]
  nofun

theorem reports_unnoted (described : call.blanks = false)
    (told : ∀ event ∈ fresh, event.aside = true ∧
      ∀ tokenId metadataCID, event = .UpdateSRRMetadataCID tokenId metadataCID →
        call = .updateSRRMetadata tokenId metadataCID) : Unnoted fresh := by
  intro event belongs
  obtain ⟨quiet, given⟩ := told event belongs
  cases event with
  | UpdateSRRMetadataCID tokenId metadataCID =>
      obtain rfl := given tokenId metadataCID rfl
      refine ⟨rfl, fun _ _ => ⟨rfl, ?_⟩⟩
      intro empty
      exact absurd (Option.some.inj empty) (beq_eq_false_iff_ne.mp described)
  | ApprovalForAll | UpdateSRR | CreateCustomHistoryType | OwnershipTransferred | RoyaltiesSet =>
      exact ⟨rfl, easy_of (fun _ _ => rfl) fun _ _ => rfl⟩
  | _ => cases quiet

theorem unnoted_singleton {event : Event} (silent : registryNote event = none)
    (unneeded : ∀ evm address, (registrySource evm address).requires event = none)
    (undescribed : ∀ evm address, (registrySource evm address).digest event = none) :
    Unnoted [event] :=
  List.forall_mem_singleton.mpr ⟨silent, easy_of unneeded undescribed⟩

theorem quiet_does (same : book state' = book state) (grown : state'.logs = fresh ++ state.logs)
    (unnoted : Unnoted fresh) : (contract evm address).Does none state state' := by
  have owners : state'._tokenOwner = state._tokenOwner := congrArg Book.owner same
  refine .quiet grown (fed_append unnoted.easy) unnoted.silent (congrArg Book.record same) ?_
  intro tokenId owned
  change state._tokenOwner tokenId ≠ 0
  rwa [← owners]

theorem transfer_logs {from_ to_ : Address}
    (moved : _transfer state from_ to_ tokenId = .ok state') :
    state'.logs = [.Transfer from_ to_ tokenId, .Approval from_ 0 tokenId] ++ state.logs := by
  obtain ⟨_, _, _, _, _, rfl⟩ := transfer_accepted moved
  rfl

theorem transfer_easy {from_ to_ : Address} :
    ∀ event ∈ [Event.Transfer from_ to_ tokenId, .Approval from_ 0 tokenId], Easy event := by
  intro event belongs
  rcases List.mem_pair.mp belongs with rfl | rfl
  · exact easy_of (fun _ _ => rfl) fun _ _ => rfl
  · exact easy_of (fun _ _ => rfl) fun _ _ => rfl

theorem handed_note {from_ to_ : Address} (given : from_ ≠ 0) :
    registryNote (.Transfer from_ to_ tokenId) = some (tokenId, .handed) :=
  congrArg (fun note => some (tokenId, note)) (if_neg given)

/-- A transfer, after what a call has done to the commitments and logged before it. -/
theorem transfer_does {from_ to_ : Address} {act : Act}
    (moved : _transfer middle from_ to_ tokenId = .ok state')
    (owners : middle._tokenOwner = state._tokenOwner)
    (grown : middle.logs = fresh ++ state.logs) (unnoted : Unnoted fresh)
    (noted : act.notes (commitmentOf state tokenId) = [.handed]) (moves : act.moves = true)
    (stores : commitmentOf middle = Function.update (commitmentOf state) tokenId
      (act.stores (commitmentOf state tokenId))) :
    (contract evm address).Does (some (tokenId, act)) state state' := by
  obtain ⟨owned, owner, _, owners', records⟩ := transfer_effect moved
  have grown' := transfer_logs moved
  rw [grown, ← List.append_assoc] at grown'
  have given : from_ ≠ 0 := owner ▸ owned
  have moved' : state'._tokenOwner = Function.update state._tokenOwner tokenId to_ := by
    rw [← owners]
    exact owners'.owner
  refine .on grown' (fed_append ?_) ?_ ?_ (fun _ => ?_) fun _ => Act.moved_owner moved' moves
  · exact List.forall_mem_append.mpr ⟨transfer_easy, unnoted.easy⟩
  · change List.filterMap registryNote _ = List.map _ (act.notes (commitmentOf state tokenId))
    rw [List.filterMap_append, unnoted.silent, noted]
    simp only [List.filterMap_cons, handed_note given]
    rfl
  · exact records.trans stores
  · change state._tokenOwner tokenId ≠ 0
    rw [← owners, owner]
    exact given

theorem provenance_unnoted {from_ to_ : Address} {historyMetadataHash : Bytes}
    {customHistoryId : Uint256} {isIntermediary : Bool} :
    ∃ fresh, (_historyProvenance state tokenId from_ to_ historyMetadataHash customHistoryId
      isIntermediary).logs = fresh ++ state.logs ∧ Unnoted fresh :=
  ⟨[_], rfl, unnoted_singleton rfl (fun _ _ => rfl) fun _ _ => rfl⟩

theorem hand_does {from_ to_ : Address} (moved : _transfer middle from_ to_ tokenId = .ok state')
    (owners : middle._tokenOwner = state._tokenOwner)
    (grown : ∃ fresh, middle.logs = fresh ++ state.logs ∧ Unnoted fresh)
    (records : commitmentOf middle = commitmentOf state) :
    (contract evm address).Does (some (tokenId, .hand true)) state state' := by
  obtain ⟨fresh, grown, unnoted⟩ := grown
  refine transfer_does moved owners grown unnoted rfl rfl ?_
  rw [records]
  exact (Function.update_eq_self _ _).symm

theorem reveal_does {to_ : Address} {reveal : Bytes32} {isIntermediary : Bool}
    (revealed : transferSRRByReveal deployment state to_ reveal tokenId isIntermediary =
      .ok state') :
    (contract evm address).Does (some (tokenId, .reveal)) state state' := by
  obtain ⟨_, _, moved⟩ := transferSRRByReveal_accepted revealed
  refine transfer_does moved rfl rfl (unnoted_singleton rfl (fun _ _ => rfl) fun _ _ => rfl)
    rfl rfl ?_
  exact clearSRRCommitment_record tokenId

theorem cancel_does (owned : state._tokenOwner tokenId ≠ 0) :
    (contract evm address).Does (some (tokenId, .cancel none)) state
      ((_clearSRRCommitment state tokenId).emit (.SRRCommitmentCancelled tokenId)) := by
  have grown : ((_clearSRRCommitment state tokenId).emit (.SRRCommitmentCancelled tokenId)).logs =
      [.SRRCommitmentCancelled tokenId] ++ state.logs := rfl
  refine .on grown (fed_append ?_) rfl (clearSRRCommitment_record tokenId) (fun _ => owned)
    fun _ => Or.inl
  exact List.forall_mem_singleton.mpr (easy_of (fun _ _ => rfl) fun _ _ => rfl)

theorem approve_logs {customHistoryId : Uint256} {commitment : Bytes32}
    {historyMetadataHash : Bytes}
    (approved : _approveSRRByCommitment state tokenId commitment historyMetadataHash
      customHistoryId = .ok state') :
    state'.logs = (.SRRCommitment tokenId (state._tokenOwner tokenId) commitment
      (historyOf customHistoryId) ::
        if (commitmentOf state tokenId).commitment ≠ 0 then [.SRRCommitmentCancelled tokenId]
        else []) ++ state.logs := by
  have prior : (cancelPriorApproval state tokenId).logs =
      (if (commitmentOf state tokenId).commitment ≠ 0 then [.SRRCommitmentCancelled tokenId]
        else []) ++ state.logs := by
    unfold cancelPriorApproval
    split
    · rename_i given
      rw [if_pos (show (commitmentOf state tokenId).commitment ≠ 0 from given)]
      rfl
    · rename_i absent
      rw [if_neg (show ¬(commitmentOf state tokenId).commitment ≠ 0 from absent)]
      rfl
  rw [List.cons_append, ← prior]
  obtain ⟨_, _, rfl, ⟨absent, rfl⟩ | ⟨given, rfl⟩⟩ := approveSRRByCommitment_accepted approved
  · rw [absent]
    rfl
  · have told : historyOf customHistoryId = some customHistoryId := if_pos given
    rw [told]
    rfl

theorem approve_does {customHistoryId : Uint256} {commitment : Bytes32}
    {historyMetadataHash : Bytes}
    (approved : _approveSRRByCommitment state tokenId commitment historyMetadataHash
      customHistoryId = .ok state') :
    (contract evm address).Does
      (some (tokenId, .approve ⟨commitment, historyMetadataHash, customHistoryId⟩ none))
      state state' := by
  obtain ⟨record, owned, owners, records, _⟩ := approveSRRByCommitment_effect approved
  have stored := getSRRCommitment_commitmentOf (approve_commitment approved)
  have records' : commitmentOf state' = Function.update (commitmentOf state) tokenId record :=
    records
  have same : record = commitmentOf state' tokenId := by
    rw [records', Function.update_self]
  rw [same, stored] at records'
  refine .on (approve_logs approved) (fed_append ?_) ?_ records' (fun _ => owned) ?_
  · intro event belongs
    rcases List.mem_cons.mp belongs with rfl | cancelled
    · exact easy_of (fun _ _ => rfl) fun _ _ => rfl
    · split at cancelled
      · cases List.mem_singleton.mp cancelled
        exact easy_of (fun _ _ => rfl) fun _ _ => rfl
      · cases cancelled
  · change List.filterMap registryNote _ = List.map _ (Act.notes (commitmentOf state tokenId) _)
    rw [Act.notes]
    split
    · rfl
    · rfl
  · intro other owned'
    change state._tokenOwner other ≠ 0 ∨ _
    have unchanged : state'._tokenOwner = state._tokenOwner := owners
    exact Or.inl (unchanged ▸ owned')

theorem mint_logs {to_ : Address} (minted : _mint state to_ tokenId = .ok state') :
    state'.logs = .Transfer 0 to_ tokenId :: state.logs := by
  obtain ⟨_, _, _, rfl⟩ := mint_accepted minted
  rfl

theorem createSRR_logs {isPrimaryIssuer lockExternalTransfer_ : Bool}
    {artistAddress sender royaltyReceiver : Address} {metadataCID : Bytes}
    {royaltyBasisPoints : Uint16}
    (created : _createSRR deployment state isPrimaryIssuer artistAddress metadataCID sender
      lockExternalTransfer_ royaltyReceiver royaltyBasisPoints = .ok (state', tokenId)) :
    tokenId = generate deployment.evm metadataCID artistAddress ∧ metadataCID ≠ [] ∧
    ∃ fresh, state'.logs = fresh ++ .CreateSRR tokenId isPrimaryIssuer artistAddress sender
      metadataCID lockExternalTransfer_ :: .Transfer 0 sender tokenId :: state.logs ∧
      Unnoted fresh := by
  obtain ⟨given, generated, minted, _, mint, rfl, royalty⟩ := createSRR_accepted created
  have first := mint_logs mint
  rcases royalty with ⟨_, saved, royalties, rfl⟩ | ⟨_, rfl⟩
  · obtain ⟨_, _, _, rfl⟩ := saveRoyalties_accepted royalties
    refine ⟨generated.symm, given, [.RoyaltiesSet tokenId ⟨royaltyReceiver, royaltyBasisPoints⟩],
      ?_, unnoted_singleton rfl (fun _ _ => rfl) fun _ _ => rfl⟩
    rw [← first]
    rfl
  · refine ⟨generated.symm, given, [], ?_, List.forall_mem_nil _⟩
    rw [← first]
    rfl

theorem created_fed {isPrimaryIssuer lockExternalTransfer : Bool} {artistAddress issuer : Address}
    {metadataCID : Bytes} (given : metadataCID ≠ []) (fed : (registrySource evm address).Fed logs) :
    (registrySource evm address).Fed (.CreateSRR tokenId isPrimaryIssuer artistAddress issuer
      metadataCID lockExternalTransfer :: .Transfer 0 issuer tokenId :: logs) := by
  refine ⟨⟨fed, nofun, nofun⟩, fun empty => given (Option.some.inj empty), ?_⟩
  intro required needs
  cases needs
  have minted : (registrySource evm address).note (.Transfer 0 issuer tokenId) =
      some (tokenId, .minted) := rfl
  rw [DataSource.notes, DataSource.notesOf_cons_some minted, if_pos (decide_eq_true rfl)]
  rfl

theorem createSRRFor_does {isPrimaryIssuer lockExternalTransfer_ : Bool}
    {artistAddress issuerAddress to_ royaltyReceiver : Address} {metadataCID : Bytes}
    {royaltyBasisPoints : Uint16}
    (created : createSRRFor deployment state isPrimaryIssuer artistAddress metadataCID issuerAddress
      lockExternalTransfer_ to_ royaltyReceiver royaltyBasisPoints = .ok (state', tokenId)) :
    (contract evm address).Does
      (some (generate deployment.evm metadataCID artistAddress, .create (to_ != 0)))
      state state' := by
  obtain ⟨owner, absent, _, moved, records⟩ := createSRRFor_effect created
  have moved' : state'._tokenOwner = Function.update state._tokenOwner tokenId owner := moved.owner
  obtain ⟨middle, first, ending⟩ := createSRRFor_accepted created
  obtain ⟨_, issuer, _⟩ := createSRR_effect first
  obtain ⟨generated, given, fresh, grown, unnoted⟩ := createSRR_logs first
  replace grown := grown.trans (List.append_assoc fresh [_, _] state.logs).symm
  have stores : commitmentOf state' = Function.update (commitmentOf state) tokenId
      (commitmentOf state tokenId) := records.trans (Function.update_eq_self _ _).symm
  rcases ending with ⟨passed, transferred⟩ | ⟨kept, rfl⟩
  · rw [← generated, show (to_ != 0) = true from bne_iff_ne.mpr passed]
    have grown' := transfer_logs transferred
    rw [grown, ← List.append_assoc] at grown'
    refine .on grown' ?_ ?_ stores nofun fun _ => Act.moved_owner moved' rfl
    · intro fed
      rw [List.append_assoc, List.append_assoc]
      exact fed_append transfer_easy (fed_append unnoted.easy (created_fed given fed))
    · change List.filterMap registryNote _ = _
      rw [List.filterMap_append, List.filterMap_append, unnoted.silent]
      simp only [List.filterMap_cons, handed_note issuer]
      rfl
  · rw [← generated, show (to_ != 0) = false from bne_eq_false_iff_eq.mpr kept]
    refine .on grown ?_ ?_ stores nofun fun _ => Act.moved_owner moved' rfl
    · intro fed
      rw [List.append_assoc]
      exact fed_append unnoted.easy (created_fed given fed)
    · change List.filterMap registryNote _ = _
      rw [List.filterMap_append, unnoted.silent]
      rfl

theorem act_aside (aside : call.aside = true) : call.act evm = none := by
  cases call <;> first | rfl | cases aside

/-- A call that gives no record an empty CID. -/
theorem Accepted.does (accepted : Accepted deployment world msg state call state')
    (described : call.blanks = false) :
    (contract deployment.evm address).Does (call.act deployment.evm) state state' := by
  cases accepted with
  | aside aside same reports =>
      obtain ⟨fresh, grown, told⟩ := reports
      rw [act_aside aside]
      exact quiet_does same.book grown (reports_unnoted described told)
  | createSRRFromLicensedUser _ creates => exact createSRRFor_does creates
  | createSRRFromBulk _ creates => exact createSRRFor_does creates
  | approveSRRByCommitmentFromBulk _ _ approved => exact approve_does approved
  | approveSRRByCommitment _ approved => exact approve_does approved
  | approveSRRByCommitmentWithHistory _ _ approved => exact approve_does approved
  | cancelSRRCommitment allowed =>
      simp only [onlySRROwnerOrAdministrator, bind_eq_ok, ownerOf_eq_ok] at allowed
      obtain ⟨_, ⟨owned, _⟩, _⟩ := allowed
      exact cancel_does owned
  | transferSRRByReveal revealed => exact reveal_does revealed
  | addHistory _ _ _ _ =>
      exact quiet_does (book_emit rfl) rfl (unnoted_singleton rfl (fun _ _ => rfl) fun _ _ => rfl)
  | @writeCustomHistory name customHistoryTypeId metadata _ _ _ =>
      exact quiet_does ((book_emit rfl).trans (customHistory_book _ name)) rfl
        (unnoted_singleton rfl (fun _ _ => rfl) fun _ _ => rfl)
  | @updateCustomHistory customHistoryId name metadata _ _ _ =>
      have unnoted : Unnoted [.UpdateCustomHistory customHistoryId name metadata] :=
        unnoted_singleton rfl (fun _ _ => rfl) fun _ _ => rfl
      refine quiet_does ((book_emit rfl).trans ?_) ?_ unnoted
      · split
        · exact customHistory_book customHistoryId name
        · rfl
      · split
        · rfl
        · rfl
  | transferFrom _ _ moved => exact hand_does moved rfl ⟨[], rfl, List.forall_mem_nil _⟩ rfl
  | safeTransferFrom _ _ moved => exact hand_does moved rfl ⟨[], rfl, List.forall_mem_nil _⟩ rfl
  | transferFromWithProvenance _ _ moved => exact hand_does moved rfl provenance_unnoted rfl
  | transferFromWithProvenanceFromBulk _ _ _ moved =>
      exact hand_does moved rfl provenance_unnoted rfl
  | approve _ _ _ _ =>
      exact quiet_does (book_emit rfl) rfl (unnoted_singleton rfl (fun _ _ => rfl) fun _ _ => rfl)
  | setLockExternalTransfer _ _ =>
      exact quiet_does (book_emit rfl) rfl (unnoted_singleton rfl (fun _ _ => rfl) fun _ _ => rfl)

theorem Runs.does (runs : Runs deployment state msg call middle msg' call') :
    (contract evm address).Does none state middle := by
  induction runs with
  | direct state msg call => exact quiet_does rfl (List.nil_append _).symm nofun
  | wrapped accepts _ _ ih =>
      obtain ⟨_, same, _⟩ := acceptMetaTransaction_effect accepts
      obtain ⟨_, _, _, rfl⟩ := acceptMetaTransaction_consumes accepts
      exact (quiet_does same rfl (unnoted_singleton rfl (fun _ _ => rfl) fun _ _ => rfl)).since ih

end Registry

namespace Collection

/-- Who is named as the sender of an approval. -/
def Call.approver (world : World) (msg : Msg) (state : State) : Call → Address
  | .approveSRRByCommitmentFromBulk signer _ _ _ _ => signer
  | _ => sender world msg state

/-- What a call does to which token. -/
def Call.act (evm : Evm) (world : World) (msg : Msg) (state : State) :
    Call → Option (Uint256 × Act)
  | .createSRR _ artistAddress metadataCID _ to_ _ _ =>
      some (generate evm metadataCID artistAddress, .create (to_ != 0))
  | .createSRRFromBulk _ artistAddress metadataCID _ _ to_ _ _ =>
      some (generate evm metadataCID artistAddress, .create (to_ != 0))
  | .cancelSRRCommitment tokenId => some (tokenId, .cancel (some (sender world msg state)))
  | .transferSRRByReveal _ _ tokenId _ => some (tokenId, .reveal)
  | call => (call.handover.map fun (tokenId, _) => (tokenId, .hand (exists_ state tokenId))) <|>
      call.approval.map fun (tokenId, approval) =>
        (tokenId, .approve approval (some (call.approver world msg state)))

def contract (evm : Evm) (address : Address) : Contract State Event where
  source := collectionSource evm address
  logs := State.logs
  Owned state tokenId := state.erc721.ownerOf tokenId ≠ 0
  stored := State.approvals

variable {evm : Evm} {world : World} {msg : Msg} {call : Call} {state state' middle : State}
  {address : Address} {tokenId : Uint256} {fresh : List Event}

/-- None of the events gives a record an empty CID. -/
def Described (evm : Evm) (address : Address) (fresh : List Event) : Prop :=
  ∀ event ∈ fresh, (collectionSource evm address).digest event ≠ some []

theorem fed_append {logs : List Event} (described : Described evm address fresh)
    (fed : (collectionSource evm address).Fed logs) :
    (collectionSource evm address).Fed (fresh ++ logs) := by
  induction fresh with
  | nil => exact fed
  | cons event fresh ih =>
      obtain ⟨latest, earlier⟩ := List.forall_mem_cons.mp described
      exact ⟨ih earlier, latest, nofun⟩

theorem quiet_does (owners : state'.erc721.ownerOf = state.erc721.ownerOf)
    (approvals : state'.approvals = state.approvals) (grown : state'.logs = fresh ++ state.logs)
    (silent : fresh.filterMap collectionNote = []) (described : Described evm address fresh) :
    (contract evm address).Does none state state' := by
  refine .quiet grown (fed_append described) silent approvals ?_
  intro tokenId owned
  change state.erc721.ownerOf tokenId ≠ 0
  rwa [← owners]

theorem logged_does {event : Event} (grown : state'.logs = event :: state.logs)
    (silent : collectionNote event = none)
    (undescribed : (collectionSource evm address).digest event = none)
    (owners : state'.erc721.ownerOf = state.erc721.ownerOf)
    (approvals : state'.approvals = state.approvals) :
    (contract evm address).Does none state state' := by
  refine quiet_does owners approvals (grown.trans (List.singleton_append).symm) ?_ ?_
  · rw [List.filterMap_cons, silent]
    rfl
  · refine List.forall_mem_singleton.mpr ?_
    rw [undescribed]
    nofun

/-- A transfer, after what a call has done to the commitments and logged before it. -/
theorem transfer_does {from_ to_ : Address} {act : Act}
    (owners : middle.erc721.ownerOf = state.erc721.ownerOf)
    (grown : middle.logs = fresh ++ state.logs) (silent : fresh.filterMap collectionNote = [])
    (described : Described evm address fresh)
    (noted : act.notes (state.approvals tokenId) = [if from_ = 0 then .minted else .handed])
    (moves : act.moves = true)
    (stores : middle.approvals = Function.update state.approvals tokenId
      (act.stores (state.approvals tokenId)))
    (exists_ : act.exists_ = true → state.erc721.ownerOf tokenId ≠ 0) :
    (contract evm address).Does (some (tokenId, act)) state
      (_transferFrom middle from_ to_ tokenId) := by
  have grown' : (_transferFrom middle from_ to_ tokenId).logs =
      (.Transfer from_ to_ tokenId :: fresh) ++ state.logs := by
    rw [List.cons_append, ← grown]
    rfl
  have moved : (_transferFrom middle from_ to_ tokenId).erc721.ownerOf =
      Function.update state.erc721.ownerOf tokenId to_ := by
    rw [← owners]
    rfl
  refine .on grown' (fed_append (List.forall_mem_cons.mpr ⟨nofun, described⟩)) ?_ stores exists_
    fun _ => Act.moved_owner moved moves
  change List.filterMap collectionNote _ = List.map _ (act.notes (state.approvals tokenId))
  rw [List.filterMap_cons, silent, noted]
  rfl

theorem hand_does {from_ to_ : Address} (owner : from_ = state.erc721.ownerOf tokenId)
    (owners : middle.erc721.ownerOf = state.erc721.ownerOf)
    (approvals : middle.approvals = state.approvals) (grown : middle.logs = fresh ++ state.logs)
    (silent : fresh.filterMap collectionNote = []) (described : Described evm address fresh) :
    (contract evm address).Does (some (tokenId, .hand (exists_ state tokenId))) state
      (_transferFrom middle from_ to_ tokenId) := by
  subst owner
  refine transfer_does owners grown silent described ?_ rfl ?_ ?_
  · unfold Act.notes exists_
    by_cases absent : state.erc721.ownerOf tokenId = 0
    · rw [if_pos absent, bne_eq_false_iff_eq.mpr absent]
      rfl
    · rw [if_neg absent, bne_iff_ne.mpr absent]
      rfl
  · rw [approvals]
    exact (Function.update_eq_self _ _).symm
  · exact bne_iff_ne.mp

theorem transferFrom_does {from_ to_ : Address}
    (moved : transferFrom msg state from_ to_ tokenId = .ok state') :
    (contract evm address).Does (some (tokenId, .hand (exists_ state tokenId))) state state' := by
  obtain ⟨_, _, _, owner, rfl⟩ := transferFrom_accepted moved
  exact hand_does owner rfl rfl (List.nil_append _).symm rfl (List.forall_mem_nil _)

theorem provenance_does {to_ : Address} {customHistoryId : Uint256} {historyMetadataHash : Bytes}
    {isIntermediary : Bool} {signer : Option Address} :
    (contract evm address).Does (some (tokenId, .hand (exists_ state tokenId))) state
      (_transferFrom (logProvenance state tokenId (state.erc721.ownerOf tokenId) to_
        historyMetadataHash customHistoryId isIntermediary signer)
          (state.erc721.ownerOf tokenId) to_ tokenId) := by
  have grown : (logProvenance state tokenId (state.erc721.ownerOf tokenId) to_ historyMetadataHash
      customHistoryId isIntermediary signer).logs = [_] ++ state.logs := rfl
  exact hand_does rfl rfl rfl grown rfl (List.forall_mem_singleton.mpr nofun)

theorem reveal_does {to_ : Address} {reveal : Bytes32} {isIntermediary : Bool}
    (revealed : transferSRRByReveal evm state to_ reveal tokenId isIntermediary = .ok state') :
    (contract evm address).Does (some (tokenId, .reveal)) state state' := by
  obtain ⟨given, _, rfl⟩ := transferSRRByReveal_accepted revealed
  have grown : (_clearSRRCommitment (logProvenance state tokenId (state.erc721.ownerOf tokenId) to_
      (state.approvals tokenId).historyMetadataHash (state.approvals tokenId).customHistoryId
      isIntermediary none) tokenId).logs = [_] ++ state.logs := rfl
  refine transfer_does rfl grown rfl (List.forall_mem_singleton.mpr nofun) ?_ rfl rfl
    fun _ => given
  rw [if_neg given]
  rfl

theorem signed_owned {toCheck : Address}
    (signed : onlyCollectionOwnerOrSRROwner state toCheck tokenId = .ok ()) :
    state.erc721.ownerOf tokenId ≠ 0 := by
  simp only [onlyCollectionOwnerOrSRROwner, bind_eq_ok, onlyExistingToken_eq_ok] at signed
  exact signed.choose_spec.1

theorem cancel_does {signer : Address} (owned : state.erc721.ownerOf tokenId ≠ 0) :
    (contract evm address).Does (some (tokenId, .cancel (some signer))) state
      ((_clearSRRCommitment state tokenId).emit (.SRRCommitmentCancelled tokenId signer)) := by
  have grown : ((_clearSRRCommitment state tokenId).emit
      (.SRRCommitmentCancelled tokenId signer)).logs =
        [.SRRCommitmentCancelled tokenId signer] ++ state.logs := rfl
  have described : Described evm address [.SRRCommitmentCancelled tokenId signer] :=
    List.forall_mem_singleton.mpr nofun
  exact .on grown (fed_append described) rfl rfl (fun _ => owned) fun _ => Or.inl

theorem approve_logs {customHistoryId : Uint256} {commitment : Bytes32}
    {historyMetadataHash : Bytes} {signer : Address}
    (approved : approveByCommitment world state tokenId commitment historyMetadataHash
      customHistoryId signer = .ok state') :
    state'.logs = (.SRRCommitment tokenId commitment (historyOf customHistoryId) signer ::
        if (state.approvals tokenId).commitment ≠ 0 then [.SRRCommitmentCancelled tokenId signer]
        else []) ++ state.logs := by
  have prior : (cancelPriorApproval state tokenId signer).logs =
      (if (state.approvals tokenId).commitment ≠ 0 then [.SRRCommitmentCancelled tokenId signer]
        else []) ++ state.logs := by
    unfold cancelPriorApproval
    split
    · rfl
    · rfl
  rw [List.cons_append, ← prior]
  obtain ⟨_, _, rfl, ⟨absent, rfl⟩ | ⟨given, rfl⟩⟩ := approveByCommitment_accepted approved
  · rw [absent]
    rfl
  · have told : historyOf customHistoryId = some customHistoryId := if_pos given
    rw [told]
    rfl

theorem approve_does {customHistoryId : Uint256} {commitment : Bytes32}
    {historyMetadataHash : Bytes} {signer toCheck : Address}
    (signed : onlyCollectionOwnerOrSRROwner state toCheck tokenId = .ok ())
    (approved : approveByCommitment world state tokenId commitment historyMetadataHash
      customHistoryId signer = .ok state') :
    (contract evm address).Does
      (some (tokenId, .approve ⟨commitment, historyMetadataHash, customHistoryId⟩ (some signer)))
      state state' := by
  obtain ⟨record, effect⟩ := @approveByCommitment_effect evm _ _ _ (.view []) _ _ _ _ _ _ signed
    approved
  obtain ⟨_, owners, records, _⟩ := effect.step
  have stored := approve_commitment approved
  have records' : state'.approvals = Function.update state.approvals tokenId record := records
  have same : record = state'.approvals tokenId := by
    rw [records', Function.update_self]
  rw [same, show state'.approvals tokenId = _ from stored] at records'
  have unchanged : state'.erc721.ownerOf = state.erc721.ownerOf := owners
  refine .on (approve_logs approved) (fed_append ?_) ?_ records' (fun _ => signed_owned signed) ?_
  · refine List.forall_mem_cons.mpr ⟨nofun, ?_⟩
    split
    · exact List.forall_mem_singleton.mpr nofun
    · exact List.forall_mem_nil _
  · change List.filterMap collectionNote _ = List.map _ (Act.notes (state.approvals tokenId) _)
    rw [Act.notes]
    split
    · rfl
    · rfl
  · intro other owned
    change state.erc721.ownerOf other ≠ 0 ∨ _
    exact Or.inl (unchanged ▸ owned)

theorem mint_logs {to_ : Address} (minted : _mint state to_ tokenId = .ok state') :
    state'.logs = .Transfer 0 to_ tokenId :: state.logs := by
  obtain ⟨_, _, rfl⟩ := mint_accepted minted
  rfl

theorem aside_silent (aside : ∀ event ∈ fresh, event.aside = true) :
    fresh.filterMap collectionNote = [] := by
  refine List.filterMap_eq_nil_iff.mpr fun event belongs => ?_
  have quiet := aside event belongs
  cases event <;> first | rfl | cases quiet

theorem aside_described (aside : ∀ event ∈ fresh, event.aside = true) :
    Described evm address fresh := by
  intro event belongs
  have quiet := aside event belongs
  cases event with
  | UpdateSRRMetadataDigest tokenId metadataCID =>
      intro empty
      exact absurd (Option.some.inj empty) (bne_iff_ne.mp quiet)
  | UpdateSRR | OwnershipTransferred | RoyaltiesSet => nofun
  | _ => cases quiet

theorem createRecord_logs {isPrimaryIssuer lockExternalTransfer fromBulk : Bool}
    {artistAddress issuerAddress royaltyReceiver : Address} {metadataCID : Bytes}
    {royaltyBasisPoints : Uint16}
    (creates : createRecord evm world msg state isPrimaryIssuer artistAddress metadataCID
      issuerAddress lockExternalTransfer royaltyReceiver royaltyBasisPoints fromBulk =
        .ok (state', tokenId)) :
    tokenId = generate evm metadataCID artistAddress ∧
    ∃ fresh, state'.logs = fresh ++ state.logs ∧
      fresh.filterMap collectionNote = [(tokenId, .minted)] ∧ Described evm address fresh := by
  have given := createRecord_described creates
  obtain ⟨generated, _, _, minted, mints, rfl⟩ := createRecord_accepted creates
  have first := mint_logs mints
  obtain ⟨fresh, grown, quiet⟩ := (upsertRoyalty_aside
    (minted.recorded tokenId ⟨isPrimaryIssuer, artistAddress, issuerAddress⟩ metadataCID
      lockExternalTransfer) tokenId royaltyReceiver royaltyBasisPoints).logs
  refine ⟨generated, fresh ++ [.CreateSRR tokenId ⟨isPrimaryIssuer, artistAddress, issuerAddress⟩
    metadataCID lockExternalTransfer, .Transfer 0 issuerAddress tokenId], ?_, ?_, ?_⟩
  · rw [grown, State.recorded, State.emit, (lockIf_same minted tokenId lockExternalTransfer).2,
      first, List.append_assoc]
    rfl
  · rw [List.filterMap_append, aside_silent quiet]
    rfl
  · refine List.forall_mem_append.mpr ⟨aside_described quiet, List.forall_mem_cons.mpr ⟨?_, ?_⟩⟩
    · exact fun empty => given (Option.some.inj empty)
    · exact List.forall_mem_singleton.mpr (fun empty => by cases empty)

/-- Both functions that create a record. -/
theorem create_does {isPrimaryIssuer lockExternalTransfer fromBulk : Bool}
    {artistAddress issuerAddress to_ royaltyReceiver : Address} {metadataCID : Bytes}
    {royaltyBasisPoints : Uint16}
    (creates : createRecord evm world msg state isPrimaryIssuer artistAddress metadataCID
      issuerAddress lockExternalTransfer royaltyReceiver royaltyBasisPoints fromBulk =
        .ok (middle, tokenId)) :
    (contract evm address).Does
      (some (generate evm metadataCID artistAddress, .create (to_ != 0)))
      state (passOn middle issuerAddress to_ tokenId) := by
  obtain ⟨missing, issuer, moved, records, _⟩ := createRecord_effect creates
  have passes : ∃ owner, owner ≠ 0 ∧ Moved (book state)
      (book (passOn middle issuerAddress to_ tokenId)) tokenId owner :=
    passOn_effect missing issuer moved
  obtain ⟨owner, _, passed⟩ := passes
  obtain ⟨generated, fresh, grown, noted, described⟩ :=
    @createRecord_logs evm _ _ _ _ address _ _ _ _ _ _ _ _ _ creates
  obtain ⟨approvals, _⟩ := passOn_same middle issuerAddress to_ tokenId
  have moved' : (passOn middle issuerAddress to_ tokenId).erc721.ownerOf =
      Function.update state.erc721.ownerOf tokenId owner := passed.owner
  have stores : (passOn middle issuerAddress to_ tokenId).approvals =
      Function.update state.approvals tokenId (state.approvals tokenId) :=
    (approvals.trans records).trans (Function.update_eq_self _ _).symm
  rw [← generated]
  unfold passOn at moved' stores ⊢
  split
  · rename_i given
    rw [if_pos given] at moved' stores
    rw [show (to_ != 0) = true from bne_iff_ne.mpr given]
    have grown' : (_transferFrom middle issuerAddress to_ tokenId).logs =
        (.Transfer issuerAddress to_ tokenId :: fresh) ++ state.logs := by
      rw [List.cons_append, ← grown]
      rfl
    have handed : collectionNote (.Transfer issuerAddress to_ tokenId) =
        some (tokenId, .handed) :=
      congrArg (fun note => some (tokenId, note)) (if_neg issuer)
    refine .on grown' (fed_append (List.forall_mem_cons.mpr ⟨nofun, described⟩)) ?_ stores nofun
      fun _ => Act.moved_owner moved' rfl
    change List.filterMap collectionNote _ = _
    simp only [List.filterMap_cons, handed, noted]
    rfl
  · rename_i kept
    rw [if_neg kept] at moved' stores
    rw [show (to_ != 0) = false from bne_eq_false_iff_eq.mpr (not_not.mp kept)]
    exact .on grown (fed_append described) noted stores nofun fun _ => Act.moved_owner moved' rfl

theorem act_aside (aside : call.aside = true) : call.act evm world msg state = none := by
  cases call <;> first | rfl | cases aside

theorem Accepted.does (accepted : Accepted evm world msg state call state') :
    (contract evm address).Does (call.act evm world msg state) state state' := by
  cases accepted with
  | aside aside same =>
      obtain ⟨fresh, grown, quiet⟩ := same.logs
      rw [act_aside aside]
      exact quiet_does same.owners same.approvals grown (aside_silent quiet) (aside_described quiet)
  | createSRR creates => exact create_does creates
  | createSRRFromBulk _ _ creates => exact create_does creates
  | addHistory _ _ _ => exact logged_does rfl rfl rfl rfl rfl
  | setLockExternalTransfer _ _ _ => exact logged_does rfl rfl rfl rfl rfl
  | transferFrom moved => exact transferFrom_does moved
  | safeTransferFrom moved => exact transferFrom_does moved
  | approve _ _ => exact logged_does rfl rfl rfl rfl rfl
  | setApprovalForAll => exact logged_does rfl rfl rfl rfl rfl
  | transferFromWithProvenance _ _ => exact provenance_does
  | transferFromWithProvenanceFromBulk _ _ => exact provenance_does
  | approveSRRByCommitment signed approved => exact approve_does signed approved
  | approveSRRByCommitmentFromBulk _ signed approved => exact approve_does signed approved
  | cancelSRRCommitment signed => exact cancel_does (signed_owned signed)
  | transferSRRByReveal revealed => exact reveal_does revealed

end Collection

end Startrail
