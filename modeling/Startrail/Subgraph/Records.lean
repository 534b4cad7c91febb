import Startrail.Registry.Records
import Startrail.Subgraph.Amendments
import Startrail.Subgraph.Calls

/-!
Whether the subgraph shows the records that the registry has stored. What an accepted call logs of
a token brings the record shown of it to the record stored after the call; the subgraph follows the
whole log but for the updates of an artist that it drops.
-/

namespace Startrail

open Subgraph

namespace Registry

-- A royalty that was never set is not shown.
def Details.record (details : Details) (owner : Address) : Subgraph.Record where
  ownerAddress := some owner
  isPrimaryIssuer := some details.srr.isPrimaryIssuer
  artistAddress := some details.srr.artistAddress
  metadataDigest := some details.metadataCID
  lockExternalTransfer := details.lockExternalTransfer
  royaltyReceiver := if details.royalty.receiver = 0 then none else some details.royalty.receiver
  royaltyBasisPoints :=
    if details.royalty.receiver = 0 then none else some details.royalty.basisPoints

/-- What is stored of a token, as a record of the subgraph. -/
def stored (state : State) (tokenId : Uint256) : Option Subgraph.Record :=
  if state._tokenOwner tokenId = 0 then none
  else some ((details state tokenId).record (state._tokenOwner tokenId))

def saidOf (tokenId : Uint256) (event : Event) : Option Amendment :=
  (amendment (fun _ => true) event).bind fun (other, said) =>
    if other = tokenId then some said else none

/-- What the events of a log say of a token, when all artists are known. -/
def said (tokenId : Uint256) (logs : List Event) : List Amendment :=
  logs.filterMap (saidOf tokenId)

/-- Only tokens have royalties, and a royalty without a receiver is none. -/
structure Settled (state : State) : Prop where
  unowned : ∀ tokenId, state._tokenOwner tokenId = 0 → state.royalties tokenId = ⟨0, 0⟩
  unset : ∀ tokenId, (state.royalties tokenId).receiver = 0 → state.royalties tokenId = ⟨0, 0⟩

/-- What is logged brings the record of each token to what is stored. -/
structure Tells (before after : State) : Prop where
  settled : Settled before → Settled after
  told : Settled before → ∃ fresh, after.logs = fresh ++ before.logs ∧ ∀ tokenId,
    Timely (stored before tokenId) (said tokenId fresh) ∧
      replayed (stored before tokenId) (said tokenId fresh) = stored after tokenId

variable {deployment : Deployment} {world : World} {msg msg' : Msg} {call call' : Call}
  {before middle after : State} {tokenId : Uint256} {fresh logs : List Event}
  {amendments : List Amendment}

section Tells

theorem said_append : said tokenId (fresh ++ logs) = said tokenId fresh ++ said tokenId logs :=
  List.filterMap_append

theorem said_named {event : Event} {amend : Amendment} {other : Uint256}
    (names : amendment (fun _ => true) event = some (tokenId, amend)) :
    said other (event :: logs) =
      if tokenId = other then amend :: said other logs else said other logs := by
  unfold said
  rw [List.filterMap_cons, saidOf, names]
  by_cases same : tokenId = other
  · simp [same]
  · simp [same]

theorem said_silent {event : Event} (silent : amendment (fun _ => true) event = none) :
    said tokenId (event :: logs) = said tokenId logs := by
  unfold said
  rw [List.filterMap_cons, saidOf, silent]
  rfl

theorem stored_owned (owned : before._tokenOwner tokenId ≠ 0) :
    stored before tokenId =
      some ((details before tokenId).record (before._tokenOwner tokenId)) := if_neg owned

theorem timely_present {shown : Option Subgraph.Record} (present : shown.isSome = true) :
    Timely shown amendments := by
  have kept : ∀ amendments, (replayed shown amendments).isSome = true := by
    intro amendments
    induction amendments with
    | nil => exact present
    | cons amendment earlier ih => exact after_isSome ih
  induction amendments with
  | nil => trivial
  | cons amendment earlier ih => exact ⟨ih, fun _ => kept earlier⟩

theorem Tells.refl (state : State) : Tells state state :=
  ⟨id, fun _ => ⟨[], rfl, fun _ => ⟨trivial, rfl⟩⟩⟩

theorem Tells.trans (early : Tells before middle) (late : Tells middle after) :
    Tells before after := by
  refine ⟨fun settled => late.settled (early.settled settled), fun settled => ?_⟩
  obtain ⟨first, grown, told⟩ := early.told settled
  obtain ⟨second, grown', told'⟩ := late.told (early.settled settled)
  refine ⟨second ++ first, by rw [grown', grown, List.append_assoc], fun tokenId => ?_⟩
  obtain ⟨timely, reached⟩ := told tokenId
  obtain ⟨timely', reached'⟩ := told' tokenId
  rw [said_append, timely_append, replayed_append, reached]
  exact ⟨⟨timely, timely'⟩, reached'⟩

/-- All that is told is about one token. -/
theorem Tells.named (settled : Settled before → Settled after)
    (grown : after.logs = fresh ++ before.logs)
    (spoken : ∀ other, said other fresh = if tokenId = other then amendments else [])
    (others : ∀ other, other ≠ tokenId → stored after other = stored before other)
    (here : Settled before → Timely (stored before tokenId) amendments ∧
      replayed (stored before tokenId) amendments = stored after tokenId) :
    Tells before after := by
  refine ⟨settled, fun given => ⟨fresh, grown, fun other => ?_⟩⟩
  rw [spoken]
  by_cases same : tokenId = other
  · subst same
    rw [if_pos rfl]
    exact here given
  · rw [if_neg same]
    exact ⟨trivial, (others other (Ne.symm same)).symm⟩

theorem Tells.quiet (settled : Settled before → Settled after)
    (grown : after.logs = fresh ++ before.logs) (silent : ∀ tokenId, said tokenId fresh = [])
    (same : ∀ tokenId, stored after tokenId = stored before tokenId) : Tells before after := by
  refine ⟨settled, fun _ => ⟨fresh, grown, fun tokenId => ?_⟩⟩
  rw [silent]
  exact ⟨trivial, (same tokenId).symm⟩

theorem Settled.same (owners : after._tokenOwner = before._tokenOwner)
    (royalties : after.royalties = before.royalties) (settled : Settled before) :
    Settled after := by
  obtain ⟨unowned, unset⟩ := settled
  rw [← owners, ← royalties] at unowned
  rw [← royalties] at unset
  exact ⟨unowned, unset⟩

theorem stored_congr (owners : after._tokenOwner = before._tokenOwner)
    (same : ∀ owner, (details after tokenId).record owner = (details before tokenId).record owner) :
    stored after tokenId = stored before tokenId := by
  unfold stored
  rw [owners, same]

/-- One event about a token that is there, whose owner stays. -/
theorem Tells.edit {event : Event} {amend : Amendment} (settled : Settled before → Settled after)
    (grown : after.logs = event :: before.logs) (owned : before._tokenOwner tokenId ≠ 0)
    (owners : after._tokenOwner = before._tokenOwner)
    (names : amendment (fun _ => true) event = some (tokenId, amend))
    (others : ∀ other, other ≠ tokenId → details after other = details before other)
    (here : ∀ owner, amend.after (some ((details before tokenId).record owner)) =
      some ((details after tokenId).record owner)) : Tells before after := by
  have spoken : ∀ other, said other [event] = if tokenId = other then [amend] else [] := by
    intro other
    rw [said_named names]
    rfl
  refine .named settled grown spoken ?_ fun _ => ⟨?_, ?_⟩
  · exact fun other apart => stored_congr owners fun owner => by rw [others other apart]
  · exact timely_present (by rw [stored_owned owned]; rfl)
  · rw [stored_owned owned, stored_owned (owners ▸ owned), owners]
    exact here _

end Tells

section Calls

theorem record_congr {owner : Address} (same : details after tokenId = details before tokenId) :
    (details after tokenId).record owner = (details before tokenId).record owner := by
  rw [same]

theorem replayed_passed {to_ : Address} (details : Details) (owner : Address)
    (passed : ∀ amend ∈ amendments, amend = .passed to_) :
    ∃ owner', replayed (some (details.record owner)) amendments =
      some (details.record owner') := by
  induction amendments with
  | nil => exact ⟨owner, rfl⟩
  | cons amend earlier ih =>
      obtain ⟨owner', reached⟩ := ih fun other member =>
        passed other (List.mem_cons_of_mem _ member)
      refine ⟨to_, ?_⟩
      rw [passed amend List.mem_cons_self, replayed_cons, reached]
      rfl

/-- A transfer, after what a call has logged and done to the commitments. -/
theorem transfer_tells {from_ to_ : Address}
    (moved : _transfer middle from_ to_ tokenId = .ok after)
    (owners : middle._tokenOwner = before._tokenOwner)
    (royalties : middle.royalties = before.royalties)
    (grown : middle.logs = fresh ++ before.logs)
    (spoken : ∀ other, said other fresh = if tokenId = other then amendments else [])
    (passed : ∀ amend ∈ amendments, amend = .passed to_)
    (same : ∀ other owner, (details middle other).record owner =
      (details before other).record owner) : Tells before after := by
  have logged := transfer_logs moved
  have kept : ∀ other owner, (details after other).record owner =
      (details before other).record owner := by
    intro other owner
    rw [transfer_details moved, same]
  have effect : before._tokenOwner tokenId ≠ 0 ∧ to_ ≠ 0 ∧
      after._tokenOwner = Function.update before._tokenOwner tokenId to_ ∧
      after.royalties = before.royalties := by
    obtain ⟨owned, _, recipient, _, _, rfl⟩ := transfer_accepted moved
    rw [← owners, ← royalties]
    exact ⟨owned, recipient, rfl, rfl⟩
  obtain ⟨owned, recipient, owners', royalties'⟩ := effect
  rw [grown, ← List.append_assoc] at logged
  have spoken' : ∀ other,
      said other ([.Transfer from_ to_ tokenId, .Approval from_ 0 tokenId] ++ fresh) =
        if tokenId = other then .owned to_ :: amendments else [] := by
    intro other
    rw [List.cons_append, said_named rfl, List.cons_append, said_silent rfl, List.nil_append,
      spoken]
    split
    · rfl
    · rfl
  have here : after._tokenOwner tokenId = to_ := by rw [owners', Function.update_self]
  have elsewhere : ∀ other, other ≠ tokenId →
      after._tokenOwner other = before._tokenOwner other := by
    intro other apart
    rw [owners', Function.update_of_ne apart]
  refine .named ?_ logged spoken' ?_ fun _ => ⟨?_, ?_⟩
  · rintro ⟨unowned, unset⟩
    rw [← royalties'] at unowned unset
    refine ⟨fun other absent => unowned other ?_, unset⟩
    have apart : other ≠ tokenId := by
      rintro rfl
      exact recipient (here.symm.trans absent)
    rwa [elsewhere other apart] at absent
  · intro other apart
    unfold stored
    rw [elsewhere other apart, kept]
  · exact timely_present (by rw [stored_owned owned]; rfl)
  · obtain ⟨owner, reached⟩ := replayed_passed (details before tokenId)
      (before._tokenOwner tokenId) passed
    rw [stored_owned owned, stored_owned (here ▸ recipient), here, kept, replayed_cons, reached]
    rfl

/-- The events of a creation, after the transfer of the new token. -/
def Creation.events (creation : Creation) (tokenId : Uint256) : List Event :=
  (if creation.royaltyReceiver = 0 then []
    else [.RoyaltiesSet tokenId ⟨creation.royaltyReceiver, creation.royaltyBasisPoints⟩]) ++
    [.CreateSRR tokenId creation.isPrimaryIssuer creation.artistAddress creation.issuerAddress
      creation.metadataCID creation.lockExternalTransfer,
    .Transfer 0 creation.issuerAddress tokenId]

/-- The royalty of the new token. -/
def Creation.royaltySet (creation : Creation) (old : RoyaltyInfo) : RoyaltyInfo :=
  if creation.royaltyReceiver = 0 then old
  else ⟨creation.royaltyReceiver, creation.royaltyBasisPoints⟩

theorem createSRR_ledgers {creation : Creation}
    (created : _createSRR deployment before creation.isPrimaryIssuer creation.artistAddress
      creation.metadataCID creation.issuerAddress creation.lockExternalTransfer
      creation.royaltyReceiver creation.royaltyBasisPoints = .ok (after, tokenId)) :
    before._tokenOwner tokenId = 0 ∧ creation.issuerAddress ≠ 0 ∧
      after._tokenOwner = Function.update before._tokenOwner tokenId creation.issuerAddress ∧
      after.royalties = Function.update before.royalties tokenId
        (creation.royaltySet (before.royalties tokenId)) ∧
      after.logs = creation.events tokenId ++ before.logs := by
  obtain ⟨_, _, minted, _, mint, rfl, royalty⟩ := createSRR_accepted created
  obtain ⟨absent, recipient, _, rfl⟩ := mint_accepted mint
  refine ⟨absent, recipient, ?_⟩
  rcases royalty with ⟨received, saved, saves, rfl⟩ | ⟨unreceived, rfl⟩
  · obtain ⟨_, _, _, rfl⟩ := saveRoyalties_accepted saves
    simp only [Creation.royaltySet, Creation.events, if_neg received]
    exact ⟨rfl, rfl, rfl⟩
  · simp only [Creation.royaltySet, Creation.events, if_pos unreceived]
    exact ⟨rfl, (Function.update_eq_self _ _).symm, rfl⟩

theorem creation_said (creation : Creation) (tokenId other : Uint256) :
    said other (creation.events tokenId) = if tokenId = other then
      (if creation.royaltyReceiver = 0 then []
        else [.settled creation.royaltyReceiver creation.royaltyBasisPoints]) ++
        [.created creation.isPrimaryIssuer creation.artistAddress creation.metadataCID
          creation.lockExternalTransfer, .owned creation.issuerAddress]
      else [] := by
  unfold Creation.events
  split
  · rw [List.nil_append, said_named rfl, said_named rfl]
    split
    · rfl
    · rfl
  · rw [List.singleton_append, said_named rfl, said_named rfl, said_named rfl]
    split
    · rfl
    · rfl

theorem createSRR_tells {creation : Creation}
    (created : _createSRR deployment before creation.isPrimaryIssuer creation.artistAddress
      creation.metadataCID creation.issuerAddress creation.lockExternalTransfer
      creation.royaltyReceiver creation.royaltyBasisPoints = .ok (after, tokenId)) :
    Tells before after := by
  obtain ⟨absent, recipient, owners, royalties, grown⟩ := createSRR_ledgers created
  obtain ⟨_, generated, written⟩ := createSRR_details created
  rw [← generated] at written
  have here : after._tokenOwner tokenId = creation.issuerAddress := by
    rw [owners, Function.update_self]
  have elsewhere : ∀ other, other ≠ tokenId →
      after._tokenOwner other = before._tokenOwner other := by
    intro other apart
    rw [owners, Function.update_of_ne apart]
  refine .named ?_ grown (creation_said creation tokenId) ?_ fun settled => ?_
  · intro settled
    constructor
    · intro other unowned
      have apart : other ≠ tokenId := by
        rintro rfl
        exact recipient (here.symm.trans unowned)
      rw [royalties, Function.update_of_ne apart]
      exact settled.unowned other (elsewhere other apart ▸ unowned)
    · intro other unset
      rw [royalties] at unset ⊢
      by_cases apart : other = tokenId
      · subst apart
        rw [Function.update_self, Creation.royaltySet] at unset ⊢
        split at unset
        · rename_i unreceived
          rw [if_pos unreceived]
          exact settled.unset other unset
        · rename_i received
          exact absurd unset received
      · rw [Function.update_of_ne apart] at unset ⊢
        exact settled.unset other unset
  · intro other apart
    unfold stored
    rw [elsewhere other apart, record_congr ((written other).trans (if_neg apart))]
  · have unroyal : (details before tokenId).royalty = ⟨0, 0⟩ := settled.unowned tokenId absent
    have shown : stored before tokenId = none := if_pos absent
    rw [shown, stored_owned (here ▸ recipient), here, written, if_pos rfl]
    by_cases unreceived : creation.royaltyReceiver = 0
    · rw [if_pos unreceived]
      refine ⟨⟨⟨trivial, nofun⟩, fun _ => rfl⟩, ?_⟩
      have royal : (creation.written (details before tokenId)).royalty = ⟨0, 0⟩ :=
        (if_neg (not_not.mpr unreceived)).trans unroyal
      unfold Details.record
      rw [royal]
      rfl
    · rw [if_neg unreceived]
      refine ⟨⟨⟨⟨trivial, nofun⟩, fun _ => rfl⟩, fun _ => rfl⟩, ?_⟩
      have royal : (creation.written (details before tokenId)).royalty =
          ⟨creation.royaltyReceiver, creation.royaltyBasisPoints⟩ := if_pos unreceived
      unfold Details.record
      rw [royal, if_neg unreceived, if_neg unreceived]
      rfl

theorem nothing_said (tokenId : Uint256) :
    ∀ other, said other [] = if tokenId = other then [] else [] := by
  intro other
  split
  · rfl
  · rfl

theorem createSRRFor_tells {creation : Creation}
    (created : createSRRFor deployment before creation.isPrimaryIssuer creation.artistAddress
      creation.metadataCID creation.issuerAddress creation.lockExternalTransfer creation.to_
      creation.royaltyReceiver creation.royaltyBasisPoints = .ok (after, tokenId)) :
    Tells before after := by
  obtain ⟨middle, first, ending⟩ := createSRRFor_accepted created
  have told := createSRR_tells first
  rcases ending with ⟨_, passed⟩ | ⟨_, rfl⟩
  · exact told.trans (transfer_tells passed rfl rfl (List.nil_append _).symm (nothing_said tokenId)
      nofun fun _ _ => rfl)
  · exact told

theorem replaceRoyalty_tells {basisPoints : Uint16} {receiver : Address}
    (replaced : replaceRoyalty before tokenId basisPoints receiver = .ok after) :
    Tells before after := by
  rcases replaceRoyalty_accepted replaced with ⟨_, saved, saves, rfl⟩ | ⟨_, rfl⟩
  · have written := fun other => @saveRoyalties_details _ _ other _ _ _ saves
    obtain ⟨received, _, owned, rfl⟩ := saveRoyalties_accepted saves
    refine .edit ?_ rfl (exists_iff.mp owned) rfl rfl ?_ ?_
    · rintro ⟨unowned, unset⟩
      constructor
      · intro other absent
        have apart : other ≠ tokenId := by
          rintro rfl
          exact exists_iff.mp owned absent
        exact (Function.update_of_ne apart _ _).trans (unowned other absent)
      · intro other absent
        change (Function.update before.royalties tokenId ⟨receiver, basisPoints⟩ other).receiver =
          0 at absent
        change Function.update before.royalties tokenId ⟨receiver, basisPoints⟩ other = ⟨0, 0⟩
        by_cases same : other = tokenId
        · subst same
          rw [Function.update_self] at absent
          exact absurd absent received
        · rw [Function.update_of_ne same] at absent ⊢
          exact unset other absent
    · exact fun other apart => (written other).trans (if_neg apart)
    · intro owner
      rw [details_emit, written, if_pos rfl]
      simp only [Details.record, if_neg received]
      rfl
  · exact .refl _

theorem updateRoyaltyReceivers_tells {royaltyReceiver : Address} {tokenIds : List Uint256}
    (updated : updateRoyaltyReceivers royaltyReceiver tokenIds before = .ok after) :
    Tells before after := by
  induction tokenIds generalizing before with
  | nil =>
      cases updated
      exact .refl _
  | cons first tokenIds ih =>
      simp only [updateRoyaltyReceivers, bind_eq_ok] at updated
      obtain ⟨_, _, replaced, replaces, rest⟩ := updated
      exact (replaceRoyalty_tells replaces).trans (ih rest)

/-- Nothing is logged of the records, and no record is touched. -/
theorem Tells.untouched (owners : after._tokenOwner = before._tokenOwner)
    (royalties : after.royalties = before.royalties) (grown : after.logs = fresh ++ before.logs)
    (silent : ∀ event ∈ fresh, amendment (fun _ => true) event = none)
    (same : ∀ tokenId owner, (details after tokenId).record owner =
      (details before tokenId).record owner) : Tells before after := by
  refine .quiet (Settled.same owners royalties) grown ?_ fun tokenId =>
    stored_congr owners (same tokenId)
  intro tokenId
  refine List.filterMap_eq_nil_iff.mpr fun event belongs => ?_
  rw [saidOf, silent event belongs]
  rfl

theorem updateSRR_tells {isPrimaryIssuer : Bool} {artistAddress sender : Address}
    (owned : before._tokenOwner tokenId ≠ 0) :
    Tells before ((_saveSRR before tokenId isPrimaryIssuer artistAddress).emit
      (.UpdateSRR tokenId isPrimaryIssuer artistAddress sender)) := by
  refine .edit (Settled.same rfl rfl) rfl owned rfl rfl ?_ fun owner => ?_
  · intro other apart
    rw [details_emit, saveSRR_details, if_neg apart]
  · rw [details_emit, saveSRR_details, if_pos rfl]
    rfl

theorem updateSRRMetadata_tells {metadataCID : Bytes} (owned : before._tokenOwner tokenId ≠ 0) :
    Tells before ({ before with
      _stringStorage := before._stringStorage.set tokenId ._SRR ._METADATA_HASH metadataCID }.emit
        (.UpdateSRRMetadataCID tokenId metadataCID)) := by
  refine .edit (Settled.same rfl rfl) rfl owned rfl rfl ?_ fun owner => ?_
  · intro other apart
    rw [details_emit, metadata_details, if_neg apart]
  · rw [details_emit, metadata_details, if_pos rfl]
    rfl

theorem Administered.tells
    (administered : Administered deployment world msg before call after) : Tells before after := by
  cases administered with
  | updateSRR owned _ => exact updateSRR_tells (exists_iff.mp owned)
  | updateSRRMetadata owned _ => exact updateSRRMetadata_tells (exists_iff.mp owned)
  | updateSRRRoyalty _ _ replaced => exact replaceRoyalty_tells replaced
  | updateSRRRoyaltyReceiverMulti _ updated => exact updateRoyaltyReceivers_tells updated
  | setTokenURIParts _ =>
      refine .untouched rfl rfl (List.nil_append _).symm nofun fun tokenId owner => record_congr ?_
      simp [details, lockExternalTransfer, commitmentOf, Storage.set_apply]
  | setContractURI _ =>
      refine .untouched rfl rfl (List.nil_append _).symm nofun fun tokenId owner => record_congr ?_
      simp [details, lockExternalTransfer, commitmentOf, Storage.set_apply]
  | setOpenSeaApproveAllKillSwitch _ =>
      refine .untouched rfl rfl (List.nil_append _).symm nofun fun tokenId owner => record_congr ?_
      simp [details, lockExternalTransfer, commitmentOf, Storage.set_apply]
  | setOpenSeaMetaTxIntegration _ =>
      refine .untouched rfl rfl (List.nil_append _).symm nofun fun tokenId owner => record_congr ?_
      simp [details, lockExternalTransfer, commitmentOf, Storage.set_apply]
  | addCustomHistoryType _ _ _ =>
      exact .untouched rfl rfl List.singleton_append.symm (List.forall_mem_singleton.mpr rfl)
        fun _ _ => rfl
  | setApprovalForAll _ =>
      exact .untouched rfl rfl List.singleton_append.symm (List.forall_mem_singleton.mpr rfl)
        fun _ _ => rfl
  | transferOwnership _ _ =>
      exact .untouched rfl rfl List.singleton_append.symm (List.forall_mem_singleton.mpr rfl)
        fun _ _ => rfl
  | _ => exact .untouched rfl rfl (List.nil_append _).symm nofun fun _ _ => rfl

theorem historyProvenance_said (before : State) (tokenId : Uint256) (from_ to_ : Address)
    (historyMetadataHash : Bytes) (customHistoryId : Uint256) (isIntermediary : Bool) :
    ∃ event, (_historyProvenance before tokenId from_ to_ historyMetadataHash customHistoryId
      isIntermediary).logs = [event] ++ before.logs ∧
      ∀ other, said other [event] = if tokenId = other then [.passed to_] else [] := by
  refine ⟨_, rfl, fun other => ?_⟩
  rw [said_named rfl]
  rfl

theorem hand_tells {from_ to_ : Address} {historyMetadataHash : Bytes} {customHistoryId : Uint256}
    {isIntermediary : Bool}
    (moved : _transfer (_historyProvenance before tokenId from_ to_ historyMetadataHash
      customHistoryId isIntermediary) from_ to_ tokenId = .ok after) : Tells before after := by
  obtain ⟨event, grown, spoken⟩ := historyProvenance_said before tokenId from_ to_
    historyMetadataHash customHistoryId isIntermediary
  exact transfer_tells moved rfl rfl grown spoken (List.forall_mem_singleton.mpr rfl)
    fun _ _ => rfl

theorem reveal_tells {to_ : Address} {reveal : Bytes32} {isIntermediary : Bool}
    (revealed : transferSRRByReveal deployment before to_ reveal tokenId isIntermediary =
      .ok after) : Tells before after := by
  obtain ⟨_, _, moved⟩ := transferSRRByReveal_accepted revealed
  obtain ⟨event, grown, spoken⟩ := historyProvenance_said before tokenId
    (before._tokenOwner tokenId) to_ (commitmentOf before tokenId).historyMetadataHash
    (commitmentOf before tokenId).customHistoryId isIntermediary
  refine transfer_tells moved rfl rfl grown spoken (List.forall_mem_singleton.mpr rfl) ?_
  intro other owner
  rw [clearSRRCommitment_details]
  split
  · rfl
  · rfl

theorem approve_tells {customHistoryId : Uint256} {commitment : Bytes32}
    {historyMetadataHash : Bytes}
    (approved : _approveSRRByCommitment before tokenId commitment historyMetadataHash
      customHistoryId = .ok after) : Tells before after := by
  have logged := approve_logs approved
  have written := fun other => (@approveSRRByCommitment_details _ _ other _ _ _ _ approved).2
  have royalties : after.royalties = before.royalties := by
    funext other
    obtain ⟨approval, same⟩ := written other
    refine (congrArg Details.royalty same).trans ?_
    split
    · rfl
    · rfl
  obtain ⟨_, _, owners, _⟩ := approveSRRByCommitment_effect approved
  refine .untouched owners royalties logged ?_ ?_
  · intro event belongs
    rcases List.mem_cons.mp belongs with rfl | cancelled
    · rfl
    · split at cancelled
      · cases List.mem_singleton.mp cancelled
        rfl
      · cases cancelled
  · intro other owner
    obtain ⟨approval, same⟩ := written other
    rw [same]
    split
    · rfl
    · rfl

theorem Accepted.tells (accepted : Accepted deployment world msg before call after)
    (other : call.aside = false) : Tells before after := by
  cases accepted with
  | aside aside _ => rw [aside] at other; cases other
  | createSRRFromLicensedUser _ creates =>
      exact @createSRRFor_tells _ _ _ _ ⟨_, _, _, _, _, _, _, _⟩ creates
  | createSRRFromBulk _ creates =>
      exact @createSRRFor_tells _ _ _ _ ⟨_, _, _, _, _, _, _, _⟩ creates
  | approveSRRByCommitmentFromBulk _ _ approved => exact approve_tells approved
  | approveSRRByCommitment _ approved => exact approve_tells approved
  | approveSRRByCommitmentWithHistory _ _ approved => exact approve_tells approved
  | cancelSRRCommitment _ =>
      refine .untouched rfl rfl List.singleton_append.symm (List.forall_mem_singleton.mpr rfl) ?_
      intro tokenId owner
      rw [details_emit, clearSRRCommitment_details]
      split
      · rfl
      · rfl
  | transferSRRByReveal revealed => exact reveal_tells revealed
  | addHistory _ _ _ _ =>
      exact .untouched rfl rfl List.singleton_append.symm (List.forall_mem_singleton.mpr rfl)
        fun _ _ => rfl
  | @writeCustomHistory name _ _ _ _ _ =>
      refine .untouched rfl rfl List.singleton_append.symm (List.forall_mem_singleton.mpr rfl) ?_
      intro tokenId owner
      rw [details_emit]
      exact record_congr (customHistory_details _ name)
  | updateCustomHistory _ _ _ =>
      split
      · refine .untouched rfl rfl List.singleton_append.symm (List.forall_mem_singleton.mpr rfl) ?_
        intro tokenId owner
        rw [details_emit, customHistory_details]
      · exact .untouched rfl rfl List.singleton_append.symm (List.forall_mem_singleton.mpr rfl)
          fun _ _ => rfl
  | transferFrom _ _ moved =>
      exact transfer_tells moved rfl rfl (List.nil_append _).symm (nothing_said _) nofun
        fun _ _ => rfl
  | safeTransferFrom _ _ moved =>
      exact transfer_tells moved rfl rfl (List.nil_append _).symm (nothing_said _) nofun
        fun _ _ => rfl
  | transferFromWithProvenance _ _ moved => exact hand_tells moved
  | transferFromWithProvenanceFromBulk _ _ _ moved => exact hand_tells moved
  | approve _ _ _ _ =>
      exact .untouched rfl rfl List.singleton_append.symm (List.forall_mem_singleton.mpr rfl)
        fun _ _ => rfl
  | setLockExternalTransfer _ owned =>
      refine .edit (Settled.same rfl rfl) rfl (exists_iff.mp owned) rfl rfl ?_ fun owner => ?_
      · intro other apart
        rw [details_emit, setLock_details, if_neg apart]
      · rw [details_emit, setLock_details, if_pos rfl]
        rfl

theorem Runs.tells (runs : Runs deployment before msg call middle msg' call') :
    Tells before middle := by
  induction runs with
  | direct state msg call => exact .refl _
  | wrapped accepts _ _ ih =>
      obtain ⟨_, _, _, rfl⟩ := acceptMetaTransaction_consumes accepts
      refine Tells.trans ?_ ih
      exact .untouched rfl rfl List.singleton_append.symm (List.forall_mem_singleton.mpr rfl)
        fun _ _ => rfl

theorem entry_tells {transaction : Transaction}
    (ran : (entry deployment transaction before).front = some after) : Tells before after := by
  obtain ⟨middle, msg, call, selfCall, runs, direct, executed⟩ := perform_executes ran
  refine runs.tells.trans ?_
  by_cases aside : call.aside = true
  · exact (execute_administered executed aside).tells
  · exact (execute_accepted executed direct).tells (Bool.eq_false_iff.mpr aside)

end Calls

section Reached

/-- A registry without tokens, before anything has happened. -/
structure Tokenless (state : State) : Prop where
  owners : ∀ tokenId, state._tokenOwner tokenId = 0
  royalties : ∀ tokenId, state.royalties tokenId = ⟨0, 0⟩
  logs : state.logs = []

/-- The whole log, if no event of it is dropped, brings each record to what is stored. -/
structure Recorded (state : State) : Prop where
  settled : Settled state
  timely : ∀ tokenId, Timely none (said tokenId state.logs)
  replayed : ∀ tokenId, replayed none (said tokenId state.logs) = stored state tokenId

theorem Tokenless.recorded (tokenless : Tokenless before) : Recorded before := by
  obtain ⟨owners, royalties, logs⟩ := tokenless
  refine ⟨⟨fun tokenId _ => royalties tokenId, fun tokenId _ => royalties tokenId⟩, ?_, ?_⟩
  · intro tokenId
    rw [logs]
    trivial
  · intro tokenId
    rw [logs]
    exact (if_pos (owners tokenId)).symm

theorem Tells.recorded (tells : Tells before after) (recorded : Recorded before) :
    Recorded after := by
  obtain ⟨fresh, grown, told⟩ := tells.told recorded.settled
  refine ⟨tells.settled recorded.settled, fun tokenId => ?_, fun tokenId => ?_⟩
  · rw [grown, said_append, timely_append, recorded.replayed]
    exact ⟨recorded.timely tokenId, (told tokenId).1⟩
  · rw [grown, said_append, replayed_append, recorded.replayed]
    exact (told tokenId).2

theorem reach_recorded {origin : State} {config : Config Revert State Query Reply Transaction}
    (tokenless : Tokenless origin)
    (reach : Reach (entry deployment) (fun _ _ => True) origin config) :
    Recorded config.now.state := by
  refine reach.invariant Recorded tokenless.recorded fun transaction state _ recorded => ?_
  exact (perform_trailing _ _ _ _).keeps fun state' ran => (entry_tells ran).recorded recorded

end Reached

section Feeds

variable {evm : Evm} {address : Address} {feed : List (Emitted Delivery)}

def eventOf (emitted : Emitted Delivery) : Event := emitted.event.event

/-- What a feed says of a token, with the updates of unknown artists marked as dropped. -/
def heard (tokenId : Uint256) (feed : List (Emitted Delivery)) : List Amendment :=
  feed.filterMap fun emitted =>
    (amendment emitted.event.licensedUserWallet (eventOf emitted)).bind fun (other, said) =>
      if other = tokenId then some said else none

/-- No other token that the log names shares the id of the token's record. -/
def Apart (evm : Evm) (address : Address) (tokenId : Uint256) (logs : List Event) : Prop :=
  evm.CollisionFree (entityInput address tokenId ::
    (logs.filterMap (amendment fun _ => true)).map fun (other, _) => entityInput address other)

instance (evm : Evm) (address : Address) (tokenId : Uint256) (logs : List Event) :
    Decidable (Apart evm address tokenId logs) :=
  inferInstanceAs (Decidable (evm.CollisionFree _))

/-- The latest flag and artist that the subgraph has heeded are the latest that were given. -/
def Heeded (tokenId : Uint256) (feed : List (Emitted Delivery)) : Prop :=
  lastAttribution (heard tokenId feed) = lastAttribution (said tokenId (feed.map eventOf))

instance (tokenId : Uint256) (feed : List (Emitted Delivery)) : Decidable (Heeded tokenId feed) :=
  inferInstanceAs (Decidable (_ = _))

theorem amendment_heeded (licensedUserWallet : Address → Bool) (event : Event) :
    amendment (fun _ => true) event =
      (amendment licensedUserWallet event).map fun (tokenId, said) => (tokenId, said.heeded) := by
  cases event <;> rfl

theorem heard_heeded (tokenId : Uint256) (feed : List (Emitted Delivery)) :
    (heard tokenId feed).map Amendment.heeded = said tokenId (feed.map eventOf) := by
  unfold heard said
  rw [List.map_filterMap, List.filterMap_map]
  refine List.filterMap_congr fun emitted _ => ?_
  rw [Function.comp_apply, saidOf, amendment_heeded emitted.event.licensedUserWallet]
  cases amendment emitted.event.licensedUserWallet (eventOf emitted) with
  | none => rfl
  | some told =>
      obtain ⟨other, amend⟩ := told
      by_cases same : other = tokenId
      · simp [same]
      · simp [same]

theorem index_replay (store : Store) (feed : List (Emitted Delivery)) :
    index (handleDelivery evm address) store feed =
      (recordProjection evm address).replay store feed := by
  induction feed with
  | nil => rfl
  | cons emitted earlier ih => exact congrArg (Option.bind · _) ih

theorem noteOn_eq (emitted : Emitted Delivery) (key : Bytes32) :
    (recordProjection evm address).noteOn key emitted =
      (amendment emitted.event.licensedUserWallet (eventOf emitted)).bind fun (other, said) =>
        if srrEntityId evm address other = key then some said else none := by
  unfold Projection.noteOn
  exact Option.bind_map

theorem notes_heard (apart : Apart evm address tokenId (feed.map eventOf)) :
    (recordProjection evm address).notes (srrEntityId evm address tokenId) feed =
      heard tokenId feed := by
  refine List.filterMap_congr fun emitted belongs => ?_
  rw [noteOn_eq]
  cases named : amendment emitted.event.licensedUserWallet (eventOf emitted) with
  | none => rfl
  | some told =>
      obtain ⟨other, amend⟩ := told
      have inputs : ∀ shared : srrEntityId evm address other = srrEntityId evm address tokenId,
          other = tokenId := by
        intro shared
        refine @entityInput_inj address _ _ (apart _ (List.mem_cons_of_mem _ ?_) _
          List.mem_cons_self shared)
        refine List.mem_map.mpr ⟨(other, amend.heeded), List.mem_filterMap.mpr
          ⟨eventOf emitted, List.mem_map_of_mem belongs, ?_⟩, rfl⟩
        rw [amendment_heeded emitted.event.licensedUserWallet, named]
        rfl
      by_cases same : other = tokenId
      · simp [same]
      · have differs : srrEntityId evm address other ≠ srrEntityId evm address tokenId :=
          fun shared => same (inputs shared)
        simp [same, differs]

theorem heard_noted {amend : Amendment} (member : amend ∈ heard tokenId feed) :
    amend ∈ (recordProjection evm address).notes (srrEntityId evm address tokenId) feed := by
  obtain ⟨emitted, belongs, told⟩ := List.mem_filterMap.mp member
  refine List.mem_filterMap.mpr ⟨emitted, belongs, ?_⟩
  rw [noteOn_eq]
  obtain ⟨⟨other, said⟩, named, told⟩ := Option.bind_eq_some_iff.mp told
  rw [named]
  by_cases same : other = tokenId
  · simpa [same] using told
  · simp [same] at told

theorem feed_fed (timely : ∀ tokenId, Timely none (said tokenId (feed.map eventOf))) :
    (recordProjection evm address).Fed (Permits evm address) none feed := by
  induction feed with
  | nil => trivial
  | cons emitted earlier ih =>
      refine ⟨ih fun tokenId => ?_, ?_⟩
      · have whole := timely tokenId
        rw [List.map_cons, ← List.singleton_append, said_append] at whole
        exact (timely_append.mp whole).1
      · intro tokenId amend named about
        have names : amendment (fun _ => true) (eventOf emitted) =
            some (tokenId, amend.heeded) := by
          rw [amendment_heeded emitted.event.licensedUserWallet]
          exact congrArg (Option.map _) named
        have whole := timely tokenId
        rw [List.map_cons, said_named names, if_pos rfl] at whole
        have present := whole.2 ((about_heeded amend).trans about)
        obtain ⟨to_, member⟩ := mentioned_of_replayed present
        rw [← heard_heeded] at member
        obtain ⟨owned, member, same⟩ := List.mem_map.mp member
        have plain : owned = .owned to_ := by
          cases owned with
          | owned other => exact same
          | _ => cases same
        subst plain
        exact replayed_isSome ⟨to_, heard_noted member⟩

/-- An entity shows what is stored of a token; a royalty that is not shown is none. -/
structure Shows (srr : Subgraph.SRR) (state : State) (tokenId : Uint256) : Prop where
  ownerAddress : srr.ownerAddress = some (state._tokenOwner tokenId)
  isPrimaryIssuer : srr.isPrimaryIssuer = some (details state tokenId).srr.isPrimaryIssuer
  artistAddress : srr.artistAddress = some (details state tokenId).srr.artistAddress
  metadataDigest : srr.metadataDigest = some (details state tokenId).metadataCID
  lockExternalTransfer : srr.lockExternalTransfer = lockExternalTransfer state tokenId
  royaltyReceiver : srr.royaltyReceiver.getD 0 = (state.royalties tokenId).receiver
  royaltyBasisPoints : srr.royaltyBasisPoints.getD 0 = (state.royalties tokenId).basisPoints

theorem attribution_parts {attribution : Option (Bool × Address)} {flag : Bool} {artist : Address}
    (first : attribution.map Prod.fst = some flag)
    (second : attribution.map Prod.snd = some artist) : attribution = some (flag, artist) := by
  cases attribution with
  | none => cases first
  | some given => exact congrArg some (Prod.ext (Option.some.inj first) (Option.some.inj second))

theorem attributedTo_last {details : Details} {owner : Address}
    {attribution : Option (Bool × Address)}
    (same : details.record owner = (details.record owner).attributedTo attribution) :
    attribution = some (details.srr.isPrimaryIssuer, details.srr.artistAddress) :=
  attribution_parts (congrArg Subgraph.Record.isPrimaryIssuer same).symm
    (congrArg Subgraph.Record.artistAddress same).symm

theorem shows_iff {srr : Subgraph.SRR} {state : State} {attribution : Option (Bool × Address)}
    (settled : Settled state) (recorded : srr.record =
      ((details state tokenId).record (state._tokenOwner tokenId)).attributedTo attribution) :
    Shows srr state tokenId ↔ attribution =
      some ((details state tokenId).srr.isPrimaryIssuer,
        (details state tokenId).srr.artistAddress) := by
  have flag : srr.isPrimaryIssuer = attribution.map Prod.fst :=
    congrArg Subgraph.Record.isPrimaryIssuer recorded
  have artist : srr.artistAddress = attribution.map Prod.snd :=
    congrArg Subgraph.Record.artistAddress recorded
  constructor
  · intro shows
    exact attribution_parts (flag.symm.trans shows.isPrimaryIssuer)
      (artist.symm.trans shows.artistAddress)
  · rintro rfl
    have receiver : srr.royaltyReceiver = if (state.royalties tokenId).receiver = 0 then none
        else some (state.royalties tokenId).receiver :=
      congrArg Subgraph.Record.royaltyReceiver recorded
    have basisPoints : srr.royaltyBasisPoints = if (state.royalties tokenId).receiver = 0 then none
        else some (state.royalties tokenId).basisPoints :=
      congrArg Subgraph.Record.royaltyBasisPoints recorded
    refine ⟨congrArg Subgraph.Record.ownerAddress recorded, flag, artist,
      congrArg Subgraph.Record.metadataDigest recorded,
      congrArg Subgraph.Record.lockExternalTransfer recorded, ?_, ?_⟩
    · rw [receiver]
      split
      · rename_i unset
        exact unset.symm
      · rfl
    · rw [basisPoints]
      split
      · rename_i unset
        rw [settled.unset tokenId unset]
        rfl
      · rfl

theorem forall_feed {Holds : Event → Prop} {logs : List Event} (fed : feed.map eventOf = logs) :
    (∀ emitted ∈ feed, Holds (eventOf emitted)) ↔ ∀ event ∈ logs, Holds event := by
  subst fed
  simp

theorem records_mirrored {origin : State} {config : Config Revert State Query Reply Transaction}
    (tokenless : Tokenless origin)
    (reach : Reach (entry deployment) (fun _ _ => True) origin config)
    (fed : feed.map eventOf = config.now.state.logs) (licensedUserWallet : Address → Bool) :
    ((∃ store, index (handleDelivery deployment.evm deployment.self) (.blank licensedUserWallet)
        feed = some store) ↔ ∀ event ∈ config.now.state.logs, registryDigest event ≠ some []) ∧
      ∀ store, index (handleDelivery deployment.evm deployment.self) (.blank licensedUserWallet)
        feed = some store →
      ∀ tokenId, config.now.state._tokenOwner tokenId ≠ 0 →
        Apart deployment.evm deployment.self tokenId config.now.state.logs →
        ((∃ srr, store.srr (srrEntityId deployment.evm deployment.self tokenId) = some srr ∧
          Shows srr config.now.state tokenId) ↔ Heeded tokenId feed) := by
  have recorded := reach_recorded tokenless reach
  have lawful := recordProjection_lawful deployment.evm deployment.self
  have timely : ∀ tokenId, Timely none (said tokenId (feed.map eventOf)) :=
    fed.symm ▸ recorded.timely
  have blank : ∀ key, (recordProjection deployment.evm deployment.self).view
      (.blank licensedUserWallet) key = none := fun _ => rfl
  constructor
  · rw [index_replay, ← @forall_feed feed (fun event => registryDigest event ≠ some []) _ fed]
    exact lawful.replay_some (handleDelivery_some deployment.evm deployment.self) blank
      (feed_fed timely)
  intro store indexed tokenId owned apart
  have replays := (index_replay _ feed).symm.trans indexed
  rw [← fed] at apart
  have stores := recorded.replayed tokenId
  rw [← fed, stored_owned owned] at stores
  have timely' := timely tokenId
  rw [← heard_heeded] at stores timely'
  have last := attributedTo_last (lastAttribution_heeded timely' stores)
  have shown : recordAt store (srrEntityId deployment.evm deployment.self tokenId) =
      some (((details config.now.state tokenId).record
        (config.now.state._tokenOwner tokenId)).attributedTo
          (lastAttribution (heard tokenId feed))) := by
    refine (lawful.replay_view replays _).trans ?_
    rw [notes_heard apart]
    refine (replayed_heeded timely').trans ?_
    rw [stores]
    rfl
  rw [Heeded, ← heard_heeded, last]
  obtain ⟨srr, found, same⟩ := Option.map_eq_some_iff.mp shown
  rw [← shows_iff recorded.settled same, found]
  simp

end Feeds

section Samples

def attributeSample : Transaction := sampleCall 0xa11ce (.updateSRR recordId false 0xa272)

def attributedRun : Config Revert State Query Reply Transaction :=
  let enter := Config.enter (entry sampleDeployment)
  enter attributeSample (enter createSample (.start State.blank))

def attributedFeed (licensedUserWallet : Address → Bool) : List (Emitted Delivery) :=
  attributedRun.now.state.logs.map fun event => ⟨1700000000, event, licensedUserWallet⟩

theorem attributedRun_reach :
    Reach (entry sampleDeployment) (fun _ _ => True) State.blank attributedRun :=
  .enter attributeSample (.enter createSample .start trivial) trivial

theorem attributedFeed_fed (licensedUserWallet : Address → Bool) :
    (attributedFeed licensedUserWallet).map eventOf = attributedRun.now.state.logs := by
  unfold attributedFeed
  rw [List.map_map]
  exact List.map_id _

theorem tokenless_blank : Tokenless State.blank := ⟨fun _ => rfl, fun _ => rfl, rfl⟩

set_option maxRecDepth 8000 in
theorem records_mirrored_known :
    ∃ store, index (handleDelivery sampleEvm sampleDeployment.self) (.blank fun _ => false)
        (attributedFeed (· == 0xa272)) = some store ∧
      ∃ srr, store.srr (srrEntityId sampleEvm sampleDeployment.self recordId) = some srr ∧
        Shows srr attributedRun.now.state recordId := by
  obtain ⟨handled, mirrored⟩ := records_mirrored tokenless_blank attributedRun_reach
    (attributedFeed_fed (· == 0xa272)) fun _ => false
  obtain ⟨store, indexed⟩ := handled.mpr (by decide)
  exact ⟨store, indexed, (mirrored store indexed recordId (by decide) (by decide)).mpr (by decide)⟩

set_option maxRecDepth 8000 in
theorem attributedRun_unmirrored :
    ¬∀ config, Reach (entry sampleDeployment) (fun _ _ => True) State.blank config →
      ∀ feed, feed.map eventOf = config.now.state.logs → ∀ licensedUserWallet,
      ∃ store, index (handleDelivery sampleEvm sampleDeployment.self) (.blank licensedUserWallet)
          feed = some store ∧
        ∀ tokenId, config.now.state._tokenOwner tokenId ≠ 0 →
          Apart sampleEvm sampleDeployment.self tokenId config.now.state.logs →
          ∃ srr, store.srr (srrEntityId sampleEvm sampleDeployment.self tokenId) = some srr ∧
            Shows srr config.now.state tokenId := by
  intro mirrored
  obtain ⟨store, indexed, shown⟩ := mirrored _ attributedRun_reach _
    (attributedFeed_fed fun _ => false) fun _ => false
  obtain ⟨srr, found, shows⟩ := shown recordId (by decide) (by decide)
  have first : ((index (handleDelivery sampleEvm sampleDeployment.self) (.blank fun _ => false)
      (attributedFeed fun _ => false)).bind fun store =>
        (store.srr (srrEntityId sampleEvm sampleDeployment.self recordId)).bind
          Subgraph.SRR.artistAddress) = some 0xa271 := by decide
  rw [indexed, Option.bind_some, found, Option.bind_some, shows.artistAddress] at first
  exact absurd first (by decide)

end Samples

end Registry

end Startrail
