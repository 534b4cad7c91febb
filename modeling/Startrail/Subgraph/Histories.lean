import Startrail.Library.Timelines
import Startrail.Subgraph.Annals
import Startrail.Subgraph.Commitments

/-!
Whether every change of a token's owner is kept in the history that the subgraph shows. The events
of a run, at whatever times, lead each token from no owner to the one that it has; of its changes
after the mint each has one entity, told in full, just when no two of them are in one block. A call
that gives a record an empty CID, as the registry's update of the metadata can, would stop the
subgraph.
-/

namespace Startrail

namespace Subgraph

/-- A contract, with its log and its owners. -/
structure Chronicle (S E : Type) where
  annals : Annals E
  logs : S → List E
  owner : S → Uint256 → Address

namespace Chronicle

variable {S E : Type} (chronicle : Chronicle S E)

def course (tokenId : Uint256) (feed : List (Nat × E)) : List (Nat × Deed) :=
  deedsOf chronicle.annals.deed tokenId feed

/-- What is new in the log takes each token from its old owner to its new one, at whatever time. -/
def Writes (before after : S) : Prop :=
  ∃ fresh, chronicle.logs after = fresh ++ chronicle.logs before ∧ ∀ time tokenId,
    Course (chronicle.owner before tokenId) (chronicle.course tokenId (fresh.map (time, ·)))
      (chronicle.owner after tokenId)

/-- No token has had an owner. -/
structure Blank (state : S) : Prop where
  owners : ∀ tokenId, chronicle.owner state tokenId = 0
  logs : chronicle.logs state = []

variable {chronicle} {before middle after : S} {fresh : List E} {named tokenId : Uint256}
  {to_ : Address} {said : List Deed}

theorem course_append {late early : List (Nat × E)} : chronicle.course tokenId (late ++ early) =
    chronicle.course tokenId late ++ chronicle.course tokenId early := deedsOf_append

theorem course_named
    (spoken : fresh.filterMap chronicle.annals.deed = said.map (Prod.mk named)) (time : Nat) :
    chronicle.course tokenId (fresh.map (time, ·)) =
      if tokenId = named then said.map (time, ·) else [] := by
  have split : chronicle.course tokenId (fresh.map (time, ·)) =
      (fresh.filterMap chronicle.annals.deed).filterMap fun told =>
        if told.1 = tokenId then some (time, told.2) else none := by
    unfold course deedsOf
    rw [List.filterMap_map, List.filterMap_filterMap]
    rfl
  rw [split, spoken, List.filterMap_map]
  by_cases here : tokenId = named
  · subst here
    rw [if_pos rfl, ← List.filterMap_eq_map]
    apply List.filterMap_congr
    intro deed _
    exact if_pos rfl
  · rw [if_neg here, List.filterMap_eq_nil_iff]
    intro deed _
    exact if_neg (Ne.symm here)

theorem Writes.trans (early : chronicle.Writes before middle)
    (late : chronicle.Writes middle after) : chronicle.Writes before after := by
  obtain ⟨first, grown, leads⟩ := early
  obtain ⟨second, grown', leads'⟩ := late
  refine ⟨second ++ first, ?_, ?_⟩
  · rw [grown', grown, List.append_assoc]
  · intro time tokenId
    rw [List.map_append, course_append]
    exact (leads time tokenId).trans (leads' time tokenId)

theorem Writes.quiet (grown : chronicle.logs after = fresh ++ chronicle.logs before)
    (silent : fresh.filterMap chronicle.annals.deed = [])
    (owners : chronicle.owner after = chronicle.owner before) : chronicle.Writes before after := by
  refine ⟨fresh, grown, ?_⟩
  intro time tokenId
  rw [@course_named _ _ chronicle fresh tokenId tokenId [] silent time, if_pos rfl, owners]
  exact .start

theorem Writes.on (grown : chronicle.logs after = fresh ++ chronicle.logs before)
    (spoken : fresh.filterMap chronicle.annals.deed = said.map (Prod.mk named))
    (leads : ∀ time, Course (chronicle.owner before named) (said.map (time, ·)) to_)
    (owners : chronicle.owner after = Function.update (chronicle.owner before) named to_) :
    chronicle.Writes before after := by
  refine ⟨fresh, grown, ?_⟩
  intro time tokenId
  rw [course_named spoken time, owners]
  by_cases here : tokenId = named
  · subst here
    rw [if_pos rfl, Function.update_self]
    exact leads time
  · rw [if_neg here, Function.update_of_ne here]
    exact .start

theorem Writes.logged {event : E} (silent : chronicle.annals.deed event = none)
    (grown : chronicle.logs after = event :: chronicle.logs before)
    (owners : chronicle.owner after = chronicle.owner before) : chronicle.Writes before after := by
  refine @Writes.quiet _ _ chronicle before after [event] grown ?_ owners
  rw [List.filterMap_cons, silent]
  rfl

/-- A transfer that nothing is told of, or a mint. -/
theorem Writes.transferred {event : E} {from_ : Address}
    (named : chronicle.annals.deed event = some (tokenId, transferDeed from_ to_))
    (owner : chronicle.owner before tokenId = from_)
    (grown : chronicle.logs after = event :: chronicle.logs before)
    (owners : chronicle.owner after = Function.update (chronicle.owner before) tokenId to_) :
    chronicle.Writes before after := by
  refine @Writes.on _ _ chronicle before after [event] tokenId to_ [transferDeed from_ to_] grown
    ?_ (fun time => ?_) owners
  · rw [List.filterMap_cons, named]
    rfl
  · unfold transferDeed
    by_cases mint : from_ = 0
    · rw [if_pos mint, owner, mint]
      exact .minted .start
    · rw [if_neg mint, owner]
      exact .passed .start mint

/-- A transfer of which the history is told right before. -/
theorem Writes.told {from_ : Address} {provenance : Provenance}
    (spoken : fresh.filterMap chronicle.annals.deed =
      [(tokenId, transferDeed from_ to_), (tokenId, .told from_ to_ provenance)])
    (owner : chronicle.owner before tokenId = from_) (owned : from_ ≠ 0)
    (grown : chronicle.logs after = fresh ++ chronicle.logs before)
    (owners : chronicle.owner after = Function.update (chronicle.owner before) tokenId to_) :
    chronicle.Writes before after := by
  rw [transferDeed, if_neg owned] at spoken
  refine @Writes.on _ _ chronicle before after fresh tokenId to_
    [.passed from_ to_, .told from_ to_ provenance] grown spoken (fun time => ?_) owners
  rw [owner]
  exact .told .start owned

section Runs

variable {X Q R L : Type} {entry : L → S → Outcome X S Q R S} {origin : S} {evm : Evm}
  {hexForm : Bytes → Bytes} {address : Address}

variable (chronicle entry origin)

/-- The events of a run, with the times of its calls, and the archive that they leave. -/
structure Archived (licensedUserWallet : Address → Bool) (now : Snapshot S (Nat × L))
    (feed : List (Nat × E)) (archive : Archive) : Prop where
  past : timeline entry chronicle.logs origin now.trace = some (now.state, feed)
  told : feed.map Prod.snd = chronicle.logs now.state
  indexed : Archive.index chronicle.annals.handle (.blank licensedUserWallet) feed = some archive

/-- The events lead each token to its owner, and its changes are kept just when they are
separate. -/
def Accounts (evm : Evm) (address : Address) (state : S) (feed : List (Nat × E))
    (archive : Archive) : Prop :=
  ∀ tokenId, Course 0 (chronicle.course tokenId feed) (chronicle.owner state tokenId) ∧
    (chronicle.annals.Apart evm address tokenId feed →
      (Keeps archive (srrEntityId evm address tokenId)
          (handovers (chronicle.course tokenId feed)) ↔
        Separate (handovers (chronicle.course tokenId feed))))

variable {chronicle entry origin}

theorem run_kept (lawful : chronicle.annals.Lawful evm hexForm) (forms : HexForm hexForm)
    (ids : chronicle.annals.source.entityId = srrEntityId evm address)
    (trailing : ∀ label state, (entry label state).Trailing)
    (writes : ∀ {label state state'}, (entry label state).front = some state' →
      chronicle.Writes state state')
    (blank : chronicle.Blank origin) {Legal : Nat × L → S → Prop}
    {config : Config X S Q R (Nat × L)}
    (reach : Reach (fun label => entry label.2) Legal origin config)
    (fed : chronicle.annals.source.Fed (chronicle.logs config.now.state))
    (licensedUserWallet : Address → Bool) :
    ∃ feed archive,
      chronicle.Archived entry origin licensedUserWallet config.now feed archive ∧
      chronicle.Accounts evm address config.now.state feed archive := by
  obtain ⟨feed, past⟩ := reach_timeline trailing reach
  have kept : feed.map Prod.snd = chronicle.logs config.now.state ∧
      ∀ tokenId, Course 0 (chronicle.course tokenId feed)
        (chronicle.owner config.now.state tokenId) := by
    refine @timeline_induction _ _ _ _ _ _ _ entry chronicle.logs origin (fun state feed =>
      ∀ tokenId, Course 0 (chronicle.course tokenId feed) (chronicle.owner state tokenId))
      ?_ blank.logs ?_ _ _ _ past
    · intro tokenId
      rw [blank.owners]
      exact .start
    · intro label state state' ran
      obtain ⟨fresh, grown, leads⟩ := writes ran
      refine ⟨fresh, grown, fun time feed _ courses tokenId => ?_⟩
      rw [course_append]
      exact (courses tokenId).trans (leads time tokenId)
  obtain ⟨told, courses⟩ := kept
  have logged : (feed.map Annals.emitted).map Emitted.event =
      chronicle.logs config.now.state := by
    rw [← told, List.map_map]
    rfl
  rw [← logged] at fed
  obtain ⟨store, stored⟩ := lawful.source.index_some licensedUserWallet fed
  rw [← lawful.index_store] at stored
  obtain ⟨archive, indexed, _⟩ := Option.map_eq_some_iff.mp stored
  exact ⟨feed, archive, ⟨past, told, indexed⟩, fun tokenId => ⟨courses tokenId, fun apart =>
    lawful.keeps_iff forms ids apart indexed courses⟩⟩

end Runs

end Chronicle

end Subgraph

open Subgraph

namespace Registry

def chronicle (evm : Evm) (hexForm : Bytes → Bytes) (address : Address) :
    Chronicle State Event where
  annals := registryAnnals evm hexForm address
  logs := State.logs
  owner := State._tokenOwner

variable {deployment : Deployment} {world : World} {msg msg' : Msg} {call call' : Call}
  {state state' before middle after : State} {evm : Evm} {hexForm : Bytes → Bytes}
  {address from_ to_ : Address} {tokenId : Uint256}

theorem Aside.writes (same : Aside before after) :
    (chronicle evm hexForm address).Writes before after := by
  obtain ⟨fresh, grown, quiet⟩ := same.logs
  refine .quiet grown (List.filterMap_eq_nil_iff.mpr fun event belongs => ?_) same.owners
  have aside := quiet event belongs
  cases event <;> first | rfl | cases aside

theorem mint_writes (minted : _mint before to_ tokenId = .ok after) :
    (chronicle evm hexForm address).Writes before after := by
  obtain ⟨absent, _, _, rfl⟩ := mint_accepted minted
  exact .transferred rfl absent rfl rfl

theorem transfer_writes (moved : _transfer before from_ to_ tokenId = .ok after) :
    (chronicle evm hexForm address).Writes before after := by
  obtain ⟨_, rfl, _, _, _, rfl⟩ := transfer_accepted moved
  have cleared : (chronicle evm hexForm address).Writes before
      (before.emit (.Approval (before._tokenOwner tokenId) 0 tokenId)) := .logged rfl rfl rfl
  exact cleared.trans (.transferred rfl rfl rfl rfl)

theorem told_writes {customHistoryId : Option Uint256} {isIntermediary : Bool}
    {historyMetadataHash historyMetadataURI : Bytes}
    (moved : _transfer middle from_ to_ tokenId = .ok after)
    (owners : middle._tokenOwner = before._tokenOwner)
    (told : middle.logs = .Provenance tokenId from_ to_ customHistoryId historyMetadataHash
      historyMetadataURI isIntermediary :: before.logs) :
    (chronicle evm hexForm address).Writes before after := by
  have grown := transfer_logs moved
  rw [told, List.append_cons] at grown
  obtain ⟨owned, rfl, _, _, _, rfl⟩ := transfer_accepted moved
  refine .told rfl (congrFun owners tokenId).symm owned grown ?_
  change Function.update middle._tokenOwner tokenId to_ = _
  rw [owners]
  rfl

theorem createSRRFor_writes {isPrimaryIssuer lockExternalTransfer_ : Bool}
    {artistAddress issuerAddress royaltyReceiver : Address} {metadataCID : Bytes}
    {royaltyBasisPoints : Uint16}
    (created : createSRRFor deployment before isPrimaryIssuer artistAddress metadataCID
      issuerAddress lockExternalTransfer_ to_ royaltyReceiver royaltyBasisPoints =
        .ok (after, tokenId)) :
    (chronicle evm hexForm address).Writes before after := by
  obtain ⟨middle, first, ending⟩ := createSRRFor_accepted created
  obtain ⟨_, minted, mint, aside⟩ := createSRR_aside first
  have recorded : (chronicle evm hexForm address).Writes minted
      (minted.recorded tokenId isPrimaryIssuer artistAddress issuerAddress metadataCID
        lockExternalTransfer_) := .logged rfl rfl rfl
  have creation := ((mint_writes mint).trans recorded).trans aside.writes
  rcases ending with ⟨_, transferred⟩ | ⟨_, rfl⟩
  · exact creation.trans (transfer_writes transferred)
  · exact creation

theorem approve_writes {customHistoryId : Uint256} {commitment : Bytes32}
    {historyMetadataHash : Bytes}
    (approved : _approveSRRByCommitment before tokenId commitment historyMetadataHash
      customHistoryId = .ok after) :
    (chronicle evm hexForm address).Writes before after := by
  obtain ⟨_, _, owners, _⟩ := approveSRRByCommitment_effect approved
  refine .quiet (approve_logs approved) ?_ owners
  change List.filterMap registryDeed _ = []
  split
  · rfl
  · rfl

theorem Accepted.writes (accepted : Accepted deployment world msg before call after) :
    (chronicle evm hexForm address).Writes before after := by
  cases accepted with
  | aside _ same => exact same.writes
  | createSRRFromLicensedUser _ creates => exact createSRRFor_writes creates
  | createSRRFromBulk _ creates => exact createSRRFor_writes creates
  | approveSRRByCommitmentFromBulk _ _ approved => exact approve_writes approved
  | approveSRRByCommitment _ approved => exact approve_writes approved
  | approveSRRByCommitmentWithHistory _ _ approved => exact approve_writes approved
  | cancelSRRCommitment _ => exact .logged rfl rfl rfl
  | transferSRRByReveal revealed =>
      obtain ⟨_, _, moved⟩ := transferSRRByReveal_accepted revealed
      exact told_writes moved rfl rfl
  | addHistory _ _ _ _ => exact .logged rfl rfl rfl
  | writeCustomHistory _ _ _ => exact .logged rfl rfl rfl
  | updateCustomHistory _ _ _ =>
      split
      · exact .logged rfl rfl rfl
      · exact .logged rfl rfl rfl
  | transferFrom _ _ moved => exact transfer_writes moved
  | safeTransferFrom _ _ moved => exact transfer_writes moved
  | transferFromWithProvenance _ _ moved => exact told_writes moved rfl rfl
  | transferFromWithProvenanceFromBulk _ _ _ moved => exact told_writes moved rfl rfl
  | approve _ _ _ _ => exact .logged rfl rfl rfl
  | setLockExternalTransfer _ _ => exact .logged rfl rfl rfl

theorem Runs.writes (runs : Runs deployment before msg call middle msg' call') :
    (chronicle evm hexForm address).Writes before middle := by
  induction runs with
  | direct state msg call => exact .quiet (List.nil_append _).symm rfl rfl
  | wrapped accepts _ _ ih =>
      obtain ⟨_, _, _, rfl⟩ := acceptMetaTransaction_consumes accepts
      refine Chronicle.Writes.trans ?_ ih
      exact .logged rfl rfl rfl

theorem entry_writes {transaction : Transaction}
    (ran : (entry deployment transaction state).front = some state') :
    (chronicle evm hexForm address).Writes state state' := by
  obtain ⟨middle, msg, call, runs, accepted⟩ := perform_accepted ran
  exact runs.writes.trans accepted.writes

theorem run_kept (forms : HexForm hexForm) {origin : State}
    (blank : (chronicle deployment.evm hexForm address).Blank origin)
    {config : Config Revert State Query Reply (Nat × Transaction)}
    (reach : Reach (fun call : Nat × Transaction => entry deployment call.2)
      (fun call => Describes deployment call.2) origin config)
    (licensedUserWallet : Address → Bool) :
    ∃ feed archive, (chronicle deployment.evm hexForm address).Archived (entry deployment) origin
        licensedUserWallet config.now feed archive ∧
      (chronicle deployment.evm hexForm address).Accounts deployment.evm address config.now.state
        feed archive := by
  have fed : (registrySource deployment.evm address).Fed config.now.state.logs := by
    refine reach.invariant (fun state => (registrySource deployment.evm address).Fed state.logs)
      ?_ ?_
    · have nothing : origin.logs = [] := blank.logs
      rw [nothing]
      trivial
    · intro call state describes held
      exact (perform_trailing _ _ _ _).keeps fun state' ran => entry_fed ran describes held
  exact (chronicle deployment.evm hexForm address).run_kept
    (registryAnnals_follows deployment.evm hexForm address).lawful forms rfl
    (fun _ _ => perform_trailing _ _ _ _) entry_writes blank reach fed licensedUserWallet

end Registry

namespace Collection

def chronicle (evm : Evm) (hexForm : Bytes → Bytes) (address : Address) :
    Chronicle State Event where
  annals := collectionAnnals evm hexForm address
  logs := State.logs
  owner state := state.erc721.ownerOf

variable {evm : Evm} {world : World} {msg : Msg} {call : Call} {before middle after : State}
  {hexForm : Bytes → Bytes}
  {address from_ to_ : Address} {tokenId : Uint256}

theorem Aside.writes (same : Aside before after) :
    (chronicle evm hexForm address).Writes before after := by
  obtain ⟨fresh, grown, quiet⟩ := same.logs
  refine .quiet grown (List.filterMap_eq_nil_iff.mpr fun event belongs => ?_) same.owners
  have aside := quiet event belongs
  cases event <;> first | rfl | cases aside

theorem mint_writes (minted : _mint before to_ tokenId = .ok after) :
    (chronicle evm hexForm address).Writes before after := by
  obtain ⟨absent, _, rfl⟩ := mint_accepted minted
  exact .transferred rfl absent rfl rfl

theorem transfer_writes (owner : from_ = before.erc721.ownerOf tokenId) :
    (chronicle evm hexForm address).Writes before (_transferFrom before from_ to_ tokenId) :=
  .transferred rfl owner.symm rfl rfl

theorem told_writes {historyMetadataHash : Bytes} {customHistoryId : Uint256}
    {isIntermediary : Bool} {signer : Option Address}
    (owned : before.erc721.ownerOf tokenId ≠ 0)
    (owners : middle.erc721.ownerOf = before.erc721.ownerOf)
    (told : middle.logs = (logProvenance before tokenId (before.erc721.ownerOf tokenId) to_
      historyMetadataHash customHistoryId isIntermediary signer).logs) :
    (chronicle evm hexForm address).Writes before
      (_transferFrom middle (before.erc721.ownerOf tokenId) to_ tokenId) := by
  have grown : (_transferFrom middle (before.erc721.ownerOf tokenId) to_ tokenId).logs =
      [.Transfer (before.erc721.ownerOf tokenId) to_ tokenId,
        .Provenance tokenId (before.erc721.ownerOf tokenId) to_ (historyOf customHistoryId)
          historyMetadataHash (buildTokenURI historyMetadataHash) isIntermediary signer] ++
        before.logs := congrArg (_ :: ·) told
  refine .told rfl rfl owned grown ?_
  change Function.update middle.erc721.ownerOf tokenId to_ = _
  rw [owners]
  rfl

theorem createRecord_writes {isPrimaryIssuer lockExternalTransfer fromBulk : Bool}
    {artistAddress issuerAddress royaltyReceiver : Address} {metadataCID : Bytes}
    {royaltyBasisPoints : Uint16}
    (creates : createRecord evm world msg before isPrimaryIssuer artistAddress metadataCID
      issuerAddress lockExternalTransfer royaltyReceiver royaltyBasisPoints fromBulk =
        .ok (middle, tokenId)) :
    (chronicle evm hexForm address).Writes before (passOn middle issuerAddress to_ tokenId) := by
  obtain ⟨_, _, moved, _, _⟩ := createRecord_effect creates
  obtain ⟨_, _, _, minted, mints, rfl⟩ := createRecord_accepted creates
  have saved : (chronicle evm hexForm address).Writes before (saveSRR before tokenId
      ⟨isPrimaryIssuer, artistAddress, issuerAddress⟩ metadataCID) :=
    .quiet (List.nil_append _).symm rfl rfl
  have recorded : (chronicle evm hexForm address).Writes minted (minted.recorded tokenId
      ⟨isPrimaryIssuer, artistAddress, issuerAddress⟩ metadataCID lockExternalTransfer) := by
    obtain ⟨same, logs⟩ := lockIf_same minted tokenId lockExternalTransfer
    exact .logged rfl (congrArg (_ :: ·) logs) (congrArg Book.owner same)
  have creation := ((saved.trans (mint_writes mints)).trans recorded).trans
    (upsertRoyalty_aside _ tokenId royaltyReceiver royaltyBasisPoints).writes
  unfold passOn
  split
  · refine creation.trans (transfer_writes ?_)
    exact (moved.owner.symm ▸ Function.update_self ..).symm
  · exact creation

theorem transferFrom_writes (moved : transferFrom msg before from_ to_ tokenId = .ok after) :
    (chronicle evm hexForm address).Writes before after := by
  obtain ⟨_, _, _, owner, rfl⟩ := transferFrom_accepted moved
  exact transfer_writes owner

theorem approve_writes {customHistoryId : Uint256} {commitment : Bytes32}
    {historyMetadataHash : Bytes} {signer toCheck : Address}
    (signed : onlyCollectionOwnerOrSRROwner before toCheck tokenId = .ok ())
    (approved : approveByCommitment world before tokenId commitment historyMetadataHash
      customHistoryId signer = .ok after) :
    (chronicle evm hexForm address).Writes before after := by
  obtain ⟨_, effect⟩ := @approveByCommitment_effect evm _ _ _ (.view []) _ _ _ _ _ _ signed
    approved
  obtain ⟨_, owners, _, _⟩ := effect.step
  refine .quiet (approve_logs approved) ?_ owners
  change List.filterMap collectionDeed _ = []
  split
  · rfl
  · rfl

theorem Accepted.writes (accepted : Accepted evm world msg before call after) :
    (chronicle evm hexForm address).Writes before after := by
  cases accepted with
  | aside _ same => exact same.writes
  | createSRR creates => exact createRecord_writes creates
  | createSRRFromBulk _ _ creates => exact createRecord_writes creates
  | addHistory _ _ _ => exact .logged rfl rfl rfl
  | setLockExternalTransfer _ _ _ => exact .logged rfl rfl rfl
  | transferFrom moved => exact transferFrom_writes moved
  | safeTransferFrom moved => exact transferFrom_writes moved
  | approve _ _ => exact .logged rfl rfl rfl
  | setApprovalForAll => exact .logged rfl rfl rfl
  | transferFromWithProvenance owned _ => exact told_writes owned rfl rfl
  | transferFromWithProvenanceFromBulk _ signed => exact told_writes (signed_owned signed) rfl rfl
  | approveSRRByCommitment signed approved => exact approve_writes signed approved
  | approveSRRByCommitmentFromBulk _ signed approved => exact approve_writes signed approved
  | cancelSRRCommitment _ => exact .logged rfl rfl rfl
  | transferSRRByReveal revealed =>
      obtain ⟨owned, _, rfl⟩ := transferSRRByReveal_accepted revealed
      exact told_writes owned rfl rfl

theorem run_kept (forms : HexForm hexForm) {origin : State}
    (blank : (chronicle evm hexForm address).Blank origin)
    {config : Config Revert State Query Reply (Nat × Transaction)}
    (reach : Reach (fun call : Nat × Transaction => entry evm call.2) (fun _ _ => True)
      origin config) (licensedUserWallet : Address → Bool) :
    ∃ feed archive, (chronicle evm hexForm address).Archived (entry evm) origin
        licensedUserWallet config.now feed archive ∧
      (chronicle evm hexForm address).Accounts evm address config.now.state feed archive := by
  have fed : (collectionSource evm address).Fed config.now.state.logs := by
    refine reach.invariant (fun state => (collectionSource evm address).Fed state.logs) ?_ ?_
    · have nothing : origin.logs = [] := blank.logs
      rw [nothing]
      trivial
    · intro call state _ held
      refine (entry_trailing evm call.2 state).keeps fun state' ran => ?_
      exact (entry_accepted ran).does.fed held
  exact (chronicle evm hexForm address).run_kept
    (collectionAnnals_follows evm hexForm address).lawful forms rfl (entry_trailing evm)
    (fun ran => (entry_accepted ran).writes) blank reach fed licensedUserWallet

end Collection

theorem handovers_kept (hexForm : Bytes → Bytes) (forms : HexForm hexForm)
    (licensedUserWallet : Address → Bool) :
    (∀ (deployment : Registry.Deployment) origin config,
      let chronicle := Registry.chronicle deployment.evm hexForm deployment.self
      chronicle.Blank origin →
      Reach (fun call : Nat × Registry.Transaction => Registry.entry deployment call.2)
        (fun call => Registry.Describes deployment call.2) origin config →
      ∃ feed archive, chronicle.Archived (Registry.entry deployment) origin licensedUserWallet
          config.now feed archive ∧
        ∀ tokenId, Course 0 (chronicle.course tokenId feed)
            (config.now.state._tokenOwner tokenId) ∧
          (chronicle.annals.Apart deployment.evm deployment.self tokenId feed →
            (Keeps archive (srrEntityId deployment.evm deployment.self tokenId)
                (handovers (chronicle.course tokenId feed)) ↔
              Separate (handovers (chronicle.course tokenId feed))))) ∧
    ∀ (evm : Evm) (address : Address) origin config,
      let chronicle := Collection.chronicle evm hexForm address
      chronicle.Blank origin →
      Reach (fun call : Nat × Collection.Transaction => Collection.entry evm call.2)
        (fun _ _ => True) origin config →
      ∃ feed archive, chronicle.Archived (Collection.entry evm) origin licensedUserWallet
          config.now feed archive ∧
        ∀ tokenId, Course 0 (chronicle.course tokenId feed)
            (config.now.state.erc721.ownerOf tokenId) ∧
          (chronicle.annals.Apart evm address tokenId feed →
            (Keeps archive (srrEntityId evm address tokenId)
                (handovers (chronicle.course tokenId feed)) ↔
              Separate (handovers (chronicle.course tokenId feed)))) := by
  constructor
  · intro deployment origin config chronicle blank reach
    exact Registry.run_kept forms blank reach licensedUserWallet
  · intro evm address origin config chronicle blank reach
    exact Collection.run_kept forms blank reach licensedUserWallet

section Samples

def sampleForm (text : Bytes) : Bytes := fromUTF8 (hexlify ((spelled text).getD []))

theorem sampleForm_hexForm : HexForm sampleForm := by
  intro text _
  refine ⟨_, rfl, ?_⟩
  rintro read known
  rw [known]
  rfl

def timedEvm : Evm :=
  let registryId : Bytes32 := 0xf0b57431dffdfed76b29076860e48d073dffe40154ca46a030d21fc89a985985
  let collectionId : Bytes32 := 0x599879183ba46e3ef99054e02327ca57b0627ac8f14222cfafb3b4072d5cfe2b
  Evm.ofTables [(ascii "Qm" ++ packWord (0xa271 : Address),
      0xecec4fabaa1929b1d8116ac6e36e09ab5d40ad76d1a1fbd75cf249d2e2722535),
    (entityInput 0x5e1f Registry.recordId, registryId),
    (provenanceInput registryId 1700000000000,
      0x03c4600ccf7536feb1af028691561e7c0ea7323efd13aee15fddb9acbbccd74c),
    (provenanceInput registryId 1700000012000,
      0x6f0c3963ef5d0ea51fa3297aeca965f500ec2b622ed4e5f57d7c84a18002b14e),
    (entityInput 0xc011 Collection.recordId, collectionId),
    (provenanceInput collectionId 1700000000000,
      0x2a7c75ca6473a4cf1f6a390eb001fcc701c93aa8dfa3cb42d8a57b1a34ed1532),
    (provenanceInput collectionId 1700000012000,
      0xe9347a0892371bbf807b43ea714fdcf7659f27f796c39dc431e06e740f504104)] []

namespace Registry

def timedDeployment : Deployment := ⟨timedEvm, 0x5e1f, fun _ => none⟩

def passSample : Transaction :=
  sampleCall 0xa11ce (.transferFromWithProvenance 0xb0b recordId (ascii "Qm") 0 false)

def returnSample : Transaction := sampleCall 0xb0b (.transferFrom 0xb0b 0xa11ce recordId)

def passedRun : Config Revert State Query Reply (Nat × Transaction) :=
  let enter := Config.enter fun call : Nat × Transaction => entry timedDeployment call.2
  enter (1700000012, passSample) (enter (1700000000, createSample) (.start State.blank))

def returnedRun : Config Revert State Query Reply (Nat × Transaction) :=
  passedRun.enter (fun call => entry timedDeployment call.2) (1700000012, returnSample)

theorem timed_describes {transaction : Transaction} {state : State}
    (described : transaction.call.blanks = false) :
    Describes timedDeployment transaction state := describes_direct (fun _ => rfl) described

theorem passedRun_reach : Reach (fun call : Nat × Transaction => entry timedDeployment call.2)
    (fun call => Describes timedDeployment call.2) State.blank passedRun :=
  .enter (1700000012, passSample) (.enter (1700000000, createSample) .start (timed_describes rfl))
    (timed_describes rfl)

theorem returnedRun_reach : Reach (fun call : Nat × Transaction => entry timedDeployment call.2)
    (fun call => Describes timedDeployment call.2) State.blank returnedRun :=
  .enter (1700000012, returnSample) passedRun_reach (timed_describes rfl)

theorem chronicle_blank (evm : Evm) (hexForm : Bytes → Bytes) (address : Address) :
    (chronicle evm hexForm address).Blank State.blank := ⟨fun _ => rfl, rfl⟩

set_option maxRecDepth 8000 in
theorem passedRun_separate :
    ((timeline (entry timedDeployment) State.logs State.blank passedRun.now.trace).map
      fun (_, feed) => decide
        ((registryAnnals timedEvm sampleForm 0x5e1f).Apart timedEvm 0x5e1f recordId feed ∧
          Separate (handovers (deedsOf registryDeed recordId feed)) ∧
          (handovers (deedsOf registryDeed recordId feed)).map Handover.to_ = [0xb0b])) =
      some true := by decide

set_option maxRecDepth 8000 in
theorem returnedRun_together :
    ((timeline (entry timedDeployment) State.logs State.blank returnedRun.now.trace).map
      fun (_, feed) => decide
        ((registryAnnals timedEvm sampleForm 0x5e1f).Apart timedEvm 0x5e1f recordId feed ∧
          ¬Separate (handovers (deedsOf registryDeed recordId feed)))) = some true := by decide

end Registry

namespace Collection

def passedRun : Config Revert State Query Reply (Nat × Transaction) :=
  let enter := Config.enter fun call : Nat × Transaction => entry timedEvm call.2
  enter (1700000012, sampleCall 0xa11ce (.transferFromWithProvenance 0xb0b recordId (ascii "Qm") 0
      true))
    (enter (1700000000, createSample)
      (enter (1700000000, sampleCall 0xfac (.initializeOwnableFeature 0xa11ce))
        (enter (1700000000, sampleCall 0xfac (.initializeCollectionProxy 0xfea))
          (.start State.blank))))

theorem passedRun_reach : Reach (fun call : Nat × Transaction => entry timedEvm call.2)
    (fun _ _ => True) State.blank passedRun :=
  .enter _ (.enter _ (.enter _ (.enter _ .start trivial) trivial) trivial) trivial

theorem chronicle_blank (evm : Evm) (hexForm : Bytes → Bytes) (address : Address) :
    (chronicle evm hexForm address).Blank State.blank := ⟨fun _ => rfl, rfl⟩

set_option maxRecDepth 8000 in
theorem passedRun_separate :
    ((timeline (entry timedEvm) State.logs State.blank passedRun.now.trace).map
      fun (_, feed) => decide
        ((collectionAnnals timedEvm sampleForm 0xc011).Apart timedEvm 0xc011 recordId feed ∧
          Separate (handovers (deedsOf collectionDeed recordId feed)) ∧
          (handovers (deedsOf collectionDeed recordId feed)).map Handover.to_ = [0xb0b])) =
      some true := by decide

end Collection

theorem handovers_kept_passed :
    (∃ feed archive changes, (Registry.chronicle timedEvm sampleForm 0x5e1f).Archived
        (Registry.entry Registry.timedDeployment) Registry.State.blank (fun _ => false)
        Registry.passedRun.now feed archive ∧
      changes = handovers ((Registry.chronicle timedEvm sampleForm 0x5e1f).course
        Registry.recordId feed) ∧
      changes.map Handover.to_ = [0xb0b] ∧
      Keeps archive (srrEntityId timedEvm 0x5e1f Registry.recordId) changes) ∧
    ∃ feed archive changes, (Collection.chronicle timedEvm sampleForm 0xc011).Archived
        (Collection.entry timedEvm) Collection.State.blank (fun _ => false)
        Collection.passedRun.now feed archive ∧
      changes = handovers ((Collection.chronicle timedEvm sampleForm 0xc011).course
        Collection.recordId feed) ∧
      changes.map Handover.to_ = [0xb0b] ∧
      Keeps archive (srrEntityId timedEvm 0xc011 Collection.recordId) changes := by
  obtain ⟨registry, collection⟩ := handovers_kept sampleForm sampleForm_hexForm fun _ => false
  constructor
  · obtain ⟨feed, archive, archived, tokens⟩ := registry Registry.timedDeployment _ _
      (Registry.chronicle_blank _ _ _) Registry.passedRun_reach
    have told := (congrArg (Option.map _) archived.past).symm.trans Registry.passedRun_separate
    obtain ⟨apart, separate, passed⟩ := of_decide_eq_true (Option.some.inj told)
    exact ⟨feed, archive, _, archived, rfl, passed, ((tokens _).2 apart).mpr separate⟩
  · obtain ⟨feed, archive, archived, tokens⟩ := collection timedEvm 0xc011 _ _
      (Collection.chronicle_blank _ _ _) Collection.passedRun_reach
    have told := (congrArg (Option.map _) archived.past).symm.trans Collection.passedRun_separate
    obtain ⟨apart, separate, passed⟩ := of_decide_eq_true (Option.some.inj told)
    exact ⟨feed, archive, _, archived, rfl, passed, ((tokens _).2 apart).mpr separate⟩

theorem returnedRun_lost :
    ¬∀ config, Reach (fun call : Nat × Registry.Transaction =>
          Registry.entry Registry.timedDeployment call.2) (fun _ _ => True)
        Registry.State.blank config →
      (config.now.trace.map Prod.fst).Pairwise (· ≥ ·) →
      let chronicle := Registry.chronicle timedEvm sampleForm 0x5e1f
      ∃ feed archive, chronicle.Archived (Registry.entry Registry.timedDeployment)
          Registry.State.blank (fun _ => false) config.now feed archive ∧
        ∀ tokenId, chronicle.annals.Apart timedEvm 0x5e1f tokenId feed →
          Keeps archive (srrEntityId timedEvm 0x5e1f tokenId)
            (handovers (chronicle.course tokenId feed)) := by
  intro kept
  have ordered : (Registry.returnedRun.now.trace.map Prod.fst).Pairwise (· ≥ ·) := by decide
  obtain ⟨feed, archive, archived, keeps⟩ := kept _
    (Registry.returnedRun_reach.mono fun _ _ _ => trivial) ordered
  obtain ⟨feed', archive', archived', tokens⟩ := Registry.run_kept sampleForm_hexForm
    (Registry.chronicle_blank _ sampleForm 0x5e1f) Registry.returnedRun_reach
    fun _ => false
  have same := Option.some.inj (archived.past.symm.trans archived'.past)
  obtain rfl : feed = feed' := congrArg Prod.snd same
  obtain rfl : archive = archive' :=
    Option.some.inj (archived.indexed.symm.trans archived'.indexed)
  have told := (congrArg (Option.map _) archived.past).symm.trans Registry.returnedRun_together
  obtain ⟨apart, shared⟩ := of_decide_eq_true (Option.some.inj told)
  exact shared (((tokens _).2 apart).mp (keeps _ apart))

end Samples

end Startrail
