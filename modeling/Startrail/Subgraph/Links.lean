import Mathlib.Data.List.ProdSigma
import Startrail.CustomHistories
import Startrail.Subgraph.Commitments
import Startrail.Subgraph.Revisions

/-!
The links of SRRs to custom histories that the subgraph keeps. A call links some tokens to some
custom histories, each to each; of all links of a token to a custom history the latest stays, and
both are there. An empty CID in an update of the metadata would stop the subgraph, so no call gives
one.
-/

namespace Startrail

namespace Subgraph

section Handlers

structure SRRHistory where
  srr : Bytes32
  customHistory : Uint256
  createdAt : Nat
deriving DecidableEq

-- `srrId + customHistoryId`, where the id of a record is a hash in hex.
def historyInput (srrId : Bytes32) (customHistoryId : Uint256) : Bytes :=
  fromUTF8 (hexlify (packWord srrId) ++ decimalText customHistoryId.toNat)

variable (evm : Evm) (address : Address)

def handleSRRHistory (srrHistory : Bytes32 → Option SRRHistory) (eventTimestampMillis : Nat)
    (tokenIds customHistoryIds : List Uint256) : Bytes32 → Option SRRHistory :=
  tokenIds.foldl (fun saved tokenId =>
    let srrId := srrEntityId evm address tokenId
    customHistoryIds.foldl (fun saved customHistoryId =>
      let historyId := evm.keccak256 (historyInput srrId customHistoryId)
      Function.update saved historyId (some
        { srr := srrId
          customHistory := customHistoryId
          createdAt := eventTimestampMillis })) saved) srrHistory

def handleHistoryEvent (srrHistory : Bytes32 → Option SRRHistory)
    (emitted : Emitted Registry.Event) : Bytes32 → Option SRRHistory :=
  match emitted.event with
  | .History tokenIds customHistoryIds =>
      handleSRRHistory evm address srrHistory emitted.eventUTCMillis tokenIds customHistoryIds
  | _ => srrHistory

/-- The links after a log with times, whose latest event comes first. -/
def indexHistory : List (Nat × Registry.Event) → Bytes32 → Option SRRHistory
  | [] => fun _ => none
  | (timestamp, event) :: earlier =>
      handleHistoryEvent evm address (indexHistory earlier) ⟨timestamp, event⟩

end Handlers

section Links

structure Link where
  tokenId : Uint256
  customHistoryId : Uint256
  timestamp : Nat
deriving DecidableEq

/-- What an event links. -/
def pairsOf : Registry.Event → List (Uint256 × Uint256)
  | .History tokenIds customHistoryIds => tokenIds.product customHistoryIds
  | _ => []

def linksOf (timestamp : Nat) (pairs : List (Uint256 × Uint256)) : List Link :=
  (pairs.map fun pair => ⟨pair.1, pair.2, timestamp⟩).reverse

/-- The links of a log, the latest first. -/
def links (feed : List (Nat × Registry.Event)) : List Link :=
  feed.flatMap fun logged => linksOf logged.1 (pairsOf logged.2)

def Link.pair (link : Link) : Uint256 × Uint256 := (link.tokenId, link.customHistoryId)

variable (evm : Evm) (address : Address)

def Link.input (link : Link) : Bytes :=
  historyInput (srrEntityId evm address link.tokenId) link.customHistoryId

def Link.id (link : Link) : Bytes32 := evm.keccak256 (link.input evm address)

def Link.entity (link : Link) : SRRHistory where
  srr := srrEntityId evm address link.tokenId
  customHistory := link.customHistoryId
  createdAt := secondsToMillis link.timestamp

/-- What is hashed for the ids of a link and of its token. -/
def Link.hashedInputs (link : Link) : List Bytes :=
  [entityInput address link.tokenId, link.input evm address]

variable {evm address} {feed : List (Nat × Registry.Event)} {earlier late early : List Link}
  {link other : Link} {timestamp : Nat}

theorem handleSRRHistory_listing {tokenIds customHistoryIds : List Uint256} :
    handleSRRHistory evm address (listing (Link.id evm address) (Link.entity evm address) earlier)
        (secondsToMillis timestamp) tokenIds customHistoryIds =
      listing (Link.id evm address) (Link.entity evm address)
        (linksOf timestamp (tokenIds.product customHistoryIds) ++ earlier) := by
  rw [linksOf, ← listing_foldl, List.product, List.foldl_map, List.foldl_flatMap]
  simp only [List.foldl_map]
  rfl

theorem indexHistory_eq (feed : List (Nat × Registry.Event)) :
    indexHistory evm address feed =
      listing (Link.id evm address) (Link.entity evm address) (links feed) := by
  induction feed with
  | nil => rfl
  | cons logged earlier ih =>
      obtain ⟨timestamp, event⟩ := logged
      cases event with
      | History tokenIds customHistoryIds =>
          rw [indexHistory, handleHistoryEvent, ih]
          exact handleSRRHistory_listing
      | _ => exact ih

theorem links_pair (listed : link ∈ links feed) :
    link.pair ∈ (feed.map Prod.snd).flatMap pairsOf := by
  obtain ⟨logged, belongs, told⟩ := List.mem_flatMap.mp listed
  obtain ⟨pair, paired, rfl⟩ := List.mem_map.mp (List.mem_reverse.mp told)
  exact List.mem_flatMap.mpr ⟨logged.2, List.mem_map_of_mem belongs, paired⟩

theorem id_inj {items : List Link}
    (free : evm.CollisionFree (items.flatMap (Link.hashedInputs evm address)))
    (listed : link ∈ items) (listed' : other ∈ items)
    (same : link.id evm address = other.id evm address) : link.pair = other.pair := by
  have hashed : ∀ {link}, link ∈ items → ∀ input ∈ Link.hashedInputs evm address link,
      input ∈ items.flatMap (Link.hashedInputs evm address) :=
    fun member input belongs => List.mem_flatMap.mpr ⟨_, member, belongs⟩
  have inputs : link.input evm address = other.input evm address :=
    free _ (hashed listed _ (List.mem_cons_of_mem _ List.mem_cons_self)) _
      (hashed listed' _ (List.mem_cons_of_mem _ List.mem_cons_self)) same
  obtain ⟨ids, histories⟩ := provenanceInput_inj inputs
  have tokens := entityInput_inj (free _ (hashed listed _ List.mem_cons_self) _
    (hashed listed' _ List.mem_cons_self) ids)
  exact Prod.ext tokens (BitVec.eq_of_toNat_eq histories)

theorem indexHistory_latest
    (free : evm.CollisionFree ((links feed).flatMap (Link.hashedInputs evm address)))
    (told : links feed = late ++ link :: early) (last : ∀ other ∈ late, other.pair ≠ link.pair) :
    indexHistory evm address feed (link.id evm address) = some (link.entity evm address) := by
  rw [indexHistory_eq, told]
  rw [told] at free
  refine written_of_lookup (List.lookup_eq_some_iff.mpr ⟨_, _, List.map_append, ?_⟩)
  intro write written
  obtain ⟨other, before, rfl⟩ := List.mem_map.mp written
  rw [bne_iff_ne]
  intro same
  refine last other before (id_inj free ?_ ?_ same.symm)
  · exact List.mem_append_left _ before
  · exact List.mem_append_right _ List.mem_cons_self

end Links

end Subgraph

open Subgraph

namespace Registry

section Calls

variable {deployment : Deployment} {world : World} {msg msg' : Msg} {call call' : Call}
  {before middle after state state' : State} {from_ to_ : Address} {tokenId : Uint256}
  {fresh : List Event}

/-- What the log of the contract links. -/
def linkedPairs (state : State) : List (Uint256 × Uint256) := state.logs.flatMap pairsOf

def Call.links : Call → List (Uint256 × Uint256)
  | .addHistory tokenIds customHistoryIds => tokenIds.product customHistoryIds
  | _ => []

theorem links_grown (grown : after.logs = fresh ++ before.logs)
    (silent : fresh.flatMap pairsOf = []) : linkedPairs after = linkedPairs before := by
  rw [linkedPairs, grown, List.flatMap_append, silent]
  rfl

theorem Aside.links (aside : Aside before after) : linkedPairs after = linkedPairs before := by
  obtain ⟨fresh, grown, quiet⟩ := aside.logs
  refine links_grown grown (List.flatMap_eq_nil_iff.mpr ?_)
  intro event belongs
  have silent := quiet event belongs
  cases event <;> first | rfl | cases silent

theorem links_aside (aside : call.aside = true) : call.links = [] := by
  cases call <;> first | rfl | cases aside

theorem links_overlooks : Overlooks linkedPairs where
  transfer moved := links_grown (transfer_logs moved) rfl
  mint minted := by
    obtain ⟨_, _, _, rfl⟩ := mint_accepted minted
    rfl
  saveRoyalties saved := by
    obtain ⟨_, _, _, rfl⟩ := saveRoyalties_accepted saved
    rfl
  royaltiesSet _ _ _ := rfl
  recorded _ _ _ _ _ _ _ := rfl
  cancelled state tokenId := by
    unfold cancelPriorApproval
    split
    · rfl
    · rfl
  stored _ _ _ _ := rfl
  storedHistory _ _ _ := rfl
  committed _ _ _ _ _ := rfl

theorem Accepted.links (accepted : Accepted deployment world msg before call after) :
    linkedPairs after = call.links ++ linkedPairs before := by
  cases accepted with
  | aside aside same =>
      rw [links_aside aside]
      exact same.links
  | createSRRFromLicensedUser _ creates => exact links_overlooks.createSRRFor creates
  | createSRRFromBulk _ creates => exact links_overlooks.createSRRFor creates
  | approveSRRByCommitmentFromBulk _ _ approved =>
      exact links_overlooks.approveSRRByCommitment approved
  | approveSRRByCommitment _ approved => exact links_overlooks.approveSRRByCommitment approved
  | approveSRRByCommitmentWithHistory _ _ approved =>
      exact links_overlooks.approveSRRByCommitment approved
  | transferSRRByReveal revealed =>
      obtain ⟨_, _, moved⟩ := transferSRRByReveal_accepted revealed
      exact (links_overlooks.transfer moved).trans rfl
  | updateCustomHistory _ _ _ =>
      split
      · rfl
      · rfl
  | transferFrom _ _ moved => exact links_overlooks.transfer moved
  | safeTransferFrom _ _ moved => exact links_overlooks.transfer moved
  | transferFromWithProvenance _ _ moved => exact (links_overlooks.transfer moved).trans rfl
  | transferFromWithProvenanceFromBulk _ _ _ moved =>
      exact (links_overlooks.transfer moved).trans rfl
  | _ => rfl

theorem Accepted.links_known (accepted : Accepted deployment world msg before call after) :
    ∀ pair ∈ call.links, before._tokenOwner pair.1 ≠ 0 ∧ Named before pair.2 := by
  cases accepted with
  | aside aside _ =>
      rw [links_aside aside]
      exact List.forall_mem_nil _
  | addHistory _ _ tokens known =>
      rintro ⟨tokenId, customHistoryId⟩ linked
      obtain ⟨token, history⟩ := List.mem_product.mp linked
      constructor
      · have checked := forEach_all tokens tokenId token
        simp only [bind_eq_ok, require_eq_ok] at checked
        obtain ⟨_, owned, _⟩ := checked
        simpa [_exists] using owned
      · exact customHistoryIdExists_named.mp (forEach_all known customHistoryId history)
  | _ => exact List.forall_mem_nil _

theorem Runs.links (runs : Runs deployment before msg call middle msg' call') :
    linkedPairs middle = linkedPairs before := by
  induction runs with
  | direct state msg call => rfl
  | wrapped accepts _ _ ih =>
      obtain ⟨_, _, _, rfl⟩ := acceptMetaTransaction_consumes accepts
      exact ih

end Calls

section Runs

variable {deployment : Deployment} {evm : Evm} {address : Address} {state state' : State}
  {transaction : Transaction} {feed : List (Nat × Event)} {tokenId : Uint256}

/-- The token came into being in the log, and its record with it. -/
def Entered (evm : Evm) (address : Address) (state : State) (tokenId : Uint256) : Prop :=
  ((contract evm address).notes state tokenId).any DataSource.records = true

/-- A token with an owner has been entered, and what is linked is there. -/
structure Connected (evm : Evm) (address : Address) (state : State) : Prop where
  fed : (registrySource evm address).Fed state.logs
  catalogued : Catalogued state
  owned : ∀ tokenId, state._tokenOwner tokenId ≠ 0 → Entered evm address state tokenId
  linked : ∀ pair ∈ linkedPairs state, Entered evm address state pair.1 ∧ Named state pair.2

theorem Act.moves_records {act : Act} {stored : Approval} (moves : act.moves = true) :
    (act.notes stored).any DataSource.records = true := by
  cases act with
  | create passedOn => cases passedOn <;> rfl
  | hand owned => cases owned <;> rfl
  | reveal => rfl
  | _ => cases moves

theorem Entered.stays {did : Option (Uint256 × Act)} (entered : Entered evm address state tokenId)
    (does : (contract evm address).Does did state state') :
    Entered evm address state' tokenId := by
  rw [Entered, does.notes, List.any_append, Bool.or_eq_true]
  exact Or.inr entered

theorem entry_connected (ran : (entry deployment transaction state).front = some state')
    (describes : Describes deployment transaction state)
    (connected : Connected deployment.evm address state) :
    Connected deployment.evm address state' := by
  obtain ⟨middle, msg, call, runs, accepted⟩ := perform_accepted ran
  have does := runs.does_accepted accepted (describes _ _ _ runs) address
  obtain ⟨catalogued, grows⟩ := (runs.notes accepted).1.grows connected.catalogued
  refine ⟨does.fed connected.fed, catalogued, ?_, ?_⟩
  · intro tokenId owned
    rcases does.owner tokenId owned with before | moves
    · exact (connected.owned tokenId before).stays does
    · rw [Entered, does.notes, List.any_append, Bool.or_eq_true]
      exact Or.inl (Act.moves_records moves)
  · intro pair linked
    rw [accepted.links, runs.links] at linked
    rcases List.mem_append.mp linked with fresh | old
    · obtain ⟨owned, named⟩ := accepted.links_known pair fresh
      have first : (contract deployment.evm address).Does none state middle := runs.does
      have before := (first.owner pair.1 owned).resolve_right nofun
      exact ⟨(connected.owned _ before).stays does, grows _ (runs.quiet.named.mp named)⟩
    · obtain ⟨entered, named⟩ := connected.linked pair old
      exact ⟨entered.stays does, grows _ named⟩

/-- There are no tokens and no custom histories yet. -/
structure Unlinked (state : State) : Prop where
  owners : ∀ tokenId, state._tokenOwner tokenId = 0
  histories : NoHistories state

theorem Unlinked.connected (unlinked : Unlinked state) : Connected evm address state := by
  have nothing : linkedPairs state = [] := by
    rw [linkedPairs, unlinked.histories.logs]
    rfl
  refine ⟨?_, ?_, ?_, ?_⟩
  · rw [unlinked.histories.logs]
    trivial
  · intro id named
    rw [named_iff, unlinked.histories.names] at named
    exact absurd rfl named
  · exact fun tokenId owned => absurd (unlinked.owners tokenId) owned
  · rw [nothing]
    exact List.forall_mem_nil _

/-- The subgraph has both ends of each link, and the latest of the links of a token to a custom
history has the entity of the two. -/
structure Linked (evm : Evm) (address : Address) (feed : List (Nat × Event)) : Prop where
  records : ∀ licensedUserWallet, ∃ store,
    index (registrySource evm address).handle (.blank licensedUserWallet)
        (feed.map fun logged => ⟨logged.1, logged.2⟩) = some store ∧
      ∀ link ∈ links feed, (store.srr (srrEntityId evm address link.tokenId)).isSome = true
  histories : ∀ link ∈ links feed,
    ((Gallery.index evm feed).customHistory link.customHistoryId).isSome = true
  kept : ∀ id srrHistory, indexHistory evm address feed id = some srrHistory →
    ∃ link ∈ links feed, link.id evm address = id ∧ link.entity evm address = srrHistory
  latest : evm.CollisionFree ((links feed).flatMap (Link.hashedInputs evm address)) →
    ∀ late link early, links feed = late ++ link :: early →
      (∀ other ∈ late, other.pair ≠ link.pair) →
        indexHistory evm address feed (link.id evm address) = some (link.entity evm address)

theorem Connected.entered (connected : Connected evm address state)
    (fed : feed.map Prod.snd = state.logs) (licensedUserWallet : Address → Bool) :
    ∃ store, index (registrySource evm address).handle (.blank licensedUserWallet)
        (feed.map fun logged => ⟨logged.1, logged.2⟩) = some store ∧
      ∀ link ∈ links feed, (store.srr (srrEntityId evm address link.tokenId)).isSome = true := by
  have events : (feed.map fun logged => (⟨logged.1, logged.2⟩ : Emitted Event)).map
      Emitted.event = state.logs := by
    rw [List.map_map, ← fed]
    rfl
  have lawful := registrySource_lawful evm address
  obtain ⟨store, indexed⟩ := lawful.index_some licensedUserWallet (events ▸ connected.fed)
  refine ⟨store, indexed, fun link listed => ?_⟩
  have told := links_pair listed
  rw [fed] at told
  obtain ⟨note, noted, records⟩ := List.any_eq_true.mp (connected.linked _ told).1
  have view := lawful.index_view licensedUserWallet indexed (srrEntityId evm address link.tokenId)
  rw [events] at view
  have known : (viewOf store (srrEntityId evm address link.tokenId)).srr.isSome = true := by
    rw [view]
    refine DataSource.view_records (List.any_eq_true.mpr ⟨note, ?_, records⟩)
    exact ((registrySource evm address).notes_sublist link.tokenId state.logs).subset noted
  simpa [viewOf] using known

theorem links_kept (deployment : Deployment) (origin : State) (unlinked : Unlinked origin)
    (config : Config Revert State Query Reply (Nat × Transaction))
    (reach : Reach (fun call : Nat × Transaction => entry deployment call.2)
      (fun call => Describes deployment call.2) origin config) :
    ∃ feed, timeline (entry deployment) State.logs origin config.now.trace =
        some (config.now.state, feed) ∧
      feed.map Prod.snd = config.now.state.logs ∧
      Linked deployment.evm deployment.self feed := by
  obtain ⟨feed, past, told, kept⟩ := reach_changes unlinked.histories reach
  have connected : Connected deployment.evm deployment.self config.now.state := by
    refine reach.invariant (Connected deployment.evm deployment.self) unlinked.connected ?_
    intro call state describes connected
    exact (perform_trailing _ _ _ _).keeps fun state' ran =>
      entry_connected ran describes connected
  refine ⟨feed, past, told, connected.entered told, ?_, ?_, ?_⟩
  · intro link listed
    have linked := links_pair listed
    rw [told] at linked
    have named := (connected.linked _ linked).2
    have shown := kept.known link.customHistoryId fun empty => named (congrArg List.length empty)
    rw [← (index_shows kept.grounded).shown, Option.isSome_map] at shown
    exact shown
  · intro id srrHistory found
    rw [indexHistory_eq] at found
    exact listing_mem found
  · exact fun free late link early => indexHistory_latest free

end Runs

section Samples

def linkedEvm : Evm :=
  let registryId : Bytes32 := 0xf0b57431dffdfed76b29076860e48d073dffe40154ca46a030d21fc89a985985
  Evm.ofTables [(ascii "Qm" ++ packWord (0xa271 : Address),
      0xecec4fabaa1929b1d8116ac6e36e09ab5d40ad76d1a1fbd75cf249d2e2722535),
    (entityInput 0x5e1f recordId, registryId),
    (historyInput registryId 1,
      0xdc014fa5ee3f5f05401d74ac4128c69e76095db7b2cd89ab7d0b39e42c0d00da)] []

def linkedDeployment : Deployment := ⟨linkedEvm, 0x5e1f, fun _ => none⟩

def linkSample : Transaction := sampleCall 0xad317 (.addHistory [recordId] [1])

/-- A record is linked to a custom history, and later once more. -/
def linkedRun : Config Revert State Query Reply (Nat × Transaction) :=
  let enter := Config.enter fun call : Nat × Transaction => entry linkedDeployment call.2
  enter (1700000012, linkSample) (enter (1700000000, linkSample)
    (enter (1700000000, createSample)
      (enter (1700000000, writeSample (ascii "A"))
        (enter (1700000000, sampleCall 0xad317 (.addCustomHistoryType (ascii "exhibition")))
          (enter (1700000000, sampleCall 0xad317 (.setMaxCombinedHistoryRecords 1))
            (.start State.blank))))))

theorem linked_describes {transaction : Transaction} {state : State}
    (described : transaction.call.blanks = false) :
    Describes linkedDeployment transaction state := describes_direct (fun _ => rfl) described

theorem linkedRun_reach : Reach (fun call : Nat × Transaction => entry linkedDeployment call.2)
    (fun call => Describes linkedDeployment call.2) State.blank linkedRun := by
  refine .enter _ (.enter _ (.enter _ (.enter _ (.enter _ (.enter _ .start ?_) ?_) ?_) ?_) ?_) ?_
  · exact linked_describes rfl
  · exact linked_describes rfl
  · exact linked_describes rfl
  · exact linked_describes rfl
  · exact linked_describes rfl
  · exact linked_describes rfl

theorem unlinked_blank : Unlinked State.blank := ⟨fun _ => rfl, noHistories_blank⟩

set_option maxRecDepth 8000 in
theorem linkedRun_links :
    ((timeline (entry linkedDeployment) State.logs State.blank linkedRun.now.trace).map
      fun (_, feed) => decide
        (links feed = [⟨recordId, 1, 1700000012⟩, ⟨recordId, 1, 1700000000⟩] ∧
          linkedEvm.CollisionFree ((links feed).flatMap (Link.hashedInputs linkedEvm 0x5e1f)))) =
      some true := by decide

theorem links_kept_sample :
    ∃ feed, timeline (entry linkedDeployment) State.logs State.blank linkedRun.now.trace =
        some (linkedRun.now.state, feed) ∧
      indexHistory linkedEvm 0x5e1f feed (Link.id linkedEvm 0x5e1f ⟨recordId, 1, 1700000012⟩) =
        some (Link.entity linkedEvm 0x5e1f ⟨recordId, 1, 1700000012⟩) := by
  obtain ⟨feed, past, _, linked⟩ := links_kept linkedDeployment _ unlinked_blank _
    linkedRun_reach
  have told := (congrArg (Option.map _) past).symm.trans linkedRun_links
  obtain ⟨listed, free⟩ := of_decide_eq_true (Option.some.inj told)
  exact ⟨feed, past, linked.latest free [] _ _ listed (List.forall_mem_nil _)⟩

end Samples

end Registry

end Startrail
