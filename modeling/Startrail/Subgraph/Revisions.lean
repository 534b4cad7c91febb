import Startrail.Library.Tables
import Startrail.Library.Timelines
import Startrail.Registry.Catalogues
import Startrail.Subgraph.Calls
import Startrail.Subgraph.Provenance

/-!
The revisions of custom histories that the subgraph keeps. An update replaces the name and the
metadata of a custom history, and what it replaces goes into an entity whose id is made of the old
metadata and of the time of the block, but not of the custom history.
-/

namespace Startrail

namespace Subgraph

section Handlers

structure CustomHistory where
  historyType : Uint256
  name : Bytes
  metadataDigest : Bytes
  createdAt : Nat
  updatedAt : Nat

structure CustomHistoryMetadataHistory where
  name : Bytes
  metadataDigest : Bytes
  customHistory : Uint256
  createdAt : Nat
deriving DecidableEq

/-- The entities of the custom histories, by their ids, and of their revisions. -/
structure Gallery where
  customHistory : Uint256 → Option CustomHistory
  customHistoryMetadataHistory : Bytes32 → Option CustomHistoryMetadataHistory

def Gallery.blank : Gallery := ⟨fun _ => none, fun _ => none⟩

def revisionInput (metadataDigest : Bytes) (now : Nat) : Bytes :=
  metadataDigest ++ fromUTF8 (decimalText now)

variable (evm : Evm) (gallery : Gallery)

def handleCreateCustomHistoryInternal (eventTimestampMillis : Nat) (id : Uint256) (name : Bytes)
    (customHistoryTypeId : Uint256) (metadataDigest : Bytes) : Gallery :=
  { gallery with
    customHistory := Function.update gallery.customHistory id (some
      { historyType := customHistoryTypeId
        name := name
        metadataDigest := metadataDigest
        createdAt := eventTimestampMillis
        updatedAt := eventTimestampMillis }) }

def handleUpdateCustomHistoryInternal (customHistoryId : Uint256) (now : Nat)
    (metadataDigest name : Bytes) : Gallery :=
  match gallery.customHistory customHistoryId with
  | none => gallery
  | some ch =>
      let id := evm.keccak256 (revisionInput ch.metadataDigest now)
      { customHistoryMetadataHistory :=
          Function.update gallery.customHistoryMetadataHistory id (some
            { name := ch.name
              metadataDigest := ch.metadataDigest
              customHistory := customHistoryId
              createdAt := now })
        customHistory := Function.update gallery.customHistory customHistoryId (some
          { ch with
            metadataDigest := metadataDigest
            name := name
            updatedAt := now }) }

-- The handlers of the overloads pass on a digest in hex and a CID as it is.
def metadataText : Registry.Metadata → Bytes
  | .metadataDigest digest => fromUTF8 (hexlify (packWord digest))
  | .metadataCID cid => cid

def handleCustomHistoryEvent (emitted : Emitted Registry.Event) : Gallery :=
  match emitted.event with
  | .CreateCustomHistory id name customHistoryTypeId metadata =>
      handleCreateCustomHistoryInternal gallery emitted.eventUTCMillis id name customHistoryTypeId
        (metadataText metadata)
  | .UpdateCustomHistory id name metadata =>
      handleUpdateCustomHistoryInternal evm gallery id emitted.eventUTCMillis
        (metadataText metadata) name
  | _ => gallery

/-- The gallery after a log with times, whose latest event comes first. -/
def Gallery.index : List (Nat × Registry.Event) → Gallery
  | [] => .blank
  | (timestamp, event) :: earlier =>
      handleCustomHistoryEvent evm (Gallery.index earlier) ⟨timestamp, event⟩

end Handlers

section Revisions

/-- What there is to see of a custom history. -/
structure Showing where
  name : Bytes
  metadata : Bytes
deriving DecidableEq

inductive HistoryChange where
  | created (id : Uint256) (showing : Showing)
  | updated (id : Uint256) (showing : Showing)

def HistoryChange.write : HistoryChange → Uint256 × Option Showing
  | .created id showing => (id, some showing)
  | .updated id showing => (id, some showing)

theorem HistoryChange.writes (change : HistoryChange) : change.write.2.isSome = true := by
  cases change
  · rfl
  · rfl

def changeOf : Registry.Event → Option HistoryChange
  | .CreateCustomHistory id name _ metadata => some (.created id ⟨name, metadataText metadata⟩)
  | .UpdateCustomHistory id name metadata => some (.updated id ⟨name, metadataText metadata⟩)
  | _ => none

def changes (feed : List (Nat × Registry.Event)) : List (Nat × HistoryChange) :=
  feed.filterMap fun (timestamp, event) => (changeOf event).map (timestamp, ·)

/-- What the last of the changes made of a custom history. -/
def current (changes : List (Nat × HistoryChange)) : Uint256 → Option Showing :=
  written (fun _ => none) (changes.map fun change => change.2.write)

structure Revision where
  customHistory : Uint256
  replaced : Showing
  timestamp : Nat

/-- The revisions of the custom histories that there were, the latest first. -/
def revisions : List (Nat × HistoryChange) → List Revision
  | [] => []
  | (_, .created _ _) :: earlier => revisions earlier
  | (timestamp, .updated id _) :: earlier =>
      match current earlier id with
      | some replaced => ⟨id, replaced, timestamp⟩ :: revisions earlier
      | none => revisions earlier

/-- What is updated was created before. -/
def Grounded : List (Nat × HistoryChange) → Prop
  | [] => True
  | (_, .created _ _) :: earlier => Grounded earlier
  | (_, .updated id _) :: earlier => (current earlier id).isSome = true ∧ Grounded earlier

def Revision.input (revision : Revision) : Bytes :=
  revisionInput revision.replaced.metadata (secondsToMillis revision.timestamp)

def Revision.entity (revision : Revision) : CustomHistoryMetadataHistory where
  name := revision.replaced.name
  metadataDigest := revision.replaced.metadata
  customHistory := revision.customHistory
  createdAt := secondsToMillis revision.timestamp

def CustomHistory.showing (ch : CustomHistory) : Showing := ⟨ch.name, ch.metadataDigest⟩

variable {evm : Evm} {feed : List (Nat × Registry.Event)}

/-- The subgraph shows what was last given, and has written down what was replaced. -/
structure Shows (evm : Evm) (gallery : Gallery) (changes : List (Nat × HistoryChange)) : Prop where
  shown : ∀ id, (gallery.customHistory id).map CustomHistory.showing = current changes id
  revised : gallery.customHistoryMetadataHistory =
    listing (fun revision => evm.keccak256 (Revision.input revision)) Revision.entity
      (revisions changes)

variable {gallery : Gallery} {earlier : List (Nat × HistoryChange)} {timestamp : Nat} {id : Uint256}
  {name metadata : Bytes}

theorem current_cons (change : HistoryChange) :
    current ((timestamp, change) :: earlier) =
      Function.update (current earlier) change.write.1 change.write.2 :=
  written_put change.write.1 change.write.2

theorem Shows.created (shows : Shows evm gallery earlier) {customHistoryTypeId : Uint256} :
    Shows evm (handleCreateCustomHistoryInternal gallery (secondsToMillis timestamp) id name
      customHistoryTypeId metadata) ((timestamp, .created id ⟨name, metadata⟩) :: earlier) := by
  refine ⟨fun other => ?_, shows.revised⟩
  rw [current_cons]
  simp only [handleCreateCustomHistoryInternal, HistoryChange.write, Function.update_apply]
  split
  · rfl
  · exact shows.shown other

theorem Shows.updated (shows : Shows evm gallery earlier)
    (known : (current earlier id).isSome = true) :
    Shows evm (handleUpdateCustomHistoryInternal evm gallery id (secondsToMillis timestamp)
      metadata name) ((timestamp, .updated id ⟨name, metadata⟩) :: earlier) := by
  have told := shows.shown id
  cases found : gallery.customHistory id with
  | none =>
      rw [← told, found] at known
      cases known
  | some ch =>
      rw [found] at told
      unfold handleUpdateCustomHistoryInternal
      rw [found]
      refine ⟨fun other => ?_, ?_⟩
      · rw [current_cons]
        simp only [HistoryChange.write, Function.update_apply]
        split
        · rfl
        · exact shows.shown other
      · rw [revisions, ← told]
        simp only [Option.map_some]
        rw [listing_cons, ← shows.revised]
        rfl

theorem index_shows (grounded : Grounded (changes feed)) :
    Shows evm (Gallery.index evm feed) (changes feed) := by
  induction feed with
  | nil => exact ⟨fun _ => rfl, rfl⟩
  | cons logged earlier ih =>
      obtain ⟨timestamp, event⟩ := logged
      cases event with
      | CreateCustomHistory id name customHistoryTypeId metadata =>
          exact (ih grounded).created
      | UpdateCustomHistory id name metadata =>
          exact (ih grounded.2).updated grounded.1
      | _ => exact ih grounded

end Revisions

end Subgraph

open Subgraph

namespace Registry

section Calls

variable {deployment : Deployment} {world : World} {msg msg' : Msg} {call call' : Call}
  {before middle after state state' : State} {from_ to_ : Address} {tokenId : Uint256}

/-- Nothing is said of custom histories, and their names stay. -/
structure Hushed (before after : State) : Prop where
  names : getCustomHistoryNameById after = getCustomHistoryNameById before
  logs : ∃ fresh, after.logs = fresh ++ before.logs ∧ fresh.filterMap changeOf = []

theorem Hushed.trans (first : Hushed before middle) (second : Hushed middle after) :
    Hushed before after := by
  obtain ⟨names, fresh, grown, silent⟩ := first
  obtain ⟨names', fresh', grown', silent'⟩ := second
  refine ⟨names'.trans names, fresh' ++ fresh, ?_, ?_⟩
  · rw [grown', grown, List.append_assoc]
  · rw [List.filterMap_append, silent', silent]
    rfl

theorem Hushed.logged {event : Event} (names : getCustomHistoryNameById after =
      getCustomHistoryNameById before) (logs : after.logs = event :: before.logs)
    (silent : changeOf event = none) : Hushed before after :=
  ⟨names, [event], logs, List.filterMap_cons_none silent⟩

theorem Aside.hushed (same : Aside before after) : Hushed before after := by
  obtain ⟨fresh, grown, quiet⟩ := same.logs
  refine ⟨funext fun id => same.strings id _ _ (by decide), fresh, grown, ?_⟩
  rw [List.filterMap_eq_nil_iff]
  intro event belongs
  have aside := quiet event belongs
  cases event <;> first | rfl | cases aside

theorem mint_hushed (minted : _mint before to_ tokenId = .ok after) : Hushed before after := by
  have names := congrArg Shelf.names (shelf_overlooks.mint minted)
  obtain ⟨_, _, _, rfl⟩ := mint_accepted minted
  exact .logged names rfl rfl

theorem transfer_hushed (moved : _transfer before from_ to_ tokenId = .ok after) :
    Hushed before after :=
  ⟨congrArg Shelf.names (shelf_overlooks.transfer moved), _, transfer_logs moved, rfl⟩

theorem createSRRFor_hushed {isPrimaryIssuer lockExternalTransfer_ : Bool}
    {artistAddress issuerAddress royaltyReceiver : Address} {metadataCID : Bytes}
    {royaltyBasisPoints : Uint16}
    (created : createSRRFor deployment before isPrimaryIssuer artistAddress metadataCID
      issuerAddress lockExternalTransfer_ to_ royaltyReceiver royaltyBasisPoints =
        .ok (after, tokenId)) : Hushed before after := by
  obtain ⟨middle, first, ending⟩ := createSRRFor_accepted created
  obtain ⟨_, minted, mint, aside⟩ := createSRR_aside first
  have recorded : Hushed minted (minted.recorded tokenId isPrimaryIssuer artistAddress
      issuerAddress metadataCID lockExternalTransfer_) := by
    have stored := @shelf_stored minted tokenId ._SRR ._METADATA_HASH metadataCID (by decide)
    have kept : shelf (minted.recorded tokenId isPrimaryIssuer artistAddress issuerAddress
        metadataCID lockExternalTransfer_) = shelf minted := (shelf_emit rfl rfl).trans stored
    exact .logged (congrArg Shelf.names kept) rfl rfl
  have creation := ((mint_hushed mint).trans recorded).trans aside.hushed
  rcases ending with ⟨_, transferred⟩ | ⟨_, rfl⟩
  · exact creation.trans (transfer_hushed transferred)
  · exact creation

theorem approve_hushed {customHistoryId : Uint256} {commitment : Bytes32}
    {historyMetadataHash : Bytes}
    (approved : _approveSRRByCommitment before tokenId commitment historyMetadataHash
      customHistoryId = .ok after) : Hushed before after := by
  refine ⟨congrArg Shelf.names (shelf_overlooks.approveSRRByCommitment approved), _, approve_logs approved,
    ?_⟩
  split
  · rfl
  · rfl

/-- What a call says of custom histories, and the names after it. -/
inductive Revises (evm : Evm) (names : Uint256 → Bytes) :
    List HistoryChange → (Uint256 → Bytes) → Prop
  | quiet : Revises evm names [] names
  | created (id : Uint256) (showing : Showing) :
      Revises evm names [.created id showing] (Function.update names id showing.name)
  | updated {id : Uint256} {showing : Showing} {names' : Uint256 → Bytes} :
      names id ≠ [] → names' = Function.update names id showing.name ∨
        names' = names ∧ evm.keccak256 (names id) = evm.keccak256 showing.name →
          Revises evm names [.updated id showing] names'

def Edited (evm : Evm) (before after : State) : Prop :=
  ∃ fresh, after.logs = fresh ++ before.logs ∧ Revises evm (getCustomHistoryNameById before)
    (fresh.filterMap changeOf) (getCustomHistoryNameById after)

theorem Hushed.edited (hushed : Hushed before after) : Edited deployment.evm before after := by
  obtain ⟨names, fresh, grown, silent⟩ := hushed
  refine ⟨fresh, grown, ?_⟩
  rw [silent, names]
  exact .quiet

theorem Hushed.then (hushed : Hushed before middle) (edited : Edited deployment.evm middle after) :
    Edited deployment.evm before after := by
  obtain ⟨names, fresh, grown, silent⟩ := hushed
  obtain ⟨fresh', grown', revises⟩ := edited
  refine ⟨fresh' ++ fresh, ?_, ?_⟩
  · rw [grown', grown, List.append_assoc]
  · rw [List.filterMap_append, silent, List.append_nil, ← names]
    exact revises

theorem told_edited (told : Hushed before middle)
    (moved : _transfer middle from_ to_ tokenId = .ok after) : Edited deployment.evm before after :=
  (told.trans (transfer_hushed moved)).edited

theorem written_revises {evm : Evm} {name : Bytes} {id customHistoryTypeId : Uint256}
    {metadata : Metadata} :
    Revises evm (getCustomHistoryNameById before)
      ([Event.CreateCustomHistory id name customHistoryTypeId metadata].filterMap changeOf)
      (getCustomHistoryNameById ({ before with
        customHistoryCount := id
        _stringStorage := before._stringStorage.set id ._CUSTOM_HISTORY ._CUSTOM_HISTORY_NAME
          name }.emit (.CreateCustomHistory id name customHistoryTypeId metadata))) := by
  have names : getCustomHistoryNameById ({ before with
        customHistoryCount := id
        _stringStorage := before._stringStorage.set id ._CUSTOM_HISTORY ._CUSTOM_HISTORY_NAME
          name }.emit (.CreateCustomHistory id name customHistoryTypeId metadata)) =
      Function.update (getCustomHistoryNameById before) id name := by
    funext other
    simp [getCustomHistoryNameById, State.emit, Storage.set_apply, Function.update_apply]
  rw [names]
  exact .created id ⟨name, metadataText metadata⟩

/-- A name with the hash of the old one is not stored. -/
theorem updated_revises {evm : Evm} {id : Uint256} {name : Bytes} {metadata : Metadata}
    (known : customHistoryIdExists before id = .ok ()) :
    Revises evm (getCustomHistoryNameById before)
      ([Event.UpdateCustomHistory id name metadata].filterMap changeOf)
      (getCustomHistoryNameById ((if evm.keccak256 (getCustomHistoryNameById before id) ≠
          evm.keccak256 name then
        { before with
          _stringStorage := before._stringStorage.set id ._CUSTOM_HISTORY ._CUSTOM_HISTORY_NAME
            name }
      else before).emit (.UpdateCustomHistory id name metadata))) := by
  have named : getCustomHistoryNameById before id ≠ [] :=
    fun empty => require_eq_ok.mp known (congrArg List.length empty)
  refine .updated named ?_
  split
  · refine Or.inl (funext fun other => ?_)
    simp [getCustomHistoryNameById, State.emit, Storage.set_apply, Function.update_apply]
  · rename_i same
    exact Or.inr ⟨rfl, not_not.mp same⟩

theorem Accepted.edited (accepted : Accepted deployment world msg before call after) :
    Edited deployment.evm before after := by
  cases accepted with
  | aside _ same => exact same.hushed.edited
  | createSRRFromLicensedUser _ creates => exact (createSRRFor_hushed creates).edited
  | createSRRFromBulk _ creates => exact (createSRRFor_hushed creates).edited
  | approveSRRByCommitmentFromBulk _ _ approved => exact (approve_hushed approved).edited
  | approveSRRByCommitment _ approved => exact (approve_hushed approved).edited
  | approveSRRByCommitmentWithHistory _ _ approved => exact (approve_hushed approved).edited
  | @cancelSRRCommitment tokenId _ =>
      have cleared := clearSRRCommitment_shelf before tokenId
      exact Hushed.edited (.logged (congrArg Shelf.names cleared) rfl rfl)
  | transferSRRByReveal revealed =>
      obtain ⟨_, _, moved⟩ := transferSRRByReveal_accepted revealed
      refine told_edited ?_ moved
      refine .logged ?_ rfl rfl
      exact congrArg Shelf.names ((clearSRRCommitment_shelf _ _).trans provenance_shelf)
  | addHistory _ _ _ _ => exact Hushed.edited (.logged rfl rfl rfl)
  | writeCustomHistory _ _ _ => exact ⟨[_], rfl, written_revises⟩
  | updateCustomHistory _ known _ =>
      refine ⟨[.UpdateCustomHistory _ _ _], ?_, updated_revises known⟩
      split
      · rfl
      · rfl
  | transferFrom _ _ moved => exact (transfer_hushed moved).edited
  | safeTransferFrom _ _ moved => exact (transfer_hushed moved).edited
  | transferFromWithProvenance _ _ moved =>
      refine told_edited ?_ moved
      exact .logged rfl rfl rfl
  | transferFromWithProvenanceFromBulk _ _ _ moved =>
      refine told_edited ?_ moved
      exact .logged rfl rfl rfl
  | approve _ _ _ _ => exact Hushed.edited (.logged rfl rfl rfl)
  | setLockExternalTransfer _ _ => exact Hushed.edited (.logged rfl rfl rfl)

theorem Runs.hushed (runs : Runs deployment before msg call middle msg' call') :
    Hushed before middle := by
  induction runs with
  | direct state msg call => exact ⟨rfl, [], rfl, rfl⟩
  | wrapped accepts _ _ ih =>
      obtain ⟨_, _, _, rfl⟩ := acceptMetaTransaction_consumes accepts
      refine Hushed.trans ?_ ih
      exact .logged rfl rfl rfl

theorem entry_edited {transaction : Transaction}
    (ran : (entry deployment transaction state).front = some state') :
    Edited deployment.evm state state' := by
  obtain ⟨middle, msg, call, runs, accepted⟩ := perform_accepted ran
  exact runs.hushed.then accepted.edited

end Calls

section Runs

variable {evm : Evm} {names names' : Uint256 → Bytes} {early : List (Nat × HistoryChange)}
  {fresh : List HistoryChange} {time : Nat}

/-- The names that custom histories have been given. -/
def givenNames (changes : List (Nat × HistoryChange)) : List Bytes :=
  changes.map fun change => (change.2.write.2.getD ⟨[], []⟩).name

/-- The changes of a run and the names that the contract has. -/
structure Kept (evm : Evm) (names : Uint256 → Bytes) (changes : List (Nat × HistoryChange)) :
    Prop where
  grounded : Grounded changes
  known : ∀ id, names id ≠ [] → (current changes id).isSome = true
  given : ∀ id showing, current changes id = some showing → showing.name ∈ givenNames changes
  named : evm.CollisionFree (givenNames changes) →
    ∀ id showing, current changes id = some showing → showing.name = names id

theorem collisionFree_tail {input : Bytes} {inputs : List Bytes}
    (free : evm.CollisionFree (input :: inputs)) : evm.CollisionFree inputs :=
  fun left listed right listed' =>
    free left (List.mem_cons_of_mem _ listed) right (List.mem_cons_of_mem _ listed')

theorem Kept.write (kept : Kept evm names early) {change : HistoryChange} {id : Uint256}
    {showing : Showing} (writes : change.write = (id, some showing))
    (grounded : Grounded ((time, change) :: early))
    (others : ∀ other, other ≠ id → names' other = names other)
    (own : evm.CollisionFree (showing.name :: givenNames early) → showing.name = names' id) :
    Kept evm names' ((time, change) :: early) := by
  have now : current ((time, change) :: early) =
      Function.update (current early) id (some showing) := by
    rw [current_cons, writes]
  have names_ : givenNames ((time, change) :: early) = showing.name :: givenNames early := by
    rw [givenNames, List.map_cons, writes]
    rfl
  refine ⟨grounded, ?_, ?_, ?_⟩
  · intro other given
    rw [now]
    by_cases here : other = id
    · rw [here, Function.update_self]
      rfl
    · rw [Function.update_of_ne here]
      rw [others other here] at given
      exact kept.known other given
  · intro other shown told
    rw [now] at told
    rw [names_]
    by_cases here : other = id
    · rw [here, Function.update_self] at told
      cases told
      exact List.mem_cons_self
    · rw [Function.update_of_ne here] at told
      exact List.mem_cons_of_mem _ (kept.given other shown told)
  · intro free other shown told
    rw [now] at told
    rw [names_] at free
    by_cases here : other = id
    · rw [here, Function.update_self] at told
      cases told
      rw [here]
      exact own free
    · rw [Function.update_of_ne here] at told
      rw [others other here]
      exact kept.named (collisionFree_tail free) other shown told

theorem Revises.kept (revises : Revises evm names fresh names') (kept : Kept evm names early)
    (time : Nat) : Kept evm names' (fresh.map (time, ·) ++ early) := by
  cases revises with
  | quiet => exact kept
  | created id showing =>
      refine kept.write rfl kept.grounded (fun other apart => Function.update_of_ne apart _ _) ?_
      intro _
      rw [Function.update_self]
  | @updated id showing _ named renamed =>
      obtain ⟨old, shown⟩ := Option.isSome_iff_exists.mp (kept.known id named)
      refine kept.write rfl ⟨kept.known id named, kept.grounded⟩ ?_ ?_
      · intro other apart
        rcases renamed with rfl | ⟨rfl, _⟩
        · exact Function.update_of_ne apart _ _
        · rfl
      · intro free
        rcases renamed with rfl | ⟨rfl, same⟩
        · rw [Function.update_self]
        · have before := kept.named (collisionFree_tail free) id old shown
          have listed := kept.given id old shown
          rw [before] at listed
          exact (free _ (List.mem_cons_of_mem _ listed) _ List.mem_cons_self same).symm

def Event.updatedHistory : Event → Option Uint256
  | .UpdateCustomHistory id _ _ => some id
  | _ => none

/-- No custom history has been written. -/
structure NoHistories (state : State) : Prop where
  names : ∀ id, getCustomHistoryNameById state id = []
  logs : state.logs = []

/-- Each custom history is shown as it is, and each of its updates has left what it replaced, just
when no two updates have one input. -/
structure Exhibits (evm : Evm) (state : State) (feed : List (Nat × Event)) (gallery : Gallery) :
    Prop where
  shown : ∀ id ∈ announced state, ∃ ch, gallery.customHistory id = some ch ∧
    current (changes feed) id = some ch.showing ∧
    (evm.CollisionFree (givenNames (changes feed)) → ch.name = getCustomHistoryNameById state id)
  updates : (revisions (changes feed)).map (fun revision =>
      (revision.timestamp, revision.customHistory)) =
    feed.filterMap fun logged => logged.2.updatedHistory.map (logged.1, ·)
  revised : evm.CollisionFree ((revisions (changes feed)).map Revision.input) →
    (OneEach gallery.customHistoryMetadataHistory (fun _ => True)
        (fun entity revision => entity = revision.entity) (revisions (changes feed)) ↔
      ((revisions (changes feed)).map Revision.input).Nodup)

variable {deployment : Deployment} {state : State} {feed : List (Nat × Event)}

theorem changes_append (fresh : List Event) (feed : List (Nat × Event)) (time : Nat) :
    changes (fresh.map (time, ·) ++ feed) =
      (fresh.filterMap changeOf).map (time, ·) ++ changes feed := by
  rw [changes, List.filterMap_append, List.filterMap_map, List.map_filterMap]
  rfl

theorem current_written {time : Nat} {change : HistoryChange}
    {changes : List (Nat × HistoryChange)} (listed : (time, change) ∈ changes) :
    (current changes change.write.1).isSome = true := by
  induction changes with
  | nil => cases listed
  | cons last earlier ih =>
      obtain ⟨time', latest⟩ := last
      rw [current_cons]
      by_cases same : change.write.1 = latest.write.1
      · rw [same, Function.update_self]
        exact latest.writes
      · rw [Function.update_of_ne same]
        rcases List.mem_cons.mp listed with here | before
        · cases here
          exact absurd rfl same
        · exact ih before

theorem revisions_updates (grounded : Grounded (changes feed)) :
    (revisions (changes feed)).map (fun revision =>
        (revision.timestamp, revision.customHistory)) =
      feed.filterMap fun logged => logged.2.updatedHistory.map (logged.1, ·) := by
  induction feed with
  | nil => rfl
  | cons logged earlier ih =>
      obtain ⟨timestamp, event⟩ := logged
      cases event with
      | CreateCustomHistory id name customHistoryTypeId metadata => exact ih grounded
      | UpdateCustomHistory id name metadata =>
          obtain ⟨known, before⟩ := grounded
          have shown : ∃ showing, current (changes earlier) id = some showing :=
            Option.isSome_iff_exists.mp known
          obtain ⟨showing, shown⟩ := shown
          have first : revisions (changes ((timestamp, .UpdateCustomHistory id name metadata) ::
              earlier)) = ⟨id, showing, timestamp⟩ :: revisions (changes earlier) := by
            change revisions ((timestamp, .updated id _) :: changes earlier) = _
            rw [revisions, shown]
          rw [first, List.map_cons, ih before]
          rfl
      | _ => exact ih grounded

theorem changes_announced {id : Uint256} (told : feed.map Prod.snd = state.logs)
    (listed : id ∈ announced state) :
    ∃ change ∈ changes feed, change.2.write.1 = id := by
  obtain ⟨event, logged, created⟩ := List.mem_filterMap.mp listed
  rw [← told] at logged
  obtain ⟨⟨time, event⟩, fed, rfl⟩ := List.mem_map.mp logged
  cases event with
  | CreateCustomHistory _ name _ metadata =>
      cases created
      exact ⟨(time, .created id ⟨name, metadataText metadata⟩),
        List.mem_filterMap.mpr ⟨_, fed, rfl⟩, rfl⟩
  | _ => cases created

theorem Kept.exhibits (kept : Kept evm (getCustomHistoryNameById state) (changes feed))
    (told : feed.map Prod.snd = state.logs) :
    Exhibits evm state feed (Gallery.index evm feed) := by
  have shows := @index_shows evm feed kept.grounded
  refine ⟨?_, revisions_updates kept.grounded, ?_⟩
  · intro id listed
    obtain ⟨change, fed, rfl⟩ := changes_announced told listed
    obtain ⟨showing, last⟩ := Option.isSome_iff_exists.mp (current_written fed)
    have shown := shows.shown change.2.write.1
    rw [last] at shown
    obtain ⟨ch, found, rfl⟩ := Option.map_eq_some_iff.mp shown
    exact ⟨ch, found, last, fun free => kept.named free _ _ last⟩
  · intro free
    have each := @oneEach_listing _ _ _ _ (revisions (changes feed))
      (fun revision => evm.keccak256 revision.input) Revision.entity
      (fun entity revision => entity = revision.entity) (fun _ _ => rfl)
    rw [shows.revised, each]
    have hashes : (revisions (changes feed)).map (fun revision =>
        evm.keccak256 (Revision.input revision)) =
        ((revisions (changes feed)).map Revision.input).map evm.keccak256 := by
      rw [List.map_map]
      rfl
    rw [hashes]
    exact ⟨List.Nodup.of_map _, List.Nodup.map_on free⟩

theorem reach_changes {deployment : Deployment} {Legal : Nat × Transaction → State → Prop}
    {origin : State} (blank : NoHistories origin)
    {config : Config Revert State Query Reply (Nat × Transaction)}
    (reach : Reach (fun call : Nat × Transaction => entry deployment call.2) Legal origin config) :
    ∃ feed, timeline (entry deployment) State.logs origin config.now.trace =
        some (config.now.state, feed) ∧
      feed.map Prod.snd = config.now.state.logs ∧
      Kept deployment.evm (getCustomHistoryNameById config.now.state) (changes feed) := by
  obtain ⟨feed, past⟩ := @reach_timeline _ _ _ _ _ _ _ (entry deployment) State.logs origin _ _
    (fun _ _ => perform_trailing _ _ _ _) reach
  refine ⟨feed, past, @timeline_induction _ _ _ _ _ _ _ (entry deployment) State.logs origin
    (fun state feed => Kept deployment.evm (getCustomHistoryNameById state) (changes feed))
    ?_ blank.logs ?_ _ _ _ past⟩
  · refine ⟨trivial, ?_, nofun, fun _ => nofun⟩
    intro id named
    exact absurd (blank.names id) named
  · intro transaction state state' ran
    obtain ⟨fresh, grown, revises⟩ := entry_edited ran
    refine ⟨fresh, grown, fun time feed _ kept => ?_⟩
    rw [changes_append]
    exact revises.kept kept time

theorem revisions_kept (deployment : Deployment) (Legal : Nat × Transaction → State → Prop)
    (origin : State) (blank : NoHistories origin)
    (config : Config Revert State Query Reply (Nat × Transaction))
    (reach : Reach (fun call : Nat × Transaction => entry deployment call.2) Legal origin config) :
    ∃ feed, timeline (entry deployment) State.logs origin config.now.trace =
        some (config.now.state, feed) ∧
      feed.map Prod.snd = config.now.state.logs ∧
      Exhibits deployment.evm config.now.state feed (Gallery.index deployment.evm feed) := by
  obtain ⟨feed, past, told, kept⟩ := reach_changes blank reach
  exact ⟨feed, past, told, kept.exhibits told⟩

end Runs

section Samples

def galleryEvm : Evm :=
  Evm.ofTables [
    (ascii "A", 0x03783fac2efed8fbc9ad443e592ee30e61d65f471140c10ca155e937b435b760),
    (ascii "B", 0x1f675bff07515f5df96737194ea945c36c41e7b4fcef307b7cd4d0e602a69111),
    (ascii "C", 0x017e667f4b8c174291d1543c466717566e206df1bfd6f30271055ddafdb18f72),
    (ascii "Qm1700000012000", 0xbb130e906be62b95c1b475d8ba5f38ecf7982ec62097319a87b96692cb8c415e),
    (ascii "Qm1700000024000", 0x5e881ddf92d22c7df3e5a2372e5b7350658b144af87239f15fcc238b5a10b566)]
    []

def galleryDeployment : Deployment := ⟨galleryEvm, 0x5e1f, fun _ => none⟩

def writeSample (name : Bytes) : Transaction :=
  sampleCall 0xad317 (.writeCustomHistory name 1 (.metadataCID (ascii "Qm")))

def updateSample (id : Uint256) (name : Bytes) : Transaction :=
  sampleCall 0xad317 (.updateCustomHistory id name (.metadataCID (ascii "Qn")))

/-- Two custom histories with the same metadata are updated, the second at a given time. -/
def galleryRun (later : Nat) : Config Revert State Query Reply (Nat × Transaction) :=
  let enter := Config.enter fun call : Nat × Transaction => entry galleryDeployment call.2
  enter (later, updateSample 2 (ascii "B"))
    (enter (1700000012, updateSample 1 (ascii "C"))
      (enter (1700000000, writeSample (ascii "B"))
        (enter (1700000000, writeSample (ascii "A"))
          (enter (1700000000, sampleCall 0xad317 (.addCustomHistoryType (ascii "exhibition")))
            (.start State.blank)))))

theorem galleryRun_reach (later : Nat) :
    Reach (fun call : Nat × Transaction => entry galleryDeployment call.2) (fun _ _ => True)
      State.blank (galleryRun later) :=
  .enter _ (.enter _ (.enter _ (.enter _ (.enter _ .start trivial) trivial) trivial) trivial)
    trivial

theorem noHistories_blank : NoHistories State.blank := ⟨fun _ => rfl, rfl⟩

set_option maxRecDepth 8000 in
theorem galleryRun_later :
    ((timeline (entry galleryDeployment) State.logs State.blank
      (galleryRun 1700000024).now.trace).map fun (_, feed) => decide
        ((revisions (changes feed)).map Revision.customHistory = [2, 1] ∧
          galleryEvm.CollisionFree ((revisions (changes feed)).map Revision.input) ∧
          ((revisions (changes feed)).map Revision.input).Nodup)) = some true := by decide

set_option maxRecDepth 8000 in
theorem galleryRun_together :
    ((timeline (entry galleryDeployment) State.logs State.blank
      (galleryRun 1700000012).now.trace).map fun (_, feed) => decide
        (galleryEvm.CollisionFree ((revisions (changes feed)).map Revision.input) ∧
          ¬((revisions (changes feed)).map Revision.input).Nodup)) = some true := by decide

theorem revisions_kept_later :
    ∃ feed, timeline (entry galleryDeployment) State.logs State.blank
        (galleryRun 1700000024).now.trace = some ((galleryRun 1700000024).now.state, feed) ∧
      (revisions (changes feed)).map Revision.customHistory = [2, 1] ∧
      OneEach (Gallery.index galleryEvm feed).customHistoryMetadataHistory (fun _ => True)
        (fun entity revision => entity = revision.entity) (revisions (changes feed)) := by
  obtain ⟨feed, past, _, exhibits⟩ := revisions_kept galleryDeployment _ _ noHistories_blank _
    (galleryRun_reach 1700000024)
  have told := (congrArg (Option.map _) past).symm.trans galleryRun_later
  obtain ⟨updated, free, distinct⟩ := of_decide_eq_true (Option.some.inj told)
  exact ⟨feed, past, updated, (exhibits.revised free).mpr distinct⟩

theorem galleryRun_lost :
    ¬∀ config, Reach (fun call : Nat × Transaction => entry galleryDeployment call.2)
        (fun _ _ => True) State.blank config →
      ∃ feed, timeline (entry galleryDeployment) State.logs State.blank config.now.trace =
          some (config.now.state, feed) ∧
        OneEach (Gallery.index galleryEvm feed).customHistoryMetadataHistory (fun _ => True)
          (fun entity revision => entity = revision.entity) (revisions (changes feed)) := by
  intro kept
  obtain ⟨feed, past, each⟩ := kept _ (galleryRun_reach 1700000012)
  obtain ⟨feed', past', fed, history⟩ :=
    reach_changes noHistories_blank (galleryRun_reach 1700000012)
  have exhibits := history.exhibits fed
  obtain rfl : feed = feed' := congrArg Prod.snd (Option.some.inj (past.symm.trans past'))
  have told := (congrArg (Option.map _) past).symm.trans galleryRun_together
  obtain ⟨free, merged⟩ := of_decide_eq_true (Option.some.inj told)
  exact merged ((exhibits.revised free).mp each)

end Samples

end Registry

end Startrail
