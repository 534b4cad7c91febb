import Startrail.LicensedUser.OwnerLists
import Startrail.LicensedUser.Representation
import Startrail.Subgraph.Handlers

/-!
The licensed users' wallets in the subgraph: `subgraph/src/luw-mapping.ts`. What the handlers make
of the events of one wallet is `Entry.after`; a log of the licensed user manager comes to an entry
with the owners, the threshold and the names that the contract has stored. A migrated wallet keeps
the time at which it came to be on another chain. No call bounds that time, and the handler fails
if it is too late for a date.
-/

namespace Startrail.Subgraph

open LicensedUserManager (UserType)

structure LicensedUserWallet where
  walletAddress : Address
  threshold : Uint8
  englishName : Bytes
  originalName : Bytes
  userType : String
  owners : List Address
  salt : Bytes32
  originChain : Option Bytes
  createdAt : Nat
  updatedAt : Nat

-- A wallet's id is its address in hex.
abbrev Wallets := Address → Option LicensedUserWallet

def Wallets.blank : Wallets := fun _ => none

def userType : UserType → String
  | .HANDLER => "handler"
  | .ARTIST => "artist"

section Handlers

variable (wallets : Wallets) (timestampMillis : Nat) (luwId : Address)

def Wallets.save (luw : LicensedUserWallet) : Wallets := Function.update wallets luwId (some luw)

/-- Creation of a wallet that is there already leaves its owners, its threshold and its names. -/
def handleCreateLicensedUserWallet (owners : List Address) (threshold : Uint8)
    (englishName originalName : Bytes) (type_ : UserType) (salt : Bytes32) : Wallets :=
  let luw := (wallets luwId).getD
    { walletAddress := luwId, englishName := englishName, originalName := originalName,
      owners := owners, threshold := threshold, userType := "", salt := salt, originChain := none,
      createdAt := timestampMillis, updatedAt := timestampMillis }
  wallets.save luwId { luw with
    userType := userType type_
    salt := salt
    updatedAt := timestampMillis }

/-- The handlers of all other events edit a wallet that they find, and else only log an error. -/
def Wallets.edit (change : LicensedUserWallet → LicensedUserWallet) : Wallets :=
  match wallets luwId with
  | none => wallets
  | some luw => wallets.save luwId (change luw)

def handleAddedOwner (owner : Address) : Wallets :=
  wallets.edit luwId fun luw => { luw with
    owners := luw.owners ++ [owner]
    updatedAt := timestampMillis }

def handleRemovedOwner (owner : Address) : Wallets :=
  wallets.edit luwId fun luw =>
    if owner ∈ luw.owners then { luw with
      owners := luw.owners.erase owner
      updatedAt := timestampMillis }
    else luw

def handleChangedThreshold (threshold : Uint8) : Wallets :=
  wallets.edit luwId fun luw => { luw with
    threshold := threshold
    updatedAt := timestampMillis }

def handleUpgradeLicensedUserWalletToMulti (owners : List Address) (threshold : Uint8) : Wallets :=
  wallets.edit luwId fun luw => { luw with
    owners := owners
    threshold := threshold
    updatedAt := timestampMillis }

def handleUpdateLicensedUserDetail (key : String) (value : Bytes) : Wallets :=
  wallets.edit luwId fun luw => { luw with
    englishName := if key = "englishName" then value else luw.englishName
    originalName :=
      if key = "englishName" then luw.originalName
      else if key = "originalName" then value
      else luw.originalName
    updatedAt := timestampMillis }

/-- The text of the time is what `toUTCString` makes of it, if it is one that it takes. -/
def handleMigrateLicensedUser (toUTCString : Nat → Option Bytes) (originChain : Bytes)
    (originTimestamp : Uint256) : Option Wallets :=
  match wallets luwId with
  | none => some wallets
  | some luw =>
      let createTime := secondsToMillis originTimestamp.toNat
      (toUTCString createTime).map fun _ => wallets.save luwId { luw with
        createdAt := createTime
        updatedAt := createTime
        originChain := nullable originChain }

end Handlers

def handleWalletEvent (toUTCString : Nat → Option Bytes)
    (emitted : Emitted LicensedUserManager.Event) (wallets : Wallets) : Option Wallets :=
  let time := emitted.eventUTCMillis
  match emitted.event with
  | .Initialized _ => some wallets
  | .AddedOwner wallet owner => some (handleAddedOwner wallets time wallet owner)
  | .RemovedOwner wallet owner => some (handleRemovedOwner wallets time wallet owner)
  | .ChangedThreshold wallet threshold =>
      some (handleChangedThreshold wallets time wallet threshold)
  | .CreateLicensedUserWallet walletAddress owners threshold englishName originalName type_ salt =>
      some (handleCreateLicensedUserWallet wallets time walletAddress owners threshold englishName
        originalName type_ salt)
  | .UpgradeLicensedUserWalletToMulti walletAddress owners threshold =>
      some (handleUpgradeLicensedUserWalletToMulti wallets time walletAddress owners threshold)
  | .UpdateLicensedUserDetail walletAddress key value =>
      some (handleUpdateLicensedUserDetail wallets time walletAddress key value)
  | .MigrateLicensedUserWallet walletAddress originChain originTimestamp =>
      handleMigrateLicensedUser wallets walletAddress toUTCString originChain originTimestamp

def indexWallets (toUTCString : Nat → Option Bytes)
    (feed : List (Emitted LicensedUserManager.Event)) : Option Wallets :=
  index (handleWalletEvent toUTCString) Wallets.blank feed

-- The latest time that has a date, in milliseconds.
def lastDate : Nat := 8640000000000000

/-- Times that have a date are printed. -/
def Prints (toUTCString : Nat → Option Bytes) : Prop :=
  ∀ timestamp ≤ lastDate, (toUTCString timestamp).isSome = true

def Dated : LicensedUserManager.Event → Prop
  | .MigrateLicensedUserWallet _ _ originTimestamp =>
      secondsToMillis originTimestamp.toNat ≤ lastDate
  | _ => True

/-- What the subgraph shows of a wallet. -/
structure Entry where
  owners : List Address
  threshold : Uint8
  englishName : Bytes
  originalName : Bytes

def LicensedUserWallet.entry (luw : LicensedUserWallet) : Entry :=
  ⟨luw.owners, luw.threshold, luw.englishName, luw.originalName⟩

namespace Entry

open LicensedUserManager (Event)

/-- What an event of a wallet does to its entry. -/
def after (event : Event) (entry : Option Entry) : Option Entry :=
  match event with
  | .CreateLicensedUserWallet _ owners threshold englishName originalName _ _ =>
      some (entry.getD ⟨owners, threshold, englishName, originalName⟩)
  | .AddedOwner _ owner => entry.map fun entry => { entry with owners := entry.owners ++ [owner] }
  | .RemovedOwner _ owner =>
      entry.map fun entry => { entry with owners := entry.owners.erase owner }
  | .ChangedThreshold _ threshold => entry.map fun entry => { entry with threshold := threshold }
  | .UpgradeLicensedUserWalletToMulti _ owners threshold =>
      entry.map fun entry => { entry with owners := owners, threshold := threshold }
  | .UpdateLicensedUserDetail _ key value => entry.map fun entry => { entry with
      englishName := if key = "englishName" then value else entry.englishName
      originalName :=
        if key = "englishName" then entry.originalName
        else if key = "originalName" then value
        else entry.originalName }
  | .Initialized _ | .MigrateLicensedUserWallet .. => entry

def wallet : Event → Option Address
  | .Initialized _ => none
  | .AddedOwner wallet _ | .RemovedOwner wallet _ | .ChangedThreshold wallet _
  | .CreateLicensedUserWallet wallet .. | .UpgradeLicensedUserWalletToMulti wallet ..
  | .UpdateLicensedUserDetail wallet .. | .MigrateLicensedUserWallet wallet .. => some wallet

/-- What the events of a log come to for one wallet. -/
def of (wallet_ : Address) (logs : List Event) : Option Entry :=
  (logs.filter fun event => wallet event = some wallet_).foldr after none

end Entry

section Indexing

variable {wallets : Wallets} {time : Nat} {luwId wallet_ : Address}

theorem save_entry (luw : LicensedUserWallet) :
    (wallets.save luwId luw wallet_).map LicensedUserWallet.entry =
      if luwId = wallet_ then some luw.entry
      else (wallets wallet_).map LicensedUserWallet.entry := by
  by_cases same : luwId = wallet_
  · subst same
    simp [Wallets.save]
  · simp [Wallets.save, same, Ne.symm same]

theorem edit_entry {change : LicensedUserWallet → LicensedUserWallet} {shown : Entry → Entry}
    (agrees : ∀ luw, (change luw).entry = shown luw.entry) :
    (wallets.edit luwId change wallet_).map LicensedUserWallet.entry =
      if luwId = wallet_ then ((wallets wallet_).map LicensedUserWallet.entry).map shown
      else (wallets wallet_).map LicensedUserWallet.entry := by
  unfold Wallets.edit
  cases found : wallets luwId with
  | none =>
      by_cases same : luwId = wallet_
      · subst same
        simp [found]
      · rw [if_neg same]
  | some luw =>
      simp only
      rw [save_entry, agrees]
      by_cases same : luwId = wallet_
      · subst same
        simp [found]
      · rw [if_neg same, if_neg same]

theorem handleCreateLicensedUserWallet_entry (owners : List Address) (threshold : Uint8)
    (englishName originalName : Bytes) (type_ : UserType) (salt : Bytes32) :
    (handleCreateLicensedUserWallet wallets time luwId owners threshold englishName originalName
        type_ salt wallet_).map LicensedUserWallet.entry =
      if luwId = wallet_ then some (((wallets wallet_).map LicensedUserWallet.entry).getD
        ⟨owners, threshold, englishName, originalName⟩)
      else (wallets wallet_).map LicensedUserWallet.entry := by
  unfold handleCreateLicensedUserWallet
  rw [save_entry]
  by_cases same : luwId = wallet_
  · subst same
    cases wallets luwId with
    | none => rfl
    | some luw => rfl
  · rw [if_neg same, if_neg same]

theorem handleRemovedOwner_entry (owner : Address) :
    (handleRemovedOwner wallets time luwId owner wallet_).map LicensedUserWallet.entry =
      if luwId = wallet_ then ((wallets wallet_).map LicensedUserWallet.entry).map fun entry =>
        { entry with owners := entry.owners.erase owner }
      else (wallets wallet_).map LicensedUserWallet.entry := by
  refine edit_entry fun luw => ?_
  by_cases listed : owner ∈ luw.owners
  · rw [if_pos listed]
    rfl
  · rw [if_neg listed]
    simp [LicensedUserWallet.entry, List.erase_of_not_mem listed]

theorem handleMigrateLicensedUser_entry {toUTCString : Nat → Option Bytes} {originChain : Bytes}
    {originTimestamp : Uint256} {wallets' : Wallets}
    (handled : handleMigrateLicensedUser wallets luwId toUTCString originChain originTimestamp =
      some wallets') :
    (wallets' wallet_).map LicensedUserWallet.entry =
      (wallets wallet_).map LicensedUserWallet.entry := by
  unfold handleMigrateLicensedUser at handled
  cases found : wallets luwId with
  | none =>
      rw [found] at handled
      cases handled
      rfl
  | some luw =>
      rw [found] at handled
      obtain ⟨_, _, rfl⟩ := Option.map_eq_some_iff.mp handled
      rw [save_entry]
      by_cases same : luwId = wallet_
      · subst same
        rw [if_pos rfl, found]
        rfl
      · rw [if_neg same]

theorem handleWalletEvent_entry {toUTCString : Nat → Option Bytes}
    {emitted : Emitted LicensedUserManager.Event} {wallets' : Wallets}
    (handled : handleWalletEvent toUTCString emitted wallets = some wallets') :
    (wallets' wallet_).map LicensedUserWallet.entry =
      if Entry.wallet emitted.event = some wallet_ then
        Entry.after emitted.event ((wallets wallet_).map LicensedUserWallet.entry)
      else (wallets wallet_).map LicensedUserWallet.entry := by
  obtain ⟨time, event⟩ := emitted
  cases event with
  | Initialized version =>
      cases handled
      rfl
  | AddedOwner wallet owner =>
      cases handled
      simp only [Entry.wallet, Option.some.injEq]
      exact edit_entry fun _ => rfl
  | RemovedOwner wallet owner =>
      cases handled
      simp only [Entry.wallet, Option.some.injEq]
      exact handleRemovedOwner_entry owner
  | ChangedThreshold wallet threshold =>
      cases handled
      simp only [Entry.wallet, Option.some.injEq]
      exact edit_entry fun _ => rfl
  | CreateLicensedUserWallet wallet owners threshold englishName originalName type_ salt =>
      cases handled
      simp only [Entry.wallet, Option.some.injEq]
      exact handleCreateLicensedUserWallet_entry owners threshold englishName originalName type_
        salt
  | UpgradeLicensedUserWalletToMulti wallet owners threshold =>
      cases handled
      simp only [Entry.wallet, Option.some.injEq]
      exact edit_entry fun _ => rfl
  | UpdateLicensedUserDetail wallet key value =>
      cases handled
      simp only [Entry.wallet, Option.some.injEq]
      exact edit_entry fun _ => rfl
  | MigrateLicensedUserWallet wallet originChain originTimestamp =>
      exact (handleMigrateLicensedUser_entry handled).trans (ite_self _).symm

theorem handleWalletEvent_some {toUTCString : Nat → Option Bytes} (prints : Prints toUTCString)
    {emitted : Emitted LicensedUserManager.Event} (dated : Dated emitted.event)
    (wallets : Wallets) :
    ∃ wallets', handleWalletEvent toUTCString emitted wallets = some wallets' := by
  obtain ⟨time, event⟩ := emitted
  cases event with
  | MigrateLicensedUserWallet wallet originChain originTimestamp =>
      simp only [handleWalletEvent, handleMigrateLicensedUser]
      cases wallets wallet with
      | none => exact ⟨_, rfl⟩
      | some luw =>
          obtain ⟨text, printed⟩ := Option.isSome_iff_exists.mp (prints _ dated)
          exact ⟨_, Option.map_eq_some_iff.mpr ⟨text, printed, rfl⟩⟩
  | _ => exact ⟨_, rfl⟩

/-- Whenever the blocks of its events were, a log comes to its entries. -/
theorem indexWallets_entry {toUTCString : Nat → Option Bytes}
    {feed : List (Emitted LicensedUserManager.Event)} {wallets : Wallets}
    (indexed : indexWallets toUTCString feed = some wallets) (wallet_ : Address) :
    (wallets wallet_).map LicensedUserWallet.entry =
      Entry.of wallet_ (feed.map Emitted.event) := by
  induction feed generalizing wallets with
  | nil =>
      cases indexed
      rfl
  | cons emitted feed ih =>
      obtain ⟨before, earlier, handled⟩ := Option.bind_eq_some_iff.mp indexed
      rw [handleWalletEvent_entry handled, ih earlier]
      unfold Entry.of
      rw [List.map_cons, List.filter_cons]
      by_cases named : Entry.wallet emitted.event = some wallet_
      · simp [named]
      · simp [named]

theorem indexWallets_some {toUTCString : Nat → Option Bytes} (prints : Prints toUTCString)
    {feed : List (Emitted LicensedUserManager.Event)}
    (dated : ∀ event ∈ feed.map Emitted.event, Dated event) :
    ∃ wallets, indexWallets toUTCString feed = some wallets := by
  induction feed with
  | nil => exact ⟨_, rfl⟩
  | cons emitted feed ih =>
      obtain ⟨latest, earlier⟩ := List.forall_mem_cons.mp dated
      obtain ⟨before, indexed⟩ := ih earlier
      obtain ⟨after, handled⟩ := handleWalletEvent_some prints latest before
      exact ⟨after, Option.bind_eq_some_iff.mpr ⟨before, indexed, handled⟩⟩

end Indexing

section Logs

open LicensedUserManager

variable {fresh logs : List Event} {wallet_ other : Address}

/-- The event is about this wallet, and a date that it gives can be printed. -/
def Tells (wallet_ : Address) (event : Event) : Prop :=
  Entry.wallet event = some wallet_ ∧ Dated event

theorem of_append (told : ∀ event ∈ fresh, Tells wallet_ event) :
    Entry.of wallet_ (fresh ++ logs) = fresh.foldr Entry.after (Entry.of wallet_ logs) := by
  unfold Entry.of
  rw [List.filter_append, List.foldr_append]
  congr 1
  exact List.filter_eq_self.mpr fun event belongs => decide_eq_true (told event belongs).1

theorem of_append_other (told : ∀ event ∈ fresh, Tells wallet_ event)
    (different : other ≠ wallet_) : Entry.of other (fresh ++ logs) = Entry.of other logs := by
  unfold Entry.of
  rw [List.filter_append, List.filter_eq_nil_iff.mpr, List.nil_append]
  intro event belongs
  simp [(told event belongs).1, Ne.symm different]

/-- The entry has what the contract has stored, the owners in some order. -/
structure Shown (state : State) (wallet_ : Address) (entry : Entry) : Prop where
  owners : ∃ members, getOwners state wallet_ = .ok members ∧ members.Nodup ∧
    entry.owners.Perm members
  threshold : entry.threshold = getThreshold state wallet_
  englishName : entry.englishName = (state.luws wallet_).englishName
  originalName : entry.originalName = (state.luws wallet_).originalName

structure Tracked (state : State) : Prop where
  kept : Kept state
  alive : Alive state
  known : ∀ wallet_, walletExists state wallet_ →
    ∃ entry, Entry.of wallet_ state.logs = some entry ∧ Shown state wallet_ entry
  unknown : ∀ wallet_, ¬walletExists state wallet_ → Entry.of wallet_ state.logs = none
  dated : ∀ event ∈ state.logs, Dated event

variable {state state' : State} {entry : Entry}

theorem owners_congr (wallets : state'.wallets wallet_ = state.wallets wallet_)
    (owner : (state'.luws wallet_).owner = (state.luws wallet_).owner) :
    getOwners state' wallet_ = getOwners state wallet_ ∧
      getThreshold state' wallet_ = getThreshold state wallet_ := by
  have single : isSingleOwner state' wallet_ ↔ isSingleOwner state wallet_ := by
    simp only [isSingleOwner, owner]
  constructor
  · unfold getOwners OwnerManager.getOwners
    rw [wallets, owner]
    exact ite_congr (propext single) (fun _ => rfl) fun _ => rfl
  · unfold getThreshold OwnerManager.getThreshold
    rw [wallets]
    exact ite_congr (propext single) (fun _ => rfl) fun _ => rfl

theorem Shown.congr (shown : Shown state wallet_ entry)
    (wallets : state'.wallets wallet_ = state.wallets wallet_)
    (users : state'.luws wallet_ = state.luws wallet_) : Shown state' wallet_ entry := by
  obtain ⟨listed, threshold⟩ := owners_congr wallets (congrArg LicensedUser.owner users)
  refine ⟨?_, ?_, ?_, ?_⟩
  · rw [listed]
    exact shown.owners
  · rw [threshold]
    exact shown.threshold
  · rw [users]
    exact shown.englishName
  · rw [users]
    exact shown.originalName

theorem Tracked.idle (tracked : Tracked state) (kept : Kept state') (alive : Alive state')
    (wallets : state'.wallets = state.wallets) (users : state'.luws = state.luws)
    (grown : state'.logs = fresh ++ state.logs) (dated : ∀ event ∈ fresh, Dated event)
    (logs : ∀ wallet_, Entry.of wallet_ state'.logs = Entry.of wallet_ state.logs) :
    Tracked state' := by
  refine ⟨kept, alive, ?_, ?_, ?_⟩
  · intro wallet_ named
    simp only [walletExists, users] at named
    obtain ⟨entry, found, shown⟩ := tracked.known wallet_ named
    exact ⟨entry, (logs wallet_).trans found,
      shown.congr (congrFun wallets _) (congrFun users _)⟩
  · intro wallet_ absent
    simp only [walletExists, users] at absent
    exact (logs wallet_).trans (tracked.unknown wallet_ absent)
  · rw [grown]
    exact List.forall_mem_append.mpr ⟨dated, tracked.dated⟩

/-- A call tells of one wallet; what the subgraph makes of it is to be shown. -/
theorem Tracked.touch (tracked : Tracked state) (kept : Kept state') (alive : Alive state')
    (confined : Confined wallet_ state state') (grown : state'.logs = fresh ++ state.logs)
    (told : ∀ event ∈ fresh, Tells wallet_ event) (exists_ : walletExists state' wallet_)
    (here : ∃ entry, fresh.foldr Entry.after (Entry.of wallet_ state.logs) = some entry ∧
      Shown state' wallet_ entry) : Tracked state' := by
  refine ⟨kept, alive, ?_, ?_, ?_⟩
  · intro other known
    by_cases same : other = wallet_
    · subst same
      rwa [grown, of_append told]
    · rw [grown, of_append_other told same]
      simp only [walletExists, confined.users other same] at known
      obtain ⟨entry, found, shown⟩ := tracked.known other known
      exact ⟨entry, found, shown.congr (confined.wallets other same) (confined.users other same)⟩
  · intro other absent
    by_cases same : other = wallet_
    · subst same
      exact absurd exists_ absent
    · rw [grown, of_append_other told same]
      simp only [walletExists, confined.users other same] at absent
      exact tracked.unknown other absent
  · rw [grown]
    exact List.forall_mem_append.mpr ⟨fun event belongs => (told event belongs).2, tracked.dated⟩

theorem tracked_blank : Tracked State.blank :=
  ⟨kept_blank, alive_blank, fun _ named => absurd rfl named, fun _ _ => rfl,
    List.forall_mem_nil _⟩

end Logs

section Calls

open LicensedUserManager

variable {world : World} {msg : Msg} {state state' : State} {_wallet : Address}
  {_threshold : Uint8} {members : List Address} {entry : Entry}

theorem listed_nodup (kept : Kept state) (named : walletExists state _wallet)
    (listed : getOwners state _wallet = .ok members) : members.Nodup := by
  by_cases single : isSingleOwner state _wallet
  · rw [getOwners, if_pos single] at listed
    cases listed
    exact List.nodup_singleton _
  · obtain ⟨owners, owned⟩ := kept.owned _wallet ⟨named, single⟩
    have formed := owned.wellFormed single
    have same : owners = members := by simpa using formed.listed.symm.trans listed
    exact same ▸ formed.distinct

/-- The event of a threshold that is another one. -/
def thresholdEvents (_wallet : Address) (before _threshold : Uint8) : List Event :=
  if before ≠ _threshold then [.ChangedThreshold _wallet _threshold] else []

def changeEvents (_wallet : Address) (before : Uint8) : OwnerChange → List Event
  | .addOwner _owner _threshold =>
      thresholdEvents _wallet before _threshold ++ [.AddedOwner _wallet _owner]
  | .removeOwner _ _owner _threshold =>
      thresholdEvents _wallet before _threshold ++ [.RemovedOwner _wallet _owner]
  | .swapOwner _ _oldOwner _newOwner =>
      [.AddedOwner _wallet _newOwner, .RemovedOwner _wallet _oldOwner]
  | .changeThreshold _threshold => [.ChangedThreshold _wallet _threshold]

theorem conclude_logs {record : Wallet} {event : Event} {threshold : Uint8}
    (accepted : (if threshold ≠ _threshold then
      changeThreshold world msg ((state.setWallet _wallet record).emit event) _wallet _threshold
      else pure ((state.setWallet _wallet record).emit event)) = .ok state') :
    state'.logs = thresholdEvents _wallet threshold _threshold ++ [event] ++ state.logs := by
  unfold thresholdEvents
  split at accepted
  · rename_i different
    obtain ⟨_, _, rfl⟩ := changeThreshold_effect accepted
    rw [if_pos different]
    rfl
  · rename_i same
    cases accepted
    rw [if_neg same]
    rfl

theorem addOwner_logs {_owner : Address}
    (accepted : OwnerManager.addOwner world msg state _wallet _owner _threshold = .ok state') :
    state'.logs = changeEvents _wallet (state.wallets _wallet).threshold
      (.addOwner _owner _threshold) ++ state.logs := by
  simp only [OwnerManager.addOwner, bind_eq_ok] at accepted
  obtain ⟨_, _, _, _, _, _, _, _, accepted⟩ := accepted
  exact conclude_logs accepted

theorem removeOwner_logs {_prevOwner _owner : Address}
    (accepted : removeOwner world msg state _wallet _prevOwner _owner _threshold = .ok state') :
    state'.logs = changeEvents _wallet (state.wallets _wallet).threshold
      (.removeOwner _prevOwner _owner _threshold) ++ state.logs := by
  simp only [removeOwner, bind_eq_ok] at accepted
  obtain ⟨_, _, _, _, _, _, _, _, _, _, accepted⟩ := accepted
  exact conclude_logs accepted

theorem swapOwner_logs {_prevOwner _oldOwner _newOwner : Address} (before : Uint8)
    (accepted : swapOwner world msg state _wallet _prevOwner _oldOwner _newOwner = .ok state') :
    state'.logs = changeEvents _wallet before
      (.swapOwner _prevOwner _oldOwner _newOwner) ++ state.logs := by
  simp only [swapOwner, bind_eq_ok, pure_eq_ok] at accepted
  obtain ⟨_, _, _, _, _, _, _, _, _, _, rfl⟩ := accepted
  rfl

theorem changeThreshold_logs (before : Uint8)
    (accepted : changeThreshold world msg state _wallet _threshold = .ok state') :
    state'.logs = changeEvents _wallet before (.changeThreshold _threshold) ++ state.logs := by
  obtain ⟨_, _, rfl⟩ := changeThreshold_effect accepted
  rfl

theorem changeEvents_tell (_wallet : Address) (before : Uint8) (change : OwnerChange) :
    ∀ event ∈ changeEvents _wallet before change, Tells _wallet event := by
  intro event belongs
  have threshold : ∀ _threshold, event ∈ thresholdEvents _wallet before _threshold →
      Tells _wallet event := by
    intro _threshold told
    unfold thresholdEvents at told
    split at told
    · cases List.mem_singleton.mp told
      exact ⟨rfl, trivial⟩
    · cases told
  cases change with
  | addOwner _owner _threshold =>
      rcases List.mem_append.mp belongs with told | last
      · exact threshold _ told
      · cases List.mem_singleton.mp last
        exact ⟨rfl, trivial⟩
  | removeOwner _prevOwner _owner _threshold =>
      rcases List.mem_append.mp belongs with told | last
      · exact threshold _ told
      · cases List.mem_singleton.mp last
        exact ⟨rfl, trivial⟩
  | swapOwner _prevOwner _oldOwner _newOwner =>
      rcases List.mem_pair.mp belongs with rfl | rfl
      · exact ⟨rfl, trivial⟩
      · exact ⟨rfl, trivial⟩
  | changeThreshold _threshold =>
      cases List.mem_singleton.mp belongs
      exact ⟨rfl, trivial⟩

theorem thresholdEvents_after (entry : Entry) (_threshold : Uint8) :
    (thresholdEvents _wallet entry.threshold _threshold).foldr Entry.after (some entry) =
      some { entry with threshold := _threshold } := by
  unfold thresholdEvents
  split
  · rfl
  · rename_i same
    rw [← not_not.mp same]
    rfl

theorem replace_perm {_oldOwner _newOwner : Address} (belongs : _oldOwner ∈ members) :
    (members.replace _oldOwner _newOwner).Perm (members.erase _oldOwner ++ [_newOwner]) := by
  induction members with
  | nil => cases belongs
  | cons member members ih =>
      by_cases first : member = _oldOwner
      · subst first
        rw [List.replace_cons_self, List.erase_cons_head]
        exact (List.perm_append_singleton _ _).symm
      · have later : _oldOwner ∈ members :=
          (List.mem_cons.mp belongs).resolve_left (Ne.symm first)
        have other : (_oldOwner == member) = false := beq_eq_false_iff_ne.mpr (Ne.symm first)
        rw [List.replace_cons, other, List.erase_cons_tail (by simpa using first),
          List.cons_append]
        exact (ih later).cons member

/-- The events of a change do to an entry what the change does to the list. -/
theorem changeEvents_after (change : OwnerChange) (allowed : change.Allowed members)
    (owners : entry.owners.Perm members) :
    ∃ entry', (changeEvents _wallet entry.threshold change).foldr Entry.after (some entry) =
        some entry' ∧
      entry'.owners.Perm (change.apply members) ∧
      entry'.threshold = change.threshold entry.threshold ∧
      entry'.englishName = entry.englishName ∧ entry'.originalName = entry.originalName := by
  cases change with
  | addOwner _owner _threshold =>
      refine ⟨{ entry with owners := entry.owners ++ [_owner], threshold := _threshold }, ?_, ?_,
        rfl, rfl, rfl⟩
      · rw [changeEvents, List.foldr_append]
        exact thresholdEvents_after { entry with owners := entry.owners ++ [_owner] } _threshold
      · exact (owners.append_right [_owner]).trans (List.perm_append_singleton _ _)
  | removeOwner _prevOwner _owner _threshold =>
      refine ⟨{ entry with owners := entry.owners.erase _owner, threshold := _threshold }, ?_,
        owners.erase _owner, rfl, rfl, rfl⟩
      rw [changeEvents, List.foldr_append]
      exact thresholdEvents_after { entry with owners := entry.owners.erase _owner } _threshold
  | swapOwner _prevOwner _oldOwner _newOwner =>
      refine ⟨{ entry with owners := entry.owners.erase _oldOwner ++ [_newOwner] }, rfl, ?_,
        rfl, rfl, rfl⟩
      exact ((owners.erase _oldOwner).append_right [_newOwner]).trans
        (replace_perm allowed.1.mem).symm
  | changeThreshold _threshold =>
      exact ⟨{ entry with threshold := _threshold }, rfl, owners, rfl, rfl, rfl⟩

theorem Tracked.represents (tracked : Tracked state) (multi : IsMultiOwner state _wallet) :
    ∃ members, Represents state _wallet members := by
  obtain ⟨members, owned⟩ := tracked.kept.owned _wallet multi
  exact ⟨members, owned, tracked.alive _wallet multi.1, multi⟩

theorem Tracked.changed {change : OwnerChange} (tracked : Tracked state)
    (multi : IsMultiOwner state _wallet)
    (kept : Kept state') (alive : Alive state') (confined : Confined _wallet state state')
    (refines : ∀ members, Represents state _wallet members →
      change.Allowed members ∧ Represents state' _wallet (change.apply members) ∧
        getThreshold state' _wallet = change.threshold (getThreshold state _wallet))
    (users : state'.luws = state.luws)
    (grown : state'.logs = changeEvents _wallet (state.wallets _wallet).threshold change ++
      state.logs) : Tracked state' := by
  obtain ⟨members, represents⟩ := tracked.represents multi
  obtain ⟨allowed, represents', threshold⟩ := refines members represents
  obtain ⟨entry, found, shown⟩ := tracked.known _wallet multi.1
  obtain ⟨owners, listed, _, permuted⟩ := shown.owners
  obtain rfl : members = owners := by simpa using represents.listed.symm.trans listed
  have before : (state.wallets _wallet).threshold = entry.threshold :=
    (shown.threshold.trans represents.threshold_eq).symm
  obtain ⟨entry', after, owners', threshold', englishName, originalName⟩ :=
    changeEvents_after change allowed permuted
  refine tracked.touch kept alive confined grown (changeEvents_tell _ _ _) represents'.multi.1 ?_
  rw [before, found]
  refine ⟨entry', after, ⟨_, represents'.listed, ?_, owners'⟩, ?_, ?_, ?_⟩
  · exact listed_nodup kept represents'.multi.1 represents'.listed
  · rw [threshold', threshold, shown.threshold]
  · rw [englishName, users, shown.englishName]
  · rw [originalName, users, shown.originalName]

theorem emitCreate_logs {_salt : Bytes32}
    (emitted : emitCreateLicensedUserWallet state _wallet _salt = .ok state') :
    ∃ owners event, getOwners state _wallet = .ok owners ∧ state' = state.emit event ∧
      event = .CreateLicensedUserWallet _wallet owners (getThreshold state _wallet)
        (state.luws _wallet).englishName (state.luws _wallet).originalName
        (state.luws _wallet).userType _salt := by
  simp only [emitCreateLicensedUserWallet, bind_eq_ok, pure_eq_ok] at emitted
  obtain ⟨owners, listed, rfl⟩ := emitted
  exact ⟨owners, _, listed, rfl, rfl⟩

theorem createWalletInternal_tracked {_details : LicensedUserDto} {_salt : Bytes32}
    (tracked : Tracked state) (distinct : _details.owners.IsChain (· ≠ ·))
    (accepted : createWalletInternal state _details _wallet _salt = .ok state') :
    Tracked state' := by
  have kept := createWalletInternal_kept tracked.kept distinct accepted
  have alive := createWalletInternal_alive tracked.alive accepted
  have confined := createWalletInternal_confined accepted
  simp only [createWalletInternal, bind_eq_ok] at accepted
  obtain ⟨_, valid, made, setup, emitted⟩ := accepted
  obtain ⟨vacant, _, named⟩ := isValidCreateWalletRequest_effect valid
  obtain ⟨owners, event, listed, rfl, created⟩ := emitCreate_logs emitted
  obtain ⟨logs, name⟩ : made.logs = state.logs ∧
      (made.luws _wallet).originalName = _details.originalName := by
    split at setup
    · simp only [setupOwners, bind_eq_ok, pure_eq_ok] at setup
      obtain ⟨_, _, _, _, _, _, _, _, rfl⟩ := setup
      simp [State.setWallet, State.setUser]
    · cases setup
      simp [State.setUser]
  have exists_ : walletExists (made.emit event) _wallet := by
    change (made.luws _wallet).originalName ≠ []
    rw [name]
    exact named
  have grown : (made.emit event).logs = [event] ++ state.logs := congrArg (List.cons event) logs
  refine tracked.touch kept alive confined grown ?_ exists_ ?_
  · intro other belongs
    cases List.mem_singleton.mp belongs
    rw [created]
    exact ⟨rfl, trivial⟩
  · rw [tracked.unknown _wallet vacant, created]
    exact ⟨_, rfl, ⟨owners, listed, listed_nodup kept exists_ listed, .refl _⟩, rfl, rfl, rfl⟩

theorem singleToMulti_tracked {_owner : Address} (tracked : Tracked state)
    (kept : Kept state') (alive : Alive state') (confined : Confined _wallet state state')
    (single : isSingleOwner state _wallet)
    (distinct : (state.luws _wallet).owner ≠ _owner) (named : walletExists state _wallet)
    (accepted : singleToMulti state _wallet [(state.luws _wallet).owner, _owner] _threshold =
      .ok state') : Tracked state' := by
  simp only [singleToMulti, bind_eq_ok, pure_eq_ok] at accepted
  obtain ⟨made, setup, rfl⟩ := accepted
  have blank : state.wallets _wallet = Wallet.blank :=
    tracked.kept.blank _wallet fun multi => multi.2 single
  have chain : [(state.luws _wallet).owner, _owner].IsChain (· ≠ ·) := by simpa using distinct
  have threshold : (made.wallets _wallet).threshold = _threshold := by
    simp only [setupOwners, bind_eq_ok, pure_eq_ok] at setup
    obtain ⟨_, _, _, _, _, _, _, _, rfl⟩ := setup
    simp [State.setWallet]
  obtain ⟨wallet, rfl, ring, count, positive, reached⟩ := setupOwners_effect setup blank chain
  obtain ⟨entry, found, shown⟩ := tracked.known _wallet named
  have owned : Owned wallet [(state.luws _wallet).owner, _owner] :=
    ⟨⟨ring, by rw [count]; rfl⟩, positive, reached⟩
  obtain ⟨final, made⟩ : ∃ final, final = ((state.setUser _wallet
      { state.luws _wallet with owner := 0 }).setWallet _wallet wallet).emit
        (.UpgradeLicensedUserWalletToMulti _wallet [(state.luws _wallet).owner, _owner]
          _threshold) := ⟨_, rfl⟩
  rw [← made] at kept alive confined ⊢
  have stored : final.wallets _wallet = wallet := by simp [made, State.setWallet, State.emit]
  have user : final.luws _wallet = { state.luws _wallet with owner := 0 } := by
    simp [made, State.setWallet, State.setUser, State.emit]
  have multi : ¬isSingleOwner final _wallet := by simp [isSingleOwner, user]
  have exists_ : walletExists final _wallet := by simpa [walletExists, user] using named
  have formed := (stored.symm ▸ owned : Owned (final.wallets _wallet) _).wellFormed multi
  have grown : final.logs = [.UpgradeLicensedUserWalletToMulti _wallet
      [(state.luws _wallet).owner, _owner] _threshold] ++ state.logs := by rw [made]; rfl
  refine tracked.touch kept alive confined grown ?_ exists_ ?_
  · intro event belongs
    cases List.mem_singleton.mp belongs
    exact ⟨rfl, trivial⟩
  · rw [found]
    refine ⟨_, rfl, ⟨_, formed.listed, formed.distinct, .refl _⟩, ?_, ?_, ?_⟩
    · rw [getThreshold, if_neg multi, OwnerManager.getThreshold, stored, ← threshold]
      simp [State.setWallet]
    · rw [user]
      exact shown.englishName
    · rw [user]
      exact shown.originalName

theorem Tracked.renamed {_name : Bytes} {user : LicensedUser} {key : String}
    (tracked : Tracked state) (active : isActiveWallet state _wallet = true)
    (owner : user.owner = (state.luws _wallet).owner) (same : user.active = true)
    (named : user.originalName ≠ [])
    (english : user.englishName =
      if key = "englishName" then _name else (state.luws _wallet).englishName)
    (original : user.originalName =
      if key = "englishName" then (state.luws _wallet).originalName
      else if key = "originalName" then _name
      else (state.luws _wallet).originalName) :
    Tracked ((state.setUser _wallet user).emit (.UpdateLicensedUserDetail _wallet key _name)) := by
  obtain ⟨entry, found, shown⟩ := tracked.known _wallet (tracked.kept.active _wallet active)
  have user_ : ((state.setUser _wallet user).emit
      (.UpdateLicensedUserDetail _wallet key _name)).luws _wallet = user :=
    Function.update_self ..
  obtain ⟨final, made⟩ : ∃ final, final = (state.setUser _wallet user).emit
      (.UpdateLicensedUserDetail _wallet key _name) := ⟨_, rfl⟩
  have kept : Kept final := made ▸ rename_kept tracked.kept active owner named
  have alive : Alive final := by
    rw [made]
    exact tracked.alive.setUser same rfl
  have confined : Confined _wallet state final := made ▸ (Confined.setUser user).emit _
  have grown : final.logs = [.UpdateLicensedUserDetail _wallet key _name] ++ state.logs :=
    congrArg State.logs made
  rw [← made] at user_ ⊢
  have exists_ : walletExists final _wallet := by simpa [walletExists, user_] using named
  have stored : final.wallets _wallet = state.wallets _wallet := by rw [made]; rfl
  have owner_ : (final.luws _wallet).owner = (state.luws _wallet).owner := by rw [user_, owner]
  obtain ⟨listed, threshold⟩ := owners_congr stored owner_
  refine tracked.touch kept alive confined grown ?_ exists_ ?_
  · intro event belongs
    cases List.mem_singleton.mp belongs
    exact ⟨rfl, trivial⟩
  · rw [found]
    refine ⟨_, rfl, ?_, ?_, ?_, ?_⟩
    · rw [listed]
      exact shown.owners
    · rw [threshold]
      exact shown.threshold
    · rw [user_, english, ← shown.englishName]
    · rw [user_, original, ← shown.originalName]

theorem authorised_of {next : Unit → Result State}
    (accepted : (onlyWalletOrAdministrator world msg state _wallet >>= next) = .ok state') :
    onlyWalletOrAdministrator world msg state _wallet = .ok () := by
  obtain ⟨_, authorised, _⟩ := bind_eq_ok.mp accepted
  exact authorised

/-- A migrated wallet is no younger than the last date. -/
def Datable (transaction : Transaction) : Prop :=
  match transaction.call with
  | .createWalletFromMigration _ _ _ _originTimestamp => _originTimestamp.toNat ≤ 8640000000000
  | _ => True

theorem execute_tracked {deployment : Deployment} {transaction : Transaction}
    (distinct : NoRepeatedOwner transaction state) (datable : Datable transaction)
    (tracked : Tracked state) (accepted : execute deployment transaction state = .ok state') :
    Tracked state' := by
  have kept := execute_kept distinct tracked.kept accepted
  have alive := execute_alive tracked.alive accepted
  obtain ⟨world, msg, call⟩ := transaction
  cases call with
  | initializeV1 _nameRegistryAddress _trustedForwarder =>
      simp only [execute, initializeV1, bind_eq_ok] at accepted
      obtain ⟨_, _, accepted⟩ := accepted
      split at accepted
      · cases accepted
      · cases accepted
        exact tracked.idle kept alive rfl rfl List.singleton_append.symm
          (List.forall_mem_singleton.mpr trivial) fun _ => rfl
  | initializeV2 _upgradeableBeacon =>
      simp only [execute, initializeV2, bind_eq_ok, pure_eq_ok] at accepted
      obtain ⟨_, _, rfl⟩ := accepted
      exact tracked.idle kept alive rfl rfl List.singleton_append.symm
        (List.forall_mem_singleton.mpr trivial) fun _ => rfl
  | createWallet _details _salt =>
      simp only [execute, createWallet, bind_eq_ok] at accepted
      obtain ⟨_, _, accepted⟩ := accepted
      split at accepted
      · cases accepted
      · exact createWalletInternal_tracked tracked distinct accepted
  | createWalletFromMigration _details _walletAddress _originChain _originTimestamp =>
      simp only [execute, createWalletFromMigration, bind_eq_ok, pure_eq_ok] at accepted
      obtain ⟨_, _, made, created, rfl⟩ := accepted
      have bounded : Dated (.MigrateLicensedUserWallet _walletAddress _originChain
          _originTimestamp) := by
        simp only [Datable] at datable
        simp only [Dated, secondsToMillis, lastDate]
        omega
      refine (createWalletInternal_tracked tracked distinct created).idle kept alive rfl rfl
        List.singleton_append.symm (List.forall_mem_singleton.mpr bounded) ?_
      intro wallet_
      by_cases here : _walletAddress = wallet_
      · simp [Entry.of, State.emit, Entry.wallet, here, Entry.after]
      · simp [Entry.of, State.emit, Entry.wallet, here]
  | addOwner _walletAddress _owner _threshold =>
      have confined := (addOwner_confined accepted).2
      simp only [execute, addOwner, onlyActiveWallet, bind_eq_ok, require_eq_ok] at accepted
      obtain ⟨_, active, _, authorised, accepted⟩ := accepted
      have named := tracked.kept.active _walletAddress active
      split at accepted
      · rename_i single
        exact singleToMulti_tracked tracked kept alive confined single (distinct single) named
          accepted
      · rename_i notSingle
        refine tracked.changed ⟨named, notSingle⟩ kept alive confined ?_ (addOwner_users accepted)
          (addOwner_logs accepted)
        intro members represents
        rw [← addOwner_eq represents authorised] at accepted
        exact (addOwner_refines represents authorised _owner).follows accepted
  | removeOwner _wallet _prevOwner _owner _threshold =>
      have multi := tracked.kept.multi fun blank =>
        (blank_calls world msg blank).1 _ _ _ _ accepted
      refine tracked.changed multi kept alive (removeOwner_confined accepted).2 ?_
        (removeOwner_users accepted) (removeOwner_logs accepted)
      intro members represents
      exact (removeOwner_refines represents (authorised_of accepted) _ _).follows accepted
  | swapOwner _wallet _prevOwner _oldOwner _newOwner =>
      have multi := tracked.kept.multi fun blank =>
        (blank_calls world msg blank).2.1 _ _ _ _ accepted
      refine tracked.changed multi kept alive (swapOwner_confined accepted).2 ?_
        (swapOwner_users accepted) (swapOwner_logs _ accepted)
      intro members represents
      exact (swapOwner_refines represents (authorised_of accepted) _ _ _).follows accepted
  | changeThreshold _wallet _threshold =>
      have multi := tracked.kept.multi fun blank => (blank_calls world msg blank).2.2 _ _ accepted
      refine tracked.changed multi kept alive (changeThreshold_confined accepted).2 ?_
        (changeThreshold_users accepted) (changeThreshold_logs _ accepted)
      intro members represents
      exact (changeThreshold_refines represents (authorised_of accepted)).follows accepted
  | setOriginalName _walletAddress _name =>
      simp only [execute, setOriginalName, onlyActiveWallet, bind_eq_ok, require_eq_ok,
        pure_eq_ok] at accepted
      obtain ⟨_, _, _, active, _, named, rfl⟩ := accepted
      exact tracked.renamed active rfl active named rfl rfl
  | setEnglishName _walletAddress _name =>
      simp only [execute, setEnglishName, onlyActiveWallet, bind_eq_ok, require_eq_ok,
        pure_eq_ok] at accepted
      obtain ⟨_, _, _, active, _, named, rfl⟩ := accepted
      exact tracked.renamed active rfl active (tracked.kept.active _ active) rfl rfl

end Calls

end Startrail.Subgraph

namespace Startrail.LicensedUserManager

open Subgraph

/-- Every wallet is shown with its owners, its threshold and its names. -/
def Mirrored (wallets : Wallets) (state : State) : Prop :=
  ∀ wallet, walletExists state wallet → ∃ luw members, wallets wallet = some luw ∧
    getOwners state wallet = .ok members ∧
    luw.owners.Nodup ∧ members.Nodup ∧ (∀ owner, owner ∈ luw.owners ↔ owner ∈ members) ∧
    luw.threshold = getThreshold state wallet ∧
    luw.englishName = (state.luws wallet).englishName ∧
    luw.originalName = (state.luws wallet).originalName

theorem wallets_shown (toUTCString : Nat → Option Bytes) (prints : Prints toUTCString)
    (deployment : Deployment) (config : Config Revert State Empty Empty Transaction)
    (reach : Reach (entry deployment)
      (fun transaction state => NoRepeatedOwner transaction state ∧ Datable transaction)
      State.blank config)
    (feed : List (Emitted Event)) (logged : feed.map Emitted.event = config.now.state.logs) :
    ∃ wallets, indexWallets toUTCString feed = some wallets ∧
      Mirrored wallets config.now.state := by
  have tracked : Tracked config.now.state := by
    refine reach.invariant Tracked tracked_blank ?_
    rintro transaction state ⟨distinct, datable⟩ tracked trace
    apply Outcome.Meets.lift
    intro state' accepted
    exact execute_tracked distinct datable tracked accepted
  obtain ⟨wallets, indexed⟩ := indexWallets_some prints (logged.symm ▸ tracked.dated)
  refine ⟨wallets, indexed, ?_⟩
  intro wallet named
  obtain ⟨entry, found, shown⟩ := tracked.known wallet named
  obtain ⟨members, listed, distinct, owners⟩ := shown.owners
  rw [← logged, ← indexWallets_entry indexed] at found
  obtain ⟨luw, stored, rfl⟩ := Option.map_eq_some_iff.mp found
  exact ⟨luw, members, stored, listed, owners.nodup_iff.mpr distinct, distinct,
    fun owner => owners.mem_iff, shown.threshold, shown.englishName, shown.originalName⟩

section Samples

/-- The date of one time, by its text, and of the others that have one. -/
def sampleUTCString (timestamp : Nat) : Option Bytes :=
  if timestamp = 1600000000000 then some (ascii "Sun, 13 Sep 2020 12:26:40 GMT")
  else if timestamp ≤ lastDate then some []
  else none

theorem sampleUTCString_prints : Prints sampleUTCString := by
  intro timestamp early
  unfold sampleUTCString
  split
  · rfl
  · rfl

theorem wallets_shown_sample :
    ∃ wallets luw, indexWallets sampleUTCString
        ((sampleRun sampleOwner 0xb0b).now.state.logs.map (Emitted.mk 1700000000)) =
          some wallets ∧ wallets sampleWallet = some luw ∧
      luw.threshold = 2 ∧ ∀ owner, owner ∈ luw.owners ↔ owner ∈ [sampleOwner, 0xb0b] := by
  have reach : Reach (entry sampleDeployment)
      (fun transaction state => NoRepeatedOwner transaction state ∧ Datable transaction)
      State.blank (sampleRun sampleOwner 0xb0b) := by
    refine Reach.enter _ (Reach.enter _ Reach.start ⟨trivial, trivial⟩) ?_
    simp only [NoRepeatedOwner, Datable, sampleCall]
    decide
  have logged : ((sampleRun sampleOwner 0xb0b).now.state.logs.map (Emitted.mk 1700000000)).map
      Emitted.event = (sampleRun sampleOwner 0xb0b).now.state.logs := by
    rw [List.map_map]
    exact List.map_id _
  obtain ⟨wallets, indexed, mirrored⟩ :=
    wallets_shown sampleUTCString sampleUTCString_prints sampleDeployment _ reach _ logged
  obtain ⟨luw, members, stored, listed, _, _, owners, threshold, _⟩ :=
    mirrored sampleWallet (by decide)
  have listed' : getOwners (sampleRun sampleOwner 0xb0b).now.state sampleWallet =
      .ok [sampleOwner, 0xb0b] := by rfl
  obtain rfl : members = [sampleOwner, 0xb0b] := by simpa using listed.symm.trans listed'
  exact ⟨wallets, luw, indexed, stored, threshold, owners⟩

/-- The wallet is migrated with a time in milliseconds in place of seconds. -/
def lateRun : Config Revert State Empty Empty Transaction :=
  (((Config.start State.blank).enter (entry sampleDeployment)
    (sampleCall (.initializeV1 0x4a3e 0xf03a))).enter (entry sampleDeployment)
      (sampleCall (.createWalletFromMigration ⟨[sampleOwner, 0xb0b], 2, .HANDLER, [0x45], [0x4f]⟩
        sampleWallet [0x65, 0x74, 0x68] 10000000000000)))

theorem lateRun_unindexed :
    ¬∀ config, Reach (entry sampleDeployment) NoRepeatedOwner State.blank config →
      ∀ feed, feed.map Emitted.event = config.now.state.logs →
        ∃ wallets, indexWallets sampleUTCString feed = some wallets ∧
          Mirrored wallets config.now.state := by
  intro shown
  have reach : Reach (entry sampleDeployment) NoRepeatedOwner State.blank lateRun := by
    refine Reach.enter _ (Reach.enter _ Reach.start trivial) ?_
    simp only [NoRepeatedOwner, sampleCall]
    decide
  have logged : (lateRun.now.state.logs.map (Emitted.mk 1700000000)).map Emitted.event =
      lateRun.now.state.logs := by
    rw [List.map_map]
    exact List.map_id _
  obtain ⟨wallets, indexed, _⟩ := shown _ reach _ logged
  have failed : (indexWallets sampleUTCString
      (lateRun.now.state.logs.map (Emitted.mk 1700000000))).isNone = true := by decide
  rw [indexed] at failed
  cases failed

end Samples

end Startrail.LicensedUserManager
