import Startrail.Library.Reentrancy
import Startrail.Library.SentinelRing
import Startrail.LicensedUser.Core

/-!
The owner lists of the licensed user manager over whole runs. A multi-owner
wallet stands for a list of members: its links are a ring of them, its count is
their number and its threshold can be met. Each owner function is the matching
operation on the list. The check for duplicates in `setupOwners` reads the link
of an owner that the loop writes one round later, so it misses an owner that is
given twice in a row; on lists without such a repetition every run keeps every
multi-owner wallet well formed.
-/

namespace Startrail.LicensedUserManager

open Function (update)

def IsMultiOwner (state : State) (wallet : Address) : Prop :=
  walletExists state wallet ∧ ¬isSingleOwner state wallet

instance (state : State) (wallet : Address) : Decidable (IsMultiOwner state wallet) :=
  inferInstanceAs (Decidable (_ ∧ _))

structure Linked (wallet : Wallet) (members : List Address) : Prop where
  ring : Ring wallet.owners 0 SENTINEL_OWNERS members
  count : wallet.ownerCount.toNat = members.length

structure Owned (wallet : Wallet) (members : List Address) : Prop
    extends Linked wallet members where
  positive : 1 ≤ wallet.threshold.toNat
  reached : wallet.threshold.toNat ≤ members.length

structure Kept (state : State) : Prop where
  active : ∀ wallet, isActiveWallet state wallet = true → walletExists state wallet
  single : ∀ wallet, isSingleOwner state wallet → walletExists state wallet
  owned : ∀ wallet, IsMultiOwner state wallet → ∃ members, Owned (state.wallets wallet) members
  blank : ∀ wallet, ¬IsMultiOwner state wallet → state.wallets wallet = Wallet.blank

theorem kept_blank : Kept State.blank := by
  refine ⟨?_, ?_, ?_, fun _ _ => rfl⟩
  · intro wallet active
    simp [isActiveWallet, State.blank] at active
  · intro wallet single
    simp [isSingleOwner, State.blank] at single
  · intro wallet multi
    simp [IsMultiOwner, walletExists, State.blank] at multi

/-- A call that touches one wallet keeps the others; what it makes of that one is to be shown. -/
theorem Kept.touch {state state' : State} (kept : Kept state) (wallet : Address)
    (wallets : ∀ other, other ≠ wallet → state'.wallets other = state.wallets other)
    (users : ∀ other, other ≠ wallet → state'.luws other = state.luws other)
    (named : walletExists state' wallet)
    (owned : ¬isSingleOwner state' wallet → ∃ members, Owned (state'.wallets wallet) members)
    (blank : isSingleOwner state' wallet → state'.wallets wallet = Wallet.blank) : Kept state' := by
  refine ⟨?_, ?_, ?_, ?_⟩
  · intro other active
    by_cases same : other = wallet
    · exact same ▸ named
    · simp only [isActiveWallet, walletExists, users other same] at active ⊢
      exact kept.active other active
  · intro other single
    by_cases same : other = wallet
    · exact same ▸ named
    · simp only [isSingleOwner, walletExists, users other same] at single ⊢
      exact kept.single other single
  · intro other multi
    by_cases same : other = wallet
    · subst other
      exact owned multi.2
    · rw [wallets other same]
      apply kept.owned other
      simpa only [IsMultiOwner, walletExists, isSingleOwner, users other same] using multi
  · intro other notMulti
    by_cases same : other = wallet
    · subst other
      apply blank
      by_contra multi
      exact notMulti ⟨named, multi⟩
    · rw [wallets other same]
      apply kept.blank other
      simpa only [IsMultiOwner, walletExists, isSingleOwner, users other same] using notMulti

section Loops

/-- The invariant of the loop: the list read so far is a ring once the pending link of its last
owner is closed. -/
theorem setupOwnersLoop_ring {_owners visited : List Address} {currentOwner last : Address}
    {owners links : Address → Address}
    (closed : Ring (update owners currentOwner SENTINEL_OWNERS) 0 SENTINEL_OWNERS visited)
    (current : (SENTINEL_OWNERS :: visited).getLast (List.cons_ne_nil _ _) = currentOwner)
    (distinct : (currentOwner :: _owners).IsChain (· ≠ ·))
    (accepted : setupOwnersLoop _owners currentOwner owners = .ok (last, links)) :
    Ring (update links last SENTINEL_OWNERS) 0 SENTINEL_OWNERS (visited ++ _owners) := by
  induction _owners generalizing visited currentOwner owners with
  | nil =>
      simp only [setupOwnersLoop, pure_eq_ok, Prod.mk.injEq] at accepted
      obtain ⟨rfl, rfl⟩ := accepted
      simpa using closed
  | cons owner _owners ih =>
      simp only [setupOwnersLoop, bind_eq_ok, require_eq_ok] at accepted
      obtain ⟨_, proper, _, unlinked, accepted⟩ := accepted
      rw [List.isChain_cons_cons] at distinct
      have fresh : owner ∉ SENTINEL_OWNERS :: visited := by
        rw [← closed.link_ne_null_iff, not_not, Function.update_of_ne distinct.1.symm]
        exact unlinked
      have extended := closed.append fresh proper.1
      rw [current, Function.update_idem] at extended
      have result := ih extended (by simp) distinct.2 accepted
      simpa using result

theorem setupOwnersLoop_blank {_owners : List Address} {last : Address}
    {links : Address → Address} (distinct : _owners.IsChain (· ≠ ·))
    (accepted : setupOwnersLoop _owners SENTINEL_OWNERS (fun _ => 0) = .ok (last, links)) :
    Ring (update links last SENTINEL_OWNERS) 0 SENTINEL_OWNERS _owners := by
  have closed : Ring (update (fun _ => 0) SENTINEL_OWNERS SENTINEL_OWNERS) 0 SENTINEL_OWNERS [] :=
    Ring.empty (by decide)
  refine setupOwnersLoop_ring closed rfl ?_ accepted
  cases _owners with
  | nil => simp
  | cons owner _owners =>
      simp only [setupOwnersLoop, bind_eq_ok, require_eq_ok] at accepted
      obtain ⟨_, proper, _⟩ := accepted
      exact List.isChain_cons_cons.mpr ⟨proper.2.symm, distinct⟩

theorem getOwnersLoop_path {owners : Address → Address} {source : Address}
    {members : List Address} (follows : Follows owners source members SENTINEL_OWNERS)
    (proper : SENTINEL_OWNERS ∉ members) (room : Nat) :
    getOwnersLoop owners room (owners source) =
      if members.length ≤ room then .ok (members ++ List.replicate (room - members.length) 0)
      else .error (.panic 0x32) := by
  induction members generalizing source room with
  | nil =>
      have closes : owners source = SENTINEL_OWNERS := follows
      cases room with
      | zero => simp [getOwnersLoop, closes, requirePanic]
      | succ room => simp [getOwnersLoop, closes]
  | cons member members ih =>
      simp only [List.mem_cons, not_or] at proper
      have step : owners source = member := follows.1
      have notLast : member ≠ SENTINEL_OWNERS := fun same => proper.1 same.symm
      cases room with
      | zero => simp [getOwnersLoop, step, notLast, requirePanic]
      | succ room =>
          simp only [getOwnersLoop, step, notLast, if_false, ih follows.2 proper.2]
          by_cases fits : members.length ≤ room
          · simp [fits]
          · simp [fits]

end Loops

section Wallets

variable {wallet : Wallet} {members : List Address}

theorem Linked.insert (linked : Linked wallet members) {_owner : Address}
    (proper : _owner ≠ 0) (fresh : wallet.owners _owner = 0)
    (room : wallet.ownerCount.toNat + 1 < 2 ^ 8) :
    Linked { wallet with
      owners := update (update wallet.owners _owner (wallet.owners SENTINEL_OWNERS))
        SENTINEL_OWNERS _owner
      ownerCount := wallet.ownerCount + 1 } (_owner :: members) := by
  have absent : _owner ∉ SENTINEL_OWNERS :: members := by
    rw [← linked.ring.link_ne_null_iff, not_not]
    exact fresh
  refine ⟨linked.ring.insert absent proper, ?_⟩
  have count := linked.count
  have one : (1 : Uint8).toNat = 1 := rfl
  simp only [BitVec.toNat_add, List.length_cons, one]
  omega

theorem Linked.remove (linked : Linked wallet members) {_prevOwner _owner : Address}
    (proper : _owner ≠ 0 ∧ _owner ≠ SENTINEL_OWNERS) (link : wallet.owners _prevOwner = _owner) :
    ∃ front back, members = front ++ _owner :: back ∧
      Linked { wallet with
        owners := update (update wallet.owners _prevOwner (wallet.owners _owner)) _owner 0
        ownerCount := wallet.ownerCount - 1 } (front ++ back) := by
  obtain ⟨front, back, shape, _, ring⟩ := linked.ring.remove link proper.1 proper.2
  refine ⟨front, back, shape, ring, ?_⟩
  have count := linked.count
  simp only [shape, List.length_append, List.length_cons] at count ⊢
  have one : (1 : Uint8).toNat = 1 := rfl
  have positive : 1 ≤ wallet.ownerCount := by
    rw [BitVec.le_def, one]
    omega
  rw [BitVec.toNat_sub_of_le positive, one]
  omega

theorem Owned.swap (owned : Owned wallet members) {_prevOwner _oldOwner _newOwner : Address}
    (proper : _oldOwner ≠ 0 ∧ _oldOwner ≠ SENTINEL_OWNERS) (newProper : _newOwner ≠ 0)
    (fresh : wallet.owners _newOwner = 0) (link : wallet.owners _prevOwner = _oldOwner) :
    ∃ front back, members = front ++ _oldOwner :: back ∧
      Owned { wallet with
        owners := update (update (update wallet.owners _newOwner (wallet.owners _oldOwner))
          _prevOwner _newOwner) _oldOwner 0 } (front ++ _newOwner :: back) := by
  have absent : _newOwner ∉ SENTINEL_OWNERS :: members := by
    rw [← owned.ring.link_ne_null_iff, not_not]
    exact fresh
  obtain ⟨front, back, shape, _, ring⟩ :=
    owned.ring.replace link proper.1 proper.2 absent newProper
  have same : (front ++ _newOwner :: back).length = members.length := by simp [shape]
  exact ⟨front, back, shape, ⟨ring, same ▸ owned.count⟩, owned.positive, same ▸ owned.reached⟩

end Wallets

section Calls

variable {world : World} {msg : Msg} {state state' : State} {_wallet : Address}

theorem changeThreshold_effect {_threshold : Uint8}
    (accepted : changeThreshold world msg state _wallet _threshold = .ok state') :
    _threshold ≤ (state.wallets _wallet).ownerCount ∧ 1 ≤ _threshold ∧
      state' = (state.setWallet _wallet
        { state.wallets _wallet with threshold := _threshold }).emit
          (.ChangedThreshold _wallet _threshold) := by
  simp only [changeThreshold, bind_eq_ok, require_eq_ok, pure_eq_ok] at accepted
  obtain ⟨_, _, _, reached, _, positive, rfl⟩ := accepted
  exact ⟨reached, positive, rfl⟩

theorem Linked.threshold {wallet : Wallet} {members : List Address}
    (linked : Linked wallet members) {_threshold : Uint8}
    (reached : _threshold ≤ wallet.ownerCount) (positive : 1 ≤ _threshold) :
    Owned { wallet with threshold := _threshold } members := by
  have count := linked.count
  have one : (1 : Uint8).toNat = 1 := rfl
  rw [BitVec.le_def] at reached positive
  refine ⟨⟨linked.ring, linked.count⟩, ?_, ?_⟩
  · show 1 ≤ _threshold.toNat
    omega
  · show _threshold.toNat ≤ members.length
    omega

/-- What `addOwner` and `removeOwner` end with. -/
theorem Kept.conclude {changed : State} (kept : Kept state) (multi : IsMultiOwner state _wallet)
    {_threshold : Uint8} {members : List Address} {event : Event} {wallet : Wallet}
    (reason : changed = (state.setWallet _wallet wallet).emit event)
    (linked : Linked wallet members)
    (unchanged : wallet.threshold = _threshold → Owned wallet members)
    (accepted : (if wallet.threshold ≠ _threshold then
      changeThreshold world msg changed _wallet _threshold else pure changed) = .ok state') :
    Kept state' := by
  subst changed
  have named : walletExists state _wallet := multi.1
  split at accepted
  · obtain ⟨reached, positive, rfl⟩ := changeThreshold_effect accepted
    simp only [State.setWallet, State.emit, Function.update_self] at reached
    refine kept.touch _wallet ?_ (fun _ _ => rfl) named ?_ (fun single => absurd single multi.2)
    · intro other different
      simp [State.setWallet, State.emit, different]
    · intro _
      exact ⟨members, by
        simpa [State.setWallet, State.emit] using linked.threshold reached positive⟩
  · rename_i same
    rw [ne_eq, not_not] at same
    simp only [pure_eq_ok] at accepted
    subst state'
    refine kept.touch _wallet ?_ (fun _ _ => rfl) named ?_ (fun single => absurd single multi.2)
    · intro other different
      simp [State.setWallet, State.emit, different]
    · intro _
      exact ⟨members, by simpa [State.setWallet, State.emit] using unchanged same⟩

theorem Kept.multi (kept : Kept state) (linked : state.wallets _wallet ≠ Wallet.blank) :
    IsMultiOwner state _wallet := by
  by_contra notMulti
  exact linked (kept.blank _wallet notMulti)

theorem OwnerManager.addOwner_kept (kept : Kept state) (multi : IsMultiOwner state _wallet)
    {_owner : Address} {_threshold : Uint8}
    (accepted : OwnerManager.addOwner world msg state _wallet _owner _threshold = .ok state') :
    Kept state' := by
  simp only [OwnerManager.addOwner, bind_eq_ok, require_eq_ok, requirePanic_eq_ok] at accepted
  obtain ⟨_, _, _, proper, _, fresh, _, room, accepted⟩ := accepted
  obtain ⟨members, owned⟩ := kept.owned _wallet multi
  have linked := owned.toLinked.insert proper.1 fresh room
  refine kept.conclude multi rfl linked ?_ accepted
  intro _
  refine ⟨linked, owned.positive, ?_⟩
  have reached := owned.reached
  simp only [List.length_cons]
  omega

theorem removeOwner_kept (kept : Kept state) {_prevOwner _owner : Address} {_threshold : Uint8}
    (accepted : removeOwner world msg state _wallet _prevOwner _owner _threshold = .ok state') :
    Kept state' := by
  simp only [removeOwner, bind_eq_ok, require_eq_ok, requirePanic_eq_ok] at accepted
  obtain ⟨_, _, _, positive, _, enough, _, proper, _, link, accepted⟩ := accepted
  have multi : IsMultiOwner state _wallet := by
    apply kept.multi
    intro blank
    rw [blank] at link
    exact proper.1 link.symm
  obtain ⟨members, owned⟩ := kept.owned _wallet multi
  obtain ⟨front, back, shape, linked⟩ := owned.toLinked.remove proper link
  refine kept.conclude multi rfl linked ?_ accepted
  intro same
  refine ⟨linked, owned.positive, ?_⟩
  have threshold : (state.wallets _wallet).threshold = _threshold := same
  have count := linked.count
  rw [BitVec.le_def, ← threshold] at enough
  show (state.wallets _wallet).threshold.toNat ≤ (front ++ back).length
  rw [← count]
  exact enough

theorem swapOwner_kept (kept : Kept state) {_prevOwner _oldOwner _newOwner : Address}
    (accepted : swapOwner world msg state _wallet _prevOwner _oldOwner _newOwner = .ok state') :
    Kept state' := by
  simp only [swapOwner, bind_eq_ok, require_eq_ok, pure_eq_ok] at accepted
  obtain ⟨_, _, _, newProper, _, fresh, _, proper, _, link, rfl⟩ := accepted
  have multi : IsMultiOwner state _wallet := by
    apply kept.multi
    intro blank
    rw [blank] at link
    exact proper.1 link.symm
  obtain ⟨members, owned⟩ := kept.owned _wallet multi
  obtain ⟨front, back, _, swapped⟩ := owned.swap proper newProper.1 fresh link
  refine kept.touch _wallet ?_ (fun _ _ => rfl) multi.1 ?_ (fun single => absurd single multi.2)
  · intro other different
    simp [State.setWallet, State.emit, different]
  · intro _
    exact ⟨_, by simpa [State.setWallet, State.emit] using swapped⟩

theorem changeThreshold_kept (kept : Kept state) {_threshold : Uint8}
    (accepted : changeThreshold world msg state _wallet _threshold = .ok state') : Kept state' := by
  obtain ⟨reached, positive, rfl⟩ := changeThreshold_effect accepted
  have multi : IsMultiOwner state _wallet := by
    apply kept.multi
    intro blank
    rw [blank, BitVec.le_def] at reached
    rw [BitVec.le_def] at positive
    have none : Wallet.blank.ownerCount.toNat = 0 := rfl
    have one : (1 : Uint8).toNat = 1 := rfl
    omega
  obtain ⟨members, owned⟩ := kept.owned _wallet multi
  refine kept.touch _wallet ?_ (fun _ _ => rfl) multi.1 ?_ (fun single => absurd single multi.2)
  · intro other different
    simp [State.setWallet, State.emit, different]
  · intro _
    exact ⟨members, by simpa [State.setWallet, State.emit] using
      owned.toLinked.threshold reached positive⟩

theorem setupOwners_effect {_owners : List Address} {_threshold : Uint8}
    (accepted : setupOwners state _wallet _owners _threshold = .ok state')
    (blank : state.wallets _wallet = Wallet.blank) (distinct : _owners.IsChain (· ≠ ·)) :
    ∃ wallet, state' = state.setWallet _wallet wallet ∧
      Ring wallet.owners 0 SENTINEL_OWNERS _owners ∧
      wallet.ownerCount = BitVec.ofNat 8 _owners.length ∧
      1 ≤ wallet.threshold.toNat ∧ wallet.threshold.toNat ≤ _owners.length := by
  simp only [setupOwners, blank, bind_eq_ok, require_eq_ok, pure_eq_ok] at accepted
  obtain ⟨_, _, _, reached, _, positive, ⟨last, links⟩, read, rfl⟩ := accepted
  rw [BitVec.le_def] at positive
  exact ⟨_, rfl, setupOwnersLoop_blank distinct read, rfl, positive, reached⟩

theorem getOwners_fits {members owners : List Address}
    (accepted : getOwners state _wallet = .ok owners) (single : ¬isSingleOwner state _wallet)
    (ring : Ring (state.wallets _wallet).owners 0 SENTINEL_OWNERS members) :
    members.length ≤ (state.wallets _wallet).ownerCount.toNat := by
  have proper : SENTINEL_OWNERS ∉ members := (List.nodup_cons.mp ring.distinct).1
  simp only [getOwners, single, if_false, OwnerManager.getOwners,
    getOwnersLoop_path ring.follows proper] at accepted
  by_contra tooMany
  simp [tooMany] at accepted

theorem isValidCreateWalletRequest_effect {_details : LicensedUserDto} {u : Unit}
    (accepted : isValidCreateWalletRequest state _details _wallet = .ok u) :
    ¬walletExists state _wallet ∧ _details.owners.head? ≠ some 0 ∧ _details.originalName ≠ [] := by
  simp only [isValidCreateWalletRequest, bind_eq_ok, require_eq_ok, requirePanic_eq_ok] at accepted
  obtain ⟨_, vacant, _, _, _, proper, _, _, named⟩ := accepted
  exact ⟨vacant, proper, named⟩

theorem emitCreateLicensedUserWallet_effect {_salt : Bytes32}
    (accepted : emitCreateLicensedUserWallet state _wallet _salt = .ok state') :
    ∃ owners event, getOwners state _wallet = .ok owners ∧ state' = state.emit event := by
  simp only [emitCreateLicensedUserWallet, bind_eq_ok, pure_eq_ok] at accepted
  obtain ⟨owners, listed, rfl⟩ := accepted
  exact ⟨owners, _, listed, rfl⟩

/-- A wallet that is set up has at most 255 owners: the event of a longer list cannot be built. -/
theorem createWalletInternal_kept (kept : Kept state) {_details : LicensedUserDto}
    {_salt : Bytes32} (distinct : _details.owners.IsChain (· ≠ ·))
    (accepted : createWalletInternal state _details _wallet _salt = .ok state') : Kept state' := by
  simp only [createWalletInternal, bind_eq_ok] at accepted
  obtain ⟨_, valid, made, setup, emitted⟩ := accepted
  obtain ⟨vacant, headProper, named⟩ := isValidCreateWalletRequest_effect valid
  obtain ⟨owners, event, listed, rfl⟩ := emitCreateLicensedUserWallet_effect emitted
  have blank : state.wallets _wallet = Wallet.blank := by
    apply kept.blank
    intro multi
    exact vacant multi.1
  by_cases lone : _details.owners.length = 1
  · obtain ⟨owner, only⟩ := List.length_eq_one_iff.mp lone
    simp only [only, List.length_singleton, not_true_eq_false, if_true, if_false, pure_eq_ok,
      List.headD_cons] at setup
    subst made
    have ownerProper : owner ≠ 0 := by simpa [only] using headProper
    refine kept.touch _wallet (fun _ _ => rfl) ?_ ?_ ?_ (fun _ => blank)
    · intro other different
      simp [State.setUser, State.emit, different]
    · simpa [walletExists, State.setUser, State.emit] using named
    · intro notSingle
      apply absurd _ notSingle
      simpa [isSingleOwner, State.setUser, State.emit] using ownerProper
  · simp only [lone, not_false_eq_true, if_true, if_false] at setup
    obtain ⟨wallet, rfl, ring, count, positive, reached⟩ := setupOwners_effect setup blank distinct
    refine kept.touch _wallet ?_ ?_ ?_ ?_ ?_
    · intro other different
      simp [State.setUser, State.setWallet, State.emit, different]
    · intro other different
      simp [State.setUser, State.setWallet, State.emit, different]
    · simpa [walletExists, State.setUser, State.setWallet, State.emit] using named
    · intro notSingle
      have fits := getOwners_fits listed notSingle (by simpa [State.setWallet] using ring)
      simp only [State.setWallet, State.emit, Function.update_self, count,
        BitVec.toNat_ofNat] at fits ⊢
      have modulo : _details.owners.length % 2 ^ 8 = _details.owners.length :=
        Nat.mod_eq_of_lt (by omega)
      exact ⟨_details.owners, ⟨ring, by rw [count, BitVec.toNat_ofNat, modulo]⟩, positive, reached⟩
    · intro single
      simp [isSingleOwner, State.setUser, State.setWallet, State.emit] at single

theorem addOwner_kept (kept : Kept state) {_owner : Address} {_threshold : Uint8}
    (distinct : isSingleOwner state _wallet → (state.luws _wallet).owner ≠ _owner)
    (accepted : addOwner world msg state _wallet _owner _threshold = .ok state') :
    Kept state' := by
  simp only [addOwner, onlyActiveWallet, bind_eq_ok, require_eq_ok] at accepted
  obtain ⟨_, active, _, _, accepted⟩ := accepted
  have named := kept.active _wallet active
  split at accepted
  · rename_i single
    have blank : state.wallets _wallet = Wallet.blank := by
      apply kept.blank
      intro multi
      exact multi.2 single
    simp only [singleToMulti, bind_eq_ok, pure_eq_ok] at accepted
    obtain ⟨made, setup, rfl⟩ := accepted
    have chain : [(state.luws _wallet).owner, _owner].IsChain (· ≠ ·) := by
      simpa using distinct single
    obtain ⟨wallet, rfl, ring, count, positive, reached⟩ := setupOwners_effect setup blank chain
    refine kept.touch _wallet ?_ ?_ ?_ ?_ ?_
    · intro other different
      simp [State.setUser, State.setWallet, State.emit, different]
    · intro other different
      simp [State.setUser, State.setWallet, State.emit, different]
    · simpa [walletExists, State.setUser, State.setWallet, State.emit] using named
    · intro _
      simp only [State.setWallet, State.emit, Function.update_self]
      exact ⟨_, ⟨ring, by rw [count]; rfl⟩, positive, reached⟩
    · intro still
      simp [isSingleOwner, State.setUser, State.setWallet, State.emit] at still
  · rename_i notSingle
    exact OwnerManager.addOwner_kept kept ⟨named, notSingle⟩ accepted

theorem rename_kept (kept : Kept state) {user : LicensedUser} {event : Event}
    (active : isActiveWallet state _wallet = true)
    (owner : user.owner = (state.luws _wallet).owner) (named : user.originalName ≠ []) :
    Kept ((state.setUser _wallet user).emit event) := by
  refine kept.touch _wallet (fun _ _ => rfl) ?_ ?_ ?_ ?_
  · intro other different
    simp [State.setUser, State.emit, different]
  · simpa [walletExists, State.setUser, State.emit] using named
  · intro notSingle
    apply kept.owned _wallet
    simpa [IsMultiOwner, isSingleOwner, State.setUser, State.emit, owner,
      kept.active _wallet active] using notSingle
  · intro single
    apply kept.blank _wallet
    intro multi
    apply multi.2
    simpa [isSingleOwner, State.setUser, State.emit, owner] using single

end Calls

/-- No wallet is given the same owner twice in a row. -/
def NoRepeatedOwner (transaction : Transaction) (state : State) : Prop :=
  match transaction.call with
  | .createWallet _details _ => _details.owners.IsChain (· ≠ ·)
  | .createWalletFromMigration _details _ _ _ => _details.owners.IsChain (· ≠ ·)
  | .addOwner _walletAddress _owner _ =>
      isSingleOwner state _walletAddress → (state.luws _walletAddress).owner ≠ _owner
  | _ => True

theorem execute_kept {deployment : Deployment} {transaction : Transaction} {state state' : State}
    (distinct : NoRepeatedOwner transaction state) (kept : Kept state)
    (accepted : execute deployment transaction state = .ok state') : Kept state' := by
  obtain ⟨world, msg, call⟩ := transaction
  cases call with
  | initializeV1 _nameRegistryAddress _trustedForwarder =>
      simp only [execute, initializeV1, bind_eq_ok] at accepted
      obtain ⟨_, _, accepted⟩ := accepted
      split at accepted
      · simp at accepted
      · cases accepted
        exact ⟨kept.active, kept.single, kept.owned, kept.blank⟩
  | initializeV2 _upgradeableBeacon =>
      simp only [execute, initializeV2, bind_eq_ok, pure_eq_ok] at accepted
      obtain ⟨_, _, rfl⟩ := accepted
      exact ⟨kept.active, kept.single, kept.owned, kept.blank⟩
  | createWallet _details _salt =>
      simp only [execute, createWallet, bind_eq_ok] at accepted
      obtain ⟨_, _, accepted⟩ := accepted
      split at accepted
      · simp at accepted
      · exact createWalletInternal_kept kept distinct accepted
  | createWalletFromMigration _details _walletAddress _originChain _originTimestamp =>
      simp only [execute, createWalletFromMigration, bind_eq_ok, pure_eq_ok] at accepted
      obtain ⟨_, _, made, created, rfl⟩ := accepted
      have kept' := createWalletInternal_kept kept distinct created
      exact ⟨kept'.active, kept'.single, kept'.owned, kept'.blank⟩
  | addOwner _walletAddress _owner _threshold => exact addOwner_kept kept distinct accepted
  | removeOwner _wallet _prevOwner _owner _threshold => exact removeOwner_kept kept accepted
  | swapOwner _wallet _prevOwner _oldOwner _newOwner => exact swapOwner_kept kept accepted
  | changeThreshold _wallet _threshold => exact changeThreshold_kept kept accepted
  | setOriginalName _walletAddress _name =>
      simp only [execute, setOriginalName, onlyActiveWallet, bind_eq_ok, require_eq_ok,
        pure_eq_ok] at accepted
      obtain ⟨_, _, _, active, _, named, rfl⟩ := accepted
      exact rename_kept kept active rfl named
  | setEnglishName _walletAddress _name =>
      simp only [execute, setEnglishName, onlyActiveWallet, bind_eq_ok, require_eq_ok,
        pure_eq_ok] at accepted
      obtain ⟨_, _, _, active, _, _, rfl⟩ := accepted
      exact rename_kept kept active rfl (kept.active _walletAddress active)

theorem reach_kept {deployment : Deployment}
    {config : Config Revert State Empty Empty Transaction}
    (reach : Reach (entry deployment) NoRepeatedOwner State.blank config) :
    Kept config.now.state := by
  refine reach.invariant Kept kept_blank ?_
  intro transaction state distinct kept trace
  apply Outcome.Meets.lift
  intro state' accepted
  exact execute_kept distinct kept accepted

structure WellFormed (state : State) (wallet : Address) (visited : List Address) : Prop where
  follows : Follows (state.wallets wallet).owners SENTINEL_OWNERS visited SENTINEL_OWNERS
  count : visited.length = (state.wallets wallet).ownerCount.toNat
  distinct : visited.Nodup
  proper : ∀ owner ∈ visited, owner ≠ 0 ∧ owner ≠ SENTINEL_OWNERS
  isOwner : ∀ account, isOwner state wallet account ↔ account ∈ visited
  threshold : 1 ≤ (getThreshold state wallet).toNat ∧
    (getThreshold state wallet).toNat ≤ visited.length
  listed : getOwners state wallet = .ok visited

theorem Owned.wellFormed {state : State} {wallet : Address} {members : List Address}
    (owned : Owned (state.wallets wallet) members) (multi : ¬isSingleOwner state wallet) :
    WellFormed state wallet members := by
  have apart : SENTINEL_OWNERS ∉ members := (List.nodup_cons.mp owned.ring.distinct).1
  have count := owned.count
  refine ⟨owned.ring.follows, count.symm, (List.nodup_cons.mp owned.ring.distinct).2, ?_, ?_,
    ?_, ?_⟩
  · intro owner belongs
    constructor
    · rintro rfl
      exact owned.ring.proper (List.mem_cons_of_mem _ belongs)
    · rintro rfl
      exact apart belongs
  · intro account
    simp only [LicensedUserManager.isOwner, multi, if_false, OwnerManager.isOwner,
      owned.ring.link_ne_null_iff, List.mem_cons]
    constructor
    · rintro ⟨notSentinel, belongs⟩
      exact belongs.resolve_left notSentinel
    · intro belongs
      exact ⟨fun same => apart (same ▸ belongs), Or.inr belongs⟩
  · simp only [getThreshold, multi, if_false, OwnerManager.getThreshold]
    exact ⟨owned.positive, owned.reached⟩
  · simp only [getOwners, multi, if_false, OwnerManager.getOwners,
      getOwnersLoop_path owned.ring.follows apart, count, le_refl, if_true]
    simp

theorem reach_wellFormed (deployment : Deployment)
    (config : Config Revert State Empty Empty Transaction)
    (reach : Reach (entry deployment) NoRepeatedOwner State.blank config) (wallet : Address)
    (multi : IsMultiOwner config.now.state wallet) :
    ∃ visited, WellFormed config.now.state wallet visited := by
  obtain ⟨members, owned⟩ := (reach_kept reach).owned wallet multi
  exact ⟨members, owned.wellFormed multi.2⟩

section Runs

def sampleAdministrator : Address := 0x00000000000000000000000000000000000ad317

def sampleWallet : Address := 0x0000000000000000000000000000000000003a11

def sampleOwner : Address := 0x00000000000000000000000000000000000a11ce

def sampleDeployment : Deployment := ⟨Evm.ofTables [] [], 0x111, []⟩

def sampleCall (call : Call) : Transaction :=
  ⟨World.named [(ADMINISTRATOR, sampleAdministrator)], ⟨sampleAdministrator, []⟩, call⟩

/-- The contract is set up and a wallet is created for two owners with threshold two. -/
def sampleRun (first second : Address) : Config Revert State Empty Empty Transaction :=
  (((Config.start State.blank).enter (entry sampleDeployment)
    (sampleCall (.initializeV1 0x4a3e 0xf03a))).enter (entry sampleDeployment)
      (sampleCall (.createWalletFromMigration ⟨[first, second], 2, .HANDLER, [0x45], [0x4f]⟩
        sampleWallet [0x65, 0x74, 0x68] 1600000000)))

theorem sampleRun_wellFormed :
    ∃ visited, WellFormed (sampleRun sampleOwner 0xb0b).now.state sampleWallet visited := by
  apply reach_wellFormed sampleDeployment
  · refine Reach.enter _ (Reach.enter _ Reach.start trivial) ?_
    simp only [NoRepeatedOwner, sampleCall]
    decide
  · decide

theorem sampleRun_repeated :
    ¬∀ config, Reach (entry sampleDeployment) (fun _ _ => True) State.blank config →
      ∀ wallet, IsMultiOwner config.now.state wallet →
        ∃ visited, WellFormed config.now.state wallet visited := by
  intro holds
  have reach : Reach (entry sampleDeployment) (fun _ _ => True) State.blank
      (sampleRun sampleOwner sampleOwner) :=
    Reach.enter _ (Reach.enter _ Reach.start trivial) trivial
  have listed : getOwners (sampleRun sampleOwner sampleOwner).now.state sampleWallet =
      .ok [sampleOwner, 0] := by rfl
  obtain ⟨visited, formed⟩ := holds _ reach sampleWallet (by decide)
  have equal : visited = [sampleOwner, 0] := by
    simpa using formed.listed.symm.trans listed
  exact (formed.proper 0 (by simp [equal])).1 rfl

end Runs

end Startrail.LicensedUserManager
