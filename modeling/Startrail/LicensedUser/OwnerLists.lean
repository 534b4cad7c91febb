import Startrail.LicensedUser.Authority

/-!
The owner functions of the licensed user manager as operations on lists. A wallet with several
owners stands for the list that its links spell out. What an `OwnerChange` asks of a list and makes
of it is said without links, counts or sentinels; the contract's function succeeds exactly on what
is asked, and leaves a wallet that stands for what is made.
-/

namespace Startrail.LicensedUserManager

open Function (update)

def ValidOwner (owner : Address) : Prop := owner ≠ 0 ∧ owner ≠ SENTINEL_OWNERS

inductive OwnerChange where
  | addOwner (_owner : Address) (_threshold : Uint8)
  | removeOwner (_prevOwner _owner : Address) (_threshold : Uint8)
  | swapOwner (_prevOwner _oldOwner _newOwner : Address)
  | changeThreshold (_threshold : Uint8)

namespace OwnerChange

/-- What the change asks of the list. -/
def Allowed (members : List Address) : OwnerChange → Prop
  | addOwner _owner _threshold => ValidOwner _owner ∧ _owner ∉ members ∧ members.length < 255 ∧
      1 ≤ _threshold.toNat ∧ _threshold.toNat ≤ members.length + 1
  | removeOwner _prevOwner _owner _threshold =>
      Precedes SENTINEL_OWNERS members _prevOwner _owner ∧
      1 ≤ _threshold.toNat ∧ _threshold.toNat ≤ members.length - 1
  | swapOwner _prevOwner _oldOwner _newOwner =>
      Precedes SENTINEL_OWNERS members _prevOwner _oldOwner ∧
      ValidOwner _newOwner ∧ _newOwner ∉ members
  | changeThreshold _threshold => 1 ≤ _threshold.toNat ∧ _threshold.toNat ≤ members.length

/-- What the change makes of the list. -/
def apply (members : List Address) : OwnerChange → List Address
  | addOwner _owner _ => _owner :: members
  | removeOwner _ _owner _ => members.erase _owner
  | swapOwner _ _oldOwner _newOwner => members.replace _oldOwner _newOwner
  | changeThreshold _ => members

def threshold (before : Uint8) : OwnerChange → Uint8
  | addOwner _ _threshold | removeOwner _ _ _threshold | changeThreshold _threshold => _threshold
  | swapOwner .. => before

def call (_wallet : Address) : OwnerChange → Call
  | addOwner _owner _threshold => .addOwner _wallet _owner _threshold
  | removeOwner _prevOwner _owner _threshold => .removeOwner _wallet _prevOwner _owner _threshold
  | swapOwner _prevOwner _oldOwner _newOwner => .swapOwner _wallet _prevOwner _oldOwner _newOwner
  | changeThreshold _threshold => .changeThreshold _wallet _threshold

end OwnerChange

/-- An active wallet with several owners stands for their list. -/
structure Represents (state : State) (_wallet : Address) (members : List Address) : Prop
    extends Owned (state.wallets _wallet) members where
  active : isActiveWallet state _wallet = true
  multi : IsMultiOwner state _wallet

variable {world : World} {msg : Msg} {state state' changed : State} {_wallet : Address}
  {members : List Address} {record : Wallet} {_threshold : Uint8}

theorem Linked.fresh_iff (linked : Linked record members) {_owner : Address} :
    _owner ≠ SENTINEL_OWNERS → (record.owners _owner = 0 ↔ _owner ∉ members) := by
  intro notSentinel
  rw [← not_iff_not, not_not, ← ne_eq, linked.ring.link_ne_null_iff, List.mem_cons]
  exact ⟨fun belongs => belongs.resolve_left notSentinel, Or.inr⟩

theorem Linked.valid (linked : Linked record members) {_owner : Address}
    (belongs : _owner ∈ members) : ValidOwner _owner := by
  constructor
  · rintro rfl
    exact linked.ring.proper (List.mem_cons_of_mem _ belongs)
  · rintro rfl
    exact (List.nodup_cons.mp linked.ring.distinct).1 belongs

theorem Linked.precedes_iff (linked : Linked record members) {_prevOwner _owner : Address} :
    ValidOwner _owner ∧ record.owners _prevOwner = _owner ↔
      Precedes SENTINEL_OWNERS members _prevOwner _owner := by
  constructor
  · rintro ⟨valid, link⟩
    exact (linked.ring.link_iff valid.1 valid.2).mp link
  · intro precedes
    have valid := linked.valid precedes.mem
    exact ⟨valid, (linked.ring.link_iff valid.1 valid.2).mpr precedes⟩

theorem Linked.erase (linked : Linked record members) {_prevOwner _owner : Address}
    (valid : ValidOwner _owner) (link : record.owners _prevOwner = _owner) :
    Linked { record with
      owners := update (update record.owners _prevOwner (record.owners _owner)) _owner 0
      ownerCount := record.ownerCount - 1 } (members.erase _owner) := by
  obtain ⟨front, back, rfl, removed⟩ := linked.remove valid link
  have distinct := (List.nodup_cons.mp linked.ring.distinct).2
  have absent : _owner ∉ front := fun belongs =>
    (List.nodup_append.mp distinct).2.2 _owner belongs _owner List.mem_cons_self rfl
  rwa [List.erase_append_right _ absent, List.erase_cons_head]

theorem Owned.replace (owned : Owned record members) {_prevOwner _oldOwner _newOwner : Address}
    (valid : ValidOwner _oldOwner) (newValid : ValidOwner _newOwner)
    (fresh : record.owners _newOwner = 0) (link : record.owners _prevOwner = _oldOwner) :
    Owned { record with
      owners := update (update (update record.owners _newOwner (record.owners _oldOwner))
        _prevOwner _newOwner) _oldOwner 0 } (members.replace _oldOwner _newOwner) := by
  obtain ⟨front, back, rfl, swapped⟩ := owned.swap valid newValid.1 fresh link
  have distinct := (List.nodup_cons.mp owned.ring.distinct).2
  have absent : _oldOwner ∉ front := fun belongs =>
    (List.nodup_append.mp distinct).2.2 _oldOwner belongs _oldOwner List.mem_cons_self rfl
  rwa [List.replace_append, if_neg absent, List.replace_cons_self]

@[simp] theorem State.setWallet_self (state : State) (_wallet : Address) (record : Wallet)
    (event : Event) : ((state.setWallet _wallet record).emit event).wallets _wallet = record :=
  Function.update_self ..

namespace Represents

theorem next {members' : List Address} (represents : Represents state _wallet members)
    (users : state'.luws = state.luws) (owned : Owned (state'.wallets _wallet) members') :
    Represents state' _wallet members' where
  toOwned := owned
  active := by simpa only [isActiveWallet, users] using represents.active
  multi := by simpa only [IsMultiOwner, walletExists, isSingleOwner, users] using represents.multi

theorem threshold_eq (represents : Represents state _wallet members) :
    getThreshold state _wallet = (state.wallets _wallet).threshold :=
  if_neg represents.multi.2

theorem stored {members' : List Address} (represents : Represents state _wallet members)
    (wallet : state'.wallets _wallet = { record with threshold := _threshold })
    (users : state'.luws = state.luws) (linked : Linked record members')
    (fits : 1 ≤ _threshold.toNat ∧ _threshold.toNat ≤ members'.length) :
    Represents state' _wallet members' ∧ getThreshold state' _wallet = _threshold := by
  have represents' : Represents state' _wallet members' := by
    refine represents.next users ?_
    rw [wallet]
    exact ⟨⟨linked.ring, linked.count⟩, fits.1, fits.2⟩
  exact ⟨represents', by rw [represents'.threshold_eq, wallet]⟩

end Represents

/-- `addOwner` and `removeOwner` store a record, and then the threshold if it is another one. -/
def storeAndConclude (world : World) (msg : Msg) (state : State) (_wallet : Address)
    (record : Wallet) (event : Event) (_threshold : Uint8) : Result State :=
  let state := (state.setWallet _wallet record).emit event
  if record.threshold ≠ _threshold then changeThreshold world msg state _wallet _threshold
  else pure state

section Authorised

variable (authorised : onlyWalletOrAdministrator world msg state _wallet = .ok ())
include authorised

theorem changeThreshold_eq_ok (linked : Linked (state.wallets _wallet) members) :
    changeThreshold world msg state _wallet _threshold = .ok state' ↔
      (1 ≤ _threshold.toNat ∧ _threshold.toNat ≤ members.length) ∧
      state' = (state.setWallet _wallet
        { state.wallets _wallet with threshold := _threshold }).emit
          (.ChangedThreshold _wallet _threshold) := by
  have one : (1 : Uint8).toNat = 1 := rfl
  simp only [changeThreshold, bind_eq_ok, require_eq_ok, pure_eq_ok, BitVec.le_def, linked.count,
    one]
  constructor
  · rintro ⟨_, _, _, reached, _, positive, rfl⟩
    exact ⟨⟨positive, reached⟩, rfl⟩
  · rintro ⟨⟨positive, reached⟩, rfl⟩
    exact ⟨_, authorised, (), reached, (), positive, rfl⟩

theorem storeAndConclude_succeeds {event : Event} (linked : Linked record members)
    (unchanged : record.threshold = _threshold →
      1 ≤ _threshold.toNat ∧ _threshold.toNat ≤ members.length) :
    (∃ state', storeAndConclude world msg state _wallet record event _threshold = .ok state') ↔
      1 ≤ _threshold.toNat ∧ _threshold.toNat ≤ members.length := by
  have authorised' : onlyWalletOrAdministrator world msg
      ((state.setWallet _wallet record).emit event) _wallet = .ok () := authorised
  rw [← State.setWallet_self state _wallet record event] at linked
  have changes := fun state' =>
    @changeThreshold_eq_ok world msg _ state' _wallet members _threshold authorised' linked
  unfold storeAndConclude
  simp only
  split
  · constructor
    · rintro ⟨state', accepted⟩
      exact ((changes state').mp accepted).1
    · intro fits
      exact ⟨_, (changes _).mpr ⟨fits, rfl⟩⟩
  · rename_i same
    exact iff_of_true ⟨_, rfl⟩ (unchanged (not_not.mp same))

theorem storeAndConclude_represents {event : Event} {members' : List Address}
    (represents : Represents state _wallet members) (linked : Linked record members')
    (unchanged : record.threshold = _threshold →
      1 ≤ _threshold.toNat ∧ _threshold.toNat ≤ members'.length)
    (accepted : storeAndConclude world msg state _wallet record event _threshold = .ok state') :
    Represents state' _wallet members' ∧ getThreshold state' _wallet = _threshold := by
  have fits := (storeAndConclude_succeeds authorised linked unchanged).mp ⟨state', accepted⟩
  unfold storeAndConclude at accepted
  simp only at accepted
  split at accepted
  · obtain ⟨_, _, rfl⟩ := changeThreshold_effect accepted
    refine represents.stored ?_ rfl linked fits
    rw [State.setWallet_self, State.setWallet_self]
  · rename_i same
    cases accepted
    refine represents.stored ?_ rfl linked fits
    rw [State.setWallet_self, ← not_not.mp same]

end Authorised

/-- The function's result is what the change says of the list. -/
structure Refines (result : Result State) (state : State) (_wallet : Address)
    (members : List Address) (change : OwnerChange) : Prop where
  succeeds : (∃ state', result = .ok state') ↔ change.Allowed members
  effect : ∀ state', result = .ok state' → Represents state' _wallet (change.apply members) ∧
    getThreshold state' _wallet = change.threshold (getThreshold state _wallet)

theorem Refines.follows {result : Result State} {change : OwnerChange}
    (refines : Refines result state _wallet members change) (accepted : result = .ok state') :
    change.Allowed members ∧ Represents state' _wallet (change.apply members) ∧
      getThreshold state' _wallet = change.threshold (getThreshold state _wallet) :=
  ⟨refines.succeeds.mp ⟨state', accepted⟩, refines.effect state' accepted⟩

section Functions

variable (represents : Represents state _wallet members)
  (authorised : onlyWalletOrAdministrator world msg state _wallet = .ok ())
include represents authorised

theorem changeThreshold_refines :
    Refines (changeThreshold world msg state _wallet _threshold) state _wallet members
      (.changeThreshold _threshold) := by
  have changes := fun state' =>
    @changeThreshold_eq_ok world msg state state' _wallet members _threshold authorised
      represents.toLinked
  constructor
  · constructor
    · rintro ⟨state', accepted⟩
      exact ((changes state').mp accepted).1
    · intro fits
      exact ⟨_, (changes _).mpr ⟨fits, rfl⟩⟩
  · intro state' accepted
    obtain ⟨fits, rfl⟩ := (changes state').mp accepted
    exact represents.stored (State.setWallet_self ..) rfl represents.toLinked fits

theorem addOwner_eq (_owner : Address) :
    addOwner world msg state _wallet _owner _threshold =
      OwnerManager.addOwner world msg state _wallet _owner _threshold := by
  have active : onlyActiveWallet state _wallet = .ok () := if_pos represents.active
  unfold addOwner
  rw [active, authorised, if_neg represents.multi.2]
  rfl

theorem addOwner_refines (_owner : Address) :
    Refines (addOwner world msg state _wallet _owner _threshold) state _wallet members
      (.addOwner _owner _threshold) := by
  rw [addOwner_eq represents authorised]
  have unchanged : (state.wallets _wallet).threshold = _threshold →
      1 ≤ _threshold.toNat ∧ _threshold.toNat ≤ (_owner :: members).length := by
    rintro rfl
    have reached := represents.reached
    exact ⟨represents.positive, by rw [List.length_cons]; omega⟩
  constructor
  · constructor
    · rintro ⟨state', accepted⟩
      simp only [OwnerManager.addOwner, bind_eq_ok, require_eq_ok, requirePanic_eq_ok] at accepted
      obtain ⟨_, _, _, valid, _, fresh, _, room, accepted⟩ := accepted
      have linked := represents.toLinked.insert valid.1 fresh room
      have fits := (storeAndConclude_succeeds authorised linked unchanged).mp ⟨state', accepted⟩
      rw [represents.count] at room
      exact ⟨valid, (represents.fresh_iff valid.2).mp fresh, by omega, fits⟩
    · rintro ⟨valid, absent, room, fits⟩
      have fresh := (represents.fresh_iff valid.2).mpr absent
      have room' : (state.wallets _wallet).ownerCount.toNat + 1 < 2 ^ 8 := by
        rw [represents.count]
        omega
      have linked := represents.toLinked.insert valid.1 fresh room'
      obtain ⟨state', accepted⟩ :=
        (@storeAndConclude_succeeds world msg state _wallet _ _ _threshold authorised
          (.AddedOwner _wallet _owner) linked unchanged).mpr fits
      refine ⟨state', ?_⟩
      simp only [OwnerManager.addOwner, bind_eq_ok, require_eq_ok, requirePanic_eq_ok]
      exact ⟨(), authorised, (), valid, (), fresh, (), room', accepted⟩
  · intro state' accepted
    simp only [OwnerManager.addOwner, bind_eq_ok, require_eq_ok, requirePanic_eq_ok] at accepted
    obtain ⟨_, _, _, valid, _, fresh, _, room, accepted⟩ := accepted
    exact storeAndConclude_represents authorised represents
      (represents.toLinked.insert valid.1 fresh room) unchanged accepted

theorem removeOwner_refines (_prevOwner _owner : Address) :
    Refines (removeOwner world msg state _wallet _prevOwner _owner _threshold) state _wallet members
      (.removeOwner _prevOwner _owner _threshold) := by
  have one : (1 : Uint8).toNat = 1 := rfl
  have count := represents.count
  have positive := represents.positive
  have reached := represents.reached
  have some_ : 1 ≤ (state.wallets _wallet).ownerCount := by
    rw [BitVec.le_def, one]
    omega
  have enough_iff : _threshold ≤ (state.wallets _wallet).ownerCount - 1 ↔
      _threshold.toNat ≤ members.length - 1 := by
    rw [BitVec.le_def, BitVec.toNat_sub_of_le some_, one, count]
  have unchanged (belongs : _owner ∈ members) (enough : _threshold.toNat ≤ members.length - 1) :
      (state.wallets _wallet).threshold = _threshold →
        1 ≤ _threshold.toNat ∧ _threshold.toNat ≤ (members.erase _owner).length := by
    rintro rfl
    exact ⟨represents.positive, by rwa [List.length_erase_of_mem belongs]⟩
  constructor
  · constructor
    · rintro ⟨state', accepted⟩
      simp only [removeOwner, bind_eq_ok, require_eq_ok, requirePanic_eq_ok] at accepted
      obtain ⟨_, _, _, _, _, enough, _, valid, _, link, accepted⟩ := accepted
      have precedes := represents.precedes_iff.mp ⟨valid, link⟩
      have linked := represents.toLinked.erase valid link
      have fits := (storeAndConclude_succeeds authorised linked
        (unchanged precedes.mem (enough_iff.mp enough))).mp ⟨state', accepted⟩
      exact ⟨precedes, fits.1, enough_iff.mp enough⟩
    · rintro ⟨precedes, one_le, enough⟩
      obtain ⟨valid, link⟩ := represents.precedes_iff.mpr precedes
      have linked := represents.toLinked.erase valid link
      obtain ⟨state', accepted⟩ :=
        (@storeAndConclude_succeeds world msg state _wallet _ _ _threshold authorised
          (.RemovedOwner _wallet _owner) linked (unchanged precedes.mem enough)).mpr
            ⟨one_le, by rwa [List.length_erase_of_mem precedes.mem]⟩
      refine ⟨state', ?_⟩
      simp only [removeOwner, bind_eq_ok, require_eq_ok, requirePanic_eq_ok]
      exact ⟨(), authorised, (), some_, (), enough_iff.mpr enough, (), valid, (), link, accepted⟩
  · intro state' accepted
    simp only [removeOwner, bind_eq_ok, require_eq_ok, requirePanic_eq_ok] at accepted
    obtain ⟨_, _, _, _, _, enough, _, valid, _, link, accepted⟩ := accepted
    have precedes := represents.precedes_iff.mp ⟨valid, link⟩
    exact storeAndConclude_represents authorised represents
      (represents.toLinked.erase valid link) (unchanged precedes.mem (enough_iff.mp enough))
      accepted

theorem swapOwner_refines (_prevOwner _oldOwner _newOwner : Address) :
    Refines (swapOwner world msg state _wallet _prevOwner _oldOwner _newOwner) state _wallet members
      (.swapOwner _prevOwner _oldOwner _newOwner) := by
  constructor
  · constructor
    · rintro ⟨state', accepted⟩
      simp only [swapOwner, bind_eq_ok, require_eq_ok] at accepted
      obtain ⟨_, _, _, newValid, _, fresh, _, valid, _, link, _⟩ := accepted
      exact ⟨represents.precedes_iff.mp ⟨valid, link⟩, newValid,
        (represents.fresh_iff newValid.2).mp fresh⟩
    · rintro ⟨precedes, newValid, absent⟩
      obtain ⟨valid, link⟩ := represents.precedes_iff.mpr precedes
      have fresh := (represents.fresh_iff newValid.2).mpr absent
      simp only [swapOwner, bind_eq_ok, require_eq_ok]
      exact ⟨_, (), authorised, (), newValid, (), fresh, (), valid, (), link, rfl⟩
  · intro state' accepted
    simp only [swapOwner, bind_eq_ok, require_eq_ok, pure_eq_ok] at accepted
    obtain ⟨_, _, _, newValid, _, fresh, _, valid, _, link, rfl⟩ := accepted
    have owned := represents.toOwned.replace valid newValid fresh link
    rw [represents.threshold_eq]
    refine represents.stored ?_ rfl owned.toLinked ⟨owned.positive, owned.reached⟩
    exact State.setWallet_self state _wallet _ (.RemovedOwner _wallet _oldOwner)

theorem execute_refines (deployment : Deployment) (change : OwnerChange) :
    Refines (execute deployment ⟨world, msg, change.call _wallet⟩ state) state _wallet members
      change := by
  cases change with
  | addOwner _owner _threshold => exact addOwner_refines represents authorised _owner
  | removeOwner _prevOwner _owner _threshold =>
      exact removeOwner_refines represents authorised _prevOwner _owner
  | swapOwner _prevOwner _oldOwner _newOwner =>
      exact swapOwner_refines represents authorised _prevOwner _oldOwner _newOwner
  | changeThreshold _threshold => exact changeThreshold_refines represents authorised

end Functions

theorem Represents.listed (represents : Represents state _wallet members) :
    getOwners state _wallet = .ok members :=
  (represents.toOwned.wellFormed represents.multi.2).listed

theorem enter_error {deployment : Deployment} {transaction : Transaction}
    {config : Config Revert State Empty Empty Transaction}
    (failed : ∀ state', execute deployment transaction config.now.state ≠ .ok state') :
    config.enter (entry deployment) transaction = config := by
  unfold Config.enter entry
  cases result : execute deployment transaction config.now.state with
  | error reason => rfl
  | ok state' => exact absurd result (failed state')

section Runs

theorem conclude_users {event : Event} {threshold : Uint8}
    (accepted : (if threshold ≠ _threshold then
      changeThreshold world msg ((state.setWallet _wallet record).emit event) _wallet _threshold
      else pure ((state.setWallet _wallet record).emit event)) = .ok state') :
    state'.luws = state.luws := by
  split at accepted
  · obtain ⟨_, _, rfl⟩ := changeThreshold_effect accepted
    rfl
  · cases accepted
    rfl

theorem addOwner_users {_owner : Address}
    (accepted : OwnerManager.addOwner world msg state _wallet _owner _threshold = .ok state') :
    state'.luws = state.luws := by
  simp only [OwnerManager.addOwner, bind_eq_ok] at accepted
  obtain ⟨_, _, _, _, _, _, _, _, accepted⟩ := accepted
  exact conclude_users accepted

theorem removeOwner_users {_prevOwner _owner : Address}
    (accepted : removeOwner world msg state _wallet _prevOwner _owner _threshold = .ok state') :
    state'.luws = state.luws := by
  simp only [removeOwner, bind_eq_ok] at accepted
  obtain ⟨_, _, _, _, _, _, _, _, _, _, accepted⟩ := accepted
  exact conclude_users accepted

theorem swapOwner_users {_prevOwner _oldOwner _newOwner : Address}
    (accepted : swapOwner world msg state _wallet _prevOwner _oldOwner _newOwner = .ok state') :
    state'.luws = state.luws := by
  simp only [swapOwner, bind_eq_ok, pure_eq_ok] at accepted
  obtain ⟨_, _, _, _, _, _, _, _, _, _, rfl⟩ := accepted
  rfl

theorem changeThreshold_users
    (accepted : changeThreshold world msg state _wallet _threshold = .ok state') :
    state'.luws = state.luws := by
  obtain ⟨_, _, rfl⟩ := changeThreshold_effect accepted
  rfl

theorem setupOwners_users {_owners : List Address}
    (accepted : setupOwners state _wallet _owners _threshold = .ok state') :
    state'.luws = state.luws := by
  simp only [setupOwners, bind_eq_ok, pure_eq_ok] at accepted
  obtain ⟨_, _, _, _, _, _, _, _, rfl⟩ := accepted
  rfl

/-- Wallets are never put out of use. -/
def Alive (state : State) : Prop :=
  ∀ wallet, walletExists state wallet → isActiveWallet state wallet = true

theorem Alive.congr (alive : Alive state) (users : state'.luws = state.luws) : Alive state' := by
  intro wallet named
  simp only [walletExists, isActiveWallet, users] at named ⊢
  exact alive wallet named

theorem Alive.setUser (alive : Alive state) {user : LicensedUser} (active : user.active = true)
    (users : state'.luws = (state.setUser _wallet user).luws) : Alive state' := by
  intro wallet named
  by_cases same : wallet = _wallet
  · subst wallet
    simp [isActiveWallet, users, State.setUser, active]
  · simp only [walletExists, isActiveWallet, users, State.setUser, Function.update_of_ne same]
      at named ⊢
    exact alive wallet named

theorem createWalletInternal_alive {_details : LicensedUserDto} {_salt : Bytes32}
    (alive : Alive state)
    (accepted : createWalletInternal state _details _wallet _salt = .ok state') : Alive state' := by
  simp only [createWalletInternal, bind_eq_ok] at accepted
  obtain ⟨_, _, made, setup, emitted⟩ := accepted
  obtain ⟨_, event, _, rfl⟩ := emitCreateLicensedUserWallet_effect emitted
  suffices alive' : Alive made from alive'.congr rfl
  split at setup
  · exact alive.setUser rfl (setupOwners_users setup)
  · cases setup
    exact alive.setUser rfl rfl

theorem execute_alive {deployment : Deployment} {transaction : Transaction} (alive : Alive state)
    (accepted : execute deployment transaction state = .ok state') : Alive state' := by
  obtain ⟨world, msg, call⟩ := transaction
  cases call with
  | initializeV1 _nameRegistryAddress _trustedForwarder =>
      simp only [execute, initializeV1, bind_eq_ok] at accepted
      obtain ⟨_, _, accepted⟩ := accepted
      split at accepted
      · cases accepted
      · cases accepted
        exact alive.congr rfl
  | initializeV2 _upgradeableBeacon =>
      simp only [execute, initializeV2, bind_eq_ok, pure_eq_ok] at accepted
      obtain ⟨_, _, rfl⟩ := accepted
      exact alive.congr rfl
  | createWallet _details _salt =>
      simp only [execute, createWallet, bind_eq_ok] at accepted
      obtain ⟨_, _, accepted⟩ := accepted
      split at accepted
      · cases accepted
      · exact createWalletInternal_alive alive accepted
  | createWalletFromMigration _details _walletAddress _originChain _originTimestamp =>
      simp only [execute, createWalletFromMigration, bind_eq_ok, pure_eq_ok] at accepted
      obtain ⟨_, _, made, created, rfl⟩ := accepted
      exact (createWalletInternal_alive alive created).congr rfl
  | addOwner _walletAddress _owner _threshold =>
      simp only [execute, addOwner, onlyActiveWallet, bind_eq_ok, require_eq_ok] at accepted
      obtain ⟨_, active, _, _, accepted⟩ := accepted
      split at accepted
      · simp only [singleToMulti, bind_eq_ok, pure_eq_ok] at accepted
        obtain ⟨made, setup, rfl⟩ := accepted
        suffices alive' : Alive made from alive'.congr rfl
        refine alive.setUser ?_ (setupOwners_users setup)
        exact active
      · refine alive.congr ?_
        exact addOwner_users accepted
  | removeOwner _wallet _prevOwner _owner _threshold =>
      refine alive.congr ?_
      exact removeOwner_users accepted
  | swapOwner _wallet _prevOwner _oldOwner _newOwner =>
      refine alive.congr ?_
      exact swapOwner_users accepted
  | changeThreshold _wallet _threshold =>
      refine alive.congr ?_
      exact changeThreshold_users accepted
  | setOriginalName _walletAddress _name =>
      simp only [execute, setOriginalName, onlyActiveWallet, bind_eq_ok, require_eq_ok,
        pure_eq_ok] at accepted
      obtain ⟨_, _, _, active, _, _, rfl⟩ := accepted
      refine alive.setUser ?_ rfl
      exact active
  | setEnglishName _walletAddress _name =>
      simp only [execute, setEnglishName, onlyActiveWallet, bind_eq_ok, require_eq_ok,
        pure_eq_ok] at accepted
      obtain ⟨_, _, _, active, _, _, rfl⟩ := accepted
      refine alive.setUser ?_ rfl
      exact active

theorem alive_blank : Alive State.blank := fun _ named => absurd rfl named

variable {deployment : Deployment} {config : Config Revert State Empty Empty Transaction}

theorem reach_alive (reach : Reach (entry deployment) NoRepeatedOwner State.blank config) :
    Alive config.now.state := by
  refine reach.invariant Alive alive_blank ?_
  intro transaction state _ alive trace
  apply Outcome.Meets.lift
  intro state' accepted
  exact execute_alive alive accepted

theorem reach_represents (reach : Reach (entry deployment) NoRepeatedOwner State.blank config)
    (multi : IsMultiOwner config.now.state _wallet) :
    ∃ members, Represents config.now.state _wallet members := by
  obtain ⟨members, owned⟩ := (reach_kept reach).owned _wallet multi
  exact ⟨members, owned, reach_alive reach _wallet multi.1, multi⟩

end Runs

theorem owner_changes_refined (deployment : Deployment) (world : World) (msg : Msg)
    (config : Config Revert State Empty Empty Transaction) (_wallet : Address)
    (members : List Address) (represents : Represents config.now.state _wallet members)
    (authorised : onlyWalletOrAdministrator world msg config.now.state _wallet = .ok ()) :
    getOwners config.now.state _wallet = .ok members ∧
    ∀ change : OwnerChange,
      let transaction : Transaction := ⟨world, msg, change.call _wallet⟩
      ((∃ state', execute deployment transaction config.now.state = .ok state') ↔
        change.Allowed members) ∧
      (∀ state', execute deployment transaction config.now.state = .ok state' →
        (config.enter (entry deployment) transaction).now.state = state' ∧
        Represents state' _wallet (change.apply members) ∧
        getThreshold state' _wallet =
          change.threshold (getThreshold config.now.state _wallet) ∧
        getOwners state' _wallet = .ok (change.apply members)) ∧
      (¬change.Allowed members → config.enter (entry deployment) transaction = config) := by
  refine ⟨represents.listed, fun change => ?_⟩
  have refines := execute_refines represents authorised deployment change
  refine ⟨refines.succeeds, ?_, ?_⟩
  · intro state' accepted
    obtain ⟨represents', threshold⟩ := refines.effect state' accepted
    refine ⟨?_, represents', threshold, represents'.listed⟩
    unfold Config.enter entry
    rw [accepted]
    rfl
  · intro refused
    exact enter_error fun state' accepted => refused (refines.succeeds.mp ⟨state', accepted⟩)

theorem owner_changes_refined_sample :
    ∃ state', execute sampleDeployment
        (sampleCall (.addOwner sampleWallet 0xca401 3)) (sampleRun sampleOwner 0xb0b).now.state =
          .ok state' ∧
      Represents state' sampleWallet [0xca401, sampleOwner, 0xb0b] ∧
      getThreshold state' sampleWallet = 3 := by
  have reach : Reach (entry sampleDeployment) NoRepeatedOwner State.blank
      (sampleRun sampleOwner 0xb0b) := by
    refine Reach.enter _ (Reach.enter _ Reach.start trivial) ?_
    simp only [NoRepeatedOwner, sampleCall]
    decide
  obtain ⟨members, represents⟩ := @reach_represents sampleWallet _ _ reach (by decide)
  have listed : getOwners (sampleRun sampleOwner 0xb0b).now.state sampleWallet =
      .ok [sampleOwner, 0xb0b] := by rfl
  obtain rfl : members = [sampleOwner, 0xb0b] := by
    simpa using represents.listed.symm.trans listed
  obtain ⟨_, changes⟩ := owner_changes_refined sampleDeployment
    (sampleCall (.addOwner sampleWallet 0xca401 3)).world
    (sampleCall (.addOwner sampleWallet 0xca401 3)).msg _ sampleWallet _ represents (by rfl)
  obtain ⟨succeeds, effect, _⟩ := changes (.addOwner 0xca401 3)
  obtain ⟨state', accepted⟩ := succeeds.mpr (by
    simp only [OwnerChange.Allowed, ValidOwner]
    decide)
  obtain ⟨_, represents', threshold, _⟩ := effect state' accepted
  exact ⟨state', accepted, represents', threshold⟩

end Startrail.LicensedUserManager
