import Startrail.LicensedUser.Authority

/-!
The two records of a wallet. A wallet has its owner in `luws` and nothing in `wallets`, or no owner
in `luws` and a threshold in `wallets`; it may leave the first form for the second and never comes
back. The inherited owner functions find nothing to work on in an empty record.
-/

namespace Startrail.LicensedUserManager

structure Separate (state : State) (wallet : Address) : Prop where
  active : isActiveWallet state wallet = true → walletExists state wallet
  single : isSingleOwner state wallet → walletExists state wallet
  blank : ¬IsMultiOwner state wallet → state.wallets wallet = Wallet.blank
  threshold : IsMultiOwner state wallet → 1 ≤ (state.wallets wallet).threshold

/-- The form of a wallet in the order in which it may change: none, one owner, several. -/
def form (state : State) (wallet : Address) : Nat :=
  if ¬walletExists state wallet then 0 else if isSingleOwner state wallet then 1 else 2

/-- The wallet is well kept and has not gone back to an earlier form. -/
structure Advanced (wallet : Address) (state state' : State) : Prop where
  separate : Separate state' wallet
  forward : form state wallet ≤ form state' wallet

theorem separate_blank (wallet : Address) : Separate State.blank wallet := by
  refine ⟨?_, ?_, fun _ => rfl, ?_⟩
  · intro active
    cases active
  · intro single
    exact absurd rfl single
  · intro multi
    exact absurd rfl multi.1

theorem form_single_iff {state : State} {wallet : Address} (separate : Separate state wallet) :
    form state wallet = 1 ↔ isSingleOwner state wallet := by
  unfold form
  constructor
  · intro one
    by_contra notSingle
    rw [if_neg notSingle] at one
    split at one <;> cases one
  · intro single
    rw [if_neg (not_not_intro (separate.single single)), if_pos single]

theorem form_multi_iff {state : State} {wallet : Address} :
    form state wallet = 2 ↔ IsMultiOwner state wallet := by
  unfold form IsMultiOwner
  by_cases named : walletExists state wallet
  · by_cases single : isSingleOwner state wallet <;> simp [named, single]
  · simp [named]

theorem form_le (state : State) (wallet : Address) : form state wallet ≤ 2 := by
  unfold form
  split
  · exact Nat.zero_le _
  · split
    · exact Nat.le_succ 1
    · exact Nat.le_refl 2

section Calls

variable {world : World} {msg : Msg} {state state' : State} {_wallet : Address}

/-- The form depends on the owner and on whether there is a name, and nothing else matters. -/
theorem Separate.congr {wallet : Address} (separate : Separate state wallet)
    (wallets : state'.wallets wallet = state.wallets wallet)
    (owner : (state'.luws wallet).owner = (state.luws wallet).owner)
    (named : walletExists state' wallet ↔ walletExists state wallet)
    (active : isActiveWallet state' wallet = isActiveWallet state wallet) :
    Advanced wallet state state' := by
  have lone : isSingleOwner state' wallet ↔ isSingleOwner state wallet := by
    rw [isSingleOwner, isSingleOwner, owner]
  have several : IsMultiOwner state' wallet ↔ IsMultiOwner state wallet := by
    rw [IsMultiOwner, IsMultiOwner, named, lone]
  refine ⟨⟨?_, ?_, ?_, ?_⟩, ?_⟩
  · rw [active, named]
    exact separate.active
  · rw [lone, named]
    exact separate.single
  · rw [several, wallets]
    exact separate.blank
  · rw [several, wallets]
    exact separate.threshold
  · simp only [form, named, lone, le_refl]

theorem Advanced.emit {wallet : Address} (advanced : Advanced wallet state state')
    (event : Event) : Advanced wallet state (state'.emit event) :=
  ⟨⟨advanced.separate.active, advanced.separate.single, advanced.separate.blank,
    advanced.separate.threshold⟩, advanced.forward⟩

theorem Confined.advanced (confined : Confined _wallet state state')
    (separate : ∀ wallet, Separate state wallet) (here : Advanced _wallet state state') :
    ∀ wallet, Advanced wallet state state' := by
  intro wallet
  by_cases same : wallet = _wallet
  · exact same ▸ here
  · have users := confined.users wallet same
    exact (separate wallet).congr (confined.wallets wallet same) (congrArg LicensedUser.owner users)
      (by rw [walletExists, walletExists, users]) (congrArg LicensedUser.active users)

/-- Several owners are the last form that a wallet can have. -/
theorem advanced_multi (multi : IsMultiOwner state' _wallet)
    (threshold : 1 ≤ (state'.wallets _wallet).threshold) : Advanced _wallet state state' := by
  refine ⟨⟨fun _ => multi.1, fun _ => multi.1, fun other => absurd multi other,
    fun _ => threshold⟩, ?_⟩
  rw [form_multi_iff.mpr multi]
  exact form_le state _wallet

theorem blank_calls (world : World) (msg : Msg) (blank : state.wallets _wallet = Wallet.blank) :
    (∀ _prevOwner _owner _threshold state', removeOwner world msg state _wallet _prevOwner _owner
      _threshold ≠ .ok state') ∧
    (∀ _prevOwner _oldOwner _newOwner state', swapOwner world msg state _wallet _prevOwner
      _oldOwner _newOwner ≠ .ok state') ∧
    (∀ _threshold state', changeThreshold world msg state _wallet _threshold ≠ .ok state') := by
  refine ⟨?_, ?_, ?_⟩
  · intro _prevOwner _owner _threshold state' accepted
    simp only [removeOwner, bind_eq_ok, require_eq_ok, blank] at accepted
    obtain ⟨_, _, _, _, _, _, _, proper, _, link, _⟩ := accepted
    exact proper.1 link.symm
  · intro _prevOwner _oldOwner _newOwner state' accepted
    simp only [swapOwner, bind_eq_ok, require_eq_ok, blank] at accepted
    obtain ⟨_, _, _, _, _, _, _, proper, _, link, _⟩ := accepted
    exact proper.1 link.symm
  · intro _threshold state' accepted
    obtain ⟨reached, positive, _⟩ := changeThreshold_effect accepted
    rw [blank] at reached
    exact absurd (BitVec.le_trans positive reached) (by decide)

theorem Separate.linked (separate : Separate state _wallet)
    (written : state.wallets _wallet ≠ Wallet.blank) : IsMultiOwner state _wallet := by
  by_contra other
  exact written (separate.blank other)

/-- A call on a multi-owner wallet that leaves `luws` alone and the wallet with a threshold. -/
theorem advanced_same (multi : IsMultiOwner state _wallet)
    (effect : 1 ≤ (state'.wallets _wallet).threshold ∧ state'.luws = state.luws) :
    Advanced _wallet state state' := by
  refine advanced_multi ?_ effect.1
  simpa only [IsMultiOwner, walletExists, isSingleOwner, effect.2] using multi

theorem conclude_threshold {_threshold threshold : Uint8} {record : Wallet} {event : Event}
    (accepted : (if threshold ≠ _threshold then
      changeThreshold world msg ((state.setWallet _wallet record).emit event) _wallet _threshold
      else pure ((state.setWallet _wallet record).emit event)) = .ok state')
    (positive : 1 ≤ threshold) (same : record.threshold = threshold) :
    1 ≤ (state'.wallets _wallet).threshold ∧ state'.luws = state.luws := by
  split at accepted
  · obtain ⟨_, positive, rfl⟩ := changeThreshold_effect accepted
    simpa [State.setWallet, State.emit] using positive
  · cases accepted
    simpa [State.setWallet, State.emit, same] using positive

theorem setupOwners_threshold {_owners : List Address} {_threshold : Uint8}
    (accepted : setupOwners state _wallet _owners _threshold = .ok state') :
    1 ≤ (state'.wallets _wallet).threshold ∧ state'.luws = state.luws := by
  simp only [setupOwners, bind_eq_ok, require_eq_ok, pure_eq_ok] at accepted
  obtain ⟨_, _, _, _, _, positive, _, _, rfl⟩ := accepted
  simpa [State.setWallet] using positive

theorem removeOwner_advanced (separate : Separate state _wallet) {_prevOwner _owner : Address}
    {_threshold : Uint8}
    (accepted : removeOwner world msg state _wallet _prevOwner _owner _threshold = .ok state') :
    Advanced _wallet state state' := by
  have multi := separate.linked fun blank => (blank_calls world msg blank).1 _ _ _ _ accepted
  simp only [removeOwner, bind_eq_ok] at accepted
  obtain ⟨_, _, _, _, _, _, _, _, _, _, accepted⟩ := accepted
  exact advanced_same multi (conclude_threshold accepted (separate.threshold multi) rfl)

theorem swapOwner_advanced (separate : Separate state _wallet)
    {_prevOwner _oldOwner _newOwner : Address}
    (accepted : swapOwner world msg state _wallet _prevOwner _oldOwner _newOwner = .ok state') :
    Advanced _wallet state state' := by
  have multi := separate.linked fun blank => (blank_calls world msg blank).2.1 _ _ _ _ accepted
  simp only [swapOwner, bind_eq_ok, pure_eq_ok] at accepted
  obtain ⟨_, _, _, _, _, _, _, _, _, _, rfl⟩ := accepted
  refine advanced_same multi ⟨?_, rfl⟩
  simpa [State.setWallet, State.emit] using separate.threshold multi

theorem changeThreshold_advanced (separate : Separate state _wallet) {_threshold : Uint8}
    (accepted : changeThreshold world msg state _wallet _threshold = .ok state') :
    Advanced _wallet state state' := by
  have multi := separate.linked fun blank => (blank_calls world msg blank).2.2 _ _ accepted
  obtain ⟨_, positive, rfl⟩ := changeThreshold_effect accepted
  refine advanced_same multi ⟨?_, rfl⟩
  simpa [State.setWallet, State.emit] using positive

theorem addOwner_advanced (separate : Separate state _wallet) {_owner : Address}
    {_threshold : Uint8}
    (accepted : addOwner world msg state _wallet _owner _threshold = .ok state') :
    Advanced _wallet state state' := by
  simp only [addOwner, onlyActiveWallet, bind_eq_ok, require_eq_ok] at accepted
  obtain ⟨_, active, _, _, accepted⟩ := accepted
  have named := separate.active active
  split at accepted
  · simp only [singleToMulti, bind_eq_ok, pure_eq_ok] at accepted
    obtain ⟨made, setup, rfl⟩ := accepted
    obtain ⟨threshold, users⟩ := setupOwners_threshold setup
    refine advanced_multi ?_ threshold
    simpa [IsMultiOwner, walletExists, isSingleOwner, State.emit, users, State.setUser] using named
  · rename_i notSingle
    have multi : IsMultiOwner state _wallet := ⟨named, notSingle⟩
    simp only [OwnerManager.addOwner, bind_eq_ok] at accepted
    obtain ⟨_, _, _, _, _, _, _, _, accepted⟩ := accepted
    exact advanced_same multi (conclude_threshold accepted (separate.threshold multi) rfl)

theorem createWalletInternal_advanced (separate : Separate state _wallet)
    {_details : LicensedUserDto} {_salt : Bytes32}
    (accepted : createWalletInternal state _details _wallet _salt = .ok state') :
    Advanced _wallet state state' := by
  simp only [createWalletInternal, bind_eq_ok] at accepted
  obtain ⟨_, valid, made, setup, emitted⟩ := accepted
  obtain ⟨vacant, headProper, named⟩ := isValidCreateWalletRequest_effect valid
  obtain ⟨_, event, _, rfl⟩ := emitCreateLicensedUserWallet_effect emitted
  by_cases lone : _details.owners.length = 1
  · obtain ⟨owner, only⟩ := List.length_eq_one_iff.mp lone
    simp only [only, List.length_singleton, not_true_eq_false, if_true, if_false, pure_eq_ok,
      List.headD_cons] at setup
    subst made
    have ownerProper : owner ≠ 0 := by simpa [only] using headProper
    have blank := separate.blank fun multi => vacant multi.1
    have exists_ : walletExists ((state.setUser _wallet ⟨owner, true, _details.userType,
        _details.englishName, _details.originalName⟩).emit event) _wallet := by
      simpa [walletExists, State.setUser, State.emit] using named
    have single : isSingleOwner ((state.setUser _wallet ⟨owner, true, _details.userType,
        _details.englishName, _details.originalName⟩).emit event) _wallet := by
      simpa [isSingleOwner, State.setUser, State.emit] using ownerProper
    refine ⟨⟨fun _ => exists_, fun _ => exists_, fun _ => blank,
      fun multi => absurd single multi.2⟩, ?_⟩
    have none_ : form state _wallet = 0 := if_pos vacant
    rw [none_]
    exact Nat.zero_le _
  · simp only [lone, not_false_eq_true, if_true, if_false] at setup
    obtain ⟨threshold, users⟩ := setupOwners_threshold setup
    refine advanced_multi ?_ threshold
    simpa [IsMultiOwner, walletExists, isSingleOwner, State.emit, users, State.setUser] using named

theorem rename_advanced (separate : Separate state _wallet) {user : LicensedUser} {event : Event}
    (active : isActiveWallet state _wallet = true)
    (owner : user.owner = (state.luws _wallet).owner)
    (same : user.active = (state.luws _wallet).active) (named : user.originalName ≠ []) :
    Advanced _wallet state ((state.setUser _wallet user).emit event) := by
  refine separate.congr rfl ?_ ?_ ?_
  · simpa [State.setUser, State.emit] using owner
  · have before := separate.active active
    simpa [walletExists, State.setUser, State.emit, named] using before
  · simpa [isActiveWallet, State.setUser, State.emit] using same

theorem execute_advanced {deployment : Deployment} {transaction : Transaction}
    (separate : ∀ wallet, Separate state wallet)
    (accepted : execute deployment transaction state = .ok state') :
    ∀ wallet, Advanced wallet state state' := by
  obtain ⟨world, msg, call⟩ := transaction
  cases call with
  | initializeV1 _nameRegistryAddress _trustedForwarder =>
      simp only [execute, initializeV1, bind_eq_ok] at accepted
      obtain ⟨_, _, accepted⟩ := accepted
      split at accepted
      · cases accepted
      · cases accepted
        exact fun wallet => (separate wallet).congr rfl rfl Iff.rfl rfl
  | initializeV2 _upgradeableBeacon =>
      simp only [execute, initializeV2, bind_eq_ok, pure_eq_ok] at accepted
      obtain ⟨_, _, rfl⟩ := accepted
      exact fun wallet => (separate wallet).congr rfl rfl Iff.rfl rfl
  | createWallet _details _salt =>
      simp only [execute, createWallet, bind_eq_ok] at accepted
      obtain ⟨_, _, accepted⟩ := accepted
      split at accepted
      · cases accepted
      · exact (createWalletInternal_confined accepted).advanced separate
          (createWalletInternal_advanced (separate _) accepted)
  | createWalletFromMigration _details _walletAddress _originChain _originTimestamp =>
      simp only [execute, createWalletFromMigration, bind_eq_ok, pure_eq_ok] at accepted
      obtain ⟨_, _, made, created, rfl⟩ := accepted
      have advanced := (createWalletInternal_confined created).advanced separate
        (createWalletInternal_advanced (separate _) created)
      exact fun wallet => (advanced wallet).emit _
  | addOwner _walletAddress _owner _threshold =>
      exact (addOwner_confined accepted).2.advanced separate
        (addOwner_advanced (separate _) accepted)
  | removeOwner _wallet _prevOwner _owner _threshold =>
      exact (removeOwner_confined accepted).2.advanced separate
        (removeOwner_advanced (separate _) accepted)
  | swapOwner _wallet _prevOwner _oldOwner _newOwner =>
      exact (swapOwner_confined accepted).2.advanced separate
        (swapOwner_advanced (separate _) accepted)
  | changeThreshold _wallet _threshold =>
      exact (changeThreshold_confined accepted).2.advanced separate
        (changeThreshold_advanced (separate _) accepted)
  | setOriginalName _walletAddress _name =>
      simp only [execute, setOriginalName, onlyActiveWallet, bind_eq_ok, require_eq_ok,
        pure_eq_ok] at accepted
      obtain ⟨_, _, _, active, _, named, rfl⟩ := accepted
      exact ((Confined.setUser _).emit _).advanced separate
        (rename_advanced (separate _) active rfl rfl named)
  | setEnglishName _walletAddress _name =>
      simp only [execute, setEnglishName, onlyActiveWallet, bind_eq_ok, require_eq_ok,
        pure_eq_ok] at accepted
      obtain ⟨_, _, _, active, _, _, rfl⟩ := accepted
      exact ((Confined.setUser _).emit _).advanced separate
        (rename_advanced (separate _) active rfl rfl ((separate _walletAddress).active active))

end Calls

/-- A run keeps every wallet well kept and takes none back. -/
theorem reach_advanced {deployment : Deployment} {origin : State}
    {config : Config Revert State Empty Empty Transaction}
    (separate : ∀ wallet, Separate origin wallet)
    (reach : Reach (entry deployment) (fun _ _ => True) origin config) :
    ∀ wallet, Advanced wallet origin config.now.state := by
  refine reach.invariant (fun state => ∀ wallet, Advanced wallet origin state)
    (fun wallet => ⟨separate wallet, Nat.le_refl _⟩) ?_
  intro transaction state _ before trace
  apply Outcome.Meets.lift
  intro state' accepted wallet
  have after := execute_advanced (fun other => (before other).separate) accepted wallet
  exact ⟨after.separate, Nat.le_trans (before wallet).forward after.forward⟩

theorem representations_apart (deployment : Deployment)
    (config : Config Revert State Empty Empty Transaction)
    (reach : Reach (entry deployment) (fun _ _ => True) State.blank config) (wallet : Address) :
    (¬walletExists config.now.state wallet ∧ (config.now.state.luws wallet).owner = 0 ∧
        config.now.state.wallets wallet = Wallet.blank ∨
      walletExists config.now.state wallet ∧ (config.now.state.luws wallet).owner ≠ 0 ∧
        config.now.state.wallets wallet = Wallet.blank ∨
      walletExists config.now.state wallet ∧ (config.now.state.luws wallet).owner = 0 ∧
        1 ≤ (config.now.state.wallets wallet).threshold) ∧
    (∀ later : Config Revert State Empty Empty Transaction,
      Reach (entry deployment) (fun _ _ => True) config.now.state later →
        (isSingleOwner config.now.state wallet →
          isSingleOwner later.now.state wallet ∨ IsMultiOwner later.now.state wallet) ∧
        (IsMultiOwner config.now.state wallet → IsMultiOwner later.now.state wallet)) ∧
    (¬IsMultiOwner config.now.state wallet → ∀ world msg,
      (∀ _prevOwner _owner _threshold state', removeOwner world msg config.now.state wallet
        _prevOwner _owner _threshold ≠ .ok state') ∧
      (∀ _prevOwner _oldOwner _newOwner state', swapOwner world msg config.now.state wallet
        _prevOwner _oldOwner _newOwner ≠ .ok state') ∧
      (∀ _threshold state', changeThreshold world msg config.now.state wallet _threshold ≠
        .ok state')) := by
  have all := fun other => (reach_advanced separate_blank reach other).separate
  have separate := all wallet
  refine ⟨?_, ?_, ?_⟩
  · by_cases named : walletExists config.now.state wallet
    · by_cases single : isSingleOwner config.now.state wallet
      · exact Or.inr (Or.inl ⟨named, single, separate.blank fun multi => multi.2 single⟩)
      · exact Or.inr (Or.inr ⟨named, not_not.mp single, separate.threshold ⟨named, single⟩⟩)
    · refine Or.inl ⟨named, ?_, separate.blank fun multi => named multi.1⟩
      exact not_not.mp fun single => named (separate.single single)
  · intro later further
    have advanced := reach_advanced all further wallet
    have forward := advanced.forward
    have last := form_le later.now.state wallet
    rw [← form_single_iff separate, ← form_single_iff advanced.separate, ← form_multi_iff,
      ← form_multi_iff]
    omega
  · intro other world msg
    exact blank_calls world msg (separate.blank other)

theorem representations_apart_sample :
    IsMultiOwner (sampleRun sampleOwner 0xb0b).now.state sampleWallet ∧
      ∀ later : Config Revert State Empty Empty Transaction,
        Reach (entry sampleDeployment) (fun _ _ => True)
            (sampleRun sampleOwner 0xb0b).now.state later →
          IsMultiOwner later.now.state sampleWallet := by
  have multi : IsMultiOwner (sampleRun sampleOwner 0xb0b).now.state sampleWallet := by decide
  have reach : Reach (entry sampleDeployment) (fun _ _ => True) State.blank
      (sampleRun sampleOwner 0xb0b) :=
    Reach.enter _ (Reach.enter _ Reach.start trivial) trivial
  obtain ⟨_, forward, _⟩ := representations_apart sampleDeployment _ reach sampleWallet
  exact ⟨multi, fun later further => (forward later further).2 multi⟩

end Startrail.LicensedUserManager
