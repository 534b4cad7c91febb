import Startrail.LicensedUser.Owners

/-!
Who changes a wallet. Every call that touches wallets names one, reaches no other, and runs only
for the administrator or, forwarded, for the wallet that the last bytes of the call data spell.
-/

namespace Startrail.LicensedUserManager

def MayChange (world : World) (msg : Msg) (state : State) (wallet : Address) : Prop :=
  isFromAdministrator world msg state ∨
    isTrustedForwarder state msg.sender ∧ 24 ≤ msg.data.length ∧
      addressOf (lastBytes 20 msg.data) = wallet

/-- Nothing but the records of one wallet changes. -/
structure Confined (wallet : Address) (state state' : State) : Prop where
  wallets : ∀ other, other ≠ wallet → state'.wallets other = state.wallets other
  users : ∀ other, other ≠ wallet → state'.luws other = state.luws other

section Confinement

variable {wallet : Address} {state state' final : State}

theorem Confined.refl : Confined wallet state state := ⟨fun _ _ => rfl, fun _ _ => rfl⟩

theorem Confined.trans (before : Confined wallet state state')
    (after : Confined wallet state' final) : Confined wallet state final where
  wallets other different := (after.wallets other different).trans (before.wallets other different)
  users other different := (after.users other different).trans (before.users other different)

theorem Confined.emit (confined : Confined wallet state state') (event : Event) :
    Confined wallet state (state'.emit event) :=
  ⟨confined.wallets, confined.users⟩

theorem Confined.setWallet (record : Wallet) :
    Confined wallet state (state.setWallet wallet record) where
  wallets other different := by simp [State.setWallet, different]
  users _ _ := rfl

theorem Confined.setUser (user : LicensedUser) :
    Confined wallet state (state.setUser wallet user) where
  wallets _ _ := rfl
  users other different := by simp [State.setUser, different]

end Confinement

section Calls

variable {world : World} {msg : Msg} {state state' : State} {_wallet : Address}

theorem onlyWalletOrAdministrator_mayChange {u : Unit}
    (allowed : onlyWalletOrAdministrator world msg state _wallet = .ok u) :
    MayChange world msg state _wallet := by
  unfold onlyWalletOrAdministrator at allowed
  split at allowed
  · rename_i administrator
    exact Or.inl administrator
  · simp only [bind_eq_ok, require_eq_ok] at allowed
    obtain ⟨_, forwarder, sent⟩ := allowed
    refine Or.inr ⟨forwarder, ?_⟩
    simp only [isFromWallet, forwarder, not_true_eq_false, if_false] at sent
    split at sent
    · exact absurd sent (by decide)
    · split at sent
      · exact absurd sent (by decide)
      · rename_i long same
        exact ⟨Nat.le_of_not_lt long, not_not.mp same⟩

theorem changeThreshold_confined {_threshold : Uint8}
    (accepted : changeThreshold world msg state _wallet _threshold = .ok state') :
    MayChange world msg state _wallet ∧ Confined _wallet state state' := by
  simp only [changeThreshold, bind_eq_ok, pure_eq_ok] at accepted
  obtain ⟨_, allowed, _, _, _, _, rfl⟩ := accepted
  exact ⟨onlyWalletOrAdministrator_mayChange allowed, (Confined.setWallet _).emit _⟩

/-- `addOwner` and `removeOwner` end with the nested call of `changeThreshold`. -/
theorem conclude_confined {_threshold threshold : Uint8} {record : Wallet} {event : Event}
    (accepted : (if threshold ≠ _threshold then
      changeThreshold world msg ((state.setWallet _wallet record).emit event) _wallet _threshold
      else pure ((state.setWallet _wallet record).emit event)) = .ok state') :
    Confined _wallet state state' := by
  have changed : Confined _wallet state ((state.setWallet _wallet record).emit event) :=
    (Confined.setWallet record).emit event
  split at accepted
  · exact changed.trans (changeThreshold_confined accepted).2
  · cases accepted
    exact changed

theorem OwnerManager.addOwner_confined {_owner : Address} {_threshold : Uint8}
    (accepted : OwnerManager.addOwner world msg state _wallet _owner _threshold = .ok state') :
    Confined _wallet state state' := by
  simp only [OwnerManager.addOwner, bind_eq_ok] at accepted
  obtain ⟨_, _, _, _, _, _, _, _, accepted⟩ := accepted
  exact conclude_confined accepted

theorem removeOwner_confined {_prevOwner _owner : Address} {_threshold : Uint8}
    (accepted : removeOwner world msg state _wallet _prevOwner _owner _threshold = .ok state') :
    MayChange world msg state _wallet ∧ Confined _wallet state state' := by
  simp only [removeOwner, bind_eq_ok] at accepted
  obtain ⟨_, allowed, _, _, _, _, _, _, _, _, accepted⟩ := accepted
  exact ⟨onlyWalletOrAdministrator_mayChange allowed, conclude_confined accepted⟩

theorem swapOwner_confined {_prevOwner _oldOwner _newOwner : Address}
    (accepted : swapOwner world msg state _wallet _prevOwner _oldOwner _newOwner = .ok state') :
    MayChange world msg state _wallet ∧ Confined _wallet state state' := by
  simp only [swapOwner, bind_eq_ok, pure_eq_ok] at accepted
  obtain ⟨_, allowed, _, _, _, _, _, _, _, _, rfl⟩ := accepted
  exact ⟨onlyWalletOrAdministrator_mayChange allowed, ((Confined.setWallet _).emit _).emit _⟩

theorem setupOwners_confined {_owners : List Address} {_threshold : Uint8}
    (accepted : setupOwners state _wallet _owners _threshold = .ok state') :
    Confined _wallet state state' := by
  simp only [setupOwners, bind_eq_ok, pure_eq_ok] at accepted
  obtain ⟨_, _, _, _, _, _, _, _, rfl⟩ := accepted
  exact Confined.setWallet _

theorem addOwner_confined {_owner : Address} {_threshold : Uint8}
    (accepted : addOwner world msg state _wallet _owner _threshold = .ok state') :
    MayChange world msg state _wallet ∧ Confined _wallet state state' := by
  simp only [addOwner, bind_eq_ok] at accepted
  obtain ⟨_, _, _, allowed, accepted⟩ := accepted
  refine ⟨onlyWalletOrAdministrator_mayChange allowed, ?_⟩
  split at accepted
  · simp only [singleToMulti, bind_eq_ok, pure_eq_ok] at accepted
    obtain ⟨_, setup, rfl⟩ := accepted
    exact ((Confined.setUser _).trans (setupOwners_confined setup)).emit _
  · exact OwnerManager.addOwner_confined accepted

theorem createWalletInternal_confined {_details : LicensedUserDto} {_salt : Bytes32}
    (accepted : createWalletInternal state _details _wallet _salt = .ok state') :
    Confined _wallet state state' := by
  simp only [createWalletInternal, emitCreateLicensedUserWallet, bind_eq_ok, pure_eq_ok] at accepted
  obtain ⟨_, _, made, setup, _, _, rfl⟩ := accepted
  refine Confined.emit ?_ _
  split at setup
  · exact (Confined.setUser _).trans (setupOwners_confined setup)
  · cases setup
    exact Confined.setUser _

/-- The wallets that a call may change are one, and its sender may change that one. -/
theorem execute_confined {deployment : Deployment} {transaction : Transaction}
    (accepted : execute deployment transaction state = .ok state') :
    (state'.wallets = state.wallets ∧ state'.luws = state.luws) ∨
      ∃ wallet, MayChange transaction.world transaction.msg state wallet ∧
        Confined wallet state state' := by
  obtain ⟨world, msg, call⟩ := transaction
  cases call with
  | initializeV1 _nameRegistryAddress _trustedForwarder =>
      simp only [execute, initializeV1, bind_eq_ok] at accepted
      obtain ⟨_, _, accepted⟩ := accepted
      split at accepted
      · cases accepted
      · cases accepted
        exact Or.inl ⟨rfl, rfl⟩
  | initializeV2 _upgradeableBeacon =>
      simp only [execute, initializeV2, bind_eq_ok, pure_eq_ok] at accepted
      obtain ⟨_, _, rfl⟩ := accepted
      exact Or.inl ⟨rfl, rfl⟩
  | createWallet _details _salt =>
      simp only [execute, createWallet, onlyAdministrator, bind_eq_ok, require_eq_ok] at accepted
      obtain ⟨_, administrator, accepted⟩ := accepted
      split at accepted
      · cases accepted
      · exact Or.inr ⟨_, Or.inl administrator, createWalletInternal_confined accepted⟩
  | createWalletFromMigration _details _walletAddress _originChain _originTimestamp =>
      simp only [execute, createWalletFromMigration, onlyAdministrator, bind_eq_ok, require_eq_ok,
        pure_eq_ok] at accepted
      obtain ⟨_, administrator, _, created, rfl⟩ := accepted
      exact Or.inr ⟨_, Or.inl administrator, (createWalletInternal_confined created).emit _⟩
  | addOwner _walletAddress _owner _threshold => exact Or.inr ⟨_, addOwner_confined accepted⟩
  | removeOwner _wallet _prevOwner _owner _threshold =>
      exact Or.inr ⟨_, removeOwner_confined accepted⟩
  | swapOwner _wallet _prevOwner _oldOwner _newOwner =>
      exact Or.inr ⟨_, swapOwner_confined accepted⟩
  | changeThreshold _wallet _threshold => exact Or.inr ⟨_, changeThreshold_confined accepted⟩
  | setOriginalName _walletAddress _name =>
      simp only [execute, setOriginalName, bind_eq_ok, pure_eq_ok] at accepted
      obtain ⟨_, allowed, _, _, _, _, rfl⟩ := accepted
      exact Or.inr ⟨_, onlyWalletOrAdministrator_mayChange allowed, (Confined.setUser _).emit _⟩
  | setEnglishName _walletAddress _name =>
      simp only [execute, setEnglishName, bind_eq_ok, pure_eq_ok] at accepted
      obtain ⟨_, allowed, _, _, _, _, rfl⟩ := accepted
      exact Or.inr ⟨_, onlyWalletOrAdministrator_mayChange allowed, (Confined.setUser _).emit _⟩

end Calls

theorem execute_isolated (deployment : Deployment) (transaction : Transaction)
    (state state' : State) (accepted : execute deployment transaction state = .ok state')
    (wallet : Address)
    (changed : state'.wallets wallet ≠ state.wallets wallet ∨
      state'.luws wallet ≠ state.luws wallet) :
    MayChange transaction.world transaction.msg state wallet ∧
      ∀ other, other ≠ wallet →
        state'.wallets other = state.wallets other ∧ state'.luws other = state.luws other := by
  rcases execute_confined accepted with ⟨wallets, users⟩ | ⟨touched, allowed, confined⟩
  · rw [wallets, users] at changed
    exact absurd changed (by simp)
  · have same : wallet = touched := by
      by_contra different
      rw [confined.wallets wallet different, confined.users wallet different] at changed
      exact absurd changed (by simp)
    subst wallet
    exact ⟨allowed, fun other different =>
      ⟨confined.wallets other different, confined.users other different⟩⟩

/-- The forwarder passes on a wallet's wish for a lower threshold. -/
def forwardedThreshold : Transaction :=
  ⟨World.named [(ADMINISTRATOR, sampleAdministrator)],
    ⟨0xf03a, encodeBE 4 0x153abb98 ++ encodeAddress sampleWallet ++ encodeBE 32 1 ++
      packWord sampleWallet⟩, .changeThreshold sampleWallet 1⟩

theorem execute_isolated_threshold : ∃ state',
    execute sampleDeployment forwardedThreshold (sampleRun sampleOwner 0xb0b).now.state =
        .ok state' ∧
      MayChange forwardedThreshold.world forwardedThreshold.msg
        (sampleRun sampleOwner 0xb0b).now.state sampleWallet := by
  refine ⟨_, rfl, (execute_isolated sampleDeployment forwardedThreshold
    (sampleRun sampleOwner 0xb0b).now.state _ rfl sampleWallet (Or.inl ?_)).1⟩
  intro same
  have threshold := congrArg Wallet.threshold same
  revert threshold
  decide

end Startrail.LicensedUserManager
