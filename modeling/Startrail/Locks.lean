import Startrail.Registry.Accounting
import Startrail.Collection.Ownership

/-!
The lock against external transfers. The settings of the flag are in the logs: from a
creation with the lock or a `setLockExternalTransfer(t, true)` to the next
`setLockExternalTransfer(t, false)` the latest setting of a token locks it. The flag in the
storage agrees with the latest setting, and each ERC721 entry point checks the flag first.
-/

namespace Startrail

namespace Registry

/-- The token of the calls that set its lock. -/
def Call.locks (deployment : Deployment) : Call → Option Uint256
  | .setLockExternalTransfer tokenId true => some tokenId
  | .createSRRFromLicensedUser _ artistAddress metadataCID true _ _ _ =>
      some (generate deployment.evm metadataCID artistAddress)
  | .createSRRFromBulk _ artistAddress metadataCID _ true _ _ _ =>
      some (generate deployment.evm metadataCID artistAddress)
  | _ => none

/-- The token of the calls that may move it in spite of a lock. -/
def Call.conveys (deployment : Deployment) : Call → Option Uint256
  | .transferFromWithProvenance _ tokenId _ _ _ => some tokenId
  | .transferFromWithProvenanceFromBulk _ _ tokenId _ _ _ => some tokenId
  | .transferSRRByReveal _ _ tokenId _ => some tokenId
  | .createSRRFromLicensedUser _ artistAddress metadataCID _ _ _ _ =>
      some (generate deployment.evm metadataCID artistAddress)
  | .createSRRFromBulk _ artistAddress metadataCID _ _ _ _ _ =>
      some (generate deployment.evm metadataCID artistAddress)
  | _ => none

variable {deployment : Deployment} {world : World} {msg : Msg} {state state' : State}

/-- The flag of a token whose latest setting locks it is on, and the token exists. -/
structure Guarded (ledger : Ledger Uint256 Address ℤ) : Prop where
  heeded : ledger.Heeded
  owned : ∀ tokenId, Ledger.LockedSince tokenId ledger.settings → ledger.owner tokenId ≠ 0

theorem Guarded.pass {ledger : Ledger Uint256 Address ℤ} (guarded : Guarded ledger)
    {from_ to_ : Address} {tokenId : Uint256} (recipient : to_ ≠ 0) :
    Guarded (ledger.pass 0 from_ to_ tokenId) := by
  refine ⟨guarded.heeded, ?_⟩
  intro other since
  by_cases same : other = tokenId
  · subst same
    simpa [Ledger.pass] using recipient
  · simpa [Ledger.pass, same] using guarded.owned other since

theorem Birth.minted_guarded (birth : Birth) {ledger : Ledger Uint256 Address ℤ}
    (guarded : Guarded ledger) (absent : ledger.owner birth.tokenId = 0)
    (issuer : birth.issuer ≠ 0) : Guarded (birth.minted ledger) := by
  have unset : ¬Ledger.LockedSince birth.tokenId ledger.settings :=
    fun since => guarded.owned _ since absent
  have given : ∀ tokenId, tokenId = birth.tokenId → (birth.minted ledger).owner tokenId ≠ 0 := by
    rintro tokenId rfl
    rw [birth.minted_owner, Function.update_self]
    exact issuer
  have other : ∀ tokenId, tokenId ≠ birth.tokenId →
      Ledger.LockedSince tokenId ledger.settings → (birth.minted ledger).owner tokenId ≠ 0 := by
    intro tokenId different since
    rw [birth.minted_owner, Function.update_of_ne different]
    exact guarded.owned tokenId since
  constructor
  · unfold Birth.minted
    split
    · exact guarded.heeded.setLock birth.tokenId true
    · exact guarded.heeded.resetLock unset
  · intro tokenId since
    by_cases same : tokenId = birth.tokenId
    · exact given tokenId same
    · refine other tokenId same ?_
      unfold Birth.minted at since
      split at since
      · simpa [Ledger.mint, Ledger.setLock, Ledger.LockedSince, Ne.symm same] using since
      · exact since

theorem Posting.guarded {call : Call} {entered : Ledger Uint256 Address ℤ}
    (posting : Posting deployment msg state call entered) (guarded : Guarded (ledger state)) :
    Guarded entered := by
  cases posting with
  | quiet _ => exact guarded
  | @create _ birth _ absent issuer =>
      have minted := birth.minted_guarded guarded absent issuer
      unfold Birth.entered
      split
      · rename_i recipient
        exact minted.pass recipient
      · exact minted
  | hand _ _ recipient => exact guarded.pass recipient
  | reveal _ recipient => exact guarded.pass recipient
  | approve _ => exact ⟨guarded.heeded, guarded.owned⟩
  | @setLock tokenId flag owned =>
      refine ⟨guarded.heeded.setLock tokenId flag, ?_⟩
      intro other since
      by_cases same : tokenId = other
      · subst same
        exact owned
      · simp only [Ledger.setLock, Ledger.LockedSince, if_neg same] at since
        exact guarded.owned other since

theorem reach_guarded {origin : State} {config : Config Revert State Query Reply Transaction}
    (fresh : origin.logs = []) (reach : Reach (entry deployment) (fun _ _ => True) origin config) :
    Guarded (ledger config.now.state) := by
  have unset : (ledger origin).settings = [] := by simp [ledger, fresh]
  refine reach.invariant (fun state => Guarded (ledger state)) ⟨?_, ?_⟩ ?_
  · intro tokenId since
    rw [unset] at since
    exact since.elim
  · intro tokenId since
    rw [unset] at since
    exact since.elim
  · intro transaction state _ guarded
    refine (perform_trailing _ _ _ _).keeps fun state' ran => ?_
    obtain ⟨middle, msg, call, runs, posting⟩ := perform_posting ran
    rw [← runs.ledger] at guarded
    exact posting.guarded guarded

theorem Birth.entered_other (birth : Birth) (before : Ledger Uint256 Address ℤ) {tokenId : Uint256}
    (other : tokenId ≠ birth.tokenId) :
    (birth.entered before).owner tokenId = before.owner tokenId ∧
      (birth.entered before).approved tokenId = before.approved tokenId := by
  unfold Birth.entered
  split
  · simp [Ledger.pass, birth.minted_owner, birth.minted_approved, other]
  · simp [birth.minted_owner, birth.minted_approved, other]

theorem Birth.entered_settings (birth : Birth) (before : Ledger Uint256 Address ℤ) :
    (birth.entered before).settings =
      if birth.lockExternalTransfer = true then (birth.tokenId, true) :: before.settings
      else before.settings := by
  unfold Birth.entered Birth.minted
  by_cases passed : birth.to_ ≠ 0
  · rw [if_pos passed]
    split
    · rfl
    · rfl
  · rw [if_neg passed]
    split
    · rfl
    · rfl

theorem Birth.confined {birth : Birth} {before : Ledger Uint256 Address ℤ} {tokenId : Uint256}
    {Conveys Unlocks : Prop} (since : Ledger.LockedSince tokenId before.settings)
    (other : tokenId ≠ birth.tokenId) :
    before.Confined 0 tokenId Conveys Unlocks (birth.entered before) := by
  obtain ⟨owner, approved⟩ := birth.entered_other before other
  refine ⟨Or.inl approved, fun changed => absurd owner changed, Or.inl ?_⟩
  rw [birth.entered_settings]
  split
  · simpa [Ledger.LockedSince, Ne.symm other] using since
  · exact since

theorem Call.handover_conveys {call : Call} {tokenId : Uint256} {to_ : Address}
    (handover : call.handover = some (tokenId, to_)) (external : call.external ≠ some tokenId) :
    call.conveys deployment = some tokenId := by
  cases call with
  | transferFrom from_ to_ tokenId =>
      cases handover
      exact absurd rfl external
  | safeTransferFrom from_ to_ tokenId _data =>
      cases handover
      exact absurd rfl external
  | transferFromWithProvenance to_ tokenId historyMetadataHash customHistoryId isIntermediary =>
      cases handover
      rfl
  | transferFromWithProvenanceFromBulk signer to_ tokenId historyMetadataHash customHistoryId
      isIntermediary =>
      cases handover
      rfl
  | _ => cases handover

theorem Posting.confined {call : Call} {entered : Ledger Uint256 Address ℤ} {tokenId : Uint256}
    (posting : Posting deployment msg state call entered) (guarded : Guarded (ledger state))
    (since : Ledger.LockedSince tokenId (ledger state).settings)
    (external : call.external ≠ some tokenId) :
    (ledger state).Confined 0 tokenId (call.conveys deployment = some tokenId)
      (call = .setLockExternalTransfer tokenId false) entered := by
  cases posting with
  | quiet _ => exact ⟨Or.inl rfl, fun changed => absurd rfl changed, Or.inl since⟩
  | @create _ birth _ absent _ =>
      refine birth.confined since ?_
      rintro rfl
      exact guarded.owned _ since absent
  | @hand _ token to_ handover _ _ =>
      refine .pass since ?_
      rintro rfl
      exact Call.handover_conveys handover external
  | reveal _ _ =>
      refine .pass since ?_
      rintro rfl
      rfl
  | @approve to_ token _ =>
      have other : tokenId ≠ token := by
        rintro rfl
        exact external rfl
      exact ⟨Or.inl (Function.update_of_ne other _ _), fun changed => absurd rfl changed,
        Or.inl since⟩
  | setLock _ =>
      refine .setLock since ?_
      intro same
      cases same
      rfl

theorem Birth.entered_lockedSince (birth : Birth) (before : Ledger Uint256 Address ℤ)
    (locks : birth.lockExternalTransfer = true) :
    Ledger.LockedSince birth.tokenId (birth.entered before).settings := by
  rw [birth.entered_settings, if_pos locks]
  simp [Ledger.LockedSince]

/-- The calls that lock a token leave it locked. -/
theorem Posting.lockedSince {call : Call} {entered : Ledger Uint256 Address ℤ} {tokenId : Uint256}
    (posting : Posting deployment msg state call entered)
    (locks : call.locks deployment = some tokenId) :
    Ledger.LockedSince tokenId entered.settings := by
  cases call with
  | setLockExternalTransfer token flag =>
      cases flag with
      | false => cases locks
      | true =>
          cases locks
          cases posting with
          | quiet silent => cases silent
          | create created _ _ => cases created
          | hand handover _ _ => cases handover
          | setLock _ => simp [Ledger.setLock, Ledger.LockedSince]
  | createSRRFromLicensedUser isPrimaryIssuer artistAddress metadataCID lockExternalTransfer to_
      royaltyReceiver royaltyBasisPoints =>
      cases lockExternalTransfer with
      | false => cases locks
      | true =>
          cases locks
          cases posting with
          | quiet silent => cases silent
          | create created _ _ =>
              cases created
              exact Birth.entered_lockedSince ⟨_, _, true, _⟩ _ rfl
          | hand handover _ _ => cases handover
  | createSRRFromBulk isPrimaryIssuer artistAddress metadataCID issuerAddress lockExternalTransfer
      to_ royaltyReceiver royaltyBasisPoints =>
      cases lockExternalTransfer with
      | false => cases locks
      | true =>
          cases locks
          cases posting with
          | quiet silent => cases silent
          | create created _ _ =>
              cases created
              exact Birth.entered_lockedSince ⟨_, _, true, _⟩ _ rfl
          | hand handover _ _ => cases handover
  | _ => cases locks

theorem perform_unlocked {depth : Nat} {call call' : Call} {msg' : Msg} {middle : State}
    {tokenId : Uint256}
    (ran : (perform deployment world depth msg call state).front = some state')
    (runs : Runs deployment state msg call middle msg' call')
    (external : call'.external = some tokenId) : (ledger state).locked tokenId = false := by
  rw [← runs.ledger]
  refine (runs.accepted ran ?_).unlocked external
  rintro userAddress callData sigR sigS sigV rfl
  cases external

theorem perform_locks {depth : Nat} {call call' : Call} {msg' : Msg} {middle : State}
    {tokenId : Uint256}
    (ran : (perform deployment world depth msg call state).front = some state')
    (runs : Runs deployment state msg call middle msg' call')
    (locks : call'.locks deployment = some tokenId) :
    Ledger.LockedSince tokenId (ledger state').settings := by
  refine (runs.accepted ran ?_).posting.lockedSince locks
  rintro userAddress callData sigR sigS sigV rfl
  cases locks

end Registry

namespace Collection

variable {evm : Evm} {world : World} {msg : Msg} {state state' : State}

/-- The token of the calls that set its lock. -/
def Call.locks (evm : Evm) : Call → Option Uint256
  | .setLockExternalTransfer tokenId true => some tokenId
  | .createSRR _ artistAddress metadataCID true _ _ _ =>
      some (generate evm metadataCID artistAddress)
  | .createSRRFromBulk _ artistAddress metadataCID _ true _ _ _ =>
      some (generate evm metadataCID artistAddress)
  | _ => none

/-- The token of the calls that may move it in spite of a lock. -/
def Call.conveys (evm : Evm) : Call → Option Uint256
  | .transferFromWithProvenance _ tokenId _ _ _ => some tokenId
  | .transferFromWithProvenanceFromBulk _ _ tokenId _ _ _ => some tokenId
  | .transferSRRByReveal _ _ tokenId _ => some tokenId
  | .createSRR _ artistAddress metadataCID _ _ _ _ => some (generate evm metadataCID artistAddress)
  | .createSRRFromBulk _ artistAddress metadataCID _ _ _ _ _ =>
      some (generate evm metadataCID artistAddress)
  | _ => none

theorem Birth.entered_locks (birth : Birth) (before : Ledger Uint256 Address Uint256) :
    (birth.entered before).locked = (if birth.lockExternalTransfer = true then
        before.setLock birth.tokenId true else before).locked ∧
      (birth.entered before).settings = (if birth.lockExternalTransfer = true then
        before.setLock birth.tokenId true else before).settings := by
  unfold Birth.entered Birth.minted
  split
  · exact ⟨rfl, rfl⟩
  · exact ⟨rfl, rfl⟩

theorem Birth.entered_approved (birth : Birth) (before : Ledger Uint256 Address Uint256)
    (tokenId : Uint256) : (birth.entered before).approved tokenId = before.approved tokenId ∨
      (birth.entered before).approved tokenId = 0 := by
  have minted : (birth.minted before).approved = before.approved := by
    unfold Birth.minted
    split
    · rfl
    · rfl
  unfold Birth.entered
  split
  · by_cases same : tokenId = birth.tokenId
    · exact Or.inr (by simp [Ledger.pass, same])
    · exact Or.inl (by simp [Ledger.pass, same, minted])
  · exact Or.inl (by rw [minted])

theorem Posting.heeded {call : Call} {entered : Accounts}
    (posting : Posting evm world msg state call entered) (heeded : (ledger state).Heeded) :
    entered.ledger.Heeded := by
  cases posting with
  | @create _ birth _ _ _ =>
      obtain ⟨locked, settings⟩ := birth.entered_locks (ledger state)
      unfold Ledger.Heeded
      simp only [locked, settings]
      split
      · exact heeded.setLock birth.tokenId true
      · exact heeded
  | setLock _ => exact heeded.setLock _ _
  | _ => exact heeded

theorem reach_heeded {origin : State} {config : Config Revert State Query Reply Transaction}
    (fresh : origin.logs = []) (reach : Reach (entry evm) (fun _ _ => True) origin config) :
    (ledger config.now.state).Heeded := by
  have unset : (ledger origin).settings = [] := by simp [ledger, fresh]
  refine reach.invariant (fun state => (ledger state).Heeded) ?_ ?_
  · intro tokenId since
    rw [unset] at since
    exact since.elim
  · intro transaction state _ heeded
    exact (entry_trailing evm transaction state).keeps fun state' ran =>
      (entry_accepted ran).posting.heeded heeded

theorem external_aside {call : Call} (aside : call.aside = true) : call.external = none := by
  cases call <;> first | rfl | cases aside

theorem Accepted.unlocked {call : Call} {tokenId : Uint256}
    (accepted : Accepted evm world msg state call state')
    (external : call.external = some tokenId) : (ledger state).locked tokenId = false := by
  cases accepted with
  | transferFrom moved =>
      cases external
      exact (transferFrom_accepted moved).1
  | safeTransferFrom moved =>
      cases external
      exact (transferFrom_accepted moved).1
  | approve unlocked _ =>
      cases external
      exact requireCustom_eq_ok.mp unlocked
  | aside aside _ => cases (external_aside aside).symm.trans external
  | _ => cases external

theorem Hands.conveys {call : Call} {tokenId : Uint256} {to_ : Address}
    (hands : Hands world msg state tokenId to_ call) (external : call.external ≠ some tokenId) :
    call.conveys evm = some tokenId := by
  cases hands with
  | transferFrom _ _ _ => exact absurd rfl external
  | safeTransferFrom _ _ _ _ => exact absurd rfl external
  | transferFromWithProvenance _ _ _ _ _ => rfl
  | transferFromWithProvenanceFromBulk _ _ _ _ _ _ _ => rfl

theorem Creates.conveys {call : Call} {birth : Birth}
    (creates : Creates evm world msg state birth call) :
    call.conveys evm = some birth.tokenId := by
  cases creates with
  | createSRR _ _ generated => exact congrArg some generated.symm
  | createSRRFromBulk _ _ generated => exact congrArg some generated.symm

theorem Posting.confined {call : Call} {entered : Accounts} {tokenId : Uint256}
    (posting : Posting evm world msg state call entered)
    (since : Ledger.LockedSince tokenId (ledger state).settings)
    (external : call.external ≠ some tokenId) :
    (ledger state).Confined 0 tokenId (call.conveys evm = some tokenId)
      (call = .setLockExternalTransfer tokenId false) entered.ledger := by
  cases posting with
  | quiet _ => exact ⟨Or.inl rfl, fun changed => absurd rfl changed, Or.inl since⟩
  | @create _ birth creates _ _ =>
      refine ⟨birth.entered_approved _ tokenId, ?_, Or.inl ?_⟩
      · intro changed
        have same : tokenId = birth.tokenId := by
          by_contra different
          exact changed (birth.entered_other _ different)
        rw [same]
        exact creates.conveys
      · simp only [(birth.entered_locks (ledger state)).2]
        split
        · by_cases same : birth.tokenId = tokenId
          · simp [Ledger.setLock, Ledger.LockedSince, same]
          · simpa [Ledger.setLock, Ledger.LockedSince, same] using since
        · exact since
  | hand hands =>
      refine .pass since ?_
      rintro rfl
      exact hands.conveys external
  | reveal _ _ =>
      refine .pass since ?_
      rintro rfl
      rfl
  | @approve spender token _ =>
      have other : tokenId ≠ token := by
        rintro rfl
        exact external rfl
      exact ⟨Or.inl (Function.update_of_ne other _ _), fun changed => absurd rfl changed,
        Or.inl since⟩
  | allow => exact ⟨Or.inl rfl, fun changed => absurd rfl changed, Or.inl since⟩
  | setLock _ =>
      refine .setLock since ?_
      intro same
      cases same
      rfl

theorem Birth.entered_lockedSince (birth : Birth) (before : Ledger Uint256 Address Uint256)
    (locks : birth.lockExternalTransfer = true) :
    Ledger.LockedSince birth.tokenId (birth.entered before).settings := by
  rw [(birth.entered_locks before).2, if_pos locks]
  simp [Ledger.setLock, Ledger.LockedSince]

theorem Call.locks_posts {call : Call} {tokenId : Uint256} (locks : call.locks evm = some tokenId) :
    call.posts = true := by
  cases call with
  | setLockExternalTransfer token flag => rfl
  | createSRR isPrimaryIssuer artistAddress metadataCID lockExternalTransfer to_ royaltyReceiver
      royaltyBasisPoints => rfl
  | createSRRFromBulk isPrimaryIssuer artistAddress metadataCID issuerAddress lockExternalTransfer
      to_ royaltyReceiver royaltyBasisPoints => rfl
  | _ => cases locks

theorem Creates.locks {call : Call} {birth : Birth} {tokenId : Uint256}
    (creates : Creates evm world msg state birth call) (locks : call.locks evm = some tokenId) :
    birth.lockExternalTransfer = true ∧ birth.tokenId = tokenId := by
  cases creates with
  | createSRR _ _ generated =>
      cases flag : birth.lockExternalTransfer with
      | false =>
          rw [flag] at locks
          cases locks
      | true =>
          rw [flag] at locks
          exact ⟨rfl, generated.trans (Option.some.inj locks)⟩
  | createSRRFromBulk _ _ generated =>
      cases flag : birth.lockExternalTransfer with
      | false =>
          rw [flag] at locks
          cases locks
      | true =>
          rw [flag] at locks
          exact ⟨rfl, generated.trans (Option.some.inj locks)⟩

/-- The calls that lock a token leave it locked. -/
theorem Posting.lockedSince {call : Call} {entered : Accounts} {tokenId : Uint256}
    (posting : Posting evm world msg state call entered) (locks : call.locks evm = some tokenId) :
    Ledger.LockedSince tokenId entered.ledger.settings := by
  cases posting with
  | quiet silent => exact absurd (Call.locks_posts locks) (by simp [silent])
  | @create _ birth creates _ _ =>
      obtain ⟨flag, rfl⟩ := creates.locks locks
      exact birth.entered_lockedSince _ flag
  | hand hands => cases hands <;> cases locks
  | reveal _ _ => cases locks
  | approve _ => cases locks
  | allow => cases locks
  | @setLock token flag _ =>
      cases flag with
      | false => cases locks
      | true =>
          cases locks
          simp [Ledger.setLock, Ledger.LockedSince]

end Collection

theorem locked_tokens (deployment : Registry.Deployment) (evm : Evm) :
    (∀ origin config, origin.logs = [] →
      Reach (Registry.entry deployment) (fun _ _ => True) origin config →
      ∀ transaction tokenId, (Registry.entry deployment transaction config.now.state).Trailing ∧
        (∀ state', (Registry.entry deployment transaction config.now.state).front = some state' →
          Registry.ComesTo deployment transaction config.now.state
            (fun call => call.locks deployment = some tokenId) →
          Ledger.LockedSince tokenId (Registry.ledger state').settings) ∧
        (Ledger.LockedSince tokenId (Registry.ledger config.now.state).settings →
          (Registry.ComesTo deployment transaction config.now.state
              (fun call => call.external = some tokenId) →
            ∃ reason, Registry.entry deployment transaction config.now.state = .revert reason) ∧
          ∀ state', (Registry.entry deployment transaction config.now.state).front = some state' →
            (Registry.ledger config.now.state).Confined 0 tokenId
              (Registry.ComesTo deployment transaction config.now.state
                fun call => call.conveys deployment = some tokenId)
              (Registry.ComesTo deployment transaction config.now.state
                fun call => call = .setLockExternalTransfer tokenId false)
              (Registry.ledger state'))) ∧
    ∀ origin config, origin.logs = [] →
      Reach (Collection.entry evm) (fun _ _ => True) origin config →
      ∀ transaction tokenId, (Collection.entry evm transaction config.now.state).Trailing ∧
        (∀ state', (Collection.entry evm transaction config.now.state).front = some state' →
          transaction.call.locks evm = some tokenId →
          Ledger.LockedSince tokenId (Collection.ledger state').settings) ∧
        (Ledger.LockedSince tokenId (Collection.ledger config.now.state).settings →
          (transaction.call.external = some tokenId →
            ∃ reason, Collection.entry evm transaction config.now.state = .revert reason) ∧
          ∀ state', (Collection.entry evm transaction config.now.state).front = some state' →
            (Collection.ledger config.now.state).Confined 0 tokenId
              (transaction.call.conveys evm = some tokenId)
              (transaction.call = .setLockExternalTransfer tokenId false)
              (Collection.ledger state')) := by
  constructor
  · intro origin config fresh reach transaction tokenId
    have guarded := Registry.reach_guarded fresh reach
    refine ⟨Registry.perform_trailing _ _ _ _, ?_, ?_⟩
    · rintro state' ran ⟨middle, msg, call, runs, locks⟩
      exact Registry.perform_locks ran runs locks
    · intro since
      constructor
      · rintro ⟨middle, msg, call, runs, external⟩
        apply Outcome.reverts_of_front
        intro state' ran
        have unlocked := Registry.perform_unlocked ran runs external
        rw [guarded.heeded tokenId since] at unlocked
        cases unlocked
      · intro state' ran
        obtain ⟨middle, msg, call, runs, posting⟩ := Registry.perform_posting ran
        have external : call.external ≠ some tokenId := by
          intro external
          have unlocked := Registry.perform_unlocked ran runs external
          rw [guarded.heeded tokenId since] at unlocked
          cases unlocked
        rw [← runs.ledger] at guarded since ⊢
        obtain ⟨approved, owner, lasts⟩ := posting.confined guarded since external
        exact ⟨approved, fun changed => ⟨middle, msg, call, runs, owner changed⟩,
          lasts.imp id fun unlocks => ⟨middle, msg, call, runs, unlocks⟩⟩
  · intro origin config fresh reach transaction tokenId
    have heeded := Collection.reach_heeded fresh reach
    have refused : Ledger.LockedSince tokenId (Collection.ledger config.now.state).settings →
        ∀ state', (Collection.entry evm transaction config.now.state).front = some state' →
          transaction.call.external ≠ some tokenId := by
      intro since state' ran external
      have unlocked := (Collection.entry_accepted ran).unlocked external
      rw [heeded tokenId since] at unlocked
      cases unlocked
    refine ⟨Collection.entry_trailing evm transaction _, ?_, ?_⟩
    · intro state' ran locks
      exact (Collection.entry_accepted ran).posting.lockedSince locks
    · intro since
      constructor
      · intro external
        apply Outcome.reverts_of_front
        intro state' ran
        exact refused since state' ran external
      · intro state' ran
        exact (Collection.entry_accepted ran).posting.confined since (refused since state' ran)

section Samples

def Registry.lockedRun :=
  (Config.start Registry.State.blank).enter (Registry.entry Registry.sampleDeployment)
    (Registry.sampleCall 0xb17c (.createSRRFromBulk true 0xa271 (ascii "Qm") 0xa11ce true 0 0 0))

def Collection.lockedRun : Config Revert Collection.State Collection.Query Reply
    Collection.Transaction :=
  let enter := Config.enter (Collection.entry Collection.sampleEvm)
  enter (Collection.sampleCall 0xb17c
      (.createSRRFromBulk true 0xa271 (ascii "Qm") 0xa11ce true 0 0 0))
    (enter (Collection.sampleCall 0xfac (.initializeOwnableFeature 0xa11ce))
      (.start Collection.State.blank))

set_option maxRecDepth 8000 in
theorem lockedRun_refused :
    (∃ reason, Registry.entry Registry.sampleDeployment Registry.sellSample
      Registry.lockedRun.now.state = .revert reason) ∧
    ∃ reason, Collection.entry Collection.sampleEvm Collection.sellSample
      Collection.lockedRun.now.state = .revert reason := by
  obtain ⟨registry, collection⟩ := locked_tokens Registry.sampleDeployment Collection.sampleEvm
  constructor
  · have reach : Reach (Registry.entry Registry.sampleDeployment) (fun _ _ => True)
        Registry.State.blank Registry.lockedRun := .enter _ .start trivial
    have settings : (Registry.ledger Registry.lockedRun.now.state).settings =
        [(Registry.recordId, true)] := by decide
    obtain ⟨_, _, confined⟩ := registry _ _ rfl reach Registry.sellSample Registry.recordId
    rw [settings] at confined
    exact (confined (by simp [Ledger.LockedSince])).1 ⟨_, _, _, .direct _ _ _, rfl⟩
  · have reach : Reach (Collection.entry Collection.sampleEvm) (fun _ _ => True)
        Collection.State.blank Collection.lockedRun := .enter _ (.enter _ .start trivial) trivial
    have settings : (Collection.ledger Collection.lockedRun.now.state).settings =
        [(Collection.recordId, true)] := by decide
    obtain ⟨_, _, confined⟩ := collection _ _ rfl reach Collection.sellSample Collection.recordId
    rw [settings] at confined
    exact (confined (by simp [Ledger.LockedSince])).1 rfl

end Samples

end Startrail
