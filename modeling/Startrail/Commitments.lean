import Startrail.Registry.Ownership
import Startrail.Collection.Tokens

/-!
How long a transfer commitment lasts. Of the calls that give a token another owner
only `transferSRRByReveal` clears the commitment; after any other the former owner's
commitment still opens the token. In runs that hand over no token with a stored
commitment, every commitment was approved by or for the present owner.
-/

namespace Startrail

namespace Registry

variable {deployment : Deployment} {world : World} {msg : Msg} {state state' : State}

/-- A call that hands the token over in the end, inside any meta transactions. -/
def HandsOver (deployment : Deployment) (transaction : Transaction) (state : State)
    (tokenId : Uint256) (to_ : Address) : Prop :=
  ∃ middle msg call, Runs deployment state transaction.msg transaction.call middle msg call ∧
    call.handover = some (tokenId, to_)

/-- A call that reveals the committed value in the end. -/
def Opens (deployment : Deployment) (transaction : Transaction) (state : State)
    (tokenId : Uint256) (commitment : Bytes32) : Prop :=
  ∃ middle msg to_ reveal isIntermediary,
    Runs deployment state transaction.msg transaction.call middle msg
      (.transferSRRByReveal to_ reveal tokenId isIntermediary) ∧
    commitment = deployment.evm.keccak256 (packWord reveal)

def keeper (deployment : Deployment) :
    Keeper Revert State Query Reply Transaction Uint256 Address Approval Bytes32 where
  scheme := tokenScheme
  book := book
  entry := entry deployment
  HandsOver := HandsOver deployment
  Opens := Opens deployment

theorem keeper_lawful (deployment : Deployment) : (keeper deployment).Lawful := by
  constructor
  · exact fun transaction => perform_trailing _ _ _
  · intro transaction state state' ran
    obtain ⟨middle, msg, call, change, runs, warrant, step⟩ := perform_hasEffect ran
    refine ⟨change, step, ?_⟩
    rintro tokenId to_ rfl
    exact ⟨middle, msg, call, runs, warrant.2.handover⟩
  · rintro transaction state state' tokenId to_ ran ⟨middle, msg, call, runs, handover⟩
    have direct : ∀ userAddress callData sigR sigS sigV,
        call ≠ .executeMetaTransaction userAddress callData sigR sigS sigV := by
      rintro _ _ _ _ _ rfl
      cases handover
    have step := ((runs.accepted ran direct).hands handover).2
    rwa [runs.context.1] at step
  · rintro transaction state state' tokenId commitment ran
      ⟨middle, msg, to_, reveal, isIntermediary, runs, rfl⟩
    obtain ⟨opened, _⟩ := transferSRRByReveal_effect (runs.accepted ran (by simp)).revealed
    have records : commitmentOf middle = commitmentOf state :=
      congrArg Book.record runs.context.1
    rwa [records] at opened

end Registry

namespace Collection

/-- A call that reveals the committed value. -/
def Opens (evm : Evm) (transaction : Transaction) (_ : State) (tokenId : Uint256)
    (commitment : Bytes32) : Prop :=
  ∃ to_ reveal isIntermediary,
    transaction.call = .transferSRRByReveal to_ reveal tokenId isIntermediary ∧
    commitment = evm.keccak256 (packWord reveal)

def keeper (evm : Evm) :
    Keeper Revert State Query Reply Transaction Uint256 Address Approval Bytes32 where
  scheme := tokenScheme
  book := book
  entry := entry evm
  HandsOver transaction _ tokenId to_ := transaction.call.handover = some (tokenId, to_)
  Opens := Opens evm

theorem keeper_lawful (evm : Evm) : (keeper evm).Lawful := by
  constructor
  · exact entry_trailing evm
  · intro transaction state state' ran
    obtain ⟨change, effect⟩ := (entry_accepted ran).effect
    refine ⟨change, effect.step, ?_⟩
    rintro tokenId to_ rfl
    exact effect.warrant.1
  · intro transaction state state' tokenId to_ ran handover
    exact ((entry_accepted ran).hands handover).step
  · rintro ⟨world, msg, call⟩ state state' tokenId commitment ran
      ⟨to_, reveal, isIntermediary, revealed, rfl⟩
    cases revealed
    obtain ⟨⟨_, _, revealed, opened⟩, _, _⟩ := transferSRRByReveal_effect (Outcome.front_lift ran)
    cases revealed
    exact opened

end Collection

theorem commitments_current (deployment : Registry.Deployment) (evm : Evm) :
    (∀ origin config, (∀ tokenId, Registry.commitmentOf origin tokenId = Approval.none) →
      Reach (Registry.entry deployment) (Registry.keeper deployment).Clears origin config →
        (Registry.keeper deployment).Current config.now.state) ∧
    ∀ origin config, (∀ tokenId, origin.approvals tokenId = Approval.none) →
      Reach (Collection.entry evm) (Collection.keeper evm).Clears origin config →
        (Collection.keeper evm).Current config.now.state := by
  constructor
  · intro origin config unrecorded reach
    exact (Registry.keeper_lawful deployment).current (.unrecorded unrecorded) reach
  · intro origin config unrecorded reach
    exact (Collection.keeper_lawful evm).current (.unrecorded unrecorded) reach

section Samples

namespace Registry

def createSample : Transaction :=
  sampleCall 0xb17c (.createSRRFromBulk true 0xa271 (ascii "Qm") 0xa11ce false 0 0 0)

def approveSample : Transaction :=
  sampleCall 0xa11ce (.approveSRRByCommitment recordId secretHash [])

-- A record of 0xa11ce, who approved its transfer to whoever knows the secret.
def approvedRun : Config Revert State Query Reply Transaction :=
  let enter := Config.enter (entry sampleDeployment)
  enter approveSample (enter createSample (.start State.blank))

def revealSample : Transaction :=
  sampleCall 0xe0a (.transferSRRByReveal 0xb0b secret recordId false)

def sellSample : Transaction := sampleCall 0xa11ce (.transferFrom 0xa11ce 0xb0b recordId)

theorem sampleCall_clears (sender : Address) (call : Call) (state : State)
    (kept : call.handover = none) (direct : ∀ userAddress callData sigR sigS sigV,
      call ≠ .executeMetaTransaction userAddress callData sigR sigS sigV) :
    (keeper sampleDeployment).Clears (sampleCall sender call) state := by
  rintro tokenId to_ ⟨middle, msg, inner, runs, handover⟩
  change Runs _ _ _ call _ _ _ at runs
  cases runs with
  | direct =>
      rw [kept] at handover
      cases handover
  | wrapped => exact absurd rfl (direct _ _ _ _ _)

theorem approvedRun_reach {Legal : Transaction → State → Prop}
    (created : ∀ state, Legal createSample state) (approved : ∀ state, Legal approveSample state) :
    Reach (entry sampleDeployment) Legal State.blank approvedRun :=
  .enter approveSample (.enter createSample .start (created _)) (approved _)

set_option maxRecDepth 8000 in
theorem revealSample_moves : ∃ state', ((keeper sampleDeployment).entry revealSample
    approvedRun.now.state).front = some state' ∧ state'._tokenOwner recordId = 0xb0b := by
  apply Option.map_eq_some_iff.mp
  decide

end Registry

namespace Collection

def approveSample : Transaction :=
  sampleCall 0xa11ce (.approveSRRByCommitment recordId secretHash [] 0)

def approvedRun : Config Revert State Query Reply Transaction :=
  createdRun.enter (entry sampleEvm) approveSample

def revealSample : Transaction :=
  sampleCall 0xe0a (.transferSRRByReveal 0xb0b secret recordId false)

def sellSample : Transaction := sampleCall 0xa11ce (.transferFrom 0xa11ce 0xb0b recordId)

theorem sampleCall_clears (sender : Address) (call : Call) (state : State)
    (kept : call.handover = none) : (keeper sampleEvm).Clears (sampleCall sender call) state := by
  intro tokenId to_ handover
  change call.handover = _ at handover
  rw [kept] at handover
  cases handover

theorem approvedRun_reach {Legal : Transaction → State → Prop}
    (legal : ∀ sender call, Call.handover call = none →
      ∀ state, Legal (sampleCall sender call) state) :
    Reach (entry sampleEvm) Legal State.blank approvedRun := by
  have created := createdRun_reach fun sender call kept _ => legal sender call kept
  exact .enter approveSample created (legal _ _ rfl _)

set_option maxRecDepth 8000 in
theorem revealSample_moves : ∃ state', ((keeper sampleEvm).entry revealSample
    approvedRun.now.state).front = some state' ∧ state'.erc721.ownerOf recordId = 0xb0b := by
  apply Option.map_eq_some_iff.mp
  decide

end Collection

set_option maxRecDepth 8000 in
theorem approvedRun_revealed :
    (∃ state', (Registry.entry Registry.sampleDeployment Registry.revealSample
        Registry.approvedRun.now.state).front = some state' ∧
      Registry.commitmentOf state' Registry.recordId = Approval.none ∧
      ApprovedSince Registry.recordId Registry.secretHash
        (Registry.book Registry.approvedRun.now.state).marks) ∧
    ∃ state', (Collection.entry Collection.sampleEvm Collection.revealSample
        Collection.approvedRun.now.state).front = some state' ∧
      state'.approvals Collection.recordId = Approval.none ∧
      ApprovedSince Collection.recordId Collection.secretHash
        (Collection.book Collection.approvedRun.now.state).marks := by
  obtain ⟨registry, collection⟩ :=
    commitments_current Registry.sampleDeployment Collection.sampleEvm
  constructor
  · have current := registry _ _ (fun _ => rfl) (Registry.approvedRun_reach
      (fun state => Registry.sampleCall_clears _ _ state rfl (by simp))
      fun state => Registry.sampleCall_clears _ _ state rfl (by simp))
    obtain ⟨state', ran, owner⟩ := Registry.revealSample_moves
    have cleared := (current.cleared _ state' ran).mpr
      (Registry.sampleCall_clears _ _ _ rfl (by simp)) Registry.recordId
    refine ⟨state', ran, cleared ?_, ?_⟩
    · change state'._tokenOwner Registry.recordId ≠ _
      rw [owner]
      decide
    · exact current.opened _ state' _ _ ran ⟨_, _, _, _, _, .direct _ _ _, by decide⟩ (by decide)
  · have current := collection _ _ (fun _ => rfl)
      (Collection.approvedRun_reach fun _ _ kept state =>
        Collection.sampleCall_clears _ _ state kept)
    obtain ⟨state', ran, owner⟩ := Collection.revealSample_moves
    have cleared := (current.cleared _ state' ran).mpr
      (Collection.sampleCall_clears _ _ _ rfl) Collection.recordId
    refine ⟨state', ran, cleared ?_, ?_⟩
    · change state'.erc721.ownerOf Collection.recordId ≠ _
      rw [owner]
      decide
    · exact current.opened _ state' _ _ ran ⟨_, _, _, rfl, by decide⟩ (by decide)

set_option maxRecDepth 8000 in
theorem sellSample_leaves :
    (¬∀ config, Reach (Registry.entry Registry.sampleDeployment)
        (Registry.Legal Registry.sampleDeployment) Registry.State.blank config →
      ∀ transaction state', (Registry.entry Registry.sampleDeployment transaction
        config.now.state).front = some state' →
        ∀ tokenId, state'._tokenOwner tokenId ≠ config.now.state._tokenOwner tokenId →
          Registry.commitmentOf state' tokenId = Approval.none) ∧
    ¬∀ config, Reach (Collection.entry Collection.sampleEvm) (fun _ _ => True)
        Collection.State.blank config →
      ∀ transaction state', (Collection.entry Collection.sampleEvm transaction
        config.now.state).front = some state' →
        ∀ tokenId, state'.erc721.ownerOf tokenId ≠ config.now.state.erc721.ownerOf tokenId →
          state'.approvals tokenId = Approval.none := by
  constructor
  · intro forgets
    have reach : Reach _ (Registry.Legal Registry.sampleDeployment) _ Registry.approvedRun :=
      Registry.approvedRun_reach (fun _ => by unfold Registry.Legal; decide)
        fun _ => by unfold Registry.Legal; decide
    have sold : ((Registry.entry Registry.sampleDeployment Registry.sellSample
        Registry.approvedRun.now.state).front.map fun state =>
          (state._tokenOwner Registry.recordId,
            (Registry.commitmentOf state Registry.recordId).commitment)) =
        some (0xb0b, Registry.secretHash) := by decide
    obtain ⟨state', ran, left⟩ := Option.map_eq_some_iff.mp sold
    obtain ⟨owner, commitment⟩ := Prod.mk.inj left
    have cleared := forgets _ reach _ state' ran Registry.recordId (by rw [owner]; decide)
    rw [cleared] at commitment
    exact absurd commitment (by decide)
  · intro forgets
    have reach : Reach _ (fun _ _ => True) _ Collection.approvedRun :=
      Collection.approvedRun_reach fun _ _ _ _ => trivial
    have sold : ((Collection.entry Collection.sampleEvm Collection.sellSample
        Collection.approvedRun.now.state).front.map fun state =>
          (state.erc721.ownerOf Collection.recordId,
            (state.approvals Collection.recordId).commitment)) =
        some (0xb0b, Collection.secretHash) := by decide
    obtain ⟨state', ran, left⟩ := Option.map_eq_some_iff.mp sold
    obtain ⟨owner, commitment⟩ := Prod.mk.inj left
    have cleared := forgets _ reach _ state' ran Collection.recordId (by rw [owner]; decide)
    rw [cleared] at commitment
    exact absurd commitment (by decide)

end Samples

end Startrail
