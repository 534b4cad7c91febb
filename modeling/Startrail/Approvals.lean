import Startrail.Commitments

/-!
What a new approval leaves of the one before. Both contracts keep the parts of an approval in
separate slots and write the custom history only if one is given, so that without one the
history of the former approval stays, although that approval is reported as cancelled.
-/

namespace Startrail

/-- What an event says of a custom history, which 0 stands for the lack of. -/
def historyOf (customHistoryId : Uint256) : Option Uint256 :=
  if customHistoryId ≠ 0 then some customHistoryId else none

theorem historyOf_inj {left right : Uint256} : historyOf left = historyOf right ↔ left = right := by
  unfold historyOf
  constructor
  · intro same
    split at same
    · split at same
      · exact Option.some.inj same
      · cases same
    · rename_i absent
      split at same
      · cases same
      · rename_i absent'
        exact (not_not.mp absent).trans (not_not.mp absent').symm
  · rintro rfl
    rfl

/-- What is stored after an approval over a stored custom history. -/
def Approval.over (approval : Approval) (stored : Uint256) : Approval :=
  { approval with
    customHistoryId := if approval.customHistoryId = 0 then stored else approval.customHistoryId }

theorem Approval.over_absent {approval : Approval} (absent : approval.customHistoryId = 0)
    (stored : Uint256) : approval.over stored = { approval with customHistoryId := stored } := by
  unfold Approval.over
  rw [if_pos absent]

theorem Approval.over_given {approval : Approval} (given : approval.customHistoryId ≠ 0)
    (stored : Uint256) : approval.over stored = approval := by
  unfold Approval.over
  rw [if_neg given]

/-- The approval gives a custom history, or there is none to be left over. -/
def Overwrites (approval : Approval) (stored : Uint256) : Prop :=
  approval.customHistoryId ≠ 0 ∨ stored = 0

theorem over_history_iff (approval : Approval) (stored : Uint256) :
    (approval.over stored).customHistoryId = approval.customHistoryId ↔
      Overwrites approval stored := by
  by_cases absent : approval.customHistoryId = 0
  · rw [Approval.over_absent absent, absent]
    exact ⟨Or.inr, fun overwrites => overwrites.resolve_left fun given => given absent⟩
  · rw [Approval.over_given absent]
    exact ⟨fun _ => Or.inl absent, fun _ => rfl⟩

theorem over_eq_iff (approval : Approval) (stored : Uint256) :
    approval.over stored = approval ↔ Overwrites approval stored := by
  rw [← over_history_iff]
  constructor
  · exact congrArg Approval.customHistoryId
  · intro same
    obtain ⟨commitment, historyMetadataHash, customHistoryId⟩ := approval
    exact congrArg (Approval.mk commitment historyMetadataHash) same

namespace Registry

/-- The token and the parts of an approval that a call gives. -/
def Call.approval : Call → Option (Uint256 × Approval)
  | .approveSRRByCommitment tokenId commitment historyMetadataHash =>
      some (tokenId, ⟨commitment, historyMetadataHash, _NO_CUSTOM_HISTORY⟩)
  | .approveSRRByCommitmentWithHistory tokenId commitment historyMetadataHash customHistoryId =>
      some (tokenId, ⟨commitment, historyMetadataHash, customHistoryId⟩)
  | .approveSRRByCommitmentFromBulk _ tokenId commitment historyMetadataHash customHistoryId =>
      some (tokenId, ⟨commitment, historyMetadataHash, customHistoryId⟩)
  | _ => none

def Call.reveals (tokenId : Uint256) (call : Call) : Prop :=
  ∃ to_ reveal isIntermediary, call = .transferSRRByReveal to_ reveal tokenId isIntermediary

def provenance : Event → Option (Uint256 × Option Uint256 × Bytes)
  | .Provenance tokenId _ _ customHistoryId historyMetadataHash _ _ =>
      some (tokenId, customHistoryId, historyMetadataHash)
  | _ => none

variable {deployment : Deployment} {world : World} {msg : Msg} {state state' : State}

theorem approve_commitment {tokenId customHistoryId : Uint256} {commitment : Bytes32}
    {historyMetadataHash : Bytes}
    (approved : _approveSRRByCommitment state tokenId commitment historyMetadataHash
      customHistoryId = .ok state') :
    getSRRCommitment state' tokenId =
      .ok (Approval.over ⟨commitment, historyMetadataHash, customHistoryId⟩
        (commitmentOf state tokenId).customHistoryId) := by
  have prior : (cancelPriorApproval state tokenId)._uintStorage = state._uintStorage := by
    unfold cancelPriorApproval
    split
    · rfl
    · rfl
  obtain ⟨owned, _, rfl, stores⟩ := approveSRRByCommitment_accepted approved
  have exists_ : _exists state tokenId = true := exists_iff.mpr owned
  have stored : ∀ (last : State) (history : Uint256),
      last._tokenOwner = state._tokenOwner →
      commitmentOf last tokenId = ⟨commitment, historyMetadataHash, history⟩ →
      getSRRCommitment last tokenId = .ok ⟨commitment, historyMetadataHash, history⟩ := by
    intro last history owners recorded
    simp only [getSRRCommitment, tokenExists, bind_eq_ok, require_eq_ok, pure_eq_ok, recorded,
      and_true, exists_const]
    unfold _exists at exists_ ⊢
    rwa [owners]
  rcases stores with ⟨absent, rfl⟩ | ⟨given, rfl⟩
  · rw [Approval.over_absent absent]
    refine stored _ _ cancelPriorApproval_owners ?_
    simp [commitmentOf, storeCommitment, State.emit, Storage.set_apply, prior]
  · rw [Approval.over_given given]
    refine stored _ _ cancelPriorApproval_owners ?_
    simp [commitmentOf, storeCommitment, storeCustomHistory, State.emit, Storage.set_apply]

theorem getSRRCommitment_commitmentOf {tokenId : Uint256} {approval : Approval}
    (answered : getSRRCommitment state tokenId = .ok approval) :
    commitmentOf state tokenId = approval := by
  simp only [getSRRCommitment, bind_eq_ok, pure_eq_ok] at answered
  obtain ⟨_, _, same⟩ := answered
  exact same

theorem approval_aside {call : Call} (aside : call.aside = true) : call.approval = none := by
  cases call <;> first | rfl | cases aside

theorem Accepted.approval {call : Call} {tokenId : Uint256} {approval : Approval}
    (accepted : Accepted deployment world msg state call state')
    (approves : call.approval = some (tokenId, approval)) :
    getSRRCommitment state' tokenId =
      .ok (approval.over (commitmentOf state tokenId).customHistoryId) := by
  cases accepted with
  | approveSRRByCommitment _ approved =>
      cases approves
      exact approve_commitment approved
  | approveSRRByCommitmentWithHistory _ _ approved =>
      cases approves
      exact approve_commitment approved
  | approveSRRByCommitmentFromBulk _ _ approved =>
      cases approves
      exact approve_commitment approved
  | aside aside _ => cases (approval_aside aside).symm.trans approves
  | _ => cases approves

theorem reveal_provenance {to_ : Address} {reveal : Bytes32} {tokenId : Uint256}
    {isIntermediary : Bool}
    (revealed : transferSRRByReveal deployment state to_ reveal tokenId isIntermediary =
      .ok state') :
    state'.logs.findSome? provenance = some (tokenId,
      historyOf (commitmentOf state tokenId).customHistoryId,
      (commitmentOf state tokenId).historyMetadataHash) := by
  obtain ⟨_, _, moved⟩ := transferSRRByReveal_accepted revealed
  obtain ⟨_, _, _, _, _, rfl⟩ := transfer_accepted moved
  rfl

end Registry

namespace Collection

def getSRRCommitment (state : State) (tokenId : Uint256) : Approval := state.approvals tokenId

/-- The token and the parts of an approval that a call gives. -/
def Call.approval : Call → Option (Uint256 × Approval)
  | .approveSRRByCommitment tokenId commitment historyMetadataHash customHistoryId =>
      some (tokenId, ⟨commitment, historyMetadataHash, customHistoryId⟩)
  | .approveSRRByCommitmentFromBulk _ tokenId commitment historyMetadataHash customHistoryId =>
      some (tokenId, ⟨commitment, historyMetadataHash, customHistoryId⟩)
  | _ => none

def Call.reveals (tokenId : Uint256) (call : Call) : Prop :=
  ∃ to_ reveal isIntermediary, call = .transferSRRByReveal to_ reveal tokenId isIntermediary

def provenance : Event → Option (Uint256 × Option Uint256 × Bytes)
  | .Provenance tokenId _ _ customHistoryId historyMetadataHash _ _ _ =>
      some (tokenId, customHistoryId, historyMetadataHash)
  | _ => none

variable {evm : Evm} {world : World} {msg : Msg} {state state' : State}

theorem approve_commitment {tokenId customHistoryId : Uint256} {commitment : Bytes32}
    {historyMetadataHash : Bytes} {signer : Address}
    (approved : approveByCommitment world state tokenId commitment historyMetadataHash
      customHistoryId signer = .ok state') :
    getSRRCommitment state' tokenId =
      Approval.over ⟨commitment, historyMetadataHash, customHistoryId⟩
        (state.approvals tokenId).customHistoryId := by
  have prior : (cancelPriorApproval state tokenId signer).approvals = state.approvals := by
    unfold cancelPriorApproval
    split
    · rfl
    · rfl
  obtain ⟨_, _, rfl, ⟨absent, rfl⟩ | ⟨given, rfl⟩⟩ := approveByCommitment_accepted approved
  · rw [Approval.over_absent absent]
    simp [getSRRCommitment, setApproval, State.emit, prior]
  · rw [Approval.over_given given]
    simp [getSRRCommitment, setApproval, State.emit]

theorem approval_aside {call : Call} (aside : call.aside = true) : call.approval = none := by
  cases call <;> first | rfl | cases aside

theorem Accepted.approval {call : Call} {tokenId : Uint256} {approval : Approval}
    (accepted : Accepted evm world msg state call state')
    (approves : call.approval = some (tokenId, approval)) :
    getSRRCommitment state' tokenId =
      approval.over (getSRRCommitment state tokenId).customHistoryId := by
  cases accepted with
  | approveSRRByCommitment _ approved =>
      cases approves
      exact approve_commitment approved
  | approveSRRByCommitmentFromBulk _ _ approved =>
      cases approves
      exact approve_commitment approved
  | aside aside _ => cases (approval_aside aside).symm.trans approves
  | _ => cases approves

theorem reveal_provenance {to_ : Address} {reveal : Bytes32} {tokenId : Uint256}
    {isIntermediary : Bool}
    (revealed : transferSRRByReveal evm state to_ reveal tokenId isIntermediary = .ok state') :
    state'.logs.findSome? provenance = some (tokenId,
      historyOf (getSRRCommitment state tokenId).customHistoryId,
      (getSRRCommitment state tokenId).historyMetadataHash) := by
  obtain ⟨_, _, rfl⟩ := transferSRRByReveal_accepted revealed
  rfl

end Collection

theorem carried_iff (tokenId stored : Uint256) (approval : Approval) :
    some (tokenId, historyOf (approval.over stored).customHistoryId,
        (approval.over stored).historyMetadataHash) =
      some (tokenId, historyOf approval.customHistoryId, approval.historyMetadataHash) ↔
      Overwrites approval stored := by
  rw [← over_history_iff, ← historyOf_inj]
  constructor
  · intro same
    exact (Prod.mk.inj (Prod.mk.inj (Option.some.inj same)).2).1
  · intro same
    rw [same]
    rfl

theorem approval_replaced (deployment : Registry.Deployment) (evm : Evm) :
    (∀ transaction state state' tokenId approval,
      (Registry.entry deployment transaction state).front = some state' →
      Registry.ComesTo deployment transaction state
        (fun call => call.approval = some (tokenId, approval)) →
      (Registry.getSRRCommitment state' tokenId = .ok approval ↔
        Overwrites approval (Registry.commitmentOf state tokenId).customHistoryId) ∧
      ∀ later revealing later',
        Registry.commitmentOf later tokenId = Registry.commitmentOf state' tokenId →
        (Registry.entry deployment revealing later).front = some later' →
        Registry.ComesTo deployment revealing later (Registry.Call.reveals tokenId) →
        (later'.logs.findSome? Registry.provenance = some (tokenId,
            historyOf approval.customHistoryId, approval.historyMetadataHash) ↔
          Overwrites approval (Registry.commitmentOf state tokenId).customHistoryId)) ∧
    ∀ transaction state state' tokenId approval,
      (Collection.entry evm transaction state).front = some state' →
      transaction.call.approval = some (tokenId, approval) →
      (Collection.getSRRCommitment state' tokenId = approval ↔
        Overwrites approval (Collection.getSRRCommitment state tokenId).customHistoryId) ∧
      ∀ later revealing later',
        Collection.getSRRCommitment later tokenId = Collection.getSRRCommitment state' tokenId →
        (Collection.entry evm revealing later).front = some later' →
        revealing.call.reveals tokenId →
        (later'.logs.findSome? Collection.provenance = some (tokenId,
            historyOf approval.customHistoryId, approval.historyMetadataHash) ↔
          Overwrites approval (Collection.getSRRCommitment state tokenId).customHistoryId) := by
  constructor
  · intro transaction state state' tokenId approval ran approves
    obtain ⟨middle, msg, call, runs, approval_, accepted⟩ := approves.accepted ran nofun
    have records : Registry.commitmentOf middle = Registry.commitmentOf state :=
      congrArg Book.record runs.context.1
    have stored := accepted.approval approval_
    rw [records] at stored
    constructor
    · rw [stored, Except.ok.injEq]
      exact over_eq_iff approval _
    · intro later revealing later' same ran' reveals
      obtain ⟨middle', msg', call', runs', ⟨to_, reveal, isIntermediary, rfl⟩, accepted'⟩ :=
        reveals.accepted ran' (by simp [Registry.Call.reveals])
      have records' : Registry.commitmentOf middle' = Registry.commitmentOf later :=
        congrArg Book.record runs'.context.1
      rw [Registry.reveal_provenance accepted'.revealed, records', same,
        Registry.getSRRCommitment_commitmentOf stored]
      exact carried_iff tokenId _ approval
  · intro transaction state state' tokenId approval ran approves
    have stored := (Collection.entry_accepted ran).approval approves
    constructor
    · rw [stored]
      exact over_eq_iff approval _
    · rintro later ⟨world, msg, call⟩ later' same ran' ⟨to_, reveal, isIntermediary, revealed⟩
      cases revealed
      rw [Collection.reveal_provenance (Collection.entry_accepted ran').revealed, same, stored]
      exact carried_iff tokenId _ approval

section Samples

namespace Registry

-- A record whose transfer is approved with a custom history.
def historyRun : Config Revert State Query Reply Transaction :=
  let enter := Config.enter (entry sampleDeployment)
  let administrator := sampleCall 0xad317
  let created := enter createSample (.start State.blank)
  let written := enter (administrator (.writeCustomHistory (ascii "Show") 1 (.metadataDigest 0)))
    (enter (administrator (.addCustomHistoryType (ascii "exhibition"))) created)
  enter (sampleCall 0xa11ce (.approveSRRByCommitmentWithHistory recordId secretHash [] 1)) written

theorem historyRun_reach : Reach (entry sampleDeployment) (Legal sampleDeployment) State.blank
    historyRun :=
  .enter _ (.enter _ (.enter _ (.enter _ .start (by unfold Legal; decide))
    (by unfold Legal; decide)) (by unfold Legal; decide)) (by unfold Legal; decide)

end Registry

namespace Collection

def historyCall (sender : Address) (call : Call) : Transaction :=
  let transaction := sampleCall sender call
  { transaction with
    world := { transaction.world with
      startrailRegistry := fun _ => ⟨fun id => if id = 1 then ascii "Show" else [], 0⟩ } }

def historyRun : Config Revert State Query Reply Transaction :=
  createdRun.enter (entry sampleEvm)
    (historyCall 0xa11ce (.approveSRRByCommitment recordId secretHash [] 1))

end Collection

set_option maxRecDepth 8000 in
theorem historyRun_replaced :
    ∃ state', (Registry.entry Registry.sampleDeployment (Registry.sampleCall 0xa11ce
        (.approveSRRByCommitmentWithHistory Registry.recordId Registry.secretHash (ascii "Qm") 1))
          Registry.historyRun.now.state).front = some state' ∧
      Registry.getSRRCommitment state' Registry.recordId =
        .ok ⟨Registry.secretHash, ascii "Qm", 1⟩ := by
  obtain ⟨registry, _⟩ := approval_replaced Registry.sampleDeployment Collection.sampleEvm
  have ran : ∃ state', (Registry.entry Registry.sampleDeployment (Registry.sampleCall 0xa11ce
      (.approveSRRByCommitmentWithHistory Registry.recordId Registry.secretHash (ascii "Qm") 1))
        Registry.historyRun.now.state).front = some state' := by
    rw [← Option.isSome_iff_exists]
    decide
  obtain ⟨state', ran⟩ := ran
  exact ⟨state', ran, (registry _ _ state' _ _ ran ⟨_, _, _, .direct _ _ _, rfl⟩).1.mpr
    (Or.inl (by decide))⟩

set_option maxRecDepth 8000 in
theorem historyRun_left :
    (¬∀ config, Reach (Registry.entry Registry.sampleDeployment)
        (Registry.Legal Registry.sampleDeployment) Registry.State.blank config →
      ∀ transaction state', (Registry.entry Registry.sampleDeployment transaction
        config.now.state).front = some state' →
      ∀ tokenId approval, Registry.ComesTo Registry.sampleDeployment transaction config.now.state
        (fun call => call.approval = some (tokenId, approval)) →
      Registry.getSRRCommitment state' tokenId = .ok approval) ∧
    ¬∀ config, Reach (Collection.entry Collection.sampleEvm) Collection.Named
        Collection.State.blank config →
      ∀ transaction state', (Collection.entry Collection.sampleEvm transaction
        config.now.state).front = some state' →
      ∀ tokenId approval, transaction.call.approval = some (tokenId, approval) →
      Collection.getSRRCommitment state' tokenId = approval := by
  constructor
  · intro replaced
    have kept : ((Registry.entry Registry.sampleDeployment Registry.approveSample
        Registry.historyRun.now.state).front.map fun state =>
          (Registry.getSRRCommitment state Registry.recordId).toOption) =
        some (some ⟨Registry.secretHash, [], 1⟩) := by decide
    obtain ⟨state', ran, left⟩ := Option.map_eq_some_iff.mp kept
    rw [replaced _ Registry.historyRun_reach _ state' ran Registry.recordId
      ⟨Registry.secretHash, [], 0⟩ ⟨_, _, _, .direct _ _ _, rfl⟩] at left
    exact absurd left (by decide)
  · intro replaced
    have reach : Reach (Collection.entry Collection.sampleEvm) Collection.Named
        Collection.State.blank Collection.historyRun :=
      .enter _ (.enter _ (.enter _ (.enter _ .start (by decide)) (by decide)) (by decide))
        (by decide)
    have kept : ((Collection.entry Collection.sampleEvm Collection.approveSample
        Collection.historyRun.now.state).front.map fun state =>
          Collection.getSRRCommitment state Collection.recordId) =
        some ⟨Collection.secretHash, [], 1⟩ := by decide
    obtain ⟨state', ran, left⟩ := Option.map_eq_some_iff.mp kept
    rw [replaced _ reach _ state' ran Collection.recordId ⟨Collection.secretHash, [], 0⟩ rfl]
      at left
    exact absurd left (by decide)

end Samples

end Startrail
