import Startrail.Subgraph.Calls

/-!
Whether the subgraph shows the commitments that the contracts have stored. A transfer counts as the
end of a commitment there, though only a reveal clears the contract's; a custom history that was
shown once is never taken back; and a collection's approval with a custom history is shown without
its sender. An empty CID, which only the registry's update of the metadata takes, stops the subgraph
for good. In runs that stay clear of these the subgraph shows what is stored.
-/

namespace Startrail

open Subgraph

namespace Registry

variable {deployment : Deployment} {state state' : State} {transaction : Transaction}
  {tokenId : Uint256}

/-- The call that a transaction comes to gives no record an empty CID, and for this token it is one
that the subgraph follows. -/
def Suits (deployment : Deployment) (transaction : Transaction) (state : State)
    (tokenId : Uint256) : Prop :=
  ∀ middle msg call, Runs deployment state transaction.msg transaction.call middle msg call →
    call.blanks = false ∧
      (Act.on (call.act deployment.evm) tokenId).Fits (commitmentOf state tokenId)
        ((contract deployment.evm deployment.self).notes state tokenId)

/-- The call that a transaction comes to gives no record an empty CID. -/
def Describes (deployment : Deployment) (transaction : Transaction) (state : State) : Prop :=
  ∀ middle msg call, Runs deployment state transaction.msg transaction.call middle msg call →
    call.blanks = false

/-- Nothing has happened yet. -/
structure Untouched (state : State) : Prop where
  owners : ∀ tokenId, state._tokenOwner tokenId = 0
  commitments : ∀ tokenId, commitmentOf state tokenId = Approval.none
  logs : state.logs = []

theorem Untouched.kept (untouched : Untouched state) (evm : Evm) (address : Address) :
    (contract evm address).Kept state := by
  refine ⟨?_, fun tokenId => ?_⟩
  · change (registrySource evm address).Fed state.logs
    rw [untouched.logs]
    trivial
  · change Followed (state._tokenOwner tokenId ≠ 0) (commitmentOf state tokenId)
      ((registrySource evm address).notes tokenId state.logs)
    rw [untouched.logs, untouched.owners, untouched.commitments]
    exact { Followed.blank with known := fun owned => absurd rfl owned }

theorem Runs.does_accepted {world : World} {msg msg' : Msg} {call call' : Call} {middle : State}
    (runs : Runs deployment state msg call middle msg' call')
    (accepted : Accepted deployment world msg' middle call' state')
    (described : call'.blanks = false) (address : Address) :
    (contract deployment.evm address).Does (call'.act deployment.evm) state state' :=
  runs.does.since (accepted.does described)

theorem entry_fed {address : Address}
    (ran : (entry deployment transaction state).front = some state')
    (describes : Describes deployment transaction state) :
    (registrySource deployment.evm address).Fed state.logs →
      (registrySource deployment.evm address).Fed state'.logs := by
  obtain ⟨middle, msg, call, runs, accepted⟩ := perform_accepted ran
  exact (runs.does_accepted accepted (describes _ _ _ runs) address).fed

theorem describes_direct (undispatched : ∀ data, deployment.dispatch data = none)
    (described : transaction.call.blanks = false) : Describes deployment transaction state := by
  intro middle msg call runs
  generalize transaction.msg = sent at runs
  generalize transaction.call = called at runs described
  cases runs with
  | direct => exact described
  | wrapped _ dispatched _ =>
      rw [undispatched] at dispatched
      cases dispatched

theorem entry_kept (ran : (entry deployment transaction state).front = some state')
    (suits : ∀ tokenId, Suits deployment transaction state tokenId)
    (kept : (contract deployment.evm deployment.self).Kept state) :
    (contract deployment.evm deployment.self).Kept state' := by
  obtain ⟨middle, msg, call, runs, accepted⟩ := perform_accepted ran
  have described := (suits 0 _ _ _ runs).1
  exact (runs.does_accepted accepted described _).kept kept fun tokenId =>
    (suits tokenId _ _ _ runs).2

/-- After an empty CID the subgraph shows nothing any more. -/
theorem blanked_hidden {middle : State} {msg : Msg} {call : Call}
    (ran : (entry deployment transaction state).front = some state')
    (runs : Runs deployment state transaction.msg transaction.call middle msg call)
    (blanks : call.blanks = true) (kept : (contract deployment.evm deployment.self).Kept state) :
    ¬(contract deployment.evm deployment.self).Shows state' tokenId := by
  obtain ⟨named, rfl⟩ : ∃ named, call = .updateSRRMetadata named [] := by
    cases call with
    | updateSRRMetadata named metadataCID => exact ⟨named, by rw [beq_iff_eq.mp blanks]⟩
    | _ => cases blanks
  have kept' : (contract deployment.evm deployment.self).Kept middle :=
    runs.does.kept kept fun _ => trivial
  obtain ⟨_, performed⟩ := runs.performed ran
  obtain ⟨_, executed⟩ := perform_execute performed
  cases execute_administered executed rfl with
  | updateSRRMetadata owned _ =>
      intro shows
      have logged : (middle.logs.map (Emitted.mk 0)).map Emitted.event = middle.logs := by
        rw [List.map_map]
        exact List.map_id _
      obtain ⟨store, indexed, _⟩ := shows (fun _ => false)
        (⟨0, .UpdateSRRMetadataCID named []⟩ :: middle.logs.map (Emitted.mk 0))
        (congrArg (List.cons _) logged)
      obtain ⟨before, earlier, handled⟩ := Option.bind_eq_some_iff.mp indexed
      have recorded := DataSource.records_of_view
        ((kept'.followed named).known (exists_iff.mp owned))
      have known := (registrySource_lawful deployment.evm deployment.self).index_known _ earlier
        (by rw [logged]; exact recorded)
      obtain ⟨srr, found⟩ := Option.isSome_iff_exists.mp ((Option.isSome_map ..).symm.trans known)
      exact (handleUpdateSRRMetadataHashInternal_some found).mp ⟨store, handled⟩ rfl

theorem entry_shows (ran : (entry deployment transaction state).front = some state')
    (kept : (contract deployment.evm deployment.self).Kept state)
    (apart : (contract deployment.evm deployment.self).Apart deployment.evm deployment.self state'
      tokenId) :
    (contract deployment.evm deployment.self).Shows state' tokenId ↔
      Suits deployment transaction state tokenId := by
  have lawful := registrySource_lawful deployment.evm deployment.self
  have alone := apart.alone rfl
  constructor
  · intro shows middle msg call runs
    have described : call.blanks = false :=
      Bool.eq_false_iff.mpr fun blanks => blanked_hidden ran runs blanks kept shows
    refine ⟨described, ?_⟩
    by_cases acts : call.act deployment.evm = none
    · rw [acts]
      trivial
    · have accepted := runs.accepted ran (by rintro _ _ _ _ _ rfl; exact acts rfl)
      exact ((runs.does_accepted accepted described _).shows_iff kept lawful alone).mp shows
  · intro suits
    obtain ⟨middle, msg, call, runs, accepted⟩ := perform_accepted ran
    obtain ⟨described, fits⟩ := suits middle msg call runs
    exact ((runs.does_accepted accepted described _).shows_iff kept lawful alone).mpr fits

end Registry

namespace Collection

variable {evm : Evm} {state state' : State} {transaction : Transaction} {address : Address}
  {tokenId : Uint256}

/-- For this token the call is one that the subgraph follows. -/
def Suits (evm : Evm) (address : Address) (transaction : Transaction) (state : State)
    (tokenId : Uint256) : Prop :=
  (Act.on (transaction.call.act evm transaction.world transaction.msg state) tokenId).Fits
    (state.approvals tokenId) ((contract evm address).notes state tokenId)

/-- Nothing has happened yet. -/
structure Untouched (state : State) : Prop where
  owners : ∀ tokenId, state.erc721.ownerOf tokenId = 0
  commitments : ∀ tokenId, state.approvals tokenId = Approval.none
  logs : state.logs = []

theorem Untouched.kept (untouched : Untouched state) (evm : Evm) (address : Address) :
    (contract evm address).Kept state := by
  refine ⟨?_, fun tokenId => ?_⟩
  · change (collectionSource evm address).Fed state.logs
    rw [untouched.logs]
    trivial
  change Followed (state.erc721.ownerOf tokenId ≠ 0) (state.approvals tokenId)
    ((collectionSource evm address).notes tokenId state.logs)
  rw [untouched.logs, untouched.owners, untouched.commitments]
  exact { Followed.blank with known := fun owned => absurd rfl owned }

theorem entry_kept (ran : (entry evm transaction state).front = some state')
    (suits : ∀ tokenId, Suits evm address transaction state tokenId)
    (kept : (contract evm address).Kept state) : (contract evm address).Kept state' :=
  (entry_accepted ran).does.kept kept suits

theorem entry_shows (ran : (entry evm transaction state).front = some state')
    (kept : (contract evm address).Kept state)
    (apart : (contract evm address).Apart evm address state' tokenId) :
    (contract evm address).Shows state' tokenId ↔ Suits evm address transaction state tokenId :=
  (entry_accepted ran).does.shows_iff kept (collectionSource_lawful evm address)
    (apart.alone rfl)

end Collection

theorem commitments_shown (deployment : Registry.Deployment) (evm : Evm) (address : Address) :
    (∀ origin config, Registry.Untouched origin →
      Reach (Registry.entry deployment)
        (fun transaction state => ∀ tokenId, Registry.Suits deployment transaction state tokenId)
        origin config →
      let contract := Registry.contract deployment.evm deployment.self
      (∀ tokenId, contract.Apart deployment.evm deployment.self config.now.state tokenId →
        contract.Shows config.now.state tokenId) ∧
      ∀ transaction state',
        (Registry.entry deployment transaction config.now.state).front = some state' →
        ∀ tokenId, contract.Apart deployment.evm deployment.self state' tokenId →
          (contract.Shows state' tokenId ↔
            Registry.Suits deployment transaction config.now.state tokenId)) ∧
    ∀ origin config, Collection.Untouched origin →
      Reach (Collection.entry evm)
        (fun transaction state => ∀ tokenId, Collection.Suits evm address transaction state tokenId)
        origin config →
      let contract := Collection.contract evm address
      (∀ tokenId, contract.Apart evm address config.now.state tokenId →
        contract.Shows config.now.state tokenId) ∧
      ∀ transaction state',
        (Collection.entry evm transaction config.now.state).front = some state' →
        ∀ tokenId, contract.Apart evm address state' tokenId →
          (contract.Shows state' tokenId ↔
            Collection.Suits evm address transaction config.now.state tokenId) := by
  constructor
  · intro origin config untouched reach
    have kept : (Registry.contract deployment.evm deployment.self).Kept config.now.state := by
      refine reach.invariant (Registry.contract deployment.evm deployment.self).Kept
        (untouched.kept _ _) ?_
      intro transaction state suits kept
      exact (Registry.perform_trailing _ _ _ _).keeps fun state' ran =>
        Registry.entry_kept ran suits kept
    refine ⟨?_, fun transaction state' ran tokenId => Registry.entry_shows ran kept⟩
    intro tokenId apart
    exact kept.shows (registrySource_lawful _ _) (apart.alone rfl)
  · intro origin config untouched reach
    have kept : (Collection.contract evm address).Kept config.now.state := by
      refine reach.invariant (Collection.contract evm address).Kept (untouched.kept _ _) ?_
      intro transaction state suits kept
      exact (Collection.entry_trailing evm transaction state).keeps fun state' ran =>
        Collection.entry_kept ran suits kept
    refine ⟨?_, fun transaction state' ran tokenId => Collection.entry_shows ran kept⟩
    intro tokenId apart
    exact kept.shows (collectionSource_lawful _ _) (apart.alone rfl)

section Samples

namespace Registry

theorem act_describes {call : Call} {evm : Evm} {named : Uint256} {act : Act}
    (acts : call.act evm = some (named, act)) : call.blanks = false := by
  cases call with
  | updateSRRMetadata => cases acts
  | _ => rfl

theorem sampleCall_suits {sender : Address} {call : Call} {state : State} {named : Uint256}
    {act : Act} (acts : call.act sampleEvm = some (named, act))
    (fits : act.Fits (commitmentOf state named)
      ((contract sampleEvm sampleDeployment.self).notes state named)) (tokenId : Uint256) :
    Suits sampleDeployment (sampleCall sender call) state tokenId := by
  intro middle msg inner runs
  change Runs _ _ _ call _ _ _ at runs
  cases runs with
  | direct =>
      refine ⟨act_describes acts, ?_⟩
      rw [show call.act sampleDeployment.evm = _ from acts]
      exact Act.on_fits fits tokenId
  | wrapped => cases acts

theorem approvedRun_suits : Reach (entry sampleDeployment)
    (fun transaction state => ∀ tokenId, Suits sampleDeployment transaction state tokenId)
    State.blank approvedRun := by
  refine .enter approveSample (.enter createSample .start ?_) ?_
  · exact sampleCall_suits rfl fun passedOn => absurd passedOn (by decide)
  · exact sampleCall_suits rfl ⟨by decide, Or.inl rfl⟩

theorem untouched_blank : Untouched State.blank := ⟨fun _ => rfl, fun _ => rfl, rfl⟩

def approvedSaleRun : Config Revert State Query Reply Transaction :=
  approvedRun.enter (entry sampleDeployment) sellSample

end Registry

namespace Collection

theorem sampleCall_suits {sender : Address} {call : Call} {state : State} {address : Address}
    {named : Uint256} {act : Act}
    (acts : call.act sampleEvm (sampleCall sender call).world (sampleCall sender call).msg state =
      some (named, act))
    (fits : act.Fits (state.approvals named) ((contract sampleEvm address).notes state named))
    (tokenId : Uint256) : Suits sampleEvm address (sampleCall sender call) state tokenId := by
  unfold Suits
  rw [show (sampleCall sender call).call.act _ _ _ _ = _ from acts]
  exact Act.on_fits fits tokenId

theorem approvedRun_suits (address : Address) : Reach (entry sampleEvm)
    (fun transaction state => ∀ tokenId, Suits sampleEvm address transaction state tokenId)
    State.blank approvedRun := by
  refine .enter approveSample (.enter createSample (.enter _ (.enter _ .start ?_) ?_) ?_) ?_
  · exact fun _ => trivial
  · exact fun _ => trivial
  · exact sampleCall_suits rfl fun passedOn => absurd passedOn (by decide)
  · exact sampleCall_suits rfl ⟨by decide, Or.inr (Or.inl rfl)⟩

theorem untouched_blank : Untouched State.blank := ⟨fun _ => rfl, fun _ => rfl, rfl⟩

end Collection

set_option maxRecDepth 8000 in
theorem approvedRun_shown :
    (∃ state', (Registry.entry Registry.sampleDeployment Registry.revealSample
        Registry.approvedRun.now.state).front = some state' ∧
      (Registry.contract Registry.sampleEvm Registry.sampleDeployment.self).Shows state'
        Registry.recordId) ∧
    (Collection.contract Collection.sampleEvm 0xc011).Shows Collection.approvedRun.now.state
      Collection.recordId := by
  obtain ⟨registry, collection⟩ :=
    commitments_shown Registry.sampleDeployment Collection.sampleEvm 0xc011
  constructor
  · obtain ⟨_, next⟩ := registry _ _ Registry.untouched_blank Registry.approvedRun_suits
    have apart : ((Registry.entry Registry.sampleDeployment Registry.revealSample
        Registry.approvedRun.now.state).front.map fun state =>
          decide ((Registry.contract Registry.sampleEvm Registry.sampleDeployment.self).Apart
            Registry.sampleEvm Registry.sampleDeployment.self state Registry.recordId)) =
        some true := by decide
    obtain ⟨state', ran, apart⟩ := Option.map_eq_some_iff.mp apart
    exact ⟨state', ran, (next _ state' ran _ (of_decide_eq_true apart)).mpr
      (Registry.sampleCall_suits rfl (by unfold Act.Fits; decide) _)⟩
  · exact (collection _ _ Collection.untouched_blank (Collection.approvedRun_suits _)).1 _
      (by decide)

set_option maxRecDepth 8000 in
theorem approvedSaleRun_hidden :
    (¬∀ config, Reach (Registry.entry Registry.sampleDeployment)
        (Registry.Legal Registry.sampleDeployment) Registry.State.blank config →
      let contract := Registry.contract Registry.sampleEvm Registry.sampleDeployment.self
      ∀ tokenId, contract.Apart Registry.sampleEvm Registry.sampleDeployment.self
          config.now.state tokenId →
        contract.Shows config.now.state tokenId) ∧
    ¬∀ config, Reach (Collection.entry Collection.sampleEvm) Collection.Named
        Collection.State.blank config →
      let contract := Collection.contract Collection.sampleEvm 0xc011
      ∀ tokenId, contract.Apart Collection.sampleEvm 0xc011 config.now.state tokenId →
        contract.Shows config.now.state tokenId := by
  constructor
  · intro shown
    have reach : Reach (Registry.entry Registry.sampleDeployment)
        (Registry.Legal Registry.sampleDeployment) Registry.State.blank Registry.approvedSaleRun :=
      .enter _ (Registry.approvedRun_reach (fun _ => by unfold Registry.Legal; decide)
        fun _ => by unfold Registry.Legal; decide) (by unfold Registry.Legal; decide)
    have apart : (Registry.contract Registry.sampleEvm Registry.sampleDeployment.self).Apart
        Registry.sampleEvm Registry.sampleDeployment.self Registry.approvedSaleRun.now.state
        Registry.recordId := by decide
    have mirrors := (shown _ reach _ apart).mirrors (registrySource_lawful _ _) (apart.alone rfl)
    exact absurd mirrors.transferCommitment (by decide)
  · intro shown
    have reach : Reach (Collection.entry Collection.sampleEvm) Collection.Named
        Collection.State.blank Collection.historyRun :=
      .enter _ (.enter _ (.enter _ (.enter _ .start (by decide)) (by decide)) (by decide))
        (by decide)
    have apart : (Collection.contract Collection.sampleEvm 0xc011).Apart Collection.sampleEvm
        0xc011 Collection.historyRun.now.state Collection.recordId := by decide
    have mirrors := (shown _ reach _ apart).mirrors (collectionSource_lawful _ _) (apart.alone rfl)
    exact absurd mirrors.sender (by decide)

-- A custom history stays behind in the subgraph when its approval is cancelled.
set_option maxRecDepth 8000 in
example :
    let cancelled := (Registry.historyRun.enter (Registry.entry Registry.sampleDeployment)
      (Registry.sampleCall 0xa11ce (.cancelSRRCommitment Registry.recordId))).now.state
    (View.of ((Registry.contract Registry.sampleEvm Registry.sampleDeployment.self).notes cancelled
        Registry.recordId)).customHistory = some 1 ∧
      committedHistory (Registry.commitmentOf cancelled Registry.recordId) = none := by
  decide

end Samples

end Startrail
