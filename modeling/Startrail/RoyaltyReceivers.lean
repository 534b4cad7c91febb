import Startrail.Library.Sweeps
import Startrail.Royalties

/-!
A new receiver for the royalties of many tokens. The registry checks and writes token by token,
a collection checks all of them first; either way the call ends just when every listed token is
admitted, and it does not matter in what order or how often the tokens are listed.
-/

namespace Startrail

variable {royaltyReceiver : Address} {royalty : Royalty} {tokenIds : List Uint256}

section Receivers

def Royalty.received (royaltyReceiver : Address) (royalty : Royalty) : Royalty :=
  if royalty.1 ≠ 0 then (royaltyReceiver, royalty.2) else royalty

theorem Royalty.received_received (royaltyReceiver : Address) (royalty : Royalty) :
    Royalty.received royaltyReceiver (royalty.received royaltyReceiver) =
      royalty.received royaltyReceiver := by
  unfold received
  by_cases had : royalty.1 ≠ 0
  · rw [if_pos had, ite_self]
  · rw [if_neg had, if_neg had]

theorem Royalty.settling (someone : royaltyReceiver ≠ 0) :
    Settling (fun royalty : Royalty => royalty.1 ≠ 0 ∧ royalty.2 ≤ 10000)
      (Royalty.received royaltyReceiver) where
  admits := by
    rintro royalty ⟨had, bounded⟩
    unfold received
    rw [if_pos had]
    exact ⟨someone, bounded⟩
  settles := fun _ => Royalty.received_received _ _

/-- Every listed token that has a royalty has it with this receiver. -/
def replacedReceivers (royaltyReceiver : Address) (tokenIds : List Uint256)
    (royaltyOf : Uint256 → Royalty) (tokenId : Uint256) : Royalty :=
  if tokenId ∈ tokenIds ∧ (royaltyOf tokenId).1 ≠ 0 then
    (royaltyReceiver, (royaltyOf tokenId).2)
  else royaltyOf tokenId

theorem swept_received (royaltyOf : Uint256 → Royalty) :
    swept (Royalty.received royaltyReceiver) tokenIds royaltyOf =
      replacedReceivers royaltyReceiver tokenIds royaltyOf := by
  funext tokenId
  unfold swept replacedReceivers Royalty.received
  by_cases listed : tokenId ∈ tokenIds
  · simp only [listed, if_true, true_and]
  · rw [if_neg listed, if_neg fun both => listed both.1]

/-- Whether a token exists, and its royalty. -/
abbrev Holding := Bool × Royalty

def Holding.received (royaltyReceiver : Address) (holding : Holding) : Holding :=
  (holding.1, holding.2.received royaltyReceiver)

/-- A token that exists and whose royalty, if it has one, can go to the receiver. -/
def Holding.Admits (royaltyReceiver : Address) (holding : Holding) : Prop :=
  holding.1 = true ∧ (holding.2.1 ≠ 0 → royaltyReceiver ≠ 0 ∧ holding.2.2 ≤ 10000)

instance (royaltyReceiver : Address) : DecidablePred (Holding.Admits royaltyReceiver) :=
  fun _ => inferInstanceAs (Decidable (_ ∧ _))

theorem Holding.settling (royaltyReceiver : Address) :
    Settling (Holding.Admits royaltyReceiver) (Holding.received royaltyReceiver) where
  admits := by
    rintro ⟨present, royalty⟩ ⟨here, fits⟩
    refine ⟨here, ?_⟩
    unfold Holding.received Royalty.received
    by_cases had : royalty.1 ≠ 0
    · simp only [if_pos had]
      exact fun _ => fits had
    · simp only [if_neg had]
      exact fun has => absurd has had
  settles := by
    rintro ⟨present, royalty⟩ _
    exact congrArg (Prod.mk present) (Royalty.received_received _ _)

end Receivers

namespace Registry

variable {world : World} {msg : Msg} {state : State} {tokenId : Uint256}

def holding (state : State) (tokenId : Uint256) : Holding :=
  (_exists state tokenId, royaltyOf state tokenId)

def State.received (state : State) (tokenId : Uint256) (royaltyReceiver : Address) : State :=
  { state with
    royalties := Function.update state.royalties tokenId
      ⟨royaltyReceiver, (state.royalties tokenId).basisPoints⟩ }.emit
        (.RoyaltiesSet tokenId ⟨royaltyReceiver, (state.royalties tokenId).basisPoints⟩)

theorem replaceRoyalty_received (had : (state.royalties tokenId).receiver ≠ 0)
    (someone : royaltyReceiver ≠ 0) (bounded : (state.royalties tokenId).basisPoints ≤ 10000)
    (here : tokenExists state tokenId = .ok ()) :
    replaceRoyalty state tokenId (state.royalties tokenId).basisPoints royaltyReceiver =
      .ok (state.received tokenId royaltyReceiver) := by
  simp only [replaceRoyalty, if_pos had, _saveRoyalties, bind_eq_ok, require_eq_ok, pure_eq_ok]
  exact ⟨_, ⟨(), someone, (), bounded, (), here, rfl⟩, rfl⟩

theorem holding_received (had : (state.royalties tokenId).receiver ≠ 0) :
    holding (state.received tokenId royaltyReceiver) = Function.update (holding state) tokenId
      ((holding state tokenId).received royaltyReceiver) := by
  funext other
  by_cases same : other = tokenId
  · subst same
    unfold holding royaltyOf Holding.received Royalty.received
    rw [Function.update_self, if_pos had]
    simp only [State.received, State.emit, Function.update_self]
    rfl
  · rw [Function.update_of_ne same]
    simp only [holding, royaltyOf, State.received, State.emit, Function.update_of_ne same]
    rfl

theorem received_without (without : ¬(state.royalties tokenId).receiver ≠ 0) :
    (holding state tokenId).received royaltyReceiver = holding state tokenId := by
  unfold Holding.received Royalty.received holding royaltyOf
  rw [if_neg without]

theorem replaceRoyalty_admitted (admitted : (holding state tokenId).Admits royaltyReceiver) :
    ∃ state', tokenExists state tokenId = .ok () ∧
      replaceRoyalty state tokenId (state.royalties tokenId).basisPoints royaltyReceiver =
        .ok state' ∧
      holding state' = Function.update (holding state) tokenId
        ((holding state tokenId).received royaltyReceiver) := by
  obtain ⟨present, fits⟩ := admitted
  have here : tokenExists state tokenId = .ok () := require_eq_ok.mpr present
  by_cases had : (state.royalties tokenId).receiver ≠ 0
  · obtain ⟨someone, bounded⟩ := fits had
    exact ⟨_, here, replaceRoyalty_received had someone bounded here, holding_received had⟩
  · refine ⟨state, here, if_neg had, ?_⟩
    rw [received_without had, Function.update_eq_self]

theorem replaceRoyalty_admits {state' : State} (present : tokenExists state tokenId = .ok ())
    (replaces : replaceRoyalty state tokenId (state.royalties tokenId).basisPoints
      royaltyReceiver = .ok state') : (holding state tokenId).Admits royaltyReceiver := by
  refine ⟨require_eq_ok.mp present, ?_⟩
  intro had
  rcases replaceRoyalty_accepted replaces with ⟨_, _, saves, _⟩ | ⟨without, _⟩
  · obtain ⟨someone, bounded, _⟩ := saveRoyalties_accepted saves
    exact ⟨someone, bounded⟩
  · exact absurd without had

theorem updateRoyaltyReceivers_sweep :
    (updateRoyaltyReceivers royaltyReceiver tokenIds state).toOption.map holding =
      sweep (Holding.Admits royaltyReceiver) (Holding.received royaltyReceiver) tokenIds
        (holding state) := by
  induction tokenIds generalizing state with
  | nil => rfl
  | cons first tokenIds ih =>
      by_cases admitted : (holding state first).Admits royaltyReceiver
      · obtain ⟨state', present, replaced, held⟩ := replaceRoyalty_admitted admitted
        rw [updateRoyaltyReceivers, present, sweep, if_pos admitted, ← held, ← ih]
        change ((replaceRoyalty state first _ royaltyReceiver >>= _).toOption.map holding) = _
        rw [replaced]
        rfl
      · rw [sweep, if_neg admitted]
        cases outcome : updateRoyaltyReceivers royaltyReceiver (first :: tokenIds) state with
        | error reason => rfl
        | ok state' =>
            simp only [updateRoyaltyReceivers, bind_eq_ok] at outcome
            obtain ⟨_, present, replaced, replaces, _⟩ := outcome
            exact absurd (replaceRoyalty_admits present replaces) admitted

def Refuses (state : State) (royaltyReceiver : Address) (tokenIds : List Uint256) : Prop :=
  (∃ tokenId ∈ tokenIds, _exists state tokenId = false) ∨
    royaltyReceiver = 0 ∧ ∃ tokenId ∈ tokenIds, (royaltyOf state tokenId).1 ≠ 0

theorem admits_iff (proper : ∀ tokenId, Royalty.Proper (royaltyOf state tokenId)) :
    (∀ tokenId ∈ tokenIds, (holding state tokenId).Admits royaltyReceiver) ↔
      ¬Refuses state royaltyReceiver tokenIds := by
  constructor
  · rintro all (⟨tokenId, listed, absent⟩ | ⟨nobody, tokenId, listed, had⟩)
    · exact Bool.false_ne_true (absent.symm.trans (all tokenId listed).1)
    · exact ((all tokenId listed).2 had).1 nobody
  · intro admitted tokenId listed
    obtain ⟨present, received⟩ := not_or.mp admitted
    refine ⟨?_, fun had => ⟨?_, ?_⟩⟩
    · exact Bool.of_not_eq_false fun absent => present ⟨tokenId, listed, absent⟩
    · exact fun nobody => received ⟨nobody, tokenId, listed, had⟩
    · exact BitVec.le_def.mpr (proper tokenId).bounded

theorem updateRoyaltyReceivers_refused
    (proper : ∀ tokenId, Royalty.Proper (royaltyOf state tokenId))
    (refused : Refuses state royaltyReceiver tokenIds) :
    ∃ reason, updateRoyaltyReceivers royaltyReceiver tokenIds state = .error reason := by
  have stops := @updateRoyaltyReceivers_sweep royaltyReceiver tokenIds state
  rw [sweep_eq (Holding.settling royaltyReceiver),
    if_neg fun all => (admits_iff proper).mp all refused] at stops
  cases outcome : updateRoyaltyReceivers royaltyReceiver tokenIds state with
  | error reason => exact ⟨reason, rfl⟩
  | ok state' =>
      rw [outcome] at stops
      cases stops

theorem updateRoyaltyReceivers_ends
    (proper : ∀ tokenId, Royalty.Proper (royaltyOf state tokenId))
    (admitted : ¬Refuses state royaltyReceiver tokenIds) :
    ∃ state', updateRoyaltyReceivers royaltyReceiver tokenIds state = .ok state' ∧
      royaltyOf state' = replacedReceivers royaltyReceiver tokenIds (royaltyOf state) := by
  have ends := @updateRoyaltyReceivers_sweep royaltyReceiver tokenIds state
  rw [sweep_eq (Holding.settling royaltyReceiver),
    if_pos ((admits_iff proper).mpr admitted)] at ends
  cases outcome : updateRoyaltyReceivers royaltyReceiver tokenIds state with
  | error reason =>
      rw [outcome] at ends
      cases ends
  | ok state' =>
      rw [outcome] at ends
      have held := Option.some.inj ends
      refine ⟨state', rfl, ?_⟩
      rw [← swept_received]
      funext tokenId
      refine (congrArg Prod.snd (congrFun held tokenId)).trans ?_
      unfold swept
      split
      · rfl
      · rfl

theorem updateSRRRoyaltyReceiverMulti_error
    (proper : ∀ tokenId, Royalty.Proper (royaltyOf state tokenId))
    (refused : isAdministrator world msg state ≠ true ∨ Refuses state royaltyReceiver tokenIds) :
    ∃ reason, updateSRRRoyaltyReceiverMulti world msg state tokenIds royaltyReceiver =
      .error reason := by
  cases outcome : updateSRRRoyaltyReceiverMulti world msg state tokenIds royaltyReceiver with
  | error reason => exact ⟨reason, rfl⟩
  | ok state' =>
      simp only [updateSRRRoyaltyReceiverMulti, onlyAdministrator, bind_eq_ok,
        require_eq_ok] at outcome
      obtain ⟨_, allowed, updated⟩ := outcome
      rcases refused with other | refused
      · exact absurd allowed other
      · obtain ⟨reason, stopped⟩ := updateRoyaltyReceivers_refused proper refused
        rw [stopped] at updated
        cases updated

end Registry

namespace Collection

variable {world : World} {msg : Msg} {state : State} {tokenId : Uint256}

theorem requireRoyalties_eq_ok {u : Unit} : requireRoyalties state tokenIds = .ok u ↔
    ∀ tokenId ∈ tokenIds, exists_ state tokenId = true ∧ (royaltyOf state tokenId).1 ≠ 0 := by
  induction tokenIds with
  | nil => simp [requireRoyalties]
  | cons first tokenIds ih =>
      simp only [requireRoyalties, bind_eq_ok, ih, onlyExistingToken, onlyExistingRoyalty,
        requireCustom_eq_ok, List.forall_mem_cons, exists_const, and_assoc]
      rfl

theorem upsertRoyalty_received (someone : royaltyReceiver ≠ 0)
    (had : (royaltyOf state tokenId).1 ≠ 0) (bounded : (royaltyOf state tokenId).2 ≤ 10000) :
    royaltyOf (upsertRoyalty state tokenId royaltyReceiver (state.royalties tokenId).basisPoints) =
      Function.update (royaltyOf state) tokenId
        ((royaltyOf state tokenId).received royaltyReceiver) := by
  unfold upsertRoyalty
  rw [if_pos ⟨someone, bounded⟩]
  funext other
  by_cases same : other = tokenId
  · subst same
    unfold Royalty.received
    rw [Function.update_self, if_pos had]
    simp only [royaltyOf, State.emit, Function.update_self]
  · rw [Function.update_of_ne same]
    simp only [royaltyOf, State.emit, Function.update_of_ne same]

theorem upsertReceivers_swept (someone : royaltyReceiver ≠ 0) (all : ∀ tokenId ∈ tokenIds,
      (royaltyOf state tokenId).1 ≠ 0 ∧ (royaltyOf state tokenId).2 ≤ 10000) :
    royaltyOf (upsertReceivers royaltyReceiver tokenIds state) =
      swept (Royalty.received royaltyReceiver) tokenIds (royaltyOf state) := by
  induction tokenIds generalizing state with
  | nil => rfl
  | cons first tokenIds ih =>
      have here := all first List.mem_cons_self
      have settling := Royalty.settling someone
      have step := upsertRoyalty_received someone here.1 here.2
      rw [upsertReceivers, ih, step, settling.swept_cons here]
      rw [step]
      exact (settling.admits_cons here).mpr all

def Refuses (state : State) (royaltyReceiver : Address) (tokenIds : List Uint256) : Prop :=
  royaltyReceiver = 0 ∨
    ∃ tokenId ∈ tokenIds, exists_ state tokenId = false ∨ (royaltyOf state tokenId).1 = 0

theorem updateSRRRoyaltyReceiverMulti_error
    (refused : sender world msg state ≠ getAdministrator world state ∨
      Refuses state royaltyReceiver tokenIds) :
    ∃ reason, updateSRRRoyaltyReceiverMulti world msg state tokenIds royaltyReceiver =
      .error reason := by
  cases outcome : updateSRRRoyaltyReceiverMulti world msg state tokenIds royaltyReceiver with
  | error reason => exact ⟨reason, rfl⟩
  | ok state' =>
      simp only [updateSRRRoyaltyReceiverMulti, onlyAdministrator, notAddressZero, bind_eq_ok,
        requireCustom_eq_ok, requireRoyalties_eq_ok] at outcome
      obtain ⟨_, allowed, _, someone, _, all, _⟩ := outcome
      rcases refused with other | nobody | ⟨tokenId, listed, absent | without⟩
      · exact absurd allowed other
      · exact absurd nobody someone
      · exact absurd (absent.symm.trans (all tokenId listed).1) Bool.false_ne_true
      · exact absurd without (all tokenId listed).2

theorem updateSRRRoyaltyReceiverMulti_ends
    (proper : ∀ tokenId, Royalty.Proper (royaltyOf state tokenId))
    (allowed : sender world msg state = getAdministrator world state)
    (admitted : ¬Refuses state royaltyReceiver tokenIds) :
    ∃ state', updateSRRRoyaltyReceiverMulti world msg state tokenIds royaltyReceiver =
        .ok state' ∧
      royaltyOf state' = replacedReceivers royaltyReceiver tokenIds (royaltyOf state) := by
  obtain ⟨someone, listed⟩ := not_or.mp admitted
  have all : ∀ tokenId ∈ tokenIds,
      exists_ state tokenId = true ∧ (royaltyOf state tokenId).1 ≠ 0 := by
    intro tokenId member
    refine ⟨Bool.of_not_eq_false fun absent => ?_, fun without => ?_⟩
    · exact listed ⟨tokenId, member, Or.inl absent⟩
    · exact listed ⟨tokenId, member, Or.inr without⟩
  refine ⟨upsertReceivers royaltyReceiver tokenIds state, ?_, ?_⟩
  · simp only [updateSRRRoyaltyReceiverMulti, onlyAdministrator, notAddressZero, bind_eq_ok,
      requireCustom_eq_ok, requireRoyalties_eq_ok]
    exact ⟨(), allowed, (), someone, (), all, rfl⟩
  · rw [upsertReceivers_swept someone, swept_received]
    intro tokenId member
    exact ⟨(all tokenId member).2, BitVec.le_def.mpr (proper tokenId).bounded⟩

end Collection

section Runs

variable {E S Q R L : Type} {entry : L → S → Outcome E S Q R S} {config : Config E S Q R L}
  {label : L} {royaltyOf : S → Uint256 → Royalty} {Refused : Prop} {replaced : Uint256 → Royalty}

/-- A call that is refused, and has changed nothing then, or ends with these royalties. -/
structure ExactUpdate (entry : L → S → Outcome E S Q R S) (config : Config E S Q R L) (label : L)
    (royaltyOf : S → Uint256 → Royalty) (Refused : Prop) (replaced : Uint256 → Royalty) :
    Prop where
  reverts : (∃ reason, entry label config.now.state = .revert reason) ↔ Refused
  unchanged : Refused → config.enter entry label = config
  replaces : ¬Refused → ∃ state', entry label config.now.state = .done state' ∧
    royaltyOf state' = replaced

theorem exactUpdate (refuses : Refused → ∃ reason, entry label config.now.state = .revert reason)
    (replaces : ¬Refused → ∃ state', entry label config.now.state = .done state' ∧
      royaltyOf state' = replaced) :
    ExactUpdate entry config label royaltyOf Refused replaced := by
  refine ⟨⟨?_, refuses⟩, ?_, replaces⟩
  · rintro ⟨reason, reverted⟩
    by_contra admitted
    obtain ⟨state', done_, _⟩ := replaces admitted
    rw [reverted] at done_
    cases done_
  · intro refused
    obtain ⟨reason, reverted⟩ := refuses refused
    rw [Config.enter, reverted]
    rfl

theorem Registry.entry_receivers (deployment : Registry.Deployment) (world : World) (depth : Nat)
    (msg : Msg) (state : Registry.State) :
    Registry.entry deployment
      ⟨world, depth, msg, .updateSRRRoyaltyReceiverMulti tokenIds royaltyReceiver⟩ state =
        liftM (Registry.updateSRRRoyaltyReceiverMulti world msg state tokenIds
          royaltyReceiver) := by
  cases depth with
  | zero => rfl
  | succ depth => rfl

theorem Registry.updateSRRRoyaltyReceiverMulti_ends {world : World} {msg : Msg}
    {state : Registry.State}
    (bounded : ∀ tokenId, Royalty.Proper (Registry.royaltyOf state tokenId))
    (allowed : Registry.isAdministrator world msg state = true)
    (admitted : ¬Registry.Refuses state royaltyReceiver tokenIds) :
    ∃ state', Registry.updateSRRRoyaltyReceiverMulti world msg state tokenIds royaltyReceiver =
        .ok state' ∧
      Registry.royaltyOf state' =
        replacedReceivers royaltyReceiver tokenIds (Registry.royaltyOf state) := by
  obtain ⟨state', ended, held⟩ := Registry.updateRoyaltyReceivers_ends bounded admitted
  refine ⟨state', ?_, held⟩
  simp only [Registry.updateSRRRoyaltyReceiverMulti, Registry.onlyAdministrator, bind_eq_ok,
    require_eq_ok]
  exact ⟨(), allowed, ended⟩

/-- In every run of the registry and of a collection, from any state with proper royalties. -/
theorem receivers_replaced :
    (∀ (deployment : Registry.Deployment) (Legal : Registry.Transaction → Registry.State → Prop)
      (origin : Registry.State)
      (config : Config Revert Registry.State Registry.Query Reply Registry.Transaction),
      (∀ tokenId, Royalty.Proper (Registry.royaltyOf origin tokenId)) →
      Reach (Registry.entry deployment) Legal origin config →
      ∀ (world : World) (depth : Nat) (msg : Msg) (tokenIds : List Uint256)
        (royaltyReceiver : Address),
        ExactUpdate (Registry.entry deployment) config
          ⟨world, depth, msg, .updateSRRRoyaltyReceiverMulti tokenIds royaltyReceiver⟩
          Registry.royaltyOf
          (Registry.isAdministrator world msg config.now.state ≠ true ∨
            Registry.Refuses config.now.state royaltyReceiver tokenIds)
          (replacedReceivers royaltyReceiver tokenIds (Registry.royaltyOf config.now.state))) ∧
    ∀ (evm : Evm) (Legal : Collection.Transaction → Collection.State → Prop)
      (origin : Collection.State)
      (config : Config Revert Collection.State Collection.Query Reply Collection.Transaction),
      (∀ tokenId, Royalty.Proper (Collection.royaltyOf origin tokenId)) →
      Reach (Collection.entry evm) Legal origin config →
      ∀ (world : World) (msg : Msg) (tokenIds : List Uint256) (royaltyReceiver : Address),
        ExactUpdate (Collection.entry evm) config
          ⟨world, msg, .updateSRRRoyaltyReceiverMulti tokenIds royaltyReceiver⟩
          Collection.royaltyOf
          (Collection.sender world msg config.now.state ≠
              Collection.getAdministrator world config.now.state ∨
            Collection.Refuses config.now.state royaltyReceiver tokenIds)
          (replacedReceivers royaltyReceiver tokenIds
            (Collection.royaltyOf config.now.state)) := by
  constructor
  · intro deployment Legal origin config proper reach world depth msg tokenIds royaltyReceiver
    have bounded := (Registry.reach_royalties proper reach).proper
    refine exactUpdate (fun refused => ?_) fun admitted => ?_
    · obtain ⟨reason, failed⟩ := Registry.updateSRRRoyaltyReceiverMulti_error bounded refused
      rw [Registry.entry_receivers, failed]
      exact ⟨reason, rfl⟩
    · obtain ⟨allowed, listed⟩ := not_or.mp admitted
      obtain ⟨state', ended, held⟩ := Registry.updateSRRRoyaltyReceiverMulti_ends bounded
        (not_not.mp allowed) listed
      rw [Registry.entry_receivers, ended]
      exact ⟨state', rfl, held⟩
  · intro evm Legal origin config proper reach world msg tokenIds royaltyReceiver
    have bounded := (Collection.reach_royalties proper reach).proper
    refine exactUpdate (fun refused => ?_) fun admitted => ?_
    · obtain ⟨reason, failed⟩ := Collection.updateSRRRoyaltyReceiverMulti_error refused
      refine ⟨reason, ?_⟩
      change liftM (Collection.updateSRRRoyaltyReceiverMulti _ _ _ _ _) = _
      rw [failed]
      rfl
    · obtain ⟨allowed, listed⟩ := not_or.mp admitted
      obtain ⟨state', ended, held⟩ := Collection.updateSRRRoyaltyReceiverMulti_ends bounded
        (not_not.mp allowed) listed
      refine ⟨state', ?_, held⟩
      change liftM (Collection.updateSRRRoyaltyReceiverMulti _ _ _ _ _) = _
      rw [ended]
      rfl

end Runs

namespace Registry

def receiversCall (tokenIds : List Uint256) : Transaction :=
  sampleCall 0xad317 (.updateSRRRoyaltyReceiverMulti tokenIds 0x77)

set_option maxRecDepth 8000 in
theorem receivers_replaced_twice :
    (∃ state', entry sampleDeployment (receiversCall [recordId, recordId]) raisedRun.now.state =
        .done state' ∧ royaltyOf state' recordId = (0x77, 10000)) ∧
      raisedRun.enter (entry sampleDeployment) (receiversCall [recordId, 7]) = raisedRun ∧
      Collection.createdRun.enter (Collection.entry Collection.sampleEvm)
        (Collection.sampleCall 0xad317
          (.updateSRRRoyaltyReceiverMulti [recordId] 0x77)) =
        Collection.createdRun := by
  have reach : Reach (entry sampleDeployment) (fun _ _ => True) State.blank raisedRun :=
    .enter _ (.enter _ .start trivial) trivial
  have exact_ := receivers_replaced.1 sampleDeployment _ State.blank raisedRun
    (fun _ => Or.inl rfl) reach sampleWorld 8 ⟨0xad317, []⟩
  have allowed : isAdministrator sampleWorld ⟨0xad317, []⟩ raisedRun.now.state = true := by decide
  have present : _exists raisedRun.now.state recordId = true := by decide
  have missing : _exists raisedRun.now.state 7 = false := by decide
  have before : royaltyOf raisedRun.now.state recordId = (0x50, 10000) := by decide
  have admitted : ¬(isAdministrator sampleWorld ⟨0xad317, []⟩ raisedRun.now.state ≠ true ∨
      Refuses raisedRun.now.state 0x77 [recordId, recordId]) := by
    rintro (other | ⟨tokenId, listed, absent⟩ | ⟨nobody, _⟩)
    · exact other allowed
    · obtain rfl : tokenId = recordId := by simpa using listed
      exact Bool.false_ne_true (absent.symm.trans present)
    · exact absurd nobody (by decide)
  obtain ⟨state', ended, held⟩ := (exact_ [recordId, recordId] 0x77).replaces admitted
  have without : (Collection.royaltyOf Collection.createdRun.now.state recordId).1 = 0 := by
    decide
  have refused := receivers_replaced.2 Collection.sampleEvm (fun _ _ => True) Collection.State.blank
    Collection.createdRun (fun _ => Or.inl rfl)
    (Collection.createdRun_reach fun _ _ _ _ _ => trivial) sampleWorld ⟨0xad317, []⟩ [recordId] 0x77
  refine ⟨⟨state', ended, ?_⟩, (exact_ [recordId, 7] 0x77).unchanged
    (Or.inr (Or.inl ⟨7, by decide, missing⟩)), refused.unchanged
      (Or.inr (Or.inr ⟨_, List.mem_singleton_self _, Or.inr without⟩))⟩
  rw [held, replacedReceivers, before]
  rfl

end Registry

end Startrail
