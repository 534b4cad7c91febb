import Startrail.Commitments

/-!
Which lists of tokens and custom histories `addHistory` takes. Both contracts ask the same of the
lists, and each asks its own of the caller. Their loops count in sixteen bits, which nothing that is
asked of the lists provides for.
-/

namespace Startrail

variable {tokenIds customHistoryIds : List Uint256}

section Outcomes

variable {E S Q R : Type} {outcome : Outcome E S Q R S} {added : S} {Documented Counted : Prop}

/-- The call adds the histories if it may, and is refused if it may not. -/
structure AsDocumented (outcome : Outcome E S Q R S) (added : S) (Documented : Prop) : Prop where
  adds : Documented → outcome = .done added
  refuses : ¬Documented → ∃ reason, outcome = .revert reason

theorem asDocumented_iff (adds : outcome = .done added ↔ Documented ∧ Counted)
    (refuses : outcome ≠ .done added → ∃ reason, outcome = .revert reason) :
    AsDocumented outcome added Documented ↔ (Documented → Counted) := by
  constructor
  · intro documented may
    exact (adds.mp (documented.adds may)).2
  · intro counted
    exact ⟨fun may => adds.mpr ⟨may, counted may⟩,
      fun mayNot => refuses fun done_ => mayNot (adds.mp done_).1⟩

theorem lift_done {result : Except E S} : (liftM result : Outcome E S Q R S) = .done added ↔
    result = .ok added := by
  cases result with
  | error reason => exact ⟨nofun, nofun⟩
  | ok state => exact ⟨fun same => congrArg _ (Outcome.done.inj same),
      fun same => congrArg _ (Except.ok.inj same)⟩

theorem lift_refuses {result : Except E S}
    (stuck : (liftM result : Outcome E S Q R S) ≠ .done added)
    (single : ∀ state, result = .ok state → state = added) :
    ∃ reason, (liftM result : Outcome E S Q R S) = .revert reason := by
  cases result with
  | error reason => exact ⟨reason, rfl⟩
  | ok state => exact absurd (congrArg Outcome.done (single state rfl)) stuck

end Outcomes

/-- Lists that a loop with a counter of sixteen bits gets through. -/
def Countable (tokenIds customHistoryIds : List Uint256) : Prop :=
  tokenIds.length < 2 ^ 16 ∧ customHistoryIds.length < 2 ^ 16

theorem product_fits {maxCombined : Uint256}
    (bounded : tokenIds.length * customHistoryIds.length ≤ maxCombined.toNat) :
    tokenIds.length * customHistoryIds.length < 2 ^ 256 :=
  Nat.lt_of_le_of_lt bounded maxCombined.isLt

namespace Registry

variable {deployment : Deployment} {world : World} {msg : Msg} {state added : State}

theorem forEach_eq_ok {check : Uint256 → Result Unit} {values : List Uint256} {i : Nat}
    {u : Unit} (counted : i < 2 ^ 16) : forEach check values i = .ok u ↔
      (∀ value ∈ values, check value = .ok ()) ∧ i + values.length < 2 ^ 16 := by
  induction values generalizing i with
  | nil => simpa [forEach, pure, Except.pure] using counted
  | cons value values ih =>
      simp only [forEach, bind_eq_ok, requirePanic_eq_ok, List.forall_mem_cons, List.length_cons]
      constructor
      · rintro ⟨_, first, _, room, rest⟩
        obtain ⟨all, fits⟩ := (ih room).mp rest
        exact ⟨⟨first, all⟩, by omega⟩
      · rintro ⟨⟨first, all⟩, fits⟩
        have room : i + 1 < 2 ^ 16 := by omega
        exact ⟨(), first, (), room, (ih room).mpr ⟨all, by omega⟩⟩

theorem onlyLicensedUserOrAdministrator_eq_ok {u : Unit} :
    onlyLicensedUserOrAdministrator world msg state = .ok u ↔
      isAdministrator world msg state = true ∨ world.isActiveWallet
        ((world.nameRegistry state.nameRegistryAddress).get LICENSED_USER_MANAGER)
        (sender msg state) = true := by
  unfold onlyLicensedUserOrAdministrator
  by_cases administrator : isAdministrator world msg state = true
  · simp [administrator, pure, Except.pure]
  · rw [if_neg administrator, require_eq_ok, or_iff_right administrator]

theorem onlyIssuerOrArtistOrAdministrator_eq_ok {tokenId : Uint256} {u : Unit} :
    onlyIssuerOrArtistOrAdministrator world msg state tokenId = .ok u ↔
      isAdministrator world msg state = true ∨ isIssuer msg state tokenId = true ∨
        isArtist msg state tokenId = true := by
  unfold onlyIssuerOrArtistOrAdministrator
  by_cases administrator : isAdministrator world msg state = true
  · simp [administrator, pure, Except.pure]
  · rw [if_neg administrator, or_iff_right administrator]
    by_cases issuer : isIssuer msg state tokenId = true
    · simp [issuer, pure, Except.pure]
    · rw [if_neg issuer, require_eq_ok, or_iff_right issuer]

/-- What is asked of a call of `addHistory`. -/
structure MayAddHistory (world : World) (msg : Msg) (state : State)
    (tokenIds customHistoryIds : List Uint256) : Prop where
  permitted : isAdministrator world msg state = true ∨ world.isActiveWallet
    ((world.nameRegistry state.nameRegistryAddress).get LICENSED_USER_MANAGER)
    (sender msg state) = true
  bounded : tokenIds.length * customHistoryIds.length ≤ state.maxCombinedHistoryRecords.toNat
  tokens : ∀ tokenId ∈ tokenIds, _exists state tokenId = true ∧
    (isAdministrator world msg state = true ∨ isIssuer msg state tokenId = true ∨
      isArtist msg state tokenId = true)
  histories : ∀ id ∈ customHistoryIds, (getCustomHistoryNameById state id).length ≠ 0

theorem addHistory_eq_ok : addHistory world msg state tokenIds customHistoryIds = .ok added ↔
    (MayAddHistory world msg state tokenIds customHistoryIds ∧
      Countable tokenIds customHistoryIds) ∧
      state.emit (.History tokenIds customHistoryIds) = added := by
  have start : 0 < 2 ^ 16 := by decide
  simp only [addHistory, bind_eq_ok, requirePanic_eq_ok, require_eq_ok, pure_eq_ok,
    exists_const, onlyLicensedUserOrAdministrator_eq_ok, forEach_eq_ok start,
    onlyIssuerOrArtistOrAdministrator_eq_ok, customHistoryIdExists, Nat.zero_add]
  constructor
  · rintro ⟨permitted, _, bounded, ⟨tokens, tokensFit⟩, ⟨histories, historiesFit⟩, same⟩
    exact ⟨⟨⟨permitted, bounded, tokens, histories⟩, tokensFit, historiesFit⟩, same⟩
  · rintro ⟨⟨⟨permitted, bounded, tokens, histories⟩, tokensFit, historiesFit⟩, same⟩
    exact ⟨permitted, product_fits bounded, bounded, ⟨tokens, tokensFit⟩,
      ⟨histories, historiesFit⟩, same⟩

theorem entry_addHistory (deployment : Deployment) (depth : Nat) :
    entry deployment ⟨world, depth, msg, .addHistory tokenIds customHistoryIds⟩ state =
      liftM (addHistory world msg state tokenIds customHistoryIds) := by
  cases depth with
  | zero => rfl
  | succ depth => rfl

end Registry

namespace Collection

variable {evm : Evm} {world : World} {msg : Msg} {state added : State}

theorem forEach_eq (check : Uint256 → Result Unit) (values : List Uint256) (i : Nat) :
    forEach check values i = Registry.forEach check values i := by
  induction values generalizing i with
  | nil => rfl
  | cons value values ih =>
      rw [forEach, Registry.forEach]
      simp only [ih]

/-- What is asked of a call of `addHistory`; who may call depends on the tokens alone. -/
structure MayAddHistory (world : World) (msg : Msg) (state : State)
    (tokenIds customHistoryIds : List Uint256) : Prop where
  bounded : tokenIds.length * customHistoryIds.length ≤
    (getStartrailRegistry world state).maxCombinedHistoryRecords.toNat
  tokens : ∀ tokenId ∈ tokenIds, exists_ state tokenId = true ∧
    (sender world msg state = getCollectionOwner state ∨
      sender world msg state = (state.srrs tokenId).issuer ∨
      sender world msg state = (state.srrs tokenId).artist ∨
      sender world msg state = state.erc721.ownerOf tokenId)
  histories : ∀ id ∈ customHistoryIds,
    ((getStartrailRegistry world state).getCustomHistoryNameById id).length ≠ 0

theorem addHistory_eq_ok : addHistory world msg state tokenIds customHistoryIds = .ok added ↔
    (MayAddHistory world msg state tokenIds customHistoryIds ∧
      Countable tokenIds customHistoryIds) ∧
      state.emit (.History tokenIds customHistoryIds) = added := by
  have start : 0 < 2 ^ 16 := by decide
  simp only [addHistory, forEach_eq, bind_eq_ok, requirePanic_eq_ok, requireCustom_eq_ok,
    pure_eq_ok, exists_const, Registry.forEach_eq_ok start, onlyExistingToken, Nat.zero_add]
  constructor
  · rintro ⟨_, bounded, ⟨tokens, tokensFit⟩, ⟨histories, historiesFit⟩, same⟩
    exact ⟨⟨⟨bounded, tokens, histories⟩, tokensFit, historiesFit⟩, same⟩
  · rintro ⟨⟨⟨bounded, tokens, histories⟩, tokensFit, historiesFit⟩, same⟩
    exact ⟨product_fits bounded, bounded, ⟨tokens, tokensFit⟩, ⟨histories, historiesFit⟩, same⟩

end Collection

/-- In every state, of every run or not. -/
theorem histories_added (world : World) (msg : Msg) (tokenIds customHistoryIds : List Uint256) :
    (∀ (deployment : Registry.Deployment) (depth : Nat) (state : Registry.State),
      AsDocumented
          (Registry.entry deployment
            ⟨world, depth, msg, .addHistory tokenIds customHistoryIds⟩ state)
          (state.emit (.History tokenIds customHistoryIds))
          (Registry.MayAddHistory world msg state tokenIds customHistoryIds) ↔
        (Registry.MayAddHistory world msg state tokenIds customHistoryIds →
          Countable tokenIds customHistoryIds)) ∧
    ∀ (evm : Evm) (state : Collection.State),
      AsDocumented
          (Collection.entry evm ⟨world, msg, .addHistory tokenIds customHistoryIds⟩ state)
          (state.emit (.History tokenIds customHistoryIds))
          (Collection.MayAddHistory world msg state tokenIds customHistoryIds) ↔
        (Collection.MayAddHistory world msg state tokenIds customHistoryIds →
          Countable tokenIds customHistoryIds) := by
  constructor
  · intro deployment depth state
    rw [Registry.entry_addHistory]
    apply asDocumented_iff
    · rw [lift_done, Registry.addHistory_eq_ok, and_iff_left rfl]
    · intro stuck
      exact lift_refuses stuck fun _ ok => (Registry.addHistory_eq_ok.mp ok).2.symm
  · intro evm state
    change AsDocumented (liftM (Collection.addHistory _ _ _ _ _)) _ _ ↔ _
    apply asDocumented_iff
    · rw [lift_done, Collection.addHistory_eq_ok, and_iff_left rfl]
    · intro stuck
      exact lift_refuses stuck fun _ ok => (Collection.addHistory_eq_ok.mp ok).2.symm

-- As many entries as the counter has values.
def longList (tokenId : Uint256) : List Uint256 := List.replicate (2 ^ 16) tokenId

theorem longList_mem {tokenId other : Uint256} (listed : other ∈ longList tokenId) :
    other = tokenId := List.eq_of_mem_replicate listed

theorem longList_uncountable (tokenId : Uint256) (customHistoryIds : List Uint256) :
    ¬Countable (longList tokenId) customHistoryIds := by
  rintro ⟨fits, _⟩
  rw [longList, List.length_replicate] at fits
  exact Nat.lt_irrefl _ fits

theorem product_nil (values : List Uint256) (maxCombined : Nat) :
    values.length * ([] : List Uint256).length ≤ maxCombined := by
  rw [List.length_nil, Nat.mul_zero]
  exact Nat.zero_le _

theorem Registry.longList_documented :
    Registry.MayAddHistory Registry.sampleWorld ⟨0xad317, []⟩ Registry.approvedRun.now.state
      (longList Registry.recordId) [] := by
  have administrator : Registry.isAdministrator Registry.sampleWorld ⟨0xad317, []⟩
      Registry.approvedRun.now.state = true := by decide
  have present : Registry._exists Registry.approvedRun.now.state Registry.recordId = true := by
    decide
  refine ⟨Or.inl administrator, product_nil _ _, ?_, nofun⟩
  intro tokenId listed
  rw [longList_mem listed]
  exact ⟨present, Or.inl administrator⟩

theorem Collection.longList_documented :
    Collection.MayAddHistory Registry.sampleWorld ⟨0xa11ce, []⟩ Collection.createdRun.now.state
      (longList Collection.recordId) [] := by
  have owner : Collection.sender Registry.sampleWorld ⟨0xa11ce, []⟩
      Collection.createdRun.now.state =
        Collection.getCollectionOwner Collection.createdRun.now.state := by decide
  have present : Collection.exists_ Collection.createdRun.now.state Collection.recordId = true := by
    decide
  refine ⟨product_nil _ _, ?_, nofun⟩
  intro tokenId listed
  rw [longList_mem listed]
  exact ⟨present, Or.inl owner⟩

/-- A list without custom histories, of as many tokens as the counter has values. -/
theorem longList_refused :
    ¬(∀ config, Reach (Registry.entry Registry.sampleDeployment) (fun _ _ => True)
        Registry.State.blank config → ∀ world depth msg tokenIds customHistoryIds,
        Registry.MayAddHistory world msg config.now.state tokenIds customHistoryIds →
        Registry.entry Registry.sampleDeployment
          ⟨world, depth, msg, .addHistory tokenIds customHistoryIds⟩ config.now.state =
            .done (config.now.state.emit (.History tokenIds customHistoryIds))) ∧
    ¬∀ config, Reach (Collection.entry Collection.sampleEvm) (fun _ _ => True)
        Collection.State.blank config → ∀ world msg tokenIds customHistoryIds,
        Collection.MayAddHistory world msg config.now.state tokenIds customHistoryIds →
        Collection.entry Collection.sampleEvm
          ⟨world, msg, .addHistory tokenIds customHistoryIds⟩ config.now.state =
            .done (config.now.state.emit (.History tokenIds customHistoryIds)) := by
  constructor
  · intro claimed
    have reach := @Registry.approvedRun_reach (fun _ _ => True) (fun _ => trivial) fun _ => trivial
    have added := claimed _ reach Registry.sampleWorld 0 ⟨0xad317, []⟩ _ []
      Registry.longList_documented
    rw [Registry.entry_addHistory, lift_done, Registry.addHistory_eq_ok] at added
    exact longList_uncountable _ _ added.1.2
  · intro claimed
    have reach := @Collection.createdRun_reach (fun _ _ => True) fun _ _ _ _ _ => trivial
    have added := claimed _ reach Registry.sampleWorld ⟨0xa11ce, []⟩ _ []
      Collection.longList_documented
    have ended := Collection.addHistory_eq_ok.mp (lift_done.mp added)
    exact longList_uncountable _ _ ended.1.2

end Startrail
