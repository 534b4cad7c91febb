import Startrail.Collection.Tokens

/-!
The two forms of `safeTransferFrom` of a collection, as `ERC721FeatureV05` overrides the ones of
`ERC721UpgradeableBase`. The form with data ends in the base's form, which asks the receiver; the
form without data ends in the base's `transferFrom`, which asks nobody.
-/

namespace Startrail.Collection

variable {world : World} {msg : Msg} {state after : State} {from_ to_ : Address} {id : Uint256}
  {data : Bytes} {environment : State → Query → State × Reply}

section Overrides

variable (world : World) (msg : Msg) (state : State) (from_ to_ : Address) (id : Uint256)
  (data : Bytes)

def ERC721UpgradeableBase.transferFrom : Result State := do
  require (from_ = state.erc721.ownerOf id) "WRONG_FROM"
  require (to_ ≠ 0) "INVALID_RECIPIENT"
  require (msg.sender = from_ ∨ state.erc721.isApprovedForAll from_ msg.sender = true ∨
      msg.sender = state.erc721.getApproved id)
    "NOT_AUTHORIZED"
  pure (_transferFrom state from_ to_ id)

def ERC721FeatureV05.transferFrom : Result State := do
  onlyExternalTransferUnlocked state id
  ERC721UpgradeableBase.transferFrom msg state from_ to_ id

-- The base calls the `transferFrom` that is overridden.
def ERC721UpgradeableBase.safeTransferFrom : Execution State := do
  let state ← ERC721FeatureV05.transferFrom msg state from_ to_ id
  safeTransferFromReceivedCheck world state msg.sender from_ to_ id data

/-- `safeTransferFrom(from, to, tokenId)` -/
def ERC721FeatureV05.safeTransferFrom : Result State := do
  onlyExternalTransferUnlocked state id
  ERC721UpgradeableBase.transferFrom msg state from_ to_ id

/-- `safeTransferFrom(from, to, tokenId, data)` -/
def ERC721FeatureV05.safeTransferFromWithData : Execution State := do
  onlyExternalTransferUnlocked state id
  ERC721UpgradeableBase.safeTransferFrom world msg state from_ to_ id data

end Overrides

theorem safeTransferFrom_eq :
    ERC721FeatureV05.safeTransferFrom msg state from_ to_ id =
      transferFrom msg state from_ to_ id :=
  rfl

theorem safeTransferFromWithData_eq :
    ERC721FeatureV05.safeTransferFromWithData world msg state from_ to_ id data =
      safeTransferFrom world msg state from_ to_ id data := by
  unfold ERC721FeatureV05.safeTransferFromWithData ERC721UpgradeableBase.safeTransferFrom
    ERC721FeatureV05.transferFrom safeTransferFrom transferFrom onlyExternalTransferUnlocked
  cases unlocked : requireCustom (state.tokenIdToLockFlag id = false)
    "ERC721ExternalTransferLocked" with
  | error reason => rfl
  | ok u => rfl

def Accepts (reply : Reply) : Prop :=
  reply.success = true ∧ decodeBytes4 reply.returndata = some onERC721ReceivedSelector

theorem receiverAccepts_eq_true {reply : Reply} :
    receiverAccepts reply = .ok true ↔ Accepts reply := by
  unfold receiverAccepts Accepts
  cases reply.success with
  | false => simp
  | true =>
      simp only [Bool.true_eq_false, if_false, true_and]
      cases decodeBytes4 reply.returndata with
      | none => simp
      | some retval => simp

def answered (environment : State → Query → State × Reply) (msg : Msg) (moved : State)
    (from_ to_ : Address) (id : Uint256) (data : Bytes) : State × Reply :=
  environment moved ⟨to_, msg.sender, from_, id, data⟩

theorem safeTransferFromReceivedCheck_against {moved : State} :
    (safeTransferFromReceivedCheck world moved msg.sender from_ to_ id data).against environment =
        .ok after ↔
      world.codeLength to_ = 0 ∧ after = moved ∨
        world.codeLength to_ ≠ 0 ∧ Accepts (answered environment msg moved from_ to_ id data).2 ∧
          after = (answered environment msg moved from_ to_ id data).1 := by
  unfold safeTransferFromReceivedCheck
  by_cases empty : world.codeLength to_ = 0
  · simp only [empty, if_true, true_and, ne_eq, not_true_eq_false, false_and, or_false]
    exact ⟨fun same => (Except.ok.inj same).symm, fun same => congrArg Except.ok same.symm⟩
  · simp only [empty, if_false, false_and, ne_eq, not_false_eq_true, true_and, false_or]
    rw [Outcome.external, Outcome.call_bind, Outcome.against]
    simp only [Outcome.done_bind, Outcome.against_lift_bind]
    rw [← receiverAccepts_eq_true]
    constructor
    · rintro ⟨accepted, answers, _, required, same⟩
      cases require_eq_ok.mp required
      exact ⟨answers, (Except.ok.inj same).symm⟩
    · rintro ⟨answers, rfl⟩
      exact ⟨true, answers, (), rfl, rfl⟩

theorem safeTransferFrom_against :
    (safeTransferFrom world msg state from_ to_ id data).against environment = .ok after ↔
      MayMove msg state from_ to_ id ∧
        (safeTransferFromReceivedCheck world (_transferFrom state from_ to_ id) msg.sender from_ to_
          id data).against environment = .ok after := by
  unfold safeTransferFrom
  rw [Outcome.against_lift_bind]
  simp only [transferFrom_eq_ok]
  constructor
  · rintro ⟨_, ⟨may, rfl⟩, checked⟩
    exact ⟨may, checked⟩
  · rintro ⟨may, checked⟩
    exact ⟨_, ⟨may, rfl⟩, checked⟩

/-- Both forms succeed or fail together, and leave the same state. -/
def FormsAgree (world : World) (msg : Msg) (state : State) (from_ to_ : Address) (id : Uint256)
    (environment : State → Query → State × Reply) : Prop :=
  ∀ after, ERC721FeatureV05.safeTransferFrom msg state from_ to_ id = .ok after ↔
    (ERC721FeatureV05.safeTransferFromWithData world msg state from_ to_ id []).against
      environment = .ok after

/-- Who gets the token has no code, or accepts it and leaves the collection alone. -/
def Harmless (world : World) (msg : Msg) (state : State) (from_ to_ : Address) (id : Uint256)
    (environment : State → Query → State × Reply) : Prop :=
  let moved := _transferFrom state from_ to_ id
  let (later, reply) := answered environment msg moved from_ to_ id []
  world.codeLength to_ = 0 ∨ Accepts reply ∧ later = moved

/-- The form without data never asks the receiver, so that the forms agree exactly if the transfer
is refused before, or the receiver's answer makes no difference. -/
theorem forms_agree_iff (world : World) (msg : Msg) (state : State) (from_ to_ : Address)
    (id : Uint256) (environment : State → Query → State × Reply) :
    FormsAgree world msg state from_ to_ id environment ↔
      ¬MayMove msg state from_ to_ id ∨ Harmless world msg state from_ to_ id environment := by
  unfold FormsAgree Harmless
  simp only [safeTransferFrom_eq, safeTransferFromWithData_eq, transferFrom_eq_ok,
    safeTransferFrom_against, safeTransferFromReceivedCheck_against]
  by_cases may : MayMove msg state from_ to_ id
  · simp only [may, true_and, not_true_eq_false, false_or]
    generalize _transferFrom state from_ to_ id = moved
    constructor
    · intro agree
      rcases (agree moved).mp rfl with ⟨empty, _⟩ | ⟨_, accepts, same⟩
      · exact Or.inl empty
      · exact Or.inr ⟨accepts, same.symm⟩
    · intro harmless after
      by_cases empty : world.codeLength to_ = 0
      · simp [empty]
      · obtain ⟨accepts, same⟩ := harmless.resolve_left empty
        simp only [empty, accepts, same, false_and, ne_eq, not_false_eq_true, true_and, false_or]
  · simp [may]

section Samples

-- A contract that has no hook: every call of it reverts.
def hookless (state : State) (_ : Query) : State × Reply := (state, ⟨false, []⟩)

def codeWorld : World :=
  { World.named [(BULK, 0xb17c), (ADMINISTRATOR, 0xad317)] with
    codeLength := fun account => if account = 0xc0de then 1 else 0 }

set_option maxRecDepth 8000 in
theorem forms_agree_iff_empty :
    FormsAgree codeWorld ⟨0xa11ce, []⟩ createdRun.now.state 0xa11ce 0xb0b recordId hookless ∧
      ¬FormsAgree codeWorld ⟨0xa11ce, []⟩ createdRun.now.state 0xa11ce 0xc0de recordId
        hookless := by
  have may : ∀ to_, to_ ≠ 0 → MayMove ⟨0xa11ce, []⟩ createdRun.now.state 0xa11ce to_ recordId :=
    fun to_ recipient => ⟨by rfl, by rfl, recipient, Or.inl rfl⟩
  constructor
  · exact (forms_agree_iff _ _ _ _ _ _ _).mpr (Or.inr (Or.inl rfl))
  · intro agree
    rcases (forms_agree_iff _ _ _ _ _ _ _).mp agree with refused | code | ⟨⟨replied, _⟩, _⟩
    · exact refused (may _ (by decide))
    · exact absurd code (by decide)
    · cases replied

set_option maxRecDepth 8000 in
theorem hookless_stuck :
    ¬∀ config, Reach (entry sampleEvm) (fun _ _ => True) State.blank config →
      ∀ world msg from_ to_ id environment,
        FormsAgree world msg config.now.state from_ to_ id environment := by
  intro claimed
  have reach : Reach (entry sampleEvm) (fun _ _ => True) State.blank createdRun :=
    createdRun_reach fun _ _ _ _ _ => trivial
  have agree := claimed createdRun reach codeWorld ⟨0xa11ce, []⟩ 0xa11ce 0xc0de recordId hookless
  have moves : ERC721FeatureV05.safeTransferFrom ⟨0xa11ce, []⟩ createdRun.now.state 0xa11ce 0xc0de
      recordId = .ok (_transferFrom createdRun.now.state 0xa11ce 0xc0de recordId) := by rfl
  cases (agree _).mp moves

end Samples

end Startrail.Collection
