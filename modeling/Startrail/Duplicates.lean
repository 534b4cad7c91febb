import Startrail.Collection.Accounting
import Startrail.Registry.Accounting

/-!
When a creation is refused because its record exists. A record is found by twelve decimal digits
of the hash of its CID and its artist, so it takes the place of every other pair with the same
digits. `Tracks` ties the ids that have owners to the pairs that the `CreateSRR` events tell of.
-/

namespace Startrail

section Tracks

variable {T P : Type}

/-- The tokens that are taken are those of the pairs they were made with. -/
def Tracks (taken : T → Prop) (made : List P) (id : P → T) : Prop :=
  ∀ token, taken token ↔ ∃ pair ∈ made, id pair = token

variable {taken taken' : T → Prop} {made made' : List P} {id : P → T}

theorem Tracks.add (tracks : Tracks taken made id) (fresh : Option P)
    (grown : made' = fresh.toList ++ made)
    (takes : ∀ token, taken' token ↔ taken token ∨ fresh.map id = some token) :
    Tracks taken' made' id := by
  intro token
  rw [takes token, tracks token, grown]
  cases fresh with
  | none => simp
  | some pair =>
      simp only [Option.toList_some, Option.map_some, Option.some.injEq, List.singleton_append,
        List.mem_cons, exists_eq_or_imp]
      exact or_comm

end Tracks

section Ids

variable {evm : Evm}

/-- The CID and the artist of a record. -/
abbrev Pair := Bytes × Address

-- `abi.encodePacked(metadataCID, artistAddress)`
def encodePacked (pair : Pair) : Bytes := pair.1 ++ packWord pair.2

def idOf (evm : Evm) (pair : Pair) : Uint256 := generate evm pair.1 pair.2

/-- The hashes have the same last twelve decimal digits. -/
def SharesDigits (evm : Evm) (left right : Pair) : Prop :=
  (evm.keccak256 (encodePacked left)).toNat % 10 ^ 12 =
    (evm.keccak256 (encodePacked right)).toNat % 10 ^ 12

instance (evm : Evm) (left right : Pair) : Decidable (SharesDigits evm left right) :=
  inferInstanceAs (Decidable (_ = _))

theorem idOf_eq_iff {left right : Pair} :
    idOf evm left = idOf evm right ↔ SharesDigits evm left right := by
  have small : ∀ hash : Bytes32, hash.toNat % 10 ^ 12 < 2 ^ 256 := by
    intro hash
    omega
  unfold idOf generate SharesDigits encodePacked
  constructor
  · intro same
    have digits := congrArg BitVec.toNat same
    rwa [BitVec.toNat_ofNat, BitVec.toNat_ofNat, Nat.mod_eq_of_lt (small _),
      Nat.mod_eq_of_lt (small _)] at digits
  · intro same
    rw [same]

end Ids

section Errors

variable {A B : Type} {reason : Revert}

theorem bind_eq_error {first : Result A} {next : A → Result B} :
    (first >>= next) = .error reason ↔
      first = .error reason ∨ ∃ middle, first = .ok middle ∧ next middle = .error reason := by
  cases first with
  | error reason => simp [bind, Except.bind]
  | ok middle => simp [bind, Except.bind]

theorem require_eq_error {condition : Prop} [Decidable condition] {text : String} :
    (require condition text : Result Unit) = .error reason ↔
      ¬condition ∧ reason = .reason text := by
  unfold require
  split
  · rename_i holds
    simp [holds]
  · rename_i fails
    simp [fails, eq_comm]

theorem requireCustom_eq_error {condition : Prop} [Decidable condition] {name : String} :
    (requireCustom condition name : Result Unit) = .error reason ↔
      ¬condition ∧ reason = .custom name := by
  unfold requireCustom
  split
  · rename_i holds
    simp [holds]
  · rename_i fails
    simp [fails, eq_comm]

theorem requirePanic_eq_error {condition : Prop} [Decidable condition] {code : Nat} :
    (requirePanic condition code : Result Unit) = .error reason ↔
      ¬condition ∧ reason = .panic code := by
  unfold requirePanic
  split
  · rename_i holds
    simp [holds]
  · rename_i fails
    simp [fails, eq_comm]

theorem passed_eq_error {first : Result Unit} {next : Unit → Result A} (passed : first = .ok ()) :
    (first >>= next) = .error reason ↔ next () = .error reason := by
  rw [passed]
  rfl

theorem handed_eq_error {first : Result A} {hand : A → B} :
    (first >>= fun value => pure (hand value)) = .error reason ↔ first = .error reason := by
  cases first with
  | error reason => exact ⟨congrArg _ ∘ Except.error.inj, congrArg _ ∘ Except.error.inj⟩
  | ok value => exact ⟨nofun, nofun⟩

theorem lift_eq_revert {S Q R : Type} {result : Result A} :
    (liftM result : Outcome Revert S Q R A) = .revert reason ↔ result = .error reason := by
  cases result with
  | error reason => exact ⟨congrArg _ ∘ Outcome.revert.inj, congrArg _ ∘ Except.error.inj⟩
  | ok value => exact ⟨nofun, nofun⟩

theorem handed_eq_revert {S Q R : Type} {result : Result A} {hand : A → B} :
    ((liftM result : Outcome Revert S Q R A) >>= fun value => pure (hand value)) =
      .revert reason ↔ result = .error reason := by
  cases result with
  | error reason => exact ⟨congrArg _ ∘ Outcome.revert.inj, congrArg _ ∘ Except.error.inj⟩
  | ok value => exact ⟨nofun, nofun⟩

end Errors

namespace Registry

variable {deployment : Deployment} {world : World} {msg : Msg} {call : Call}
  {state state' : State} {tokenId : Uint256} {fresh : List Event}

def createdPair : Event → Option Pair
  | .CreateSRR _ _ artistAddress _ metadataCID _ => some (metadataCID, artistAddress)
  | _ => none

/-- The pairs that records were created with. -/
def pairs (state : State) : List Pair := state.logs.filterMap createdPair

def Call.pair : Call → Option Pair
  | .createSRRFromLicensedUser _ artistAddress metadataCID _ _ _ _ =>
      some (metadataCID, artistAddress)
  | .createSRRFromBulk _ artistAddress metadataCID _ _ _ _ _ => some (metadataCID, artistAddress)
  | _ => none

theorem pairs_emit {event : Event} (silent : createdPair event = none) :
    pairs (state.emit event) = pairs state := by
  unfold pairs State.emit
  rw [List.filterMap_cons, silent]

theorem Aside.pairs (aside : Aside state state') : pairs state' = pairs state := by
  apply aside.filterMap
  intro event quiet
  cases event <;> first | rfl | cases quiet

theorem transfer_pairs {from_ to_ : Address}
    (moved : _transfer state from_ to_ tokenId = .ok state') : pairs state' = pairs state := by
  obtain ⟨_, _, _, _, _, rfl⟩ := transfer_accepted moved
  rfl

theorem createSRRFor_pairs {isPrimaryIssuer lockExternalTransfer_ : Bool}
    {artistAddress issuerAddress to_ royaltyReceiver : Address} {metadataCID : Bytes}
    {royaltyBasisPoints : Uint16}
    (created : createSRRFor deployment state isPrimaryIssuer artistAddress metadataCID issuerAddress
      lockExternalTransfer_ to_ royaltyReceiver royaltyBasisPoints = .ok (state', tokenId)) :
    pairs state' = (metadataCID, artistAddress) :: pairs state := by
  obtain ⟨middle, first, ending⟩ := createSRRFor_accepted created
  obtain ⟨_, minted, mint, aside⟩ := createSRR_aside first
  obtain ⟨_, _, _, rfl⟩ := mint_accepted mint
  have recorded : pairs middle = (metadataCID, artistAddress) :: pairs state := by
    rw [aside.pairs]
    rfl
  rcases ending with ⟨_, passed⟩ | ⟨_, rfl⟩
  · rw [transfer_pairs passed, recorded]
  · exact recorded

theorem approveSRRByCommitment_pairs {customHistoryId : Uint256} {commitment : Bytes32}
    {historyMetadataHash : Bytes}
    (approved : _approveSRRByCommitment state tokenId commitment historyMetadataHash
      customHistoryId = .ok state') : pairs state' = pairs state := by
  have prior : pairs (cancelPriorApproval state tokenId) = pairs state := by
    unfold cancelPriorApproval
    split
    · rfl
    · rfl
  obtain ⟨_, _, rfl, ⟨_, rfl⟩ | ⟨_, rfl⟩⟩ := approveSRRByCommitment_accepted approved
  · exact prior
  · exact prior

theorem pair_aside (aside : call.aside = true) : call.pair = none := by
  cases call <;> first | rfl | cases aside

theorem Accepted.pairs (accepted : Accepted deployment world msg state call state') :
    pairs state' = call.pair.toList ++ pairs state := by
  cases accepted with
  | aside aside same =>
      rw [same.pairs, pair_aside aside]
      rfl
  | createSRRFromLicensedUser _ creates => exact createSRRFor_pairs creates
  | createSRRFromBulk _ creates => exact createSRRFor_pairs creates
  | approveSRRByCommitmentFromBulk _ _ approved => exact approveSRRByCommitment_pairs approved
  | approveSRRByCommitment _ approved => exact approveSRRByCommitment_pairs approved
  | approveSRRByCommitmentWithHistory _ _ approved => exact approveSRRByCommitment_pairs approved
  | transferSRRByReveal revealed =>
      obtain ⟨_, _, moved⟩ := transferSRRByReveal_accepted revealed
      exact (transfer_pairs moved).trans rfl
  | updateCustomHistory _ _ _ =>
      refine (pairs_emit rfl).trans ?_
      split
      · rfl
      · rfl
  | transferFrom _ _ moved => exact transfer_pairs moved
  | safeTransferFrom _ _ moved => exact transfer_pairs moved
  | transferFromWithProvenance _ _ moved => exact (transfer_pairs moved).trans rfl
  | transferFromWithProvenanceFromBulk _ _ _ moved =>
      exact (transfer_pairs moved).trans rfl
  | _ => rfl

theorem Runs.pairs {middle : State} {msg' : Msg} {call' : Call}
    (runs : Runs deployment state msg call middle msg' call') : pairs middle = pairs state := by
  induction runs with
  | direct state msg call => rfl
  | wrapped accepted dispatched _ ih =>
      rw [ih]
      simp only [acceptMetaTransaction, bind_eq_ok, pure_eq_ok] at accepted
      obtain ⟨_, _, _, _, _, _, rfl⟩ := accepted
      rfl

theorem pair_unposted (quiet : call.posts = false) : call.pair = none := by
  cases call <;> first | rfl | cases quiet

theorem birth_pair {birth : Birth} (named : call.birth deployment msg state = some birth) :
    call.pair.map (idOf deployment.evm) = some birth.tokenId := by
  cases call <;> cases named <;> rfl

theorem handover_pair {handed : Uint256 × Address} (handover : call.handover = some handed) :
    call.pair = none := by
  cases call <;> first | rfl | cases handover

theorem passed_owner {to_ : Address} (owned : state._tokenOwner tokenId ≠ 0) (given : to_ ≠ 0)
    (token : Uint256) :
    ((ledger state).pass 0 (state._tokenOwner tokenId) to_ tokenId).owner token ≠ 0 ↔
      state._tokenOwner token ≠ 0 := by
  by_cases same : token = tokenId
  · subst same
    simp only [Ledger.pass, Function.update_self]
    exact iff_of_true given owned
  · simp only [Ledger.pass, Function.update_of_ne same, ledger]

theorem Posting.takes {entered : Ledger Uint256 Address ℤ}
    (posting : Posting deployment msg state call entered) (token : Uint256) :
    entered.owner token ≠ 0 ↔
      state._tokenOwner token ≠ 0 ∨ call.pair.map (idOf deployment.evm) = some token := by
  cases posting with
  | quiet quiet => simp [pair_unposted quiet, ledger]
  | @create _ birth named absent issuer =>
      obtain ⟨owner, someone, owners⟩ := birth.entered_owner (ledger state) issuer
      rw [owners, birth_pair named, Option.some.injEq]
      by_cases same : birth.tokenId = token
      · subst same
        rw [Function.update_self]
        exact iff_of_true someone (Or.inr rfl)
      · rw [Function.update_of_ne (Ne.symm same)]
        simp [same, ledger]
  | hand handover owned given =>
      rw [passed_owner owned given, handover_pair handover]
      simp
  | reveal owned given =>
      rw [passed_owner owned given]
      simp [Call.pair]
  | approve _ => simp [Call.pair, Ledger.approve, ledger]
  | setLock _ => simp [Call.pair, Ledger.setLock, ledger]

/-- The tokens that exist are those that were created. -/
def Created (evm : Evm) (state : State) : Prop :=
  Tracks (fun tokenId => state._tokenOwner tokenId ≠ 0) (pairs state) (idOf evm)

theorem perform_created {depth : Nat}
    (ran : (perform deployment world depth msg call state).front = some state')
    (created : Created deployment.evm state) : Created deployment.evm state' := by
  obtain ⟨middle, msg', call', runs, accepted⟩ := perform_accepted ran
  have owners : middle._tokenOwner = state._tokenOwner := congrArg Ledger.owner runs.ledger
  have before : Created deployment.evm middle := by
    unfold Created
    rw [owners, runs.pairs]
    exact created
  exact before.add call'.pair accepted.pairs accepted.posting.takes

def srrAlreadyExists : Revert :=
  .reason "SRR already exists on chain for artist/metadata combination"

theorem ownerOf_errs {reason : Revert} (erred : ownerOf state tokenId = .error reason) :
    reason ≠ srrAlreadyExists := by
  simp only [ownerOf, bind_eq_error, require_eq_error] at erred
  rcases erred with ⟨_, rfl⟩ | ⟨_, _, erred⟩
  · decide
  · cases erred

theorem transfer_errs {from_ to_ : Address} {reason : Revert}
    (erred : _transfer state from_ to_ tokenId = .error reason) : reason ≠ srrAlreadyExists := by
  simp only [_transfer, _approve, bind_eq_error, require_eq_error, requirePanic_eq_error] at erred
  rcases erred with missing | ⟨_, _, ⟨_, rfl⟩ | ⟨_, _, ⟨_, rfl⟩ | ⟨_, _, approves |
    ⟨_, _, ⟨_, rfl⟩ | ⟨_, _, ⟨_, rfl⟩ | ⟨_, _, erred⟩⟩⟩⟩⟩⟩
  · exact ownerOf_errs missing
  · decide
  · decide
  · rcases approves with missing | ⟨_, _, erred⟩
    · exact ownerOf_errs missing
    · cases erred
  · decide
  · decide
  · cases erred

theorem mint_errs {to_ : Address} {reason : Revert}
    (erred : _mint state to_ tokenId = .error reason) : reason ≠ srrAlreadyExists := by
  simp only [_mint, bind_eq_error, require_eq_error, requirePanic_eq_error] at erred
  rcases erred with ⟨_, rfl⟩ | ⟨_, _, ⟨_, rfl⟩ | ⟨_, _, ⟨_, rfl⟩ | ⟨_, _, erred⟩⟩⟩
  · decide
  · decide
  · decide
  · cases erred

theorem saveRoyalties_errs {basisPoints : Uint16} {receiver : Address} {reason : Revert}
    (erred : _saveRoyalties state tokenId basisPoints receiver = .error reason) :
    reason ≠ srrAlreadyExists := by
  simp only [_saveRoyalties, tokenExists, bind_eq_error, require_eq_error] at erred
  rcases erred with ⟨_, rfl⟩ | ⟨_, _, ⟨_, rfl⟩ | ⟨_, _, ⟨_, rfl⟩ | ⟨_, _, erred⟩⟩⟩
  · decide
  · decide
  · decide
  · cases erred

section Refusal

variable {isPrimaryIssuer lockExternalTransfer_ : Bool}
  {artistAddress issuerAddress to_ royaltyReceiver : Address} {metadataCID : Bytes}
  {royaltyBasisPoints : Uint16}

theorem createSRR_refused (given : metadataCID ≠ []) :
    _createSRR deployment state isPrimaryIssuer artistAddress metadataCID issuerAddress
        lockExternalTransfer_ royaltyReceiver royaltyBasisPoints = .error srrAlreadyExists ↔
      state._tokenOwner (generate deployment.evm metadataCID artistAddress) ≠ 0 := by
  have long : 0 < metadataCID.length := List.length_pos_iff.mpr given
  constructor
  · intro refused
    simp only [_createSRR, bind_eq_error, require_eq_error] at refused
    rcases refused with ⟨empty, _⟩ | ⟨_, _, ⟨taken, _⟩ | ⟨_, _, ⟨_, other⟩ | ⟨_, _, mints |
      ⟨_, _, saves⟩⟩⟩⟩
    · exact absurd long empty
    · exact exists_iff.mp (Bool.eq_true_of_not_eq_false taken)
    · exact absurd other (by decide)
    · exact absurd rfl (mint_errs mints)
    · split at saves
      · rcases bind_eq_error.mp saves with saves | ⟨_, _, erred⟩
        · exact absurd rfl (saveRoyalties_errs saves)
        · cases erred
      · cases saves
  · intro taken
    have existing : _exists state (generate deployment.evm metadataCID artistAddress) = true :=
      exists_iff.mpr taken
    simp only [_createSRR, bind_eq_error, require_eq_error, existing]
    exact Or.inr ⟨(), require_eq_ok.mpr long, Or.inl ⟨by decide, rfl⟩⟩

theorem createSRRFor_refused (given : metadataCID ≠ []) :
    createSRRFor deployment state isPrimaryIssuer artistAddress metadataCID issuerAddress
        lockExternalTransfer_ to_ royaltyReceiver royaltyBasisPoints = .error srrAlreadyExists ↔
      state._tokenOwner (generate deployment.evm metadataCID artistAddress) ≠ 0 := by
  rw [← createSRR_refused given]
  unfold createSRRFor
  rw [bind_eq_error]
  refine ⟨fun refused => refused.resolve_right ?_, Or.inl⟩
  rintro ⟨⟨middle, tokenId⟩, _, erred⟩
  simp only at erred
  split at erred
  · rcases bind_eq_error.mp erred with moves | ⟨_, _, erred⟩
    · exact transfer_errs moves rfl
    · cases erred
  · cases erred

end Refusal

/-- The call that creates a record has passed its modifier, and gives a CID. -/
def Call.Admitted (world : World) (msg : Msg) (state : State) : Call → Prop
  | .createSRRFromLicensedUser _ _ metadataCID _ _ _ _ =>
      trustedForwarderOnly msg state = .ok () ∧ metadataCID ≠ []
  | .createSRRFromBulk _ _ metadataCID _ _ _ _ _ =>
      onlyBulk world msg state = .ok () ∧ metadataCID ≠ []
  | _ => False

theorem execute_refused {selfCall : Msg → Call → State → Execution State}
    (admitted : call.Admitted world msg state) {pair : Pair} (named : call.pair = some pair) :
    execute deployment world selfCall msg call state = .revert srrAlreadyExists ↔
      state._tokenOwner (idOf deployment.evm pair) ≠ 0 := by
  cases call with
  | createSRRFromLicensedUser isPrimaryIssuer artistAddress metadataCID lockExternalTransfer to_
      royaltyReceiver royaltyBasisPoints =>
      cases named
      obtain ⟨forwarded, given⟩ := admitted
      have refused := @createSRRFor_refused deployment state isPrimaryIssuer lockExternalTransfer
        artistAddress (sender msg state) to_ royaltyReceiver metadataCID royaltyBasisPoints given
      refine Iff.trans (lift_eq_revert.trans (passed_eq_error forwarded)) ?_
      exact handed_eq_error.trans refused
  | createSRRFromBulk isPrimaryIssuer artistAddress metadataCID issuerAddress lockExternalTransfer
      to_ royaltyReceiver royaltyBasisPoints =>
      cases named
      obtain ⟨bulk, given⟩ := admitted
      have refused := @createSRRFor_refused deployment state isPrimaryIssuer lockExternalTransfer
        artistAddress issuerAddress to_ royaltyReceiver metadataCID royaltyBasisPoints given
      refine Iff.trans handed_eq_revert ?_
      exact (passed_eq_error bulk).trans refused
  | _ => exact admitted.elim

theorem perform_refused {depth : Nat} (admitted : call.Admitted world msg state) {pair : Pair}
    (named : call.pair = some pair) :
    perform deployment world depth msg call state = .revert srrAlreadyExists ↔
      state._tokenOwner (idOf deployment.evm pair) ≠ 0 := by
  cases depth with
  | zero => exact execute_refused admitted named
  | succ depth => exact execute_refused admitted named

end Registry

namespace Collection

variable {evm : Evm} {world : World} {msg : Msg} {call : Call} {state state' : State}
  {tokenId : Uint256}

def createdPair : Event → Option Pair
  | .CreateSRR _ srr metadataCID _ => some (metadataCID, srr.artist)
  | _ => none

/-- The pairs that records were created with. -/
def pairs (state : State) : List Pair := state.logs.filterMap createdPair

def Call.pair : Call → Option Pair
  | .createSRR _ artistAddress metadataCID _ _ _ _ => some (metadataCID, artistAddress)
  | .createSRRFromBulk _ artistAddress metadataCID _ _ _ _ _ => some (metadataCID, artistAddress)
  | _ => none

theorem Aside.pairs (aside : Aside state state') : pairs state' = pairs state := by
  apply aside.filterMap
  intro event quiet
  cases event <;> first | rfl | cases quiet

theorem passOn_pairs (issuerAddress to_ : Address) :
    pairs (passOn state issuerAddress to_ tokenId) = pairs state := by
  unfold passOn
  split
  · rfl
  · rfl

theorem createRecord_pairs {isPrimaryIssuer lockExternalTransfer fromBulk : Bool}
    {artistAddress issuerAddress royaltyReceiver : Address} {metadataCID : Bytes}
    {royaltyBasisPoints : Uint16}
    (creates : createRecord evm world msg state isPrimaryIssuer artistAddress metadataCID
      issuerAddress lockExternalTransfer royaltyReceiver royaltyBasisPoints fromBulk =
        .ok (state', tokenId)) :
    pairs state' = (metadataCID, artistAddress) :: pairs state := by
  obtain ⟨_, _, _, minted, mints, rfl⟩ := createRecord_accepted creates
  obtain ⟨_, _, rfl⟩ := mint_accepted mints
  rw [(upsertRoyalty_aside _ _ _ _).pairs, State.recorded, lockIf]
  split
  · rfl
  · rfl

theorem approveByCommitment_pairs {customHistoryId : Uint256} {commitment : Bytes32}
    {historyMetadataHash : Bytes} {signer : Address}
    (approves : approveByCommitment world state tokenId commitment historyMetadataHash
      customHistoryId signer = .ok state') : pairs state' = pairs state := by
  have prior : pairs (cancelPriorApproval state tokenId signer) = pairs state := by
    unfold cancelPriorApproval
    split
    · rfl
    · rfl
  obtain ⟨_, _, rfl, ⟨_, rfl⟩ | ⟨_, rfl⟩⟩ := approveByCommitment_accepted approves
  · exact prior
  · exact prior

theorem pair_aside (aside : call.aside = true) : call.pair = none := by
  cases call <;> first | rfl | cases aside

theorem Accepted.pairs (accepted : Accepted evm world msg state call state') :
    pairs state' = call.pair.toList ++ pairs state := by
  cases accepted with
  | aside aside same =>
      rw [same.pairs, pair_aside aside]
      rfl
  | createSRR creates => exact (passOn_pairs _ _).trans (createRecord_pairs creates)
  | createSRRFromBulk _ _ creates => exact (passOn_pairs _ _).trans (createRecord_pairs creates)
  | transferFrom moved =>
      obtain ⟨_, _, _, _, rfl⟩ := transferFrom_accepted moved
      rfl
  | safeTransferFrom moved =>
      obtain ⟨_, _, _, _, rfl⟩ := transferFrom_accepted moved
      rfl
  | approveSRRByCommitment _ approved => exact approveByCommitment_pairs approved
  | approveSRRByCommitmentFromBulk _ _ approved => exact approveByCommitment_pairs approved
  | transferSRRByReveal revealed =>
      obtain ⟨_, _, rfl⟩ := transferSRRByReveal_accepted revealed
      rfl
  | _ => rfl

theorem pair_unposted (quiet : call.posts = false) : call.pair = none := by
  cases call <;> first | rfl | cases quiet

theorem Creates.pair {birth : Birth} (creates : Creates evm world msg state birth call) :
    call.pair.map (idOf evm) = some birth.tokenId := by
  cases creates with
  | createSRR _ _ generated => exact congrArg some generated.symm
  | createSRRFromBulk _ _ generated => exact congrArg some generated.symm

theorem Birth.entered_owner (birth : Birth) (before : Ledger Uint256 Address Uint256)
    (issuer : birth.record.issuer ≠ 0) : ∃ owner, owner ≠ 0 ∧
      (birth.entered before).owner = Function.update before.owner birth.tokenId owner := by
  unfold Birth.entered
  split
  · rename_i recipient
    refine ⟨birth.to_, recipient, ?_⟩
    simp [Ledger.pass, birth.minted_owner]
  · exact ⟨birth.record.issuer, issuer, birth.minted_owner before⟩

theorem Hands.pair {to_ : Address} (hands : Hands world msg state tokenId to_ call) :
    call.pair = none := by
  cases hands <;> rfl

theorem Hands.recipient {to_ : Address} (hands : Hands world msg state tokenId to_ call)
    (named : call.uncheckedRecipient ≠ some 0) : to_ ≠ 0 := by
  cases hands with
  | transferFrom _ _ given => exact given
  | safeTransferFrom _ _ _ given => exact given
  | transferFromWithProvenance => exact fun zero => named (congrArg some zero)
  | transferFromWithProvenanceFromBulk => exact fun zero => named (congrArg some zero)

theorem passed_owner {to_ : Address} (owned : state.erc721.ownerOf tokenId ≠ 0) (given : to_ ≠ 0)
    (token : Uint256) :
    ((ledger state).pass 0 (state.erc721.ownerOf tokenId) to_ tokenId).owner token ≠ 0 ↔
      state.erc721.ownerOf token ≠ 0 := by
  by_cases same : token = tokenId
  · subst same
    simp only [Ledger.pass, Function.update_self]
    exact iff_of_true given owned
  · simp only [Ledger.pass, Function.update_of_ne same, ledger]

theorem Posting.takes {entered : Accounts} (posting : Posting evm world msg state call entered)
    (sound : Sound (accounts state)) (sent : msg.sender ≠ 0)
    (named : call.uncheckedRecipient ≠ some 0) (token : Uint256) :
    entered.ledger.owner token ≠ 0 ↔
      state.erc721.ownerOf token ≠ 0 ∨ call.pair.map (idOf evm) = some token := by
  cases posting with
  | quiet quiet => simp [pair_unposted quiet, accounts, ledger]
  | @create _ birth creates absent issuer =>
      obtain ⟨owner, someone, owners⟩ := birth.entered_owner (ledger state) issuer
      rw [owners, creates.pair, Option.some.injEq]
      by_cases same : birth.tokenId = token
      · subst same
        rw [Function.update_self]
        exact iff_of_true someone (Or.inr rfl)
      · rw [Function.update_of_ne (Ne.symm same)]
        simp [same, ledger]
  | hand hands =>
      rw [passed_owner (hands.owned sound sent) (hands.recipient named), hands.pair]
      simp
  | reveal owned _ =>
      rw [passed_owner owned fun zero => named (congrArg some zero)]
      simp [Call.pair]
  | approve _ => simp [Call.pair, Ledger.approve, ledger]
  | allow => simp [Call.pair, accounts, ledger]
  | setLock _ => simp [Call.pair, Ledger.setLock, ledger]

/-- The tokens that exist are those that were created. -/
def Created (evm : Evm) (state : State) : Prop :=
  Tracks (fun tokenId => state.erc721.ownerOf tokenId ≠ 0) (pairs state) (idOf evm)

theorem entry_created {transaction : Transaction}
    (ran : (entry evm transaction state).front = some state') (sent : Sent transaction state)
    (named : Named transaction state) (sound : Sound (accounts state))
    (created : Created evm state) : Created evm state' := by
  have accepted := entry_accepted ran
  exact created.add transaction.call.pair accepted.pairs
    (accepted.posting.takes sound sent named)

theorem mint_errs {to_ : Address} {reason : Revert}
    (erred : _mint state to_ tokenId = .error reason) : reason ≠ .custom "SRRAlreadyExists" := by
  simp only [_mint, bind_eq_error, require_eq_error] at erred
  rcases erred with ⟨_, rfl⟩ | ⟨_, _, ⟨_, rfl⟩ | ⟨_, _, erred⟩⟩
  · decide
  · decide
  · cases erred

/-- What `createRecord` has checked before it looks for the record. -/
def MayCreate (world : World) (msg : Msg) (state : State) (artistAddress : Address)
    (metadataCID : Bytes) (royaltyReceiver : Address) (royaltyBasisPoints : Uint16)
    (fromBulk : Bool) : Prop :=
  (fromBulk = false → msg.sender = trustedForwarder world state ∧
    sender world msg state = state.owner) ∧ metadataCID ≠ [] ∧ artistAddress ≠ 0 ∧
    (royaltyReceiver ≠ 0 → royaltyBasisPoints ≤ 10000)

theorem createRecord_refused {isPrimaryIssuer lockExternalTransfer fromBulk : Bool}
    {artistAddress issuerAddress royaltyReceiver : Address} {metadataCID : Bytes}
    {royaltyBasisPoints : Uint16}
    (may : MayCreate world msg state artistAddress metadataCID royaltyReceiver royaltyBasisPoints
      fromBulk) :
    createRecord evm world msg state isPrimaryIssuer artistAddress metadataCID issuerAddress
        lockExternalTransfer royaltyReceiver royaltyBasisPoints fromBulk =
      .error (.custom "SRRAlreadyExists") ↔
        state.erc721.ownerOf (generate evm metadataCID artistAddress) ≠ 0 := by
  obtain ⟨admitted, given, artist, bounded⟩ := may
  have long : metadataCID.length ≠ 0 := fun empty => given (List.length_eq_zero_iff.mp empty)
  have caller : (if fromBulk = false then do
      onlyTrustedForwarder world msg state
      onlyCollectionOwner state (sender world msg state)
    else pure ()) = (.ok () : Result Unit) := by
    split
    · rename_i direct
      obtain ⟨forwarded, owner⟩ := admitted direct
      simp only [onlyTrustedForwarder, onlyCollectionOwner, bind_eq_ok, requireCustom_eq_ok]
      exact ⟨(), forwarded, owner⟩
    · rfl
  have royalty : (if royaltyReceiver ≠ 0 then notToExceedSalePrice royaltyBasisPoints
      else pure ()) = .ok () := by
    split
    · rename_i received
      exact requireCustom_eq_ok.mpr (bounded received)
    · rfl
  unfold createRecord
  rw [passed_eq_error caller, passed_eq_error (requireCustom_eq_ok.mpr long),
    passed_eq_error (requireCustom_eq_ok.mpr artist), passed_eq_error royalty, bind_eq_error,
    onlyNonExistantToken, requireCustom_eq_error]
  constructor
  · rintro (⟨taken, _⟩ | ⟨_, _, erred⟩)
    · exact exists_iff.mp (Bool.eq_true_of_not_eq_false taken)
    · rcases bind_eq_error.mp erred with mints | ⟨_, _, erred⟩
      · exact absurd rfl (mint_errs mints)
      · cases erred
  · intro taken
    have existing := exists_iff.mpr taken
    exact Or.inl ⟨fun absent => Bool.false_ne_true (absent.symm.trans existing), rfl⟩

/-- The call that creates a record has passed what is checked before the record is looked for. -/
def Call.Admitted (world : World) (msg : Msg) (state : State) : Call → Prop
  | .createSRR _ artistAddress metadataCID _ _ royaltyReceiver royaltyBasisPoints =>
      MayCreate world msg state artistAddress metadataCID royaltyReceiver royaltyBasisPoints false
  | .createSRRFromBulk _ artistAddress metadataCID issuerAddress _ _ royaltyReceiver
      royaltyBasisPoints =>
      onlyBulk world msg state = .ok () ∧ onlyCollectionOwner state issuerAddress = .ok () ∧
        MayCreate world msg state artistAddress metadataCID royaltyReceiver royaltyBasisPoints true
  | _ => False

theorem entry_refused {transaction : Transaction}
    (admitted : transaction.call.Admitted transaction.world transaction.msg state) {pair : Pair}
    (named : transaction.call.pair = some pair) :
    entry evm transaction state = .revert (.custom "SRRAlreadyExists") ↔
      state.erc721.ownerOf (idOf evm pair) ≠ 0 := by
  obtain ⟨world, msg, call⟩ := transaction
  cases call with
  | createSRR isPrimaryIssuer artistAddress metadataCID lockExternalTransfer to_ royaltyReceiver
      royaltyBasisPoints =>
      cases named
      have refused := @createRecord_refused evm world msg state isPrimaryIssuer
        lockExternalTransfer false artistAddress (sender world msg state) royaltyReceiver
        metadataCID royaltyBasisPoints admitted
      exact (lift_eq_revert.trans handed_eq_error).trans refused
  | createSRRFromBulk isPrimaryIssuer artistAddress metadataCID issuerAddress lockExternalTransfer
      to_ royaltyReceiver royaltyBasisPoints =>
      cases named
      obtain ⟨bulk, owner, may⟩ := admitted
      have refused := @createRecord_refused evm world msg state isPrimaryIssuer
        lockExternalTransfer true artistAddress issuerAddress royaltyReceiver metadataCID
        royaltyBasisPoints may
      refine handed_eq_revert.trans ((passed_eq_error bulk).trans ?_)
      exact (passed_eq_error owner).trans (handed_eq_error.trans refused)
  | _ => exact admitted.elim

end Collection

/-- A registry with no token and no history. -/
structure Registry.Empty (state : Registry.State) : Prop where
  unowned : ∀ tokenId, state._tokenOwner tokenId = 0
  silent : state.logs = []

/-- A creation that has passed the checks before this one is refused as a duplicate exactly if a
record was created with a pair whose hash has the same digits. -/
theorem duplicates_refused :
    (∀ (deployment : Registry.Deployment) (Legal : Registry.Transaction → Registry.State → Prop)
      (origin : Registry.State)
      (config : Config Revert Registry.State Registry.Query Reply Registry.Transaction),
      Registry.Empty origin → Reach (Registry.entry deployment) Legal origin config →
      ∀ (transaction : Registry.Transaction) (pair : Pair),
        transaction.call.Admitted transaction.world transaction.msg config.now.state →
        transaction.call.pair = some pair →
        (Registry.entry deployment transaction config.now.state =
            .revert Registry.srrAlreadyExists ↔
          ∃ made ∈ Registry.pairs config.now.state, SharesDigits deployment.evm made pair)) ∧
    ∀ (evm : Evm)
      (config : Config Revert Collection.State Collection.Query Reply Collection.Transaction),
      Reach (Collection.entry evm)
        (fun transaction state => Collection.Sent transaction state ∧
          Collection.Named transaction state) Collection.State.blank config →
      ∀ (transaction : Collection.Transaction) (pair : Pair),
        transaction.call.Admitted transaction.world transaction.msg config.now.state →
        transaction.call.pair = some pair →
        (Collection.entry evm transaction config.now.state =
            .revert (.custom "SRRAlreadyExists") ↔
          ∃ made ∈ Collection.pairs config.now.state, SharesDigits evm made pair) := by
  constructor
  · intro deployment Legal origin config empty reach transaction pair admitted named
    have created : Registry.Created deployment.evm config.now.state := by
      refine reach.invariant (Registry.Created deployment.evm) ?_
        fun transaction state _ before => ?_
      · intro tokenId
        simp [empty.unowned, Registry.pairs, empty.silent]
      · exact (Registry.perform_trailing _ _ _ state).keeps fun state' ran =>
          Registry.perform_created ran before
    refine (Registry.perform_refused admitted named).trans ((created _).trans ?_)
    simp only [idOf_eq_iff]
  · intro evm config reach transaction pair admitted named
    have kept : Collection.Sound (Collection.accounts config.now.state) ∧
        Collection.Created evm config.now.state := by
      refine reach.invariant
        (fun state => Collection.Sound (Collection.accounts state) ∧ Collection.Created evm state)
        ⟨Collection.State.blank_sound, ?_⟩ fun transaction state legal before => ?_
      · intro tokenId
        simp [Collection.State.blank, Collection.pairs]
      · refine (Collection.entry_trailing evm transaction state).keeps fun state' ran => ?_
        exact ⟨(Collection.entry_accepted ran).posting.sound before.1 legal.1,
          Collection.entry_created ran legal.1 legal.2 before.1 before.2⟩
    refine (Collection.entry_refused admitted named).trans ((kept.2 _).trans ?_)
    simp only [idOf_eq_iff]

namespace Registry

-- Two CIDs of one artist with the id 368030731373.
def collidingEvm : Evm :=
  Evm.ofTables
    [(ascii "Qm95488" ++ packWord (0xa271 : Address),
        0x7e4cb3338d2c2ce2556d769819ebb72a608e96ce0092c0ef1e2ba5695b196c6d),
      (ascii "Qm286213" ++ packWord (0xa271 : Address),
        0xf5cb0b60ad8ec69981966b63644d58de59e7f71c30508828ba774e7f1a7a7c6d)] []

def collidingDeployment : Deployment := ⟨collidingEvm, 0x5e1f, fun _ => none⟩

def issueSample (metadataCID : Bytes) : Transaction :=
  sampleCall 0xb17c (.createSRRFromBulk true 0xa271 metadataCID 0xa11ce false 0 0 0)

def issuedRun : Config Revert State Query Reply Transaction :=
  (Config.start State.blank).enter (entry collidingDeployment) (issueSample (ascii "Qm95488"))

theorem State.blank_empty : Empty State.blank := ⟨fun _ => rfl, rfl⟩

set_option maxRecDepth 8000 in
theorem duplicates_refused_repeated :
    entry collidingDeployment (issueSample (ascii "Qm95488")) issuedRun.now.state =
      .revert srrAlreadyExists := by
  have reach : Reach (entry collidingDeployment) (fun _ _ => True) State.blank issuedRun :=
    .enter _ .start trivial
  refine (duplicates_refused.1 collidingDeployment _ State.blank issuedRun State.blank_empty reach
    (issueSample (ascii "Qm95488")) (ascii "Qm95488", 0xa271) ⟨by rfl, by decide⟩ rfl).mpr ?_
  exact ⟨(ascii "Qm95488", 0xa271), by decide, rfl⟩

set_option maxRecDepth 8000 in
theorem collision_refused :
    ¬∀ (deployment : Deployment) (config : Config Revert State Query Reply Transaction),
      Reach (entry deployment) (fun _ _ => True) State.blank config →
      ∀ (transaction : Transaction) (pair : Pair),
        transaction.call.Admitted transaction.world transaction.msg config.now.state →
        transaction.call.pair = some pair →
        deployment.evm.CollisionFree ((pair :: pairs config.now.state).map encodePacked) →
        (entry deployment transaction config.now.state = .revert srrAlreadyExists ↔
          pair ∈ pairs config.now.state) := by
  intro claimed
  have reach : Reach (entry collidingDeployment) (fun _ _ => True) State.blank issuedRun :=
    .enter _ .start trivial
  have refused : entry collidingDeployment (issueSample (ascii "Qm286213")) issuedRun.now.state =
      .revert srrAlreadyExists := by rfl
  have created := (claimed collidingDeployment issuedRun reach (issueSample (ascii "Qm286213"))
    (ascii "Qm286213", 0xa271) ⟨by rfl, by decide⟩ rfl (by decide)).mp refused
  revert created
  decide

end Registry

end Startrail
