import Startrail.Locks
import Startrail.Registry.Records

/-!
A new record of the registry is exactly what it was created with. The functions that create
a record write some fields of its storage and leave the others as they find them, so this
rests on an invariant: nothing is stored under an id until it has an owner.
-/

namespace Startrail.Registry

section Views

def hexChar (hex : UInt8) : UInt8 := hex + if hex < 10 then 48 else 87

-- `StartrailRegistryLibraryV1.bytes32ToString`.
def bytes32ToString (b32 : Bytes32) : Bytes :=
  (packWord b32).flatMap fun (byte : UInt8) => [hexChar (byte >>> 4), hexChar ((byte <<< 4) >>> 4)]

def tokenURIFromBytes32 (_metadataDigest : Bytes32) (_uriPrefix _uriPostfix : Bytes) : Bytes :=
  _uriPrefix ++ ascii "0x" ++ bytes32ToString _metadataDigest ++ _uriPostfix

def tokenURIFromString (_metadataDigest _uriPrefix _uriPostfix : Bytes) : Bytes :=
  _uriPrefix ++ _metadataDigest ++ _uriPostfix

-- The overload of `tokenURI` for a token.
def tokenURIOf (state : State) (tokenId : Uint256) : Bytes :=
  if 0 < (state._stringStorage tokenId ._SRR ._METADATA_HASH).length then
    tokenURIFromString (state._stringStorage tokenId ._SRR ._METADATA_HASH) (ascii "ipfs://") []
  else
    tokenURIFromBytes32 (state._bytes32Storage tokenId ._SRR ._METADATA_HASH)
      (state._stringStorage SRR_GLOBAL_SLOT ._SRR ._URI_PREFIX)
      (state._stringStorage SRR_GLOBAL_SLOT ._SRR ._URI_POSTFIX)

end Views

namespace Creation

variable (creation : Creation)

def birth (deployment : Deployment) : Birth :=
  ⟨creation.tokenId deployment, creation.issuerAddress, creation.lockExternalTransfer,
    creation.to_⟩

def royalty : RoyaltyInfo :=
  if creation.royaltyReceiver ≠ 0 then ⟨creation.royaltyReceiver, creation.royaltyBasisPoints⟩
  else ⟨0, 0⟩

def owner : Address := if creation.to_ ≠ 0 then creation.to_ else creation.issuerAddress

end Creation

/-- Nothing is stored under the ids of records that do not exist. -/
def Unwritten (state : State) : Prop :=
  ∀ tokenId : Uint256, tokenId.toNat < 10 ^ 12 → state._tokenOwner tokenId = 0 →
    details state tokenId = Details.blank ∧ state._tokenApprovals tokenId = 0

structure SameToken (before after : State) (tokenId : Uint256) : Prop where
  owner : after._tokenOwner tokenId = before._tokenOwner tokenId
  approved : after._tokenApprovals tokenId = before._tokenApprovals tokenId
  details : details after tokenId = details before tokenId

/-- What the views show of a new record, and what has become of the others. -/
structure Fresh (creation : Creation) (tokenId : Uint256) (before after : State) : Prop where
  srr : getSRR after tokenId = .ok (creation.srr, 0, creation.metadataCID)
  uri : tokenURIOf after tokenId = ascii "ipfs://" ++ creation.metadataCID
  lock : lockExternalTransfer after tokenId = creation.lockExternalTransfer
  royalty : after.royalties tokenId = creation.royalty
  approved : getApproved after tokenId = .ok 0
  commitment : getSRRCommitment after tokenId = .ok Approval.none
  owner : ownerOf after tokenId = .ok creation.owner
  others : ∀ other, other ≠ tokenId → SameToken before after other

variable {deployment : Deployment} {world : World} {msg : Msg} {state state' : State}
  {tokenId : Uint256} {call : Call}

theorem creation_birth {creation : Creation}
    (named : call.creation msg state = some creation) :
    call.birth deployment msg state = some (creation.birth deployment) := by
  cases call with
  | createSRRFromLicensedUser =>
      cases named
      rfl
  | createSRRFromBulk =>
      cases named
      rfl
  | _ => cases named

theorem Posting.born {birth : Birth} {entered : Ledger Uint256 Address ℤ}
    (posting : Posting deployment msg state call entered)
    (named : call.birth deployment msg state = some birth) :
    state._tokenOwner birth.tokenId = 0 ∧ birth.issuer ≠ 0 ∧
      entered = birth.entered (ledger state) := by
  cases posting with
  | quiet silent =>
      cases call with
      | createSRRFromLicensedUser => cases silent
      | createSRRFromBulk => cases silent
      | _ => cases named
  | create same absent issuer =>
      cases Option.some.inj (same.symm.trans named)
      exact ⟨absent, issuer, rfl⟩
  | hand handover =>
      cases call with
      | createSRRFromLicensedUser => cases handover
      | createSRRFromBulk => cases handover
      | _ => cases named
  | reveal => cases named
  | approve => cases named
  | setLock => cases named

theorem Posting.unowned {entered : Ledger Uint256 Address ℤ}
    (posting : Posting deployment msg state call entered) (unowned : entered.owner tokenId = 0) :
    state._tokenOwner tokenId = 0 ∧ entered.approved tokenId = state._tokenApprovals tokenId := by
  have passed : ∀ (token : Uint256) (to_ : Address), to_ ≠ 0 →
      ((ledger state).pass 0 (state._tokenOwner token) to_ token).owner tokenId = 0 →
      state._tokenOwner tokenId = 0 ∧
        ((ledger state).pass 0 (state._tokenOwner token) to_ token).approved tokenId =
          state._tokenApprovals tokenId := by
    intro token to_ recipient unowned
    by_cases same : tokenId = token
    · subst same
      exact absurd (by simpa [Ledger.pass] using unowned) recipient
    · simpa [Ledger.pass, same, ledger] using unowned
  cases posting with
  | quiet _ => exact ⟨unowned, rfl⟩
  | @create _ birth _ absent issuer =>
      obtain ⟨owner, someone, owners⟩ := birth.entered_owner (ledger state) issuer
      by_cases same : tokenId = birth.tokenId
      · subst same
        rw [owners, Function.update_self] at unowned
        exact absurd unowned someone
      · obtain ⟨owner, approved⟩ := birth.entered_other (ledger state) same
        exact ⟨owner.symm.trans unowned, approved⟩
  | hand _ _ recipient => exact passed _ _ recipient unowned
  | reveal _ recipient => exact passed _ _ recipient unowned
  | @approve to_ token owned =>
      have other : tokenId ≠ token := by
        rintro rfl
        exact owned unowned
      exact ⟨unowned, Function.update_of_ne other _ _⟩
  | setLock _ => exact ⟨unowned, rfl⟩

theorem Edits.unowned {written : Details}
    (edits : Edits deployment world msg state tokenId call written)
    (unowned : state._tokenOwner tokenId = 0) :
    written = details state tokenId ∨ ∃ creation, call.creation msg state = some creation ∧
      creation.tokenId deployment = tokenId := by
  cases edits with
  | kept => exact Or.inl rfl
  | created named generated _ => exact Or.inr ⟨_, named, generated⟩
  | updateSRR _ _ owned _ => exact absurd unowned owned
  | updateSRRMetadata _ owned _ => exact absurd unowned owned
  | updateSRRRoyalty _ _ owned _ _ => exact absurd unowned owned
  | updateSRRRoyaltyReceiverMulti _ owned _ _ _ => exact absurd unowned owned
  | setLockExternalTransfer _ owned _ => exact absurd unowned owned
  | committed _ owned _ => exact absurd unowned owned
  | transferSRRByReveal _ _ _ owned => exact absurd unowned owned

theorem Runs.creation {middle : State} {msg' : Msg} {call' : Call}
    (runs : Runs deployment state msg call middle msg' call') :
    call'.creation msg' middle = call'.creation msg' state := by
  obtain ⟨_, nonces, logs, rfl⟩ := runs.context
  cases call' <;> rfl

theorem perform_unwritten {depth : Nat}
    (ran : (perform deployment world depth msg call state).front = some state')
    (unwritten : Unwritten state) : Unwritten state' := by
  obtain ⟨middle, msg', call', runs, accepted, edits⟩ := perform_edits ran
  intro tokenId small unowned
  have posting := accepted.posting
  obtain ⟨absent, unapproved⟩ := posting.unowned unowned
  have owners : middle._tokenOwner = state._tokenOwner := congrArg Ledger.owner runs.ledger
  have approvals : middle._tokenApprovals = state._tokenApprovals :=
    congrArg Ledger.approved runs.ledger
  rw [owners] at absent
  obtain ⟨blank, nothing⟩ := unwritten tokenId small absent
  have kept : state'._tokenApprovals tokenId = middle._tokenApprovals tokenId := unapproved
  rw [kept, approvals, nothing]
  refine ⟨?_, rfl⟩
  rcases (edits tokenId).unowned absent with same | ⟨creation, named, rfl⟩
  · rw [same, blank]
  · rw [← runs.creation] at named
    obtain ⟨_, issuer, entered⟩ := posting.born (creation_birth named)
    obtain ⟨owner, someone, given⟩ :=
      (creation.birth deployment).entered_owner (ledger middle) issuer
    have owned : (ledger state').owner (creation.tokenId deployment) = owner := by
      rw [entered, given]
      exact Function.update_self ..
    exact absurd (owned.symm.trans unowned) someone

theorem Accepted.made {creation : Creation}
    (accepted : Accepted deployment world msg state call state')
    (named : call.creation msg state = some creation) :
    creation.metadataCID ≠ [] ∧ ∀ tokenId, details state' tokenId =
      if tokenId = creation.tokenId deployment then creation.written (details state tokenId)
      else details state tokenId := by
  cases accepted with
  | createSRRFromLicensedUser _ creates =>
      cases named
      obtain ⟨given, _, written⟩ :=
        @createSRRFor_details _ _ _ ⟨_, _, _, _, _, _, _, _⟩ _ creates
      exact ⟨given, written⟩
  | createSRRFromBulk _ creates =>
      cases named
      obtain ⟨given, _, written⟩ :=
        @createSRRFor_details _ _ _ ⟨_, _, _, _, _, _, _, _⟩ _ creates
      exact ⟨given, written⟩
  | aside aside _ =>
      cases call with
      | createSRRFromLicensedUser => cases aside
      | createSRRFromBulk => cases aside
      | _ => cases named
  | _ => cases named

theorem Creation.entered (creation : Creation) (deployment : Deployment)
    (before : Ledger Uint256 Address ℤ)
    (unapproved : before.approved (creation.tokenId deployment) = 0) :
    ((creation.birth deployment).entered before).owner (creation.tokenId deployment) =
        creation.owner ∧
      ((creation.birth deployment).entered before).approved (creation.tokenId deployment) = 0 := by
  refine ⟨?_, (creation.birth deployment).entered_approved before unapproved⟩
  unfold Birth.entered Creation.owner
  by_cases passed : creation.to_ ≠ 0
  · have here : (creation.birth deployment).to_ ≠ 0 := passed
    rw [if_pos here, if_pos passed]
    exact Function.update_self _ _ _
  · have here : ¬(creation.birth deployment).to_ ≠ 0 := passed
    rw [if_neg here, if_neg passed, Birth.minted_owner]
    exact Function.update_self _ _ _

theorem Creation.owner_ne {creation : Creation} (issuer : creation.issuerAddress ≠ 0) :
    creation.owner ≠ 0 := by
  unfold Creation.owner
  split
  · assumption
  · exact issuer

theorem getSRR_details (owned : state._tokenOwner tokenId ≠ 0) :
    getSRR state tokenId = .ok ((details state tokenId).srr,
      (details state tokenId).metadataDigest, (details state tokenId).metadataCID) := by
  simp only [getSRR, tokenExists, bind_eq_ok, require_eq_ok, pure_eq_ok, exists_iff]
  exact ⟨(), owned, rfl⟩

theorem tokenURIOf_details (given : (details state tokenId).metadataCID ≠ []) :
    tokenURIOf state tokenId = ascii "ipfs://" ++ (details state tokenId).metadataCID := by
  have stored : 0 < (state._stringStorage tokenId ._SRR ._METADATA_HASH).length :=
    List.length_pos_iff.mpr given
  unfold tokenURIOf tokenURIFromString
  rw [if_pos stored, List.append_nil]
  rfl

theorem getSRRCommitment_details (owned : state._tokenOwner tokenId ≠ 0) :
    getSRRCommitment state tokenId = .ok (details state tokenId).commitment := by
  simp only [getSRRCommitment, tokenExists, bind_eq_ok, require_eq_ok, pure_eq_ok, exists_iff]
  exact ⟨(), owned, rfl⟩

theorem perform_fresh {creation : Creation} {depth : Nat} {middle : State} {msg' : Msg}
    {call' : Call} (runs : Runs deployment state msg call middle msg' call')
    (named : call'.creation msg' middle = some creation)
    (ran : (perform deployment world depth msg call state).front = some state')
    (unwritten : Unwritten state) :
    Fresh creation (creation.tokenId deployment) state state' := by
  have accepted := runs.accepted ran (by rintro _ _ _ _ _ rfl; cases named)
  obtain ⟨given, written⟩ := accepted.made named
  obtain ⟨absent, issuer, entered⟩ := accepted.posting.born (creation_birth named)
  rw [runs.ledger] at entered
  have owners : middle._tokenOwner = state._tokenOwner := congrArg Ledger.owner runs.ledger
  obtain ⟨_, nonces, logs, rfl⟩ := runs.context
  have small : (creation.tokenId deployment).toNat < 10 ^ 12 := Collection.generate_lt _ _
  obtain ⟨blank, unapproved⟩ := unwritten _ small absent
  obtain ⟨owner, approved⟩ := creation.entered deployment (ledger state) unapproved
  rw [← entered] at owner approved
  have present : details state' (creation.tokenId deployment) = creation.written Details.blank := by
    rw [written, if_pos rfl, ← blank]
    rfl
  have owned : state'._tokenOwner (creation.tokenId deployment) ≠ 0 := by
    intro unowned
    exact Creation.owner_ne issuer (owner.symm.trans unowned)
  refine ⟨?_, ?_, ?_, ?_, ?_, ?_, ?_, ?_⟩
  · rw [getSRR_details owned, present]
    rfl
  · rw [tokenURIOf_details (present ▸ given), present]
    rfl
  · exact congrArg Details.lockExternalTransfer present
  · exact congrArg Details.royalty present
  · exact getApproved_eq_ok.mpr ⟨owned, approved⟩
  · rw [getSRRCommitment_details owned, present]
    rfl
  · exact ownerOf_eq_ok.mpr ⟨owned, owner⟩
  · intro other different
    obtain ⟨owner', approved'⟩ := (creation.birth deployment).entered_other (ledger state) different
    rw [← entered] at owner' approved'
    refine ⟨owner', approved', ?_⟩
    rw [written, if_neg different]
    rfl

theorem creations_clean (deployment : Deployment) (origin : State) (unwritten : Unwritten origin)
    (config : Config Revert State Query Reply Transaction)
    (reach : Reach (entry deployment) (fun _ _ => True) origin config) :
    Unwritten config.now.state ∧
      ∀ transaction state', (entry deployment transaction config.now.state).front = some state' →
        ∀ middle msg call creation,
          Runs deployment config.now.state transaction.msg transaction.call middle msg call →
          call.creation msg config.now.state = some creation →
          Fresh creation (creation.tokenId deployment) config.now.state state' := by
  have kept : Unwritten config.now.state := by
    refine reach.invariant Unwritten unwritten fun transaction state _ before => ?_
    exact (perform_trailing _ _ _ _).keeps fun state' ran => perform_unwritten ran before
  refine ⟨kept, ?_⟩
  intro transaction state' ran middle msg call creation runs named
  rw [← runs.creation] at named
  exact perform_fresh runs named ran kept

theorem State.blank_unwritten : Unwritten State.blank := fun _ _ _ => ⟨rfl, rfl⟩

def saleCreation : Creation := ⟨true, 0xa271, ascii "Qm", 0xa11ce, true, 0xb0b, 0x4a11, 500⟩

def saleSample : Transaction :=
  sampleCall 0xb17c (.createSRRFromBulk true 0xa271 (ascii "Qm") 0xa11ce true 0xb0b 0x4a11 500)

set_option maxRecDepth 8000 in
theorem creations_clean_sale :
    ∃ state', (entry sampleDeployment saleSample State.blank).front = some state' ∧
      Fresh saleCreation recordId State.blank state' := by
  have ran : ((entry sampleDeployment saleSample State.blank).front.map fun state =>
      state._tokenOwner recordId) = some 0xb0b := by decide
  obtain ⟨state', ran, _⟩ := Option.map_eq_some_iff.mp ran
  refine ⟨state', ran, ?_⟩
  have fresh := (creations_clean sampleDeployment State.blank State.blank_unwritten (.start _)
    .start).2 saleSample state' ran _ _ _ saleCreation (.direct _ _ _) rfl
  have generated : saleCreation.tokenId sampleDeployment = recordId := by decide
  rwa [generated] at fresh

end Startrail.Registry
