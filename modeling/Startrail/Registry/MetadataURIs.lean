import Startrail.Library.Tables
import Startrail.Library.Timelines
import Startrail.Registry.Creation

/-!
Where the two overloads of `tokenURI` point. What is stored as a token's metadata is what a call
that creates or updates it gave last; one overload takes it for a CID unless it is empty, the other
unless it has the length of a digest.
-/

namespace Startrail.Registry

/-- The call that is run in the end, with room for that many nested calls. -/
def innermost (deployment : Deployment) : Nat → Call → Call
  | 0, call => call
  | depth + 1, .executeMetaTransaction userAddress callData sigR sigS sigV =>
      match deployment.dispatch (selfMsg deployment userAddress callData).data with
      | some call => innermost deployment depth call
      | none => .executeMetaTransaction userAddress callData sigR sigS sigV
  | _ + 1, call => call

def Call.mints (deployment : Deployment) : Call → Option Uint256
  | .createSRRFromLicensedUser _ artistAddress metadataCID _ _ _ _ =>
      some (generate deployment.evm metadataCID artistAddress)
  | .createSRRFromBulk _ artistAddress metadataCID _ _ _ _ _ =>
      some (generate deployment.evm metadataCID artistAddress)
  | _ => none

/-- The metadata that a call gives to a token. -/
def Call.metadata (deployment : Deployment) : Call → Option (Uint256 × Bytes)
  | .createSRRFromLicensedUser _ artistAddress metadataCID _ _ _ _ =>
      some (generate deployment.evm metadataCID artistAddress, metadataCID)
  | .createSRRFromBulk _ artistAddress metadataCID _ _ _ _ _ =>
      some (generate deployment.evm metadataCID artistAddress, metadataCID)
  | .updateSRRMetadata tokenId metadataCID => some (tokenId, metadataCID)
  | _ => none

def Transaction.innermost (deployment : Deployment) (transaction : Transaction) : Call :=
  Registry.innermost deployment transaction.depth transaction.call

def Minted (deployment : Deployment) (trace : List Transaction) (tokenId : Uint256) : Prop :=
  ∃ transaction ∈ trace, (transaction.innermost deployment).mints deployment = some tokenId

def metadataWrites (deployment : Deployment) (trace : List Transaction) : List (Uint256 × Bytes) :=
  trace.filterMap fun transaction => (transaction.innermost deployment).metadata deployment

/-- The metadata that the last successful call which gave a token any gave it. -/
def lastMetadata (deployment : Deployment) (trace : List Transaction) (tokenId : Uint256) :
    Option Bytes :=
  (metadataWrites deployment trace).lookup tokenId

def metadataOf (state : State) (tokenId : Uint256) : Bytes :=
  state._stringStorage tokenId ._SRR ._METADATA_HASH

variable {deployment : Deployment} {world : World} {msg msg' : Msg} {call call' : Call}
  {state middle state' : State} {tokenId : Uint256} {cid : Bytes}

theorem innermost_direct (direct : ∀ userAddress callData sigR sigS sigV,
    call ≠ .executeMetaTransaction userAddress callData sigR sigS sigV) (depth : Nat) :
    innermost deployment depth call = call := by
  cases depth with
  | zero => rfl
  | succ depth =>
      cases call with
      | executeMetaTransaction => exact absurd rfl (direct _ _ _ _ _)
      | _ => rfl

/-- The call that a successful one runs in the end. -/
theorem Runs.innermost (runs : Runs deployment state msg call middle msg' call')
    (direct : ∀ userAddress callData sigR sigS sigV,
      call' ≠ .executeMetaTransaction userAddress callData sigR sigS sigV) {depth : Nat}
    (ran : (perform deployment world depth msg call state).front = some state') :
    Registry.innermost deployment depth call = call' := by
  induction runs generalizing depth with
  | direct state msg call => exact innermost_direct direct depth
  | @wrapped state accepted middle msg msg' userAddress callData sigR sigS sigV inner call' accepts
      dispatched _ ih =>
      cases depth with
      | zero =>
          obtain ⟨_, _, ran⟩ := Outcome.front_lift_bind ran
          simp only [dispatched] at ran
          cases ran
      | succ depth =>
          obtain ⟨_, accepted', ran⟩ := Outcome.front_lift_bind ran
          rw [accepts] at accepted'
          cases accepted'
          simp only [dispatched, Outcome.front_failWith] at ran
          simp only [Registry.innermost, dispatched]
          exact ih direct ran

theorem Edits.metadata {after : Details}
    (edits : Edits deployment world msg state tokenId call after)
    (unwritten : call.metadata deployment = none) :
    after.metadataCID = metadataOf state tokenId := by
  cases edits with
  | created named _ _ =>
      cases call with
      | createSRRFromLicensedUser => cases unwritten
      | createSRRFromBulk => cases unwritten
      | _ => cases named
  | updateSRRMetadata _ _ _ => cases unwritten
  | _ => rfl

theorem metadata_put {write : Uint256 × Bytes}
    (stored : ∀ tokenId, metadataOf state' tokenId =
      if tokenId = write.1 then write.2 else metadataOf state tokenId) :
    metadataOf state' = put (metadataOf state) (some write) := by
  funext tokenId
  rw [stored tokenId]
  exact (Function.update_apply _ _ _ _).symm

theorem Accepted.metadata {creation : Creation}
    (accepted : Accepted deployment world msg state call state')
    (named : call.creation msg state = some creation) :
    metadataOf state' =
      put (metadataOf state) (some (creation.tokenId deployment, creation.metadataCID)) := by
  apply metadata_put
  intro tokenId
  refine (congrArg Details.metadataCID ((accepted.made named).2 tokenId)).trans ?_
  split
  · rfl
  · rfl

theorem execute_metadata {selfCall : Msg → Call → State → Execution State}
    (ran : (execute deployment world selfCall msg call state).front = some state')
    (direct : ∀ userAddress callData sigR sigS sigV,
      call ≠ .executeMetaTransaction userAddress callData sigR sigS sigV) :
    metadataOf state' = put (metadataOf state) (call.metadata deployment) := by
  have accepted := execute_accepted ran direct
  have kept : call.metadata deployment = none → metadataOf state' = metadataOf state :=
    fun unwritten => funext fun tokenId => (execute_edits ran direct tokenId).metadata unwritten
  cases call with
  | createSRRFromLicensedUser _ _ _ _ _ _ _ => exact accepted.metadata rfl
  | createSRRFromBulk _ _ _ _ _ _ _ _ => exact accepted.metadata rfl
  | updateSRRMetadata updated metadataCID =>
      have updates := Outcome.front_lift ran
      simp only [updateSRRMetadata, bind_eq_ok, pure_eq_ok] at updates
      obtain ⟨_, _, _, _, rfl⟩ := updates
      apply metadata_put
      intro tokenId
      simp [metadataOf, State.emit, Storage.set_apply]
  | _ => exact kept rfl

theorem perform_metadata {depth : Nat}
    (ran : (perform deployment world depth msg call state).front = some state') :
    metadataOf state' =
      put (metadataOf state) ((innermost deployment depth call).metadata deployment) := by
  obtain ⟨middle, msg', call', selfCall, runs, direct, executed⟩ := perform_executes ran
  rw [runs.innermost direct ran, execute_metadata executed direct]
  obtain ⟨_, nonces, logs, rfl⟩ := runs.context
  rfl

theorem reach_metadata {Legal : Transaction → State → Prop} {origin : State}
    {config : Config Revert State Query Reply Transaction}
    (reach : Reach (entry deployment) Legal origin config) :
    metadataOf config.now.state =
      written (metadataOf origin) (metadataWrites deployment config.now.trace) := by
  refine reach.traced (fun state trace => metadataOf state =
    written (metadataOf origin) (metadataWrites deployment trace)) rfl
    (fun transaction state => perform_trailing _ _ _ state) ?_
  intro transaction state state' trace stored ran
  unfold metadataWrites
  rw [written_cons, perform_metadata ran, stored]
  rfl

theorem Minted.written {trace : List Transaction} (minted : Minted deployment trace tokenId) :
    ∃ cid, lastMetadata deployment trace tokenId = some cid := by
  obtain ⟨transaction, member, mints⟩ := minted
  have gives : ∃ cid, (transaction.innermost deployment).metadata deployment =
      some (tokenId, cid) := by
    cases inner : transaction.innermost deployment with
    | createSRRFromLicensedUser _ _ metadataCID _ _ _ _ =>
        rw [inner] at mints
        cases mints
        exact ⟨_, rfl⟩
    | createSRRFromBulk _ _ metadataCID _ _ _ _ _ =>
        rw [inner] at mints
        cases mints
        exact ⟨_, rfl⟩
    | _ =>
        rw [inner] at mints
        cases mints
  obtain ⟨cid, told⟩ := gives
  exact lookup_of_mem (List.mem_filterMap.mpr ⟨transaction, member, told⟩)

section URIs

/-- Both overloads of `tokenURI` point at the metadata. -/
structure PointsAt (state : State) (tokenId : Uint256) (metadataCID : Bytes) : Prop where
  uri : tokenURIOf state tokenId = ascii "ipfs://" ++ metadataCID
  given : metadataCID ≠ []
  same : tokenURI state metadataCID = tokenURIOf state tokenId

def URI_PREFIX (state : State) : Bytes := state._stringStorage SRR_GLOBAL_SLOT ._SRR ._URI_PREFIX

def URI_POSTFIX (state : State) : Bytes := state._stringStorage SRR_GLOBAL_SLOT ._SRR ._URI_POSTFIX

/-- A CID that is there and is not taken for a digest, unless the URI of a digest is the same. -/
def Unmistakable (state : State) (metadataCID : Bytes) : Prop :=
  metadataCID ≠ [] ∧ (metadataCID.length = 66 →
    URI_PREFIX state ++ metadataCID ++ URI_POSTFIX state = ascii "ipfs://" ++ metadataCID)

theorem pointsAt_iff (stored : metadataOf state tokenId = cid) :
    PointsAt state tokenId cid ↔ Unmistakable state cid := by
  subst stored
  have uri : metadataOf state tokenId ≠ [] →
      tokenURIOf state tokenId = ascii "ipfs://" ++ metadataOf state tokenId := tokenURIOf_details
  constructor
  · rintro ⟨_, given, same⟩
    refine ⟨given, ?_⟩
    intro digest
    rw [uri given, tokenURI, if_pos digest] at same
    exact same
  · rintro ⟨given, mistaken⟩
    refine ⟨uri given, given, ?_⟩
    rw [uri given, tokenURI]
    by_cases digest : (metadataOf state tokenId).length = 66
    · rw [if_pos digest]
      exact mistaken digest
    · rw [if_neg digest]

end URIs

/-- In every run, for every record that was created in it. -/
theorem metadata_uris (deployment : Deployment) (Legal : Transaction → State → Prop)
    (origin : State) (config : Config Revert State Query Reply Transaction)
    (reach : Reach (entry deployment) Legal origin config) (tokenId : Uint256)
    (minted : Minted deployment config.now.trace tokenId) :
    ∃ cid, lastMetadata deployment config.now.trace tokenId = some cid ∧
      (PointsAt config.now.state tokenId cid ↔ Unmistakable config.now.state cid) := by
  obtain ⟨cid, last⟩ := minted.written
  refine ⟨cid, last, pointsAt_iff ?_⟩
  rw [reach_metadata reach]
  exact written_of_lookup last

section Samples

def rewrittenRun (metadataCID : Bytes) : Config Revert State Query Reply Transaction :=
  let enter := Config.enter (entry sampleDeployment)
  enter (sampleCall 0xad317 (.updateSRRMetadata recordId metadataCID))
    (enter createSample (.start State.blank))

theorem rewrittenRun_reach (metadataCID : Bytes) :
    Reach (entry sampleDeployment) (fun _ _ => True) State.blank (rewrittenRun metadataCID) :=
  .enter _ (.enter _ .start trivial) trivial

set_option maxRecDepth 8000 in
theorem rewrittenRun_trace (metadataCID : Bytes) : (rewrittenRun metadataCID).now.trace =
    [sampleCall 0xad317 (.updateSRRMetadata recordId metadataCID), createSample] := by
  rfl

theorem rewrittenRun_minted (metadataCID : Bytes) :
    Minted sampleDeployment (rewrittenRun metadataCID).now.trace recordId := by
  refine ⟨createSample, ?_, by decide⟩
  rw [rewrittenRun_trace]
  exact List.mem_cons_of_mem _ List.mem_cons_self

theorem rewrittenRun_last (metadataCID : Bytes) :
    lastMetadata sampleDeployment (rewrittenRun metadataCID).now.trace recordId =
      some metadataCID := by
  rw [rewrittenRun_trace]
  exact List.lookup_cons_self

theorem metadata_uris_rewritten :
    lastMetadata sampleDeployment (rewrittenRun (ascii "Qn")).now.trace recordId =
        some (ascii "Qn") ∧
      PointsAt (rewrittenRun (ascii "Qn")).now.state recordId (ascii "Qn") := by
  have last := rewrittenRun_last (ascii "Qn")
  obtain ⟨cid, last', points⟩ := metadata_uris sampleDeployment _ State.blank _
    (rewrittenRun_reach (ascii "Qn")) recordId (rewrittenRun_minted _)
  obtain rfl := Option.some.inj (last.symm.trans last')
  refine ⟨last, points.mpr ⟨by decide, ?_⟩⟩
  intro digest
  exact absurd digest (by decide)

def longCID : Bytes := List.replicate 66 0x61

set_option maxRecDepth 8000 in
theorem rewrittenRun_long : metadataOf (rewrittenRun longCID).now.state recordId = longCID ∧
    URI_PREFIX (rewrittenRun longCID).now.state = [] ∧
    URI_POSTFIX (rewrittenRun longCID).now.state = [] := by decide

/-- Metadata that is updated to nothing, and metadata as long as a digest in hex. -/
theorem rewrittenRun_mistaken :
    ¬(∀ config, Reach (entry sampleDeployment) (fun _ _ => True) State.blank config →
      ∀ tokenId cid, Minted sampleDeployment config.now.trace tokenId →
        lastMetadata sampleDeployment config.now.trace tokenId = some cid →
          PointsAt config.now.state tokenId cid) ∧
    ¬∀ config, Reach (entry sampleDeployment) (fun _ _ => True) State.blank config →
      ∀ tokenId cid, Minted sampleDeployment config.now.trace tokenId →
        lastMetadata sampleDeployment config.now.trace tokenId = some cid → cid ≠ [] →
          PointsAt config.now.state tokenId cid := by
  constructor
  · intro claimed
    have points := claimed _ (rewrittenRun_reach []) recordId [] (rewrittenRun_minted _)
      (rewrittenRun_last _)
    exact points.given rfl
  · intro claimed
    have points := claimed _ (rewrittenRun_reach longCID) recordId longCID
      (rewrittenRun_minted _) (rewrittenRun_last _) (by decide)
    obtain ⟨stored, noPrefix, noPostfix⟩ := rewrittenRun_long
    have same := ((pointsAt_iff stored).mp points).2 (by decide)
    rw [noPrefix, noPostfix] at same
    exact absurd same (by decide)

end Samples

end Startrail.Registry
