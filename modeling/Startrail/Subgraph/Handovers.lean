import Startrail.Subgraph.Provenance

/-!
The changes of a token's owner, as the events tell them, and the entities that they leave. An owner
passes a token on, and may tell of it in the same call before; the entity is then made of what was
told. Two changes in one block share an id, and the later one leaves nothing.
-/

namespace Startrail.Subgraph

/-- What is told of a change of the owner, besides the owners. -/
structure Provenance where
  historyMetadataHash : Bytes
  historyMetadataURI : Bytes
  customHistoryId : Option Uint256
  isIntermediary : Bool
  sender : Option Address

inductive Deed where
  | minted (to_ : Address)
  | passed (from_ to_ : Address)
  | told (from_ to_ : Address) (provenance : Provenance)

structure Handover where
  time : Nat
  from_ : Address
  to_ : Address
  provenance : Option Provenance

/-- The events of a token, each with its time, that take it from one owner to another. The latest
comes first. -/
inductive Course (first : Address) : List (Nat × Deed) → Address → Prop
  | start : Course first [] first
  | minted {earlier time to_} : Course first earlier 0 →
      Course first ((time, .minted to_) :: earlier) to_
  | passed {earlier time from_ to_} : Course first earlier from_ → from_ ≠ 0 →
      Course first ((time, .passed from_ to_) :: earlier) to_
  | told {earlier time from_ to_ provenance} : Course first earlier from_ → from_ ≠ 0 →
      Course first ((time, .passed from_ to_) :: (time, .told from_ to_ provenance) :: earlier) to_

-- A `Provenance` event comes right before its transfer.
def accompanying : List (Nat × Deed) → Option Provenance
  | (_, .told _ _ provenance) :: _ => some provenance
  | _ => none

def handovers : List (Nat × Deed) → List Handover
  | [] => []
  | (time, .passed from_ to_) :: earlier =>
      ⟨time, from_, to_, accompanying earlier⟩ :: handovers earlier
  | _ :: earlier => handovers earlier

section Courses

variable {first middle owner : Address} {deeds late early : List (Nat × Deed)}

theorem Course.trans (before : Course first early middle) (after : Course middle late owner) :
    Course first (late ++ early) owner := by
  induction after with
  | start => exact before
  | minted _ ih => exact .minted ih
  | passed _ given ih => exact .passed ih given
  | told _ given ih => exact .told ih given

theorem Course.unaccompanied (course : Course first deeds owner) : accompanying deeds = none := by
  cases course with
  | start => rfl
  | minted _ => rfl
  | passed _ _ => rfl
  | told _ _ => rfl

def Heralded : List (Nat × Deed) → Prop
  | [] => True
  | (_, .told ..) :: earlier => earlier ≠ [] ∧ Heralded earlier
  | _ :: earlier => Heralded earlier

theorem Course.heralded (course : Course 0 deeds owner) : Heralded deeds := by
  induction course with
  | start => trivial
  | minted _ ih => exact ih
  | passed _ _ ih => exact ih
  | told before given ih =>
      refine ⟨?_, ih⟩
      rintro rfl
      cases before
      exact given rfl

end Courses

section Entities

variable (evm : Evm) (hexForm : Bytes → Bytes) (srrId : Bytes32)

def Handover.id (handover : Handover) : Bytes32 :=
  provenanceId evm srrId (secondsToMillis handover.time)

/-- The entity that is made of a change of the owner, if it is the first under its id. -/
def Handover.entity (handover : Handover) : SRRProvenance where
  srr := srrId
  from_ := handover.from_
  to_ := handover.to_
  sender := handover.provenance.bind Provenance.sender
  metadataDigest :=
    metadataDigestOf hexForm (handover.provenance.map Provenance.historyMetadataHash)
  metadataURI := (handover.provenance.map Provenance.historyMetadataURI).getD []
  customHistory := handover.provenance.bind Provenance.customHistoryId
  isIntermediary := (handover.provenance.map Provenance.isIntermediary).getD false
  timestamp := secondsToMillis handover.time
  createdAt := secondsToMillis handover.time

def Deed.handover (time : Nat) : Deed → Option Handover
  | .minted _ => none
  | .passed from_ to_ => some ⟨time, from_, to_, none⟩
  | .told from_ to_ provenance => some ⟨time, from_, to_, some provenance⟩

theorem Deed.handover_time {time : Nat} (deed : Deed) {handover : Handover}
    (made : deed.handover time = some handover) : handover.time = time := by
  cases deed with
  | minted to_ => cases made
  | passed from_ to_ =>
      cases made
      rfl
  | told from_ to_ provenance =>
      cases made
      rfl

def Deed.entry (time : Nat) (deed : Deed) : Option (Bytes32 × SRRProvenance) :=
  (deed.handover time).map fun handover => (handover.id evm srrId, handover.entity hexForm srrId)

def entries (deeds : List (Nat × Deed)) : List (Bytes32 × SRRProvenance) :=
  deeds.filterMap fun (time, deed) => deed.entry evm hexForm srrId time

variable {evm hexForm srrId} {first owner : Address} {deeds : List (Nat × Deed)}

theorem handovers_logged {handover : Handover} (member : handover ∈ handovers deeds) :
    ∃ deed, (handover.time, deed) ∈ deeds := by
  induction deeds with
  | nil => cases member
  | cons last earlier ih =>
      obtain ⟨time, deed⟩ := last
      cases deed with
      | passed from_ to_ =>
          rcases List.mem_cons.mp member with rfl | before
          · exact ⟨_, List.mem_cons_self⟩
          · exact (ih before).imp fun _ => List.mem_cons_of_mem _
      | minted to_ => exact (ih member).imp fun _ => List.mem_cons_of_mem _
      | told from_ to_ provenance => exact (ih member).imp fun _ => List.mem_cons_of_mem _

theorem Course.entry_mem (course : Course first deeds owner) {entry : Bytes32 × SRRProvenance}
    (member : entry ∈ entries evm hexForm srrId deeds) :
    entry.1 ∈ (handovers deeds).map (Handover.id evm srrId) ∧ entry.2.srr = srrId := by
  induction course with
  | start => cases member
  | minted _ ih => exact ih member
  | passed _ _ ih =>
      rcases List.mem_cons.mp member with rfl | before
      · exact ⟨List.mem_cons_self, rfl⟩
      · exact (ih before).imp_left (List.mem_cons_of_mem _)
  | told _ _ ih =>
      rcases List.mem_cons.mp member with rfl | before
      · exact ⟨List.mem_cons_self, rfl⟩
      · rcases List.mem_cons.mp before with rfl | before
        · exact ⟨List.mem_cons_self, rfl⟩
        · exact (ih before).imp_left (List.mem_cons_of_mem _)

theorem entity_found_cons {older : List (Bytes32 × SRRProvenance)} {items : List Handover}
    {latest : Handover} (covered : ∀ entry ∈ older, entry.1 ∈ items.map (Handover.id evm srrId))
    (unshared : latest.id evm srrId ∉ items.map (Handover.id evm srrId))
    (found : ∀ handover ∈ items,
      register older (handover.id evm srrId) = some (handover.entity hexForm srrId)) :
    ∀ handover ∈ latest :: items,
      register ((latest.id evm srrId, latest.entity hexForm srrId) :: older)
        (handover.id evm srrId) = some (handover.entity hexForm srrId) := by
  intro handover member
  rcases List.mem_cons.mp member with rfl | before
  · have unused : register older (handover.id evm srrId) = none :=
      register_unused fun value entered => unshared (covered _ entered)
    rw [register, enter_unused unused, Function.update_self]
  · exact enter_found (found handover before)

theorem Course.entity_found (course : Course first deeds owner)
    (distinct : ((handovers deeds).map (Handover.id evm srrId)).Nodup) :
    ∀ handover ∈ handovers deeds, register (entries evm hexForm srrId deeds)
      (handover.id evm srrId) = some (handover.entity hexForm srrId) := by
  induction course with
  | start => exact nofun
  | minted _ ih => exact ih distinct
  | @passed earlier time from_ to_ before _ ih =>
      obtain ⟨unshared, distinct⟩ := List.nodup_cons.mp distinct
      rw [handovers, before.unaccompanied]
      exact entity_found_cons (fun _ member => (before.entry_mem member).1) unshared (ih distinct)
  | @told earlier time from_ to_ provenance before _ ih =>
      obtain ⟨unshared, distinct⟩ := List.nodup_cons.mp distinct
      have first := @entity_found_cons evm hexForm srrId _ _ ⟨time, from_, to_, some provenance⟩
        (fun _ member => (before.entry_mem member).1) unshared (ih distinct)
      exact fun handover member => enter_found (first handover member)

end Entities

section Feeds

variable {E : Type}

def deedsOf (deed : E → Option (Uint256 × Deed)) (tokenId : Uint256) (feed : List (Nat × E)) :
    List (Nat × Deed) :=
  feed.filterMap fun (time, event) => (deed event).bind fun (other, said) =>
    if other = tokenId then some (time, said) else none

theorem deedsOf_append {deed : E → Option (Uint256 × Deed)} {tokenId : Uint256}
    {late early : List (Nat × E)} : deedsOf deed tokenId (late ++ early) =
      deedsOf deed tokenId late ++ deedsOf deed tokenId early := List.filterMap_append

theorem deedsOf_cons {deed : E → Option (Uint256 × Deed)} {tokenId other : Uint256} {said : Deed}
    {time : Nat} {event : E} {feed : List (Nat × E)} (named : deed event = some (other, said)) :
    deedsOf deed tokenId ((time, event) :: feed) =
      if other = tokenId then (time, said) :: deedsOf deed tokenId feed
      else deedsOf deed tokenId feed := by
  unfold deedsOf
  rw [List.filterMap_cons]
  simp only [named, Option.bind_some]
  by_cases same : other = tokenId
  · simp [same]
  · simp [same]

theorem deedsOf_silent {deed : E → Option (Uint256 × Deed)} {tokenId : Uint256} {time : Nat}
    {event : E} {feed : List (Nat × E)} (silent : deed event = none) :
    deedsOf deed tokenId ((time, event) :: feed) = deedsOf deed tokenId feed := by
  unfold deedsOf
  rw [List.filterMap_cons]
  simp only [silent, Option.bind_none]

theorem deedsOf_mem {deed : E → Option (Uint256 × Deed)} {tokenId : Uint256} {time : Nat}
    {said : Deed} {feed : List (Nat × E)} (told : (time, said) ∈ deedsOf deed tokenId feed) :
    ∃ event, (time, event) ∈ feed ∧ deed event = some (tokenId, said) := by
  obtain ⟨⟨before, event⟩, belongs, told⟩ := List.mem_filterMap.mp told
  obtain ⟨⟨other, deed⟩, named, told⟩ := Option.bind_eq_some_iff.mp told
  by_cases same : other = tokenId
  · simp only [if_pos same, Option.some.injEq, Prod.mk.injEq] at told
    obtain ⟨rfl, rfl⟩ := told
    exact ⟨event, belongs, same ▸ named⟩
  · simp only [if_neg same, reduceCtorEq] at told

def Deed.moves : Deed → Bool
  | .told .. => false
  | _ => true

theorem Heralded.moved {deeds : List (Nat × Deed)} (heralded : Heralded deeds)
    (spoken : deeds ≠ []) : ∃ time deed, (time, deed) ∈ deeds ∧ Deed.moves deed = true := by
  induction deeds with
  | nil => exact absurd rfl spoken
  | cons last earlier ih =>
      obtain ⟨time, deed⟩ := last
      cases deed with
      | minted to_ => exact ⟨time, _, List.mem_cons_self, rfl⟩
      | passed from_ to_ => exact ⟨time, _, List.mem_cons_self, rfl⟩
      | told from_ to_ provenance =>
          obtain ⟨before, deed, member, moves⟩ := ih heralded.2 heralded.1
          exact ⟨before, deed, List.mem_cons_of_mem _ member, moves⟩

end Feeds

/-- The entity tells of the change, and of what was told of it. -/
structure Records (srrId : Bytes32) (entity : SRRProvenance) (handover : Handover) : Prop where
  srr : entity.srr = srrId
  from_ : entity.from_ = handover.from_
  to_ : entity.to_ = handover.to_
  provenance : ∀ provenance, handover.provenance = some provenance →
    SameHash entity.metadataDigest provenance.historyMetadataHash ∧
    entity.metadataURI = provenance.historyMetadataURI ∧
    entity.customHistory = provenance.customHistoryId ∧
    entity.isIntermediary = provenance.isIntermediary ∧ entity.sender = provenance.sender

def Handover.Legible (handover : Handover) : Prop :=
  ∀ provenance, handover.provenance = some provenance →
    Subgraph.Legible provenance.historyMetadataHash

instance (handover : Handover) : Decidable handover.Legible :=
  match told : handover.provenance with
  | none => isTrue fun _ accompanied => nomatch told.symm.trans accompanied
  | some provenance => decidable_of_iff (Subgraph.Legible provenance.historyMetadataHash)
      ⟨fun legible _ accompanied => Option.some.inj (told.symm.trans accompanied) ▸ legible,
        fun legible => legible provenance told⟩

theorem Handover.records {handover : Handover} {hexForm : Bytes → Bytes} (forms : HexForm hexForm)
    (legible : handover.Legible) (srrId : Bytes32) :
    Records srrId (handover.entity hexForm srrId) handover where
  srr := rfl
  from_ := rfl
  to_ := rfl
  provenance := by
    intro provenance accompanied
    have same := metadataDigest_sameHash forms (legible provenance accompanied)
    simp only [Handover.entity, accompanied]
    exact ⟨same, rfl, rfl, rfl, rfl⟩

/-- Each of the changes has one entity in the history of the record, which tells of it in full, and
there is no other entity there. -/
def Keeps (archive : Archive) (srrId : Bytes32) (changes : List Handover) : Prop :=
  OneEach archive.srrProvenance (fun entity => entity.srr = srrId) (Records srrId) changes

/-- No two of the changes are in blocks of the same time, and the hashes that are told of them and
taken for hex are in hex. -/
structure Separate (changes : List Handover) : Prop where
  times : (changes.map Handover.time).Nodup
  legible : ∀ change ∈ changes, change.Legible

theorem separate_iff {changes : List Handover} : Separate changes ↔
    (changes.map Handover.time).Nodup ∧ ∀ change ∈ changes, change.Legible :=
  ⟨fun separate => ⟨separate.times, separate.legible⟩, fun ⟨times, legible⟩ => ⟨times, legible⟩⟩

instance (changes : List Handover) : Decidable (Separate changes) :=
  decidable_of_iff _ separate_iff.symm

end Startrail.Subgraph
