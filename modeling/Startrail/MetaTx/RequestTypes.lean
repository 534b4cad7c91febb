import Mathlib.Data.List.Nodup
import Startrail.MetaTx.Forwarding

/-!
What a request type is known by. The string of a type is cut at its first parenthesis, since its
name has none; so the string has the name and the suffix, and its hash has them as far as the hash
has no collision. The register has a hash as long as one registration of it stands.
-/

namespace Startrail.MetaTxForwarder

/-- The name and the suffix of a request type. -/
abbrev TypeName := Bytes × Bytes

def typeHash (evm : Evm) (type : TypeName) : Bytes32 := evm.keccak256 (typeString type.1 type.2)

def NameOf (type : TypeName) : Prop := ∀ c ∈ type.1, c ≠ 40 ∧ c ≠ 41

section Strings

theorem cut_inj {α : Type} {mark : α} {front front' back back' : List α} (clear : mark ∉ front)
    (clear' : mark ∉ front') (same : front ++ mark :: back = front' ++ mark :: back') :
    front = front' ∧ back = back' := by
  induction front generalizing front' with
  | nil =>
      cases front' with
      | nil => exact ⟨rfl, (List.cons.inj same).2⟩
      | cons first front' =>
          have first_ := (List.cons.inj same).1
          exact absurd (first_ ▸ List.mem_cons_self) clear'
  | cons first front ih =>
      cases front' with
      | nil =>
          have first_ := (List.cons.inj same).1
          exact absurd (first_ ▸ List.mem_cons_self) clear
      | cons first' front' =>
          obtain ⟨rfl, rest⟩ := List.cons.inj same
          obtain ⟨rfl, rfl⟩ := ih (fun later => clear (List.mem_cons_of_mem _ later))
            (fun later => clear' (List.mem_cons_of_mem _ later)) rest
          exact ⟨rfl, rfl⟩

theorem typeString_cut (_typeName _typeSuffix : Bytes) : typeString _typeName _typeSuffix =
    _typeName ++ 40 :: (GENERIC_PARAMS ++ ascii "," ++ (_typeSuffix ++ ascii ")")) := by
  unfold typeString
  simp only [List.append_assoc]
  rfl

theorem typeString_inj {type other : TypeName} (named : NameOf type) (named' : NameOf other)
    (same : typeString type.1 type.2 = typeString other.1 other.2) : type = other := by
  rw [typeString_cut, typeString_cut] at same
  obtain ⟨names, rest⟩ := cut_inj (fun open_ => (named _ open_).1 rfl)
    (fun open_ => (named' _ open_).1 rfl) same
  exact Prod.ext names (List.append_cancel_right (List.append_cancel_left rest))

end Strings

section Register

variable {deployment : Deployment} {evm : Evm} {world : World} {msg : Msg} {behind : Nat → UInt8}
  {state later : State} {trace : List Transaction} {transaction : Transaction}

/-- The types that have been registered, the latest first. -/
def registered (trace : List Transaction) : List TypeName :=
  trace.filterMap fun transaction => match transaction.call with
    | .registerRequestType _typeName _typeSuffix _ _ => some (_typeName, _typeSuffix)
    | _ => none

/-- The registrations that have not been taken back. -/
def inForce (evm : Evm) : List Transaction → List TypeName
  | [] => []
  | transaction :: earlier =>
      match transaction.call with
      | .registerRequestType _typeName _typeSuffix _ _ =>
          (_typeName, _typeSuffix) :: inForce evm earlier
      | .unregisterRequestType _typeHash =>
          (inForce evm earlier).filter fun type => typeHash evm type ≠ _typeHash
      | _ => inForce evm earlier

def typeStrings (trace : List Transaction) : List Bytes :=
  (registered trace).map fun type => typeString type.1 type.2

structure Kept (evm : Evm) (snapshot : Snapshot State Transaction) : Prop where
  named : ∀ type ∈ registered snapshot.trace, NameOf type
  once : ((inForce evm snapshot.trace).map (typeHash evm)).Nodup
  known : ∀ hash, snapshot.state.typeHashes hash = true ↔
    hash ∈ (inForce evm snapshot.trace).map (typeHash evm)

theorem inForce_passed (passed : transaction.call.editsRegister = false) :
    registered (transaction :: trace) = registered trace ∧
      inForce evm (transaction :: trace) = inForce evm trace := by
  obtain ⟨world, msg, behind, call⟩ := transaction
  cases call with
  | registerRequestType => cases passed
  | unregisterRequestType => cases passed
  | _ => exact ⟨rfl, rfl⟩

theorem registerRequestType_accepted {_typeName _typeSuffix : Bytes}
    {_destinationContract : Address} {_functionSignature : Bytes4}
    (accepted : registerRequestType deployment world msg state _typeName _typeSuffix
      _destinationContract _functionSignature = .ok later) :
    NameOf (_typeName, _typeSuffix) ∧
      state.typeHashes (typeHash deployment.evm (_typeName, _typeSuffix)) = false := by
  obtain ⟨named, unknown, _⟩ := registerRequestType_written rfl accepted
  exact ⟨named, unknown⟩

theorem filter_hash {types : List TypeName} {type : TypeName}
    (once : (types.map (typeHash evm)).Nodup) (listed : type ∈ types) :
    (types.filter fun other => typeHash evm other ≠ typeHash evm type) = types.erase type := by
  rw [List.Nodup.erase_eq_filter (List.Nodup.of_map _ once)]
  apply List.filter_congr
  intro other belongs
  have apart : typeHash evm other = typeHash evm type ↔ other = type :=
    ⟨fun same => List.inj_on_of_nodup_map once belongs listed same, fun same => by rw [same]⟩
  by_cases same : other = type
  · simp [same]
  · simp [apart, same, bne_iff_ne]

theorem Kept.register {_typeName _typeSuffix : Bytes} {_destinationContract : Address}
    {_functionSignature : Bytes4} (kept : Kept deployment.evm ⟨state, trace⟩)
    (accepted : registerRequestType deployment world msg state _typeName _typeSuffix
      _destinationContract _functionSignature = .ok later) :
    Kept deployment.evm ⟨later, ⟨world, msg, behind, .registerRequestType _typeName _typeSuffix
      _destinationContract _functionSignature⟩ :: trace⟩ := by
  obtain ⟨named, unknown⟩ := registerRequestType_accepted accepted
  have fresh : typeHash deployment.evm (_typeName, _typeSuffix) ∉
      (inForce deployment.evm trace).map (typeHash deployment.evm) := by
    intro listed
    rw [(kept.known _).mpr listed] at unknown
    cases unknown
  refine ⟨?_, List.nodup_cons.mpr ⟨fresh, kept.once⟩, ?_⟩
  · intro type listed
    rcases List.mem_cons.mp listed with rfl | earlier
    · exact named
    · exact kept.named type earlier
  · intro hash
    simp only [(registerRequestType_effect accepted).1, Function.update_apply]
    change _ ↔ hash ∈ typeHash deployment.evm (_typeName, _typeSuffix) :: _
    rw [List.mem_cons, ← kept.known hash]
    change (if hash = typeHash deployment.evm (_typeName, _typeSuffix) then true
      else state.typeHashes hash) = true ↔ _
    split
    · rename_i same
      simp [same]
    · rename_i other
      simp [other]

theorem Kept.unregister {_typeHash : Bytes32} (kept : Kept evm ⟨state, trace⟩)
    (accepted : unregisterRequestType world msg state _typeHash = .ok later) :
    Kept evm ⟨later, ⟨world, msg, behind, .unregisterRequestType _typeHash⟩ :: trace⟩ := by
  obtain ⟨_, typeHashes, _⟩ := unregisterRequestType_effect accepted
  refine ⟨kept.named, ?_, ?_⟩
  · exact kept.once.sublist (List.filter_sublist.map _)
  · intro hash
    simp only [typeHashes, Function.update_apply]
    have before := kept.known hash
    simp only [List.mem_map] at before
    simp only [inForce, List.mem_map, List.mem_filter, decide_eq_true_eq]
    constructor
    · intro known
      split at known
      · cases known
      · rename_i other
        obtain ⟨type, listed, rfl⟩ := before.mp known
        exact ⟨type, ⟨listed, other⟩, rfl⟩
    · rintro ⟨type, ⟨listed, other⟩, rfl⟩
      rw [if_neg other]
      exact before.mpr ⟨type, listed, rfl⟩

theorem kept_rule : RegisterRule deployment (Kept deployment.evm) where
  quiet := by
    rintro state later trace ⟨named, once, known⟩ typeHashes _
    refine ⟨named, once, ?_⟩
    simp only [typeHashes]
    exact known
  passed := by
    rintro state trace transaction ⟨named, once, known⟩ passed
    obtain ⟨same, same'⟩ := @inForce_passed deployment.evm trace transaction passed
    refine ⟨?_, ?_, ?_⟩
    · simpa only [same] using named
    · simpa only [same'] using once
    · simpa only [same'] using known
  edited := by
    rintro ⟨world, msg, behind, call⟩ state later trace kept edits ran
    cases call with
    | registerRequestType _typeName _typeSuffix _destinationContract _functionSignature =>
        exact kept.register (Outcome.front_lift (congrArg Outcome.front ran))
    | unregisterRequestType _typeHash =>
        exact kept.unregister (Outcome.front_lift (congrArg Outcome.front ran))
    | _ => cases edits

theorem reach_kept {Legal : Transaction → State → Prop} {origin : State}
    {config : Config Revert State Query Answer Transaction}
    (deployed : Deployed deployment origin)
    (reach : Reach (entry deployment) Legal origin config) :
    Kept deployment.evm config.now := by
  refine kept_rule.reach ⟨?_, List.nodup_nil, ?_⟩ reach
  · intro type listed
    cases listed
  · intro hash
    rw [deployed_typeHashes deployed]
    simp [inForce]

/-- The register in a run: a hash is that of one type, and in force for one registration, which is
the one that is taken back with it. -/
structure Identifies (deployment : Deployment) (snapshot : Snapshot State Transaction) : Prop where
  type : ∀ type ∈ registered snapshot.trace, ∀ other ∈ registered snapshot.trace,
    typeHash deployment.evm type = typeHash deployment.evm other → type = other
  once : ((inForce deployment.evm snapshot.trace).map (typeHash deployment.evm)).Nodup
  known : ∀ hash, snapshot.state.typeHashes hash = true ↔
    ∃ type ∈ inForce deployment.evm snapshot.trace, typeHash deployment.evm type = hash
  removes : ∀ transaction _typeHash later, transaction.call = .unregisterRequestType _typeHash →
    entry deployment transaction snapshot.state = .done later →
    ∃ type ∈ inForce deployment.evm snapshot.trace, typeHash deployment.evm type = _typeHash ∧
      inForce deployment.evm (transaction :: snapshot.trace) =
        (inForce deployment.evm snapshot.trace).erase type ∧
      ∀ hash, later.typeHashes hash = true ↔
        hash ≠ _typeHash ∧ snapshot.state.typeHashes hash = true

theorem Kept.identifies {snapshot : Snapshot State Transaction}
    (kept : Kept deployment.evm snapshot)
    (free : deployment.evm.CollisionFree (typeStrings snapshot.trace)) :
    Identifies deployment snapshot := by
  have known : ∀ hash, snapshot.state.typeHashes hash = true ↔
      ∃ type ∈ inForce deployment.evm snapshot.trace, typeHash deployment.evm type = hash := by
    intro hash
    rw [kept.known hash, List.mem_map]
  refine ⟨?_, kept.once, known, ?_⟩
  · intro type listed other listed' same
    exact typeString_inj (kept.named type listed) (kept.named other listed')
      (free _ (List.mem_map_of_mem listed) _ (List.mem_map_of_mem listed') same)
  · rintro ⟨world, msg, behind, call⟩ _typeHash later rfl ran
    obtain ⟨standing, typeHashes, _⟩ :=
      unregisterRequestType_effect (Outcome.front_lift (congrArg Outcome.front ran))
    obtain ⟨type, listed, rfl⟩ := (known _typeHash).mp standing
    refine ⟨type, listed, rfl, filter_hash kept.once listed, ?_⟩
    intro hash
    rw [typeHashes, Function.update_apply]
    split
    · rename_i same
      simp [same]
    · rename_i other
      simp [other]

end Register

end Startrail.MetaTxForwarder
