import Startrail.Proxies.Core

/-!
The two words that a proxy keeps for itself. If the implementation leaves them alone
wherever it runs, a call of the proxy changes at most one of them, at first, and
only as `Rules` has it. What the `ProxyAdmin` asks of a proxy the proxy understands.
-/

namespace Startrail.Proxies

structure Slots where
  kind : Kind
  admin : Address
  implementation : Address
deriving DecidableEq

def slotsOf (kind : Kind) (storage : Storage) : Slots :=
  ⟨kind, _admin storage, _implementation storage⟩

def Function.installs : Function → Option Address
  | .upgradeTo newImplementation => some newImplementation
  | .upgradeToAndCall newImplementation _ => some newImplementation
  | _ => none

section Words

variable {code : Code} {storage storage' : Storage} {account : Address}

def SameSlots (before after : Storage) : Prop :=
  after IMPLEMENTATION_SLOT = before IMPLEMENTATION_SLOT ∧ after ADMIN_SLOT = before ADMIN_SLOT

/-- The code leaves the two words alone, whoever it calls. -/
def Logic.KeepsSlots (logic : Logic) : Prop :=
  ∀ message storage, (logic message storage).Segments SameSlots
    (fun before value => SameSlots before value.1) storage

theorem SameSlots.refl (storage : Storage) : SameSlots storage storage := ⟨rfl, rfl⟩

theorem SameSlots.trans {first middle last : Storage} (before : SameSlots first middle)
    (after : SameSlots middle last) : SameSlots first last :=
  ⟨after.1.trans before.1, after.2.trans before.2⟩

theorem SameSlots.slotsOf (same : SameSlots storage storage') (kind : Kind) :
    slotsOf kind storage' = slotsOf kind storage := by
  simp only [Proxies.slotsOf, _admin, _implementation, same.1, same.2]

theorem slots_apart : ADMIN_SLOT ≠ IMPLEMENTATION_SLOT := by decide

theorem slotsOf_setAdmin (kind : Kind) (storage : Storage) (newAdmin : Address) :
    slotsOf kind (_setAdmin storage newAdmin) =
      { slotsOf kind storage with admin := newAdmin } := by
  simp [slotsOf, _setAdmin, _admin, _implementation, Function.update_of_ne slots_apart.symm]

theorem setImplementation_slots {newImplementation : Address} (kind : Kind)
    (accepted : _setImplementation code storage newImplementation = .ok storage') :
    (code newImplementation).isSome = true ∧
      slotsOf kind storage' =
        { slotsOf kind storage with implementation := newImplementation } := by
  simp only [_setImplementation, bind_eq_ok, require_eq_ok, pure_eq_ok] at accepted
  obtain ⟨_, present, rfl⟩ := accepted
  refine ⟨present, ?_⟩
  simp [slotsOf, _admin, _implementation, Function.update_of_ne slots_apart]

end Words

section Calls

variable {code : Code} {message : Message} {storage storage' : Storage} {kind : Kind}

/-- What a function of a proxy may do to the two words. -/
inductive Rules (code : Code) (sender : Address) (slots : Slots) (function : Function) :
    Slots → Prop
  | upgraded {implementation} : sender = slots.admin → function.installs = some implementation →
      (code implementation).isSome = true →
      Rules code sender slots function { slots with implementation }
  | handedOver {newAdmin} : sender = slots.admin → function = .changeAdmin newAdmin →
      newAdmin ≠ 0 → Rules code sender slots function { slots with admin := newAdmin }
  | claimed {_proxyAdmin} : function = .initializeAdmin _proxyAdmin → slots.admin = 0 →
      Rules code sender slots function { slots with admin := _proxyAdmin }

def Writes (code : Code) (kind : Kind) (message : Message) (before after : Storage) : Prop :=
  slotsOf kind after = slotsOf kind before ∨
    ∃ function, decode kind message.value message.data = .ok (some function) ∧
      Rules code message.sender (slotsOf kind before) function (slotsOf kind after)

def KeepsSlotsAt (code : Code) (target : Address) : Prop :=
  ∀ logic, code target = some logic → Logic.KeepsSlots logic

theorem SameSlots.writes (same : SameSlots storage storage') :
    Writes code kind message storage storage' := Or.inl (same.slotsOf kind)

theorem Writes.same {storage'' : Storage} (writes : Writes code kind message storage storage')
    (same : SameSlots storage' storage'') : Writes code kind message storage storage'' := by
  unfold Writes
  rw [same.slotsOf kind]
  exact writes

/-- The code of a proxy, step by step: what it writes itself it writes at first. -/
abbrev Ruled (code : Code) (kind : Kind) (message : Message) (storage : Storage)
    (execution : Execution Storage (Storage × Bytes)) : Prop :=
  execution.Opening (Writes code kind message) SameSlots
    (fun before value => Writes code kind message before value.1)
    (fun before value => SameSlots before value.1) storage

theorem delegatecall_keeps {target : Address} (sound : KeepsSlotsAt code target) :
    (delegatecall code message storage target).Segments SameSlots
      (fun before value => SameSlots before value.1) storage := by
  unfold delegatecall
  cases found : code target with
  | none => exact SameSlots.refl storage
  | some logic => exact sound logic found message storage

theorem fallback_ruled (sound : KeepsSlotsAt code (_implementation storage)) :
    Ruled code kind message storage (_fallback code message storage) := by
  refine Outcome.Opening.lift_bind fun _ _ => ?_
  exact (delegatecall_keeps sound).opening (fun _ => SameSlots.writes) (fun _ => SameSlots.writes)

theorem ifAdmin_ruled {function : Execution Storage (Storage × Bytes)}
    (sound : KeepsSlotsAt code (_implementation storage))
    (ruled : message.sender = _admin storage → Ruled code kind message storage function) :
    Ruled code kind message storage (ifAdmin code message storage function) := by
  unfold ifAdmin
  split
  · rename_i admin
    exact ruled admin
  · exact fallback_ruled sound

theorem upgradeToAndCall_ruled {newImplementation : Address} {data : Bytes}
    (sound : KeepsSlotsAt code newImplementation)
    (decoded : decode kind message.value message.data =
      .ok (some (.upgradeToAndCall newImplementation data)))
    (admin : message.sender = _admin storage) :
    (upgradeToAndCall code message storage newImplementation data).Opening
      (Writes code kind message) SameSlots (Writes code kind message) SameSlots storage := by
  refine Outcome.Opening.lift_bind fun storage' accepted => ?_
  obtain ⟨present, changed⟩ := setImplementation_slots kind accepted
  have upgraded : Writes code kind message storage storage' := by
    refine Or.inr ⟨_, decoded, ?_⟩
    rw [changed]
    exact .upgraded admin rfl present
  have called : ((delegatecall code { message with data } storage' newImplementation).failWith
      .empty).Segments SameSlots (fun before value => SameSlots before value.1) storage' :=
    (delegatecall_keeps sound).failWith .empty
  have ruled : Ruled code kind message storage
      ((delegatecall code { message with data } storage' newImplementation).failWith .empty) :=
    called.opening (fun _ => upgraded.same) (fun _ => upgraded.same)
  exact Outcome.Opening.bind ruled (fun _ writes => writes) (fun _ _ same => same)

theorem perform_ruled {function : Function}
    (sound : KeepsSlotsAt code (_implementation storage))
    (installed : ∀ implementation, message.sender = _admin storage →
      function.installs = some implementation → KeepsSlotsAt code implementation)
    (decoded : decode kind message.value message.data = .ok (some function)) :
    Ruled code kind message storage (perform code message storage function) := by
  cases function with
  | admin => exact ifAdmin_ruled sound fun _ => Or.inl rfl
  | implementation => exact ifAdmin_ruled sound fun _ => Or.inl rfl
  | changeAdmin newAdmin =>
      refine ifAdmin_ruled sound fun admin => ?_
      refine Outcome.Opening.lift_bind fun storage' accepted => ?_
      simp only [changeAdmin, bind_eq_ok, require_eq_ok, pure_eq_ok] at accepted
      obtain ⟨_, given, rfl⟩ := accepted
      refine Or.inr ⟨_, decoded, ?_⟩
      rw [slotsOf_setAdmin]
      exact .handedOver admin rfl given
  | upgradeTo newImplementation =>
      refine ifAdmin_ruled sound fun admin => ?_
      refine Outcome.Opening.lift_bind fun storage' accepted => ?_
      obtain ⟨present, changed⟩ := setImplementation_slots kind accepted
      refine Or.inr ⟨_, decoded, ?_⟩
      rw [changed]
      exact .upgraded admin rfl present
  | upgradeToAndCall newImplementation data =>
      refine ifAdmin_ruled sound fun admin => ?_
      exact Outcome.Opening.bind (upgradeToAndCall_ruled (installed _ admin rfl) decoded admin)
        (fun _ writes => writes) (fun _ _ same => same)
  | initializeAdmin _proxyAdmin =>
      refine Outcome.Opening.lift_bind fun storage' accepted => ?_
      simp only [initializeAdmin, bind_eq_ok, require_eq_ok, pure_eq_ok] at accepted
      obtain ⟨_, unset, rfl⟩ := accepted
      refine Or.inr ⟨_, decoded, ?_⟩
      rw [slotsOf_setAdmin]
      exact .claimed rfl unset

theorem call_ruled (sound : KeepsSlotsAt code (_implementation storage))
    (installed : ∀ function implementation,
      decode kind message.value message.data = .ok (some function) →
      message.sender = _admin storage → function.installs = some implementation →
      KeepsSlotsAt code implementation) :
    Ruled code kind message storage (call code message storage kind) := by
  refine Outcome.Opening.lift_bind fun function decoded => ?_
  cases function with
  | none => exact fallback_ruled sound
  | some function => exact perform_ruled sound (installed function · decoded) decoded

end Calls

section Requests

variable {kind : Kind} {value : Uint256} {account : Address}

theorem decode_request (selector : Bytes4) (arguments : Bytes) :
    selectorOf (packWord selector ++ arguments) = selector ∧
      (packWord selector ++ arguments).drop 4 = arguments ∧
      ¬ (packWord selector ++ arguments).length < 4 := by
  have size : (packWord selector).length = 4 := length_packWord selector
  refine ⟨?_, ?_, ?_⟩
  · rw [selectorOf, List.take_left' size, packWord, decodeBE_encodeBE,
      Nat.mod_eq_of_lt (toNat_lt_pow ⟨4, rfl⟩ selector)]
    simp
  · rw [List.drop_left' size]
  · rw [List.length_append, size]
    omega

theorem addressAt_encode (account : Address) (arguments : List Abi.Argument) :
    addressAt (Abi.encode (encodedAddress account :: arguments)) 0 = some account := by
  have first : (Abi.encode (encodedAddress account :: arguments)).drop 0 =
      Abi.wordBytes (account.setWidth 256) ++
        (Abi.heads arguments (32 * (arguments.length + 1)) ++
          Abi.tails (encodedAddress account :: arguments)) := by
    rw [← List.append_assoc]
    rfl
  have word : Abi.atomicAt (Abi.encode (encodedAddress account :: arguments)) .address 0 =
      some ⟨account.setWidth 256, holds_address account⟩ :=
    Abi.atomicAt_wordBytes ⟨account.setWidth 256, holds_address account⟩ first
  rw [addressAt, word]
  exact congrArg some (by simp)

theorem decode_initializeAdmin {kind : Kind} {value : Uint256} {data : Bytes}
    {_proxyAdmin : Address}
    (decoded : decode kind value data = .ok (some (.initializeAdmin _proxyAdmin))) :
    kind = .startrailProxyLUM := by
  cases kind with
  | startrailProxyLUM => rfl
  | startrailProxy =>
      exfalso
      unfold decode at decoded
      simp only [reduceCtorEq, false_and, if_false] at decoded
      repeat' split at decoded
      all_goals
        simp only [bind_eq_ok, pure_eq_ok, Option.some.injEq, reduceCtorEq, and_false,
          exists_false] at decoded

/-- Up to the data, the function is the one that was asked for. -/
structure Answers (asked function : Function) : Prop where
  installs : function.installs = asked.installs
  changes : ∀ newAdmin, function = .changeAdmin newAdmin → asked = .changeAdmin newAdmin
  elsewise : ∀ _proxyAdmin, function ≠ .initializeAdmin _proxyAdmin

variable {arguments : Bytes} {function : Function}

theorem decode_changeAdmin (found : addressAt arguments 0 = some account)
    (decoded : decode kind value (packWord Selector.changeAdmin ++ arguments) =
      .ok (some function)) : Answers (.changeAdmin account) function := by
  obtain ⟨selector, rest, long⟩ := decode_request Selector.changeAdmin arguments
  rw [decode, selector, rest, if_neg long, found] at decoded
  simp [Selector.changeAdmin, Selector.admin, Selector.implementation, argument] at decoded
  obtain ⟨_, rfl⟩ := decoded
  exact ⟨rfl, fun _ => id, fun _ => Function.noConfusion⟩

theorem decode_upgradeTo (found : addressAt arguments 0 = some account)
    (decoded : decode kind value (packWord Selector.upgradeTo ++ arguments) =
      .ok (some function)) : Answers (.upgradeTo account) function := by
  obtain ⟨selector, rest, long⟩ := decode_request Selector.upgradeTo arguments
  rw [decode, selector, rest, if_neg long, found] at decoded
  simp [Selector.upgradeTo, Selector.changeAdmin, Selector.admin, Selector.implementation,
    argument] at decoded
  obtain ⟨_, rfl⟩ := decoded
  exact ⟨rfl, fun _ => Function.noConfusion, fun _ => Function.noConfusion⟩

theorem decode_upgradeToAndCall (data : Bytes) (found : addressAt arguments 0 = some account)
    (decoded : decode kind value (packWord Selector.upgradeToAndCall ++ arguments) =
      .ok (some function)) : Answers (.upgradeToAndCall account data) function := by
  obtain ⟨selector, rest, long⟩ := decode_request Selector.upgradeToAndCall arguments
  rw [decode, selector, rest, if_neg long, found] at decoded
  simp only [Selector.upgradeToAndCall, Selector.upgradeTo, Selector.changeAdmin, Selector.admin,
    Selector.implementation, argument] at decoded
  cases bytes : calldataAt arguments 32 with
  | none => simp [bytes] at decoded
  | some data' =>
      simp [bytes] at decoded
      subst decoded
      exact ⟨rfl, fun _ => Function.noConfusion, fun _ => Function.noConfusion⟩

end Requests

end Startrail.Proxies
