import Mathlib.Data.BitVec
import Mathlib.Data.Set.Card
import Mathlib.Logic.Relation
import Mathlib.Algebra.Ring.Defs

/-!
A ledger of tokens that keeps, beside the owner of every token, how many tokens each
account holds, an approved account and a lock flag, and that remembers how the flags
were set. The counts are numbers of any kind, exact or modular. `nobody` owns the
tokens that do not exist; its count is of no interest. `Post` has the entries that a
contract may make, each with what must hold before it.
-/

namespace Startrail

structure Ledger (T A N : Type) where
  owner : T → A
  count : A → N
  approved : T → A
  locked : T → Bool
  settings : List (T × Bool)

namespace Ledger

section Holdings

variable {T A : Type}

noncomputable def held (owner : T → A) (account : A) : Nat := {token | owner token = account}.ncard

theorem held_pos [Finite T] (owner : T → A) (token : T) : 0 < held owner (owner token) :=
  (Set.ncard_pos (Set.toFinite _)).mpr ⟨token, rfl⟩

/-- The tokens that exist. -/
noncomputable def existing [DecidableEq A] (nobody : A) (owner : T → A) : Nat :=
  held (fun token => decide (owner token = nobody)) false

theorem existing_pos [DecidableEq A] [Finite T] (nobody : A) (owner : T → A) {token : T}
    (owned : owner token ≠ nobody) : 0 < existing nobody owner := by
  have positive := held_pos (fun other => decide (owner other = nobody)) token
  rwa [decide_eq_false owned] at positive

variable [DecidableEq T]

theorem held_update_other (owner : T → A) (token : T) {account to_ : A}
    (different : account ≠ to_) (other : owner token ≠ account) :
    held (Function.update owner token to_) account = held owner account := by
  have same : {other | Function.update owner token to_ other = account} =
      {other | owner other = account} := by
    ext entry
    by_cases here : entry = token
    · subst here
      simp [different.symm, other]
    · simp [here]
  unfold held
  rw [same]

variable [Finite T]

theorem held_update_self (owner : T → A) {token : T} {account : A}
    (other : owner token ≠ account) :
    held (Function.update owner token account) account = held owner account + 1 := by
  have inserted : {other | Function.update owner token account other = account} =
      insert token {other | owner other = account} := by
    ext other
    by_cases same : other = token
    · simp [same]
    · simp [same]
  unfold held
  rw [inserted]
  exact Set.ncard_insert_of_notMem other

theorem held_update_former (owner : T → A) (token : T) (to_ : A) (given : owner token ≠ to_) :
    held (Function.update owner token to_) (owner token) + 1 = held owner (owner token) := by
  have removed : {other | Function.update owner token to_ other = owner token} =
      {other | owner other = owner token} \ {token} := by
    ext other
    by_cases same : other = token
    · subst same
      simp [given.symm]
    · simp [same]
  unfold held
  rw [removed, Set.ncard_sdiff_singleton_add_one]
  rfl

theorem held_le {T A : Type} {owner : T → A} {account : A} {bound : Nat} (number : T → Nat)
    (injective : Function.Injective number) (below : ∀ token, owner token = account →
      number token < bound) : held owner account ≤ bound := by
  have inside : {token | owner token = account}.ncard ≤ (Finset.range bound : Set Nat).ncard :=
    Set.ncard_le_ncard_of_injOn number (fun token owned => by simpa using below token owned)
      injective.injOn
  rwa [Set.ncard_coe_finset, Finset.card_range] at inside

end Holdings

-- Token identifiers are words.
instance (width : Nat) : Finite (BitVec width) :=
  Finite.of_equiv _ BitVec.equivFin.symm.toEquiv

section Locks

variable {T A N : Type} [DecidableEq T]

def setLock (token : T) (flag : Bool) (ledger : Ledger T A N) : Ledger T A N :=
  { ledger with
    locked := Function.update ledger.locked token flag
    settings := (token, flag) :: ledger.settings }

def resetLock (token : T) (ledger : Ledger T A N) : Ledger T A N :=
  { ledger with locked := Function.update ledger.locked token false }

/-- The latest setting of the flag was to lock the token. -/
def LockedSince (token : T) : List (T × Bool) → Prop
  | [] => False
  | (other, flag) :: settings => if other = token then flag = true else LockedSince token settings

variable {ledger : Ledger T A N}

def Heeded (ledger : Ledger T A N) : Prop :=
  ∀ token, LockedSince token ledger.settings → ledger.locked token = true

theorem Heeded.setLock (heeded : Heeded ledger) (token : T) (flag : Bool) :
    Heeded (ledger.setLock token flag) := by
  intro other since
  by_cases same : token = other
  · subst same
    simpa [Ledger.setLock, LockedSince] using since
  · simp only [Ledger.setLock, LockedSince, if_neg same] at since
    simpa [Ledger.setLock, Ne.symm same] using heeded other since

theorem Heeded.resetLock (heeded : Heeded ledger) {token : T}
    (unset : ¬LockedSince token ledger.settings) : Heeded (ledger.resetLock token) := by
  intro other since
  have different : other ≠ token := by
    rintro rfl
    exact unset since
  simpa [Ledger.resetLock, different] using heeded other since

/-- What happens to a token whose lock is on: its approval is at most cleared, only calls that
convey it give it another owner, and the lock stays on until it is taken off. -/
structure Confined (nobody : A) (token : T) (Conveys Unlocks : Prop)
    (before after : Ledger T A N) : Prop where
  approved : after.approved token = before.approved token ∨ after.approved token = nobody
  owner : after.owner token ≠ before.owner token → Conveys
  lasts : LockedSince token after.settings ∨ Unlocks

theorem lockedSince_cons {token : T} {setting : T × Bool} {settings : List (T × Bool)}
    (since : LockedSince token settings) :
    LockedSince token (setting :: settings) ∨ setting = (token, false) := by
  obtain ⟨other, flag⟩ := setting
  by_cases same : other = token
  · subst same
    cases flag with
    | true => exact Or.inl (by simp [LockedSince])
    | false => exact Or.inr rfl
  · exact Or.inl (by simpa [LockedSince, same] using since)

theorem Confined.setLock {nobody : A} {token other : T} {flag : Bool} {Conveys Unlocks : Prop}
    {ledger : Ledger T A N} (since : LockedSince token ledger.settings)
    (unlocks : (other, flag) = (token, false) → Unlocks) :
    Confined nobody token Conveys Unlocks ledger (ledger.setLock other flag) :=
  ⟨Or.inl rfl, fun changed => absurd rfl changed, (lockedSince_cons since).imp id unlocks⟩

end Locks

variable {T A N : Type} [DecidableEq T] [DecidableEq A] [AddGroupWithOne N]

def mint (to_ : A) (token : T) (ledger : Ledger T A N) : Ledger T A N :=
  { ledger with
    owner := Function.update ledger.owner token to_
    count := Function.update ledger.count to_ (ledger.count to_ + 1) }

def pass (nobody from_ to_ : A) (token : T) (ledger : Ledger T A N) : Ledger T A N :=
  let counts := Function.update ledger.count from_ (ledger.count from_ - 1)
  { ledger with
    owner := Function.update ledger.owner token to_
    count := Function.update counts to_ (counts to_ + 1)
    approved := Function.update ledger.approved token nobody }

def approve (account : A) (token : T) (ledger : Ledger T A N) : Ledger T A N :=
  { ledger with approved := Function.update ledger.approved token account }

inductive Post (nobody : A) (ledger : Ledger T A N) : Ledger T A N → Prop
  | mint (to_ : A) (token : T) : ledger.owner token = nobody → to_ ≠ nobody →
      Post nobody ledger (ledger.mint to_ token)
  | pass (to_ : A) (token : T) : ledger.owner token ≠ nobody →
      Post nobody ledger (ledger.pass nobody (ledger.owner token) to_ token)
  | approve (account : A) (token : T) : ledger.owner token ≠ nobody →
      Post nobody ledger (ledger.approve account token)
  | setLock (token : T) (flag : Bool) : Post nobody ledger (ledger.setLock token flag)
  | resetLock (token : T) : Post nobody ledger (ledger.resetLock token)

theorem Confined.pass {nobody from_ to_ : A} {token other : T} {Conveys Unlocks : Prop}
    {ledger : Ledger T A N} (since : LockedSince token ledger.settings)
    (conveys : other = token → Conveys) :
    Confined nobody token Conveys Unlocks ledger (ledger.pass nobody from_ to_ other) := by
  by_cases same : token = other
  · subst same
    exact ⟨Or.inr (by simp [Ledger.pass]), fun _ => conveys rfl, Or.inl since⟩
  · exact ⟨Or.inl (by simp [Ledger.pass, same]),
      fun changed => absurd (by simp [Ledger.pass, same]) changed, Or.inl since⟩

section Grants

variable {nobody : A} {ledger : Ledger T A N}

/-- The account is approved for the token of this owner. -/
def Granted (token : T) (owner account : A) (ledger : Ledger T A N) : Prop :=
  ledger.owner token = owner ∧ ledger.approved token = account

variable {token other : T} {owner account : A}

theorem mint_granted {to_ : A} (unapproved : ledger.approved token = nobody)
    (someone : account ≠ nobody) (granted : (ledger.mint to_ token).Granted other owner account) :
    ledger.Granted other owner account := by
  obtain ⟨owned, approved⟩ := granted
  have different : other ≠ token := by
    rintro rfl
    exact someone (approved.symm.trans unapproved)
  exact ⟨(Function.update_of_ne different _ _).symm.trans owned, approved⟩

/-- A transfer leaves no approval for the token. -/
theorem pass_granted {from_ to_ : A} (someone : account ≠ nobody)
    (granted : (ledger.pass nobody from_ to_ token).Granted other owner account) :
    ledger.Granted other owner account := by
  obtain ⟨owned, approved⟩ := granted
  have different : other ≠ token := by
    rintro rfl
    exact someone (approved.symm.trans (Function.update_self _ _ _))
  exact ⟨(Function.update_of_ne different _ _).symm.trans owned,
    (Function.update_of_ne different _ _).symm.trans approved⟩

omit [DecidableEq A] [AddGroupWithOne N] in
theorem approve_granted {spender : A}
    (granted : (ledger.approve spender token).Granted other owner account) :
    ledger.Granted other owner account ∨
      other = token ∧ spender = account ∧ ledger.owner token = owner := by
  obtain ⟨owned, approved⟩ := granted
  by_cases same : other = token
  · subst same
    exact Or.inr ⟨rfl, (Function.update_self _ _ _).symm.trans approved, owned⟩
  · exact Or.inl ⟨owned, (Function.update_of_ne same _ _).symm.trans approved⟩

end Grants

section Counts

variable [Finite T] {nobody : A} {ledger ledger' : Ledger T A N}

/-- Every account but `nobody` is down for as many tokens as it owns, and a token that does
not exist has no approved account. -/
structure Balanced (nobody : A) (ledger : Ledger T A N) : Prop where
  counted : ∀ account, account ≠ nobody → ledger.count account = (held ledger.owner account : N)
  unapproved : ∀ token, ledger.owner token = nobody → ledger.approved token = nobody

theorem Balanced.mint (balanced : Balanced nobody ledger) {to_ : A} {token : T}
    (absent : ledger.owner token = nobody) (recipient : to_ ≠ nobody) :
    Balanced nobody (ledger.mint to_ token) := by
  constructor
  · intro account someone
    have before := balanced.counted account someone
    by_cases credited : account = to_
    · subst credited
      have grown := held_update_self ledger.owner (absent ▸ someone.symm : ledger.owner token ≠ _)
      simp [Ledger.mint, grown, before]
    · have kept := held_update_other ledger.owner token credited
        (absent ▸ someone.symm)
      simp [Ledger.mint, credited, kept, before]
  · intro other unowned
    by_cases same : other = token
    · subst same
      exact balanced.unapproved other absent
    · simp only [Ledger.mint, Function.update_of_ne same] at unowned
      exact balanced.unapproved other unowned

theorem Balanced.pass (balanced : Balanced nobody ledger) (token : T) (to_ : A) :
    Balanced nobody (ledger.pass nobody (ledger.owner token) to_ token) := by
  constructor
  · intro account someone
    have before := balanced.counted account someone
    by_cases still : ledger.owner token = to_
    · -- A transfer to the owner takes one and gives it back.
      subst still
      simp [Ledger.pass, before]
    · by_cases debited : account = ledger.owner token
      · subst debited
        have shrunk : (held (Function.update ledger.owner token to_) (ledger.owner token) : N) + 1 =
            held ledger.owner (ledger.owner token) := by
          rw [← Nat.cast_succ]
          exact congrArg Nat.cast (held_update_former ledger.owner token to_ still)
        simp only [Ledger.pass, Function.update_of_ne still, Function.update_self, before]
        rw [← shrunk, add_sub_cancel_right]
      · by_cases credited : account = to_
        · subst credited
          have grown := held_update_self ledger.owner still
          simp [Ledger.pass, debited, grown, before]
        · have kept := held_update_other ledger.owner token credited (Ne.symm debited)
          simp [Ledger.pass, credited, debited, kept, before]
  · intro other unowned
    by_cases same : other = token
    · simp [Ledger.pass, same]
    · simp only [Ledger.pass, Function.update_of_ne same] at unowned ⊢
      exact balanced.unapproved other unowned

theorem Balanced.post (balanced : Balanced nobody ledger) (posted : Post nobody ledger ledger') :
    Balanced nobody ledger' := by
  cases posted with
  | mint to_ token absent recipient => exact balanced.mint absent recipient
  | pass to_ token owned => exact balanced.pass token to_
  | approve account token owned =>
      refine ⟨balanced.counted, ?_⟩
      intro other unowned
      have different : other ≠ token := by
        rintro rfl
        exact owned unowned
      simp only [Ledger.approve, Function.update_of_ne different]
      exact balanced.unapproved other unowned
  | setLock token flag => exact ⟨balanced.counted, balanced.unapproved⟩
  | resetLock token => exact ⟨balanced.counted, balanced.unapproved⟩

theorem Balanced.posts (balanced : Balanced nobody ledger)
    (posted : Relation.ReflTransGen (Post nobody) ledger ledger') : Balanced nobody ledger' := by
  induction posted with
  | refl => exact balanced
  | tail _ last ih => exact ih.post last

theorem existing_mint {owner : T → A} {token : T} {to_ : A} (absent : owner token = nobody)
    (recipient : to_ ≠ nobody) :
    existing nobody (Function.update owner token to_) = existing nobody owner + 1 := by
  have updated : (fun other => decide (Function.update owner token to_ other = nobody)) =
      Function.update (fun other => decide (owner other = nobody)) token false := by
    have composed := Function.comp_update (fun account => decide (account = nobody)) owner token to_
    simpa [Function.comp_def, recipient] using composed
  unfold existing
  rw [updated, held_update_self _ (by simp [absent])]

theorem existing_pass {owner : T → A} {token : T} (to_ : A) (owned : owner token ≠ nobody) :
    existing nobody (Function.update owner token to_) + (if to_ = nobody then 1 else 0) =
      existing nobody owner := by
  have composed := Function.comp_update (fun account => decide (account = nobody)) owner token to_
  by_cases lost : to_ = nobody
  · have updated : (fun other => decide (Function.update owner token to_ other = nobody)) =
        Function.update (fun other => decide (owner other = nobody)) token true := by
      simpa [Function.comp_def, lost] using composed
    have shrunk := held_update_former (fun other => decide (owner other = nobody)) token true
      (by simp [owned])
    unfold existing
    rw [updated, if_pos lost]
    simpa [owned] using shrunk
  · have updated : (fun other => decide (Function.update owner token to_ other = nobody)) =
        Function.update (fun other => decide (owner other = nobody)) token false := by
      simpa [Function.comp_def, lost] using composed
    have same : Function.update (fun other => decide (owner other = nobody)) token false =
        fun other => decide (owner other = nobody) := by
      rw [Function.update_eq_self_iff]
      simp [owned]
    unfold existing
    rw [updated, same, if_neg lost, Nat.add_zero]

/-- `nobody` is down for the tokens that were lost: created once, and gone. -/
def Tallied (nobody : A) (created : Nat) (ledger : Ledger T A N) : Prop :=
  ∃ lost : Nat, ledger.count nobody = (lost : N) ∧ lost + existing nobody ledger.owner = created

theorem Tallied.mint {created : Nat} (tallied : Tallied nobody created ledger) {to_ : A} {token : T}
    (absent : ledger.owner token = nobody) (recipient : to_ ≠ nobody) :
    Tallied nobody (created + 1) (ledger.mint to_ token) := by
  obtain ⟨lost, count, total⟩ := tallied
  refine ⟨lost, ?_, ?_⟩
  · simp [Ledger.mint, recipient.symm, count]
  · simp only [Ledger.mint, existing_mint absent recipient]
    omega

theorem Tallied.pass {created : Nat} (tallied : Tallied nobody created ledger) {token : T} (to_ : A)
    (owned : ledger.owner token ≠ nobody) :
    Tallied nobody created (ledger.pass nobody (ledger.owner token) to_ token) := by
  obtain ⟨lost, count, total⟩ := tallied
  have existing_ := existing_pass to_ owned
  by_cases discarded : to_ = nobody
  · subst discarded
    refine ⟨lost + 1, ?_, ?_⟩
    · simp [Ledger.pass, owned.symm, count]
    · simp only [if_true] at existing_
      simp only [Ledger.pass]
      omega
  · refine ⟨lost, ?_, ?_⟩
    · simp [Ledger.pass, owned.symm, Ne.symm discarded, count]
    · simp only [if_neg discarded] at existing_
      simp only [Ledger.pass]
      omega

end Counts

end Ledger

end Startrail
