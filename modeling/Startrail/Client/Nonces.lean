import Startrail.Library.Halves
import Startrail.MetaTx.Authority

/-!
Two-dimensional nonces: `startrail-common-js/meta-tx/nonce.ts` against
`metaTx/replayProtection/ReplayProtection.sol`. Both put a channel and a nonce into one word, and
what reads the word gets them back; all of them go between the word and its halves.
-/

namespace Startrail.Client.Nonces

open MetaTxForwarder

section Client

/-- Whole numbers; ethers refuses the others. -/
inductive BigNumberish where
  | number (value : Int)
  | bigNumber (value : Int)

def MAX_SAFE : Int := 0x1fffffffffffff

def BigNumberish.read : BigNumberish → Option Int
  | .number value => if value ≥ MAX_SAFE ∨ value ≤ -MAX_SAFE then none else some value
  | .bigNumber value => some value

-- The operations of `BigNumber`, which fail for a negative number or divisor.
def shl (value : Int) (bits : Nat) : Option Int :=
  if value < 0 then none else some (value * 2 ^ bits)

def shr (value : Int) (bits : Nat) : Option Int :=
  if value < 0 then none else some (value / 2 ^ bits)

def mod (value divisor : Int) : Option Int :=
  if divisor ≤ 0 then none else some (value % divisor)

def BITS_PER_NONCE : Nat := 128

def packNonce (channel nonce : BigNumberish) : Option Int := do
  let shifted ← shl (← channel.read) BITS_PER_NONCE
  some (shifted + (← nonce.read))

def unpackNonce (nonce : Int) : Option (Int × Int) := do
  let nonce1 ← shr nonce BITS_PER_NONCE
  let nonce2 ← mod nonce (2 ^ BITS_PER_NONCE)
  some (nonce1, nonce2)

end Client

section Operations

variable (value bits : Nat)

theorem shl_natCast : shl value bits = some ((value * 2 ^ bits : Nat) : Int) := by
  have positive : ¬(value : Int) < 0 := Int.not_lt.mpr (Int.natCast_nonneg _)
  rw [shl, if_neg positive, Nat.cast_mul, Nat.cast_pow]
  rfl

theorem shr_natCast : shr value bits = some ((value / 2 ^ bits : Nat) : Int) := by
  have positive : ¬(value : Int) < 0 := Int.not_lt.mpr (Int.natCast_nonneg _)
  rw [shr, if_neg positive, Int.natCast_ediv, Nat.cast_pow]
  rfl

theorem mod_natCast : mod value (2 ^ bits) = some ((value % 2 ^ bits : Nat) : Int) := by
  have divisor : ¬(2 : Int) ^ bits ≤ 0 := Int.not_le.mpr (Int.pow_pos (by decide))
  rw [mod, if_neg divisor, Int.natCast_emod, Nat.cast_pow]
  rfl

end Operations

section Codecs

variable {channel nonce : Uint128} {packed : Uint256}

theorem shifted_toNat : (channel.setWidth 256 <<< 128).toNat = channel.toNat * 2 ^ 128 := by
  have bound := channel.isLt
  rw [BitVec.toNat_shiftLeft, BitVec.toNat_setWidth_of_le (by decide), Nat.shiftLeft_eq]
  exact Nat.mod_eq_of_lt (by omega)

theorem contract_packs :
    MetaTxForwarder.packNonce channel nonce = .ok (halves 128 (channel, nonce)) := by
  have fits := (halves 128 (channel, nonce)).isLt
  rw [halves_toNat] at fits
  simp only [MetaTxForwarder.packNonce, bind_eq_ok, requirePanic_eq_ok, pure_eq_ok]
  refine ⟨(), ?_, BitVec.eq_of_toNat_eq ?_⟩
  · rw [shifted_toNat]
    exact fits
  · rw [BitVec.toNat_add, shifted_toNat, BitVec.toNat_setWidth_of_le (by decide), halves_toNat]
    exact Nat.mod_eq_of_lt fits

theorem channelOf_eq : channelOf packed = ((halves 128).symm packed).1 := by
  apply BitVec.eq_of_toNat_eq
  rw [halves_symm_high, channelOf, BitVec.toNat_setWidth, BitVec.toNat_ushiftRight,
    Nat.shiftRight_eq_div_pow]
  exact Nat.mod_eq_of_lt (Nat.div_lt_of_lt_mul packed.isLt)

theorem nonceOf_eq : nonceOf packed = ((halves 128).symm packed).2 := by
  apply BitVec.eq_of_toNat_eq
  rw [halves_symm_low, nonceOf, BitVec.toNat_setWidth, BitVec.toNat_umod]
  exact Nat.mod_mod _ _

theorem client_packs {channel_ nonce_ : BigNumberish}
    (first : channel_.read = some (channel.toNat : Int))
    (second : nonce_.read = some (nonce.toNat : Int)) :
    packNonce channel_ nonce_ = some ((halves 128 (channel, nonce)).toNat : Int) := by
  rw [packNonce, first, second, halves_toNat, Nat.cast_add]
  simp only [Option.bind_eq_bind, Option.bind_some, shl_natCast, BITS_PER_NONCE]

theorem client_unpacks :
    unpackNonce (packed.toNat : Int) = some ((((halves 128).symm packed).1.toNat : Int),
      (((halves 128).symm packed).2.toNat : Int)) := by
  rw [unpackNonce, shr_natCast, mod_natCast, halves_symm_high, halves_symm_low]
  rfl

/-- The word is what the contract and the client make of the channel and the nonce, and what reads
the word goes by them. -/
structure Packs (channel nonce : Uint128) (packed : Uint256) : Prop where
  contract : MetaTxForwarder.packNonce channel nonce = .ok packed
  client : ∀ channel_ nonce_ : BigNumberish, channel_.read = some (channel.toNat : Int) →
    nonce_.read = some (nonce.toNat : Int) →
      packNonce channel_ nonce_ = some (packed.toNat : Int)
  unpacked : unpackNonce (packed.toNat : Int) = some ((channel.toNat : Int), (nonce.toNat : Int))
  extracted : channelOf packed = channel ∧ nonceOf packed = nonce
  checked : ∀ (state : State) (_wallet : Address),
    checkAndUpdateNonce state _wallet packed =
      if nonce = state.nonces _wallet channel then do
        requirePanic (nonce.toNat + 1 < 2 ^ 128) 0x11
        pure (true, { state with
          nonces := update₂ state.nonces _wallet channel (nonce + 1) })
      else .ok (false, state)

theorem halves_packs (channel nonce : Uint128) :
    Packs channel nonce (halves 128 (channel, nonce)) := by
  have back := (halves 128).symm_apply_apply (channel, nonce)
  have channel_ : channelOf (halves 128 (channel, nonce)) = channel := by
    rw [channelOf_eq, back]
  have nonce_ : nonceOf (halves 128 (channel, nonce)) = nonce := by
    rw [nonceOf_eq, back]
  refine ⟨contract_packs, fun _ _ => client_packs, ?_, ⟨channel_, nonce_⟩, ?_⟩
  · rw [client_unpacks, back]
  · intro state _wallet
    rw [checkAndUpdateNonce, channel_, nonce_]
    split
    · rename_i current
      rw [← current]
    · rfl

theorem nonce_packing :
    (∀ channel nonce : Uint128, ∃ packed, Packs channel nonce packed ∧
      packed.toNat = channel.toNat * 2 ^ 128 + nonce.toNat) ∧
    (∀ packed : Uint256, Packs (channelOf packed) (nonceOf packed) packed) ∧
    (Function.Injective fun pair : Uint128 × Uint128 =>
      MetaTxForwarder.packNonce pair.1 pair.2) ∧
    Function.Injective fun pair : Uint128 × Uint128 =>
      packNonce (.bigNumber pair.1.toNat) (.bigNumber pair.2.toNat) := by
  refine ⟨?_, ?_, ?_, ?_⟩
  · intro channel nonce
    exact ⟨_, halves_packs channel nonce, halves_toNat channel nonce⟩
  · intro packed
    rw [channelOf_eq, nonceOf_eq]
    have whole := halves_packs ((halves 128).symm packed).1 ((halves 128).symm packed).2
    rw [Prod.mk.eta, Equiv.apply_symm_apply] at whole
    exact whole
  · intro pair pair' same
    have words := contract_packs.symm.trans (same.trans contract_packs)
    exact (halves 128).injective (Except.ok.inj words)
  · intro pair pair' same
    have words := (client_packs rfl rfl).symm.trans (same.trans (client_packs rfl rfl))
    exact (halves 128).injective
      (BitVec.eq_of_toNat_eq (Int.ofNat.inj (Option.some.inj words)))

example : packNonce (.number 1) (.bigNumber (2 ^ 64)) = some (2 ^ 128 + 2 ^ 64) := by decide

end Codecs

end Startrail.Client.Nonces
