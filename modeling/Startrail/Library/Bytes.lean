import Mathlib.Data.List.Basic
import Mathlib.Tactic.Ring

/-!
Big-endian byte strings: the fixed-width encoding of a number, its inverse, and
the cancellation rules that take concatenations of such encodings apart.
-/

namespace Startrail

abbrev Bytes := List UInt8

def encodeBE : Nat → Nat → Bytes
  | 0, _ => []
  | width + 1, value => UInt8.ofNat (value / 256 ^ width % 256) :: encodeBE width value

def decodeBE : Bytes → Nat
  | [] => 0
  | byte :: rest => byte.toNat * 256 ^ rest.length + decodeBE rest

@[simp] theorem length_encodeBE (width value : Nat) : (encodeBE width value).length = width := by
  induction width with
  | zero => rfl
  | succ width ih => simp [encodeBE, ih]

theorem decodeBE_encodeBE (width value : Nat) :
    decodeBE (encodeBE width value) = value % 256 ^ width := by
  induction width with
  | zero => simp [encodeBE, decodeBE, Nat.mod_one]
  | succ width ih =>
      have digit : (UInt8.ofNat (value / 256 ^ width % 256)).toNat = value / 256 ^ width % 256 := by
        simp
      rw [encodeBE, decodeBE, length_encodeBE, ih, digit]
      rw [pow_succ, Nat.mod_mul, Nat.add_comm, Nat.mul_comm]

theorem decodeBE_append (front suffix : Bytes) :
    decodeBE (front ++ suffix) = decodeBE front * 256 ^ suffix.length + decodeBE suffix := by
  induction front with
  | nil => simp [decodeBE]
  | cons byte front ih =>
      rw [List.cons_append, decodeBE, ih, decodeBE, List.length_append]
      ring

theorem encodeBE_inj {width left right : Nat} (leftBound : left < 256 ^ width)
    (rightBound : right < 256 ^ width) (same : encodeBE width left = encodeBE width right) :
    left = right := by
  have decoded := congrArg decodeBE same
  rwa [decodeBE_encodeBE, decodeBE_encodeBE, Nat.mod_eq_of_lt leftBound,
    Nat.mod_eq_of_lt rightBound] at decoded

def lastBytes (count : Nat) (bytes : Bytes) : Bytes := bytes.drop (bytes.length - count)

@[simp] theorem lastBytes_append {count : Nat} (front suffix : Bytes)
    (size : suffix.length = count) : lastBytes count (front ++ suffix) = suffix := by
  simp [lastBytes, size]

theorem lastBytes_add (count : Nat) (front suffix : Bytes) :
    lastBytes (count + suffix.length) (front ++ suffix) = lastBytes count front ++ suffix := by
  have start : (front ++ suffix).length - (count + suffix.length) = front.length - count := by
    rw [List.length_append]
    omega
  rw [lastBytes, lastBytes, start, List.drop_append_of_le_length (Nat.sub_le _ _)]

end Startrail
