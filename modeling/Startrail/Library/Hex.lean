import Mathlib.Data.List.Basic
import Startrail.Library.Bytes

/-!
Byte strings as hexadecimal text: writing one, reading it back in either letter case, cutting
the text at a byte and comparing two texts of one length.
-/

namespace Startrail

abbrev Text := List Char

def hexDigit (value : Nat) : Char :=
  if value < 10 then Char.ofNat (48 + value) else Char.ofNat (87 + value)

def digitOf (c : Char) : Option Nat :=
  if 48 ≤ c.toNat ∧ c.toNat ≤ 57 then some (c.toNat - 48)
  else if 97 ≤ c.toNat ∧ c.toNat ≤ 102 then some (c.toNat - 87)
  else if 65 ≤ c.toNat ∧ c.toNat ≤ 70 then some (c.toNat - 55)
  else none

def hexByte (byte : UInt8) : Text := [hexDigit (byte.toNat / 16), hexDigit (byte.toNat % 16)]

def hexText (bytes : Bytes) : Text := bytes.flatMap hexByte

def hexlify (bytes : Bytes) : Text := '0' :: 'x' :: hexText bytes

def bytesOf : Text → Option Bytes
  | [] => some []
  | [_] => none
  | high :: low :: rest => do
      let upper ← digitOf high
      let lower ← digitOf low
      let bytes ← bytesOf rest
      some (UInt8.ofNat (16 * upper + lower) :: bytes)

-- The bytes in front of the first two characters that spell none.
def leadingBytes : Text → Bytes
  | high :: low :: rest =>
      match digitOf high, digitOf low with
      | some upper, some lower => UInt8.ofNat (16 * upper + lower) :: leadingBytes rest
      | _, _ => []
  | _ => []

def arrayify : Text → Option Bytes
  | '0' :: 'x' :: digits => bytesOf digits
  | _ => none

theorem digitOf_hexDigit : ∀ value : Fin 16, digitOf (hexDigit value) = some value.val := by
  decide

theorem hexDigit_lt : ∀ left right : Fin 16,
    (hexDigit left < hexDigit right ↔ left.val < right.val) ∧
      (hexDigit left = hexDigit right ↔ left.val = right.val) := by decide

theorem byte_halves (byte : UInt8) : byte.toNat / 16 < 16 ∧ byte.toNat % 16 < 16 ∧
    16 * (byte.toNat / 16) + byte.toNat % 16 = byte.toNat := by
  have bound := byte.toNat_lt
  omega

theorem hexText_drop (count : Nat) (bytes : Bytes) :
    (hexText bytes).drop (2 * count) = hexText (bytes.drop count) := by
  induction count generalizing bytes with
  | zero => rfl
  | succ count ih =>
      cases bytes with
      | nil => rfl
      | cons byte bytes =>
          rw [List.drop_succ_cons, ← ih]
          rfl

theorem drop_hexlify (front suffix : Bytes) :
    (hexlify (front ++ suffix)).drop (2 + 2 * front.length) = hexText suffix := by
  rw [hexlify, Nat.add_comm, List.drop_succ_cons, List.drop_succ_cons, hexText_drop,
    List.drop_left]

theorem bytesOf_append {front suffix : Text} {bytes : Bytes} (read : bytesOf front = some bytes) :
    bytesOf (front ++ suffix) = (bytesOf suffix).map (bytes ++ ·) := by
  induction front using bytesOf.induct generalizing bytes with
  | case1 =>
      cases read
      simp
  | case2 => cases read
  | case3 high low rest ih =>
      simp only [bytesOf, Option.bind_eq_bind, Option.bind_eq_some_iff] at read
      obtain ⟨upper, highRead, lower, lowRead, tail, restRead, same⟩ := read
      cases same
      simp only [List.cons_append, bytesOf, highRead, lowRead, ih restRead, Option.bind_eq_bind,
        Option.bind_some]
      cases bytesOf suffix with
      | none => rfl
      | some _ => rfl

theorem bytesOf_hexText (bytes : Bytes) : bytesOf (hexText bytes) = some bytes := by
  induction bytes with
  | nil => rfl
  | cons byte bytes ih =>
      obtain ⟨highBound, lowBound, whole⟩ := byte_halves byte
      have high := digitOf_hexDigit ⟨_, highBound⟩
      have low := digitOf_hexDigit ⟨_, lowBound⟩
      simp only at high low
      change bytesOf (hexDigit _ :: hexDigit _ :: hexText bytes) = _
      simp only [bytesOf, high, low, ih, Option.bind_eq_bind, Option.bind_some, whole]
      simp

theorem hexText_append (front suffix : Bytes) :
    hexText (front ++ suffix) = hexText front ++ hexText suffix := List.flatMap_append

theorem leadingBytes_eq {text : Text} {bytes : Bytes} (read : bytesOf text = some bytes) :
    leadingBytes text = bytes := by
  induction text using bytesOf.induct generalizing bytes with
  | case1 =>
      cases read
      rfl
  | case2 => cases read
  | case3 high low rest ih =>
      simp only [bytesOf, Option.bind_eq_bind, Option.bind_eq_some_iff] at read
      obtain ⟨upper, highRead, lower, lowRead, tail, restRead, same⟩ := read
      cases same
      simp only [leadingBytes, highRead, lowRead, ih restRead]

theorem arrayify_hexlify (bytes : Bytes) : arrayify (hexlify bytes) = some bytes :=
  bytesOf_hexText bytes

theorem decodeBE_lt (bytes : Bytes) : decodeBE bytes < 256 ^ bytes.length := by
  induction bytes with
  | nil => simp [decodeBE]
  | cons byte bytes ih =>
      have bound := byte.toNat_lt
      have whole : (byte.toNat + 1) * 256 ^ bytes.length ≤ 256 * 256 ^ bytes.length :=
        Nat.mul_le_mul_right _ bound
      rw [Nat.add_mul] at whole
      rw [decodeBE, List.length_cons, pow_succ]
      omega

theorem decodeBE_cons_lt {left right : UInt8} {lefts rights : Bytes}
    (same : lefts.length = rights.length) : decodeBE (left :: lefts) < decodeBE (right :: rights) ↔
      left.toNat < right.toNat ∨ left.toNat = right.toNat ∧ decodeBE lefts < decodeBE rights := by
  have leftBound := decodeBE_lt lefts
  have rightBound := decodeBE_lt rights
  rw [same] at leftBound
  simp only [decodeBE, same]
  generalize 256 ^ rights.length = unit at leftBound rightBound ⊢
  rcases Nat.lt_trichotomy left.toNat right.toNat with below | equal | above
  · have gap : (left.toNat + 1) * unit ≤ right.toNat * unit := Nat.mul_le_mul_right _ below
    rw [Nat.add_mul] at gap
    omega
  · rw [equal]
    omega
  · have gap : (right.toNat + 1) * unit ≤ left.toNat * unit := Nat.mul_le_mul_right _ above
    rw [Nat.add_mul] at gap
    omega

/-- Texts of one length are in alphabetical order as the numbers they spell. -/
theorem hexText_lt {left right : Bytes} (same : left.length = right.length) :
    hexText left < hexText right ↔ decodeBE left < decodeBE right := by
  induction left generalizing right with
  | nil =>
      have none_ : right = [] := List.eq_nil_of_length_eq_zero same.symm
      subst none_
      simp [hexText]
  | cons byte left ih =>
      cases right with
      | nil => cases same
      | cons other right =>
          have rest : left.length = right.length := Nat.succ.inj same
          obtain ⟨highBound, lowBound, whole⟩ := byte_halves byte
          obtain ⟨highBound', lowBound', whole'⟩ := byte_halves other
          have high := hexDigit_lt ⟨_, highBound⟩ ⟨_, highBound'⟩
          have low := hexDigit_lt ⟨_, lowBound⟩ ⟨_, lowBound'⟩
          change hexDigit _ :: hexDigit _ :: hexText left <
            hexDigit _ :: hexDigit _ :: hexText right ↔ _
          rw [List.cons_lt_cons_iff, List.cons_lt_cons_iff, high.1, high.2, low.1, low.2, ih rest,
            decodeBE_cons_lt rest]
          simp only
          omega

end Startrail
