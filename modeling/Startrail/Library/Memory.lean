import Startrail.Library.Bytes

/-!
A memory of bytes whose addresses are machine words, and the byte strings that are in it.
-/

namespace Startrail

abbrev Memory (width : Nat) := BitVec width → UInt8

namespace Memory

variable {width : Nat} {memory : Memory width} {offset : BitVec width} {bytes front back : Bytes}

def read (memory : Memory width) : BitVec width → Nat → Bytes
  | _, 0 => []
  | offset, size + 1 => memory offset :: read memory (offset + 1) size

/-- The byte string is in memory from the offset on. -/
def Holds (memory : Memory width) (offset : BitVec width) (bytes : Bytes) : Prop :=
  memory.read offset bytes.length = bytes

theorem length_read (memory : Memory width) (offset : BitVec width) (size : Nat) :
    (memory.read offset size).length = size := by
  induction size generalizing offset with
  | zero => rfl
  | succ size ih => rw [read, List.length_cons, ih]

theorem read_add (memory : Memory width) (offset : BitVec width) (first second : Nat) :
    memory.read offset (first + second) =
      memory.read offset first ++ memory.read (offset + BitVec.ofNat width first) second := by
  induction first generalizing offset with
  | zero => simp [read]
  | succ first ih =>
      have next : offset + BitVec.ofNat width (first + 1) =
          offset + 1 + BitVec.ofNat width first := by
        rw [Nat.add_comm, BitVec.ofNat_add, ← BitVec.add_assoc]
        rfl
      rw [Nat.succ_add, read, read, ih, next]
      rfl

theorem holds_append : memory.Holds offset (front ++ back) ↔
    memory.Holds offset front ∧
      memory.Holds (offset + BitVec.ofNat width front.length) back := by
  unfold Holds
  rw [List.length_append, read_add]
  constructor
  · intro same
    exact List.append_inj same (length_read _ _ _)
  · rintro ⟨first, second⟩
    rw [first, second]

theorem Holds.behind (holds : memory.Holds offset (front ++ back)) (shift : BitVec width)
    (size : BitVec.ofNat width front.length = shift) : memory.Holds (offset + shift) back := by
  rw [← size]
  exact (holds_append.mp holds).2

theorem Holds.take (holds : memory.Holds offset bytes) {size : Nat} (room : size ≤ bytes.length) :
    memory.read offset size = bytes.take size := by
  have split := read_add memory offset size (bytes.length - size)
  rw [Nat.add_sub_cancel' room, holds] at split
  rw [split, List.take_left' (length_read _ _ _)]

end Memory

end Startrail
