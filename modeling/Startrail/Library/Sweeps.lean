import Mathlib.Data.List.Basic
import Mathlib.Logic.Function.Basic

/-!
A pass over a list of keys that changes what a table holds under each of them, and stops at a key
whose value it does not admit. When a change can be made again, to no effect, what becomes of the
table does not depend on the order of the keys or on how often each is listed.
-/

namespace Startrail

section Sweeps

variable {K V : Type} [DecidableEq K]

def sweep (Admits : V → Prop) [DecidablePred Admits] (change : V → V) :
    List K → (K → V) → Option (K → V)
  | [], table => some table
  | key :: keys, table =>
      if Admits (table key) then
        sweep Admits change keys (Function.update table key (change (table key)))
      else none

def swept (change : V → V) (keys : List K) (table : K → V) (key : K) : V :=
  if key ∈ keys then change (table key) else table key

structure Settling (Admits : V → Prop) (change : V → V) : Prop where
  admits : ∀ {value}, Admits value → Admits (change value)
  settles : ∀ {value}, Admits value → change (change value) = change value

variable {Admits : V → Prop} {change : V → V} {first : K} {keys : List K} {table : K → V}

theorem Settling.admits_cons (settling : Settling Admits change) (admitted : Admits (table first)) :
    (∀ key ∈ keys, Admits (Function.update table first (change (table first)) key)) ↔
      ∀ key ∈ first :: keys, Admits (table key) := by
  rw [List.forall_mem_cons, and_iff_right admitted]
  apply forall₂_congr
  intro key _
  by_cases same : key = first
  · subst same
    rw [Function.update_self]
    exact ⟨fun _ => admitted, settling.admits⟩
  · rw [Function.update_of_ne same]

theorem Settling.swept_cons (settling : Settling Admits change) (admitted : Admits (table first)) :
    swept change keys (Function.update table first (change (table first))) =
      swept change (first :: keys) table := by
  funext key
  unfold swept
  by_cases same : key = first
  · subst same
    rw [Function.update_self, settling.settles admitted, if_pos List.mem_cons_self, ite_self]
  · simp only [Function.update_of_ne same, List.mem_cons, same, false_or]

/-- The pass ends just when every listed key is admitted, and has then changed the listed keys. -/
theorem sweep_eq [DecidablePred Admits] (settling : Settling Admits change) :
    sweep Admits change keys table =
      if ∀ key ∈ keys, Admits (table key) then some (swept change keys table) else none := by
  induction keys generalizing table with
  | nil =>
      rw [if_pos (by simp)]
      congr
  | cons first keys ih =>
      by_cases admitted : Admits (table first)
      · rw [sweep, if_pos admitted, ih, settling.swept_cons admitted]
        simp only [settling.admits_cons admitted]
      · rw [sweep, if_neg admitted, if_neg]
        exact fun all => admitted (all first List.mem_cons_self)

end Sweeps

end Startrail
