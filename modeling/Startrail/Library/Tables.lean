import Startrail.Library.Registers

/-!
A table keeps what was written last under each key. `written` is the table after a list of writes,
the latest of which comes first. Items that are written under keys of theirs are all found in it
just when their keys are different.
-/

namespace Startrail

section Tables

variable {K V E : Type} [DecidableEq K]

def put (table : K → V) : Option (K × V) → K → V
  | none => table
  | some (key, value) => Function.update table key value

def written (start : K → V) (writes : List (K × V)) (key : K) : V :=
  (writes.lookup key).getD (start key)

variable {start : K → V} {writes : List (K × V)} {key : K} {value : V}

theorem written_put (key : K) (value : V) :
    written start ((key, value) :: writes) = Function.update (written start writes) key value := by
  funext other
  unfold written
  by_cases same : other = key
  · subst same
    rw [List.lookup_cons_self, Function.update_self]
    rfl
  · rw [List.lookup_cons, beq_false_of_ne same, Function.update_of_ne same]

theorem written_cons {read : E → Option (K × V)} {event : E} {log : List E} :
    written start ((event :: log).filterMap read) =
      put (written start (log.filterMap read)) (read event) := by
  cases told : read event with
  | none =>
      rw [List.filterMap_cons_none told]
      rfl
  | some write =>
      rw [List.filterMap_cons_some told]
      exact written_put write.1 write.2

theorem written_of_lookup (last : writes.lookup key = some value) :
    written start writes key = value := by
  rw [written, last]
  rfl

theorem lookup_of_mem (listed : (key, value) ∈ writes) : ∃ last, writes.lookup key = some last := by
  cases found : writes.lookup key with
  | some last => exact ⟨last, rfl⟩
  | none =>
      have differs := List.lookup_eq_none_iff.mp found _ listed
      simp at differs

end Tables

section Items

variable {K V I : Type} [DecidableEq K] {items : List I} {item : I} {key : I → K} {value : I → V}

theorem mem_of_lookup {writes : List (K × V)} {at_ : K} {last : V}
    (found : writes.lookup at_ = some last) : (at_, last) ∈ writes := by
  obtain ⟨later, earlier, rfl, _⟩ := List.lookup_eq_some_iff.mp found
  exact List.mem_append_right later List.mem_cons_self

/-- What is written under a key that no other item has is found there. -/
theorem lookup_item (distinct : (items.map key).Nodup) (listed : item ∈ items) :
    (items.map fun item => (key item, value item)).lookup (key item) = some (value item) := by
  induction items with
  | nil => cases listed
  | cons first items ih =>
      obtain ⟨apart, rest⟩ := List.nodup_cons.mp distinct
      rw [List.map_cons, List.lookup_cons]
      rcases List.mem_cons.mp listed with rfl | later
      · rw [beq_self_eq_true]
      · have other : key item ≠ key first :=
          fun same => apart (same ▸ List.mem_map_of_mem later)
        rw [beq_false_of_ne other]
        exact ih rest later

/-- The table that the items are written into, each under its key. -/
def listing (key : I → K) (value : I → V) (items : List I) : K → Option V :=
  written (fun _ => none) (items.map fun item => (key item, some (value item)))

theorem listing_cons (item : I) (items : List I) : listing key value (item :: items) =
    Function.update (listing key value items) (key item) (some (value item)) :=
  written_put (key item) (some (value item))

theorem listing_foldl (items earlier : List I) :
    items.foldl (fun table item => Function.update table (key item) (some (value item)))
        (listing key value earlier) = listing key value (items.reverse ++ earlier) := by
  induction items generalizing earlier with
  | nil => rfl
  | cons first items ih =>
      rw [List.foldl_cons, ← listing_cons, ih, List.reverse_cons, List.append_assoc]
      rfl

theorem listing_mem {at_ : K} {last : V} (found : listing key value items at_ = some last) :
    ∃ item ∈ items, key item = at_ ∧ value item = last := by
  unfold listing written at found
  cases told : (items.map fun item => (key item, some (value item))).lookup at_ with
  | none =>
      rw [told] at found
      cases found
  | some kept =>
      rw [told] at found
      obtain ⟨item, listed, same⟩ := List.mem_map.mp (mem_of_lookup told)
      cases same
      exact ⟨item, listed, rfl, Option.some.inj found⟩

theorem listing_item (distinct : (items.map key).Nodup) (listed : item ∈ items) :
    listing key value items (key item) = some (value item) :=
  written_of_lookup (lookup_item distinct listed)

theorem listing_isSome {at_ : K} :
    (listing key value items at_).isSome = true ↔ at_ ∈ items.map key := by
  constructor
  · intro found
    obtain ⟨last, kept⟩ := Option.isSome_iff_exists.mp found
    obtain ⟨item, listed, rfl, _⟩ := listing_mem kept
    exact List.mem_map_of_mem listed
  · intro listed
    obtain ⟨item, belongs, rfl⟩ := List.mem_map.mp listed
    obtain ⟨last, kept⟩ := lookup_of_mem (List.mem_map_of_mem belongs :
      (key item, some (value item)) ∈ items.map fun item => (key item, some (value item)))
    obtain ⟨other, _, same⟩ := List.mem_map.mp (mem_of_lookup kept)
    obtain rfl : some (value other) = last := congrArg Prod.snd same
    rw [listing, written_of_lookup kept]
    rfl

/-- To leave out what is written under a key is to take it out of the table. -/
theorem listing_filter (at_ : K) (items : List I) :
    listing key value (items.filter fun item => key item ≠ at_) =
      Function.update (listing key value items) at_ none := by
  induction items with
  | nil => exact (Function.update_eq_self at_ fun _ => none).symm
  | cons first items ih =>
      by_cases same : key first = at_
      · subst same
        rw [List.filter_cons_of_neg (by simp), ih, listing_cons, Function.update_idem]
      · rw [List.filter_cons_of_pos (by simpa using same), listing_cons, ih, listing_cons,
          Function.update_comm same]

theorem oneEach_listing {Fits : V → I → Prop} (fits : ∀ item ∈ items, Fits (value item) item) :
    OneEach (listing key value items) (fun _ => True) Fits items ↔ (items.map key).Nodup := by
  have each := @oneEach_iff _ _ _ (listing key value items) (fun _ => True) Fits items key
    (fun _ => True) (fun _ => trivial) ?_ (fun _ _ => trivial) ?_
  · rw [each]
    exact and_iff_left fun _ _ => trivial
  · intro id last found _
    obtain ⟨item, listed, rfl, _⟩ := listing_mem found
    exact List.mem_map_of_mem listed
  · intro distinct item listed _
    exact ⟨_, listing_item distinct listed, fits item listed⟩

end Items

end Startrail
