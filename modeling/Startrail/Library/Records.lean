import Mathlib.Data.List.Nodup

/-!
Records whose entries keep the order in which their keys were first written. Writing to a key that
is there already changes its value in place.
-/

namespace Startrail

@[ext]
structure Record (Key Value : Type) where
  entries : List (Key × Value)
  distinct : (entries.map Prod.fst).Nodup

namespace Record

variable {Key Value Value' : Type} [DecidableEq Key]

def keys (record : Record Key Value) : List Key := record.entries.map Prod.fst

def values (record : Record Key Value) : List Value := record.entries.map Prod.snd

def get? (record : Record Key Value) (key : Key) : Option Value := record.entries.lookup key

def write (key : Key) (value : Value) : List (Key × Value) → List (Key × Value)
  | [] => [(key, value)]
  | entry :: entries =>
      if entry.1 = key then (key, value) :: entries else entry :: write key value entries

theorem write_fresh {key : Key} {value : Value} {entries : List (Key × Value)}
    (fresh : key ∉ entries.map Prod.fst) : write key value entries = entries ++ [(key, value)] := by
  induction entries with
  | nil => rfl
  | cons entry entries ih =>
      simp only [List.map_cons, List.mem_cons, not_or] at fresh
      rw [write, if_neg (Ne.symm fresh.1), ih fresh.2, List.cons_append]

theorem write_keys {key : Key} {value : Value} {entries : List (Key × Value)}
    (known : key ∈ entries.map Prod.fst) :
    (write key value entries).map Prod.fst = entries.map Prod.fst := by
  induction entries with
  | nil => cases known
  | cons entry entries ih =>
      by_cases same : entry.1 = key
      · simp [write, same]
      · have later := (List.mem_cons.mp known).resolve_left (Ne.symm same)
        simp [write, same, ih later]

def empty : Record Key Value := ⟨[], List.nodup_nil⟩

def set (record : Record Key Value) (key : Key) (value : Value) : Record Key Value where
  entries := write key value record.entries
  distinct := by
    by_cases known : key ∈ record.entries.map Prod.fst
    · rw [write_keys known]
      exact record.distinct
    · rw [write_fresh known, List.map_append]
      exact List.nodup_append.mpr ⟨record.distinct, List.nodup_singleton key, by
        rintro other belongs _ (_ | ⟨_, ⟨⟩⟩) rfl
        exact known belongs⟩

/-- The entries are written into the record one after the other. -/
def assign (record : Record Key Value) (entries : List (Key × Value)) : Record Key Value :=
  entries.foldl (fun result entry => result.set entry.1 entry.2) record

def omitKeys (record : Record Key Value) (dropped : List Key) : Record Key Value where
  entries := record.entries.filter fun entry => entry.1 ∉ dropped
  distinct := record.distinct.sublist (List.filter_sublist.map Prod.fst)

def mapValues (change : Value → Value') (record : Record Key Value) : Record Key Value' where
  entries := record.entries.map fun entry => (entry.1, change entry.2)
  distinct := by
    rw [List.map_map]
    exact record.distinct

theorem assign_fresh {record : Record Key Value} {entries : List (Key × Value)}
    (fresh : (record.keys ++ entries.map Prod.fst).Nodup) :
    (record.assign entries).entries = record.entries ++ entries := by
  induction entries generalizing record with
  | nil => simp [assign]
  | cons entry entries ih =>
      have absent : entry.1 ∉ record.keys := by
        intro known
        exact (List.nodup_append.mp fresh).2.2 _ known _ (by simp) rfl
      have written : (record.set entry.1 entry.2).entries = record.entries ++ [entry] :=
        write_fresh absent
      have rest := @ih (record.set entry.1 entry.2) (by
        unfold keys at fresh ⊢
        rw [written]
        simpa using fresh)
      rw [written, List.append_assoc] at rest
      exact rest

theorem empty_assign {entries : List (Key × Value)} (distinct : (entries.map Prod.fst).Nodup) :
    empty.assign entries = ⟨entries, distinct⟩ := by
  ext1
  rw [assign_fresh]
  · rfl
  · simpa [keys, empty] using distinct

theorem lookup_write (key other : Key) (value : Value) (entries : List (Key × Value)) :
    (write key value entries).lookup other =
      if other = key then some value else entries.lookup other := by
  induction entries with
  | nil =>
      by_cases same : other = key
      · simp [write, same]
      · simp [write, same, List.lookup_cons, beq_false_of_ne same]
  | cons entry entries ih =>
      obtain ⟨first, held⟩ := entry
      by_cases here : first = key
      · subst first
        by_cases same : other = key
        · simp [write, same]
        · simp [write, same, List.lookup_cons, beq_false_of_ne same]
      · rw [write, if_neg here]
        by_cases same : other = first
        · subst other
          simp [here]
        · simp [List.lookup_cons, beq_false_of_ne same, ih]

theorem get?_set (record : Record Key Value) (key other : Key) (value : Value) :
    (record.set key value).get? other = if other = key then some value else record.get? other :=
  lookup_write key other value record.entries

/-- What is written last is read: an entry of `other`, and else what was there before. -/
theorem get?_assign (record other : Record Key Value) (key : Key) :
    (record.assign other.entries).get? key = (other.get? key).or (record.get? key) := by
  obtain ⟨entries, distinct⟩ := other
  change (record.assign entries).get? key = (entries.lookup key).or _
  induction entries generalizing record with
  | nil => rfl
  | cons entry entries ih =>
      obtain ⟨first, value⟩ := entry
      obtain ⟨apart, rest⟩ := List.nodup_cons.mp distinct
      change ((record.set first value).assign entries).get? key = _
      rw [ih (record.set first value) rest, get?_set]
      by_cases same : key = first
      · subst key
        have absent : entries.lookup first = none := by
          rw [List.lookup_eq_none_iff]
          intro entry belongs
          rw [bne_iff_ne]
          intro same
          exact apart (List.mem_map.mpr ⟨entry, belongs, same.symm⟩)
        simp [absent]
      · simp [List.lookup_cons, beq_false_of_ne same, same]

theorem get?_eq_none_iff (record : Record Key Value) (key : Key) :
    record.get? key = none ↔ key ∉ record.keys := by
  unfold get? keys
  rw [List.lookup_eq_none_iff]
  constructor
  · intro apart belongs
    obtain ⟨entry, member, rfl⟩ := List.mem_map.mp belongs
    simpa using apart entry member
  · intro absent entry belongs
    rw [bne_iff_ne]
    rintro rfl
    exact absent (List.mem_map_of_mem belongs)

theorem mem_keys_set {record : Record Key Value} {key other : Key} {value : Value}
    (belongs : other ∈ (record.set key value).keys) : other = key ∨ other ∈ record.keys := by
  by_contra apart
  rw [not_or] at apart
  have absent := (get?_eq_none_iff record other).mpr apart.2
  have present := mt (get?_eq_none_iff (record.set key value) other).mp (not_not_intro belongs)
  rw [get?_set, if_neg apart.1] at present
  exact present absent

theorem mem_keys_assign {record : Record Key Value} {entries : List (Key × Value)} {key : Key}
    (belongs : key ∈ (record.assign entries).keys) :
    key ∈ entries.map Prod.fst ∨ key ∈ record.keys := by
  induction entries generalizing record with
  | nil => exact Or.inr belongs
  | cons entry entries ih =>
      rcases ih belongs with later | before
      · exact Or.inl (List.mem_cons_of_mem _ later)
      · rcases mem_keys_set before with rfl | known
        · exact Or.inl List.mem_cons_self
        · exact Or.inr known

theorem get?_mapValues (change : Value → Value') (record : Record Key Value) (key : Key) :
    (record.mapValues change).get? key = (record.get? key).map change := by
  change (record.entries.map fun entry => (entry.1, change entry.2)).lookup key = _
  unfold get?
  induction record.entries with
  | nil => rfl
  | cons entry entries ih =>
      obtain ⟨other, value⟩ := entry
      by_cases same : key = other
      · simp [same]
      · simp only [List.map_cons, List.lookup_cons, beq_false_of_ne same, ih]

end Record

end Startrail
