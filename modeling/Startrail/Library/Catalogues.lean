import Mathlib.Logic.Function.Basic
import Mathlib.Data.List.Basic

/-!
Catalogues whose entries get their ids from a counter. A catalogue finds the name of an id and
the id of a name; as long as an id is new and a name is not in use, an entry keeps the two maps
inverse to each other on the ids that were given out.
-/

namespace Startrail

structure Catalogue (Id Name : Type) where
  ids : List Id
  nameOf : Id → Name
  idOf : Name → Id

namespace Catalogue

variable {Id Name : Type} {catalogue : Catalogue Id Name} {id : Id} {name : Name}

def Mutual (catalogue : Catalogue Id Name) : Prop :=
  ∀ id ∈ catalogue.ids, catalogue.idOf (catalogue.nameOf id) = id

theorem Mutual.distinct (mutual_ : catalogue.Mutual) {first second : Id}
    (known : first ∈ catalogue.ids) (known' : second ∈ catalogue.ids)
    (same : catalogue.nameOf first = catalogue.nameOf second) : first = second := by
  rw [← mutual_ first known, same]
  exact mutual_ second known'

variable [DecidableEq Id] [DecidableEq Name]

def enter (catalogue : Catalogue Id Name) (id : Id) (name : Name) : Catalogue Id Name where
  ids := id :: catalogue.ids
  nameOf := Function.update catalogue.nameOf id name
  idOf := Function.update catalogue.idOf name id

theorem enter_nameOf_other {other : Id} (fresh : id ∉ catalogue.ids)
    (known : other ∈ catalogue.ids) :
    (catalogue.enter id name).nameOf other = catalogue.nameOf other := by
  refine Function.update_of_ne ?_ name catalogue.nameOf
  rintro rfl
  exact fresh known

theorem Mutual.enter (mutual_ : catalogue.Mutual) (fresh : id ∉ catalogue.ids)
    (unused : catalogue.idOf name ∉ catalogue.ids) : (catalogue.enter id name).Mutual := by
  intro other known
  rcases List.mem_cons.mp known with rfl | earlier
  · simp [Catalogue.enter]
  · have apart : catalogue.nameOf other ≠ name := by
      rintro rfl
      rw [mutual_ other earlier] at unused
      exact unused earlier
    rw [enter_nameOf_other fresh earlier]
    exact (Function.update_of_ne apart id catalogue.idOf).trans (mutual_ other earlier)

end Catalogue

section Counters

variable {Id : Type} {rank : Id → ℕ} {ids : List Id} {count : ℕ} {id : Id}

/-- Ids that a counter gave out, each once. -/
structure Counted (rank : Id → ℕ) (ids : List Id) (count : ℕ) : Prop where
  once : ids.Nodup
  bounded : ∀ id ∈ ids, 0 < rank id ∧ rank id ≤ count

theorem Counted.nil (rank : Id → ℕ) (count : ℕ) : Counted rank [] count :=
  ⟨List.nodup_nil, by simp⟩

theorem Counted.fresh (counted : Counted rank ids count) (next : rank id = count + 1) :
    id ∉ ids := by
  intro known
  have bounded := counted.bounded id known
  omega

theorem Counted.next (counted : Counted rank ids count) (next : rank id = count + 1) :
    Counted rank (id :: ids) (count + 1) := by
  refine ⟨List.nodup_cons.mpr ⟨counted.fresh next, counted.once⟩, ?_⟩
  intro other known
  rcases List.mem_cons.mp known with rfl | known
  · omega
  · have bounded := counted.bounded other known
    omega

end Counters

end Startrail
