import Mathlib.Data.List.Perm.Subperm
import Mathlib.Data.List.Forall2
import Mathlib.Logic.Function.Basic

/-!
A register keeps what is entered first under each id. Items that are to have one entry each are all
found in it, each under an id of its own, just when their ids are different and what is entered can
tell of them.
-/

namespace Startrail

variable {Id V E I : Type}

section Entries

variable [DecidableEq Id]

def enter (table : Id → Option V) (id : Id) (value : V) : Id → Option V :=
  match table id with
  | some _ => table
  | none => Function.update table id (some value)

def enters (table : Id → Option V) : Option (Id × V) → Id → Option V
  | none => table
  | some (id, value) => enter table id value

def register : List (Id × V) → Id → Option V
  | [] => fun _ => none
  | (id, value) :: earlier => enter (register earlier) id value

variable {table : Id → Option V} {id other : Id} {value kept : V} {entries : List (Id × V)}

theorem enter_unused (unused : table id = none) :
    enter table id value = Function.update table id (some value) := by
  unfold enter
  rw [unused]

theorem enter_used (used : table id = some kept) : enter table id value = table := by
  unfold enter
  rw [used]

theorem enter_of_ne (apart : other ≠ id) : enter table id value other = table other := by
  cases used : table id with
  | none => rw [enter_unused used, Function.update_of_ne apart]
  | some kept => rw [enter_used used]

theorem enter_found (found : table other = some kept) :
    enter table id value other = some kept := by
  by_cases same : other = id
  · subst same
    rw [enter_used found, found]
  · rw [enter_of_ne same, found]

theorem enter_congr {table' : Id → Option V} (same : table other = table' other) :
    enter table id value other = enter table' id value other := by
  by_cases here : other = id
  · subst here
    cases found : table other with
    | none =>
        rw [enter_unused found, enter_unused (same.symm.trans found), Function.update_self,
          Function.update_self]
    | some kept => rw [enter_used found, enter_used (same.symm.trans found), same]
  · rw [enter_of_ne here, enter_of_ne here, same]

theorem register_cons {read : E → Option (Id × V)} {event : E} {log : List E} :
    register ((event :: log).filterMap read) =
      enters (register (log.filterMap read)) (read event) := by
  rw [List.filterMap_cons]
  cases read event with
  | none => rfl
  | some entry => rfl

theorem register_mem (found : register entries id = some value) : (id, value) ∈ entries := by
  induction entries with
  | nil => cases found
  | cons entry earlier ih =>
      obtain ⟨entered, first⟩ := entry
      change enter (register earlier) entered first id = some value at found
      by_cases same : id = entered
      · subst same
        cases used : register earlier id with
        | none =>
            rw [enter_unused used, Function.update_self] at found
            cases found
            exact List.mem_cons_self
        | some kept =>
            rw [enter_used used] at found
            exact List.mem_cons_of_mem _ (ih found)
      · rw [enter_of_ne same] at found
        exact List.mem_cons_of_mem _ (ih found)

theorem register_unused (unused : ∀ value, (id, value) ∉ entries) : register entries id = none := by
  cases found : register entries id with
  | none => rfl
  | some value => exact absurd (register_mem found) (unused value)

/-- What is found under an id depends only on the entries under this id. -/
theorem register_agree {read read' : E → Option (Id × V)} {log : List E}
    (same : ∀ event ∈ log, ∀ value, read event = some (id, value) ↔
      read' event = some (id, value)) :
    register (log.filterMap read) id = register (log.filterMap read') id := by
  induction log with
  | nil => rfl
  | cons event earlier ih =>
      have rest := ih fun other member => same other (List.mem_cons_of_mem _ member)
      have here := same event List.mem_cons_self
      have skips : ∀ {read : E → Option (Id × V)}, (∀ value, read event ≠ some (id, value)) →
          register ((event :: earlier).filterMap read) id =
            register (earlier.filterMap read) id := by
        intro read silent
        cases told : read event with
        | none => rw [List.filterMap_cons_none told]
        | some entry =>
            rw [List.filterMap_cons_some told]
            exact enter_of_ne fun same => silent entry.2 (told.trans (by rw [same]))
      by_cases speaks : ∃ value, read event = some (id, value)
      · obtain ⟨value, told⟩ := speaks
        rw [List.filterMap_cons_some told, List.filterMap_cons_some ((here value).mp told)]
        exact enter_congr rest
      · have silent := not_exists.mp speaks
        rw [skips silent, skips fun value told => silent value ((here value).mpr told), rest]

end Entries

/-- There is one entry for each item, under different ids, and no other of this kind. -/
def OneEach (table : Id → Option V) (Mine : V → Prop) (Fits : V → I → Prop) (items : List I) :
    Prop :=
  ∃ ids : List Id, ids.Nodup ∧
    List.Forall₂ (fun id item => ∃ value, table id = some value ∧ Fits value item) ids items ∧
    ∀ id value, table id = some value → Mine value → id ∈ ids

theorem forall₂_forall {Good : I → Prop} {ids : List Id} {items : List I}
    (each : List.Forall₂ (fun _ item => Good item) ids items) : ∀ item ∈ items, Good item := by
  induction each with
  | nil => exact nofun
  | cons first _ ih => exact List.forall_mem_cons.mpr ⟨first, ih⟩

theorem oneEach_iff {table : Id → Option V} {Mine : V → Prop} {Fits : V → I → Prop}
    {items : List I} {key : I → Id} {Good : I → Prop}
    (mine : ∀ {value item}, Fits value item → Mine value)
    (covers : ∀ {id value}, table id = some value → Mine value → id ∈ items.map key)
    (good : ∀ {id value item}, table id = some value → Fits value item → Good item)
    (found : (items.map key).Nodup → ∀ item ∈ items, Good item →
      ∃ value, table (key item) = some value ∧ Fits value item) :
    OneEach table Mine Fits items ↔ (items.map key).Nodup ∧ ∀ item ∈ items, Good item := by
  constructor
  · rintro ⟨ids, distinct, each, _⟩
    have fitting : List.Forall₂ (fun _ item => Good item) ids items :=
      each.imp fun _ _ ⟨_, held, fits⟩ => good held fits
    refine ⟨?_, (forall₂_forall fitting)⟩
    have listed : List.Forall₂ (fun id _ => id ∈ items.map key ∧ True) ids items :=
      each.imp fun _ _ ⟨_, held, fits⟩ => ⟨covers held (mine fits), trivial⟩
    have sizes : (items.map key).length ≤ ids.length :=
      Nat.le_of_eq ((List.length_map key).trans each.length_eq.symm)
    have contained := distinct.subperm ((List.forall₂_and_left _ _).mp listed).1
    exact (contained.perm_of_length_le sizes).nodup_iff.mp distinct
  · rintro ⟨distinct, all⟩
    refine ⟨items.map key, distinct, ?_, fun id value => covers⟩
    rw [List.forall₂_map_left_iff, List.forall₂_same]
    exact fun item member => found distinct item member (all item member)

end Startrail
