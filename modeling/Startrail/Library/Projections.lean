import Mathlib.Data.List.Basic

/-!
A store that follows a log, and what it shows under a key. If a handler does to the view of each
key what its event says of that key, the store shows under a key what all events that name the key
come to, and where each event finds what it takes for granted no handler fails that has no other
reason to.
-/

namespace Startrail

structure Projection (E S Key V N : Type) where
  handle : E → S → Option S
  view : S → Key → V
  note : E → Option (Key × N)
  after : N → V → V

namespace Projection

variable {E S Key V N : Type} (projection : Projection E S Key V N)

def replay (store : S) : List E → Option S
  | [] => some store
  | event :: earlier => (replay store earlier).bind (projection.handle event)

def shown (before : V) (notes : List N) : V := notes.foldr projection.after before

variable {projection} in
theorem shown_append {before : V} {late early : List N} : projection.shown before (late ++ early) =
    projection.shown (projection.shown before early) late := List.foldr_append

variable [DecidableEq Key]

/-- What an event says of a key. -/
def noteOn (key : Key) (event : E) : Option N :=
  (projection.note event).bind fun (other, note) => if other = key then some note else none

def notes (key : Key) (log : List E) : List N := log.filterMap (projection.noteOn key)

structure Lawful : Prop where
  tells : ∀ {event store store' key note}, projection.handle event store = some store' →
    projection.note event = some (key, note) → ∀ other, projection.view store' other =
      if other = key then projection.after note (projection.view store key)
      else projection.view store other
  spares : ∀ {event store store'}, projection.handle event store = some store' →
    projection.note event = none → ∀ key, projection.view store' key = projection.view store key

/-- Each event of a log finds what it permits itself to take for granted. -/
def Fed (Permits : E → (Key → V) → Prop) (blank : V) : List E → Prop
  | [] => True
  | event :: earlier => Fed Permits blank earlier ∧
      Permits event fun key => projection.shown blank (projection.notes key earlier)

variable {projection} {event : E} {log fresh : List E} {store store' : S} {key : Key}

theorem notes_cons : projection.notes key (event :: log) =
    (projection.noteOn key event).toList ++ projection.notes key log := by
  unfold notes
  rw [List.filterMap_cons]
  cases projection.noteOn key event with
  | none => rfl
  | some note => rfl

theorem Lawful.handle_view (lawful : projection.Lawful)
    (handled : projection.handle event store = some store') (key : Key) :
    projection.view store' key =
      projection.shown (projection.view store key) (projection.noteOn key event).toList := by
  unfold noteOn
  cases named : projection.note event with
  | none => exact lawful.spares handled named key
  | some said =>
      obtain ⟨other, note⟩ := said
      rw [lawful.tells handled named key]
      by_cases same : key = other
      · subst same
        simp [shown]
      · simp [shown, same, Ne.symm same]

theorem Lawful.replay_view (lawful : projection.Lawful)
    (replayed : projection.replay store log = some store') (key : Key) :
    projection.view store' key =
      projection.shown (projection.view store key) (projection.notes key log) := by
  induction log generalizing store' with
  | nil =>
      cases replayed
      rfl
  | cons event log ih =>
      obtain ⟨middle, earlier, handled⟩ := Option.bind_eq_some_iff.mp replayed
      rw [lawful.handle_view handled, ih earlier, notes_cons, shown_append]

/-- A log is replayed to its end exactly if each of its events is handled where it comes. -/
theorem Lawful.replay_some (lawful : projection.Lawful) {Permits : E → (Key → V) → Prop}
    {Allows : E → Prop} {blank : V}
    (handles : ∀ event store, Permits event (projection.view store) →
      ((∃ store', projection.handle event store = some store') ↔ Allows event))
    (begins : ∀ key, projection.view store key = blank) (fed : projection.Fed Permits blank log) :
    (∃ store', projection.replay store log = some store') ↔ ∀ event ∈ log, Allows event := by
  induction log with
  | nil => simp [replay]
  | cons event log ih =>
      have permitted : ∀ {middle}, projection.replay store log = some middle →
          Permits event (projection.view middle) := by
        intro middle earlier
        have views : projection.view middle =
            fun key => projection.shown blank (projection.notes key log) := by
          funext key
          rw [lawful.replay_view earlier, begins]
        exact views ▸ fed.2
      rw [List.forall_mem_cons, ← ih fed.1]
      constructor
      · rintro ⟨after, replayed⟩
        obtain ⟨middle, earlier, handled⟩ := Option.bind_eq_some_iff.mp replayed
        exact ⟨(handles event middle (permitted earlier)).mp ⟨after, handled⟩, middle, earlier⟩
      · rintro ⟨allowed, middle, earlier⟩
        obtain ⟨after, handled⟩ := (handles event middle (permitted earlier)).mpr allowed
        exact ⟨after, Option.bind_eq_some_iff.mpr ⟨middle, earlier, handled⟩⟩

end Projection

end Startrail
