import Mathlib.Logic.Function.Basic
import Mathlib.Data.List.Basic

/-!
References to the entries of a catalogue. A store cites entries for good, and it
keeps some of them under a key to cite them later. If no entry of the catalogue is
ever dropped, a check of the entries that a step brings in is all it takes for the
citations to be of entries that exist, and it takes that much: `grounded_note_iff`.
-/

namespace Startrail

@[ext]
structure References (Key Id : Type) where
  kept : Key → Option Id
  cited : List Id

/-- What a step does with references. To keep no entry changes nothing. -/
inductive Citation (Key Id : Type) where
  | quiet
  | cite (ids : List Id)
  | keep (key : Key) (id : Option Id)
  | redeem (key : Key)
  | release (key : Key)

/-- The entries that a step brings in, instead of what is kept already. -/
def Citation.given {Key Id : Type} : Citation Key Id → List Id
  | .cite ids => ids
  | .keep _ id => id.toList
  | _ => []

namespace References

variable {Key Id : Type} {references before after : References Key Id} {Known Known' : Id → Prop}

def Within (Known : Id → Prop) (references : References Key Id) : Prop :=
  (∀ key id, references.kept key = some id → Known id) ∧ ∀ id ∈ references.cited, Known id

/-- All that is newly cited is known. -/
def Grounded (Known : Id → Prop) (before after : References Key Id) : Prop :=
  ∃ fresh, after.cited = fresh ++ before.cited ∧ ∀ id ∈ fresh, Known id

theorem Within.mono (within : references.Within Known) (grows : ∀ id, Known id → Known' id) :
    references.Within Known' :=
  ⟨fun key id keeps => grows id (within.1 key id keeps),
    fun id cites => grows id (within.2 id cites)⟩

theorem Grounded.refl (references : References Key Id) : Grounded Known references references :=
  ⟨[], rfl, by simp⟩

variable [DecidableEq Key] {citation : Citation Key Id}

/-- The entries that a step cites. -/
def fresh (references : References Key Id) : Citation Key Id → List Id
  | .cite ids => ids
  | .keep _ id => id.toList
  | .redeem key => (references.kept key).toList
  | _ => []

def holds (references : References Key Id) : Citation Key Id → Key → Option Id
  | .keep key (some id) => Function.update references.kept key (some id)
  | .redeem key => Function.update references.kept key none
  | .release key => Function.update references.kept key none
  | _ => references.kept

def note (references : References Key Id) (citation : Citation Key Id) : References Key Id where
  kept := references.holds citation
  cited := references.fresh citation ++ references.cited

@[simp] theorem note_quiet : references.note .quiet = references := rfl

omit [DecidableEq Key] in
theorem fresh_known (within : references.Within Known) (known : ∀ id ∈ citation.given, Known id) :
    ∀ id ∈ references.fresh citation, Known id := by
  cases citation with
  | redeem key =>
      intro id redeemed
      exact within.1 key id (Option.mem_toList.mp redeemed)
  | _ => exact known

theorem holds_known (within : references.Within Known) (known : ∀ id ∈ citation.given, Known id)
    {key : Key} {id : Id} (keeps : references.holds citation key = some id) : Known id := by
  have updated : ∀ key' kept, (∀ id, kept = some id → Known id) →
      Function.update references.kept key' kept key = some id → Known id := by
    intro key' kept new held
    by_cases same : key = key'
    · subst key'
      rw [Function.update_self] at held
      exact new id held
    · rw [Function.update_of_ne same] at held
      exact within.1 key id held
  cases citation with
  | keep key' given =>
      cases given with
      | none => exact within.1 key id keeps
      | some given =>
          refine updated key' (some given) ?_ keeps
          rintro _ ⟨⟩
          exact known given (by simp [Citation.given])
  | redeem key' => exact updated key' none (by simp) keeps
  | release key' => exact updated key' none (by simp) keeps
  | quiet => exact within.1 key id keeps
  | cite ids => exact within.1 key id keeps

theorem Within.note (within : references.Within Known)
    (known : ∀ id ∈ citation.given, Known id) : (references.note citation).Within Known := by
  refine ⟨fun _ _ keeps => holds_known within known keeps, ?_⟩
  intro id cites
  rcases List.mem_append.mp cites with fresh | cited
  · exact fresh_known within known id fresh
  · exact within.2 id cited

theorem grounded_note : Grounded Known references (references.note citation) ↔
    ∀ id ∈ references.fresh citation, Known id := by
  constructor
  · rintro ⟨fresh, grown, known⟩
    rwa [List.append_cancel_right grown]
  · exact fun known => ⟨references.fresh citation, rfl, known⟩

theorem grounded_note_iff (within : references.Within Known) :
    Grounded Known references (references.note citation) ↔ ∀ id ∈ citation.given, Known id := by
  rw [grounded_note]
  constructor
  · intro known
    cases citation with
    | cite ids => exact known
    | keep key id => exact known
    | _ => simp [Citation.given]
  · exact fresh_known within

end References

end Startrail
