import Startrail.Library.Timelines

/-!
Since when something has held in a run. `Past` has the calls of a run one after
another; a run whose calls change nothing any more after they have let others run has
such a past. What holds now and did not hold at first has been brought about by one of
the calls and has held in every state since then.
-/

namespace Startrail

variable {E S Q R L : Type}

section Definitions

variable (entry : L → S → Outcome E S Q R S) (Legal : L → S → Prop) (origin : S)

inductive Past : List L → S → Prop
  | start : Past [] origin
  | call {trace : List L} {before after : S} (label : L) : Past trace before →
      Legal label before → (entry label before).front = some after → Past (label :: trace) after

/-- One of the calls acted so that `Held` held, and it holds ever since. -/
inductive Since (Act : List L → L → S → Prop) (Held : S → Prop) : List L → S → Prop
  | act {trace : List L} {before after : S} (label : L) : Past entry Legal origin trace before →
      Legal label before → (entry label before).front = some after → Act trace label before →
      Held after → Since Act Held (label :: trace) after
  | still {trace : List L} {before after : S} (label : L) : Since Act Held trace before →
      Legal label before → (entry label before).front = some after → Held after →
      Since Act Held (label :: trace) after

end Definitions

variable {entry : L → S → Outcome E S Q R S} {Legal : L → S → Prop} {origin : S}

theorem Reach.past {config : Config E S Q R L}
    (trailing : ∀ label state, (entry label state).Trailing)
    (reach : Reach entry Legal origin config) :
    Past entry Legal origin config.now.trace config.now.state := by
  refine (Reach.sound (fun snapshot => Past entry Legal origin snapshot.trace snapshot.state)
    (fun _ _ => True) (fun _ => trivial) (fun _ _ => trivial) ?_ .start reach).1
  rintro label ⟨state, trace⟩ legal past
  have ends := trailing label state
  unfold Completes
  change Outcome.Meets _ _ _ _ (entry label state)
  cases ran : entry label state with
  | revert reason => trivial
  | done state' => exact ⟨.call label past legal (congrArg Outcome.front ran), trivial⟩
  | call state' query resume =>
      refine ⟨.call label past legal (congrArg Outcome.front ran), ?_⟩
      intro later trace' reply kept _
      rw [ran] at ends
      rcases ends later reply with finished | ⟨reason, reverted⟩
      · rw [finished]
        exact ⟨kept, trivial⟩
      · rw [reverted]
        trivial

theorem Past.invariant (Inv : S → Prop) (initial : Inv origin)
    (step : ∀ {label before after}, Legal label before →
      (entry label before).front = some after → Inv before → Inv after)
    {trace : List L} {now : S} (past : Past entry Legal origin trace now) : Inv now := by
  induction past with
  | start => exact initial
  | call label _ legal ran ih => exact step legal ran ih

variable {Act : List L → L → S → Prop} {Held : S → Prop} {trace : List L} {now : S}

/-- What holds and did not hold at first holds since a call that acted so. -/
theorem Past.since (initial : ¬Held origin)
    (gains : ∀ {trace label before after}, Past entry Legal origin trace before →
      Legal label before → (entry label before).front = some after → Held after →
      Held before ∨ Act trace label before)
    (past : Past entry Legal origin trace now) (held : Held now) :
    Since entry Legal origin Act Held trace now := by
  induction past with
  | start => exact absurd held initial
  | call label earlier legal ran ih =>
      rcases gains earlier legal ran held with already | acted
      · exact .still label (ih already) legal ran held
      · exact .act label earlier legal ran acted held

theorem Since.held (since : Since entry Legal origin Act Held trace now) : Held now := by
  cases since with
  | act _ _ _ _ _ held => exact held
  | still _ _ _ _ held => exact held

end Startrail
