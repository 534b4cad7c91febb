import Startrail.Library.Reentrancy

/-!
The log of a run, with the times of the calls that have logged it. Each call of a trace has a time,
and what is new in the log when it lets others run, or ends, has been logged at this time.
-/

namespace Startrail

variable {E S Q R L T V : Type}

def stamp (time : T) (log : List V) (feed : List (T × V)) : List (T × V) :=
  (log.take (log.length - feed.length)).map (time, ·) ++ feed

theorem stamp_append (time : T) {fresh log : List V} {feed : List (T × V)}
    (fed : feed.map Prod.snd = log) :
    stamp time (fresh ++ log) feed = fresh.map (time, ·) ++ feed := by
  have sizes : (fresh ++ log).length - feed.length = fresh.length := by
    rw [← fed, List.length_append, List.length_map]
    omega
  rw [stamp, sizes, List.take_left]

section Timelines

variable (entry : L → S → Outcome E S Q R S) (logs : S → List V) (origin : S)

/-- The state after the calls of a trace, and its log with their times. -/
def timeline : List (T × L) → Option (S × List (T × V))
  | [] => some (origin, [])
  | (time, label) :: earlier => (timeline earlier).bind fun (state, feed) =>
      (entry label state).front.map fun state' => (state', stamp time (logs state') feed)

variable {entry logs origin}

theorem timeline_step {trace : List (T × L)} {time : T} {label : L} {state state' : S}
    {feed : List (T × V)} (past : timeline entry logs origin trace = some (state, feed))
    (ran : (entry label state).front = some state') :
    timeline entry logs origin ((time, label) :: trace) =
      some (state', stamp time (logs state') feed) := by
  rw [timeline, past, Option.bind_some]
  exact congrArg (Option.map _) ran

/-- In a run whose calls change nothing any more after they have let others run, the state and the
calls that led to it keep what each call keeps until then. -/
theorem Reach.traced {Legal : L → S → Prop} {config : Config E S Q R L}
    (Inv : S → List L → Prop) (initial : Inv origin [])
    (trailing : ∀ label state, (entry label state).Trailing)
    (step : ∀ {label state state' trace}, Inv state trace →
      (entry label state).front = some state' → Inv state' (label :: trace))
    (reach : Reach entry Legal origin config) : Inv config.now.state config.now.trace := by
  refine (Reach.sound (fun snapshot => Inv snapshot.state snapshot.trace) (fun _ _ => True)
    (fun _ => trivial) (fun _ _ => trivial) ?_ initial reach).1
  rintro label ⟨state, trace⟩ _ inv
  have ends := trailing label state
  unfold Completes
  change Outcome.Meets _ _ _ _ (entry label state)
  cases ran : entry label state with
  | revert reason => trivial
  | done state' => exact ⟨step inv (congrArg Outcome.front ran), trivial⟩
  | call state' query resume =>
      refine ⟨step inv (congrArg Outcome.front ran), ?_⟩
      intro later trace' reply kept _
      rw [ran] at ends
      rcases ends later reply with finished | ⟨reason, reverted⟩
      · rw [finished]
        exact ⟨kept, trivial⟩
      · rw [reverted]
        trivial

theorem reach_timeline {Legal : T × L → S → Prop} {config : Config E S Q R (T × L)}
    (trailing : ∀ label state, (entry label state).Trailing)
    (reach : Reach (fun label => entry label.2) Legal origin config) :
    ∃ feed, timeline entry logs origin config.now.trace = some (config.now.state, feed) := by
  refine reach.traced (fun state trace => ∃ feed, timeline entry logs origin trace =
    some (state, feed)) ⟨[], rfl⟩ (fun label => trailing label.2) ?_
  rintro ⟨time, label⟩ state state' trace ⟨feed, past⟩ ran
  exact ⟨_, timeline_step past ran⟩

theorem timeline_induction {Inv : S → List (T × V) → Prop} (initial : Inv origin [])
    (fed : logs origin = [])
    (step : ∀ {label state state'}, (entry label state).front = some state' →
      ∃ fresh, logs state' = fresh ++ logs state ∧ ∀ time feed, feed.map Prod.snd = logs state →
        Inv state feed → Inv state' (fresh.map (time, ·) ++ feed))
    {trace : List (T × L)} {state : S} {feed : List (T × V)}
    (past : timeline entry logs origin trace = some (state, feed)) :
    feed.map Prod.snd = logs state ∧ Inv state feed := by
  induction trace generalizing state feed with
  | nil =>
      cases past
      exact ⟨fed.symm, initial⟩
  | cons call earlier ih =>
      obtain ⟨time, label⟩ := call
      obtain ⟨⟨before, old⟩, first, next⟩ := Option.bind_eq_some_iff.mp past
      obtain ⟨after, ran, same⟩ := Option.map_eq_some_iff.mp next
      cases same
      obtain ⟨told, inv⟩ := ih first
      obtain ⟨fresh, grown, keeps⟩ := step ran
      rw [grown, stamp_append time told]
      refine ⟨?_, keeps time old told inv⟩
      rw [List.map_append, told, List.map_map]
      exact congrArg (· ++ logs before) (List.map_id fresh)

end Timelines

end Startrail
