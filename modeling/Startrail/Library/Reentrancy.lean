import Mathlib.Logic.Basic
import Mathlib.Data.List.Basic

/-!
Contract code that hands control to unknown code. An `Outcome` is what running
such code comes to: a revert, a value, or a call that gets the state as it stands
and answers with a reply. A `Config` keeps the calls that still wait for an
answer, each with the snapshot a revert goes back to; a snapshot is a state with
the calls that led to it, the latest first. While a call waits anyone may enter
the contract again, and a waiting call may run out of gas (`abort`). `Reach` has
the configurations of all runs whose calls are `Legal` where they are made.

The rules at the end turn a property of each entry point into a property of every
run: `Reach.sound` for a relation that completed calls keep, `Reach.invariant`
for a property of single states.
-/

namespace Startrail

inductive Outcome (E S Q R A : Type) where
  | revert (reason : E)
  | done (value : A)
  | call (state : S) (query : Q) (resume : S → R → Outcome E S Q R A)

variable {E S Q R L A B C : Type}

namespace Outcome

def bind : Outcome E S Q R A → (A → Outcome E S Q R B) → Outcome E S Q R B
  | .revert reason, _ => .revert reason
  | .done value, next => next value
  | .call state query resume, next =>
      .call state query fun later reply => bind (resume later reply) next

instance : Monad (Outcome E S Q R) where
  pure := .done
  bind := Outcome.bind

def ofExcept : Except E A → Outcome E S Q R A
  | .error reason => .revert reason
  | .ok value => .done value

instance : MonadLift (Except E) (Outcome E S Q R) where
  monadLift := ofExcept

def external (state : S) (query : Q) : Outcome E S Q R (S × R) :=
  .call state query fun later reply => .done (later, reply)

def front : Outcome E S Q R S → Option S
  | .revert _ => none
  | .done state => some state
  | .call state _ _ => some state

/-- What the code comes to when `environment` answers every call. -/
def against (environment : S → Q → S × R) : Outcome E S Q R A → Except E A
  | .revert reason => .error reason
  | .done value => .ok value
  | .call state query resume =>
      let (later, reply) := environment state query
      against environment (resume later reply)

/-- The code, given some answers to the calls before it, makes this call. -/
inductive Issues : Outcome E S Q R A → S → Q → Prop
  | here (state query resume) : Issues (.call state query resume) state query
  | later {state query resume state' query'} (later : S) (reply : R) :
      Issues (resume later reply) state' query' → Issues (.call state query resume) state' query'

def question : Outcome E S Q R A → Option (S × Q)
  | .call state query _ => some (state, query)
  | _ => none

theorem Issues.first {code : Outcome E S Q R A} {state : S} {query : Q}
    (asked : code.question = some (state, query)) : code.Issues state query := by
  cases code with
  | revert reason => cases asked
  | done value => cases asked
  | call state' query' resume =>
      cases asked
      exact .here _ _ _

/-- What the code itself does to the state, from where it starts or is resumed to where it
calls out or ends. -/
def Segments (Step : S → S → Prop) (Post : S → A → Prop) : S → Outcome E S Q R A → Prop
  | _, .revert _ => True
  | before, .done value => Post before value
  | before, .call state _ resume => Step before state ∧
      ∀ later reply, Segments Step Post later (resume later reply)

-- A call to the same contract whose failure, with whatever reason, is reported as `reason`.
def failWith (reason : E) : Outcome E S Q R A → Outcome E S Q R A
  | .revert _ => .revert reason
  | .done value => .done value
  | .call state query resume =>
      .call state query fun later reply => failWith reason (resume later reply)

/-- Code that changes nothing any more. -/
def Ends (later : S) (code : Outcome E S Q R S) : Prop :=
  code = .done later ∨ ∃ reason, code = .revert reason

def Trailing : Outcome E S Q R S → Prop
  | .call _ _ resume => ∀ later reply,
      resume later reply = .done later ∨ ∃ reason, resume later reply = .revert reason
  | _ => True

@[simp] theorem pure_eq (value : A) : (pure value : Outcome E S Q R A) = .done value := rfl

@[simp] theorem done_bind (value : A) (next : A → Outcome E S Q R B) :
    (Outcome.done value >>= next) = next value := rfl

@[simp] theorem revert_bind (reason : E) (next : A → Outcome E S Q R B) :
    ((Outcome.revert reason : Outcome E S Q R A) >>= next) = .revert reason := rfl

@[simp] theorem call_bind (state : S) (query : Q) (resume : S → R → Outcome E S Q R A)
    (next : A → Outcome E S Q R B) :
    (Outcome.call state query resume >>= next) =
      .call state query fun later reply => resume later reply >>= next := rfl

theorem bind_done (code : Outcome E S Q R A) : (code >>= fun value => .done value) = code := by
  induction code with
  | revert reason => rfl
  | done value => rfl
  | call state query resume ih =>
      rw [call_bind]
      congr
      funext later reply
      exact ih later reply

theorem bind_bind (code : Outcome E S Q R A) (next : A → Outcome E S Q R B)
    (last : B → Outcome E S Q R C) :
    (code >>= next >>= last) = code >>= fun value => next value >>= last := by
  induction code with
  | revert reason => rfl
  | done value => rfl
  | call state query resume ih =>
      rw [call_bind, call_bind, call_bind]
      congr
      funext later reply
      exact ih later reply

instance : LawfulMonad (Outcome E S Q R) :=
  LawfulMonad.mk' _ bind_done (fun _ _ => rfl) bind_bind

@[simp] theorem liftM_ok (value : A) :
    (liftM (Except.ok value : Except E A) : Outcome E S Q R A) = .done value := rfl

@[simp] theorem liftM_error (reason : E) :
    (liftM (Except.error reason : Except E A) : Outcome E S Q R A) = .revert reason := rfl

end Outcome

structure Snapshot (S L : Type) where
  state : S
  trace : List L

structure Frame (E S Q R L : Type) where
  saved : Snapshot S L
  resume : S → R → Outcome E S Q R S

structure Config (E S Q R L : Type) where
  now : Snapshot S L
  frames : List (Frame E S Q R L)

def settle (saved : Snapshot S L) (trace : List L) (frames : List (Frame E S Q R L)) :
    Outcome E S Q R S → Config E S Q R L
  | .revert _ => ⟨saved, frames⟩
  | .done state => ⟨⟨state, trace⟩, frames⟩
  | .call state _ resume => ⟨⟨state, trace⟩, ⟨saved, resume⟩ :: frames⟩

namespace Config

def start (state : S) : Config E S Q R L := ⟨⟨state, []⟩, []⟩

def enter (entry : L → S → Outcome E S Q R S) (label : L) (config : Config E S Q R L) :
    Config E S Q R L :=
  settle config.now (label :: config.now.trace) config.frames (entry label config.now.state)

def reply (answer : R) : Config E S Q R L → Config E S Q R L
  | ⟨now, frame :: frames⟩ =>
      settle frame.saved now.trace frames (frame.resume now.state answer)
  | ⟨now, []⟩ => ⟨now, []⟩

def abort : Config E S Q R L → Config E S Q R L
  | ⟨_, frame :: frames⟩ => ⟨frame.saved, frames⟩
  | ⟨now, []⟩ => ⟨now, []⟩

end Config

inductive Reach (entry : L → S → Outcome E S Q R S) (Legal : L → S → Prop) (origin : S) :
    Config E S Q R L → Prop
  | start : Reach entry Legal origin (.start origin)
  | enter {config} (label : L) : Reach entry Legal origin config →
      Legal label config.now.state → Reach entry Legal origin (config.enter entry label)
  | reply {config} (answer : R) : Reach entry Legal origin config →
      Reach entry Legal origin (config.reply answer)
  | abort {config} : Reach entry Legal origin config → Reach entry Legal origin config.abort

/-- A call that code made, from the state it left to the answer. -/
structure Exchange (S Q R L : Type) where
  asked : S
  query : Q
  answered : Snapshot S L
  reply : R

namespace Outcome

/-- What the code has left to run after these exchanges. -/
inductive Comes : Outcome E S Q R A → List (Exchange S Q R L) → Outcome E S Q R A → Prop
  | here (code) : Comes code [] code
  | call {state query resume exchanges rest} (answered : Snapshot S L) (reply : R) :
      Comes (resume answered.state reply) exchanges rest →
      Comes (.call state query resume) (⟨state, query, answered, reply⟩ :: exchanges) rest

theorem Comes.further {code : Outcome E S Q R A} {exchanges : List (Exchange S Q R L)} {state : S}
    {query : Q} {resume : S → R → Outcome E S Q R A}
    (comes : code.Comes exchanges (.call state query resume)) (answered : Snapshot S L)
    (reply : R) :
    code.Comes (exchanges ++ [⟨state, query, answered, reply⟩]) (resume answered.state reply) := by
  generalize pending : Outcome.call state query resume = rest at comes
  induction comes with
  | here code =>
      subst pending
      exact .call answered reply (.here _)
  | call answered' reply' _ ih => exact .call answered' reply' (ih pending)

theorem Comes.of_bind {code : Outcome E S Q R A} {next : A → Outcome E S Q R B}
    {exchanges : List (Exchange S Q R L)} {value : B}
    (comes : (code >>= next).Comes exchanges (.done value)) :
    ∃ first rest middle, exchanges = first ++ rest ∧ code.Comes first (.done middle) ∧
      (next middle).Comes rest (.done value) := by
  induction code generalizing exchanges with
  | revert reason => cases comes
  | done middle => exact ⟨[], exchanges, middle, rfl, .here _, comes⟩
  | call state query resume ih =>
      rw [call_bind] at comes
      cases comes with
      | call answered reply comes =>
          obtain ⟨first, rest, middle, rfl, before, after⟩ := ih _ _ comes
          exact ⟨_ :: first, rest, middle, rfl, .call answered reply before, after⟩

theorem Comes.of_lift_bind {result : Except E A} {next : A → Outcome E S Q R B}
    {exchanges : List (Exchange S Q R L)} {value : B}
    (comes : ((liftM result : Outcome E S Q R A) >>= next).Comes exchanges (.done value)) :
    ∃ middle, result = .ok middle ∧ (next middle).Comes exchanges (.done value) := by
  cases result with
  | error reason => cases comes
  | ok middle => exact ⟨middle, rfl, comes⟩

/-- The code reverts as soon as an answer is none that it `Accepts`. -/
def Demands (Accepts : Q → R → Prop) : Outcome E S Q R A → Prop
  | .call _ query resume => ∀ later reply,
      (¬Accepts query reply → ∃ reason, resume later reply = .revert reason) ∧
        Demands Accepts (resume later reply)
  | _ => True

section Demands

variable {Accepts : Q → R → Prop}

theorem Demands.bind {code : Outcome E S Q R A} {next : A → Outcome E S Q R B}
    (first : code.Demands Accepts) (rest : ∀ value, (next value).Demands Accepts) :
    (code >>= next).Demands Accepts := by
  induction code with
  | revert reason => trivial
  | done value => exact rest value
  | call state query resume ih =>
      intro later reply
      refine ⟨?_, ih later reply (first later reply).2⟩
      intro declined
      obtain ⟨reason, reverted⟩ := (first later reply).1 declined
      refine ⟨reason, ?_⟩
      change (resume later reply >>= next) = _
      rw [reverted, revert_bind]

theorem Demands.lift (result : Except E A) :
    (liftM result : Outcome E S Q R A).Demands Accepts := by
  cases result <;> trivial

theorem Demands.external {state : S} {query : Q} {next : S × R → Outcome E S Q R A}
    (rest : ∀ later reply,
      (¬Accepts query reply → ∃ reason, next (later, reply) = .revert reason) ∧
        (next (later, reply)).Demands Accepts) :
    (external state query >>= next).Demands Accepts :=
  rest

theorem Demands.rest {code rest : Outcome E S Q R A} {exchanges : List (Exchange S Q R L)}
    (demands : code.Demands Accepts) (comes : code.Comes exchanges rest) :
    rest.Demands Accepts := by
  induction comes with
  | here code => exact demands
  | call answered reply _ ih => exact ih (demands answered.state reply).2

theorem Demands.accepted {code : Outcome E S Q R A} {exchanges : List (Exchange S Q R L)}
    {value : A} (demands : code.Demands Accepts) (comes : code.Comes exchanges (.done value)) :
    ∀ exchange ∈ exchanges, Accepts exchange.query exchange.reply := by
  generalize ended : Outcome.done value = rest at comes
  induction comes with
  | here code => simp
  | @call state query resume exchanges rest answered reply comes ih =>
      obtain ⟨refused, later⟩ := demands answered.state reply
      have accepted : Accepts query reply := by
        by_contra declined
        obtain ⟨reason, reverted⟩ := refused declined
        rw [reverted] at comes
        subst ended
        cases comes
      intro exchange belongs
      rcases List.mem_cons.mp belongs with rfl | belongs
      · exact accepted
      · exact ih later ended exchange belongs

end Demands

end Outcome

section Completion

variable {entry : L → S → Outcome E S Q R S} {Legal : L → S → Prop} {origin : S}

/-- Each answer came where the run had got to. -/
def Answered (entry : L → S → Outcome E S Q R S) (Legal : L → S → Prop) (origin : S)
    (exchanges : List (Exchange S Q R L)) : Prop :=
  ∀ exchange ∈ exchanges, ∃ config : Config E S Q R L, Reach entry Legal origin config ∧
    config.now = exchange.answered

/-- A call of a run, from where it is entered to its end. -/
structure Completed (entry : L → S → Outcome E S Q R S) (Legal : L → S → Prop) (origin : S)
    (base : Config E S Q R L) (label : L) (exchanges : List (Exchange S Q R L)) (final : S) :
    Prop where
  reach : Reach entry Legal origin base
  legal : Legal label base.now.state
  answered : Answered entry Legal origin exchanges
  comes : (entry label base.now.state).Comes exchanges (.done final)

theorem Reach.mono {Legal' : L → S → Prop} {config : Config E S Q R L}
    (reach : Reach entry Legal origin config)
    (weaker : ∀ label state, Legal label state → Legal' label state) :
    Reach entry Legal' origin config := by
  induction reach with
  | start => exact .start
  | enter label _ legal ih => exact ih.enter label (weaker label _ legal)
  | reply answer _ ih => exact ih.reply answer
  | abort _ ih => exact ih.abort

/-- Every pending call is one that was entered, after the exchanges it has had. -/
theorem Reach.pending {config : Config E S Q R L} (reach : Reach entry Legal origin config) :
    ∀ frame ∈ config.frames, ∃ (base : Config E S Q R L) (label : L)
      (exchanges : List (Exchange S Q R L)) (state : S) (query : Q),
      Reach entry Legal origin base ∧ Legal label base.now.state ∧ base.now = frame.saved ∧
        Answered entry Legal origin exchanges ∧
        (entry label base.now.state).Comes exchanges (.call state query frame.resume) := by
  induction reach with
  | start => simp [Config.start]
  | @enter config label entered legal ih =>
      unfold Config.enter
      cases code : entry label config.now.state with
      | revert reason => exact ih
      | done state => exact ih
      | call state query resume =>
          intro frame waits
          rcases List.mem_cons.mp waits with rfl | waits
          · refine ⟨config, label, [], state, query, entered, legal, rfl, ?_, ?_⟩
            · simp [Answered]
            · rw [code]
              exact .here _
          · exact ih frame waits
  | @reply config answer replied ih =>
      obtain ⟨now, frames⟩ := config
      cases frames with
      | nil => exact ih
      | cons top frames =>
          have others := fun frame waits => ih frame (List.mem_cons_of_mem _ waits)
          simp only [Config.reply]
          cases code : top.resume now.state answer with
          | revert reason => exact others
          | done state => exact others
          | call state query resume =>
              intro frame waits
              rcases List.mem_cons.mp waits with rfl | waits
              · obtain ⟨base, label, exchanges, asked, question, entered, legal, saved, answered,
                  comes⟩ := ih top List.mem_cons_self
                refine ⟨base, label, exchanges ++ [⟨asked, question, now, answer⟩], state, query,
                  entered, legal, saved, ?_, ?_⟩
                · intro exchange belongs
                  rcases List.mem_append.mp belongs with earlier | latest
                  · exact answered exchange earlier
                  · rw [List.mem_singleton.mp latest]
                    exact ⟨_, replied, rfl⟩
                · have further := comes.further now answer
                  rw [code] at further
                  exact further
              · exact others frame waits
  | @abort config _ ih =>
      obtain ⟨now, frames⟩ := config
      cases frames with
      | nil => exact ih
      | cons top frames => exact fun frame waits => ih frame (List.mem_cons_of_mem _ waits)

/-- The answer with which a pending call ends completes it. -/
theorem Reach.completed {config : Config E S Q R L} {frame : Frame E S Q R L}
    {frames : List (Frame E S Q R L)} {answer : R} {final : S}
    (reach : Reach entry Legal origin config) (waiting : config.frames = frame :: frames)
    (ended : frame.resume config.now.state answer = .done final) :
    ∃ base label exchanges, base.now = frame.saved ∧
      Completed entry Legal origin base label exchanges final := by
  obtain ⟨base, label, exchanges, state, query, entered, legal, saved, answered, comes⟩ :=
    reach.pending frame (waiting ▸ List.mem_cons_self)
  refine ⟨base, label, exchanges ++ [⟨state, query, config.now, answer⟩], saved, entered, legal,
    ?_, ?_⟩
  · intro exchange belongs
    rcases List.mem_append.mp belongs with earlier | latest
    · exact answered exchange earlier
    · rw [List.mem_singleton.mp latest]
      exact ⟨config, reach, rfl⟩
  · have further := comes.further config.now answer
    rw [ended] at further
    exact further

end Completion

namespace Outcome

/-- Wherever the code lets others run, `Inv` holds; provided they keep `Inv` and
`Rel`, the code ends in `Post`. -/
def Meets (Inv : Snapshot S L → Prop) (Rel : Snapshot S L → Snapshot S L → Prop)
    (Post : A → List L → Prop) : List L → Outcome E S Q R A → Prop
  | _, .revert _ => True
  | trace, .done value => Post value trace
  | trace, .call state _ resume => Inv ⟨state, trace⟩ ∧
      ∀ later trace' reply, Inv ⟨later, trace'⟩ → Rel ⟨state, trace⟩ ⟨later, trace'⟩ →
        Meets Inv Rel Post trace' (resume later reply)

variable {Inv : Snapshot S L → Prop} {Rel : Snapshot S L → Snapshot S L → Prop}

theorem Meets.bind {Mid : A → List L → Prop} {Post : B → List L → Prop}
    {code : Outcome E S Q R A} {next : A → Outcome E S Q R B} {trace : List L}
    (first : code.Meets Inv Rel Mid trace)
    (rest : ∀ value trace, Mid value trace → (next value).Meets Inv Rel Post trace) :
    (code >>= next).Meets Inv Rel Post trace := by
  induction code generalizing trace with
  | revert reason => trivial
  | done value => exact rest value trace first
  | call state query resume ih =>
      refine ⟨first.1, ?_⟩
      intro later trace' answer inv rel
      exact ih later answer (first.2 later trace' answer inv rel)

theorem Meets.lift {Post : A → List L → Prop} {result : Except E A} {trace : List L}
    (met : ∀ value, result = .ok value → Post value trace) :
    (liftM result : Outcome E S Q R A).Meets Inv Rel Post trace := by
  cases result with
  | error reason => trivial
  | ok value => exact met value rfl

theorem Meets.lift_bind {Post : B → List L → Prop} {result : Except E A}
    {next : A → Outcome E S Q R B} {trace : List L}
    (rest : ∀ value, result = .ok value → (next value).Meets Inv Rel Post trace) :
    ((liftM result : Outcome E S Q R A) >>= next).Meets Inv Rel Post trace := by
  cases result with
  | error reason => trivial
  | ok value => exact rest value rfl

theorem Meets.external {state : S} {query : Q} {trace : List L} (inv : Inv ⟨state, trace⟩) :
    (external state query : Outcome E S Q R (S × R)).Meets Inv Rel
      (fun value trace' => Inv ⟨value.1, trace'⟩ ∧ Rel ⟨state, trace⟩ ⟨value.1, trace'⟩) trace :=
  ⟨inv, fun _ _ _ inv' rel => ⟨inv', rel⟩⟩

def Keeps (Inv : S → Prop) (code : Outcome E S Q R S) : Prop :=
  ∀ trace : List L, code.Meets (fun snapshot => Inv snapshot.state) (fun _ _ => True)
    (fun state _ => Inv state) trace

theorem reverts_of_front {code : Outcome E S Q R S}
    (stuck : ∀ state, code.front ≠ some state) : ∃ reason, code = .revert reason := by
  cases code with
  | revert reason => exact ⟨reason, rfl⟩
  | done state => exact absurd rfl (stuck state)
  | call state query resume => exact absurd rfl (stuck state)

theorem front_failWith (reason : E) (code : Outcome E S Q R S) :
    (failWith reason code).front = code.front := by
  cases code <;> rfl

theorem Trailing.failWith {code : Outcome E S Q R S} (trailing : code.Trailing) (reason : E) :
    (failWith reason code).Trailing := by
  cases code with
  | revert _ => trivial
  | done state => trivial
  | call state query resume =>
      intro later reply
      rcases trailing later reply with finished | ⟨_, reverted⟩
      · refine Or.inl ?_
        dsimp only
        rw [finished]
        rfl
      · refine Or.inr ⟨reason, ?_⟩
        dsimp only
        rw [reverted]
        rfl

theorem front_lift_bind {result : Except E A} {next : A → Outcome E S Q R S} {state : S}
    (ran : ((liftM result : Outcome E S Q R A) >>= next).front = some state) :
    ∃ value, result = .ok value ∧ (next value).front = some state := by
  cases result with
  | error reason => cases ran
  | ok value => exact ⟨value, rfl, ran⟩

theorem front_lift {result : Except E S} {state : S}
    (ran : (liftM result : Outcome E S Q R S).front = some state) : result = .ok state := by
  cases result with
  | error reason => cases ran
  | ok value => exact congrArg Except.ok (Option.some.inj ran)

theorem Trailing.lift_bind {result : Except E A} {next : A → Outcome E S Q R S}
    (rest : ∀ value, result = .ok value → (next value).Trailing) :
    ((liftM result : Outcome E S Q R A) >>= next).Trailing := by
  cases result with
  | error reason => trivial
  | ok value => exact rest value rfl

theorem Trailing.lift (result : Except E S) : (liftM result : Outcome E S Q R S).Trailing := by
  cases result <;> trivial

theorem Ends.lift_bind {later : S} {result : Except E A} {next : A → Outcome E S Q R S}
    (rest : ∀ value, (next value).Ends later) :
    ((liftM result : Outcome E S Q R A) >>= next).Ends later := by
  cases result with
  | error reason => exact Or.inr ⟨reason, rfl⟩
  | ok value => exact rest value

theorem Trailing.external {state : S} {query : Q} {next : S × R → Outcome E S Q R S}
    (ends : ∀ later reply, (next (later, reply)).Ends later) :
    (external state query >>= next).Trailing :=
  fun later reply => ends later reply

theorem Trailing.keeps {Inv : S → Prop} {code : Outcome E S Q R S} (trailing : code.Trailing)
    (holds : ∀ state, code.front = some state → Inv state) : code.Keeps (L := L) Inv := by
  intro trace
  cases code with
  | revert reason => trivial
  | done state => exact holds state rfl
  | call state query resume =>
      refine ⟨holds state rfl, ?_⟩
      intro later trace' answer inv _
      rcases trailing later answer with finished | ⟨reason, reverted⟩
      · rw [finished]
        exact inv
      · rw [reverted]
        trivial

end Outcome

namespace Outcome

variable {Step : S → S → Prop}

theorem Segments.bind {Mid : S → A → Prop} {Post : S → B → Prop} {before : S}
    {code : Outcome E S Q R A} {next : A → Outcome E S Q R B}
    (first : code.Segments Step Mid before)
    (rest : ∀ before value, Mid before value → (next value).Segments Step Post before) :
    (code >>= next).Segments Step Post before := by
  induction code generalizing before with
  | revert reason => trivial
  | done value => exact rest before value first
  | call state query resume ih =>
      refine ⟨first.1, ?_⟩
      intro later reply
      exact ih later reply (first.2 later reply)

theorem Segments.lift {Post : S → A → Prop} {before : S} {result : Except E A}
    (met : ∀ value, result = .ok value → Post before value) :
    (liftM result : Outcome E S Q R A).Segments Step Post before := by
  cases result with
  | error reason => trivial
  | ok value => exact met value rfl

theorem Segments.lift_bind {Post : S → B → Prop} {before : S} {result : Except E A}
    {next : A → Outcome E S Q R B}
    (rest : ∀ value, result = .ok value → (next value).Segments Step Post before) :
    ((liftM result : Outcome E S Q R A) >>= next).Segments Step Post before := by
  cases result with
  | error reason => trivial
  | ok value => exact rest value rfl

theorem Segments.external {before state : S} {query : Q} (step : Step before state) :
    (external state query : Outcome E S Q R (S × R)).Segments Step
      (fun resumed value => value.1 = resumed) before :=
  ⟨step, fun _ _ => rfl⟩

/-- What each step keeps is kept by the code, whatever others do to it in between. -/
theorem Segments.meets {Inv : Snapshot S L → Prop} {code : Outcome E S Q R S} {before : S}
    {trace : List L} (segments : code.Segments Step Step before) (inv : Inv ⟨before, trace⟩)
    (keeps : ∀ {before after trace}, Inv ⟨before, trace⟩ → Step before after →
      Inv ⟨after, trace⟩) :
    code.Meets Inv (fun _ _ => True) (fun state trace => Inv ⟨state, trace⟩) trace := by
  induction code generalizing before trace with
  | revert reason => trivial
  | done value => exact keeps inv segments
  | call state query resume ih =>
      refine ⟨keeps inv segments.1, ?_⟩
      intro later trace' reply inv' _
      exact ih later reply (segments.2 later reply) inv'

theorem Issues.of_lift_bind {result : Except E A} {next : A → Outcome E S Q R B} {state : S}
    {query : Q}
    (issues : ((liftM result : Outcome E S Q R A) >>= next).Issues state query) :
    ∃ value, result = .ok value ∧ (next value).Issues state query := by
  cases result with
  | error reason =>
      simp only [liftM_error, revert_bind] at issues
      cases issues
  | ok value => exact ⟨value, rfl, by simpa using issues⟩

theorem Issues.of_bind {code : Outcome E S Q R A} {next : A → Outcome E S Q R B} {state : S}
    {query : Q} (issues : (code >>= next).Issues state query) :
    code.Issues state query ∨ ∃ value, (next value).Issues state query := by
  induction code with
  | revert reason => cases issues
  | done value => exact Or.inr ⟨value, issues⟩
  | call first question resume ih =>
      rw [call_bind] at issues
      cases issues with
      | here => exact Or.inl (.here _ _ _)
      | later later reply issues =>
          rcases ih later reply issues with inner | outer
          · exact Or.inl (.later later reply inner)
          · exact Or.inr outer

end Outcome

namespace Outcome

section Answers

variable {environment : S → Q → S × R}

theorem against_lift_bind {result : Except E B} {next : B → Outcome E S Q R A} {value : A} :
    ((liftM result : Outcome E S Q R B) >>= next).against environment = .ok value ↔
      ∃ middle, result = .ok middle ∧ (next middle).against environment = .ok value := by
  cases result with
  | error reason => exact ⟨nofun, nofun⟩
  | ok middle =>
      constructor
      · exact fun ran => ⟨middle, rfl, ran⟩
      · rintro ⟨_, same, ran⟩
        cases same
        exact ran

theorem against_lift {result : Except E A} :
    (liftM result : Outcome E S Q R A).against environment = result := by
  cases result <;> rfl

theorem against_failWith {reason error : E} {code : Outcome E S Q R A}
    (failed : code.against environment = .error error) :
    (code.failWith reason).against environment = .error reason := by
  induction code with
  | revert _ => rfl
  | done value => cases failed
  | call state query resume ih => exact ih _ _ failed

end Answers

end Outcome

/-- Unless the first computation fails, the second ends in a related value. -/
def Matches (Post : A → B → Prop) (first : Except E A) (second : Except E B) : Prop :=
  ∀ value, first = .ok value → ∃ value', second = .ok value' ∧ Post value value'

theorem Matches.bind {A' B' : Type} {Mid : A → A' → Prop} {Post : B → B' → Prop}
    {first : Except E A} {second : Except E A'} {next : A → Except E B} {next' : A' → Except E B'}
    (start : Matches Mid first second)
    (rest : ∀ value value', Mid value value' → Matches Post (next value) (next' value')) :
    Matches Post (first >>= next) (second >>= next') := by
  intro result ran
  cases first with
  | error reason => cases ran
  | ok value =>
      obtain ⟨value', rfl, related⟩ := start value rfl
      exact rest value value' related result ran

theorem Matches.pure {Post : A → B → Prop} {value : A} {value' : B} (related : Post value value') :
    Matches Post (.ok value : Except E A) (.ok value') := by
  intro result ran
  cases ran
  exact ⟨value', rfl, related⟩

theorem Matches.after {Post : B → C → Prop} {first second : Except E A} {next : A → Except E B}
    {next' : A → Except E C} (same : first = second)
    (rest : ∀ value, Matches Post (next value) (next' value)) :
    Matches Post (first >>= next) (second >>= next') := by
  subst same
  intro result ran
  cases first with
  | error reason => cases ran
  | ok value => exact rest value result ran

theorem Matches.passed {A' : Type} {Post : B → C → Prop} {first : Except E A}
    {second : Except E A'} {value' : A'} {next : A → Except E B} {next' : A' → Except E C}
    (passed : second = .ok value') (rest : ∀ value, Matches Post (next value) (next' value')) :
    Matches Post (first >>= next) (second >>= next') := by
  subst passed
  intro result ran
  cases first with
  | error reason => cases ran
  | ok value => exact rest value result ran

namespace Outcome

/-- Unless the first code reverts, the second does the same: it makes the same calls from related
states, and it ends in a related value. -/
def Mirrors (Rel : S → S → Prop) (Post : A → B → Prop) :
    Outcome E S Q R A → Outcome E S Q R B → Prop
  | .revert _, _ => True
  | .done value, second => ∃ value', second = .done value' ∧ Post value value'
  | .call state query resume, second => ∃ state' resume', second = .call state' query resume' ∧
      Rel state state' ∧ ∀ later later' reply, Rel later later' →
        Mirrors Rel Post (resume later reply) (resume' later' reply)

section Mirrors

variable {A' B' : Type} {Rel : S → S → Prop} {Post : B → B' → Prop}

theorem Mirrors.lift {first : Except E B} {second : Except E B'}
    (matches_ : Matches Post first second) :
    (liftM first : Outcome E S Q R B).Mirrors Rel Post (liftM second : Outcome E S Q R B') := by
  cases first with
  | error reason => trivial
  | ok value =>
      obtain ⟨value', rfl, post⟩ := matches_ value rfl
      exact ⟨value', rfl, post⟩

theorem Mirrors.lift_bind {Mid : A → A' → Prop} {first : Except E A} {second : Except E A'}
    {next : A → Outcome E S Q R B} {next' : A' → Outcome E S Q R B'}
    (start : Matches Mid first second)
    (rest : ∀ value value', Mid value value' → (next value).Mirrors Rel Post (next' value')) :
    ((liftM first : Outcome E S Q R A) >>= next).Mirrors Rel Post
      ((liftM second : Outcome E S Q R A') >>= next') := by
  cases first with
  | error reason => trivial
  | ok value =>
      obtain ⟨value', rfl, related⟩ := start value rfl
      exact rest value value' related

theorem Mirrors.after {first second : Except E A} {next : A → Outcome E S Q R B}
    {next' : A → Outcome E S Q R B'} (same : first = second)
    (rest : ∀ value, (next value).Mirrors Rel Post (next' value)) :
    ((liftM first : Outcome E S Q R A) >>= next).Mirrors Rel Post
      ((liftM second : Outcome E S Q R A) >>= next') := by
  subst same
  cases first with
  | error reason => trivial
  | ok value => exact rest value

theorem Mirrors.passed {first : Except E A} {second : Except E A'} {value' : A'}
    {next : A → Outcome E S Q R B} {next' : A' → Outcome E S Q R B'} (passed : second = .ok value')
    (rest : ∀ value, (next value).Mirrors Rel Post (next' value')) :
    ((liftM first : Outcome E S Q R A) >>= next).Mirrors Rel Post
      ((liftM second : Outcome E S Q R A') >>= next') := by
  subst passed
  cases first with
  | error reason => trivial
  | ok value => exact rest value

theorem Mirrors.external {state state' : S} {query : Q} {next : S × R → Outcome E S Q R B}
    {next' : S × R → Outcome E S Q R B'} (related : Rel state state')
    (rest : ∀ later later' reply, Rel later later' →
      (next (later, reply)).Mirrors Rel Post (next' (later', reply))) :
    (external state query >>= next).Mirrors Rel Post (external state' query >>= next') :=
  ⟨state', _, rfl, related, rest⟩

theorem mirrors_failWith {first : Outcome E S Q R B} {second : Outcome E S Q R B'} (reason : E) :
    (first.failWith reason).Mirrors Rel Post second ↔ first.Mirrors Rel Post second := by
  induction first generalizing second with
  | revert _ => exact Iff.rfl
  | done value => exact Iff.rfl
  | call state query resume ih =>
      constructor
      · rintro ⟨state', resume', called, related, rest⟩
        exact ⟨state', resume', called, related,
          fun later later' reply close => (ih later reply).mp (rest later later' reply close)⟩
      · rintro ⟨state', resume', called, related, rest⟩
        exact ⟨state', resume', called, related,
          fun later later' reply close => (ih later reply).mpr (rest later later' reply close)⟩

theorem Mirrors.front {first second : Outcome E S Q R S} {state : S}
    (mirrors : first.Mirrors Rel Rel second) (ran : first.front = some state) :
    ∃ state', second.front = some state' ∧ Rel state state' := by
  cases first with
  | revert _ => cases ran
  | done value =>
      cases ran
      obtain ⟨state', rfl, related⟩ := mirrors
      exact ⟨state', rfl, related⟩
  | call state query resume =>
      cases ran
      obtain ⟨state', _, rfl, related, _⟩ := mirrors
      exact ⟨state', rfl, related⟩

end Mirrors

end Outcome

section Rollback

/-- The configurations in which the call entered at `base` still waits for an answer. -/
inductive Inside (entry : L → S → Outcome E S Q R S) (Legal : L → S → Prop)
    (base : Config E S Q R L) : Config E S Q R L → Prop
  | entered (label : L) : Legal label base.now.state →
      base.frames.length < (base.enter entry label).frames.length →
      Inside entry Legal base (base.enter entry label)
  | enter {config} (label : L) : Inside entry Legal base config →
      Legal label config.now.state → Inside entry Legal base (config.enter entry label)
  | reply {config} (answer : R) : Inside entry Legal base config →
      base.frames.length < (config.reply answer).frames.length →
      Inside entry Legal base (config.reply answer)
  | abort {config} : Inside entry Legal base config →
      base.frames.length < config.abort.frames.length → Inside entry Legal base config.abort

def Config.Fails (answer : R) (config : Config E S Q R L) : Prop :=
  ∃ frame frames reason, config.frames = frame :: frames ∧
    frame.resume config.now.state answer = .revert reason

theorem settle_frames (saved : Snapshot S L) (trace : List L) (frames : List (Frame E S Q R L))
    (code : Outcome E S Q R S) :
    (settle saved trace frames code).frames = frames ∨
      ∃ frame, (settle saved trace frames code).frames = frame :: frames ∧
        frame.saved = saved := by
  cases code with
  | revert reason => exact Or.inl rfl
  | done state => exact Or.inl rfl
  | call state query resume => exact Or.inr ⟨_, rfl, rfl⟩

theorem Inside.saved {entry : L → S → Outcome E S Q R S} {Legal : L → S → Prop}
    {base config : Config E S Q R L} (inside : Inside entry Legal base config) :
    ∃ inner frame, config.frames = inner ++ frame :: base.frames ∧ frame.saved = base.now := by
  induction inside with
  | entered label _ grown =>
      unfold Config.enter at grown ⊢
      rcases settle_frames base.now (label :: base.now.trace) base.frames
        (entry label base.now.state) with same | ⟨frame, pushed, saved⟩
      · rw [same] at grown
        omega
      · exact ⟨[], frame, pushed, saved⟩
  | @enter config label _ _ ih =>
      obtain ⟨inner, frame, shape, saved⟩ := ih
      unfold Config.enter
      rcases settle_frames config.now (label :: config.now.trace) config.frames
        (entry label config.now.state) with same | ⟨top, pushed, _⟩
      · exact ⟨inner, frame, same.trans shape, saved⟩
      · exact ⟨top :: inner, frame, by rw [pushed, shape]; rfl, saved⟩
  | @reply config answer _ grown ih =>
      obtain ⟨inner, frame, shape, saved⟩ := ih
      obtain ⟨now, frames⟩ := config
      simp only at shape
      subst frames
      cases inner with
      | nil =>
          simp only [List.nil_append, Config.reply] at grown ⊢
          rcases settle_frames frame.saved now.trace base.frames
            (frame.resume now.state answer) with same | ⟨again, pushed, kept⟩
          · rw [same] at grown
            omega
          · exact ⟨[], again, pushed, kept.trans saved⟩
      | cons top inner =>
          simp only [List.cons_append, Config.reply]
          rcases settle_frames top.saved now.trace (inner ++ frame :: base.frames)
            (top.resume now.state answer) with same | ⟨again, pushed, _⟩
          · exact ⟨inner, frame, same, saved⟩
          · exact ⟨again :: inner, frame, by simp [pushed], saved⟩
  | @abort config _ grown ih =>
      obtain ⟨inner, frame, shape, saved⟩ := ih
      obtain ⟨now, frames⟩ := config
      simp only at shape
      subst frames
      cases inner with
      | nil =>
          simp only [List.nil_append, Config.abort] at grown
          omega
      | cons top inner => exact ⟨inner, frame, rfl, saved⟩

/-- Whatever happened while it ran, a call that reverts leaves nothing behind. -/
def Reverting (entry : L → S → Outcome E S Q R S) (Legal : L → S → Prop)
    (base : Config E S Q R L) : Prop :=
  (∀ label reason, entry label base.now.state = .revert reason → base.enter entry label = base) ∧
    ∀ config, Inside entry Legal base config → config.frames.length = base.frames.length + 1 →
      config.abort = base ∧ ∀ answer, config.Fails answer → config.reply answer = base

theorem reverting (entry : L → S → Outcome E S Q R S) (Legal : L → S → Prop)
    (base : Config E S Q R L) : Reverting entry Legal base := by
  constructor
  · intro label reason reverted
    simp [Config.enter, reverted, settle]
  · intro config inside outermost
    obtain ⟨inner, frame, shape, saved⟩ := inside.saved
    have alone : inner = [] := by
      rw [shape] at outermost
      simp only [List.length_append, List.length_cons] at outermost
      exact List.length_eq_zero_iff.mp (by omega)
    obtain ⟨now, frames⟩ := config
    simp only [alone, List.nil_append] at shape
    subst frames
    refine ⟨by simp [Config.abort, saved], ?_⟩
    rintro answer ⟨top, rest, reason, same, reverted⟩
    obtain ⟨rfl, rfl⟩ := List.cons.inj same
    simp only at reverted
    simp [Config.reply, reverted, settle, saved]

/-- An answer that the code does not accept takes the run back to where the call was entered. -/
theorem declined_reply {Accepts : Q → R → Prop} {code : Outcome E S Q R S}
    {exchanges : List (Exchange S Q R L)} {state : S} {query : Q}
    {resume : S → R → Outcome E S Q R S} {base : Config E S Q R L} {now : Snapshot S L}
    {answer : R} (demands : code.Demands Accepts)
    (comes : code.Comes exchanges (.call state query resume)) (declined : ¬Accepts query answer) :
    (⟨now, ⟨base.now, resume⟩ :: base.frames⟩ : Config E S Q R L).reply answer = base := by
  obtain ⟨reason, reverted⟩ := (demands.rest comes now.state answer).1 declined
  simp [Config.reply, reverted, settle]

end Rollback

section Soundness

variable {entry : L → S → Outcome E S Q R S} {Legal : L → S → Prop} {origin : S}
  (Inv : Snapshot S L → Prop) (Rel : Snapshot S L → Snapshot S L → Prop)

def Completes (saved : Snapshot S L) (trace : List L) (code : Outcome E S Q R S) : Prop :=
  code.Meets Inv Rel (fun state trace => Inv ⟨state, trace⟩ ∧ Rel saved ⟨state, trace⟩) trace

def Stacked (first : Snapshot S L) : Snapshot S L → List (Frame E S Q R L) → Prop
  | now, [] => Rel first now
  | now, frame :: frames =>
      (∃ waiting, Rel waiting now ∧ ∀ later trace answer, Inv ⟨later, trace⟩ →
        Rel waiting ⟨later, trace⟩ →
          Completes Inv Rel frame.saved trace (frame.resume later answer)) ∧
      Inv frame.saved ∧ Stacked first frame.saved frames

variable {Inv Rel}

theorem Stacked.advance {first now later : Snapshot S L} {frames : List (Frame E S Q R L)}
    (trans : ∀ {a b c}, Rel a b → Rel b c → Rel a c)
    (stacked : Stacked Inv Rel first now frames) (step : Rel now later) :
    Stacked Inv Rel first later frames := by
  cases frames with
  | nil => exact trans stacked step
  | cons frame frames =>
      obtain ⟨⟨waiting, since, resumes⟩, rest⟩ := stacked
      exact ⟨⟨waiting, trans since step, resumes⟩, rest⟩

theorem settle_sound {first saved : Snapshot S L} {trace : List L}
    {frames : List (Frame E S Q R L)} {code : Outcome E S Q R S}
    (refl : ∀ a, Rel a a) (trans : ∀ {a b c}, Rel a b → Rel b c → Rel a c)
    (inv : Inv saved) (stacked : Stacked Inv Rel first saved frames)
    (completes : Completes Inv Rel saved trace code) :
    Inv (settle saved trace frames code).now ∧
      Stacked Inv Rel first (settle saved trace frames code).now
        (settle saved trace frames code).frames := by
  cases code with
  | revert reason => exact ⟨inv, stacked⟩
  | done state => exact ⟨completes.1, stacked.advance trans completes.2⟩
  | call state query resume =>
      exact ⟨completes.1, ⟨⟨_, refl _, completes.2⟩, inv, stacked⟩⟩

/-- If every legal call keeps `Inv` where it lets others run and relates its first
and last snapshots by `Rel`, provided the others do, then so do all runs. -/
theorem Reach.sound (Inv : Snapshot S L → Prop) (Rel : Snapshot S L → Snapshot S L → Prop)
    (refl : ∀ a, Rel a a) (trans : ∀ {a b c}, Rel a b → Rel b c → Rel a c)
    (step : ∀ label snapshot, Legal label snapshot.state → Inv snapshot →
      Completes Inv Rel snapshot (label :: snapshot.trace) (entry label snapshot.state))
    (initial : Inv ⟨origin, []⟩) {config : Config E S Q R L}
    (reach : Reach entry Legal origin config) :
    Inv config.now ∧ Stacked Inv Rel ⟨origin, []⟩ config.now config.frames := by
  induction reach with
  | start => exact ⟨initial, refl _⟩
  | enter label _ legal ih =>
      exact settle_sound refl trans ih.1 ih.2 (step label _ legal ih.1)
  | @reply config answer _ ih =>
      obtain ⟨now, frames⟩ := config
      cases frames with
      | nil => exact ih
      | cons frame frames =>
          obtain ⟨inv, ⟨waiting, since, resumes⟩, savedInv, rest⟩ := ih
          exact settle_sound refl trans savedInv rest (resumes now.state now.trace answer inv since)
  | @abort config _ ih =>
      obtain ⟨now, frames⟩ := config
      cases frames with
      | nil => exact ih
      | cons frame frames => exact ⟨ih.2.2.1, ih.2.2.2⟩

theorem Reach.invariant (Inv : S → Prop) (initial : Inv origin)
    (step : ∀ label state, Legal label state → Inv state →
      (entry label state).Keeps (L := L) Inv)
    {config : Config E S Q R L} (reach : Reach entry Legal origin config) :
    Inv config.now.state := by
  refine (Reach.sound (fun snapshot => Inv snapshot.state) (fun _ _ => True)
    (fun _ => trivial) (fun _ _ => trivial) ?_ initial reach).1
  intro label snapshot legal inv
  have keeps := step label snapshot.state legal inv (label :: snapshot.trace)
  simpa [Completes] using keeps

end Soundness

end Startrail
