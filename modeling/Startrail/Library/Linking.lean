import Startrail.Library.Reentrancy

/-!
Components linked into a system. A `Component` is where its state lies in the state of the whole.
`plug` runs its code there: what the code asks is answered by the whole, which may `attempt` the
code of another component, and only what the whole asks in turn leaves the system. `Obeys` is the
rule for such code: what it keeps where it lets others run, provided that they keep it too.

A run of the whole is at the same time a run of each component. `InStep` says so of a state, and
`Continues` of what happens while a call of the component waits: there is a run of the component
that goes on with the same calls pending. Whatever is known of all runs of a component therefore
holds in the system.
-/

namespace Startrail

variable {E P S Q R Q' R' L A B : Type}

structure Component (P S : Type) where
  get : P → S
  put : P → S → P
  get_put : ∀ whole state, get (put whole state) = state

namespace Outcome

def plug (part : Component P S) (serve : Q → P → Outcome E P Q' R' (P × R)) :
    Outcome E S Q R A → P → Outcome E P Q' R' (P × A)
  | .revert reason, _ => .revert reason
  | .done value, whole => .done (whole, value)
  | .call state query resume, whole => do
      let (whole, reply) ← serve query (part.put whole state)
      plug part serve (resume (part.get whole) reply) whole

/-- Code whose state nobody else gets to see before it has ended. -/
def aside (serve : Q → P → Outcome E P Q' R' (P × R)) :
    Outcome E S Q R A → P → Outcome E P Q' R' (P × A)
  | .revert reason, _ => .revert reason
  | .done value, whole => .done (whole, value)
  | .call state query resume, whole => do
      let (whole, reply) ← serve query whole
      aside serve (resume state reply) whole

/-- A call whose failure is an answer: everything is as it was before. -/
def attempt (saved : P) (failed : E → R) :
    Outcome E P Q' R' (P × R) → Outcome E P Q' R' (P × R)
  | .revert reason => .done (saved, failed reason)
  | .done answer => .done answer
  | .call state query resume =>
      .call state query fun later reply => attempt saved failed (resume later reply)

/-- Wherever the code lets others run, `Inv` holds; provided they keep `Inv` and `Rel`, the code
ends in `Post`. -/
def Obeys (Inv : P → Prop) (Rel : P → P → Prop) (Post : A → Prop) : Outcome E P Q R A → Prop
  | .revert _ => True
  | .done value => Post value
  | .call state _ resume => Inv state ∧
      ∀ later reply, Inv later → Rel state later → Obeys Inv Rel Post (resume later reply)

section Plug

variable {part : Component P S} {serve : Q → P → Outcome E P Q' R' (P × R)} {whole : P}

@[simp] theorem plug_done (value : A) :
    (Outcome.done value : Outcome E S Q R A).plug part serve whole = .done (whole, value) := rfl

@[simp] theorem plug_revert (reason : E) :
    (Outcome.revert reason : Outcome E S Q R A).plug part serve whole = .revert reason := rfl

theorem plug_bind (code : Outcome E S Q R A) (next : A → Outcome E S Q R B) :
    (code >>= next).plug part serve whole =
      code.plug part serve whole >>= fun value => (next value.2).plug part serve value.1 := by
  induction code generalizing whole with
  | revert reason => rfl
  | done value => rfl
  | call state query resume ih =>
      rw [call_bind]
      simp only [plug, bind_assoc]
      congr
      funext value
      exact ih _ _

theorem plug_lift_bind (result : Except E A) (next : A → Outcome E S Q R B) :
    ((liftM result : Outcome E S Q R A) >>= next).plug part serve whole =
      (liftM result : Outcome E P Q' R' A) >>= fun value => (next value).plug part serve whole := by
  cases result <;> rfl

theorem plug_external_bind (state : S) (query : Q) (next : S × R → Outcome E S Q R B) :
    (external state query >>= next).plug part serve whole =
      serve query (part.put whole state) >>= fun value =>
        (next (part.get value.1, value.2)).plug part serve value.1 := rfl

end Plug

section Obeys

variable {Inv : P → Prop} {Rel : P → P → Prop}

theorem Obeys.bind {Mid : A → Prop} {Post : B → Prop} {code : Outcome E P Q R A}
    {next : A → Outcome E P Q R B} (first : code.Obeys Inv Rel Mid)
    (rest : ∀ value, Mid value → (next value).Obeys Inv Rel Post) :
    (code >>= next).Obeys Inv Rel Post := by
  induction code with
  | revert reason => trivial
  | done value => exact rest value first
  | call state query resume ih =>
      refine ⟨first.1, ?_⟩
      intro later reply inv rel
      exact ih later reply (first.2 later reply inv rel)

theorem Obeys.bind_pure {Post : B → Prop} {code : Outcome E P Q R A} (next : A → B)
    (obeys : code.Obeys Inv Rel (fun value => Post (next value))) :
    (code >>= fun value => pure (next value)).Obeys Inv Rel Post :=
  obeys.bind fun _ kept => kept

theorem Obeys.lift_bind {Post : B → Prop} {result : Except E A} {next : A → Outcome E P Q R B}
    (rest : ∀ value, result = .ok value → (next value).Obeys Inv Rel Post) :
    ((liftM result : Outcome E P Q R A) >>= next).Obeys Inv Rel Post := by
  cases result with
  | error reason => trivial
  | ok value => exact rest value rfl

theorem Obeys.external {state : P} {query : Q} (inv : Inv state) :
    (external state query : Outcome E P Q R (P × R)).Obeys Inv Rel
      (fun value => Inv value.1 ∧ Rel state value.1) :=
  ⟨inv, fun _ _ inv' rel => ⟨inv', rel⟩⟩

theorem Obeys.mono {Post Post' : A → Prop} {code : Outcome E P Q R A}
    (obeys : code.Obeys Inv Rel Post) (weaker : ∀ value, Post value → Post' value) :
    code.Obeys Inv Rel Post' := by
  induction code with
  | revert reason => trivial
  | done value => exact weaker value obeys
  | call state query resume ih =>
      exact ⟨obeys.1, fun later reply inv rel => ih later reply (obeys.2 later reply inv rel)⟩

theorem Obeys.congr {Inv' : P → Prop} {Rel' : P → P → Prop} {Post Post' : A → Prop}
    {code : Outcome E P Q R A} (obeys : code.Obeys Inv Rel Post)
    (inv : ∀ whole, Inv whole ↔ Inv' whole)
    (rel : ∀ before after, Rel before after ↔ Rel' before after)
    (weaker : ∀ value, Post value → Post' value) : code.Obeys Inv' Rel' Post' := by
  induction code with
  | revert reason => trivial
  | done value => exact weaker value obeys
  | call state query resume ih =>
      refine ⟨(inv state).mp obeys.1, ?_⟩
      intro later reply inv' rel'
      exact ih later reply (obeys.2 later reply ((inv later).mpr inv') ((rel state later).mpr rel'))

theorem Obeys.attempt {Post : P × R → Prop} {saved : P} {failed : E → R}
    {code : Outcome E P Q' R' (P × R)} (obeys : code.Obeys Inv Rel Post)
    (restored : ∀ reason, Post (saved, failed reason)) :
    (code.attempt saved failed).Obeys Inv Rel Post := by
  induction code with
  | revert reason => exact restored reason
  | done answer => exact obeys
  | call state query resume ih =>
      exact ⟨obeys.1, fun later reply inv rel => ih later reply (obeys.2 later reply inv rel)⟩

theorem Obeys.plug_lift {part : Component P S}
    {serve : Q → P → Outcome E P Q' R' (P × R)} {whole : P}
    {Post : P × A → Prop} {result : Except E A}
    (met : ∀ value, result = .ok value → Post (whole, value)) :
    ((liftM result : Outcome E S Q R A).plug part serve whole).Obeys Inv Rel Post := by
  cases result with
  | error reason => trivial
  | ok value => exact met value rfl

theorem Obeys.plug_lift_bind {part : Component P S} {serve : Q → P → Outcome E P Q' R' (P × R)}
    {whole : P} {Post : P × B → Prop} {result : Except E A} {next : A → Outcome E S Q R B}
    (rest : ∀ value, result = .ok value → ((next value).plug part serve whole).Obeys Inv Rel Post) :
    (((liftM result : Outcome E S Q R A) >>= next).plug part serve whole).Obeys Inv Rel Post := by
  rw [Outcome.plug_lift_bind]
  exact Obeys.lift_bind rest

theorem Segments.trivial (before : S) (code : Outcome E S Q R A) :
    code.Segments (fun _ _ => True) (fun _ _ => True) before := by
  induction code generalizing before with
  | revert reason => exact True.intro
  | done value => exact True.intro
  | call state query resume ih => exact ⟨True.intro, fun later reply => ih later reply later⟩

theorem Segments.mono {Step Step' : S → S → Prop} {Post Post' : S → A → Prop} {before : S}
    {code : Outcome E S Q R A} (segments : code.Segments Step Post before)
    (step : ∀ first second, Step first second → Step' first second)
    (post : ∀ first value, Post first value → Post' first value) :
    code.Segments Step' Post' before := by
  induction code generalizing before with
  | revert reason => exact True.intro
  | done value => exact post before value segments
  | call state query resume ih =>
      exact ⟨step before state segments.1, fun later reply =>
        ih later reply (segments.2 later reply)⟩

/-- What the code does at first, and what it does whenever it is resumed. -/
def Opening (First Step : S → S → Prop) (Last Post : S → A → Prop) (before : S) :
    Outcome E S Q R A → Prop
  | .revert _ => True
  | .done value => Last before value
  | .call state _ resume => First before state ∧
      ∀ later reply, (resume later reply).Segments Step Post later

section Opening

variable {First Step : S → S → Prop} {Last Post : S → A → Prop} {before start : S}

theorem Segments.opening {code : Outcome E S Q R A} (segments : code.Segments Step Post start)
    (first : ∀ state, Step start state → First before state)
    (last : ∀ value, Post start value → Last before value) :
    code.Opening First Step Last Post before := by
  cases code with
  | revert reason => exact True.intro
  | done value => exact last value segments
  | call state query resume => exact ⟨first state segments.1, segments.2⟩

theorem Opening.lift_bind {result : Except E B} {next : B → Outcome E S Q R A}
    (rest : ∀ value, result = .ok value → (next value).Opening First Step Last Post before) :
    ((liftM result : Outcome E S Q R B) >>= next).Opening First Step Last Post before := by
  cases result with
  | error reason => exact True.intro
  | ok value => exact rest value rfl

theorem Opening.bind {Last' Post' : S → B → Prop} {code : Outcome E S Q R A}
    {next : A → Outcome E S Q R B} (opening : code.Opening First Step Last Post before)
    (last : ∀ value, Last before value → (next value).Opening First Step Last' Post' before)
    (rest : ∀ before value, Post before value → (next value).Segments Step Post' before) :
    (code >>= next).Opening First Step Last' Post' before := by
  cases code with
  | revert reason => exact True.intro
  | done value => exact last value opening
  | call state query resume =>
      exact ⟨opening.1, fun later reply => (opening.2 later reply).bind rest⟩

end Opening

theorem Segments.failWith {Step : S → S → Prop} {Post : S → A → Prop} {before : S} (reason : E)
    {code : Outcome E S Q R A} (segments : code.Segments Step Post before) :
    (code.failWith reason).Segments Step Post before := by
  induction code generalizing before with
  | revert _ => exact True.intro
  | done value => exact segments
  | call state query resume ih =>
      exact ⟨segments.1, fun later reply => ih later reply (segments.2 later reply)⟩

theorem Segments.of_trailing {Step : S → S → Prop} {before : S} {code : Outcome E S Q R S}
    (refl : ∀ state, Step state state) (trailing : code.Trailing)
    (step : ∀ later, code.front = some later → Step before later) :
    code.Segments Step Step before := by
  cases code with
  | revert reason => exact True.intro
  | done later => exact step later rfl
  | call state query resume =>
      refine ⟨step state rfl, ?_⟩
      intro later reply
      rcases trailing later reply with done | ⟨reason, failed⟩
      · rw [done]
        exact refl later
      · rw [failed]
        exact True.intro

variable (Inv Rel) in
/-- The code of a part whose own steps are `Step`, in a whole that serves by the rule. -/
theorem Obeys.plug {part : Component P S} {serve : Q → P → Outcome E P Q' R' (P × R)}
    {Step : S → S → Prop} {Post : S → A → Prop} (trans : ∀ {a b c}, Rel a b → Rel b c → Rel a c)
    (own : ∀ {whole state}, Inv whole → Step (part.get whole) state →
      Inv (part.put whole state) ∧ Rel whole (part.put whole state))
    (served : ∀ query whole, Inv whole → (serve query whole).Obeys Inv Rel
      (fun value => Inv value.1 ∧ Rel whole value.1))
    {code : Outcome E S Q R A} {first whole : P} (inv : Inv whole) (since : Rel first whole)
    (segments : code.Segments Step Post (part.get whole)) :
    (code.plug part serve whole).Obeys Inv Rel
      (fun value => Inv value.1 ∧ Rel first value.1 ∧ Post (part.get value.1) value.2) := by
  induction code generalizing whole with
  | revert reason => trivial
  | done value => exact ⟨inv, since, segments⟩
  | call state query resume ih =>
      obtain ⟨inv', rel⟩ := own inv segments.1
      refine Obeys.bind (served query _ inv') ?_
      rintro ⟨later, reply⟩ ⟨inv'', rel'⟩
      exact ih _ _ inv'' (trans since (trans rel rel')) (segments.2 _ reply)

variable (Inv Rel) in
theorem Obeys.aside {serve : Q → P → Outcome E P Q' R' (P × R)} {Holds : S → Prop}
    {Post : A → Prop} (trans : ∀ {a b c}, Rel a b → Rel b c → Rel a c)
    (served : ∀ query whole, Inv whole → (serve query whole).Obeys Inv Rel
      (fun value => Inv value.1 ∧ Rel whole value.1))
    {code : Outcome E S Q R A} {first whole : P} {before : S} (inv : Inv whole)
    (since : Rel first whole)
    (segments : code.Segments (fun before after => Holds before → Holds after)
      (fun before value => Holds before → Post value) before) (holds : Holds before) :
    (code.aside serve whole).Obeys Inv Rel
      (fun value => Inv value.1 ∧ Rel first value.1 ∧ Post value.2) := by
  induction code generalizing whole before with
  | revert reason => trivial
  | done value => exact ⟨inv, since, segments holds⟩
  | call state query resume ih =>
      refine Obeys.bind (served query _ inv) ?_
      rintro ⟨later, reply⟩ ⟨inv', rel⟩
      exact ih _ _ inv' (trans since rel) (segments.2 state reply) (segments.1 holds)

/-- What each step keeps, the code keeps. -/
theorem Segments.obeys {Step : P → P → Prop} {Post : P → A → Prop} {code : Outcome E P Q R A}
    {before : P} (segments : code.Segments Step Post before) (inv : Inv before)
    (own : ∀ {first second}, Inv first → Step first second → Inv second) :
    code.Obeys Inv Rel (fun value => ∃ last, Inv last ∧ Post last value) := by
  induction code generalizing before with
  | revert reason => trivial
  | done value => exact ⟨before, inv, segments⟩
  | call state query resume ih =>
      refine ⟨own inv segments.1, ?_⟩
      intro later reply inv' _
      exact ih later reply (segments.2 later reply) inv'

theorem Obeys.aside_lift_bind {serve : Q → P → Outcome E P Q' R' (P × R)} {whole : P}
    {Post : P × B → Prop} {result : Except E A} {next : A → Outcome E S Q R B}
    (rest : ∀ value, result = .ok value → ((next value).aside serve whole).Obeys Inv Rel Post) :
    (((liftM result : Outcome E S Q R A) >>= next).aside serve whole).Obeys Inv Rel Post := by
  cases result with
  | error reason => trivial
  | ok value => exact rest value rfl

variable (Inv Rel) in
/-- The first step of the part is not like the others. -/
theorem Obeys.plug_opening {part : Component P S} {serve : Q → P → Outcome E P Q' R' (P × R)}
    {First Step : S → S → Prop} {Last Post : S → A → Prop} {Final : P × A → Prop} {whole : P}
    (trans : ∀ {a b c}, Rel a b → Rel b c → Rel a c)
    (own : ∀ {whole state}, Inv whole → Step (part.get whole) state →
      Inv (part.put whole state) ∧ Rel whole (part.put whole state))
    (served : ∀ query whole, Inv whole → (serve query whole).Obeys Inv Rel
      (fun value => Inv value.1 ∧ Rel whole value.1))
    (first : ∀ state, First (part.get whole) state →
      Inv (part.put whole state) ∧ Rel whole (part.put whole state))
    (last : ∀ value, Last (part.get whole) value → Final (whole, value))
    (post : ∀ later value, Inv later → Rel whole later → Post (part.get later) value →
      Final (later, value))
    {code : Outcome E S Q R A} (opening : code.Opening First Step Last Post (part.get whole)) :
    (code.plug part serve whole).Obeys Inv Rel Final := by
  cases code with
  | revert reason => trivial
  | done value => exact last value opening
  | call state query resume =>
      obtain ⟨inv, rel⟩ := first state opening.1
      refine Obeys.bind (served query _ inv) ?_
      rintro ⟨later, reply⟩ ⟨inv', rel'⟩
      refine (Obeys.plug Inv Rel trans own served inv' (trans rel rel')
        (opening.2 (part.get later) reply)).mono ?_
      exact fun value kept => post value.1 value.2 kept.1 kept.2.1 kept.2.2

end Obeys

end Outcome

section Runs

variable {entry : L → P → Outcome E P Q R P} {Legal : L → P → Prop} {origin : P}
  {Inv : P → Prop} {Rel : P → P → Prop}

theorem Outcome.Obeys.meets {code : Outcome E P Q R A} {Post : A → Prop} (trace : List L)
    (obeys : code.Obeys Inv Rel Post) :
    code.Meets (fun snapshot => Inv snapshot.state)
      (fun before after => Rel before.state after.state) (fun value _ => Post value) trace := by
  induction code generalizing trace with
  | revert reason => trivial
  | done value => exact obeys
  | call state query resume ih =>
      exact ⟨obeys.1, fun later trace' reply inv rel =>
        ih later reply trace' (obeys.2 later reply inv rel)⟩

theorem Reach.obeys (refl : ∀ a, Rel a a) (trans : ∀ {a b c}, Rel a b → Rel b c → Rel a c)
    (step : ∀ label whole, Legal label whole → Inv whole → (entry label whole).Obeys Inv Rel
      (fun later => Inv later ∧ Rel whole later))
    (initial : Inv origin) {config : Config E P Q R L}
    (reach : Reach entry Legal origin config) : Inv config.now.state := by
  refine (reach.sound (fun snapshot => Inv snapshot.state)
    (fun before after => Rel before.state after.state) (fun _ => refl _) trans ?_ initial).1
  exact fun label snapshot legal inv => (step label _ legal inv).meets _

end Runs

section Committed

variable {entry : L → P → Outcome E P Q R P} {Legal : L → P → Prop} {origin : P}
  {config : Config E P Q R L}

def WithinTrace (Legal : L → P → Prop) (trace : List L) (label : L) (whole : P) : Prop :=
  Legal label whole ∧ label ∈ trace

/-- The calls of the trace lead here, and to wherever a pending call may fall back to. -/
def Committed (entry : L → P → Outcome E P Q R P) (Legal : L → P → Prop) (origin : P) :
    Snapshot P L → List (Frame E P Q R L) → Prop
  | now, [] => Reach entry (WithinTrace Legal now.trace) origin ⟨now, []⟩
  | now, frame :: frames =>
      Reach entry (WithinTrace Legal now.trace) origin ⟨now, frame :: frames⟩ ∧
      Committed entry Legal origin frame.saved frames

theorem Committed.reach {now : Snapshot P L} {frames : List (Frame E P Q R L)}
    (committed : Committed entry Legal origin now frames) :
    Reach entry (WithinTrace Legal now.trace) origin ⟨now, frames⟩ := by
  cases frames with
  | nil => exact committed
  | cons frame frames => exact committed.1

theorem Committed.put {now now' : Snapshot P L} {frames : List (Frame E P Q R L)}
    (committed : Committed entry Legal origin now frames)
    (reach : Reach entry (WithinTrace Legal now'.trace) origin ⟨now', frames⟩) :
    Committed entry Legal origin now' frames := by
  cases frames with
  | nil => exact reach
  | cons frame frames => exact ⟨reach, committed.2⟩

/-- A call that fails leaves nothing behind. -/
theorem Committed.settle {saved : Snapshot P L} {trace : List L} {frames : List (Frame E P Q R L)}
    {code : Outcome E P Q R P} (committed : Committed entry Legal origin saved frames)
    (reach : Reach entry (WithinTrace Legal trace) origin (settle saved trace frames code)) :
    Committed entry Legal origin (Startrail.settle saved trace frames code).now
      (Startrail.settle saved trace frames code).frames := by
  cases code with
  | revert reason => exact committed
  | done state => exact committed.put reach
  | call state query resume => exact ⟨reach, committed⟩

theorem Reach.committed (reach : Reach entry Legal origin config) :
    Committed entry Legal origin config.now config.frames := by
  induction reach with
  | start => exact Reach.start
  | @enter config label _ legal ih =>
      have grown : Reach entry (WithinTrace Legal (label :: config.now.trace)) origin config :=
        ih.reach.mono fun _ _ within => ⟨within.1, List.mem_cons_of_mem label within.2⟩
      exact ih.settle (grown.enter label ⟨legal, List.mem_cons_self⟩)
  | @reply config answer _ ih =>
      obtain ⟨now, frames⟩ := config
      cases frames with
      | nil => exact ih
      | cons frame frames => exact ih.2.settle (ih.1.reply answer)
  | @abort config _ ih =>
      obtain ⟨now, frames⟩ := config
      cases frames with
      | nil => exact ih
      | cons frame frames => exact ih.2

/-- What did not fail is a run by itself. -/
theorem Reach.within (reach : Reach entry Legal origin config) :
    Reach entry (WithinTrace Legal config.now.trace) origin config :=
  reach.committed.reach

end Committed

section Following

variable (part : Component P S) (entry : L → S → Outcome E S Q R S) (Legal : L → S → Prop)
  (origin : S)

def InStep (whole : P) : Prop :=
  ∃ config, Reach entry Legal origin config ∧ config.now.state = part.get whole

def Continues (whole later : P) : Prop :=
  ∀ config, Reach entry Legal origin config → config.now.state = part.get whole →
    ∃ config', Reach entry Legal origin config' ∧ config'.now.state = part.get later ∧
      config'.frames = config.frames

variable {part entry Legal origin} {whole later : P}

theorem Continues.of_same (same : part.get later = part.get whole) :
    Continues part entry Legal origin whole later :=
  fun config reach at_ => ⟨config, reach, at_.trans same.symm, rfl⟩

theorem Continues.refl (whole : P) : Continues part entry Legal origin whole whole :=
  .of_same rfl

theorem Continues.trans {first middle last : P}
    (before : Continues part entry Legal origin first middle)
    (after : Continues part entry Legal origin middle last) :
    Continues part entry Legal origin first last := by
  intro config reach at_
  obtain ⟨config', reach', at', frames⟩ := before config reach at_
  obtain ⟨config'', reach'', at'', frames'⟩ := after config' reach' at'
  exact ⟨config'', reach'', at'', frames'.trans frames⟩

theorem InStep.continues (inStep : InStep part entry Legal origin whole)
    (continues : Continues part entry Legal origin whole later) :
    InStep part entry Legal origin later := by
  obtain ⟨config, reach, at_⟩ := inStep
  obtain ⟨config', reach', at', _⟩ := continues config reach at_
  exact ⟨config', reach', at'⟩

/-- A call that the component ends without asking anybody. -/
theorem Continues.of_done {label : L} {state : S} (legal : Legal label (part.get whole))
    (done : entry label (part.get whole) = .done state) :
    Continues part entry Legal origin whole (part.put whole state) := by
  intro config reach at_
  have entered := Reach.enter label reach (at_ ▸ legal)
  rw [Config.enter, at_, done] at entered
  exact ⟨_, entered, (part.get_put whole state).symm, rfl⟩

-- `Base` and `Other` are about the rest of the whole.
variable {serve : Q → P → Outcome E P Q' R' (P × R)} {Base : P → Prop} {Other : P → P → Prop}

/-- A call of the part, up to what is left of it: wherever the component waits in a run of its own,
the whole waits with it. -/
theorem Outcome.Obeys.plug_inStep (trans : ∀ {a b c}, Other a b → Other b c → Other a c)
    (kept : ∀ {whole} state, Base whole →
      Base (part.put whole state) ∧ Other whole (part.put whole state))
    (served : ∀ query whole, Base whole → InStep part entry Legal origin whole →
      (serve query whole).Obeys (fun whole => Base whole ∧ InStep part entry Legal origin whole)
        (fun before after => Other before after ∧ Continues part entry Legal origin before after)
        (fun value => (Base value.1 ∧ InStep part entry Legal origin value.1) ∧
          Other whole value.1 ∧ Continues part entry Legal origin whole value.1))
    {code : Outcome E S Q R S} {first whole : P} (base : Base whole) (since : Other first whole)
    (inStep : InStep part entry Legal origin first)
    (pending : ∀ config, Reach entry Legal origin config → config.now.state = part.get first →
      ∃ trace, Reach entry Legal origin (settle config.now trace config.frames code)) :
    (code.plug part serve whole).Obeys
      (fun whole => Base whole ∧ InStep part entry Legal origin whole)
      (fun before after => Other before after ∧ Continues part entry Legal origin before after)
      (fun value => (Base (part.put value.1 value.2) ∧
          InStep part entry Legal origin (part.put value.1 value.2)) ∧
        Other first (part.put value.1 value.2) ∧
        Continues part entry Legal origin first (part.put value.1 value.2)) := by
  induction code generalizing whole with
  | revert reason => trivial
  | done value =>
      obtain ⟨base', other⟩ := kept value base
      have continues : Continues part entry Legal origin first (part.put whole value) := by
        intro config reach at_
        obtain ⟨trace, reach'⟩ := pending config reach at_
        exact ⟨_, reach', (part.get_put whole value).symm, rfl⟩
      exact ⟨⟨base', inStep.continues continues⟩, trans since other, continues⟩
  | call state query resume ih =>
      obtain ⟨base', other⟩ := kept state base
      have waiting : InStep part entry Legal origin (part.put whole state) := by
        obtain ⟨config, reach, at_⟩ := inStep
        obtain ⟨trace, reach'⟩ := pending config reach at_
        exact ⟨_, reach', (part.get_put whole state).symm⟩
      refine Obeys.bind (served query _ base' waiting) ?_
      rintro ⟨later, reply⟩ ⟨⟨base'', _⟩, other', after⟩
      refine ih _ _ base'' (trans since (trans other other')) ?_
      intro config reach at_
      obtain ⟨trace, reach'⟩ := pending config reach at_
      obtain ⟨config', reach'', at', frames⟩ := after _ reach' (part.get_put whole state).symm
      obtain ⟨now, rest⟩ := config'
      cases frames
      refine ⟨now.trace, ?_⟩
      have replied := Reach.reply reply reach''
      rw [← at']
      exact replied

theorem Outcome.Obeys.enter_inStep (refl : ∀ whole, Other whole whole)
    (trans : ∀ {a b c}, Other a b → Other b c → Other a c)
    (kept : ∀ {whole} state, Base whole →
      Base (part.put whole state) ∧ Other whole (part.put whole state))
    (served : ∀ query whole, Base whole → InStep part entry Legal origin whole →
      (serve query whole).Obeys (fun whole => Base whole ∧ InStep part entry Legal origin whole)
        (fun before after => Other before after ∧ Continues part entry Legal origin before after)
        (fun value => (Base value.1 ∧ InStep part entry Legal origin value.1) ∧
          Other whole value.1 ∧ Continues part entry Legal origin whole value.1))
    {label : L} (base : Base whole) (inStep : InStep part entry Legal origin whole)
    (legal : Legal label (part.get whole)) :
    ((entry label (part.get whole)).plug part serve whole).Obeys
      (fun whole => Base whole ∧ InStep part entry Legal origin whole)
      (fun before after => Other before after ∧ Continues part entry Legal origin before after)
      (fun value => (Base (part.put value.1 value.2) ∧
          InStep part entry Legal origin (part.put value.1 value.2)) ∧
        Other whole (part.put value.1 value.2) ∧
        Continues part entry Legal origin whole (part.put value.1 value.2)) := by
  refine plug_inStep ?_ kept served base ?_ inStep ?_
  · exact trans
  · exact refl whole
  intro config reach at_
  refine ⟨label :: config.now.trace, ?_⟩
  have entered := Reach.enter label reach (at_ ▸ legal)
  rw [Config.enter, at_] at entered
  exact entered

end Following

end Startrail
