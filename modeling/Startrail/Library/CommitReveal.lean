import Mathlib.Logic.Function.Basic
import Startrail.Library.Reentrancy

/-!
Tokens that are handed over by revealing a secret. The owner of a token stores a
record with a commitment, and whoever reveals the committed value takes the token
and clears the record. A `Book` keeps the owners, the records and, the latest
first, the marks of what happened; `Step` is what each change does to it.

A token handed over otherwise keeps its record, and the commitment of the former
owner then opens it for its holder. `Step.sound` is the rule for books in which
this does not happen: every record was approved since its token was acquired. Code is a
`Keeper` if each of its calls comes to one change of the book before it lets others
run; `Keeper.Lawful.current` takes the rule to all its runs.
-/

namespace Startrail

structure Scheme (U K C : Type) where
  nobody : U
  empty : K
  commitment : K → C

inductive Mark (T C : Type) where
  | acquired (token : T)
  | approved (token : T) (commitment : C)
deriving DecidableEq

structure Book (T U K C : Type) where
  owner : T → U
  record : T → K
  marks : List (Mark T C)

inductive Change (T U K : Type) where
  | quiet
  | create (token : T) (owner : U)
  | hand (token : T) (owner : U)
  | reveal (token : T) (owner : U)
  | approve (token : T) (record : K)
  | cancel (token : T)

variable {T U K C : Type} [DecidableEq T]

def Book.Exists (scheme : Scheme U K C) (book : Book T U K C) (token : T) : Prop :=
  book.owner token ≠ scheme.nobody

/-- Acquisitions of the token are marked if and only if its owner becomes another one. -/
def Acquires (before after : Book T U K C) (token : T) (owner : U) : Prop :=
  ∃ recent, after.marks = recent ++ before.marks ∧ (∀ mark ∈ recent, mark = .acquired token) ∧
    (recent = [] ↔ owner = before.owner token)

structure Moved (before after : Book T U K C) (token : T) (recipient : U) : Prop where
  owner : after.owner = Function.update before.owner token recipient
  marks : Acquires before after token recipient

def Step (scheme : Scheme U K C) (before after : Book T U K C) : Change T U K → Prop
  | .quiet => after = before
  | .create token owner => ¬before.Exists scheme token ∧ owner ≠ scheme.nobody ∧
      Moved before after token owner ∧ after.record = before.record
  | .hand token owner => Moved before after token owner ∧ after.record = before.record
  | .reveal token owner => before.Exists scheme token ∧ Moved before after token owner ∧
      after.record = Function.update before.record token scheme.empty
  | .approve token record => before.Exists scheme token ∧ after.owner = before.owner ∧
      after.record = Function.update before.record token record ∧
      after.marks = .approved token (scheme.commitment record) :: before.marks
  | .cancel token => before.Exists scheme token ∧ after.owner = before.owner ∧
      after.record = Function.update before.record token scheme.empty ∧
      after.marks = before.marks

/-- The commitment was approved after the last time another owner acquired the token. -/
def ApprovedSince (token : T) (commitment : C) (marks : List (Mark T C)) : Prop :=
  ∃ recent older, marks = recent ++ .approved token commitment :: older ∧
    Mark.acquired token ∉ recent

structure Book.Sound (scheme : Scheme U K C) (book : Book T U K C) : Prop where
  unowned : ∀ token, ¬book.Exists scheme token → book.record token = scheme.empty
  current : ∀ token, book.record token ≠ scheme.empty →
    ApprovedSince token (scheme.commitment (book.record token)) book.marks

/-- No record is left for a new owner. -/
def Change.Clears (scheme : Scheme U K C) (book : Book T U K C) : Change T U K → Prop
  | .hand token owner => owner ≠ book.owner token → book.record token = scheme.empty
  | _ => True

variable {scheme : Scheme U K C} {before after : Book T U K C} {change : Change T U K}

section Marks

omit [DecidableEq T]

theorem marks_cons {Event : Type} (mark : Event → Option (Mark T C)) (event : Event)
    (logs : List Event) :
    (event :: logs).filterMap mark = (mark event).toList ++ logs.filterMap mark := by
  rw [List.filterMap_cons]
  cases mark event <;> rfl

theorem Acquires.logged [DecidableEq U] {token : T} {owner : U}
    (marks : after.marks =
      (if owner = before.owner token then none else some (.acquired token)).toList ++
        before.marks) :
    Acquires before after token owner := by
  refine ⟨_, marks, ?_, ?_⟩
  · intro mark mem
    split at mem <;> simp_all
  · split <;> simp_all

theorem ApprovedSince.other {token other : T} {commitment : C} {marks recent : List (Mark T C)}
    (since : ApprovedSince token commitment marks) (different : token ≠ other)
    (acquired : ∀ mark ∈ recent, mark = .acquired other) :
    ApprovedSince token commitment (recent ++ marks) := by
  obtain ⟨later, older, rfl, absent⟩ := since
  refine ⟨recent ++ later, older, (List.append_assoc _ _ _).symm, ?_⟩
  intro mem
  rcases List.mem_append.mp mem with new | old
  · exact different (Mark.acquired.inj (acquired _ new))
  · exact absent old

theorem ApprovedSince.cons {token other : T} {commitment latest : C} {marks : List (Mark T C)}
    (since : ApprovedSince token commitment marks) :
    ApprovedSince token commitment (.approved other latest :: marks) := by
  obtain ⟨later, older, rfl, absent⟩ := since
  exact ⟨.approved other latest :: later, older, rfl, by simp [absent]⟩

end Marks

theorem Moved.elsewhere {token other : T} {owner : U} (moved : Moved before after token owner)
    (different : other ≠ token) : after.owner other = before.owner other := by
  rw [moved.owner, Function.update_of_ne different]

theorem Moved.here {token : T} {owner : U} (moved : Moved before after token owner) :
    after.owner token = owner := by
  rw [moved.owner, Function.update_self]

theorem Moved.since {token other : T} {owner : U} {commitment : C}
    (moved : Moved before after token owner) (different : other ≠ token)
    (since : ApprovedSince other commitment before.marks) :
    ApprovedSince other commitment after.marks := by
  obtain ⟨recent, marks, acquired, _⟩ := moved.marks
  rw [marks]
  exact since.other different acquired

theorem Moved.same {token : T} {owner : U} (moved : Moved before after token owner)
    (same : owner = before.owner token) :
    after.owner = before.owner ∧ after.marks = before.marks := by
  obtain ⟨recent, marks, _, unmarked⟩ := moved.marks
  rw [unmarked.mpr same] at marks
  exact ⟨by rw [moved.owner, same, Function.update_eq_self], marks⟩

theorem Moved.trans {middle : Book T U K C} {token : T} {first last : U}
    (created : Moved before middle token first) (passed : Moved middle after token last)
    (new : first ≠ before.owner token) (final : last ≠ before.owner token) :
    Moved before after token last := by
  obtain ⟨recent, marks, acquired, unmarked⟩ := created.marks
  obtain ⟨recent', marks', acquired', _⟩ := passed.marks
  constructor
  · rw [passed.owner, created.owner, Function.update_idem]
  · refine ⟨recent' ++ recent, by rw [marks', marks, List.append_assoc], ?_, ?_⟩
    · intro mark mem
      exact (List.mem_append.mp mem).elim (acquired' mark) (acquired mark)
    · have marked : recent ≠ [] := unmarked.not.mpr new
      simp [marked, final]

/-- A book stays sound when a token whose record is empty in the end changes hands. -/
theorem Book.Sound.move {token : T} {owner : U} (sound : before.Sound scheme)
    (moved : Moved before after token owner) (cleared : after.record token = scheme.empty)
    (records : ∀ other, other ≠ token → after.record other = before.record other) :
    after.Sound scheme := by
  constructor
  · intro other missing
    by_cases same : other = token
    · rw [same, cleared]
    · rw [records other same]
      exact sound.unowned other (by rwa [Book.Exists, moved.elsewhere same] at missing)
  · intro other stored
    have different : other ≠ token := by
      rintro rfl
      exact stored cleared
    rw [records other different] at stored ⊢
    exact moved.since different (sound.current other stored)

omit [DecidableEq T] in
theorem Book.Sound.unrecorded {book : Book T U K C}
    (empty : ∀ token, book.record token = scheme.empty) : book.Sound scheme :=
  ⟨fun token _ => empty token, fun token stored => absurd (empty token) stored⟩

theorem Step.sound (step : Step scheme before after change) (clears : change.Clears scheme before)
    (sound : before.Sound scheme) : after.Sound scheme := by
  cases change with
  | quiet =>
      cases step
      exact sound
  | create token owner =>
      obtain ⟨absent, _, moved, records⟩ := step
      apply sound.move moved
      · rw [records]
        exact sound.unowned token absent
      · intro other _
        rw [records]
  | hand token owner =>
      obtain ⟨moved, records⟩ := step
      by_cases kept : owner = before.owner token
      · obtain ⟨owners, marks⟩ := moved.same kept
        constructor
        · intro other missing
          rw [records]
          exact sound.unowned other (by rwa [Book.Exists, owners] at missing)
        · intro other stored
          rw [records] at stored ⊢
          rw [marks]
          exact sound.current other stored
      · apply sound.move moved
        · rw [records]
          exact clears kept
        · intro other _
          rw [records]
  | reveal token owner =>
      obtain ⟨_, moved, records⟩ := step
      apply sound.move moved
      · rw [records, Function.update_self]
      · intro other different
        rw [records, Function.update_of_ne different]
  | approve token record =>
      obtain ⟨owned, owners, records, marks⟩ := step
      constructor
      · intro other missing
        have different : other ≠ token := by
          rintro rfl
          rw [Book.Exists, owners] at missing
          exact missing owned
        rw [records, Function.update_of_ne different]
        exact sound.unowned other (by rwa [Book.Exists, owners] at missing)
      · intro other stored
        rw [marks]
        by_cases same : other = token
        · rw [records, same, Function.update_self]
          exact ⟨[], before.marks, rfl, List.not_mem_nil⟩
        · rw [records, Function.update_of_ne same] at stored ⊢
          exact (sound.current other stored).cons
  | cancel token =>
      obtain ⟨_, owners, records, marks⟩ := step
      have untouched : ∀ other, after.record other ≠ scheme.empty →
          after.record other = before.record other := by
        intro other stored
        by_cases same : other = token
        · rw [records, same, Function.update_self] at stored
          exact absurd rfl stored
        · rw [records, Function.update_of_ne same]
      constructor
      · intro other missing
        have empty := sound.unowned other (by rwa [Book.Exists, owners] at missing)
        by_contra stored
        exact stored ((untouched other stored).trans empty)
      · intro other stored
        have same := untouched other stored
        rw [same] at stored ⊢
        rw [marks]
        exact sound.current other stored

/-- Only handing over and revealing change the owner of a token that exists. -/
theorem Step.owner_changed {token : T} (step : Step scheme before after change)
    (owned : before.Exists scheme token) (changed : after.owner token ≠ before.owner token) :
    ∃ owner, after.owner token = owner ∧
      (change = .hand token owner ∨ change = .reveal token owner) := by
  cases change with
  | quiet =>
      cases step
      exact absurd rfl changed
  | create other owner =>
      obtain ⟨absent, _, moved, _⟩ := step
      have different : token ≠ other := by
        rintro rfl
        exact absent owned
      exact absurd (moved.elsewhere different) changed
  | hand other owner =>
      obtain ⟨moved, _⟩ := step
      by_cases same : token = other
      · subst other
        exact ⟨owner, moved.here, Or.inl rfl⟩
      · exact absurd (moved.elsewhere same) changed
  | reveal other owner =>
      obtain ⟨_, moved, _⟩ := step
      by_cases same : token = other
      · subst other
        exact ⟨owner, moved.here, Or.inr rfl⟩
      · exact absurd (moved.elsewhere same) changed
  | approve other record => exact absurd (congrFun step.2.1 token) changed
  | cancel other => exact absurd (congrFun step.2.1 token) changed

/-- In a sound book a change leaves no record to a new owner exactly if it clears. -/
theorem Step.clears_iff (step : Step scheme before after change) (sound : before.Sound scheme) :
    (∀ token, after.owner token ≠ before.owner token → after.record token = scheme.empty) ↔
      change.Clears scheme before := by
  constructor
  · intro left
    cases change with
    | hand token owner =>
        obtain ⟨moved, records⟩ := step
        intro changed
        have cleared := left token (by rwa [moved.here])
        rwa [records] at cleared
    | _ => trivial
  · intro clears token changed
    by_cases owned : before.Exists scheme token
    · obtain ⟨owner, same, handed | revealed⟩ := step.owner_changed owned changed
      · subst handed
        rw [step.2]
        exact clears (by rwa [← same])
      · subst revealed
        rw [step.2.2, Function.update_self]
    · have empty := sound.unowned token owned
      cases change with
      | quiet =>
          cases step
          exact empty
      | create other owner => rwa [step.2.2.2]
      | hand other owner => rwa [step.2]
      | reveal other owner =>
          by_cases same : token = other
          · rw [step.2.2, same, Function.update_self]
          · rwa [step.2.2, Function.update_of_ne same]
      | approve other record => exact absurd (congrFun step.2.1 token) changed
      | cancel other => exact absurd (congrFun step.2.1 token) changed

section Code

variable {E S Q R L : Type}

/-- Code that keeps such a book: which of its calls hand a token over without a reveal, and
which of them open a commitment. -/
structure Keeper (E S Q R L T U K C : Type) where
  scheme : Scheme U K C
  book : S → Book T U K C
  entry : L → S → Outcome E S Q R S
  HandsOver : L → S → T → U → Prop
  Opens : L → S → T → C → Prop

/-- A call that hands no token with a record over to another owner. -/
def Keeper.Clears (keeper : Keeper E S Q R L T U K C) (label : L) (state : S) : Prop :=
  ∀ token owner, keeper.HandsOver label state token owner →
    owner ≠ (keeper.book state).owner token →
      (keeper.book state).record token = keeper.scheme.empty

/-- What a call comes to before it lets others run. -/
structure Keeper.Lawful (keeper : Keeper E S Q R L T U K C) : Prop where
  trailing : ∀ label state, (keeper.entry label state).Trailing
  step : ∀ {label state state'}, (keeper.entry label state).front = some state' →
    ∃ change, Step keeper.scheme (keeper.book state) (keeper.book state') change ∧
      ∀ token owner, change = .hand token owner → keeper.HandsOver label state token owner
  hands : ∀ {label state state' token owner}, (keeper.entry label state).front = some state' →
    keeper.HandsOver label state token owner →
      Step keeper.scheme (keeper.book state) (keeper.book state') (.hand token owner)
  opens : ∀ {label state state' token commitment},
    (keeper.entry label state).front = some state' → keeper.Opens label state token commitment →
      commitment = keeper.scheme.commitment ((keeper.book state).record token)

/-- No commitment has outlived the ownership it was given under, and the next call leaves none to
a new owner exactly if it clears. -/
structure Keeper.Current (keeper : Keeper E S Q R L T U K C) (state : S) : Prop where
  approved : ∀ token, (keeper.book state).record token ≠ keeper.scheme.empty →
    ApprovedSince token (keeper.scheme.commitment ((keeper.book state).record token))
      (keeper.book state).marks
  cleared : ∀ label state', (keeper.entry label state).front = some state' →
    ((∀ token, (keeper.book state').owner token ≠ (keeper.book state).owner token →
      (keeper.book state').record token = keeper.scheme.empty) ↔ keeper.Clears label state)
  opened : ∀ label state' token commitment, (keeper.entry label state).front = some state' →
    keeper.Opens label state token commitment →
      commitment ≠ keeper.scheme.commitment keeper.scheme.empty →
        ApprovedSince token commitment (keeper.book state).marks

variable {keeper : Keeper E S Q R L T U K C} {label : L} {state state' origin : S}

theorem Keeper.Lawful.clears (lawful : keeper.Lawful) (clears : keeper.Clears label state)
    (ran : (keeper.entry label state).front = some state') :
    ∃ change, Step keeper.scheme (keeper.book state) (keeper.book state') change ∧
      change.Clears keeper.scheme (keeper.book state) := by
  obtain ⟨change, step, hands⟩ := lawful.step ran
  refine ⟨change, step, ?_⟩
  cases change with
  | hand token owner => exact clears token owner (hands token owner rfl)
  | _ => trivial

theorem Keeper.Lawful.sound (lawful : keeper.Lawful)
    (initial : (keeper.book origin).Sound keeper.scheme) {config : Config E S Q R L}
    (reach : Reach keeper.entry keeper.Clears origin config) :
    (keeper.book config.now.state).Sound keeper.scheme := by
  refine reach.invariant (fun state => (keeper.book state).Sound keeper.scheme) initial ?_
  intro label state clears sound
  refine (lawful.trailing label state).keeps ?_
  intro state' ran
  obtain ⟨change, step, cleared⟩ := lawful.clears clears ran
  exact step.sound cleared sound

theorem Keeper.Lawful.cleared_iff (lawful : keeper.Lawful)
    (sound : (keeper.book state).Sound keeper.scheme)
    (ran : (keeper.entry label state).front = some state') :
    (∀ token, (keeper.book state').owner token ≠ (keeper.book state).owner token →
      (keeper.book state').record token = keeper.scheme.empty) ↔ keeper.Clears label state := by
  constructor
  · intro left token owner hands
    exact ((lawful.hands ran hands).clears_iff sound).mp left
  · intro clears
    obtain ⟨change, step, cleared⟩ := lawful.clears clears ran
    exact (step.clears_iff sound).mpr cleared

theorem Keeper.Lawful.current (lawful : keeper.Lawful)
    (initial : (keeper.book origin).Sound keeper.scheme) {config : Config E S Q R L}
    (reach : Reach keeper.entry keeper.Clears origin config) :
    keeper.Current config.now.state := by
  have sound := lawful.sound initial reach
  refine ⟨sound.current, fun _ _ ran => lawful.cleared_iff sound ran, ?_⟩
  intro label state' token commitment ran opens stored
  have opened := lawful.opens ran opens
  rw [opened]
  apply sound.current
  intro empty
  exact stored (by rw [opened, empty])

end Code

end Startrail
