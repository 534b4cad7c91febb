import Startrail.Approvals
import Startrail.Subgraph.Handlers

/-!
What the subgraph shows of the commitments of one token. Its handlers are guessing: a transfer
counts as the end of a commitment, and what an event leaves out stays as it was. `Act` has what a
call of a contract does to the token, and `Act.mirrors_iff` says when the guess is right.
-/

namespace Startrail.Subgraph

/-- What an event says of a token. -/
inductive Note where
  | minted
  | handed
  | committed (commitment : Bytes32) (customHistoryId : Option Uint256) (sender : Option Address)
  | cancelled (sender : Option Address)

namespace Note

def commits : Note → Bool
  | .committed .. => true
  | _ => false

def sender : Note → Option Address
  | .committed _ _ sender => sender
  | .cancelled sender => sender
  | _ => none

end Note

-- The sender in the last event of a commitment or its end.
def lastSender (notes : List Note) : Option Address := notes.findSome? Note.sender

structure Commit where
  commitment : Option Bytes32
  customHistory : Option Uint256
  sender : Option Address
deriving DecidableEq

/-- The record's commitment, if there is a record, and the parts of its `SRRTransferCommit`. -/
structure View where
  srr : Option (Option Bytes32)
  commit : Option Commit
deriving DecidableEq

namespace View

def blank : View := ⟨none, none⟩

def transferCommitment (view : View) : Option Bytes32 := view.srr.join

def commitment (view : View) : Option Bytes32 := view.commit.bind Commit.commitment

def customHistory (view : View) : Option Uint256 := view.commit.bind Commit.customHistory

def sender (view : View) : Option Address := view.commit.bind Commit.sender

/-- What the handlers make of an event. -/
def after (note : Note) (view : View) : View :=
  match note with
  | .minted => ⟨some view.transferCommitment, view.commit⟩
  | .handed => ⟨some none, view.commit.map fun commit => { commit with commitment := none }⟩
  | .committed commitment customHistoryId sender =>
      match view.srr with
      | none => view
      | some _ => ⟨some (some commitment), some ⟨some commitment,
          customHistoryId <|> view.customHistory,
          (if customHistoryId.isSome then none else sender) <|> view.sender⟩⟩
  | .cancelled sender =>
      match view.srr with
      | none => view
      | some _ => ⟨some none, view.commit.map fun commit =>
          { commit with commitment := none, sender := sender <|> commit.sender }⟩

def of (notes : List Note) : View := notes.foldr after blank

end View

def committedValue (approval : Approval) : Option Bytes32 :=
  if approval.commitment ≠ 0 then some approval.commitment else none

def committedHistory (approval : Approval) : Option Uint256 :=
  if approval.commitment ≠ 0 then historyOf approval.customHistoryId else none

/-- The subgraph shows what the contract has stored. -/
structure Mirrors (view : View) (stored : Approval) (sender : Option Address) : Prop where
  transferCommitment : view.transferCommitment = committedValue stored
  commitment : view.commitment = committedValue stored
  customHistory : view.customHistory = committedHistory stored
  sender : view.sender = sender

/-- What a call does to a token. -/
inductive Act where
  | nothing
  | create (passedOn : Bool)
  | hand (owned : Bool)
  | reveal
  | approve (approval : Approval) (sender : Option Address)
  | cancel (sender : Option Address)

namespace Act

def notes (stored : Approval) : Act → List Note
  | .nothing => []
  | .create passedOn => if passedOn then [.handed, .minted] else [.minted]
  | .hand owned => [if owned then .handed else .minted]
  | .reveal => [.handed]
  | .approve approval sender =>
      .committed approval.commitment (historyOf approval.customHistoryId) sender ::
        if stored.commitment ≠ 0 then [.cancelled sender] else []
  | .cancel sender => [.cancelled sender]

def stores (stored : Approval) : Act → Approval
  | .nothing | .create _ | .hand _ => stored
  | .approve approval _ => approval.over stored.customHistoryId
  | .reveal | .cancel _ => Approval.none

def moves : Act → Bool
  | .create _ | .hand _ | .reveal => true
  | _ => false

-- Only a token that exists is approved, cancelled or revealed.
def exists_ : Act → Bool
  | .hand owned => owned
  | .reveal | .approve .. | .cancel _ => true
  | _ => false

/-- No commitment is left behind by a transfer or given as zero, none with a custom history comes
to an end, and the sender is one that the subgraph gets to know. -/
def Fits (stored : Approval) (before : List Note) : Act → Prop
  | .nothing => True
  | .create passedOn => passedOn = true → stored.commitment = 0
  | .hand owned => owned = true → stored.commitment = 0
  | .reveal => committedHistory stored = none
  | .approve approval sender => approval.commitment ≠ 0 ∧
      (sender = none ∨ approval.customHistoryId = 0 ∨ stored.commitment ≠ 0 ∨
        lastSender before = sender)
  | .cancel sender => committedHistory stored = none ∧
      (before.any Note.commits = true ∨ sender = none)

end Act

/-- The state of a token and the notes about it, as far as the subgraph has followed. -/
structure Followed (owned : Prop) (stored : Approval) (notes : List Note) : Prop where
  known : owned → (View.of notes).srr.isSome = true
  opened : (View.of notes).commit.isSome = notes.any Note.commits
  plain : stored.commitment = 0 → stored.customHistoryId = 0
  mirrors : Mirrors (View.of notes) stored (lastSender notes)

section Following

variable {owned owned' : Prop} {stored : Approval} {notes : List Note}

theorem historyOf_zero : historyOf 0 = none := if_neg fun given => given rfl

theorem committedValue_none : committedValue Approval.none = none := if_neg fun given => given rfl

theorem committedHistory_none : committedHistory Approval.none = none :=
  if_neg fun given => given rfl

theorem committedValue_eq_none : committedValue stored = none ↔ stored.commitment = 0 := by
  unfold committedValue
  split
  · rename_i given
    exact iff_of_false nofun given
  · rename_i absent
    exact iff_of_true rfl (not_not.mp absent)

theorem Followed.blank : Followed False Approval.none [] where
  known owned := owned.elim
  opened := rfl
  plain _ := rfl
  mirrors := ⟨committedValue_none.symm, committedValue_none.symm, committedHistory_none.symm, rfl⟩

theorem Followed.commit (followed : Followed owned stored notes) (given : stored.commitment ≠ 0) :
    ∃ commit, (View.of notes).commit = some commit := by
  have shown := followed.mirrors.commitment
  rw [committedValue, if_pos given] at shown
  cases present : (View.of notes).commit with
  | none =>
      rw [View.commitment, present] at shown
      cases shown
  | some commit => exact ⟨commit, rfl⟩

theorem Mirrors.handed {view : View} {sender : Option Address} (before : Mirrors view stored sender)
    (after : Approval) (committed : committedValue after = none) :
    Mirrors (view.after .handed) after sender ↔
      committedHistory stored = committedHistory after := by
  have commitment : (view.after .handed).commitment = none := by
    cases present : view.commit <;> simp [View.after, View.commitment, present]
  have history : (view.after .handed).customHistory = view.customHistory := by
    cases present : view.commit <;> simp [View.after, View.customHistory, present]
  have known : (view.after .handed).sender = view.sender := by
    cases present : view.commit <;> simp [View.after, View.sender, present]
  constructor
  · intro later
    rw [← before.customHistory, ← history, later.customHistory]
  · intro same
    refine ⟨?_, ?_, ?_, ?_⟩
    · rw [committed]
      rfl
    · rw [commitment, committed]
    · rw [history, before.customHistory, same]
    · rw [known, before.sender]

theorem Mirrors.minted {view : View} {sender : Option Address}
    (before : Mirrors view stored sender) :
    Mirrors (view.after .minted) stored sender :=
  ⟨before.transferCommitment, before.commitment, before.customHistory, before.sender⟩

theorem Mirrors.handed_iff {view : View} {sender : Option Address}
    (before : Mirrors view stored sender) :
    Mirrors (view.after .handed) stored sender ↔ stored.commitment = 0 := by
  constructor
  · intro later
    exact committedValue_eq_none.mp later.transferCommitment.symm
  · intro absent
    exact (before.handed stored (committedValue_eq_none.mpr absent)).mpr rfl

theorem lastSender_cons (note : Note) (notes : List Note) :
    lastSender (note :: notes) = (note.sender <|> lastSender notes) := by
  unfold lastSender
  rw [List.findSome?_cons]
  cases note.sender <;> rfl

theorem View.after_committed {view : View} (known : view.srr.isSome = true) (commitment : Bytes32)
    (customHistoryId : Option Uint256) (sender : Option Address) :
    view.after (.committed commitment customHistoryId sender) =
      ⟨some (some commitment), some ⟨some commitment, customHistoryId <|> view.customHistory,
        (if customHistoryId.isSome then none else sender) <|> view.sender⟩⟩ := by
  obtain ⟨shown, present⟩ := Option.isSome_iff_exists.mp known
  unfold View.after
  rw [present]

theorem View.after_cancelled {view : View} (known : view.srr.isSome = true)
    (sender : Option Address) :
    view.after (.cancelled sender) = ⟨some none, view.commit.map fun commit =>
      { commit with commitment := none, sender := sender <|> commit.sender }⟩ := by
  obtain ⟨shown, present⟩ := Option.isSome_iff_exists.mp known
  unfold View.after
  rw [present]

theorem View.after_known {view : View} (known : view.srr.isSome = true) (note : Note) :
    (view.after note).srr.isSome = true := by
  cases note with
  | minted => rfl
  | handed => rfl
  | committed => rw [View.after_committed known]; rfl
  | cancelled => rw [View.after_cancelled known]; rfl

theorem committedHistory_plain (plain : stored.commitment = 0 → stored.customHistoryId = 0) :
    committedHistory stored = historyOf stored.customHistoryId := by
  unfold committedHistory
  split
  · rfl
  · rename_i absent
    rw [plain (not_not.mp absent)]
    exact historyOf_zero.symm

theorem historyOf_over (approval : Approval) (stored : Uint256) :
    historyOf (approval.over stored).customHistoryId =
      (historyOf approval.customHistoryId <|> historyOf stored) := by
  by_cases absent : approval.customHistoryId = 0
  · rw [Approval.over_absent absent, absent, historyOf_zero]
    rfl
  · rw [Approval.over_given absent, historyOf, if_pos absent]
    rfl

/-- The view in which a commitment is recorded, after the prior one is cancelled. -/
def View.cancelledFor (view : View) (stored : Approval) (sender : Option Address) : View :=
  if stored.commitment ≠ 0 then view.after (.cancelled sender) else view

theorem Followed.cancelledFor (followed : Followed owned stored notes) (owned_ : owned)
    (sender : Option Address) :
    ((View.of notes).cancelledFor stored sender).srr.isSome = true ∧
      ((View.of notes).cancelledFor stored sender).customHistory = committedHistory stored ∧
      ((View.of notes).cancelledFor stored sender).sender =
        if stored.commitment ≠ 0 then sender <|> lastSender notes else lastSender notes := by
  have known := followed.known owned_
  unfold View.cancelledFor
  by_cases given : stored.commitment ≠ 0
  · rw [if_pos given, if_pos given, View.after_cancelled known]
    obtain ⟨commit, present⟩ := followed.commit given
    have history := followed.mirrors.customHistory
    have shown := followed.mirrors.sender
    rw [View.customHistory, present] at history
    rw [View.sender, present] at shown
    refine ⟨rfl, ?_, ?_⟩
    · rw [← history, present]
      rfl
    · rw [← shown, present]
      rfl
  · rw [if_neg given, if_neg given]
    exact ⟨known, followed.mirrors.customHistory, followed.mirrors.sender⟩

theorem Followed.approve_iff (followed : Followed owned stored notes) (owned_ : owned)
    (approval : Approval) (sender : Option Address) :
    Mirrors (((View.of notes).cancelledFor stored sender).after
        (.committed approval.commitment (historyOf approval.customHistoryId) sender))
      (approval.over stored.customHistoryId) (sender <|> lastSender notes) ↔
        (Act.approve approval sender).Fits stored notes := by
  obtain ⟨known, history, shown⟩ := followed.cancelledFor owned_ sender
  rw [View.after_committed known, history, shown, committedHistory_plain followed.plain]
  have told : ((if (historyOf approval.customHistoryId).isSome then none else sender) <|>
      if stored.commitment ≠ 0 then sender <|> lastSender notes else lastSender notes) =
        (sender <|> lastSender notes) ↔
      sender = none ∨ approval.customHistoryId = 0 ∨ stored.commitment ≠ 0 ∨
        lastSender notes = sender := by
    cases sender with
    | none => simp
    | some sender =>
        by_cases absent : approval.customHistoryId = 0
        · rw [absent, historyOf_zero]
          simp
        · rw [historyOf, if_pos absent]
          by_cases given : stored.commitment ≠ 0
          · rw [if_pos given]
            exact iff_of_true rfl (Or.inr (Or.inr (Or.inl given)))
          · rw [if_neg given]
            refine ⟨fun same => Or.inr (Or.inr (Or.inr same)), ?_⟩
            rintro (none_ | none_ | given' | same)
            · cases none_
            · exact absurd none_ absent
            · exact absurd given' given
            · exact same
  constructor
  · rintro ⟨transferCommitment, _, _, sender_⟩
    refine ⟨?_, told.mp sender_⟩
    intro absent
    have hidden : committedValue (approval.over stored.customHistoryId) = none :=
      committedValue_eq_none.mpr absent
    cases transferCommitment.trans hidden
  · rintro ⟨given, sender_⟩
    have value : committedValue (approval.over stored.customHistoryId) =
        some approval.commitment := if_pos given
    refine ⟨value.symm, value.symm, ?_, told.mpr sender_⟩
    have written : committedHistory (approval.over stored.customHistoryId) =
        historyOf (approval.over stored.customHistoryId).customHistoryId := if_pos given
    rw [written, historyOf_over]
    rfl

theorem Followed.cancel_iff (followed : Followed owned stored notes) (owned_ : owned)
    (sender : Option Address) :
    Mirrors ((View.of notes).after (.cancelled sender)) Approval.none
        (sender <|> lastSender notes) ↔
      (Act.cancel sender).Fits stored notes := by
  have known := followed.known owned_
  have history := followed.mirrors.customHistory
  have shown := followed.mirrors.sender
  unfold Act.Fits
  rw [View.after_cancelled known, ← followed.opened, ← history, ← shown]
  cases present : (View.of notes).commit with
  | none =>
      have nothing : (View.of notes).sender = none := by
        rw [View.sender, present]
        rfl
      have unset : (View.of notes).customHistory = none := by
        rw [View.customHistory, present]
        rfl
      rw [nothing, unset]
      constructor
      · intro later
        refine ⟨rfl, Or.inr ?_⟩
        cases sender with
        | none => rfl
        | some sender => cases later.sender
      · rintro ⟨_, opened | rfl⟩
        · cases opened
        · exact ⟨rfl, rfl, rfl, rfl⟩
  | some commit =>
      have history' : (View.of notes).customHistory = commit.customHistory := by
        rw [View.customHistory, present]
        rfl
      have sender' : (View.of notes).sender = commit.sender := by
        rw [View.sender, present]
        rfl
      rw [history', sender']
      constructor
      · intro later
        exact ⟨later.customHistory.trans committedHistory_none, Or.inl rfl⟩
      · rintro ⟨unset, _⟩
        exact ⟨rfl, rfl, unset.trans committedHistory_none.symm, rfl⟩

/-- A call keeps the subgraph in step with the contract exactly if it fits. -/
theorem Act.mirrors_iff (act : Act) (followed : Followed owned stored notes)
    (exists_ : act.exists_ = true → owned) :
    Mirrors (View.of (act.notes stored ++ notes)) (act.stores stored)
        (lastSender (act.notes stored ++ notes)) ↔ act.Fits stored notes := by
  have before := followed.mirrors
  cases act with
  | nothing => exact iff_of_true before trivial
  | create passedOn =>
      cases passedOn with
      | false => exact iff_of_true before.minted nofun
      | true => exact before.minted.handed_iff.trans ⟨fun absent _ => absent, fun fits => fits rfl⟩
  | hand owned_ =>
      cases owned_ with
      | false => exact iff_of_true before.minted nofun
      | true => exact before.handed_iff.trans ⟨fun absent _ => absent, fun fits => fits rfl⟩
  | reveal =>
      have handed := before.handed Approval.none committedValue_none
      rw [committedHistory_none] at handed
      exact handed
  | approve approval sender =>
      rw [← followed.approve_iff (exists_ rfl), Act.notes, Act.stores, View.cancelledFor]
      by_cases given : stored.commitment ≠ 0
      · rw [if_pos given, if_pos given]
        have senders : lastSender (.committed approval.commitment
            (historyOf approval.customHistoryId) sender :: ([.cancelled sender] ++ notes)) =
              (sender <|> lastSender notes) := by
          rw [lastSender_cons, List.singleton_append, lastSender_cons]
          cases sender <;> rfl
        rw [List.cons_append, senders]
        rfl
      · rw [if_neg given, if_neg given, List.cons_append, List.nil_append, lastSender_cons]
        rfl
  | cancel sender =>
      rw [← followed.cancel_iff (exists_ rfl)]
      rw [Act.notes, Act.stores, List.singleton_append, lastSender_cons]
      rfl

theorem View.of_known {view : View} (known : view.srr.isSome = true) (notes : List Note) :
    (notes.foldr View.after view).srr.isSome = true := by
  induction notes with
  | nil => exact known
  | cons note notes ih => exact View.after_known ih note

theorem View.after_opened {view : View} (note : Note)
    (known : note.commits = true → view.srr.isSome = true) :
    (view.after note).commit.isSome = (note.commits || view.commit.isSome) := by
  cases note with
  | minted => rfl
  | handed => exact Option.isSome_map
  | committed => rw [View.after_committed (known rfl)]; rfl
  | cancelled sender =>
      cases present : view.srr with
      | none =>
          unfold View.after
          rw [present]
          rfl
      | some shown =>
          rw [View.after_cancelled (by rw [present]; rfl)]
          exact Option.isSome_map

theorem Act.commits_exists {act : Act} {note : Note} (noted : note ∈ act.notes stored)
    (commits : note.commits = true) : act.exists_ = true := by
  cases act with
  | nothing => cases noted
  | create passedOn =>
      cases passedOn with
      | false =>
          cases List.mem_singleton.mp noted
          cases commits
      | true =>
          rcases List.mem_pair.mp noted with rfl | rfl
          · cases commits
          · cases commits
  | hand owned =>
      cases owned with
      | false =>
          cases List.mem_singleton.mp noted
          cases commits
      | true => rfl
  | _ => rfl

theorem View.opened_append {view : View} {fresh : List Note}
    (known : (∃ note ∈ fresh, note.commits = true) → view.srr.isSome = true) :
    (fresh.foldr View.after view).commit.isSome =
      (fresh.any Note.commits || view.commit.isSome) := by
  induction fresh with
  | nil => rfl
  | cons note fresh ih =>
      have opened := ih fun ⟨other, belongs, commits⟩ =>
        known ⟨other, List.mem_cons_of_mem _ belongs, commits⟩
      rw [List.foldr_cons, View.after_opened, opened, List.any_cons, Bool.or_assoc]
      intro commits
      exact View.of_known (known ⟨note, List.mem_cons_self, commits⟩) fresh

theorem Act.moves_known {act : Act} (moves : act.moves = true) (view : View) :
    ((act.notes stored).foldr View.after view).srr.isSome = true := by
  cases act with
  | create passedOn => cases passedOn <;> rfl
  | hand owned => cases owned <;> rfl
  | reveal => rfl
  | _ => cases moves

theorem Act.followed {act : Act} (followed : Followed owned stored notes)
    (exists_ : act.exists_ = true → owned) (fits : act.Fits stored notes)
    (owner : owned' → owned ∨ act.moves = true) :
    Followed owned' (act.stores stored) (act.notes stored ++ notes) where
  known now := by
    rw [View.of, List.foldr_append]
    rcases owner now with before | moves
    · exact View.of_known (followed.known before) _
    · exact Act.moves_known moves _
  opened := by
    rw [View.of, List.foldr_append, View.opened_append, List.any_append]
    · exact congrArg _ followed.opened
    · rintro ⟨note, noted, commits⟩
      exact followed.known (exists_ (Act.commits_exists noted commits))
  plain := by
    cases act with
    | approve approval sender => exact fun absent => absurd absent fits.1
    | reveal => exact fun _ => rfl
    | cancel => exact fun _ => rfl
    | _ => exact followed.plain
  mirrors := (act.mirrors_iff followed exists_).mpr fits

end Following

end Startrail.Subgraph
