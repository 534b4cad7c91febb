import Mathlib.Logic.Function.Basic
import Mathlib.Data.List.Nodup

/-!
Circular singly linked lists in a mapping. `next` sends the sentinel to the first
member, each member to the one after it and the last member back to the sentinel;
everything else is sent to a null value. A `Ring` fixes the list of members, and
the pointer updates of insertion, appending, removal and replacement each give
the ring of the corresponding list.
-/

namespace Startrail

variable {α : Type}

def Follows (next : α → α) : α → List α → α → Prop
  | source, [], target => next source = target
  | source, member :: members, target => next source = member ∧ Follows next member members target

theorem follows_append {next : α → α} {source middle target : α} {front back : List α} :
    Follows next source (front ++ middle :: back) target ↔
      Follows next source front middle ∧ Follows next middle back target := by
  induction front generalizing source with
  | nil => simp [Follows]
  | cons member front ih => simp [Follows, ih, and_assoc]

theorem Follows.congr {next next' : α → α} {source target : α} {members : List α}
    (follows : Follows next source members target)
    (same : ∀ entry ∈ source :: members, next' entry = next entry) :
    Follows next' source members target := by
  induction members generalizing source with
  | nil => exact (same source (by simp)).trans follows
  | cons member members ih =>
      refine ⟨(same source (by simp)).trans follows.1, ih follows.2 ?_⟩
      intro entry belongs
      exact same entry (List.mem_cons_of_mem source belongs)

theorem Follows.link_mem {next : α → α} {source target entry : α} {members : List α}
    (follows : Follows next source members target) (belongs : entry ∈ source :: members) :
    next entry ∈ members ∨ next entry = target := by
  induction members generalizing source with
  | nil =>
      have equal : entry = source := by simpa using belongs
      subst entry
      exact Or.inr follows
  | cons member members ih =>
      rcases List.mem_cons.mp belongs with equal | later
      · subst entry
        exact Or.inl (by simp [follows.1])
      · rcases ih follows.2 later with inside | outside
        · exact Or.inl (List.mem_cons_of_mem member inside)
        · exact Or.inr outside

theorem Follows.split_at {next : α → α} {source target previous owner : α} {members : List α}
    (follows : Follows next source members target) (belongs : previous ∈ source :: members)
    (link : next previous = owner) (notTarget : owner ≠ target) :
    ∃ front back, members = front ++ owner :: back ∧
      (source :: front).getLast (List.cons_ne_nil _ _) = previous := by
  induction members generalizing source with
  | nil =>
      have equal : previous = source := by simpa using belongs
      subst previous
      exact absurd (link.symm.trans follows) notTarget
  | cons member members ih =>
      by_cases first : previous = source
      · subst previous
        exact ⟨[], members, by simp [← link, follows.1], rfl⟩
      · have later : previous ∈ member :: members := (List.mem_cons.mp belongs).resolve_left first
        obtain ⟨front, back, shape, last⟩ := ih follows.2 later
        refine ⟨member :: front, back, by simp [shape], ?_⟩
        rw [List.getLast_cons (List.cons_ne_nil member front)]
        exact last

theorem Follows.bypass {next : α → α} {source target owner : α} {front back : List α}
    (reaches : Follows next source front (next owner)) (leaves : Follows next owner back target) :
    Follows next source (front ++ back) target := by
  cases back with
  | nil =>
      have closes : next owner = target := leaves
      rwa [List.append_nil, ← closes]
  | cons member back =>
      rw [leaves.1] at reaches
      exact follows_append.mpr ⟨reaches, leaves.2⟩

/-- The last entry of a path links to where the path ends. -/
theorem Follows.last_link {next : α → α} {source target : α} {members : List α}
    (follows : Follows next source members target) :
    next ((source :: members).getLast (List.cons_ne_nil _ _)) = target := by
  induction members generalizing source with
  | nil => exact follows
  | cons member members ih =>
      rw [List.getLast_cons (List.cons_ne_nil member members)]
      exact ih follows.2

/-- `previous` stands right before `owner`; before the first member stands the sentinel. -/
def Precedes (sentinel : α) (members : List α) (previous owner : α) : Prop :=
  ∃ front back, members = front ++ owner :: back ∧
    (sentinel :: front).getLast (List.cons_ne_nil _ _) = previous

theorem Precedes.mem {sentinel previous owner : α} {members : List α}
    (precedes : Precedes sentinel members previous owner) : owner ∈ members := by
  obtain ⟨front, back, rfl, _⟩ := precedes
  simp

structure Ring (next : α → α) (null sentinel : α) (members : List α) : Prop where
  follows : Follows next sentinel members sentinel
  distinct : (sentinel :: members).Nodup
  proper : null ∉ sentinel :: members
  outside : ∀ entry, entry ∉ sentinel :: members → next entry = null

namespace Ring

variable {next : α → α} {null sentinel : α} {members : List α}

theorem link_ne_null_iff (ring : Ring next null sentinel members) (entry : α) :
    next entry ≠ null ↔ entry ∈ sentinel :: members := by
  constructor
  · intro linked
    by_contra absent
    exact linked (ring.outside entry absent)
  · intro belongs isNull
    rcases ring.follows.link_mem belongs with inside | closes
    · exact ring.proper (List.mem_cons_of_mem sentinel (isNull ▸ inside))
    · exact ring.proper (by simp [← isNull, closes])

/-- The entry that links to a member stands right before it. -/
theorem predecessor (ring : Ring next null sentinel members) {previous owner : α}
    (link : next previous = owner) (notNull : owner ≠ null) (notSentinel : owner ≠ sentinel) :
    ∃ front back, members = front ++ owner :: back ∧
      (sentinel :: front).getLast (List.cons_ne_nil _ _) = previous ∧
      Follows next sentinel front owner ∧ Follows next owner back sentinel ∧
      (sentinel :: front).Nodup ∧ owner ∉ sentinel :: front ∧ owner ∉ back ∧
      ∀ entry ∈ back, entry ∉ sentinel :: front := by
  have belongs : previous ∈ sentinel :: members :=
    (ring.link_ne_null_iff previous).mp (by rwa [link])
  obtain ⟨front, back, shape, last⟩ := ring.follows.split_at belongs link notSentinel
  have parts : Follows next sentinel (front ++ owner :: back) sentinel := shape ▸ ring.follows
  have unique : ((sentinel :: front) ++ (owner :: back)).Nodup := by
    have whole := ring.distinct
    rwa [shape, ← List.cons_append] at whole
  obtain ⟨frontUnique, backUnique, apart⟩ := List.nodup_append.mp unique
  have split := follows_append.mp parts
  refine ⟨front, back, shape, last, split.1, split.2, frontUnique, ?_,
    (List.nodup_cons.mp backUnique).1, ?_⟩
  · intro inside
    exact apart owner inside owner (by simp) rfl
  · intro entry later inside
    exact apart entry inside entry (List.mem_cons_of_mem owner later) rfl

theorem link_iff (ring : Ring next null sentinel members) {previous owner : α}
    (notNull : owner ≠ null) (notSentinel : owner ≠ sentinel) :
    next previous = owner ↔ Precedes sentinel members previous owner := by
  constructor
  · intro link
    obtain ⟨front, back, shape, last, _⟩ := ring.predecessor link notNull notSentinel
    exact ⟨front, back, shape, last⟩
  · rintro ⟨front, back, rfl, rfl⟩
    exact (follows_append.mp ring.follows).1.last_link

end Ring

variable [DecidableEq α]

theorem Follows.update_of_notMem {next : α → α} {source target key value : α} {members : List α}
    (follows : Follows next source members target) (fresh : key ∉ source :: members) :
    Follows (Function.update next key value) source members target := by
  apply follows.congr
  intro entry belongs
  apply Function.update_of_ne
  rintro rfl
  exact fresh belongs

/-- Redirecting the last link of a path changes where the path ends. -/
theorem Follows.redirect {next : α → α} {source target : α} {members : List α}
    (follows : Follows next source members target) (distinct : (source :: members).Nodup)
    (other : α) :
    Follows (Function.update next ((source :: members).getLast (List.cons_ne_nil _ _)) other)
      source members other := by
  induction members generalizing source with
  | nil => simp [Follows]
  | cons member members ih =>
      have tail := (List.nodup_cons.mp distinct).2
      have notLast : source ≠ (member :: members).getLast (List.cons_ne_nil _ _) := by
        intro equal
        exact (List.nodup_cons.mp distinct).1 (equal ▸ List.getLast_mem _)
      rw [List.getLast_cons (List.cons_ne_nil member members)]
      exact ⟨(Function.update_of_ne notLast other next).trans follows.1, ih follows.2 tail⟩

namespace Ring

variable {next : α → α} {null sentinel : α} {members : List α}

theorem empty (different : sentinel ≠ null) :
    Ring (Function.update (fun _ => null) sentinel sentinel) null sentinel [] := by
  refine ⟨by simp [Follows], by simp, by simpa using different.symm, ?_⟩
  intro entry absent
  exact Function.update_of_ne (by simpa using absent) _ _

theorem insert (ring : Ring next null sentinel members) {owner : α}
    (fresh : owner ∉ sentinel :: members) (notNull : owner ≠ null) :
    Ring (Function.update (Function.update next owner (next sentinel)) sentinel owner)
      null sentinel (owner :: members) := by
  have notSentinel : owner ≠ sentinel := fun equal => fresh (by simp [equal])
  have notMember : owner ∉ members := fun belongs => fresh (List.mem_cons_of_mem _ belongs)
  have sentinelFresh : sentinel ∉ members := (List.nodup_cons.mp ring.distinct).1
  have unique : members.Nodup := (List.nodup_cons.mp ring.distinct).2
  refine ⟨⟨by simp, ?_⟩, ?_, ?_, ?_⟩
  · cases members with
    | nil => simpa [Follows, notSentinel] using ring.follows
    | cons member members =>
        have tail : Follows next member members sentinel := ring.follows.2
        refine ⟨by simpa [notSentinel] using ring.follows.1, ?_⟩
        exact (tail.update_of_notMem notMember).update_of_notMem sentinelFresh
  · simp only [List.nodup_cons, List.mem_cons, not_or]
    exact ⟨⟨notSentinel.symm, sentinelFresh⟩, notMember, unique⟩
  · have proper := ring.proper
    simp only [List.mem_cons, not_or] at proper ⊢
    exact ⟨proper.1, notNull.symm, proper.2⟩
  · intro entry absent
    simp only [List.mem_cons, not_or] at absent
    rw [Function.update_of_ne absent.1, Function.update_of_ne absent.2.1]
    exact ring.outside entry (by simp [absent.1, absent.2.2])

theorem append (ring : Ring next null sentinel members) {owner : α}
    (fresh : owner ∉ sentinel :: members) (notNull : owner ≠ null) :
    Ring (Function.update (Function.update next
        ((sentinel :: members).getLast (List.cons_ne_nil _ _)) owner) owner sentinel)
      null sentinel (members ++ [owner]) := by
  have reaches := ring.follows.redirect ring.distinct owner
  refine ⟨?_, ?_, ?_, ?_⟩
  · apply follows_append.mpr
    exact ⟨reaches.update_of_notMem fresh, by simp [Follows]⟩
  · rw [← List.cons_append]
    apply ring.distinct.append (by simp)
    intro entry belongs single
    have equal : entry = owner := by simpa using single
    exact fresh (equal ▸ belongs)
  · have proper := ring.proper
    simp only [List.mem_cons, List.mem_append, List.not_mem_nil, or_false, not_or] at proper ⊢
    exact ⟨proper.1, proper.2, notNull.symm⟩
  · intro entry absent
    have notOwner : entry ≠ owner := by
      rintro rfl
      exact absent (by simp)
    have notMember : entry ∉ sentinel :: members := by
      intro belongs
      apply absent
      rw [← List.cons_append]
      exact List.mem_append_left _ belongs
    rw [Function.update_of_ne notOwner, Function.update_of_ne]
    · exact ring.outside entry notMember
    · rintro rfl
      exact notMember (List.getLast_mem _)

theorem remove (ring : Ring next null sentinel members) {previous owner : α}
    (link : next previous = owner) (notNull : owner ≠ null) (notSentinel : owner ≠ sentinel) :
    ∃ front back, members = front ++ owner :: back ∧
      (sentinel :: front).getLast (List.cons_ne_nil _ _) = previous ∧
      Ring (Function.update (Function.update next previous (next owner)) owner null)
        null sentinel (front ++ back) := by
  obtain ⟨front, back, shape, last, reaches, leaves, frontUnique, notFront, notBack, apart⟩ :=
    ring.predecessor link notNull notSentinel
  have notOwner : previous ≠ owner := by
    rintro rfl
    exact notFront (last ▸ List.getLast_mem _)
  have previousFront : previous ∈ sentinel :: front := last ▸ List.getLast_mem _
  have keptMember : ∀ entry ∈ sentinel :: (front ++ back), entry ∈ sentinel :: members := by
    intro entry belongs
    simp only [shape, List.mem_cons, List.mem_append] at belongs ⊢
    tauto
  refine ⟨front, back, shape, last, ?_, ?_, ?_, ?_⟩
  · have shortened : Follows (Function.update next previous (next owner)) sentinel front
        (Function.update next previous (next owner) owner) := by
      rw [Function.update_of_ne notOwner.symm]
      have redirected := reaches.redirect frontUnique (next owner)
      rwa [last] at redirected
    have rest : Follows (Function.update next previous (next owner)) owner back sentinel := by
      apply leaves.update_of_notMem
      intro belongs
      rcases List.mem_cons.mp belongs with equal | later
      · exact notOwner equal
      · exact apart previous later previousFront
    apply (shortened.bypass rest).update_of_notMem
    rw [← List.cons_append]
    intro belongs
    exact (List.mem_append.mp belongs).elim notFront notBack
  · have whole := ring.distinct
    rw [shape, ← List.cons_append] at whole
    rw [← List.cons_append]
    exact whole.sublist (List.Sublist.append_left (List.sublist_cons_self owner back) _)
  · intro belongs
    exact ring.proper (keptMember null belongs)
  · intro entry absent
    by_cases isOwner : entry = owner
    · simp [isOwner]
    · have notPrevious : entry ≠ previous := by
        rintro rfl
        apply absent
        rw [← List.cons_append]
        exact List.mem_append_left back previousFront
      rw [Function.update_of_ne isOwner, Function.update_of_ne notPrevious]
      apply ring.outside
      simp only [shape, List.mem_cons, List.mem_append] at absent ⊢
      tauto

theorem replace (ring : Ring next null sentinel members) {previous owner newOwner : α}
    (link : next previous = owner) (notNull : owner ≠ null) (notSentinel : owner ≠ sentinel)
    (fresh : newOwner ∉ sentinel :: members) (newNotNull : newOwner ≠ null) :
    ∃ front back, members = front ++ owner :: back ∧
      (sentinel :: front).getLast (List.cons_ne_nil _ _) = previous ∧
      Ring (Function.update (Function.update (Function.update next newOwner (next owner))
          previous newOwner) owner null)
        null sentinel (front ++ newOwner :: back) := by
  obtain ⟨front, back, shape, last, reaches, leaves, frontUnique, notFront, notBack, apart⟩ :=
    ring.predecessor link notNull notSentinel
  have previousFront : previous ∈ sentinel :: front := last ▸ List.getLast_mem _
  have whole := ring.distinct
  have newApart : newOwner ∉ sentinel :: front ∧ newOwner ≠ owner ∧ newOwner ∉ back := by
    simp only [shape, List.mem_cons, List.mem_append] at fresh ⊢
    tauto
  have newNotPrevious : newOwner ≠ previous := by
    rintro rfl
    exact newApart.1 previousFront
  refine ⟨front, back, shape, last, ?_, ?_, ?_, ?_⟩
  · have stepIn : Follows (Function.update (Function.update next newOwner (next owner))
        previous newOwner) sentinel front newOwner := by
      have kept : Follows (Function.update next newOwner (next owner)) sentinel front owner :=
        reaches.update_of_notMem newApart.1
      have redirected := kept.redirect frontUnique newOwner
      rwa [last] at redirected
    have stepOut : Follows (Function.update (Function.update next newOwner (next owner))
        previous newOwner) newOwner back sentinel := by
      cases back with
      | nil => simpa [Follows, newNotPrevious] using leaves
      | cons member back =>
          refine ⟨by simpa [newNotPrevious] using leaves.1, ?_⟩
          apply (leaves.2.update_of_notMem newApart.2.2).update_of_notMem
          intro later
          exact apart previous later previousFront
    refine follows_append.mpr ⟨stepIn.update_of_notMem notFront, stepOut.update_of_notMem ?_⟩
    simp only [List.mem_cons, not_or]
    exact ⟨newApart.2.1.symm, notBack⟩
  · rw [shape, ← List.cons_append] at whole
    rw [← List.cons_append]
    obtain ⟨_, backUnique, frontBack⟩ := List.nodup_append.mp whole
    refine List.nodup_append.mpr ⟨frontUnique, ?_, ?_⟩
    · exact List.nodup_cons.mpr ⟨newApart.2.2, (List.nodup_cons.mp backUnique).2⟩
    · rintro entry inFront other inBack rfl
      rcases List.mem_cons.mp inBack with isNew | later
      · exact newApart.1 (isNew ▸ inFront)
      · exact apart entry later inFront
  · have proper := ring.proper
    simp only [shape, List.mem_cons, List.mem_append, not_or] at proper ⊢
    exact ⟨proper.1, proper.2.1, newNotNull.symm, proper.2.2.2⟩
  · intro entry absent
    have notNew : entry ≠ newOwner := by
      rintro rfl
      exact absent (by simp)
    by_cases isOwner : entry = owner
    · simp [isOwner]
    · have notPrevious : entry ≠ previous := by
        rintro rfl
        apply absent
        rw [← List.cons_append]
        exact List.mem_append_left _ previousFront
      rw [Function.update_of_ne isOwner, Function.update_of_ne notPrevious,
        Function.update_of_ne notNew]
      apply ring.outside
      simp only [shape, List.mem_cons, List.mem_append] at absent ⊢
      tauto

end Ring

end Startrail
