import Startrail.Evm

/-!
Queries for events, `queryEvents` of `startrail-common-js/ethereum/tx-helpers.ts`. The range of a
query includes both its ends and the next one starts where it ended, so the blocks at which the
pages meet are read twice; an interval of one block is not read at all.
-/

namespace Startrail.Client.EventQueries

structure Log where
  address : Address
  topics : List Bytes32
  data : Bytes
deriving DecidableEq

structure EventFilter where
  address : Address
  topics : List Bytes32

def EventFilter.Accepts (filter : EventFilter) (log : Log) : Bool :=
  log.address = filter.address && filter.topics.isPrefixOf log.topics

/-- A chain as a node shows it, with the logs of each block in their order. -/
structure Provider where
  getBlockNumber : Nat
  logs : Nat → List Log

def interval (fromBlock toBlock : Nat) : List Nat := List.range' fromBlock (toBlock + 1 - fromBlock)

def Provider.matching (provider : Provider) (filter : EventFilter) (block : Nat) : List Log :=
  (provider.logs block).filter filter.Accepts

def Provider.getLogs (provider : Provider) (filter : EventFilter) (fromBlock toBlock : Nat) :
    List Log :=
  (interval fromBlock toBlock).flatMap (provider.matching filter)

section Loop

variable {α : Type}

def queryLoop (getLogs : Nat → Nat → List α) (toBlock blocksPerQuery : Nat) :
    Nat → Nat → List α → Option (List α)
  | 0, _, _ => none
  | fuel + 1, fromBlock, events =>
      if fromBlock < toBlock then
        let logs := getLogs fromBlock (min (fromBlock + blocksPerQuery) toBlock)
        queryLoop getLogs toBlock blocksPerQuery fuel (fromBlock + blocksPerQuery) (events ++ logs)
      else some events

-- An `endBlock` of 0 is as good as none.
def lastBlock (provider : Provider) : Option Nat → Nat
  | none => provider.getBlockNumber
  | some endBlock => if endBlock = 0 then provider.getBlockNumber else endBlock

def queryEvents (provider : Provider) (eventFilter : EventFilter) (startBlock : Nat)
    (endBlock : Option Nat) (blocksPerQuery fuel : Nat) : Option (List Log) :=
  let toBlock := lastBlock provider endBlock
  queryLoop (provider.getLogs eventFilter) toBlock blocksPerQuery fuel startBlock []

/-- The ranges that the loop asks for. -/
def queriedRanges (startBlock toBlock blocksPerQuery fuel : Nat) : Option (List (Nat × Nat)) :=
  queryLoop (fun fromBlock toBlock => [(fromBlock, toBlock)]) toBlock blocksPerQuery fuel startBlock
    []

end Loop

section Pages

variable {α : Type} {first middle last size fuel : Nat} {content : Nat → List α}

theorem interval_split (before : first ≤ middle) (inside : middle < last) :
    interval first last = interval first middle ++ interval (middle + 1) last := by
  have sizes : last + 1 - first = middle + 1 - first + (last + 1 - (middle + 1)) := by omega
  have next : middle + 1 = first + (middle + 1 - first) := by omega
  unfold interval
  rw [sizes, ← List.range'_append_1, ← next]

theorem interval_head (ordered : first ≤ last) :
    interval first last = first :: interval (first + 1) last := by
  have sizes : last + 1 - first = last + 1 - (first + 1) + 1 := by omega
  unfold interval
  rw [sizes, List.range'_succ]

/-- The pages from a block on, each of which begins where the one before it ended. -/
def pages (last size : Nat) : Nat → Nat → List (Nat × Nat)
  | 0, _ => []
  | fuel + 1, first =>
      if first < last then (first, min (first + size) last) :: pages last size fuel (first + size)
      else []

theorem queryLoop_eq (getLogs : Nat → Nat → List α) (positive : 0 < size)
    (enough : last - first < fuel) (events : List α) :
    queryLoop getLogs last size fuel first events =
      some (events ++ (pages last size fuel first).flatMap fun page => getLogs page.1 page.2) := by
  induction fuel generalizing first events with
  | zero => omega
  | succ fuel ih =>
      unfold queryLoop pages
      split
      · rw [ih (by omega), List.flatMap_cons, List.append_assoc]
      · rw [List.flatMap_nil, List.append_nil]

theorem pages_enough {more : Nat} (positive : 0 < size) (enough : last - first < fuel)
    (enough' : last - first < more) : pages last size fuel first = pages last size more first := by
  induction fuel generalizing first more with
  | zero => omega
  | succ fuel ih =>
      obtain ⟨more, rfl⟩ := Nat.exists_eq_succ_of_ne_zero (Nat.ne_of_gt (Nat.zero_lt_of_lt enough'))
      unfold pages
      split
      · have same := @ih (first + size) more (by omega) (by omega)
        rw [same]
      · rfl

def inInterval (content : Nat → List α) (first last : Nat) : List α :=
  (interval first last).flatMap content

def onPages (content : Nat → List α) (last size fuel first : Nat) : List α :=
  (pages last size fuel first).flatMap fun page => inInterval content page.1 page.2

/-- The blocks where two pages meet. -/
def Meets (first last size block : Nat) : Prop :=
  first < block ∧ block < last ∧ size ∣ block - first

theorem meets_step (inside : first + size < last) (positive : 0 < size) (block : Nat) :
    Meets first last size block ↔ block = first + size ∨ Meets (first + size) last size block := by
  unfold Meets
  constructor
  · rintro ⟨after, before, whole⟩
    have least := Nat.le_of_dvd (by omega) whole
    rcases Nat.lt_or_eq_of_le least with more | same
    · refine Or.inr ⟨by omega, before, ?_⟩
      rw [← Nat.sub_sub]
      exact Nat.dvd_sub whole (Nat.dvd_refl size)
    · exact Or.inl (by omega)
  · rintro (rfl | ⟨after, before, whole⟩)
    · exact ⟨by omega, inside, by rw [Nat.add_sub_cancel_left]⟩
    · refine ⟨by omega, before, ?_⟩
      have sizes : block - first = block - (first + size) + size := by omega
      rw [sizes]
      exact Nat.dvd_add whole (Nat.dvd_refl size)

theorem onPages_last (final : last ≤ first + size) (ordered : first < last) :
    onPages content last size (fuel + 1) first = inInterval content first last := by
  have done : pages last size fuel (first + size) = [] := by
    cases fuel with
    | zero => rfl
    | succ fuel => exact if_neg (Nat.not_lt_of_le final)
  rw [onPages, pages, if_pos ordered, done, Nat.min_eq_right final, List.flatMap_cons]
  exact List.append_nil _

theorem onPages_step (inside : first + size < last) :
    onPages content last size (fuel + 1) first =
      inInterval content first (first + size) ++ onPages content last size fuel (first + size) := by
  rw [onPages, pages, if_pos (by omega), Nat.min_eq_left (Nat.le_of_lt inside), List.flatMap_cons]
  rfl

theorem inInterval_split (before : first ≤ middle) (inside : middle < last) :
    inInterval content first last =
      inInterval content first middle ++ inInterval content (middle + 1) last := by
  rw [inInterval, interval_split before inside, List.flatMap_append]
  rfl

theorem inInterval_head (ordered : first ≤ last) :
    inInterval content first last = content first ++ inInterval content (first + 1) last := by
  rw [inInterval, interval_head ordered, List.flatMap_cons]
  rfl

/-- The pages return what is there, and what is in the blocks where they meet once more. -/
theorem onPages_eq (positive : 0 < size) (ordered : first < last) (enough : last - first < fuel) :
    (inInterval content first last).length ≤ (onPages content last size fuel first).length ∧
      (onPages content last size fuel first = inInterval content first last ↔
        ∀ block, Meets first last size block → content block = []) := by
  induction fuel generalizing first with
  | zero => omega
  | succ fuel ih =>
      rcases Nat.lt_or_ge (first + size) last with inside | final
      · obtain ⟨longer, exact_⟩ := ih inside (by omega)
        have head := @inInterval_head _ _ _ content (Nat.le_of_lt inside)
        have sizes := congrArg List.length head
        rw [List.length_append] at sizes
        rw [onPages_step inside, inInterval_split (Nat.le_add_right first size) inside]
        constructor
        · rw [List.length_append, List.length_append]
          omega
        · rw [List.append_cancel_left_eq]
          constructor
          · intro same block meets
            rw [same] at longer
            have empty : content (first + size) = [] :=
              List.eq_nil_of_length_eq_zero (by omega)
            rw [empty, List.nil_append] at head
            rcases (meets_step inside positive block).mp meets with rfl | later
            · exact empty
            · exact exact_.mp (same.trans head.symm) block later
          · intro empty
            have here := empty _ ((meets_step inside positive _).mpr (Or.inl rfl))
            rw [here, List.nil_append] at head
            rw [← head]
            exact exact_.mpr fun block later =>
              empty block ((meets_step inside positive block).mpr (Or.inr later))
      · rw [onPages_last final ordered]
        refine ⟨Nat.le_refl _, iff_of_true rfl ?_⟩
        rintro block ⟨after, before, whole⟩
        have least := Nat.le_of_dvd (by omega) whole
        omega

theorem onPages_point : onPages content first size fuel first = [] := by
  cases fuel with
  | zero => rfl
  | succ fuel => rw [onPages, pages, if_neg (Nat.lt_irrefl first), List.flatMap_nil]

theorem inInterval_point : inInterval content first first = content first := by
  rw [inInterval, interval, Nat.add_sub_cancel_left]
  exact List.append_nil _

/-- The blocks of an interval that the pages do not return once. -/
def Misread (first last size block : Nat) : Prop :=
  first = last ∧ block = last ∨ Meets first last size block

theorem onPages_iff (positive : 0 < size) (ordered : first ≤ last) (enough : last - first < fuel) :
    onPages content last size fuel first = inInterval content first last ↔
      ∀ block, Misread first last size block → content block = [] := by
  rcases Nat.lt_or_eq_of_le ordered with before | rfl
  · rw [(onPages_eq positive before enough).2]
    have same : ∀ block, Misread first last size block ↔ Meets first last size block :=
      fun block => or_iff_right fun point => absurd point.1 (Nat.ne_of_lt before)
    simp only [same]
  · rw [onPages_point, inInterval_point]
    constructor
    · rintro empty block (⟨_, rfl⟩ | ⟨after, before, _⟩)
      · exact empty.symm
      · omega
    · intro empty
      exact (empty first (Or.inl ⟨rfl, rfl⟩)).symm

theorem inInterval_blocks : inInterval (fun block => [block]) first last = interval first last :=
  List.flatMap_singleton' _

theorem misread_none (positive : 0 < size) (ordered : first ≤ last) :
    (∀ block, ¬Misread first last size block) ↔ first < last ∧ last ≤ first + size := by
  constructor
  · intro none_
    have before : first < last :=
      Nat.lt_of_le_of_ne ordered fun same => none_ last (Or.inl ⟨same, rfl⟩)
    refine ⟨before, Nat.le_of_not_lt fun inside => none_ (first + size) (Or.inr ?_)⟩
    exact (meets_step inside positive _).mpr (Or.inl rfl)
  · rintro ⟨before, single⟩ block (⟨same, _⟩ | ⟨after, inside, whole⟩)
    · omega
    · have least := Nat.le_of_dvd (by omega) whole
      omega

end Pages

section Queries

/-- What a query comes to, which the loop returns and the ranges it asks for. -/
structure Queries (provider : Provider) (eventFilter : EventFilter) (startBlock toBlock : Nat)
    (blocksPerQuery : Nat) (events : List Log) (ranges : List (Nat × Nat)) : Prop where
  returned : events = provider.getLogs eventFilter startBlock toBlock ↔
    ∀ block, Misread startBlock toBlock blocksPerQuery block →
      provider.matching eventFilter block = []
  covered : ranges.flatMap (fun range => interval range.1 range.2) = interval startBlock toBlock ↔
    startBlock < toBlock ∧ toBlock ≤ startBlock + blocksPerQuery

theorem event_queries (provider : Provider) (eventFilter : EventFilter) (startBlock : Nat)
    (endBlock : Option Nat) (blocksPerQuery : Nat) (positive : 1 ≤ blocksPerQuery)
    (ordered : startBlock ≤ lastBlock provider endBlock) :
    ∃ events ranges, Queries provider eventFilter startBlock (lastBlock provider endBlock)
        blocksPerQuery events ranges ∧
      ∀ fuel, lastBlock provider endBlock - startBlock < fuel →
        queryEvents provider eventFilter startBlock endBlock blocksPerQuery fuel = some events ∧
        queriedRanges startBlock (lastBlock provider endBlock) blocksPerQuery fuel =
          some ranges := by
  have enough := Nat.lt_succ_self (lastBlock provider endBlock - startBlock)
  generalize last_ : lastBlock provider endBlock = toBlock at ordered enough ⊢
  refine ⟨onPages (provider.matching eventFilter) toBlock blocksPerQuery _ startBlock,
    pages toBlock blocksPerQuery (toBlock - startBlock).succ startBlock,
    ⟨onPages_iff positive ordered enough, ?_⟩, ?_⟩
  · have ranges := @onPages_iff _ _ _ _ _ (fun block => [block]) positive ordered enough
    simp only [onPages, inInterval_blocks, List.cons_ne_nil, imp_false] at ranges
    rw [ranges]
    exact misread_none positive ordered
  · intro fuel room
    have same := pages_enough positive room enough
    constructor
    · rw [queryEvents, last_, queryLoop_eq _ positive room, same]
      rfl
    · rw [queriedRanges, queryLoop_eq _ positive room, same, List.nil_append,
        List.flatMap_singleton']

def meetingProvider : Provider where
  getBlockNumber := 20
  logs := fun block => if block = 10 then [⟨0xc0, [], []⟩] else []

theorem event_queries_meeting : ∃ events ranges,
    Queries meetingProvider ⟨0xc0, []⟩ 0 20 10 events ranges ∧
      queryEvents meetingProvider ⟨0xc0, []⟩ 0 none 10 21 = some events := by
  obtain ⟨events, ranges, queries, loops⟩ :=
    event_queries meetingProvider ⟨0xc0, []⟩ 0 none 10 (by decide) (by decide)
  exact ⟨events, ranges, queries, (loops 21 (by decide)).1⟩

/-- An event that is returned twice, and one that is not returned. -/
theorem meeting_misread :
    ¬(∀ provider eventFilter startBlock toBlock blocksPerQuery fuel events, startBlock < toBlock →
      1 ≤ blocksPerQuery →
        queryEvents provider eventFilter startBlock (some toBlock) blocksPerQuery fuel =
          some events → events = provider.getLogs eventFilter startBlock toBlock) ∧
    ¬∀ provider eventFilter block blocksPerQuery fuel events, 1 ≤ blocksPerQuery →
        queryEvents provider eventFilter block (some block) blocksPerQuery fuel = some events →
          events = provider.getLogs eventFilter block block := by
  constructor
  · intro claimed
    have twice := claimed meetingProvider ⟨0xc0, []⟩ 0 20 10 21 _ (by decide) (by decide) rfl
    exact absurd twice (by decide)
  · intro claimed
    have missed := claimed meetingProvider ⟨0xc0, []⟩ 10 1 21 _ (by decide) rfl
    exact absurd missed (by decide)

end Queries

end Startrail.Client.EventQueries
