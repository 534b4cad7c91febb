import Mathlib.Data.List.Basic

/-!
Hash trees. A tree commits to the digests at its leaves: whoever climbs from a digest to the root
along siblings of his choice started at a digest of the tree, unless two different strings with one
hash turn up, or a leaf of the tree is itself the hash of two digests. Trees are built level by
level, and the siblings of a leaf are then one for each level that has one.
-/

namespace Startrail

variable {D M A B : Type}

inductive HashTree (D : Type) where
  | leaf (digest : D)
  | node (left right : HashTree D)

namespace HashTree

def leaves : HashTree D → List D
  | leaf digest => [digest]
  | node left right => left.leaves ++ right.leaves

section Hashing

variable (hash : M → D) (join : D → D → M)

def root : HashTree D → D
  | leaf digest => digest
  | node left right => hash (join left.root right.root)

def digests : HashTree D → List D
  | leaf digest => [digest]
  | node left right =>
      (node left right).root hash join :: (left.digests ++ right.digests)

/-- The strings that are hashed to build the tree. -/
def joined : HashTree D → List M
  | leaf _ => []
  | node left right =>
      join (left.root hash join) (right.root hash join) :: (left.joined ++ right.joined)

def climb (siblings : List D) (digest : D) : D :=
  siblings.foldl (fun digest sibling => hash (join digest sibling)) digest

/-- The strings that are hashed on the way. -/
def climbed : List D → D → List M
  | [], _ => []
  | sibling :: siblings, digest =>
      join digest sibling :: climbed siblings (hash (join digest sibling))

end Hashing

variable {hash : M → D} {join : D → D → M} {tree : HashTree D} {digest : D} {siblings : List D}

theorem root_mem_digests : tree.root hash join ∈ tree.digests hash join := by
  cases tree <;> exact List.mem_cons_self

/-- A digest of the tree is at a leaf or the hash of two digests of the tree. -/
theorem mem_digests (belongs : digest ∈ tree.digests hash join) :
    digest ∈ tree.leaves ∨ ∃ left ∈ tree.digests hash join, ∃ right ∈ tree.digests hash join,
      digest = hash (join left right) ∧ join left right ∈ tree.joined hash join := by
  induction tree with
  | leaf _ => exact Or.inl belongs
  | node left right ihLeft ihRight =>
      have inLeft : ∀ other ∈ left.digests hash join,
          other ∈ (node left right).digests hash join := fun other inside =>
        List.mem_cons_of_mem _ (List.mem_append_left _ inside)
      have inRight : ∀ other ∈ right.digests hash join,
          other ∈ (node left right).digests hash join := fun other inside =>
        List.mem_cons_of_mem _ (List.mem_append_right _ inside)
      rcases List.mem_cons.mp belongs with rfl | below
      · exact Or.inr ⟨_, inLeft _ root_mem_digests, _, inRight _ root_mem_digests, rfl,
          List.mem_cons_self⟩
      · rcases List.mem_append.mp below with inside | inside
        · rcases ihLeft inside with final | ⟨first, firstIn, second, secondIn, same, string⟩
          · exact Or.inl (List.mem_append_left _ final)
          · exact Or.inr ⟨first, inLeft _ firstIn, second, inLeft _ secondIn, same,
              List.mem_cons_of_mem _ (List.mem_append_left _ string)⟩
        · rcases ihRight inside with final | ⟨first, firstIn, second, secondIn, same, string⟩
          · exact Or.inl (List.mem_append_right _ final)
          · exact Or.inr ⟨first, inRight _ firstIn, second, inRight _ secondIn, same,
              List.mem_cons_of_mem _ (List.mem_append_right _ string)⟩

/-- The induction is on the siblings; what is climbed to first has to be a digest of the tree
itself, as long as no leaf is reached from below. -/
theorem climb_sound
    (parts : ∀ {a b c d : D}, join a b = join c d → a = c ∨ a = d)
    (free : ∀ first ∈ tree.joined hash join ++ climbed hash join siblings digest,
      ∀ second ∈ tree.joined hash join ++ climbed hash join siblings digest,
        hash first = hash second → first = second)
    (reached : climb hash join siblings digest ∈ tree.digests hash join) :
    digest ∈ tree.digests hash join ∨
      ∃ string ∈ climbed hash join siblings digest, hash string ∈ tree.leaves := by
  induction siblings generalizing digest with
  | nil => exact Or.inl reached
  | cons sibling siblings ih =>
      have fewer : ∀ string ∈ tree.joined hash join ++
            climbed hash join siblings (hash (join digest sibling)),
          string ∈ tree.joined hash join ++ climbed hash join (sibling :: siblings) digest := by
        intro string belongs
        rcases List.mem_append.mp belongs with built | later
        · exact List.mem_append_left _ built
        · exact List.mem_append_right _ (List.mem_cons_of_mem _ later)
      have next := ih (fun first firstIn second secondIn =>
        free first (fewer first firstIn) second (fewer second secondIn)) reached
      rcases next with inside | ⟨string, later, final⟩
      · rcases mem_digests inside with final | ⟨left, leftIn, right, rightIn, same, string⟩
        · exact Or.inr ⟨_, List.mem_cons_self, final⟩
        · refine Or.inl ?_
          have strings : join digest sibling = join left right :=
            free _ (List.mem_append_right _ List.mem_cons_self) _
              (List.mem_append_left _ string) same
          rcases parts strings with rfl | rfl
          · exact leftIn
          · exact rightIn
      · exact Or.inr ⟨string, List.mem_cons_of_mem _ later, final⟩

end HashTree

section Levels

variable (combine : A → A → A)

def pairUp : List A → List A
  | [] => []
  | [last] => [last]
  | first :: second :: rest => combine first second :: pairUp rest

theorem length_pairUp (level : List A) :
    (pairUp combine level).length = (level.length + 1) / 2 := by
  induction level using pairUp.induct with
  | case1 => simp [pairUp]
  | case2 last => simp [pairUp]
  | case3 first second rest ih =>
      simp only [pairUp, List.length_cons, ih]
      omega

/-- What is combined on a level. -/
def pairs (join : A → A → B) : List A → List B
  | first :: second :: rest => join first second :: pairs join rest
  | _ => []

def levels (level : List A) : List (List A) :=
  if 1 < level.length then level :: levels (pairUp combine level) else [level]
termination_by level.length
decreasing_by
  rw [length_pairUp]
  omega

def top (level : List A) : Option A := (levels combine level).getLast?.bind List.head?

def siblingAt (level : List A) (index : Nat) : Option A :=
  level[if index % 2 = 0 then index + 1 else index - 1]?

def siblingsOf : List (List A) → Nat → List A
  | [], _ => []
  | level :: levels, index => (siblingAt level index).toList ++ siblingsOf levels (index / 2)

variable {combine} {level : List A} {index : Nat} {value : A}

theorem pairUp_getElem? (comm : ∀ a b, combine a b = combine b a)
    (here : level[index]? = some value) :
    (pairUp combine level)[index / 2]? =
      some ((siblingAt level index).toList.foldl combine value) := by
  induction level using pairUp.induct generalizing index with
  | case1 => cases here
  | case2 last =>
      cases index with
      | zero => exact here
      | succ index => cases here
  | case3 first second rest ih =>
      cases index with
      | zero =>
          cases here
          rfl
      | succ index =>
          cases index with
          | zero =>
              cases here
              exact congrArg some (comm _ _)
          | succ index =>
              have half : (index + 1 + 1) / 2 = index / 2 + 1 := by omega
              have sibling : siblingAt (first :: second :: rest) (index + 1 + 1) =
                  siblingAt rest index := by
                unfold siblingAt
                by_cases even : index % 2 = 0
                · rw [if_pos (by omega), if_pos even]
                  rfl
                · rw [if_neg (by omega), if_neg even,
                    show index + 1 + 1 - 1 = index - 1 + 1 + 1 by omega]
                  rfl
              rw [pairUp, half, sibling]
              exact ih here

theorem top_of_small (small : ¬1 < level.length) : top combine level = level.head? := by
  rw [top, levels, if_neg small]
  rfl

theorem levels_ne_nil : levels combine level ≠ [] := by
  rw [levels]
  split
  · exact List.cons_ne_nil _ _
  · exact List.cons_ne_nil _ _

theorem top_pairUp (large : 1 < level.length) :
    top combine level = top combine (pairUp combine level) := by
  rw [top, levels, if_pos large, List.getLast?_cons_of_ne_nil levels_ne_nil]
  rfl

/-- Every element is an opening of the top along the siblings that the levels have for it. -/
theorem siblings_open (comm : ∀ a b, combine a b = combine b a)
    (here : level[index]? = some value) :
    top combine level = some ((siblingsOf (levels combine level) index).foldl combine value) := by
  induction level using levels.induct combine generalizing index value with
  | case1 level large ih =>
      rw [top_pairUp large, levels, if_pos large, siblingsOf, List.foldl_append]
      exact ih (pairUp_getElem? comm here)
  | case2 level small =>
      have first : index = 0 := by
        have bound := (List.getElem?_eq_some_iff.mp here).1
        omega
      subst first
      have alone : siblingAt level 0 = none := List.getElem?_eq_none (by simpa using small)
      rw [top_of_small small, levels, if_neg small, siblingsOf, alone, List.head?_eq_getElem?]
      exact here

end Levels

section Trees

variable {f : A → B} {combine : A → A → A} {combine' : B → B → B}

theorem pairUp_map (commutes : ∀ a b, f (combine a b) = combine' (f a) (f b)) (level : List A) :
    (pairUp combine level).map f = pairUp combine' (level.map f) := by
  induction level using pairUp.induct with
  | case1 => rfl
  | case2 last => rfl
  | case3 first second rest ih => simp only [pairUp, List.map_cons, commutes, ih]

theorem top_map (commutes : ∀ a b, f (combine a b) = combine' (f a) (f b)) (level : List A) :
    (top combine level).map f = top combine' (level.map f) := by
  induction level using levels.induct combine with
  | case1 level large ih =>
      have large' : 1 < (level.map f).length := by simpa using large
      rw [top_pairUp large, ih, pairUp_map commutes, ← top_pairUp large']
  | case2 level small =>
      rw [top_of_small small, top_of_small (by simpa using small), List.head?_map]

namespace HashTree

theorem leaves_pairUp (level : List (HashTree D)) :
    (pairUp node level).flatMap leaves = level.flatMap leaves := by
  induction level using pairUp.induct with
  | case1 => rfl
  | case2 last => rfl
  | case3 first second rest ih =>
      simp only [pairUp, List.flatMap_cons, leaves, ih, List.append_assoc]

theorem top_leaves {level : List (HashTree D)} (some_ : level ≠ []) :
    ∃ tree, top node level = some tree ∧ tree.leaves = level.flatMap leaves := by
  induction level using levels.induct (@node D) with
  | case1 level large ih =>
      have more : pairUp node level ≠ [] := by
        apply List.ne_nil_of_length_pos
        rw [length_pairUp]
        omega
      obtain ⟨tree, found, same⟩ := ih more
      exact ⟨tree, (top_pairUp large).trans found, same.trans (leaves_pairUp level)⟩
  | case2 level small =>
      cases level with
      | nil => exact absurd rfl some_
      | cons tree rest =>
          have alone : rest = [] := List.length_eq_zero_iff.mp (by
            rw [List.length_cons] at small
            omega)
          subst alone
          exact ⟨tree, top_of_small small, (List.append_nil _).symm⟩

section Strings

variable {hash : M → D} {join : D → D → M} {string : M} {tree : HashTree D}

theorem joined_pairUp (level : List (HashTree D))
    (made : string ∈ (pairUp node level).flatMap (joined hash join)) :
    string ∈ pairs join (level.map (root hash join)) ∨
      string ∈ level.flatMap (joined hash join) := by
  induction level using pairUp.induct with
  | case1 => exact Or.inr made
  | case2 last => exact Or.inr made
  | case3 first second rest ih =>
      rw [pairUp, List.flatMap_cons, joined] at made
      rw [List.flatMap_cons, List.flatMap_cons]
      rcases List.mem_append.mp made with top_ | below
      · rcases List.mem_cons.mp top_ with rfl | inner
        · exact Or.inl List.mem_cons_self
        · refine Or.inr ?_
          rcases List.mem_append.mp inner with left | right
          · exact List.mem_append_left _ left
          · exact List.mem_append_right _ (List.mem_append_left _ right)
      · rcases ih below with paired | earlier
        · exact Or.inl (List.mem_cons_of_mem _ paired)
        · exact Or.inr (List.mem_append_right _ (List.mem_append_right _ earlier))

theorem top_joined {level : List (HashTree D)} (found : top node level = some tree)
    (made : string ∈ tree.joined hash join) :
    string ∈ (levels (fun left right => hash (join left right))
        (level.map (root hash join))).flatMap (pairs join) ∨
      string ∈ level.flatMap (joined hash join) := by
  induction level using levels.induct (@node D) with
  | case1 level large ih =>
      rw [top_pairUp large] at found
      have large' : 1 < (level.map (root hash join)).length := by simpa using large
      have next := ih found
      have mapped := @pairUp_map _ _ (root hash join) node
        (fun left right => hash (join left right)) (fun _ _ => rfl) level
      rw [mapped] at next
      rw [levels, if_pos large', List.flatMap_cons]
      rcases next with above | below
      · exact Or.inl (List.mem_append_right _ above)
      · exact (joined_pairUp level below).imp (List.mem_append_left _) id
  | case2 level small =>
      rw [top_of_small small] at found
      exact Or.inr (List.mem_flatMap.mpr ⟨tree, List.mem_of_mem_head? found, made⟩)

end Strings

/-- The top of the levels over some digests is the root of a tree with these leaves, which hashes
what the levels hash. -/
theorem top_root (hash : M → D) (join : D → D → M) {digests : List D} (some_ : digests ≠ []) :
    ∃ tree : HashTree D, tree.leaves = digests ∧
      top (fun left right => hash (join left right)) digests = some (tree.root hash join) ∧
      ∀ string ∈ tree.joined hash join,
        string ∈ (levels (fun left right => hash (join left right)) digests).flatMap
          (pairs join) := by
  obtain ⟨tree, found, same⟩ := @top_leaves D (digests.map leaf) (by simpa using some_)
  have roots : (digests.map leaf).map (root hash join) = digests := by
    rw [List.map_map]
    exact List.map_id digests
  refine ⟨tree, ?_, ?_, ?_⟩
  · rw [same, List.flatMap_map]
    exact List.flatMap_singleton' digests
  · have mapped := @top_map _ _ (root hash join) node (fun left right => hash (join left right))
      (fun _ _ => rfl) (digests.map leaf)
    rw [found, roots] at mapped
    exact mapped.symm
  · intro string made
    have hashed := top_joined found made
    rw [roots] at hashed
    refine hashed.resolve_right fun inside => ?_
    simp [joined] at inside

end HashTree

end Trees

end Startrail
