import QuantaWatch.Crypto.MerkleProof
import QuantaWatch.Lib.Collections
import QuantaWatch.Lib.Doubling

/-!
What a Merkle root says about the leaves.
-/

namespace QuantaWatch.Crypto.MerkleTree

open Lib Lib.Encoding

def completion (leaves : List Digest) : List Digest := Doubling.fill (height leaves) leaves

variable (platform : Platform)

def leavesOf (texts : List Bytes) : List Digest := texts.map platform.sha3_256

def nodeText (pair : Digest × Digest) : Bytes := pair.1.bytes ++ pair.2.bytes

def hashedTexts (texts : List Bytes) : List Bytes :=
  texts ++ (List.range (height (leavesOf platform texts))).flatMap fun number =>
    (pairs (level platform (leavesOf platform texts) number)).map nodeText

variable {platform}

theorem pairs_eq (nodes : List Digest) : pairs nodes = Doubling.pairs nodes := by
  fun_induction pairs nodes with
  | case1 => rfl
  | case2 last => rfl
  | case3 left right rest ih => rw [ih, Doubling.pairs]

theorem nextLevel_eq (nodes : List Digest) : nextLevel platform nodes =
      (Doubling.pairs nodes).map fun pair => platform.sha3_256 (nodeText pair) := by
  rw [nextLevel_eq_map, pairs_eq]
  rfl

theorem level_succ (leaves : List Digest) (number : Nat) :
    level platform leaves (number + 1) = nextLevel platform (level platform leaves number) :=
  Function.iterate_succ_apply' _ _ _

theorem nextLevel_unpair (values : List (Digest × Digest)) :
    nextLevel platform (Doubling.unpair values) =
      values.map fun pair => platform.sha3_256 (nodeText pair) := by
  induction values with
  | nil => rfl
  | cons pair rest ih =>
    show combine platform pair.1 pair.2 :: nextLevel platform (Doubling.unpair rest) = _
    rw [ih]
    rfl

theorem level_fill (number : Nat) (nodes : List Digest) :
    level platform (Doubling.fill number nodes) number = level platform nodes number := by
  induction number generalizing nodes with
  | zero => rfl
  | succ number ih =>
    have below : nextLevel platform (Doubling.fill (number + 1) nodes) =
        Doubling.fill number (nextLevel platform nodes) := by
      rw [Doubling.fill_succ, nextLevel_unpair, nextLevel_eq, Doubling.fill_map]
    rw [level, level, Function.iterate_succ_apply, Function.iterate_succ_apply, below]
    exact ih _

theorem length_completion {leaves : List Digest} (nonempty : leaves ≠ []) :
    (completion leaves).length = 2 ^ height leaves :=
  Doubling.length_fill nonempty (Nat.le_pow_clog (by omega) _)

variable {left right : List Digest}

theorem height_eq_of_completion (leftNonempty : left ≠ []) (rightNonempty : right ≠ [])
    (same : completion left = completion right) : height left = height right := by
  have lengths := length_completion leftNonempty
  rw [same, length_completion rightNonempty] at lengths
  exact (Nat.pow_right_injective (le_refl 2) lengths).symm

theorem eq_of_completion_of_nodup (leftNonempty : left ≠ []) (rightNonempty : right ≠ [])
    (leftNodup : left.Nodup) (rightNodup : right.Nodup)
    (same : completion left = completion right) : left = right := by
  have heights := height_eq_of_completion leftNonempty rightNonempty same
  rw [completion, completion, heights] at same
  exact Doubling.fill_inj_of_nodup leftNodup rightNodup same

theorem computeRoot_of_completion (same : completion left = completion right) :
    computeRoot platform left = computeRoot platform right := by
  by_cases leftEmpty : left = []
  · subst leftEmpty
    have none : completion right = [] := same.symm
    by_cases rightEmpty : right = []
    · rw [rightEmpty]
    · have length := length_completion rightEmpty
      rw [none, List.length_nil] at length
      exact absurd length.symm (Nat.two_pow_pos _).ne'
  · have leftLength := length_completion leftEmpty
    have rightEmpty : right ≠ [] := by
      rintro rfl
      have none : completion left = [] := same
      rw [none, List.length_nil] at leftLength
      exact absurd leftLength.symm (Nat.two_pow_pos _).ne'
    have heights := height_eq_of_completion leftEmpty rightEmpty same
    have roots : [computeRoot platform left] = [computeRoot platform right] := by
      rw [← level_height leftEmpty, ← level_height rightEmpty, ← level_fill,
        ← level_fill (height right)]
      rw [completion, completion] at same
      rw [same, heights]
    exact (List.cons.inj roots).1

section Texts

variable {left right texts : List Bytes}

theorem nodeText_injective : Function.Injective nodeText := by
  intro one two same
  have parts := eq_of_append_eq same
  exact Prod.ext parts.1 parts.2

theorem length_nodeText (pair : Digest × Digest) : (nodeText pair).length = 64 := by
  rw [nodeText, List.length_append, pair.1.length_eq, pair.2.length_eq]

theorem nodeText_mem {number : Nat} (below : number < height (leavesOf platform texts))
    {pair : Digest × Digest}
    (isPair : pair ∈ Doubling.pairs (level platform (leavesOf platform texts) number)) :
    nodeText pair ∈ hashedTexts platform texts := by
  rw [← pairs_eq] at isPair
  exact List.mem_append_right _ (List.mem_flatMap.mpr
    ⟨number, List.mem_range.mpr below, List.mem_map_of_mem isPair⟩)

theorem exists_text_of_computeRoot (nonempty : leavesOf platform texts ≠ []) :
    ∃ text ∈ hashedTexts platform texts,
      platform.sha3_256 text = computeRoot platform (leavesOf platform texts) ∧
        (text ∈ texts ∨ text.length = 64) := by
  have isRoot : computeRoot platform (leavesOf platform texts) ∈
      level platform (leavesOf platform texts) (height (leavesOf platform texts)) := by
    rw [level_height nonempty]
    exact List.mem_singleton_self _
  cases top : height (leavesOf platform texts) with
  | zero =>
    rw [top] at isRoot
    obtain ⟨text, isText, hashes⟩ := List.mem_map.mp isRoot
    exact ⟨text, List.mem_append_left _ isText, hashes, .inl isText⟩
  | succ number =>
    rw [top] at isRoot
    obtain ⟨pair, isPair, hashes⟩ := mem_level_succ isRoot
    rw [pairs_eq] at isPair
    exact ⟨nodeText pair, nodeText_mem (by omega) isPair, hashes, .inr (length_nodeText pair)⟩

theorem fill_level_below (collisionFree : CollisionFree platform
      (hashedTexts platform left ++ hashedTexts platform right))
    {levels leftNumber rightNumber : Nat}
    (leftBelow : leftNumber < height (leavesOf platform left))
    (rightBelow : rightNumber < height (leavesOf platform right))
    (same : Doubling.fill levels (level platform (leavesOf platform left) (leftNumber + 1)) =
      Doubling.fill levels (level platform (leavesOf platform right) (rightNumber + 1))) :
    Doubling.fill (levels + 1) (level platform (leavesOf platform left) leftNumber) =
      Doubling.fill (levels + 1) (level platform (leavesOf platform right) rightNumber) := by
  rw [level_succ, level_succ, nextLevel_eq, nextLevel_eq, Doubling.fill_map,
    Doubling.fill_map] at same
  rw [Doubling.fill_succ, Doubling.fill_succ]
  congr 1
  -- the hash tells the pairs of the two levels apart
  refine Collections.eq_of_map_eq (fun one isLeft two isRight hashes => ?_) same
  apply nodeText_injective
  exact collisionFree _
    (List.mem_append_left _ (nodeText_mem leftBelow (Doubling.mem_of_mem_fill isLeft))) _
    (List.mem_append_right _ (nodeText_mem rightBelow (Doubling.mem_of_mem_fill isRight))) hashes

theorem fill_level_of_computeRoot (collisionFree : CollisionFree platform
      (hashedTexts platform left ++ hashedTexts platform right))
    (leftNonempty : leavesOf platform left ≠ []) (rightNonempty : leavesOf platform right ≠ [])
    (roots : computeRoot platform (leavesOf platform left) =
      computeRoot platform (leavesOf platform right))
    {levels : Nat} (leftLevels : levels ≤ height (leavesOf platform left))
    (rightLevels : levels ≤ height (leavesOf platform right)) :
    Doubling.fill levels (level platform (leavesOf platform left)
        (height (leavesOf platform left) - levels)) =
      Doubling.fill levels (level platform (leavesOf platform right)
        (height (leavesOf platform right) - levels)) := by
  induction levels with
  | zero =>
    rw [Nat.sub_zero, Nat.sub_zero, level_height leftNonempty, level_height rightNonempty, roots]
  | succ levels ih =>
    have above := ih (by omega) (by omega)
    have leftNext : height (leavesOf platform left) - levels =
        height (leavesOf platform left) - (levels + 1) + 1 := by omega
    have rightNext : height (leavesOf platform right) - levels =
        height (leavesOf platform right) - (levels + 1) + 1 := by omega
    rw [leftNext, rightNext] at above
    exact fill_level_below collisionFree (by omega) (by omega) above

theorem height_le_of_computeRoot (collisionFree : CollisionFree platform
      (hashedTexts platform left ++ hashedTexts platform right))
    (leftLeaves : ∀ text ∈ left, text.length ≠ 64)
    (leftNonempty : leavesOf platform left ≠ []) (rightNonempty : leavesOf platform right ≠ [])
    (roots : computeRoot platform (leavesOf platform left) =
      computeRoot platform (leavesOf platform right)) :
    height (leavesOf platform right) ≤ height (leavesOf platform left) := by
  by_contra taller
  have bottom := fill_level_of_computeRoot collisionFree leftNonempty rightNonempty roots
    (le_refl (height (leavesOf platform left))) (by omega)
  rw [Nat.sub_self] at bottom
  have filled : (completion (leavesOf platform left)).length ≠ 0 := by
    rw [length_completion leftNonempty]
    exact (Nat.two_pow_pos _).ne'
  obtain ⟨leaf, member⟩ := List.exists_mem_of_ne_nil (completion (leavesOf platform left))
    fun empty => filled (by rw [empty, List.length_nil])
  obtain ⟨text, isText, hashes⟩ := List.mem_map.mp (Doubling.mem_of_mem_fill member)
  have isNode : leaf ∈ Doubling.fill (height (leavesOf platform left))
      (level platform (leavesOf platform right)
        (height (leavesOf platform right) - height (leavesOf platform left))) := bottom ▸ member
  have above : height (leavesOf platform right) - height (leavesOf platform left) =
      height (leavesOf platform right) - height (leavesOf platform left) - 1 + 1 := by omega
  rw [above] at isNode
  obtain ⟨pair, isPair, pairHashes⟩ := mem_level_succ (Doubling.mem_of_mem_fill isNode)
  rw [pairs_eq] at isPair
  have sameText : text = nodeText pair :=
    collisionFree _ (List.mem_append_left _ (List.mem_append_left _ isText)) _
      (List.mem_append_right _ (nodeText_mem (by omega) isPair)) (hashes.trans pairHashes.symm)
  exact leftLeaves text isText (sameText ▸ length_nodeText pair)

theorem completion_of_computeRoot (collisionFree : CollisionFree platform
      (hashedTexts platform left ++ hashedTexts platform right))
    (leftLeaves : ∀ text ∈ left, text.length ≠ 64) (rightLeaves : ∀ text ∈ right, text.length ≠ 64)
    (leftNonempty : leavesOf platform left ≠ []) (rightNonempty : leavesOf platform right ≠ [])
    (roots : computeRoot platform (leavesOf platform left) =
      computeRoot platform (leavesOf platform right)) :
    completion (leavesOf platform left) = completion (leavesOf platform right) := by
  have swapped : CollisionFree platform
      (hashedTexts platform right ++ hashedTexts platform left) :=
    fun one oneHashed two twoHashed => collisionFree
      one (List.mem_append.mpr (List.mem_append.mp oneHashed).symm)
      two (List.mem_append.mpr (List.mem_append.mp twoHashed).symm)
  have heights : height (leavesOf platform left) = height (leavesOf platform right) :=
    Nat.le_antisymm
      (height_le_of_computeRoot swapped rightLeaves rightNonempty leftNonempty roots.symm)
      (height_le_of_computeRoot collisionFree leftLeaves leftNonempty rightNonempty roots)
  have bottom := fill_level_of_computeRoot collisionFree leftNonempty rightNonempty roots
    (le_refl (height (leavesOf platform left))) heights.le
  rw [Nat.sub_self, ← heights, Nat.sub_self] at bottom
  rw [completion, completion, ← heights]
  exact bottom

end Texts

/-- Roots are equal exactly when the leaves are once their odd nodes are doubled, or when
both roots are that of no leaves. Lists of one length are then equal. -/
theorem computeRoot_eq_iff {left right : List Bytes}
    (collisionFree : CollisionFree platform
      (hashedTexts platform left ++ hashedTexts platform right))
    (leftLeaves : ∀ text ∈ left, text.length ≠ 64)
    (rightLeaves : ∀ text ∈ right, text.length ≠ 64) :
    (computeRoot platform (leavesOf platform left) =
        computeRoot platform (leavesOf platform right) ↔
      completion (leavesOf platform left) = completion (leavesOf platform right) ∨
        (left = [] ∨ right = []) ∧ computeRoot platform (leavesOf platform left) = emptyRoot ∧
          computeRoot platform (leavesOf platform right) = emptyRoot) ∧
      (left.length = right.length → computeRoot platform (leavesOf platform left) =
        computeRoot platform (leavesOf platform right) →
        leavesOf platform left = leavesOf platform right) := by
  have committed : computeRoot platform (leavesOf platform left) =
      computeRoot platform (leavesOf platform right) → left ≠ [] → right ≠ [] →
      completion (leavesOf platform left) = completion (leavesOf platform right) := by
    intro roots leftNonempty rightNonempty
    exact completion_of_computeRoot collisionFree leftLeaves rightLeaves
      (fun empty => leftNonempty (List.map_eq_nil_iff.mp empty))
      (fun empty => rightNonempty (List.map_eq_nil_iff.mp empty)) roots
  refine ⟨⟨fun roots => ?_, ?_⟩, fun lengths roots => ?_⟩
  · by_cases leftEmpty : left = []
    · refine .inr ⟨.inl leftEmpty, ?_⟩
      rw [← roots, leftEmpty]
      exact ⟨rfl, rfl⟩
    · by_cases rightEmpty : right = []
      · refine .inr ⟨.inr rightEmpty, ?_⟩
        rw [roots, rightEmpty]
        exact ⟨rfl, rfl⟩
      · exact .inl (committed roots leftEmpty rightEmpty)
  · rintro (same | ⟨_, leftRoot, rightRoot⟩)
    · exact computeRoot_of_completion same
    · rw [leftRoot, rightRoot]
  · by_cases leftEmpty : left = []
    · rw [leftEmpty] at lengths
      rw [leftEmpty, List.length_eq_zero_iff.mp lengths.symm]
    · have rightEmpty : right ≠ [] := by
        rintro rfl
        exact leftEmpty (List.length_eq_zero_iff.mp lengths)
      have leaves : (leavesOf platform left).length = (leavesOf platform right).length := by
        rw [leavesOf, leavesOf, List.length_map, List.length_map, lengths]
      have same := committed roots leftEmpty rightEmpty
      rw [completion, completion, height, height, leaves] at same
      exact Doubling.fill_inj_of_length leaves same

def threeTexts : List Bytes := [[1], [2], [3]]

def fourTexts : List Bytes := [[1], [2], [3], [3]]

theorem computeRoot_doubled_leaf :
    CollisionFree samplePlatform
        (hashedTexts samplePlatform threeTexts ++ hashedTexts samplePlatform fourTexts) ∧
      (∀ text ∈ threeTexts ++ fourTexts, text.length ≠ 64) ∧
      computeRoot samplePlatform (leavesOf samplePlatform threeTexts) =
        computeRoot samplePlatform (leavesOf samplePlatform fourTexts) ∧
      leavesOf samplePlatform threeTexts ≠ leavesOf samplePlatform fourTexts := by
  refine ⟨?_, ?_, ?_, ?_⟩ <;> decide +kernel

theorem computeRoot_eq_iff_doubled :
    (computeRoot samplePlatform (leavesOf samplePlatform threeTexts) =
        computeRoot samplePlatform (leavesOf samplePlatform fourTexts) ↔
      completion (leavesOf samplePlatform threeTexts) =
          completion (leavesOf samplePlatform fourTexts) ∨
        (threeTexts = [] ∨ fourTexts = []) ∧
          computeRoot samplePlatform (leavesOf samplePlatform threeTexts) = emptyRoot ∧
          computeRoot samplePlatform (leavesOf samplePlatform fourTexts) = emptyRoot) ∧
      (threeTexts.length = fourTexts.length →
        computeRoot samplePlatform (leavesOf samplePlatform threeTexts) =
          computeRoot samplePlatform (leavesOf samplePlatform fourTexts) →
        leavesOf samplePlatform threeTexts = leavesOf samplePlatform fourTexts) :=
  computeRoot_eq_iff (by decide +kernel) (by decide) (by decide)

end QuantaWatch.Crypto.MerkleTree
