import QuantaWatch.Audit.Checkpoint
import QuantaWatch.Crypto.MerkleRoot
import QuantaWatch.Lib.Text

/-!
What the Merkle root of a checkpoint says about the tips.
-/

namespace QuantaWatch.Audit

open Crypto Lib Lib.Collections Lib.Encoding

def IsContentHash (text : String) : Prop :=
  text.toList.length = 64 ∧ ∀ char ∈ text.toList, char ∈ "0123456789abcdef".toList

structure WellFormedTips (tips : List WriterTip) : Prop where
  distinct : (tips.map WriterTip.writerId).Nodup
  hashes : ∀ tip ∈ tips, IsContentHash tip.contentHash

namespace WriterTip

def text (tip : WriterTip) : Bytes :=
  utf8 (tip.writerId ++ ":" ++ toString tip.seq.toNat ++ ":" ++ tip.contentHash)

theorem toList_text (tip : WriterTip) :
    (tip.writerId ++ ":" ++ toString tip.seq.toNat ++ ":" ++ tip.contentHash).toList =
      (tip.writerId.toList ++ ':' :: Nat.toDigits 10 tip.seq.toNat) ++
        ':' :: tip.contentHash.toList := by
  simp [String.toList_append]

theorem colon_notMem_contentHash {tip : WriterTip} (isHash : IsContentHash tip.contentHash) :
    ':' ∉ tip.contentHash.toList := by
  intro member
  have isDigit := isHash.2 _ member
  simp at isDigit

theorem text_inj {left right : WriterTip} (leftHash : IsContentHash left.contentHash)
    (rightHash : IsContentHash right.contentHash) (same : left.text = right.text) :
    left = right := by
  have chars := congrArg String.toList (utf8_injective same)
  rw [toList_text, toList_text, Text.append_lastSeparator_inj (colon_notMem_contentHash leftHash)
    (colon_notMem_contentHash rightHash), Text.append_lastSeparator_inj
    (Text.notMem_toDigits (by decide) _) (Text.notMem_toDigits (by decide) _),
    Text.toDigits_inj, UInt64.toNat_inj, String.toList_inj, String.toList_inj] at chars
  cases left
  cases right
  simp_all

theorem length_le_length_utf8Chars (text : List Char) : text.length ≤ (utf8Chars text).length := by
  induction text with
  | nil => exact Nat.zero_le _
  | cons char text ih =>
    have step : utf8Chars (char :: text) = String.utf8EncodeChar char ++ utf8Chars text := rfl
    have positive := Char.utf8Size_pos char
    rw [step, List.length_append, String.length_utf8EncodeChar, List.length_cons]
    omega

theorem length_text {tip : WriterTip} (isHash : IsContentHash tip.contentHash) :
    64 < tip.text.length := by
  have long := length_le_length_utf8Chars
    (tip.writerId ++ ":" ++ toString tip.seq.toNat ++ ":" ++ tip.contentHash).toList
  rw [toList_text, List.length_append, List.length_append, List.length_cons, List.length_cons,
    isHash.1] at long
  have bytes : tip.text = utf8Chars ((tip.writerId.toList ++ ':' ::
      Nat.toDigits 10 tip.seq.toNat) ++ ':' :: tip.contentHash.toList) := by
    rw [← toList_text]
    rfl
  rw [bytes]
  omega

end WriterTip

namespace AuditCheckpoint

variable (platform : Platform)

def emptyText : Bytes := utf8 "quantawatch-audit-empty-checkpoint"

def sortedTexts (tips : List WriterTip) : List Bytes :=
  (sortOn WriterTip.writerId tips).map WriterTip.text

def rootTexts (tips : List WriterTip) : List Bytes :=
  emptyText :: MerkleTree.hashedTexts platform (sortedTexts tips)

variable {platform} {left right tips : List WriterTip}

theorem merkleRootOf_eq (tips : List WriterTip) : merkleRootOf platform tips =
      if tips = [] then hexEncode (platform.sha3_256 emptyText).bytes
      else hexEncode (MerkleTree.computeRoot platform
        (MerkleTree.leavesOf platform (sortedTexts tips))).bytes := by
  have leaves : (sortOn WriterTip.writerId tips).map (leaf platform) =
      MerkleTree.leavesOf platform (sortedTexts tips) := by
    rw [MerkleTree.leavesOf, sortedTexts, List.map_map]
    rfl
  have empty : MerkleTree.leavesOf platform (sortedTexts tips) = [] ↔ tips = [] := by
    rw [← leaves, List.map_eq_nil_iff]
    constructor
    · intro none
      have perm := sortOn_perm WriterTip.writerId tips
      rw [none] at perm
      exact perm.symm.eq_nil
    · rintro rfl
      rfl
  simp only [merkleRootOf, leaves, empty]
  rfl

theorem sortOn_eq_of_tips_perm (distinct : (left.map WriterTip.writerId).Nodup)
    (perm : left.Perm right) :
    sortOn WriterTip.writerId left = sortOn WriterTip.writerId right := by
  have sorted := sortOn_sorted WriterTip.writerId left
  have apart : (sortOn WriterTip.writerId left).Pairwise fun one two =>
      one.writerId ≠ two.writerId :=
    List.pairwise_map.mp (((sortOn_perm WriterTip.writerId left).map _).nodup_iff.mpr distinct)
  have increasing := sorted.imp₂ (fun one two le ne => lt_of_le_of_ne le ne) apart
  exact (sortOn_eq_of_perm ((sortOn_perm _ _).trans perm) increasing).symm

theorem leavesOf_sortedTexts_ne_nil (nonempty : tips ≠ []) :
    MerkleTree.leavesOf platform (sortedTexts tips) ≠ [] := by
  intro none
  have perm := sortOn_perm WriterTip.writerId tips
  rw [List.map_eq_nil_iff.mp (List.map_eq_nil_iff.mp none)] at perm
  exact nonempty perm.symm.eq_nil

variable (wellFormed : WellFormedTips tips)

include wellFormed

theorem exists_tip_of_mem_sortedTexts {text : Bytes} (member : text ∈ sortedTexts tips) :
    ∃ tip ∈ tips, IsContentHash tip.contentHash ∧ tip.text = text := by
  obtain ⟨tip, isTip, rfl⟩ := List.mem_map.mp member
  have isMember := mem_sortOn.mp isTip
  exact ⟨tip, isMember, wellFormed.hashes tip isMember, rfl⟩

theorem length_ne_of_mem_sortedTexts {text : Bytes} (member : text ∈ sortedTexts tips) :
    text.length ≠ 64 ∧ text ≠ emptyText := by
  obtain ⟨tip, _, isHash, rfl⟩ := exists_tip_of_mem_sortedTexts wellFormed member
  have long := WriterTip.length_text isHash
  refine ⟨by omega, fun same => ?_⟩
  have short : emptyText.length = 34 := by decide +kernel
  rw [same, short] at long
  omega

theorem computeRoot_ne_emptyText (nonempty : tips ≠ [])
    (collisionFree : CollisionFree platform (rootTexts platform tips)) :
    MerkleTree.computeRoot platform (MerkleTree.leavesOf platform (sortedTexts tips)) ≠
      platform.sha3_256 emptyText := by
  intro same
  obtain ⟨text, hashed, isRoot, kind⟩ := MerkleTree.exists_text_of_computeRoot
    (@leavesOf_sortedTexts_ne_nil platform _ nonempty)
  have isEmptyText : text = emptyText :=
    collisionFree text (List.mem_cons_of_mem _ hashed) emptyText List.mem_cons_self
      (isRoot.trans same)
  rcases kind with isTip | isNode
  · exact (length_ne_of_mem_sortedTexts wellFormed isTip).2 isEmptyText
  · have short : emptyText.length = 34 := by decide +kernel
    rw [isEmptyText, short] at isNode
    omega

theorem nodup_leavesOf_sortedTexts
    (collisionFree : CollisionFree platform (rootTexts platform tips)) :
    (MerkleTree.leavesOf platform (sortedTexts tips)).Nodup := by
  have tipsNodup : (sortOn WriterTip.writerId tips).Nodup :=
    (sortOn_perm _ _).nodup_iff.mpr wellFormed.distinct.of_map
  have textsNodup : (sortedTexts tips).Nodup := by
    refine List.Nodup.map_on (fun one isOne two isTwo same => ?_) tipsNodup
    exact WriterTip.text_inj (wellFormed.hashes one (mem_sortOn.mp isOne))
      (wellFormed.hashes two (mem_sortOn.mp isTwo)) same
  refine List.Nodup.map_on (fun one isOne two isTwo same => ?_) textsNodup
  exact collisionFree one (List.mem_cons_of_mem _ (List.mem_append_left _ isOne)) two
    (List.mem_cons_of_mem _ (List.mem_append_left _ isTwo)) same

omit wellFormed

theorem sortOn_eq_of_computeRoot
    (collisionFree : CollisionFree platform (rootTexts platform left ++ rootTexts platform right))
    (leftTips : WellFormedTips left) (rightTips : WellFormedTips right) (leftNonempty : left ≠ [])
    (rightNonempty : right ≠ [])
    (roots : MerkleTree.computeRoot platform (MerkleTree.leavesOf platform (sortedTexts left)) =
      MerkleTree.computeRoot platform (MerkleTree.leavesOf platform (sortedTexts right))) :
    sortOn WriterTip.writerId left = sortOn WriterTip.writerId right := by
  have leftFree : CollisionFree platform (rootTexts platform left) :=
    fun one isOne two isTwo => collisionFree one (List.mem_append_left _ isOne) two
      (List.mem_append_left _ isTwo)
  have rightFree : CollisionFree platform (rootTexts platform right) :=
    fun one isOne two isTwo => collisionFree one (List.mem_append_right _ isOne) two
      (List.mem_append_right _ isTwo)
  have treesFree : CollisionFree platform (MerkleTree.hashedTexts platform (sortedTexts left) ++
      MerkleTree.hashedTexts platform (sortedTexts right)) := by
    intro one isOne two isTwo
    refine collisionFree one ?_ two ?_
    · exact List.mem_append.mpr ((List.mem_append.mp isOne).imp (List.mem_cons_of_mem _)
        (List.mem_cons_of_mem _))
    · exact List.mem_append.mpr ((List.mem_append.mp isTwo).imp (List.mem_cons_of_mem _)
        (List.mem_cons_of_mem _))
  have leaves : MerkleTree.leavesOf platform (sortedTexts left) =
      MerkleTree.leavesOf platform (sortedTexts right) :=
    MerkleTree.eq_of_completion_of_nodup (leavesOf_sortedTexts_ne_nil leftNonempty)
      (leavesOf_sortedTexts_ne_nil rightNonempty) (nodup_leavesOf_sortedTexts leftTips leftFree)
      (nodup_leavesOf_sortedTexts rightTips rightFree)
      (MerkleTree.completion_of_computeRoot treesFree
        (fun text member => (length_ne_of_mem_sortedTexts leftTips member).1)
        (fun text member => (length_ne_of_mem_sortedTexts rightTips member).1)
        (leavesOf_sortedTexts_ne_nil leftNonempty) (leavesOf_sortedTexts_ne_nil rightNonempty)
        roots)
  have texts : sortedTexts left = sortedTexts right := by
    refine Collections.eq_of_map_eq (fun one isOne two isTwo same => ?_) leaves
    exact treesFree one (List.mem_append_left _ (List.mem_append_left _ isOne)) two
      (List.mem_append_right _ (List.mem_append_left _ isTwo)) same
  refine Collections.eq_of_map_eq (fun one isOne two isTwo same => ?_) texts
  exact WriterTip.text_inj (leftTips.hashes one (mem_sortOn.mp isOne))
    (rightTips.hashes two (mem_sortOn.mp isTwo)) same

theorem merkleRootOf_eq_iff_perm
    (collisionFree : CollisionFree platform (rootTexts platform left ++ rootTexts platform right))
    (leftTips : WellFormedTips left) (rightTips : WellFormedTips right) :
    merkleRootOf platform left = merkleRootOf platform right ↔ left.Perm right := by
  constructor
  · intro roots
    rw [merkleRootOf_eq, merkleRootOf_eq] at roots
    by_cases leftEmpty : left = [] <;> by_cases rightEmpty : right = []
    · rw [leftEmpty, rightEmpty]
    · rw [if_pos leftEmpty, if_neg rightEmpty] at roots
      have same := Digest.bytes_injective (hexEncode_injective roots)
      refine absurd same.symm (computeRoot_ne_emptyText rightTips rightEmpty ?_)
      exact fun one isOne two isTwo => collisionFree one (List.mem_append_right _ isOne) two
        (List.mem_append_right _ isTwo)
    · rw [if_neg leftEmpty, if_pos rightEmpty] at roots
      have same := Digest.bytes_injective (hexEncode_injective roots)
      refine absurd same (computeRoot_ne_emptyText leftTips leftEmpty ?_)
      exact fun one isOne two isTwo => collisionFree one (List.mem_append_left _ isOne) two
        (List.mem_append_left _ isTwo)
    · rw [if_neg leftEmpty, if_neg rightEmpty] at roots
      have same := Digest.bytes_injective (hexEncode_injective roots)
      have sorted := sortOn_eq_of_computeRoot collisionFree leftTips rightTips leftEmpty rightEmpty
        same
      exact ((sortOn_perm WriterTip.writerId left).symm.trans (sorted ▸ List.Perm.refl _)).trans
        (sortOn_perm WriterTip.writerId right)
  · intro perm
    rw [merkleRootOf, merkleRootOf, sortOn_eq_of_tips_perm leftTips.distinct perm]

def sampleTip (writer : String) (digit : Char) : WriterTip :=
  ⟨writer, 0, String.ofList (List.replicate 64 digit)⟩

theorem merkleRootOf_eq_iff_perm_swapped :
    merkleRootOf samplePlatform [sampleTip "a:1" 'a', sampleTip "b" 'b', sampleTip "c" 'c'] =
        merkleRootOf samplePlatform [sampleTip "c" 'c', sampleTip "a:1" 'a', sampleTip "b" 'b'] ↔
      [sampleTip "a:1" 'a', sampleTip "b" 'b', sampleTip "c" 'c'].Perm
        [sampleTip "c" 'c', sampleTip "a:1" 'a', sampleTip "b" 'b'] :=
  merkleRootOf_eq_iff_perm (by decide +kernel)
    ⟨by decide +kernel, by simp [sampleTip, IsContentHash]⟩
    ⟨by decide +kernel, by simp [sampleTip, IsContentHash]⟩

end AuditCheckpoint

end QuantaWatch.Audit
