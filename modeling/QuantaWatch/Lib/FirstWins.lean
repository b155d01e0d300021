import QuantaWatch.Lib.Collections

/-!
Groups of entries of which the first of each key is kept, and a stable sort of the
values that are kept.
-/

namespace QuantaWatch.Lib.FirstWins

open Lib.Collections

universe u v w x

variable {α : Type u} {κ : Type v} {γ : Type w} [DecidableEq κ]

def fresh (key : α → κ) : List κ → List α → List α
  | _, [] => []
  | seen, entry :: entries =>
    if key entry ∈ seen then fresh key seen entries
    else entry :: fresh key (key entry :: seen) entries

variable {key : α → κ} {seen : List κ} {entries : List α}

variable {entry : α} {other : List κ} {known : κ} {left right : List α} {groups : List (List α)}

theorem mem_of_mem_fresh (member : entry ∈ fresh key seen entries) :
    entry ∈ entries ∧ key entry ∉ seen := by
  induction entries generalizing seen with
  | nil => simp [fresh] at member
  | cons first entries ih =>
    rw [fresh] at member
    split_ifs at member with isSeen
    · have later := ih member
      exact ⟨List.mem_cons_of_mem _ later.1, later.2⟩
    · rcases List.mem_cons.mp member with rfl | isLater
      · exact ⟨List.mem_cons_self, isSeen⟩
      · have later := ih isLater
        exact ⟨List.mem_cons_of_mem _ later.1,
          fun known => later.2 (List.mem_cons_of_mem _ known)⟩

theorem fresh_eq_filter_of_subset (fewer : other ⊆ seen) :
    fresh key seen entries = (fresh key other entries).filter fun entry => key entry ∉ seen := by
  induction entries generalizing seen other with
  | nil => rfl
  | cons entry entries ih =>
    by_cases isOther : key entry ∈ other
    · rw [fresh, fresh, if_pos isOther, if_pos (fewer isOther), ih fewer]
    · by_cases isSeen : key entry ∈ seen
      · rw [fresh, fresh, if_pos isSeen, if_neg isOther,
          List.filter_cons_of_neg (by simp [isSeen])]
        exact ih (List.cons_subset.mpr ⟨isSeen, fewer⟩)
      · rw [fresh, fresh, if_neg isSeen, if_neg isOther,
          List.filter_cons_of_pos (by simp [isSeen]),
          ih (List.cons_subset_cons _ fewer)]
        congr 1
        refine List.filter_congr fun later member => ?_
        have differs : key later ≠ key entry := fun same =>
          (mem_of_mem_fresh member).2 (same ▸ List.mem_cons_self)
        simp [differs]

theorem fresh_eq_filter (seen : List κ) (entries : List α) :
    fresh key seen entries = (fresh key [] entries).filter fun entry => key entry ∉ seen :=
  fresh_eq_filter_of_subset (List.nil_subset _)

theorem fresh_congr (same : ∀ known, known ∈ seen ↔ known ∈ other) :
    fresh key seen entries = fresh key other entries := by
  rw [fresh_eq_filter, fresh_eq_filter other]
  exact List.filter_congr fun entry _ => by simp [same]

theorem fresh_append (seen : List κ) (front back : List α) : fresh key seen (front ++ back) =
      fresh key seen front ++ fresh key (front.map key ++ seen) back := by
  induction front generalizing seen with
  | nil => rfl
  | cons entry front ih =>
    rw [List.cons_append, fresh, fresh]
    split_ifs with isSeen
    · rw [ih]
      congr 1
      refine fresh_congr fun known => ?_
      simp only [List.map_cons, List.cons_append, List.mem_cons, List.mem_append]
      constructor
      · exact .inr
      · rintro (rfl | later)
        · exact .inr isSeen
        · exact later
    · rw [ih, List.cons_append]
      congr 2
      refine fresh_congr fun known => ?_
      simp only [List.map_cons, List.cons_append, List.mem_cons, List.mem_append]
      tauto

theorem mem_keys_fresh :
    known ∈ (fresh key seen entries).map key ↔ known ∈ entries.map key ∧ known ∉ seen := by
  induction entries generalizing seen with
  | nil => simp [fresh]
  | cons entry entries ih =>
    rw [fresh]
    split_ifs with isSeen
    · rw [ih, List.map_cons, List.mem_cons]
      constructor
      · exact fun later => ⟨.inr later.1, later.2⟩
      · rintro ⟨rfl | later, isNew⟩
        · exact absurd isSeen isNew
        · exact ⟨later, isNew⟩
    · rw [List.map_cons, List.mem_cons, ih, List.map_cons, List.mem_cons,
        List.mem_cons]
      constructor
      · rintro (rfl | ⟨later, isNew⟩)
        · exact ⟨.inl rfl, isSeen⟩
        · exact ⟨.inr later, fun known => isNew (.inr known)⟩
      · rintro ⟨rfl | later, isNew⟩
        · exact .inl rfl
        · by_cases same : known = key entry
          · exact .inl same
          · exact .inr ⟨later, not_or.mpr ⟨same, isNew⟩⟩

theorem nodup_keys_fresh : ((fresh key seen entries).map key).Nodup := by
  induction entries generalizing seen with
  | nil => exact List.nodup_nil
  | cons entry entries ih =>
    rw [fresh]
    split_ifs with isSeen
    · exact ih
    · rw [List.map_cons, List.nodup_cons, mem_keys_fresh]
      exact ⟨fun later => later.2 List.mem_cons_self, ih⟩

theorem fresh_fresh (seen : List κ) (entries : List α) :
    fresh key seen (fresh key seen entries) = fresh key seen entries := by
  induction entries generalizing seen with
  | nil => rfl
  | cons entry entries ih =>
    rw [fresh]
    split_ifs with isSeen
    · exact ih seen
    · rw [fresh, if_neg isSeen, ih]

theorem fresh_map {β : Type*} (change : β → α) (seen : List κ) (entries : List β) :
    fresh key seen (entries.map change) =
      (fresh (fun entry => key (change entry)) seen entries).map change := by
  induction entries generalizing seen with
  | nil => rfl
  | cons entry entries ih =>
    rw [List.map_cons, fresh, fresh]
    split_ifs with isSeen
    · exact ih seen
    · rw [ih, List.map_cons]

theorem find?_of_mem_fresh (member : entry ∈ fresh key seen entries) :
    entries.find? (fun other => key other = key entry) = some entry := by
  induction entries generalizing seen with
  | nil => simp [fresh] at member
  | cons first entries ih =>
    by_cases same : key first = key entry
    · rw [List.find?_cons_of_pos (by simpa using same)]
      rw [fresh] at member
      split_ifs at member with isSeen
      · exact absurd (same ▸ isSeen) (mem_of_mem_fresh member).2
      · rcases List.mem_cons.mp member with rfl | isLater
        · rfl
        · exact absurd (same ▸ List.mem_cons_self) (mem_of_mem_fresh isLater).2
    · rw [List.find?_cons_of_neg (by simpa using same)]
      rw [fresh] at member
      split_ifs at member with isSeen
      · exact ih member
      · rcases List.mem_cons.mp member with rfl | isLater
        · exact absurd rfl same
        · exact ih isLater

variable (key) (value : α → γ)

def under (group : List α) (known : κ) : Option γ :=
  (group.find? fun entry => key entry = known).map value

def keysOf (group : List α) : Finset κ := (group.map key).toFinset

def gathered (seen : Finset κ) : List (List α) → Multiset (Option γ)
  | [] => 0
  | group :: groups =>
    (keysOf key group \ seen).val.map (under key value group) +
      gathered (seen ∪ keysOf key group) groups

variable {key} {value}

@[simp] theorem mem_keysOf {group : List α} :
    known ∈ keysOf key group ↔ ∃ entry ∈ group, key entry = known := by
  simp [keysOf]

@[simp] theorem keysOf_append (left right : List α) :
    keysOf key (left ++ right) = keysOf key left ∪ keysOf key right := by
  simp [keysOf]

theorem keysOf_perm (perm : left.Perm right) : keysOf key left = keysOf key right := by
  ext known
  simp only [mem_keysOf, perm.mem_iff]

theorem fresh_eq_under (seen : List κ) (group : List α) :
    (((fresh key seen group).map value : Multiset γ)).map some =
      (keysOf key group \ seen.toFinset).val.map (under key value group) := by
  have keys : (keysOf key group \ seen.toFinset).val =
      ((fresh key seen group).map key : Multiset κ) := by
    refine (Multiset.Nodup.ext (Finset.nodup _) (Multiset.coe_nodup.mpr nodup_keys_fresh)).mpr ?_
    intro known
    rw [Multiset.mem_coe, mem_keys_fresh, Finset.mem_val, Finset.mem_sdiff, List.mem_toFinset,
      keysOf, List.mem_toFinset]
  rw [keys, Multiset.map_coe, Multiset.map_coe, List.map_map, List.map_map]
  congr 1
  refine List.map_congr_left fun entry member => ?_
  simp only [Function.comp_apply, under, find?_of_mem_fresh member, Option.map_some]

theorem fresh_flatten_eq_gathered (seen : List κ) (groups : List (List α)) :
    (((fresh key seen groups.flatten).map value : Multiset γ)).map some =
      gathered key value seen.toFinset groups := by
  induction groups generalizing seen with
  | nil => rfl
  | cons group groups ih =>
    have known : (group.map key ++ seen).toFinset = seen.toFinset ∪ keysOf key group := by
      rw [List.toFinset_append, Finset.union_comm, keysOf]
    rw [List.flatten_cons, fresh_append, List.map_append, ← Multiset.coe_add, Multiset.map_add,
      fresh_eq_under, ih, known, gathered]

theorem gathered_append (seen : Finset κ) (front back : List (List α)) :
    gathered key value seen (front ++ back) =
      gathered key value seen front +
        gathered key value (seen ∪ keysOf key front.flatten) back := by
  induction front generalizing seen with
  | nil => simp [gathered, keysOf]
  | cons group front ih =>
    rw [List.cons_append, gathered, ih, gathered, add_assoc, List.flatten_cons,
      keysOf_append, Finset.union_assoc]

def sharedKeys (key : α → κ) (front : List (List α)) (left right : List α) : Finset κ :=
  (keysOf key left ∩ keysOf key right) \ keysOf key front.flatten

variable (front : List (List α))

theorem sharedKeys_comm (left right : List α) :
    sharedKeys key front left right = sharedKeys key front right left := by
  rw [sharedKeys, sharedKeys, Finset.inter_comm]

theorem under_split (left right : List α) :
    (keysOf key left \ keysOf key front.flatten).val.map (under key value left) =
      (sharedKeys key front left right).val.map (under key value left) +
        (keysOf key left \ (keysOf key front.flatten ∪ keysOf key right)).val.map
          (under key value left) := by
  have split := Multiset.filter_add_not (· ∈ keysOf key right)
    (keysOf key left \ keysOf key front.flatten).val
  rw [← Finset.filter_val, ← Finset.filter_val] at split
  have inside : (keysOf key left \ keysOf key front.flatten).filter (· ∈ keysOf key right) =
      sharedKeys key front left right := by
    ext known
    simp only [sharedKeys, Finset.mem_filter, Finset.mem_sdiff, Finset.mem_inter]
    tauto
  have outside : (keysOf key left \ keysOf key front.flatten).filter (· ∉ keysOf key right) =
      keysOf key left \ (keysOf key front.flatten ∪ keysOf key right) := by
    ext known
    simp only [Finset.mem_filter, Finset.mem_sdiff, Finset.mem_union]
    tauto
  rw [inside, outside] at split
  rw [← Multiset.map_add, split]

theorem gathered_swap_iff (left right : List α) (back : List (List α)) :
    gathered key value (keysOf key front.flatten) (left :: right :: back) =
        gathered key value (keysOf key front.flatten) (right :: left :: back) ↔
      (sharedKeys key front left right).val.map (under key value left) =
        (sharedKeys key front left right).val.map (under key value right) := by
  have later : keysOf key front.flatten ∪ keysOf key right ∪ keysOf key left =
      keysOf key front.flatten ∪ keysOf key left ∪ keysOf key right :=
    Finset.union_right_comm _ _ _
  rw [gathered, gathered, gathered, gathered, under_split front left right,
    under_split front right left, later, sharedKeys_comm front right left]
  generalize (sharedKeys key front left right).val.map (under key value left) = sharedLeft
  generalize (sharedKeys key front left right).val.map (under key value right) = sharedRight
  generalize (keysOf key left \ _).val.map (under key value left) = onlyLeft
  generalize (keysOf key right \ _).val.map (under key value right) = onlyRight
  generalize gathered key value _ back = rest
  have swapped : sharedRight + onlyRight + (onlyLeft + rest) =
      sharedRight + onlyLeft + (onlyRight + rest) := by
    rw [add_assoc, add_assoc, add_left_comm onlyRight]
  rw [swapped, add_left_inj, add_left_inj]

section

variable (key) (value) {π : Type x} [LinearOrder π] (rank : γ → π)

def kept (groups : List (List α)) : List γ := (fresh key [] groups.flatten).map value

def arranged (groups : List (List α)) : List γ := sortOn rank (kept key value groups)

def Reordered (groups other : List (List α)) : Prop :=
  ∃ middle, groups.Perm middle ∧ List.Forall₂ List.Perm middle other

structure Settled (groups : List (List α)) : Prop where
  ranked : ∀ left ∈ groups.flatten, ∀ right ∈ groups.flatten,
    rank (value left) = rank (value right) → value left = value right
  grouped : ∀ group ∈ groups, ∀ left ∈ group, ∀ right ∈ group, key left = key right →
    value left = value right
  balanced : ∀ front left right back, (front ++ left :: right :: back).Perm groups →
    (sharedKeys key front left right).val.map (under key value left) =
      (sharedKeys key front left right).val.map (under key value right)

end

theorem settled_of_nodup {π : Type x} {rank : γ → π} (nodup : (groups.flatten.map key).Nodup)
    (ranked : ∀ left ∈ groups.flatten, ∀ right ∈ groups.flatten,
      rank (value left) = rank (value right) → value left = value right) :
    Settled key value rank groups where
  ranked := ranked
  grouped group isGroup left isLeft right isRight same := by
    have isEntry : ∀ entry ∈ group, entry ∈ groups.flatten :=
      fun entry member => List.mem_flatten.mpr ⟨group, isGroup, member⟩
    rw [List.inj_on_of_nodup_map nodup (isEntry left isLeft) (isEntry right isRight) same]
  balanced front left right back whole := by
    have apart := (whole.flatten.map key).nodup_iff.mpr nodup
    have noneShared : sharedKeys key front left right = ∅ := by
      ext known
      simp only [List.flatten_append, List.flatten_cons, List.map_append,
        List.nodup_append'] at apart
      simp only [sharedKeys, Finset.mem_sdiff, Finset.mem_inter, Finset.notMem_empty, iff_false]
      rintro ⟨⟨inLeft, inRight⟩, -⟩
      rw [keysOf, List.mem_toFinset] at inLeft inRight
      exact apart.2.1.2.2 inLeft (List.mem_append_left _ inRight)
    rw [noneShared]
    rfl

theorem kept_perm_iff {other : List (List α)} :
    (kept key value other).Perm (kept key value groups) ↔
      gathered key value ∅ other = gathered key value ∅ groups := by
  have ofGroups : ∀ arrangement : List (List α), gathered key value ∅ arrangement =
      (kept key value arrangement : Multiset γ).map some :=
    fun arrangement => (fresh_flatten_eq_gathered [] arrangement).symm
  rw [ofGroups, ofGroups, ← Multiset.coe_eq_coe]
  exact (Multiset.map_injective (Option.some_injective γ)).eq_iff.symm

theorem under_perm (perm : left.Perm right)
    (grouped : ∀ one ∈ left, ∀ two ∈ left, key one = key two → value one = value two) :
    under key value left = under key value right := by
  funext known
  rw [under, under]
  cases inLeft : left.find? fun entry => key entry = known with
  | none =>
    have inRight : right.find? (fun entry => key entry = known) = none := by
      rw [List.find?_eq_none] at inLeft ⊢
      exact fun entry member => inLeft entry (perm.mem_iff.mpr member)
    rw [inRight]
  | some one =>
    cases inRight : right.find? fun entry => key entry = known with
    | none =>
      rw [List.find?_eq_none] at inRight
      exact absurd (List.find?_some inLeft)
        (inRight one (perm.mem_iff.mp (List.mem_of_find?_eq_some inLeft)))
    | some two =>
      have oneKey : key one = known := by simpa using List.find?_some inLeft
      have twoKey : key two = known := by simpa using List.find?_some inRight
      rw [Option.map_some, Option.map_some, grouped one (List.mem_of_find?_eq_some inLeft) two
        (perm.mem_iff.mpr (List.mem_of_find?_eq_some inRight)) (oneKey.trans twoKey.symm)]

theorem gathered_forall₂ {middle other : List (List α)}
    (inner : List.Forall₂ List.Perm middle other)
    (grouped : ∀ group ∈ middle, ∀ one ∈ group, ∀ two ∈ group, key one = key two →
      value one = value two) (seen : Finset κ) :
    gathered key value seen middle = gathered key value seen other := by
  induction inner generalizing seen with
  | nil => rfl
  | cons perm inner ih =>
    rw [gathered, gathered, keysOf_perm perm, under_perm perm (grouped _ List.mem_cons_self),
      ih fun group member => grouped group (List.mem_cons_of_mem _ member)]

theorem gathered_perm
    (balanced : ∀ front left right back, (front ++ left :: right :: back).Perm groups →
      (sharedKeys key front left right).val.map (under key value left) =
        (sharedKeys key front left right).val.map (under key value right))
    {one two : List (List α)} (perm : one.Perm two) (front : List (List α))
    (whole : (front ++ one).Perm groups) :
    gathered key value (keysOf key front.flatten) one =
      gathered key value (keysOf key front.flatten) two := by
  induction perm generalizing front with
  | nil => rfl
  | cons group _ ih =>
    have longer := ih (front ++ [group]) (by simpa using whole)
    rw [List.flatten_append, List.flatten_singleton, keysOf_append] at longer
    rw [gathered, gathered, longer]
  | swap left right back =>
    exact (gathered_swap_iff front right left back).mpr (balanced front right left back whole)
  | trans first _ firstHypothesis secondHypothesis =>
    exact (firstHypothesis front whole).trans
      (secondHypothesis front ((first.symm.append_left front).trans whole))

section

variable {π : Type x} [LinearOrder π] {rank : γ → π}

theorem sortOn_eq_of_perm_of_ranked {left right : List γ} (perm : left.Perm right)
    (ranked : ∀ one ∈ left, ∀ two ∈ left, rank one = rank two → one = two) :
    sortOn rank left = sortOn rank right := by
  refine List.Perm.eq_of_pairwise ?_ (sortOn_sorted rank left) (sortOn_sorted rank right)
    ((sortOn_perm rank left).trans (perm.trans (sortOn_perm rank right).symm))
  intro one two isOne isTwo oneLe twoLe
  exact ranked one (mem_sortOn.mp isOne) two (perm.mem_iff.mpr (mem_sortOn.mp isTwo))
    (le_antisymm oneLe twoLe)

theorem find?_sortOn_cons (value : γ) (values : List γ) :
    (sortOn rank (value :: values)).find? (fun other => rank other = rank value) = some value := by
  rw [sortOn, List.insertionSort_cons]
  induction values.insertionSort fun left right => rank left ≤ rank right with
  | nil => simp
  | cons first rest ih =>
    rw [List.orderedInsert]
    split_ifs with before
    · rw [List.find?_cons_of_pos (by simp)]
    · rw [List.find?_cons_of_neg (by simpa using (not_le.mp before).ne), ih]

theorem arranged_eq_of_settled {groups other : List (List α)}
    (settled : Settled key value rank groups) (reordered : Reordered groups other) :
    arranged key value rank other = arranged key value rank groups := by
  obtain ⟨middle, outer, inner⟩ := reordered
  have moved : gathered key value ∅ groups = gathered key value ∅ middle :=
    gathered_perm settled.balanced outer [] (List.Perm.refl groups)
  have mixed : gathered key value ∅ middle = gathered key value ∅ other :=
    gathered_forall₂ inner (fun group member => settled.grouped group (outer.mem_iff.mpr member)) ∅
  have perm : (kept key value groups).Perm (kept key value other) :=
    kept_perm_iff.mpr (moved.trans mixed)
  refine (sortOn_eq_of_perm_of_ranked perm ?_).symm
  intro one isOne two isTwo sameRank
  obtain ⟨left, isLeft, rfl⟩ := List.mem_map.mp isOne
  obtain ⟨right, isRight, rfl⟩ := List.mem_map.mp isTwo
  exact settled.ranked left (mem_of_mem_fresh isLeft).1 right (mem_of_mem_fresh isRight).1 sameRank

theorem forall₂_perm_refl (groups : List (List α)) : List.Forall₂ List.Perm groups groups :=
  List.forall₂_same.mpr fun group _ => List.Perm.refl group

theorem exists_first {groups : List (List α)} {entry : α} (member : entry ∈ groups.flatten) :
    ∃ rest : List (List α), ∃ others : List α, Reordered groups ((entry :: others) :: rest) := by
  obtain ⟨group, isGroup, isEntry⟩ := List.mem_flatten.mp member
  obtain ⟨front, back, rfl⟩ := List.append_of_mem isGroup
  obtain ⟨before, after, rfl⟩ := List.append_of_mem isEntry
  exact ⟨front ++ back, before ++ after, _, List.perm_middle,
    .cons List.perm_middle (forall₂_perm_refl _)⟩

theorem kept_first (entry : α) (others : List α) (rest : List (List α)) :
    kept key value ((entry :: others) :: rest) =
      value entry :: (fresh key [key entry] (others ++ rest.flatten)).map value := by
  rw [kept, List.flatten_cons, List.cons_append, fresh, if_neg List.not_mem_nil, List.map_cons]

theorem arranged_orderFree_iff (groups : List (List α)) : (∀ other, Reordered groups other →
        arranged key value rank other = arranged key value rank groups) ↔
      Settled key value rank groups := by
  constructor
  · intro orderFree
    have keptPerm : ∀ {one two}, Reordered groups one → Reordered groups two →
        (kept key value one).Perm (kept key value two) := by
      intro one two toOne toTwo
      have same := (orderFree one toOne).trans (orderFree two toTwo).symm
      exact ((sortOn_perm rank _).symm.trans (List.Perm.of_eq same)).trans (sortOn_perm rank _)
    refine ⟨?_, ?_, ?_⟩
    · intro left isLeft right isRight sameRank
      -- each of them leads its rank when it is the first of all
      have leads : ∀ entry ∈ groups.flatten, (arranged key value rank groups).find?
          (fun other => rank other = rank (value entry)) = some (value entry) := by
        intro entry member
        obtain ⟨rest, others, reordered⟩ := exists_first member
        rw [← orderFree _ reordered, arranged, kept_first, find?_sortOn_cons]
      have both := leads left isLeft
      rw [sameRank, leads right isRight] at both
      exact (Option.some_injective _ both).symm
    · intro group isGroup left isLeft right isRight sameKey
      obtain ⟨front, back, rfl⟩ := List.append_of_mem isGroup
      obtain ⟨before, after, rfl⟩ := List.append_of_mem isLeft
      have isOther : right = left ∨ right ∈ before ++ after := by
        simpa only [List.mem_append, List.mem_cons, or_left_comm] using isRight
      rcases isOther with rfl | isOther
      · rfl
      obtain ⟨first, last, split⟩ := List.append_of_mem isOther
      have inner : (before ++ left :: after).Perm (left :: right :: (first ++ last)) := by
        refine List.perm_middle.trans (.cons _ ?_)
        rw [split]
        exact List.perm_middle
      have toLeft : Reordered (front ++ (before ++ left :: after) :: back)
          ((left :: right :: (first ++ last)) :: (front ++ back)) :=
        ⟨_, List.perm_middle, .cons inner (forall₂_perm_refl _)⟩
      have toRight : Reordered (front ++ (before ++ left :: after) :: back)
          ((right :: left :: (first ++ last)) :: (front ++ back)) :=
        ⟨_, List.perm_middle, .cons (inner.trans (.swap _ _ _)) (forall₂_perm_refl _)⟩
      have perm := keptPerm toLeft toRight
      rw [kept_first, kept_first, List.cons_append, List.cons_append, fresh, fresh,
        if_pos (sameKey ▸ List.mem_cons_self), if_pos (sameKey ▸ List.mem_cons_self), sameKey,
        ← Multiset.coe_eq_coe, ← Multiset.cons_coe, ← Multiset.cons_coe, Multiset.cons_inj_left]
        at perm
      exact perm
    · intro front left right back whole
      have swapped := (List.Perm.swap right left back).append_left front
      have perm := keptPerm ⟨_, whole.symm, forall₂_perm_refl _⟩
        ⟨_, whole.symm.trans swapped, forall₂_perm_refl _⟩
      rw [kept_perm_iff, gathered_append, gathered_append, add_right_inj, Finset.empty_union,
        gathered_swap_iff] at perm
      exact perm
  · exact fun settled other reordered => arranged_eq_of_settled settled reordered

end

end QuantaWatch.Lib.FirstWins
