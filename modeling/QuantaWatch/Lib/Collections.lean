import Mathlib

/-!
Stable sorting by a key and grouping by a key into an ordered map.
-/

namespace QuantaWatch.Lib.Collections

universe u v

variable {α : Type u} {κ : Type v} [LinearOrder κ]

def sortOn (key : α → κ) (values : List α) : List α :=
  values.insertionSort fun left right => key left ≤ key right

theorem sortOn_perm (key : α → κ) (values : List α) : (sortOn key values).Perm values :=
  List.perm_insertionSort _ _

variable {key : α → κ} {values group elements : List α} {value : α} {change : α → α}
    {groups : List (κ × List α)} {other : κ}

@[simp] theorem mem_sortOn : value ∈ sortOn key values ↔ value ∈ values :=
  (sortOn_perm key values).mem_iff

private instance keyTotal (key : α → κ) : Std.Total (fun left right : α => key left ≤ key right) :=
  ⟨fun left right => le_total (key left) (key right)⟩

private instance keyTrans (key : α → κ) : IsTrans α (fun left right : α => key left ≤ key right) :=
  ⟨fun _ _ _ => le_trans⟩

theorem sortOn_sorted (key : α → κ) (values : List α) :
    (sortOn key values).Pairwise fun left right => key left ≤ key right :=
  List.pairwise_insertionSort _ _

theorem sortOn_map (keeps : ∀ value, key (change value) = key value) (values : List α) :
    sortOn key (values.map change) = (sortOn key values).map change := by
  refine (List.map_insertionSort _ _ _ _ ?_).symm
  intro left _ right _
  rw [keeps, keeps]

theorem sortOn_sortOn (key : α → κ) (values : List α) :
    sortOn key (sortOn key values) = sortOn key values :=
  (sortOn_sorted key values).insertionSort_eq

theorem sortOn_map_idem (keeps : ∀ value, key (change value) = key value)
    (again : ∀ value, change (change value) = change value) (values : List α) :
    (sortOn key ((sortOn key values).map change)).map change = (sortOn key values).map change := by
  rw [sortOn_map keeps, sortOn_sortOn, List.map_map]
  exact List.map_congr_left fun value _ => again value

theorem eq_of_key_eq (increasing : values.Pairwise fun left right => key left < key right)
    {left right : α} (leftMember : left ∈ values) (rightMember : right ∈ values)
    (same : key left = key right) : left = right := by
  induction values with
  | nil => cases leftMember
  | cons head rest ih =>
    obtain ⟨headLess, restIncreasing⟩ := List.pairwise_cons.mp increasing
    rcases List.mem_cons.mp leftMember with rfl | leftRest <;>
      rcases List.mem_cons.mp rightMember with rfl | rightRest
    · rfl
    · exact absurd same (ne_of_lt (headLess right rightRest))
    · exact absurd same.symm (ne_of_lt (headLess left leftRest))
    · exact ih restIncreasing leftRest rightRest

theorem sortOn_eq_of_perm {target : List α} (perm : target.Perm values)
    (increasing : target.Pairwise fun left right => key left < key right) :
    sortOn key values = target := by
  refine List.Perm.eq_of_pairwise ?_ (sortOn_sorted key values)
    (increasing.imp fun less => le_of_lt less) ((sortOn_perm key values).trans perm.symm)
  intro left right leftMember rightMember leftLe rightLe
  have leftTarget : left ∈ target := perm.mem_iff.mpr (mem_sortOn.mp leftMember)
  exact eq_of_key_eq increasing leftTarget rightMember (le_antisymm leftLe rightLe)

def pushGroup (key : κ) (value : α) : List (κ × List α) → List (κ × List α)
  | [] => [(key, [value])]
  | (known, group) :: rest =>
    if key < known then (key, [value]) :: (known, group) :: rest
    else if key = known then (known, group ++ [value]) :: rest
    else (known, group) :: pushGroup key value rest

def groupOn (key : α → κ) (values : List α) : List (κ × List α) :=
  values.foldl (fun groups value => pushGroup (key value) value groups) []

theorem pushGroup_map (change : α → α) (key : κ) (value : α) (groups : List (κ × List α)) :
    pushGroup key (change value) (groups.map (Prod.map id (List.map change))) =
      (pushGroup key value groups).map (Prod.map id (List.map change)) := by
  induction groups with
  | nil => rfl
  | cons head rest ih =>
    simp only [List.map_cons, Prod.map, id, pushGroup]
    split_ifs
    · rfl
    · simp
    · rw [List.map_cons, ← ih]
      rfl

theorem groupOn_map (keeps : ∀ value, key (change value) = key value) (values : List α) :
    groupOn key (values.map change) =
      (groupOn key values).map (Prod.map id (List.map change)) := by
  have folded : ∀ groups : List (κ × List α),
      (values.map change).foldl (fun groups value => pushGroup (key value) value groups)
          (groups.map (Prod.map id (List.map change))) =
        (values.foldl (fun groups value => pushGroup (key value) value groups) groups).map
          (Prod.map id (List.map change)) := by
    induction values with
    | nil => exact fun _ => rfl
    | cons head rest ih =>
      intro groups
      rw [List.map_cons, List.foldl_cons, List.foldl_cons, keeps, pushGroup_map,
        ih]
  exact folded []

def KeysIncreasing (groups : List (κ × List α)) : Prop :=
  groups.Pairwise fun left right => left.1 < right.1

theorem mem_pushGroup_keys {key : κ} : other ∈ (pushGroup key value groups).map Prod.fst ↔
      other = key ∨ other ∈ groups.map Prod.fst := by
  induction groups with
  | nil => simp [pushGroup]
  | cons head rest ih =>
    obtain ⟨known, group⟩ := head
    unfold pushGroup
    split_ifs with less same
    · simp
    · subst same
      simp
    · simp only [List.map_cons, List.mem_cons, ih]
      tauto

theorem keysIncreasing_pushGroup {key : κ} (increasing : KeysIncreasing groups) :
    KeysIncreasing (pushGroup key value groups) := by
  induction groups with
  | nil => simp [pushGroup, KeysIncreasing]
  | cons head rest ih =>
    obtain ⟨known, group⟩ := head
    obtain ⟨headLess, restIncreasing⟩ := List.pairwise_cons.mp increasing
    unfold pushGroup
    split_ifs with less same
    · refine List.pairwise_cons.mpr ⟨?_, increasing⟩
      intro other member
      rcases List.mem_cons.mp member with rfl | member
      · exact less
      · exact lt_trans less (headLess other member)
    · exact List.pairwise_cons.mpr ⟨headLess, restIncreasing⟩
    · refine List.pairwise_cons.mpr ⟨?_, ih restIncreasing⟩
      rintro ⟨other, values⟩ member
      have keyMember := List.mem_map_of_mem (f := Prod.fst) member
      rcases mem_pushGroup_keys.mp keyMember with equal | old
      · have known_lt : known < key := lt_of_le_of_ne (not_lt.mp less) (Ne.symm same)
        change other = key at equal
        simpa [equal] using known_lt
      · obtain ⟨⟨upper, stored⟩, restMember, sameKey⟩ := List.mem_map.mp old
        have known_lt := headLess _ restMember
        change upper = other at sameKey
        simpa [sameKey] using known_lt

theorem mem_pushGroup {key : κ} (increasing : KeysIncreasing groups) :
    (other, group) ∈ pushGroup key value groups ↔
      if other = key then
        (∃ before, (key, before) ∈ groups ∧ group = before ++ [value]) ∨
          (key ∉ groups.map Prod.fst ∧ group = [value])
      else (other, group) ∈ groups := by
  induction groups with
  | nil =>
    by_cases same : other = key <;> simp [pushGroup, same]
  | cons head rest ih =>
    obtain ⟨known, before⟩ := head
    obtain ⟨headLess, restIncreasing⟩ := List.pairwise_cons.mp increasing
    have tail := ih restIncreasing
    have absent : ∀ {lower : κ}, lower ≤ known → lower ∉ rest.map Prod.fst := by
      intro lower le member
      obtain ⟨⟨upper, values⟩, restMember, rfl⟩ := List.mem_map.mp member
      exact absurd (headLess _ restMember) (not_lt.mpr le)
    have noPair : ∀ {lower : κ} {values : List α}, lower ≤ known → (lower, values) ∉ rest :=
      fun le member => absent le (List.mem_map_of_mem (f := Prod.fst) member)
    unfold pushGroup
    by_cases equal : other = key
    · subst equal
      rw [if_pos rfl] at tail ⊢
      split_ifs with less same
      · have notKnown : other ≠ known := ne_of_lt less
        simp [notKnown, noPair (le_of_lt less), absent (le_of_lt less)]
      · subst same
        simp [noPair le_rfl]
      · rw [List.mem_cons, tail]
        simp [same]
    · rw [if_neg equal] at tail ⊢
      split_ifs with less same
      · simp [equal]
      · subst same
        simp [equal]
      · rw [List.mem_cons, tail, List.mem_cons]

theorem groupOn_spec (key : α → κ) (values : List α) : KeysIncreasing (groupOn key values) ∧
      ∀ other group, (other, group) ∈ groupOn key values ↔
        group = values.filter (fun value => key value = other) ∧ group ≠ [] := by
  induction values using List.reverseRecOn with
  | nil =>
    refine ⟨List.Pairwise.nil, fun other group => ?_⟩
    simp [groupOn]
  | append_singleton values value ih =>
    obtain ⟨increasing, exact⟩ := ih
    have unfolded : groupOn key (values ++ [value]) =
        pushGroup (key value) value (groupOn key values) := by
      simp [groupOn, List.foldl_append]
    rw [unfolded]
    refine ⟨keysIncreasing_pushGroup increasing, fun other group => ?_⟩
    rw [mem_pushGroup increasing]
    by_cases same : other = key value
    · subst same
      have keyMember : key value ∈ (groupOn key values).map Prod.fst ↔
          values.filter (fun element => key element = key value) ≠ [] := by
        constructor
        · intro member
          obtain ⟨⟨_, before⟩, pairMember, rfl⟩ := List.mem_map.mp member
          obtain ⟨rfl, nonempty⟩ := (exact _ _).mp pairMember
          exact nonempty
        · intro nonempty
          exact List.mem_map_of_mem (f := Prod.fst) ((exact _ _).mpr ⟨rfl, nonempty⟩)
      rw [if_pos rfl, keyMember, List.filter_append]
      simp only [exact, ne_eq, not_not, decide_true, List.filter_cons_of_pos, List.filter_nil]
      constructor
      · rintro (⟨before, ⟨rfl, -⟩, rfl⟩ | ⟨empty, rfl⟩)
        · simp
        · simp [empty]
      · rintro ⟨rfl, -⟩
        by_cases empty : values.filter (fun element => key element = key value) = []
        · exact Or.inr ⟨empty, by simp [empty]⟩
        · exact Or.inl ⟨_, ⟨rfl, empty⟩, rfl⟩
    · have skip : [value].filter (fun element => key element = other) = [] := by
        simp [Ne.symm same]
      rw [if_neg same, exact, List.filter_append, skip, List.append_nil]

theorem mem_groupOn : (other, group) ∈ groupOn key values ↔
      group = values.filter (fun value => key value = other) ∧ group ≠ [] :=
  (groupOn_spec key values).2 other group

theorem groupOn_of_mem (member : value ∈ values) :
    (key value, values.filter fun element => key element = key value) ∈ groupOn key values := by
  refine mem_groupOn.mpr ⟨rfl, List.ne_nil_of_mem (a := value) ?_⟩
  simp [member]

theorem groupOn_keys_nodup (key : α → κ) (values : List α) :
    ((groupOn key values).map Prod.fst).Nodup := by
  have increasing := (groupOn_spec key values).1
  rw [List.Nodup, List.pairwise_map]
  exact increasing.imp fun less => ne_of_lt less

theorem mem_groupOn_keys : other ∈ (groupOn key values).map Prod.fst ↔ other ∈ values.map key := by
  constructor
  · intro member
    rcases List.mem_map.mp member with ⟨⟨_, group⟩, isGroup, rfl⟩
    rcases mem_groupOn.mp isGroup with ⟨rfl, nonempty⟩
    rcases List.exists_mem_of_ne_nil _ nonempty with ⟨value, inGroup⟩
    rw [List.mem_filter, decide_eq_true_eq] at inGroup
    exact List.mem_map.mpr ⟨value, inGroup⟩
  · intro member
    rcases List.mem_map.mp member with ⟨value, isValue, rfl⟩
    exact List.mem_map_of_mem (f := Prod.fst) (groupOn_of_mem isValue)

theorem lookup_groupOn : (groupOn key values).lookup other =
      if values.filter (fun value => key value = other) = [] then none
      else some (values.filter fun value => key value = other) := by
  have distinct := groupOn_keys_nodup key values
  split_ifs with empty
  · rw [List.lookup_eq_none_iff]
    intro group isGroup
    rw [bne_iff_ne]
    rintro rfl
    exact (mem_groupOn.mp isGroup).2 ((mem_groupOn.mp isGroup).1.trans empty)
  · obtain ⟨front, back, split⟩ := List.append_of_mem (mem_groupOn.mpr ⟨rfl, empty⟩)
    rw [split, List.map_append, List.map_cons, List.nodup_middle] at distinct
    rw [split, List.lookup_append]
    have absent : front.lookup other = none := by
      rw [List.lookup_eq_none_iff]
      intro group isGroup
      rw [bne_iff_ne]
      rintro rfl
      exact (List.nodup_cons.mp distinct).1
        (List.mem_append_left _ (List.mem_map.mpr ⟨group, isGroup, rfl⟩))
    rw [absent, Option.none_or, List.lookup_cons_self]

theorem length_groupOn_eq_iff :
    (groupOn key values).length = values.length ↔ (values.map key).Nodup := by
  have sameKeys : ((groupOn key values).map Prod.fst).toFinset = (values.map key).toFinset := by
    ext other
    rw [List.mem_toFinset, List.mem_toFinset, mem_groupOn_keys]
  have count := List.toFinset_card_of_nodup (groupOn_keys_nodup key values)
  rw [List.length_map, sameKeys, List.card_toFinset] at count
  have total : values.length = (values.map key).length := by rw [List.length_map]
  rw [← count, total]
  constructor
  · intro same
    rw [← List.dedup_eq_self]
    exact (List.dedup_sublist _).eq_of_length same
  · intro once
    rw [once.dedup]

theorem sum_lengths_groupOn (key : α → κ) (values : List α) :
    ((groupOn key values).map fun group => group.2.length).sum = values.length := by
  have pushed : ∀ (known : κ) (value : α) (groups : List (κ × List α)),
      ((pushGroup known value groups).map fun group => group.2.length).sum =
        (groups.map fun group => group.2.length).sum + 1 := by
    intro known value groups
    induction groups with
    | nil => rfl
    | cons head rest ih =>
      rw [pushGroup]
      split_ifs
      · simp only [List.map_cons, List.sum_cons, List.length_singleton]
        omega
      · simp only [List.map_cons, List.sum_cons, List.length_append, List.length_singleton]
        omega
      · simp only [List.map_cons, List.sum_cons, ih]
        omega
  have folded : ∀ groups : List (κ × List α),
      ((values.foldl (fun groups value => pushGroup (key value) value groups) groups).map
        fun group => group.2.length).sum =
        (groups.map fun group => group.2.length).sum + values.length := by
    induction values with
    | nil => exact fun _ => rfl
    | cons value values ih =>
      intro groups
      rw [List.foldl_cons, ih, pushed, List.length_cons]
      omega
  exact (folded []).trans (Nat.zero_add _)

theorem groupOn_lengths_perm {left right : List α} (perm : left.Perm right) :
    (groupOn key left).map (Prod.map id List.length) =
      (groupOn key right).map (Prod.map id List.length) := by
  have increasing : ∀ values : List α, ((groupOn key values).map (Prod.map id List.length)).Pairwise
      fun one two => one.1 < two.1 := by
    intro values
    rw [List.pairwise_map]
    exact (groupOn_spec key values).1
  have subset : ∀ {one two : List α}, one.Perm two → ∀ row,
      row ∈ (groupOn key one).map (Prod.map id List.length) →
        row ∈ (groupOn key two).map (Prod.map id List.length) := by
    intro one two perm row member
    obtain ⟨⟨known, group⟩, isGroup, rfl⟩ := List.mem_map.mp member
    obtain ⟨rfl, nonempty⟩ := mem_groupOn.mp isGroup
    have same := perm.filter fun value => decide (key value = known)
    refine List.mem_map.mpr ⟨(known, two.filter fun value => key value = known), ?_, ?_⟩
    · refine mem_groupOn.mpr ⟨rfl, fun empty => nonempty ?_⟩
      rw [empty] at same
      exact same.eq_nil
    · exact Prod.ext rfl same.length_eq.symm
  have nodup : ∀ values : List α, ((groupOn key values).map (Prod.map id List.length)).Nodup :=
    fun values => (increasing values).imp fun less same => absurd (same ▸ less) (lt_irrefl _)
  refine List.Perm.eq_of_pairwise ?_ (increasing left) (increasing right)
    ((List.perm_ext_iff_of_nodup (nodup left) (nodup right)).mpr fun row =>
      ⟨subset perm row, subset perm.symm row⟩)
  exact fun one two _ _ oneLess twoLess => absurd oneLess (lt_asymm twoLess)

def maxOn (key : α → κ) : List α → Option α
  | [] => none
  | element :: rest =>
    match maxOn key rest with
    | none => some element
    | some best => if key best < key element then some element else some best

theorem maxOn_eq_none : maxOn key elements = none ↔ elements = [] := by
  cases elements with
  | nil => simp [maxOn]
  | cons element rest =>
    simp only [maxOn, reduceCtorEq, iff_false]
    split
    · simp
    · split <;> simp

theorem maxOn_spec {best : α} (found : maxOn key elements = some best) :
    best ∈ elements ∧ ∀ element ∈ elements, key element ≤ key best := by
  induction elements generalizing best with
  | nil => simp [maxOn] at found
  | cons element rest ih =>
    rw [maxOn] at found
    cases later : maxOn key rest with
    | none =>
      obtain rfl : rest = [] := maxOn_eq_none.mp later
      obtain rfl : element = best := by simpa [later] using found
      simp
    | some restBest =>
      obtain ⟨member, largest⟩ := ih later
      simp only [later] at found
      simp only [List.mem_cons, forall_eq_or_imp]
      split_ifs at found with less
      · obtain rfl := Option.some.inj found
        exact ⟨Or.inl rfl, le_rfl, fun other present => (largest other present).trans less.le⟩
      · obtain rfl := Option.some.inj found
        exact ⟨Or.inr member, not_lt.mp less, largest⟩

section Indexing

variable {ι β : Type*} [DecidableEq ι]

def indexInsert (key : α → ι) (value : α → β) (index : ι → Option β) (element : α) : ι → Option β :=
  Function.update index (key element) (some (value element))

def indexOn (key : α → ι) (value : α → β) (elements : List α) : ι → Option β :=
  elements.foldl (indexInsert key value) fun _ => none

theorem indexOn_snoc (key : α → ι) (value : α → β) (elements : List α) (element : α) :
    indexOn key value (elements ++ [element]) =
      Function.update (indexOn key value elements) (key element) (some (value element)) := by
  simp [indexOn, indexInsert, List.foldl_append]

theorem indexOn_eq_some {key : α → ι} {value : α → β} {elements : List α}
    (unique : ∀ left ∈ elements, ∀ right ∈ elements, key left = key right →
      value left = value right) {name : ι} {found : β} :
    indexOn key value elements name = some found ↔
      ∃ element ∈ elements, key element = name ∧ value element = found := by
  induction elements using List.reverseRecOn with
  | nil => simp [indexOn]
  | append_singleton elements last ih =>
    have earlier := ih fun left leftMember right rightMember =>
      unique left (by simp [leftMember]) right (by simp [rightMember])
    rw [indexOn_snoc]
    by_cases same : key last = name
    · subst same
      rw [Function.update_self]
      constructor
      · intro equal
        exact ⟨last, by simp, rfl, Option.some.inj equal⟩
      · rintro ⟨element, member, sameKey, rfl⟩
        exact congrArg some (unique last (by simp) element member sameKey.symm)
    · rw [Function.update_of_ne (Ne.symm same), earlier]
      simp [same]

end Indexing

theorem eq_of_map_eq {α β : Type*} {change : α → β} {left right : List α}
    (apart : ∀ one ∈ left, ∀ two ∈ right, change one = change two → one = two)
    (same : left.map change = right.map change) : left = right := by
  induction left generalizing right with
  | nil => exact (List.map_eq_nil_iff.mp same.symm).symm
  | cons one left ih =>
    match right, same with
    | two :: right, same =>
      have parts := List.cons.inj same
      have later := ih
        (fun value isLeft other isRight =>
          apart value (List.mem_cons_of_mem _ isLeft) other (List.mem_cons_of_mem _ isRight))
        parts.2
      rw [apart one List.mem_cons_self two List.mem_cons_self parts.1, later]

section Rows

variable {ι β : Type*} [DecidableEq ι]

def filterRows (keep : β → Bool) (rows : AList fun _ : ι => β) : AList fun _ : ι => β where
  entries := rows.entries.filter fun row => keep row.2
  nodupKeys := rows.nodupKeys.sublist List.filter_sublist

theorem dlookup_filter {keep : β → Bool} {entries : List (Sigma fun _ : ι => β)}
    (nodup : entries.NodupKeys) (key : ι) :
    (entries.filter fun row => keep row.2).dlookup key = (entries.dlookup key).filter keep := by
  induction entries with
  | nil => rfl
  | cons row entries ih =>
    rw [List.nodupKeys_cons] at nodup
    have rest := ih nodup.2
    by_cases same : key = row.1
    · subst same
      rw [List.dlookup_eq_none.mpr nodup.1, Option.filter_none] at rest
      have found (more : List (Sigma fun _ : ι => β)) :
          (row :: more).dlookup row.1 = some row.2 := List.dlookup_cons_eq more row.1 row.2
      by_cases kept : keep row.2 = true
      · simp [kept, found, Option.filter_some]
      · simp [kept, rest, found, Option.filter_some]
    · by_cases kept : keep row.2 = true
      · simp [kept, List.dlookup_cons_ne _ row same, rest]
      · simp [kept, List.dlookup_cons_ne _ row same, rest]

theorem lookup_filterRows {keep : β → Bool} {rows : AList fun _ : ι => β} {key : ι} :
    (filterRows keep rows).lookup key = (rows.lookup key).filter keep :=
  dlookup_filter rows.nodupKeys key

end Rows

end QuantaWatch.Lib.Collections
