import QuantaWatch.Lib.Collections

/-!
Hash chains with 64-bit sequence numbers, over any kind of record.
-/

namespace QuantaWatch.Lib.HashChain

open Lib.Collections

universe u

structure Place (α : Type u) where
  seq : α → UInt64
  prev : α → String
  hash : α → String

variable {α : Type u} (place : Place α)

def Place.order (record : α) : Nat := (place.seq record).toNat

/-- `after` is the direct successor of `before`. The increment wraps at 2^64. -/
def Follows (before after : α) : Prop :=
  place.seq after = place.seq before + 1 ∧ place.prev after = place.hash before

instance (before after : α) : Decidable (Follows place before after) := by
  unfold Follows
  infer_instance

def GenesisOk (chain : List α) : Prop :=
  ∀ first ∈ chain.head?, place.seq first = 0 → place.prev first = ""

def Consecutive (chain : List α) : Prop :=
  chain.IsChain fun before after => place.order after = place.order before + 1

variable {place} {before : α} {chain : List α} {First : α → Prop}

theorem Follows.order_eq {after : α} (follows : Follows place before after)
    (sorted : place.order before ≤ place.order after) :
    place.order after = place.order before + 1 := by
  unfold Place.order at *
  rw [follows.1] at sorted ⊢
  rw [UInt64.toNat_add] at sorted ⊢
  have bound := (place.seq before).toNat_lt
  have one : (1 : UInt64).toNat = 1 := rfl
  rw [one] at sorted ⊢
  by_cases wraps : (place.seq before).toNat + 1 = 2 ^ 64
  · rw [wraps] at sorted
    omega
  · omega

theorem consecutive_of_follows (linked : chain.IsChain (Follows place))
    (sorted : chain.Pairwise fun left right => place.order left ≤ place.order right) :
    Consecutive place chain := by
  induction chain with
  | nil => exact List.IsChain.nil
  | cons head rest ih =>
    obtain ⟨headLe, restSorted⟩ := List.pairwise_cons.mp sorted
    cases rest with
    | nil => exact List.IsChain.singleton _
    | cons next others =>
      obtain ⟨follows, restLinked⟩ := List.isChain_cons_cons.mp linked
      exact List.isChain_cons_cons.mpr
        ⟨follows.order_eq (headLe next (by simp)), ih restLinked restSorted⟩

variable (consecutive : Consecutive place chain)

include consecutive

theorem Consecutive.order_getElem :
    ∀ (index : Nat) (below : index < chain.length) (nonempty : 0 < chain.length),
      place.order chain[index] = place.order chain[0] + index := by
  induction chain with
  | nil => intro index below; simp at below
  | cons head rest ih =>
    intro index below _
    cases index with
    | zero => simp
    | succ index =>
      cases rest with
      | nil => simp at below
      | cons next others =>
        obtain ⟨step, tail⟩ := List.isChain_cons_cons.mp consecutive
        have later := ih tail index (by simpa using below) (by simp)
        simp only [List.getElem_cons_succ, List.getElem_cons_zero] at later ⊢
        omega

theorem Consecutive.increasing :
    chain.Pairwise fun left right => place.order left < place.order right := by
  rw [List.pairwise_iff_getElem]
  intro first second firstBelow secondBelow less
  have nonempty : 0 < chain.length := by omega
  rw [consecutive.order_getElem first firstBelow nonempty,
    consecutive.order_getElem second secondBelow nonempty]
  omega

theorem Consecutive.interval {low high : α} (lowMember : low ∈ chain) (highMember : high ∈ chain)
    {number : Nat} (lowLe : place.order low ≤ number) (highLe : number ≤ place.order high) :
    ∃ record ∈ chain, place.order record = number := by
  obtain ⟨lowIndex, lowBelow, rfl⟩ := List.mem_iff_getElem.mp lowMember
  obtain ⟨highIndex, highBelow, rfl⟩ := List.mem_iff_getElem.mp highMember
  have nonempty : 0 < chain.length := by omega
  have lowOrder := consecutive.order_getElem lowIndex lowBelow nonempty
  have highOrder := consecutive.order_getElem highIndex highBelow nonempty
  have below : number - place.order chain[0] < chain.length := by omega
  refine ⟨chain[number - place.order chain[0]], List.getElem_mem below, ?_⟩
  rw [consecutive.order_getElem _ below nonempty]
  omega

omit consecutive

variable (place)

structure Segment (chain : List α) : Prop where
  linked : chain.IsChain (Follows place)
  consecutive : Consecutive place chain
  genesis : GenesisOk place chain

variable {place}

namespace Segment

variable {chain : List α}

theorem nil : Segment place [] := ⟨.nil, .nil, by simp [GenesisOk]⟩

theorem singleton {record : α} (genesis : place.seq record = 0 → place.prev record = "") :
    Segment place [record] :=
  ⟨.singleton _, .singleton _, by simpa [GenesisOk] using genesis⟩

theorem snoc (segment : Segment place chain) {last record : α} (isLast : last ∈ chain.getLast?)
    (number : place.order record = place.order last + 1)
    (link : place.prev record = place.hash last) : Segment place (chain ++ [record]) := by
  have successor : Follows place last record := by
    refine ⟨UInt64.toNat_inj.mp ?_, link⟩
    have bound := (place.seq record).toNat_lt
    simp only [Place.order] at number
    rw [UInt64.toNat_add, number, UInt64.toNat_one]
    omega
  refine ⟨?_, ?_, ?_⟩
  · refine List.isChain_append.mpr ⟨segment.linked, .singleton _, ?_⟩
    intro before beforeLast after afterFirst
    obtain rfl : record = after := by simpa using afterFirst
    rwa [Option.mem_unique beforeLast isLast]
  · refine List.isChain_append.mpr ⟨segment.consecutive, .singleton _, ?_⟩
    intro before beforeLast after afterFirst
    obtain rfl : record = after := by simpa using afterFirst
    rwa [Option.mem_unique beforeLast isLast]
  · intro first firstMember
    cases chain with
    | nil => simp at isLast
    | cons head rest => exact segment.genesis first (by simpa using firstMember)

theorem sortOn_eq (segment : Segment place chain) {records : List α} (perm : chain.Perm records) :
    sortOn place.order records = chain :=
  sortOn_eq_of_perm perm segment.consecutive.increasing

end Segment

variable (place)

def LinkOk (First : α → Prop) : Option α → α → Prop
  | none, record => First record
  | some before, record => Follows place before record

def LinkedFrom (First : α → Prop) : Option α → List α → Prop
  | _, [] => True
  | last, record :: rest => LinkOk place First last record ∧ LinkedFrom First (some record) rest

variable {place}

theorem linkedFrom_some_iff :
    LinkedFrom place First (some before) chain ↔ (before :: chain).IsChain (Follows place) := by
  induction chain generalizing before with
  | nil => simp [LinkedFrom]
  | cons record rest ih =>
    rw [LinkedFrom, ih, List.isChain_cons_cons, LinkOk]

theorem linkedFrom_none_iff : LinkedFrom place First none chain ↔
      chain.IsChain (Follows place) ∧ ∀ first ∈ chain.head?, First first := by
  cases chain with
  | nil => simp [LinkedFrom]
  | cons record rest =>
    rw [LinkedFrom, linkedFrom_some_iff, LinkOk]
    simp [and_comm]

variable (place)

def lastHash (chain : List α) : String :=
  (chain.getLast?.map place.hash).getD ""

inductive Whole : List α → Prop where
  | nil : Whole []
  | snoc {chain : List α} {record : α} (before : Whole chain)
      (number : place.seq record = UInt64.ofNat chain.length)
      (link : place.prev record = lastHash place chain)
      (room : chain.length < 2 ^ 64) :
      Whole (chain ++ [record])

variable {place}

@[simp] theorem lastHash_nil : lastHash place [] = "" := rfl

@[simp] theorem lastHash_snoc (chain : List α) (record : α) :
    lastHash place (chain ++ [record]) = place.hash record := by
  simp [lastHash]

namespace Whole

variable {chain : List α} (whole : Whole place chain)

include whole

theorem length_le : chain.length ≤ 2 ^ 64 := by
  cases whole with
  | nil => simp
  | snoc _ _ _ room =>
    simp only [List.length_append, List.length_singleton]
    omega

theorem order_getElem :
    ∀ (index : Nat) (below : index < chain.length), place.order chain[index] = index := by
  induction whole with
  | nil => intro index below; simp at below
  | @snoc chain record before number link room ih =>
    intro index below
    by_cases old : index < chain.length
    · rw [List.getElem_append_left old]
      exact ih index old
    · have last : index = chain.length := by
        simp only [List.length_append, List.length_singleton] at below
        omega
      subst last
      simp only [Place.order, List.getElem_concat_length, number]
      exact UInt64.toNat_ofNat_of_lt' room

theorem increasing : chain.Pairwise fun left right => place.order left < place.order right := by
  rw [List.pairwise_iff_getElem]
  intro first second firstBelow secondBelow less
  rwa [whole.order_getElem first firstBelow, whole.order_getElem second secondBelow]

theorem eq_of_seq_eq {left right : α} (leftMember : left ∈ chain) (rightMember : right ∈ chain)
    (same : place.seq left = place.seq right) : left = right :=
  eq_of_key_eq whole.increasing leftMember rightMember (congrArg UInt64.toNat same)

theorem linked : chain.IsChain (Follows place) := by
  induction whole with
  | nil => exact List.IsChain.nil
  | @snoc chain record before number link room ih =>
    refine List.isChain_append.mpr ⟨ih, List.IsChain.singleton _, ?_⟩
    intro last lastMember first firstMember
    obtain rfl : record = first := by simpa using firstMember
    have lastSplit : chain.getLast? = some last := lastMember
    obtain ⟨front, rfl⟩ := List.getLast?_eq_some_iff.mp lastSplit
    refine ⟨?_, by simpa using link⟩
    have lastOrder := before.order_getElem front.length (by simp)
    simp only [List.getElem_concat_length] at lastOrder
    apply UInt64.toNat_inj.mp
    rw [number, UInt64.toNat_add, UInt64.toNat_ofNat_of_lt' room]
    have oneValue : (1 : UInt64).toNat = 1 := rfl
    simp only [Place.order] at lastOrder
    rw [lastOrder, oneValue]
    simp only [List.length_append, List.length_singleton] at room ⊢
    omega

theorem genesis : ∀ first ∈ chain.head?, place.prev first = "" := by
  induction whole with
  | nil => simp
  | @snoc chain record before number link room ih =>
    intro first member
    cases chain with
    | nil =>
      obtain rfl : record = first := by simpa using member
      simpa using link
    | cons head rest => exact ih first (by simpa using member)

theorem seq_getElem (index : Nat) (below : index < chain.length) :
    place.seq chain[index] = UInt64.ofNat index := by
  have room : index < 2 ^ 64 := lt_of_lt_of_le below whole.length_le
  apply UInt64.toNat_inj.mp
  rw [UInt64.toNat_ofNat_of_lt' room]
  exact whole.order_getElem index below

theorem suffix {tail : List α} (suffix : tail <:+ chain) : Segment place tail := by
  have linked := whole.linked.suffix suffix
  have sorted : tail.Pairwise fun left right => place.order left ≤ place.order right :=
    (whole.increasing.imp fun less => le_of_lt less).sublist suffix.sublist
  refine ⟨linked, consecutive_of_follows linked sorted, ?_⟩
  intro first member zero
  obtain ⟨front, rfl⟩ := suffix
  cases tail with
  | nil => simp at member
  | cons head rest =>
    obtain rfl : head = first := by simpa using member
    have order := whole.order_getElem front.length (by simp)
    rw [List.getElem_append_right (le_refl _)] at order
    simp only [Nat.sub_self, List.getElem_cons_zero, Place.order, zero] at order
    have empty : front = [] := List.eq_nil_of_length_eq_zero order.symm
    subst empty
    exact whole.genesis head (by simp)

theorem segment : Segment place chain :=
  whole.suffix (List.suffix_refl chain)

end Whole

def Positioned (place : Place α) (chain : List α) (number : UInt64) (hash : String) : Prop :=
  ∃ count ≤ chain.length, number = UInt64.ofNat count ∧
    hash = lastHash place (chain.take count)

namespace Positioned

variable {chain : List α} {number : UInt64} {hash : String}

theorem start (place : Place α) (chain : List α) : Positioned place chain 0 "" :=
  ⟨0, Nat.zero_le _, rfl, rfl⟩

theorem resume (whole : Whole place chain) {record : α} (member : record ∈ chain) :
    Positioned place chain (place.seq record + 1) (place.hash record) := by
  obtain ⟨index, below, rfl⟩ := List.mem_iff_getElem.mp member
  refine ⟨index + 1, below, ?_, ?_⟩
  · rw [whole.seq_getElem index below, UInt64.ofNat_add]
    rfl
  · rw [List.take_succ_eq_append_getElem below, lastHash_snoc]

theorem mono {longer : List α} (positioned : Positioned place chain number hash)
    (grows : chain <+: longer) : Positioned place longer number hash := by
  obtain ⟨count, le, rfl, rfl⟩ := positioned
  obtain ⟨rest, rfl⟩ := grows
  refine ⟨count, ?_, rfl, ?_⟩
  · rw [List.length_append]
    omega
  · rw [List.take_append_of_le_length le]

variable (whole : Whole place chain)

include whole

theorem count_eq_of_free {count : Nat} (le : count ≤ chain.length)
    (free : ∀ record ∈ chain, place.seq record ≠ UInt64.ofNat count) :
    count = chain.length ∧ chain.length < 2 ^ 64 := by
  have last : count = chain.length := by
    by_contra different
    have below : count < chain.length := by omega
    exact free _ (List.getElem_mem below) (whole.seq_getElem count below)
  refine ⟨last, ?_⟩
  by_contra full
  -- a full chain has wrapped: its next number is that of its first record
  have length : chain.length = 2 ^ 64 := le_antisymm whole.length_le (by omega)
  have positive : 0 < chain.length := by omega
  have wrapped : UInt64.ofNat count = UInt64.ofNat 0 := by
    rw [last, length]
    rfl
  exact free _ (List.getElem_mem positive) ((whole.seq_getElem 0 positive).trans wrapped.symm)

variable (positioned : Positioned place chain number hash)

include positioned

theorem extend {record : α} (numbered : place.seq record = number)
    (linked : place.prev record = hash) (free : ∀ other ∈ chain, place.seq other ≠ number) :
    Whole place (chain ++ [record]) := by
  obtain ⟨count, le, rfl, rfl⟩ := positioned
  obtain ⟨rfl, room⟩ := count_eq_of_free whole le free
  rw [List.take_length] at linked
  exact .snoc whole numbered linked room

theorem advance (record : α) (free : ∀ other ∈ chain, place.seq other ≠ number) :
    Positioned place (chain ++ [record]) (number + 1) (place.hash record) := by
  obtain ⟨count, le, rfl, rfl⟩ := positioned
  obtain ⟨rfl, -⟩ := count_eq_of_free whole le free
  refine ⟨chain.length + 1, by simp, ?_, ?_⟩
  · rw [UInt64.ofNat_add]
    rfl
  · rw [List.take_of_length_le (by simp), lastHash_snoc]

end Positioned

theorem filter_suffix {keep : α → Bool}
    (closed : chain.Pairwise fun before after => keep before = true → keep after = true) :
    chain.filter keep <:+ chain := by
  induction chain with
  | nil => exact List.suffix_refl _
  | cons head rest ih =>
    obtain ⟨headKeeps, restClosed⟩ := List.pairwise_cons.mp closed
    by_cases kept : keep head = true
    · have all : rest.filter keep = rest :=
        List.filter_eq_self.mpr fun record member => headKeeps record member kept
      rw [List.filter_cons_of_pos kept, all]
    · rw [List.filter_cons_of_neg kept]
      exact (ih restClosed).trans (List.suffix_cons head rest)

end QuantaWatch.Lib.HashChain
