import Mathlib

/-!
Lists of items under keys, and the two ways to put an item that replaces the
one with its key.
-/

namespace QuantaWatch.Lib.KeyedList

universe u v

variable {α : Type u} {κ : Type v}

def Keyed (key : α → κ) (items : List α) : Prop := (items.map key).Nodup

section Put

variable [DecidableEq κ] (key : α → κ) (item : α) (items : List α)

def replace : List α := items.map fun old => if key old = key item then item else old

def putLast : List α := items.filter (fun old => key old ≠ key item) ++ [item]

def putInPlace : List α :=
  if items.any fun old => key old = key item then replace key item items else items ++ [item]

end Put

section

variable {key : α → κ} {item : α} {items left right : List α}

theorem Keyed.eq_of_key_eq {first second : α} (keyed : Keyed key items) (inFirst : first ∈ items)
    (inSecond : second ∈ items) (same : key first = key second) : first = second :=
  List.inj_on_of_nodup_map keyed inFirst inSecond same

theorem Keyed.perm (keyed : Keyed key left) (perm : left.Perm right) : Keyed key right :=
  (perm.map key).nodup_iff.mp keyed

theorem Keyed.sublist (keyed : Keyed key right) (sublist : left.Sublist right) : Keyed key left :=
  List.Nodup.sublist (sublist.map key) keyed

theorem Keyed.append (keyed : Keyed key items) (new : ∀ old ∈ items, key old ≠ key item) :
    Keyed key (items ++ [item]) := by
  rw [Keyed, List.map_append, List.map_singleton, List.nodup_append]
  refine ⟨keyed, List.nodup_singleton _, ?_⟩
  intro oldKey inOld other isOther
  rcases List.mem_map.mp inOld with ⟨old, member, rfl⟩
  rw [List.mem_singleton.mp isOther]
  exact new old member

theorem Keyed.eq_of_perm (keyed : Keyed key left) (perm : left.Perm right)
    (sameOrder : left.map key = right.map key) : left = right := by
  apply List.ext_getElem perm.length_eq
  intro index inLeft inRight
  apply keyed.eq_of_key_eq (List.getElem_mem inLeft) (perm.mem_iff.mpr (List.getElem_mem inRight))
  have sameKey := congrArg (fun keys => keys[index]?) sameOrder
  simpa [inLeft, inRight] using sameKey

end

section Find

variable [DecidableEq κ] {key : α → κ} {item : α} {items left right : List α} {wanted : κ}

theorem Keyed.find_eq_some (keyed : Keyed key items) (member : item ∈ items)
    (isKey : key item = wanted) : items.find? (fun old => key old = wanted) = some item := by
  cases found : items.find? (fun old => key old = wanted) with
  | none =>
    have absent := List.find?_eq_none.mp found item member
    simp [isKey] at absent
  | some other =>
    have otherKey : key other = wanted := by simpa using List.find?_some found
    rw [keyed.eq_of_key_eq (List.mem_of_find?_eq_some found) member (otherKey.trans isKey.symm)]

theorem Keyed.find_perm (keyed : Keyed key left) (perm : left.Perm right) :
    left.find? (fun old => key old = wanted) = right.find? fun old => key old = wanted := by
  cases found : right.find? (fun old => key old = wanted) with
  | none =>
    rw [List.find?_eq_none] at found ⊢
    exact fun old member => found old (perm.mem_iff.mp member)
  | some old =>
    have isKey : key old = wanted := by simpa using List.find?_some found
    exact keyed.find_eq_some (perm.mem_iff.mpr (List.mem_of_find?_eq_some found)) isKey

end Find

section

variable [DecidableEq κ] {key : α → κ} {item other : α} {items left right : List α} {wanted : κ}

theorem keys_replace : (replace key item items).map key = items.map key := by
  rw [replace, List.map_map]
  apply List.map_congr_left
  intro old _
  simp only [Function.comp_apply]
  split_ifs with isOld
  · exact isOld.symm
  · rfl

theorem keyed_replace (keyed : Keyed key items) : Keyed key (replace key item items) := by
  rwa [Keyed, keys_replace]

theorem not_any_iff : (¬ (items.any fun old => key old = key item) = true) ↔
      ∀ old ∈ items, key old ≠ key item := by
  simp

theorem keyed_putLast (keyed : Keyed key items) : Keyed key (putLast key item items) := by
  apply (keyed.sublist List.filter_sublist).append
  intro old member
  simpa using (List.mem_filter.mp member).2

theorem keyed_putInPlace (keyed : Keyed key items) : Keyed key (putInPlace key item items) := by
  rw [putInPlace]
  split_ifs with found
  · exact keyed_replace keyed
  · exact keyed.append (not_any_iff.mp found)

variable (differ : key item ≠ wanted)

include differ

theorem find_append_ne : (items ++ [item]).find? (fun old => key old = wanted) =
      items.find? fun old => key old = wanted := by
  simp [List.find?_append, differ]

theorem find_putLast_ne : (putLast key item items).find? (fun old => key old = wanted) =
      items.find? fun old => key old = wanted := by
  rw [putLast, find_append_ne differ, List.find?_filter]
  congr 1
  funext old
  by_cases isOld : key old = wanted
  · simp [isOld, Ne.symm differ]
  · simp [isOld]

theorem find_replace_ne : (replace key item items).find? (fun old => key old = wanted) =
      items.find? fun old => key old = wanted := by
  have same : ∀ old : α,
      decide (key (if key old = key item then item else old) = wanted) =
        decide (key old = wanted) := by
    intro old
    split_ifs with isOld
    · simp [isOld]
    · rfl
  rw [replace, List.find?_map]
  simp only [Function.comp_def, same]
  cases found : items.find? fun old => key old = wanted with
  | none => rfl
  | some old =>
    have isKey : key old = wanted := by simpa using List.find?_some found
    rw [Option.map_some, if_neg (isKey ▸ Ne.symm differ)]

theorem find_putInPlace_ne : (putInPlace key item items).find? (fun old => key old = wanted) =
      items.find? fun old => key old = wanted := by
  rw [putInPlace]
  split_ifs
  · exact find_replace_ne differ
  · exact find_append_ne differ

omit differ

theorem mem_putLast :
    other ∈ putLast key item items ↔ other = item ∨ other ∈ items ∧ key other ≠ key item := by
  rw [putLast, List.mem_append, List.mem_filter, List.mem_singleton, decide_eq_true_eq, or_comm]

theorem mem_putInPlace : other ∈ putInPlace key item items ↔
      other = item ∨ other ∈ items ∧ key other ≠ key item := by
  rw [putInPlace]
  split_ifs with found
  · rw [replace, List.mem_map]
    constructor
    · rintro ⟨old, isOld, rfl⟩
      split_ifs with same
      · exact .inl rfl
      · exact .inr ⟨isOld, same⟩
    · rintro (rfl | ⟨isOld, differ⟩)
      · rcases List.any_eq_true.mp found with ⟨old, member, same⟩
        exact ⟨old, member, if_pos (of_decide_eq_true same)⟩
      · exact ⟨other, isOld, if_neg differ⟩
  · rw [List.mem_append, List.mem_singleton, or_comm]
    refine or_congr Iff.rfl ⟨fun isOld => ⟨isOld, ?_⟩, And.left⟩
    exact not_any_iff.mp found other isOld

theorem Keyed.put_perm (keyed : Keyed key left) (perm : left.Perm right) :
    (putLast key item left).Perm (putInPlace key item right) := by
  apply (List.perm_ext_iff_of_nodup _ _).mpr
  · intro other
    rw [mem_putLast, mem_putInPlace, perm.mem_iff]
  · exact List.Nodup.of_map key (keyed_putLast keyed)
  · exact List.Nodup.of_map key (keyed_putInPlace (keyed.perm perm))

end

section Order

variable [DecidableEq κ] {key : α → κ} {item : α} {items : List α}

def moveLast (keys : List κ) (new : κ) : List κ := keys.filter (· ≠ new) ++ [new]

def keepPlace (keys : List κ) (new : κ) : List κ := if new ∈ keys then keys else keys ++ [new]

theorem keys_putLast : (putLast key item items).map key = moveLast (items.map key) (key item) := by
  rw [putLast, List.map_append, moveLast, List.filter_map]
  rfl

theorem keys_putInPlace :
    (putInPlace key item items).map key = keepPlace (items.map key) (key item) := by
  have found : (items.any fun old => key old = key item) = true ↔
      key item ∈ items.map key := by
    rw [List.any_eq_true, List.mem_map]
    simp
  rw [putInPlace, keepPlace]
  simp only [found]
  split_ifs
  · exact keys_replace
  · rw [List.map_append, List.map_singleton]

end Order

structure Linear (le : κ → κ → Bool) : Prop where
  total : ∀ first second, le first second = true ∨ le second first = true
  trans : ∀ first second third, le first second = true → le second third = true →
    le first third = true
  antisymm : ∀ first second, le first second = true → le second first = true → first = second

theorem Linear.flip {le : κ → κ → Bool} (linear : Linear le) :
    Linear fun first second => le second first where
  total first second := linear.total second first
  trans _ _ _ before after := linear.trans _ _ _ after before
  antisymm _ _ before after := linear.antisymm _ _ after before

section Sorting

variable {key : α → κ} {left right : List α} {le : κ → κ → Bool}

theorem sorted_keys (linear : Linear le) (items : List α) :
    ((items.insertionSort fun first second => le (key first) (key second) = true).map key).Pairwise
      fun first second => le first second = true := by
  have total : Std.Total fun first second : α => le (key first) (key second) = true :=
    ⟨fun first second => linear.total (key first) (key second)⟩
  have trans : IsTrans α fun first second => le (key first) (key second) = true :=
    ⟨fun _ _ _ before after => linear.trans _ _ _ before after⟩
  rw [List.pairwise_map]
  exact List.pairwise_insertionSort _ items

theorem Keyed.insertionSort_eq (linear : Linear le) (keyed : Keyed key left)
    (perm : left.Perm right) :
    left.insertionSort (fun first second => le (key first) (key second) = true) =
      right.insertionSort fun first second => le (key first) (key second) = true := by
  have leftPerm := List.perm_insertionSort
    (fun first second => le (key first) (key second) = true) left
  have rightPerm := List.perm_insertionSort
    (fun first second => le (key first) (key second) = true) right
  have sortedPerm := leftPerm.trans (perm.trans rightPerm.symm)
  apply (keyed.perm leftPerm.symm).eq_of_perm sortedPerm
  exact (sortedPerm.map key).eq_of_pairwise (fun _ _ _ _ => linear.antisymm _ _)
    (sorted_keys linear left) (sorted_keys linear right)

end Sorting

end QuantaWatch.Lib.KeyedList
