import Mathlib

/-!
Lists that are paired level by level, with an odd last element paired with itself.
-/

namespace QuantaWatch.Lib.Doubling

universe u v

variable {α : Type u} {β : Type v}

def pairs : List α → List (α × α)
  | [] => []
  | [last] => [(last, last)]
  | left :: right :: rest => (left, right) :: pairs rest

def unpair (values : List (α × α)) : List α := values.flatMap fun pair => [pair.1, pair.2]

def fill : Nat → {α : Type u} → List α → List α
  | 0, _, values => values
  | levels + 1, _, values => unpair (fill levels (pairs values))

@[simp] theorem fill_zero (values : List α) : fill 0 values = values := rfl

theorem fill_succ (levels : Nat) (values : List α) :
    fill (levels + 1) values = unpair (fill levels (pairs values)) := rfl

theorem pairs_map (change : α → β) (values : List α) :
    pairs (values.map change) = (pairs values).map (Prod.map change change) := by
  fun_induction pairs values with
  | case1 => rfl
  | case2 last => rfl
  | case3 left right rest ih =>
    rw [List.map_cons, List.map_cons, pairs, ih]
    rfl

theorem unpair_map (change : α → β) (values : List (α × α)) :
    unpair (values.map (Prod.map change change)) = (unpair values).map change := by
  simp [unpair, List.flatMap_map, List.map_flatMap]

theorem unpair_injective : Function.Injective (unpair : List (α × α) → List α) := by
  intro left right same
  induction left generalizing right with
  | nil =>
    cases right with
    | nil => rfl
    | cons pair rest => simp [unpair] at same
  | cons pair rest ih =>
    cases right with
    | nil => simp [unpair] at same
    | cons other others =>
      have parts : pair.1 = other.1 ∧ pair.2 = other.2 ∧ unpair rest = unpair others := by
        simpa [unpair] using same
      rw [Prod.ext parts.1 parts.2.1, ih parts.2.2]

theorem length_unpair (values : List (α × α)) : (unpair values).length = 2 * values.length := by
  induction values with
  | nil => rfl
  | cons pair rest ih =>
    have step : unpair (pair :: rest) = pair.1 :: pair.2 :: unpair rest := rfl
    rw [step, List.length_cons, List.length_cons, List.length_cons, ih]
    omega

theorem length_pairs (values : List α) : (pairs values).length = (values.length + 1) / 2 := by
  fun_induction pairs values with
  | case1 => simp
  | case2 last => simp
  | case3 left right rest ih =>
    rw [List.length_cons, List.length_cons, List.length_cons, ih]
    omega

variable {values left right : List α} {levels : Nat}

theorem mem_of_mem_pairs {pair : α × α} (member : pair ∈ pairs values) :
    pair.1 ∈ values ∧ pair.2 ∈ values := by
  fun_induction pairs values with
  | case1 => contradiction
  | case2 last =>
    rw [List.mem_singleton] at member
    simp [member]
  | case3 left right rest ih =>
    rcases List.mem_cons.mp member with rfl | later
    · simp
    · simp [ih later]

theorem fill_map {β : Type u} (change : α → β) (levels : Nat) (values : List α) :
    fill levels (values.map change) = (fill levels values).map change := by
  induction levels generalizing α β with
  | zero => rfl
  | succ levels ih =>
    rw [fill_succ, fill_succ, pairs_map, ih, unpair_map]

theorem mem_of_mem_fill {value : α} (member : value ∈ fill levels values) : value ∈ values := by
  induction levels generalizing α with
  | zero => exact member
  | succ levels ih =>
    obtain ⟨pair, isPair, isPart⟩ := List.mem_flatMap.mp member
    have parts := mem_of_mem_pairs (ih isPair)
    rcases List.mem_pair.mp isPart with rfl | rfl
    · exact parts.1
    · exact parts.2

theorem length_fill (nonempty : values ≠ []) (enough : values.length ≤ 2 ^ levels) :
    (fill levels values).length = 2 ^ levels := by
  induction levels generalizing α with
  | zero =>
    have positive := List.length_pos_of_ne_nil nonempty
    rw [fill_zero]
    omega
  | succ levels ih =>
    have positive := List.length_pos_of_ne_nil nonempty
    have half := length_pairs values
    rw [Nat.pow_succ] at enough ⊢
    have paired : pairs values ≠ [] := by
      intro empty
      rw [empty, List.length_nil] at half
      omega
    rw [fill_succ, length_unpair, ih paired (by omega)]
    omega

theorem pairs_inj_of_length (lengths : left.length = right.length)
    (same : pairs left = pairs right) : left = right := by
  fun_induction pairs left generalizing right with
  | case1 => exact (List.length_eq_zero_iff.mp lengths.symm).symm
  | case2 last =>
    match right, lengths with
    | [other], _ =>
      have pair := (List.cons.inj same).1
      rw [(Prod.mk.inj pair).1]
  | case3 first second rest ih =>
    match right, lengths with
    | other :: another :: others, lengths =>
      have parts := List.cons.inj same
      have pair := Prod.mk.inj parts.1
      rw [pair.1, pair.2, ih (by simpa using lengths) parts.2]

theorem pairs_inj_of_nodup (leftNodup : left.Nodup) (rightNodup : right.Nodup)
    (same : pairs left = pairs right) : left = right := by
  fun_induction pairs left generalizing right with
  | case1 =>
    match right with
    | [] => rfl
    | [other] => simp [pairs] at same
    | other :: another :: others => simp [pairs] at same
  | case2 last =>
    match right with
    | [] => simp [pairs] at same
    | [other] =>
      have pair := (List.cons.inj same).1
      rw [(Prod.mk.inj pair).1]
    | other :: another :: others =>
      have pair := Prod.mk.inj (List.cons.inj same).1
      simp [← pair.1, ← pair.2] at rightNodup
  | case3 first second rest ih =>
    match right with
    | [] => simp [pairs] at same
    | [other] =>
      have pair := Prod.mk.inj (List.cons.inj same).1
      simp [pair.1, pair.2] at leftNodup
    | other :: another :: others =>
      have parts := List.cons.inj same
      have pair := Prod.mk.inj parts.1
      have later := ih leftNodup.of_cons.of_cons rightNodup.of_cons.of_cons
        parts.2
      rw [pair.1, pair.2, later]

theorem nodup_pairs (nodup : values.Nodup) : (pairs values).Nodup := by
  fun_induction pairs values with
  | case1 => exact List.nodup_nil
  | case2 last => exact List.nodup_singleton _
  | case3 left right rest ih =>
    refine List.nodup_cons.mpr ⟨fun member => ?_, ih nodup.of_cons.of_cons⟩
    have later := (mem_of_mem_pairs member).1
    simp [later] at nodup

theorem fill_inj_of_length (lengths : left.length = right.length)
    (same : fill levels left = fill levels right) : left = right := by
  induction levels generalizing α with
  | zero => exact same
  | succ levels ih =>
    have paired := ih (by rw [length_pairs, length_pairs, lengths])
      (unpair_injective same)
    exact pairs_inj_of_length lengths paired

theorem fill_inj_of_nodup (leftNodup : left.Nodup) (rightNodup : right.Nodup)
    (same : fill levels left = fill levels right) : left = right := by
  induction levels generalizing α with
  | zero => exact same
  | succ levels ih =>
    have paired := ih (nodup_pairs leftNodup) (nodup_pairs rightNodup)
      (unpair_injective same)
    exact pairs_inj_of_nodup leftNodup rightNodup paired

end QuantaWatch.Lib.Doubling
