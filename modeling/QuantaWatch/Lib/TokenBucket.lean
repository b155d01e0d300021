import QuantaWatch.Lib.Transition

/-!
Token buckets with exact arithmetic, over any ordered field.
-/

namespace QuantaWatch.Lib.TokenBucket

open Lib.Transition

universe u v w

structure Limit (K : Type w) [Field K] [LinearOrder K] where
  refillPerSec : K
  burst : K
  refills : 0 < refillPerSec
  room : 1 ≤ burst

structure Bucket (K : Type w) where
  tokens : K
  last : K
deriving DecidableEq

variable {K : Type w} [Field K] [LinearOrder K]

namespace Limit

variable (limit : Limit K)

def idle : K := limit.burst / limit.refillPerSec

end Limit

namespace Bucket

variable (limit : Limit K) (bucket : Bucket K)

def since (last now : K) : K := max (now - last) 0

def refilled (now : K) : K :=
  min (bucket.tokens + since bucket.last now * limit.refillPerSec) limit.burst

def take (now : K) : Bool × Bucket K :=
  if 1 ≤ bucket.refilled limit now then (true, ⟨bucket.refilled limit now - 1, now⟩)
  else (false, ⟨bucket.refilled limit now, now⟩)

def full (now : K) : Bucket K := ⟨limit.burst, now⟩

end Bucket

def level (limit : Limit K) (bucket : Option (Bucket K)) (now : K) : K :=
  bucket.elim limit.burst fun bucket => bucket.refilled limit now

def taken (limit : Limit K) (bucket : Option (Bucket K)) (now : K) : K :=
  if 1 ≤ level limit bucket now then 1 else 0

variable {limit : Limit K} {bucket : Bucket K} {now early late : K}

namespace Bucket

theorem refilled_le_burst : bucket.refilled limit now ≤ limit.burst := min_le_right _ _

theorem refilled_full : (full limit now).refilled limit now = limit.burst := by
  simp [full, refilled, since]

theorem refilled_self {tokens : K} (fits : tokens ≤ limit.burst) :
    (⟨tokens, now⟩ : Bucket K).refilled limit now = tokens := by
  simp [refilled, since, fits]

theorem take_last : (bucket.take limit now).2.last = now := by
  unfold take
  split_ifs
  · rfl
  · rfl

theorem take_fst : (bucket.take limit now).1 = decide (1 ≤ bucket.refilled limit now) := by
  unfold take
  split_ifs with enough
  · exact (decide_eq_true enough).symm
  · exact (decide_eq_false enough).symm

end Bucket

variable {kept : Option (Bucket K)}

theorem level_le_burst : level limit kept now ≤ limit.burst := by
  cases kept with
  | none => exact le_rfl
  | some bucket => exact bucket.refilled_le_burst

section Laws

variable [IsStrictOrderedRing K]

namespace Bucket

theorem refilled_nonneg (solvent : 0 ≤ bucket.tokens) : 0 ≤ bucket.refilled limit now := by
  have elapsed : 0 ≤ since bucket.last now := le_max_right _ _
  have refill := mul_nonneg elapsed limit.refills.le
  have room := limit.room
  apply le_min
  · linarith
  · linarith

theorem refilled_le_add (ordered : early ≤ late) : bucket.refilled limit late ≤
      bucket.refilled limit early + limit.refillPerSec * (late - early) := by
  have elapsed : since bucket.last late ≤ since bucket.last early + (late - early) := by
    unfold since
    apply max_le
    · have kept := le_max_left (early - bucket.last) 0
      linarith
    · have kept := le_max_right (early - bucket.last) 0
      linarith
  have grown := mul_le_mul_of_nonneg_right elapsed limit.refills.le
  have waited := mul_nonneg limit.refills.le (sub_nonneg.mpr ordered)
  unfold refilled
  rw [min_add]
  apply le_min
  · apply (min_le_left _ _).trans
    linarith
  · apply (min_le_right _ _).trans
    linarith

theorem refilled_of_idle (solvent : 0 ≤ bucket.tokens) (idle : limit.idle ≤ now - bucket.last) :
    bucket.refilled limit now = limit.burst := by
  apply min_eq_right
  have elapsed : limit.idle ≤ since bucket.last now := idle.trans (le_max_left _ _)
  have refill := mul_le_mul_of_nonneg_right elapsed limit.refills.le
  rw [Limit.idle, div_mul_cancel₀ _ limit.refills.ne'] at refill
  linarith

theorem take_solvent (solvent : 0 ≤ bucket.tokens) : 0 ≤ (bucket.take limit now).2.tokens := by
  unfold take
  split_ifs with enough
  · exact sub_nonneg.mpr enough
  · exact refilled_nonneg solvent

theorem refilled_take : (bucket.take limit now).2.refilled limit now +
    taken limit (some bucket) now = bucket.refilled limit now := by
  have fits : bucket.refilled limit now ≤ limit.burst := refilled_le_burst
  have found : level limit (some bucket) now = bucket.refilled limit now := rfl
  unfold take taken
  rw [found]
  by_cases enough : 1 ≤ bucket.refilled limit now
  · rw [if_pos enough, if_pos enough, refilled_self (by linarith), sub_add_cancel]
  · rw [if_neg enough, if_neg enough, refilled_self fits, add_zero]

end Bucket

theorem level_nonneg (solvent : ∀ bucket ∈ kept, 0 ≤ bucket.tokens) : 0 ≤ level limit kept now := by
  cases kept with
  | none => exact zero_le_one.trans limit.room
  | some bucket => exact Bucket.refilled_nonneg (solvent bucket rfl)

theorem level_le_add (ordered : early ≤ late) :
    level limit kept late ≤ level limit kept early + limit.refillPerSec * (late - early) := by
  cases kept with
  | none =>
    have waited := mul_nonneg limit.refills.le (sub_nonneg.mpr ordered)
    have none (time : K) : level limit none time = limit.burst := rfl
    rw [none, none]
    linarith
  | some bucket => exact Bucket.refilled_le_add ordered

def spent {σ : Type u} {ε : Type v} (step : σ → ε → σ) (cost : σ → ε → K) (state : σ) : List ε → K
  | [] => 0
  | event :: events => cost state event + spent step cost (step state event) events

section Runs

variable {σ : Type u} {ε : Type v} {step : σ → ε → σ} {cost : σ → ε → K} {time : ε → K}
  {held : σ → K → K} {rate : K}

theorem spent_add_held_le (aging : ∀ state early late, early ≤ late →
      held state late ≤ held state early + rate * (late - early))
    {start final : σ} {events : List ε} {early late : K}
    (run : Run step (fun state event =>
      held (step state event) (time event) + cost state event ≤ held state (time event))
      start events final)
    (sorted : (events.map time).Pairwise (· ≤ ·)) (ordered : early ≤ late)
    (inside : ∀ event ∈ events, early ≤ time event ∧ time event ≤ late) :
    spent step cost start events + held final late ≤
      held start early + rate * (late - early) := by
  induction run generalizing early with
  | nil state =>
    rw [spent, zero_add]
    exact aging state early late ordered
  | @cons state final event events pays rest ih =>
    rw [List.map_cons, List.pairwise_cons] at sorted
    rcases inside event List.mem_cons_self with ⟨fromEarly, toLate⟩
    have waiting := aging state early (time event) fromEarly
    have later := ih sorted.2 toLate fun other member =>
      ⟨sorted.1 _ (List.mem_map_of_mem member), (inside other (List.mem_cons_of_mem _ member)).2⟩
    rw [spent]
    linarith

end Runs

end Laws

section Stretch

variable {ε : Type v} {τ : Type w} [LinearOrder τ] {time : ε → τ} {events : List ε}

theorem not_of_mem_dropWhile {test : ε → Bool}
    (closed : ∀ first second, time first ≤ time second → test second = true → test first = true)
    (sorted : (events.map time).Pairwise (· ≤ ·)) :
    ∀ event ∈ events.dropWhile test, test event = false := by
  induction events with
  | nil =>
    intro event member
    contradiction
  | cons first events ih =>
    rw [List.map_cons, List.pairwise_cons] at sorted
    by_cases passes : test first = true
    · rw [List.dropWhile_cons_of_pos passes]
      exact ih sorted.2
    · rw [List.dropWhile_cons_of_neg passes]
      intro event member
      rcases List.mem_cons.mp member with rfl | later
      · exact Bool.eq_false_iff.mpr passes
      · apply Bool.eq_false_iff.mpr
        intro holds
        exact passes (closed _ _ (sorted.1 _ (List.mem_map_of_mem later)) holds)

theorem exists_stretch (early late : τ) (sorted : (events.map time).Pairwise (· ≤ ·)) :
    ∃ before inside after, events = before ++ (inside ++ after) ∧
      (∀ event ∈ before, time event < early) ∧
      (∀ event ∈ inside, early ≤ time event ∧ time event ≤ late) ∧
      ∀ event ∈ after, late < time event := by
  let tooEarly : ε → Bool := fun event => time event < early
  let notLate : ε → Bool := fun event => time event ≤ late
  let rest := events.dropWhile tooEarly
  have restSorted : (rest.map time).Pairwise (· ≤ ·) :=
    sorted.sublist ((List.dropWhile_sublist _).map time)
  have fromEarly : ∀ event ∈ rest, tooEarly event = false := by
    apply not_of_mem_dropWhile _ sorted
    intro first second ordered holds
    exact decide_eq_true (ordered.trans_lt (of_decide_eq_true holds))
  have afterLate : ∀ event ∈ rest.dropWhile notLate, notLate event = false := by
    apply not_of_mem_dropWhile _ restSorted
    intro first second ordered holds
    exact decide_eq_true (ordered.trans (of_decide_eq_true holds))
  refine ⟨events.takeWhile tooEarly, rest.takeWhile notLate, rest.dropWhile notLate, ?_, ?_, ?_, ?_⟩
  · rw [List.takeWhile_append_dropWhile, List.takeWhile_append_dropWhile]
  · intro event member
    exact of_decide_eq_true (@List.mem_takeWhile_imp _ tooEarly _ _ member)
  · intro event member
    have inRest := (List.takeWhile_sublist _).subset member
    exact ⟨not_lt.mp (of_decide_eq_false (fromEarly event inRest)),
      of_decide_eq_true (@List.mem_takeWhile_imp _ notLate _ _ member)⟩
  · intro event member
    exact not_le.mp (of_decide_eq_false (afterLate event member))

end Stretch

end QuantaWatch.Lib.TokenBucket
